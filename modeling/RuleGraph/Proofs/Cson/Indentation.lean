import Mathlib
import RuleGraph.Proofs.Cson.LineEnds.Tokens
import RuleGraph.Proofs.Cson.Placement

namespace RuleGraph.Cson

open RuleGraph.Text

def Lexeme.moveColumn (f : Nat → Nat) (x : Lexeme) : Lexeme :=
  { x with place.column := f x.place.column }

/-- The same tokens, with any number of line ends added directly behind those that are there. -/
inductive MoreNewlines : List Lexeme → List Lexeme → Prop where
  | nil : MoreNewlines [] []
  | cons (x : Lexeme) {ts ts' : List Lexeme} (h : MoreNewlines ts ts') :
      MoreNewlines (x :: ts) (x :: ts')
  | newlines {x : Lexeme} {more ts ts' : List Lexeme} (hline : x.token = .newline)
      (hmore : Newlines more) (h : MoreNewlines ts ts') :
      MoreNewlines (x :: ts) (x :: (more ++ ts'))

/-- The source with `n` spaces at the start of every line. -/
def indented (n : Nat) (source : List Char) : List Char :=
  ['\n'].intercalate ((lines source).map (spaces n ++ ·))

/-- The source has a literal in the given quotes, with the given text between them. -/
def HasLiteral (source : List Char) (delimiter : Delimiter) (raw : List Char) : Prop :=
  ∃ s, LexesTo source s ∧ StartsLiteral s delimiter raw

theorem Lexeme.Moved.refl (x : Lexeme) : x.Moved id Eq x :=
  ⟨rfl, rfl, rfl⟩

namespace Relaid

/-- Tokens that move with their columns, with no line end added, are laid out anew. -/
theorem of_forall₂ {f : Nat → Nat} {near : Nat → Nat → Prop} {ts ts' : List Lexeme}
    (h : List.Forall₂ (Lexeme.Moved f near) ts ts') : Relaid f near ts ts' := by
  induction h with
  | nil => exact .nil
  | cons hx _ ih => exact .cons hx ih

/-- Columns can be moved by any function that keeps their order. -/
theorem map_moveColumn (f : Nat → Nat) (ts : List Lexeme) :
    Relaid f Eq ts (ts.map (Lexeme.moveColumn f)) := by
  induction ts with
  | nil => exact .nil
  | cons x ts ih => exact .cons ⟨rfl, rfl, rfl⟩ ih

/-- Line ends can be added to a run of them. -/
theorem of_moreNewlines {ts ts' : List Lexeme} (h : MoreNewlines ts ts') : Relaid id Eq ts ts' := by
  induction h with
  | nil => exact .nil
  | cons x _ ih => exact .cons (.refl x) ih
  | newlines hline hmore _ ih => exact .newlines (.refl _) hline hmore ih

/-- Where no token has another offset, the errors are the same as well. -/
theorem documentOfTokens_eq {f : Nat → Nat} (hf : StrictMono f) {ts ts' : List Lexeme}
    (h : Relaid f Eq ts ts') (size : Nat) :
    Cson.documentOfTokens size ts' = Cson.documentOfTokens size ts := by
  obtain ⟨v, hv, hv'⟩ | ⟨e, e', he, he', hmoved⟩ := h.documentOfTokens hf (rfl : size = size)
  · rw [hv, hv']
  · obtain ⟨cause, offset⟩ := e
    obtain ⟨rfl, rfl⟩ := hmoved
    rw [he, he']

/-- Whether there is a document does not hang on the offsets. -/
theorem agree_documentOfTokens {f : Nat → Nat} (hf : StrictMono f) {ts ts' : List Lexeme}
    (h : Relaid f (fun _ _ => True) ts ts') (size size' : Nat) :
    Agree Eq (Cson.documentOfTokens size ts) (Cson.documentOfTokens size' ts') := by
  have hsize : (fun _ _ => True : Nat → Nat → Prop) size size' := trivial
  obtain ⟨v, hv, hv'⟩ | ⟨e, e', he, he', -⟩ := h.documentOfTokens hf hsize
  · rw [hv, hv']
    exact .ok rfl
  · rw [he, he']
    exact .error e e'

end Relaid

/-- A line feed with the spaces of the next line. -/
def indentedEnding (n : Nat) : LineEnding where
  before := []
  after := spaces n
  before_blank := isSpace_of_mem_nil
  after_blank _ hc := by
    rw [List.eq_of_mem_replicate hc]
    rfl

/-- To indent a source is to put spaces in front of it and behind each of its line ends. -/
theorem indented_eq (n : Nat) (source : List Char) :
    indented n source = spaces n ++ (indentedEnding n).relined source := by
  induction source with
  | nil => simp [indented, lines, List.intercalate]
  | cons c source ih =>
    obtain ⟨line, later, hlines⟩ := List.exists_cons_of_ne_nil (lines_ne_nil source)
    by_cases hc : c = '\n'
    · have hall : lines (c :: source) = [] :: line :: later := by rw [lines, if_pos hc, hlines]
      rw [indented, hlines] at ih
      rw [indented, hall, hc, List.map_cons, List.map_cons, List.intercalate_cons_cons, ← List.map_cons,
        ih, LineEnding.relined_newline]
      simp [indentedEnding]
    · have hall : lines (c :: source) = (c :: line) :: later := by rw [lines, if_neg hc, hlines]
      rw [indented, hlines] at ih
      rw [indented, hall, LineEnding.relined_cons _ hc]
      cases later with
      | nil => simpa [List.intercalate] using ih
      | cons second later =>
        rw [List.map_cons, List.map_cons, List.intercalate_cons_cons] at ih ⊢
        simpa using ih

/-- Without literals over several lines, indenting moves all tokens by the same number of columns. -/
theorem tokensFrom_indented {source : List Char}
    (hplain : ∀ delimiter raw, HasLiteral source delimiter raw → '\n' ∉ raw) (n : Nat) :
    Agree (List.Forall₂ (Lexeme.Moved (· + n) fun _ _ => True)) (tokensFrom {} source)
      (tokensFrom {} (indented n source)) := by
  have hlength : (indentedEnding n).after.length = n := List.length_replicate
  have hcolumn : (Place.advance {} (spaces n)).column =
      (Place.column {}) + (indentedEnding n).after.length := by
    rw [Place.column_advance_spaces, hlength]
  have htokens := (indentedEnding n).tokensFrom_relined (.start : LexesTo source source) hcolumn
  have hmoved (x y : Lexeme) (h : (indentedEnding n).Relines (fun text text' =>
      ∃ s, LexesTo source s ∧ (indentedEnding n).Retold s text text') x y) :
      x.Moved (· + n) (fun _ _ => True) y := by
    refine ⟨h.token.eq ?_, ?_, trivial⟩
    · rintro _ _ ⟨s, hs, delimiter, raw, hliteral, rfl, rfl⟩
      rw [LineEnding.relined_of_not_mem _ (hplain delimiter raw ⟨s, hs, hliteral⟩)]
    · rw [h.column, hlength]
      split <;> rfl
  rw [indented_eq, tokensFrom_spaces]
  exact htokens.mono fun ts ts' h => h.imp hmoved

/-- A source without literals over several lines keeps its document when it is indented as a whole,
    and what was refused stays refused. -/
theorem agree_parse_indented {source : String}
    (hplain : ∀ delimiter raw, HasLiteral source.toList delimiter raw → '\n' ∉ raw) (n : Nat) :
    Agree Eq (parse source) (parse (String.ofList (indented n source.toList))) := by
  have hmono : StrictMono (· + n) := fun _ _ h => Nat.add_lt_add_right h n
  exact agree_parse (tokensFrom_indented hplain n) fun _ _ size size' hts =>
    (Relaid.of_forall₂ hts).agree_documentOfTokens hmono size size'

/-- Layout does not count: a list of tokens gives the same document or the same error when its columns
    are moved without changing their order, and when line ends are added to those that are there. A
    source where no literal runs over several lines keeps its document when it is indented. -/
theorem parse_layout :
    (∀ size ts f, StrictMono f →
      documentOfTokens size (ts.map (Lexeme.moveColumn f)) = documentOfTokens size ts) ∧
    (∀ size ts ts', MoreNewlines ts ts' →
      documentOfTokens size ts' = documentOfTokens size ts) ∧
    ∀ (source : String) (n : Nat),
      (∀ delimiter raw, HasLiteral source.toList delimiter raw → '\n' ∉ raw) →
      ∀ d, parse (String.ofList (indented n source.toList)) = .ok d ↔ parse source = .ok d := by
  refine ⟨fun size ts f hf => ?_, fun size ts ts' hmore => ?_, fun source n hplain d => ?_⟩
  · exact (Relaid.map_moveColumn f ts).documentOfTokens_eq hf size
  · exact (Relaid.of_moreNewlines hmore).documentOfTokens_eq strictMono_id size
  · have hagree := agree_parse_indented hplain n
    constructor
    · intro hread
      obtain ⟨d', hd', rfl⟩ := hagree.exists_left hread
      exact hd'
    · intro hread
      obtain ⟨d', hd', rfl⟩ := hagree.exists_right hread
      exact hd'

def nestedSource : List Char :=
  ['a', ':', '\n', ' ', 'b', ':', ' ', '\'', 'x', '\'']

/-- The lexer comes by these places of the source and by no others. -/
theorem mem_of_lexesTo_nestedSource {s : List Char} (h : LexesTo nestedSource s) :
    s ∈ [0, 1, 2, 3, 4, 5, 6, 7, 10].map nestedSource.drop := by
  induction h with
  | start => exact List.mem_cons_self
  | step h hstep ih =>
    simp only [List.map_cons, List.map_nil, List.mem_cons, List.not_mem_nil, or_false] at ih
    obtain rfl | rfl | rfl | rfl | rfl | rfl | rfl | rfl | rfl := ih <;> cases hstep
    all_goals decide

theorem not_mem_literal_nestedSource (delimiter : Delimiter) (raw : List Char)
    (h : HasLiteral nestedSource delimiter raw) : '\n' ∉ raw := by
  obtain ⟨s, hs, r, rest, hopen, hbody⟩ := h
  have hmem := mem_of_lexesTo_nestedSource hs
  simp only [List.map_cons, List.map_nil, List.mem_cons, List.not_mem_nil, or_false] at hmem
  obtain rfl | rfl | rfl | rfl | rfl | rfl | rfl | rfl | rfl := hmem <;> cases hopen
  cases hbody
  decide

/-- An object within an object, indented by two spaces, with its columns doubled, and with an empty
    line in it. -/
theorem parse_layout_nested :
    let key : Lexeme := ⟨.word "a", ⟨0, 0⟩⟩
    let colon : Lexeme := ⟨.colon, ⟨1, 1⟩⟩
    let line : Lexeme := ⟨.newline, ⟨2, 2⟩⟩
    let value : Lexeme := ⟨.word "null", ⟨4, 1⟩⟩
    documentOfTokens 8 [key, colon, line, value] = .ok (.object [("a", .null)]) ∧
      documentOfTokens 8 [key, ⟨.colon, ⟨1, 2⟩⟩, ⟨.newline, ⟨2, 4⟩⟩, ⟨.word "null", ⟨4, 2⟩⟩] =
        .ok (.object [("a", .null)]) ∧
      documentOfTokens 8 [key, colon, line, ⟨.newline, ⟨3, 0⟩⟩, value] =
        .ok (.object [("a", .null)]) ∧
      parse "  a:\n   b: 'x'" = .ok (.object [("a", .object [("b", .string "x")])]) := by
  intro key colon line value
  have hread : documentOfTokens 8 [key, colon, line, value] = .ok (.object [("a", .null)]) := by cbv
  have hdouble : StrictMono (2 * · : Nat → Nat) := fun m n h => by dsimp only; omega
  have hmore : MoreNewlines [key, colon, line, value] [key, colon, line, ⟨.newline, ⟨3, 0⟩⟩, value] :=
    .cons key (.cons colon (.newlines rfl (List.forall_mem_singleton.2 rfl) (.cons value .nil)))
  have hplain : ∀ delimiter raw, HasLiteral "a:\n b: 'x'".toList delimiter raw → '\n' ∉ raw :=
    not_mem_literal_nestedSource
  have hnested : parse "a:\n b: 'x'" = .ok (.object [("a", .object [("b", .string "x")])]) := by cbv
  refine ⟨hread, ?_, ?_, ?_⟩
  · exact (parse_layout.1 8 [key, colon, line, value] (2 * ·) hdouble).trans hread
  · exact (parse_layout.2.1 8 _ _ hmore).trans hread
  · exact (parse_layout.2.2 _ 2 hplain _).2 hnested

end RuleGraph.Cson
