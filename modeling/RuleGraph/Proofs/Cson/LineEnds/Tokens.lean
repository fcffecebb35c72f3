import RuleGraph.Proofs.Cson.Likeness
import RuleGraph.Proofs.Cson.LineEnds.Steps

namespace RuleGraph.Cson

open RuleGraph.Text

/-- The lexer comes to a point of the source. -/
inductive LexesTo (source : List Char) : List Char → Prop where
  | start : LexesTo source source
  | step {s taken rest : List Char} {token? : Option Token} (h : LexesTo source s)
      (hstep : step (lex? s) = some (token?, taken, rest)) : LexesTo source rest

/-- A literal starts here, with the given text between its quotes. -/
def StartsLiteral (s : List Char) (delimiter : Delimiter) (raw : List Char) : Prop :=
  ∃ r rest, openingQuotes? s = some (delimiter, r) ∧
    literalBody delimiter.text r = some (raw, rest)

theorem Place.column_advance_blanks {s : List Char} (h : ∀ c ∈ s, isSpace c = true)
    (place : Place) : (place.advance s).column = place.column + s.length := by
  induction s generalizing place with
  | nil => rfl
  | cons c s ih =>
    have hnext : (place.next c).column = place.column + 1 := by
      have hc := h c (by simp)
      simp only [isSpace, Bool.or_eq_true, decide_eq_true_eq] at hc
      obtain (rfl | rfl) | rfl := hc <;> rfl
    rw [Place.advance_cons, ih fun d hd => h d (List.mem_cons_of_mem c hd), hnext, List.length_cons]
    omega

/-- A comment that is no block takes its line, without the line end. -/
theorem step_lex?_lineComment {r : List Char} (h : step (blockComment? ('#' :: r)) = none) :
    step (lex? ('#' :: r)) =
      some (none, '#' :: r.takeWhile (· ≠ '\n'), r.dropWhile (· ≠ '\n')) := by
  rw [step_lex?, h]
  rfl

/-- A line comment runs up to the end of its line, whatever stands behind that end. -/
theorem tokensFrom_lineComment {r : List Char} (h : step (blockComment? ('#' :: r)) = none)
    (place : Place) :
    tokensFrom place ('#' :: r) =
      tokensFrom (place.advance ('#' :: r.takeWhile (· ≠ '\n'))) (r.dropWhile (· ≠ '\n')) := by
  rw [tokensFrom_eq_of_step (step_lex?_lineComment h)]
  exact map_nil_append _

/-- How the rest of a source begins. -/
inductive Front : List Char → Prop where
  | newline (s : List Char) : Front ('\n' :: s)
  | blank {c : Char} (h : isSpace c = true) (s : List Char) : Front (c :: s)
  | comment (s : List Char) : Front ('#' :: s)
  | quotes {s r : List Char} {delimiter : Delimiter}
      (h : openingQuotes? s = some (delimiter, r)) : Front s
  | plain {c : Char} (hline : c ≠ '\n')
      (h : c ≠ '#' ∧ isSpace c = false ∧ c ≠ '\'' ∧ c ≠ '"') (s : List Char) : Front (c :: s)

theorem front_cons (c : Char) (s : List Char) : Front (c :: s) := by
  by_cases hline : c = '\n'
  · exact hline ▸ .newline s
  by_cases hmark : c = '#'
  · exact hmark ▸ .comment s
  cases hspace : isSpace c with
  | true => exact .blank hspace s
  | false =>
    cases hopen : openingQuotes? (c :: s) with
    | some found => exact .quotes hopen
    | none =>
      refine .plain hline ⟨hmark, hspace, ?_, ?_⟩ s <;>
        · rintro rfl
          unfold openingQuotes? at hopen
          split at hopen <;> simp_all

/-- Only a line feed makes the token of a line end. -/
theorem token?_ne_newline {c : Char} (hline : c ≠ '\n')
    (hplain : c ≠ '#' ∧ isSpace c = false ∧ c ≠ '\'' ∧ c ≠ '"') {s taken rest : List Char}
    {token? : Option Token} (h : step (lex? (c :: s)) = some (token?, taken, rest)) :
    token? ≠ some .newline := by
  rintro rfl
  rw [step_lex?_of_plain _ hplain, Option.or_eq_some_iff, Option.or_eq_some_iff] at h
  obtain hnumber | ⟨-, hword | ⟨-, hpunctuation⟩⟩ := h
  · rw [step_number?] at hnumber
    dsimp only at hnumber
    split at hnumber <;> simp at hnumber
  · rw [step_word?] at hword
    split at hword <;> simp at hword
  · rw [step_punctuation?] at hpunctuation
    unfold punctuation at hpunctuation
    split at hpunctuation <;> simp_all

theorem Agree.map_append {related : Lexeme → Lexeme → Prop} {ts ts' : List Lexeme}
    {x y : Except Error (List Lexeme)} (hts : List.Forall₂ related ts ts')
    (h : Agree (List.Forall₂ related) x y) :
    Agree (List.Forall₂ related) (x.map (ts ++ ·)) (y.map (ts' ++ ·)) := by
  cases h with
  | ok hlater => exact .ok (List.rel_append hts hlater)
  | error e e' => exact .error e e'

namespace LineEnding

variable (ending : LineEnding)

/-- Two texts of the literal that starts here. -/
def Retold (s : List Char) (text text' : String) : Prop :=
  ∃ delimiter raw, StartsLiteral s delimiter raw ∧ text = literalText delimiter raw ∧
    text' = literalText delimiter (ending.relined raw)

/-- What becomes of a token: strings may change as told, and the token moves. -/
structure Relines (same : String → String → Prop) (x y : Lexeme) : Prop where
  token : x.token.Like same y.token
  column : y.place.column = x.place.column + ending.after.length +
    if x.token = .newline then ending.before.length else 0

/-- On every line the columns are moved by the blanks at its start. -/
theorem column_advance_relined {p q : Place} (h : q.column = p.column + ending.after.length)
    (s : List Char) :
    (q.advance (ending.relined s)).column = (p.advance s).column + ending.after.length := by
  induction s generalizing p q with
  | nil => exact h
  | cons c s ih =>
    by_cases hc : c = '\n'
    · subst hc
      have hline (place : Place) : (place.next '\n').column = 0 := rfl
      rw [relined_newline, Place.advance_append, Place.advance_cons, Place.advance_append,
        Place.advance_cons]
      apply ih
      rw [Place.column_advance_blanks ending.after_blank, hline, hline]
    · rw [relined_cons ending hc]
      apply ih
      simp only [Place.next, hc, if_false]
      omega

/-- If no token starts here, none starts with the other line ends either. -/
theorem step_lex?_relined_eq_none {s : List Char} (h : step (lex? s) = none) :
    step (lex? (ending.relined s)) = none := by
  cases s with
  | nil => exact h
  | cons c s =>
    cases front_cons c s with
    | newline => cases h
    | blank hblank =>
      rw [step_lex?_of_isSpace hblank] at h
      cases h
    | comment =>
      rw [step_lex?] at h
      simp [lineComment?, step] at h
    | quotes hopen =>
      rw [step_lex?_of_openingQuotes? hopen, Option.map_eq_none_iff] at h
      rw [step_lex?_of_openingQuotes? (ending.openingQuotes?_relined_of_eq hopen),
        literalBody_relined, h]
      rfl
    | plain hline hplain =>
      rw [step_lex?_relined_of_plain ending hline hplain, h]
      rfl

/-- The blanks in front of a line end belong to the comment that ends there. -/
theorem tokensFrom_lineComment_relined {s : List Char}
    (h : step (blockComment? ('#' :: s)) = none) (place : Place) :
    tokensFrom place (ending.relined ('#' :: s)) =
      tokensFrom (place.advance (ending.relined ('#' :: s.takeWhile (· ≠ '\n'))))
        (ending.relined (s.dropWhile (· ≠ '\n'))) := by
  have hblock : step (blockComment? ('#' :: ending.relined s)) = none := by
    rw [← relined_cons ending (by decide), step_blockComment?_relined, h]
    rfl
  have hbody : '\n' ∉ s.takeWhile (· ≠ '\n') := not_mem_takeWhile (by simp) s
  have hs : ending.relined s =
      s.takeWhile (· ≠ '\n') ++ ending.relined (s.dropWhile (· ≠ '\n')) := by
    rw [← ending.relined_of_not_mem hbody, ← relined_append, List.takeWhile_append_dropWhile]
  have hplain : ∀ c ∈ s.takeWhile (· ≠ '\n'), decide (c ≠ '\n') = true :=
    fun c hc => by simpa using List.mem_takeWhile_imp hc
  rw [relined_cons ending (by decide), tokensFrom_lineComment hblock, relined_cons ending (by decide),
    relined_of_not_mem ending hbody, hs]
  cases hrest : s.dropWhile (· ≠ '\n') with
  | nil =>
    have hstop : ∀ c ∈ ([] : List Char).head?, decide (c ≠ '\n') = false := by simp
    obtain ⟨htake, hdrop⟩ := takeWhile_run hplain hstop
    rw [relined_nil, htake, hdrop]
  | cons c rest =>
    have hc : c = '\n' := by
      have hsome : s.dropWhile (· ≠ '\n') ≠ [] := by
        rw [hrest]
        exact List.cons_ne_nil c rest
      have hfirst := List.head_dropWhile_not (· ≠ '\n') hsome
      simp only [hrest, List.head_cons] at hfirst
      simpa using hfirst
    subst hc
    have hrun : ∀ c ∈ s.takeWhile (· ≠ '\n') ++ ending.before, decide (c ≠ '\n') = true := by
      intro c hc
      rcases List.mem_append.1 hc with hc | hc
      · exact hplain c hc
      · rw [decide_eq_true_iff]
        rintro rfl
        exact absurd (ending.before_blank _ hc) (by decide)
    have hstop : ∀ c ∈ ('\n' :: (ending.after ++ ending.relined rest)).head?,
        decide (c ≠ '\n') = false := by simp
    obtain ⟨htake, hdrop⟩ := takeWhile_run hrun hstop
    rw [List.append_assoc] at htake hdrop
    rw [relined_newline, htake, hdrop, tokensFrom_blanks ending.before_blank, ← List.cons_append,
      Place.advance_append]

/-- The tokens of the text with the other line ends are those that go with the step, and then come
    those of what the step leaves. -/
def KeepsStep (s : List Char) (token? : Option Token) (taken rest : List Char) : Prop :=
  ∀ {p q : Place}, q.column = p.column + ending.after.length →
    ∃ ts, List.Forall₂ (ending.Relines (ending.Retold s)) (lexemeAt p token?) ts ∧
      tokensFrom q (ending.relined s) =
        (tokensFrom (q.advance (ending.relined taken)) (ending.relined rest)).map (ts ++ ·)

/-- A token that is no line end moves with its line. -/
theorem relines_lexemeAt {same : String → String → Prop} {p q : Place}
    (h : q.column = p.column + ending.after.length) {token token' : Token}
    (hlike : token.Like same token') (hline : token ≠ .newline) :
    List.Forall₂ (ending.Relines same) (lexemeAt p (some token)) (lexemeAt q (some token')) :=
  .cons ⟨hlike, by rw [if_neg hline, h, Nat.add_zero]⟩ .nil

/-- A step that is made with the other line ends as it was made before. -/
theorem keepsStep_of_step {s taken rest : List Char} {token? : Option Token}
    (hline : token? ≠ some .newline)
    (h : step (lex? (ending.relined s)) =
      some (token?, ending.relined taken, ending.relined rest)) :
    ending.KeepsStep s token? taken rest := by
  intro p q hcolumn
  refine ⟨_, ?_, tokensFrom_eq_of_step h _⟩
  cases token? with
  | none => exact .nil
  | some token =>
    exact ending.relines_lexemeAt hcolumn (.refl token) fun heq => hline (heq ▸ rfl)

/-- Behind a line end the blanks of the next line are left over for the next step. -/
theorem keepsStep_newline (s : List Char) :
    ending.KeepsStep ('\n' :: s) (some .newline) ['\n'] s := by
  intro p q hcolumn
  let place := q.advance ending.before
  refine ⟨[⟨.newline, place⟩], .cons ⟨.refl _, ?_⟩ .nil, ?_⟩
  · rw [if_pos rfl, Place.column_advance_blanks ending.before_blank, hcolumn]
  · have hline := closed_punctuation (c := '\n') rfl place (ending.after ++ ending.relined s)
    rw [List.singleton_append] at hline
    rw [relined_newline, relined_newline, tokensFrom_blanks ending.before_blank, hline,
      tokensFrom_blanks ending.after_blank, relined_nil, List.append_nil, Place.advance_append,
      Place.advance_cons]
    rfl

/-- A run of blanks at the end of a line may become longer. -/
theorem keepsStep_blanks {c : Char} (h : isSpace c = true) (s : List Char) :
    ending.KeepsStep (c :: s) none (c :: s.takeWhile isSpace) (s.dropWhile isSpace) := by
  intro p q _
  have hrun : ∀ d ∈ c :: s.takeWhile isSpace, isSpace d = true := by
    intro d hd
    rcases List.mem_cons.1 hd with rfl | hd
    · exact h
    · exact List.mem_takeWhile_imp hd
  have hmem : '\n' ∉ c :: s.takeWhile isSpace := fun hline => absurd (hrun _ hline) (by decide)
  have hs : ending.relined (c :: s) =
      c :: s.takeWhile isSpace ++ ending.relined (s.dropWhile isSpace) := by
    rw [← ending.relined_of_not_mem hmem, ← relined_append, List.cons_append,
      List.takeWhile_append_dropWhile]
  refine ⟨[], .nil, ?_⟩
  rw [hs, tokensFrom_blanks hrun, relined_of_not_mem ending hmem, map_nil_append]

/-- A comment takes the blanks in front of the line end along. -/
theorem keepsStep_comment {s taken rest : List Char} {token? : Option Token}
    (hstep : step (lex? ('#' :: s)) = some (token?, taken, rest)) :
    ending.KeepsStep ('#' :: s) token? taken rest := by
  rw [step_lex?] at hstep
  cases hblock : step (blockComment? ('#' :: s)) with
  | some found =>
    have hnone : found.1 = none := token?_of_blockComment hblock
    rw [hblock, Option.some_or, Option.some.injEq] at hstep
    subst hstep
    apply ending.keepsStep_of_step (by simp_all)
    rw [step_lex?, step_blockComment?_relined, hblock]
    rfl
  | none =>
    rw [hblock] at hstep
    obtain ⟨rfl, rfl, rfl⟩ := hstep
    intro p q _
    refine ⟨[], .nil, ?_⟩
    rw [tokensFrom_lineComment_relined ending hblock, map_nil_append]

/-- A literal is taken up to the same quotes, but its text may change. -/
theorem keepsStep_quotes {s r raw rest : List Char} {delimiter : Delimiter}
    (hopen : openingQuotes? s = some (delimiter, r))
    (hbody : literalBody delimiter.text r = some (raw, rest)) :
    ending.KeepsStep s (some (.string (literalText delimiter raw)))
      (delimiter.text ++ raw ++ delimiter.text) rest := by
  intro p q hcolumn
  have hquotes : ending.relined delimiter.text = delimiter.text :=
    ending.relined_of_not_mem delimiter.not_mem_text.1
  have hstep : step (lex? (ending.relined s)) =
      some (some (.string (literalText delimiter (ending.relined raw))),
        ending.relined (delimiter.text ++ raw ++ delimiter.text), ending.relined rest) := by
    rw [step_lex?_of_openingQuotes? (ending.openingQuotes?_relined_of_eq hopen),
      literalBody_relined, hbody]
    simp only [Option.map_some, relined_append, hquotes]
  refine ⟨_, ?_, tokensFrom_eq_of_step hstep q⟩
  apply ending.relines_lexemeAt hcolumn _ (by simp)
  exact .string ⟨delimiter, raw, ⟨r, rest, hopen, hbody⟩, rfl, rfl⟩

/-- Each step of the lexer takes the same piece as before, or leaves blanks over that the next step
    skips. -/
theorem keepsStep {s taken rest : List Char} {token? : Option Token}
    (hstep : step (lex? s) = some (token?, taken, rest)) :
    ending.KeepsStep s token? taken rest := by
  cases s with
  | nil => cases hstep
  | cons c s =>
    cases front_cons c s with
    | newline =>
      rw [step_lex?_of_punctuation rfl] at hstep
      obtain ⟨rfl, rfl, rfl⟩ := hstep
      exact ending.keepsStep_newline _
    | blank hblank =>
      rw [step_lex?_of_isSpace hblank] at hstep
      obtain ⟨rfl, rfl, rfl⟩ := hstep
      exact ending.keepsStep_blanks hblank _
    | comment => exact ending.keepsStep_comment hstep
    | quotes hopen =>
      rw [step_lex?_of_openingQuotes? hopen] at hstep
      obtain ⟨⟨raw, rest'⟩, hbody, heq⟩ := Option.map_eq_some_iff.1 hstep
      obtain ⟨rfl, rfl, rfl⟩ := heq
      exact ending.keepsStep_quotes hopen hbody
    | plain hline hplain =>
      apply ending.keepsStep_of_step (token?_ne_newline hline hplain hstep)
      rw [step_lex?_relined_of_plain ending hline hplain, hstep]
      rfl

/-- From a point that the lexer comes to, it finds the same tokens moved, or an error both times.
    Strings that run over several lines may change, and columns move as far as the blanks at the
    starts of the lines move them. -/
theorem tokensFrom_relined {source s : List Char} (hs : LexesTo source s) {p q : Place}
    (hcolumn : q.column = p.column + ending.after.length) :
    Agree (List.Forall₂ (ending.Relines fun text text' =>
        ∃ s, LexesTo source s ∧ ending.Retold s text text'))
      (tokensFrom p s) (tokensFrom q (ending.relined s)) := by
  induction s using lex_induction generalizing p q with
  | nil =>
    rw [relined_nil, tokensFrom_nil, tokensFrom_nil]
    exact .ok .nil
  | stuck c s hstep =>
    obtain ⟨d, t, ht⟩ := List.exists_cons_of_ne_nil
      (mt (withLineEnds_eq_nil_iff ending.text_ne_nil).1 (List.cons_ne_nil c s))
    have hrelined := ending.step_lex?_relined_eq_none hstep
    rw [relined, ht] at hrelined ⊢
    obtain ⟨e, he⟩ := exists_tokensFrom_error hstep p
    obtain ⟨e', he'⟩ := exists_tokensFrom_error hrelined q
    rw [he, he']
    exact .error e e'
  | @step s taken rest token? hstep ih =>
    obtain ⟨ts, hlike, hq⟩ := ending.keepsStep hstep hcolumn
    rw [tokensFrom_eq_of_step hstep, hq]
    have hlater := ih (hs.step hstep) (ending.column_advance_relined hcolumn taken)
    refine hlater.map_append (hlike.imp fun x y h => ⟨h.token.mono ?_, h.column⟩)
    exact fun _ _ hretold => ⟨s, hs, hretold⟩

end LineEnding

end RuleGraph.Cson
