import Mathlib
import RuleGraph.Proofs.Cson.Escapes
import RuleGraph.Proofs.Cson.LineEnds.Tokens
import RuleGraph.Proofs.Cson.Lines
import RuleGraph.Proofs.Cson.Returns.Literal

namespace RuleGraph.Cson

open RuleGraph.Text

/-- Lines behind `indent` spaces each, with a line feed before the first one and behind each, and
    `closing` spaces in the end. -/
def indentedLines (indent closing : Nat) (ls : List (List Char)) : List Char :=
  '\n' :: (ls.flatMap (spaces indent ++ · ++ ['\n']) ++ spaces closing)

/-- The same text with spaces and tabs added at the starts of lines, the first one excepted. -/
inductive MoreIndented : List Char → List Char → Prop where
  | nil : MoreIndented [] []
  | cons (c : Char) {s s' : List Char} (h : MoreIndented s s') : MoreIndented (c :: s) (c :: s')
  | newline {pad s s' : List Char} (hpad : ∀ c ∈ pad, c = ' ' ∨ c = '\t') (h : MoreIndented s s') :
      MoreIndented ('\n' :: s) ('\n' :: (pad ++ s'))

section Dedenting

theorem isBlank_of_mem_spaces {n : Nat} : ∀ c ∈ spaces n, isBlank c = true := by
  intro c hc
  rw [List.eq_of_mem_replicate hc]
  decide

theorem newline_not_mem_spaces (n : Nat) : '\n' ∉ spaces n :=
  fun h => absurd (List.eq_of_mem_replicate h) (by decide)

/-- The lines of such a body: an empty one behind the opening quotes, the given ones with their
    indentation, and one with the closing quotes. -/
theorem lines_indentedLines {ls : List (List Char)} (hplain : ∀ line ∈ ls, '\n' ∉ line)
    (indent closing : Nat) :
    lines (indentedLines indent closing ls) =
      [] :: (ls.map (spaces indent ++ ·) ++ [spaces closing]) := by
  rw [indentedLines, lines, if_pos rfl]
  congr 1
  induction ls with
  | nil => exact lines_of_not_mem (newline_not_mem_spaces closing)
  | cons line ls ih =>
    rw [List.forall_mem_cons] at hplain
    have hline : '\n' ∉ spaces indent ++ line := by
      simp [newline_not_mem_spaces, hplain.1]
    rw [List.flatMap_cons, List.append_assoc, List.append_assoc, List.singleton_append,
      lines_append_newline hline, ih hplain.2]
    rfl

/-- Indenting makes no line blank, and no blank line otherwise. -/
theorem isBlankLine_spaces_append (n : Nat) (line : List Char) :
    isBlankLine (spaces n ++ line) = isBlankLine line := by
  have hspaces : (spaces n).all isBlank = true := List.all_eq_true.2 isBlank_of_mem_spaces
  rw [isBlankLine, isBlankLine, List.all_append, hspaces, Bool.true_and]

theorem spaces_succ (n : Nat) : spaces (n + 1) = ' ' :: spaces n :=
  List.replicate_succ

theorem utf8Size_space : ' '.utf8Size = 1 := by
  decide

theorem byteLength_spaces (n : Nat) : byteLength (spaces n) = n := by
  induction n with
  | zero => rfl
  | succ n ih =>
    rw [spaces_succ, byteLength, List.foldr_cons, ← byteLength, ih, utf8Size_space, Nat.add_comm]

/-- The indentation of a line grows by the spaces that are added. -/
theorem indentOf_spaces_append (n : Nat) (line : List Char) :
    indentOf (spaces n ++ line) = n + indentOf line := by
  rw [indentOf, List.takeWhile_append_of_pos isBlank_of_mem_spaces, byteLength_append,
    byteLength_spaces, indentOf]

/-- The spaces that were added are cut off again. -/
theorem dropBytes?_spaces_append (n : Nat) (line : List Char) :
    dropBytes? n (spaces n ++ line) = some line := by
  induction n with
  | zero =>
    rw [dropBytes?]
    rfl
  | succ n ih =>
    rw [spaces_succ, List.cons_append, dropBytes?, utf8Size_space, if_pos (Nat.le_add_left 1 n),
      Nat.add_sub_cancel, ih]

section CommonIndentation

variable {ls : List (List Char)} {flush : List Char} (hmem : flush ∈ ls)
  (hsome : isBlankLine flush = false) (hflush : indentOf flush = 0)
include hmem hsome hflush

/-- What all lines with more than blanks have in common is what they were indented by. -/
theorem min?_indentOf_spaces_append (indent : Nat) :
    (((ls.map (spaces indent ++ ·)).filter (!isBlankLine ·)).map indentOf).min? = some indent := by
  rw [List.min?_eq_some_iff]
  constructor
  · refine List.mem_map.2 ⟨spaces indent ++ flush, List.mem_filter.2 ⟨?_, ?_⟩, ?_⟩
    · exact List.mem_map_of_mem hmem
    · rw [isBlankLine_spaces_append, hsome, Bool.not_false]
    · rw [indentOf_spaces_append, hflush, Nat.add_zero]
  · intro n hn
    obtain ⟨line, hline, rfl⟩ := List.mem_map.1 hn
    obtain ⟨line, -, rfl⟩ := List.mem_map.1 (List.mem_of_mem_filter hline)
    rw [indentOf_spaces_append]
    exact Nat.le_add_right indent _

/-- Of the blank lines only the first and the last one are taken away, so all lines stay that were
    indented. -/
theorem dedent_indentedLines (hplain : ∀ line ∈ ls, '\n' ∉ line) (indent closing : Nat) :
    dedent (indentedLines indent closing ls) = ['\n'].intercalate ls := by
  have hlast : isBlankLine (spaces closing) = true := List.all_eq_true.2 isBlank_of_mem_spaces
  have hnil : isBlankLine [] = true := rfl
  have hkept : dropBlankLast (dropBlankFirst (lines (indentedLines indent closing ls))) =
      ls.map (spaces indent ++ ·) := by
    rw [lines_indentedLines hplain, dropBlankFirst, if_pos hnil, dropBlankLast, List.reverse_append,
      List.reverse_singleton, List.singleton_append, dropBlankFirst, if_pos hlast,
      List.reverse_reverse]
  have hindent := min?_indentOf_spaces_append hmem hsome hflush indent
  simp only [dedent, hkept, hindent, List.map_map, Function.comp_def, dropBytes?_spaces_append,
    Option.getD_some, List.map_id']

end CommonIndentation

end Dedenting

section Folding

/-- The line with blanks in front of it. -/
def Indents (line line' : List Char) : Prop :=
  ∃ pad, (∀ c ∈ pad, isBlank c = true) ∧ line' = pad ++ line

theorem isBlank_of_pad {pad : List Char} (hpad : ∀ c ∈ pad, c = ' ' ∨ c = '\t') :
    ∀ c ∈ pad, isBlank c = true := by
  intro c hc
  obtain rfl | rfl := hpad c hc <;> decide

theorem newline_not_mem_of_pad {pad : List Char} (hpad : ∀ c ∈ pad, c = ' ' ∨ c = '\t') :
    '\n' ∉ pad := by
  intro h
  exact absurd (hpad _ h) (by decide)

/-- The first line stands behind the quotes and gets no indentation, and all later ones may. -/
theorem MoreIndented.exists_lines {raw raw' : List Char} (h : MoreIndented raw raw') :
    ∃ first later later', lines raw = first :: later ∧ lines raw' = first :: later' ∧
      List.Forall₂ Indents later later' := by
  induction h with
  | nil => exact ⟨[], [], [], rfl, rfl, .nil⟩
  | @cons c s s' _ ih =>
    obtain ⟨first, later, later', hs, hs', hlater⟩ := ih
    by_cases hc : c = '\n'
    · refine ⟨[], first :: later, first :: later', ?_, ?_, .cons ⟨[], ?_, rfl⟩ hlater⟩
      · rw [lines, if_pos hc, hs]
      · rw [lines, if_pos hc, hs']
      · exact List.forall_mem_nil _
    · refine ⟨c :: first, later, later', ?_, ?_, hlater⟩
      · rw [lines, if_neg hc, hs]
      · rw [lines, if_neg hc, hs']
  | @newline pad s s' hpad _ ih =>
    obtain ⟨first, later, later', hs, hs', hlater⟩ := ih
    refine ⟨[], first :: later, (pad ++ first) :: later', ?_, ?_,
      .cons ⟨pad, isBlank_of_pad hpad, rfl⟩ hlater⟩
    · rw [lines, if_pos rfl, hs]
    · have hpadded := lines_append (newline_not_mem_of_pad hpad) hs'
      rw [lines, if_pos rfl, hpadded]

/-- Indentation is lost when a line is trimmed. -/
theorem Indents.trimStart_eq {line line' : List Char} (h : Indents line line') :
    trimStart line' = trimStart line := by
  obtain ⟨pad, hpad, rfl⟩ := h
  exact List.dropWhile_append_of_pos hpad

/-- Blanks at the starts of lines are cut off with those that are there. -/
theorem trimLater_eq {later later' : List (List Char)} (h : List.Forall₂ Indents later later') :
    trimLater later' = trimLater later := by
  induction h with
  | nil => rfl
  | @cons line line' later later' hline hlater ih =>
    have hstart := hline.trimStart_eq
    cases hlater with
    | nil => rw [trimLater, trimLater, hstart]
    | cons hsecond hlater =>
      rw [trimLater_cons (List.cons_ne_nil _ _), trimLater_cons (List.cons_ne_nil _ _), ih, trim, trim,
        hstart]

/-- Where lines are folded, indentation does not count at all. -/
theorem MoreIndented.foldLines_eq {raw raw' : List Char} (h : MoreIndented raw raw') :
    foldLines raw' = foldLines raw := by
  obtain ⟨first, later, later', hraw, hraw', hlater⟩ := h.exists_lines
  rw [foldLines, foldLines, hraw, hraw']
  have htrim := trimLater_eq hlater
  cases hlater with
  | nil => rfl
  | cons hsecond hlater => simp only [htrim]

end Folding

section Quotes

/-- Within a line a body is the same character by character, and a pad stands behind a line end
    only. -/
theorem MoreIndented.exists_of_cons {c : Char} {s t : List Char} (h : MoreIndented (c :: s) t) :
    ∃ pad s', t = c :: (pad ++ s') ∧ (∀ d ∈ pad, d = ' ' ∨ d = '\t') ∧
      (c ≠ '\n' → pad = []) ∧ MoreIndented s s' := by
  cases h with
  | cons _ h => exact ⟨[], _, rfl, List.forall_mem_nil _, fun _ => rfl, h⟩
  | newline hpad h => exact ⟨_, _, rfl, hpad, fun hc => absurd rfl hc, h⟩

variable {delimiter : Delimiter} (hsingle : delimiter.isTriple = false)
include hsingle

/-- The closing quote stays where it was, since no character that is added closes or escapes it. -/
theorem MoreIndented.literalBody_eq {raw raw' t rest : List Char} (h : MoreIndented raw raw')
    (hbody : literalBody delimiter.text (raw ++ t) = some (raw, rest)) :
    literalBody delimiter.text (raw' ++ t) = some (raw', rest) := by
  have hopen {pad : List Char} (hpad : ∀ c ∈ pad, c = ' ' ∨ c = '\t') : StaysOpen delimiter pad := by
    refine .of_plain fun c hc => ?_
    obtain rfl | rfl := hpad c hc
    · exact ⟨by decide, delimiter.not_mem_text.2.1⟩
    · exact ⟨by decide, delimiter.not_mem_text.2.2.1⟩
  generalize hs : raw ++ t = s at hbody
  fun_induction literalBody delimiter.text s generalizing raw raw' with
  | case1 => cases hbody
  | case2 c s ih =>
    -- The pad, if there is one, stands behind the pair and not within it.
    obtain ⟨⟨body, rest⟩, hfound, heq⟩ := Option.map_eq_some_iff.1 hbody
    obtain ⟨rfl, rfl⟩ := Prod.mk.inj heq
    obtain ⟨none, u, rfl, -, hnone, h⟩ := h.exists_of_cons
    obtain ⟨pad, u, rfl, hpad, -, h⟩ := h.exists_of_cons
    simp only [List.cons_append, List.cons.injEq, true_and] at hs
    rw [hnone (by decide), List.nil_append, List.cons_append, List.cons_append,
      literalBody_backslash, List.append_assoc, hopen hpad, ih h hs hfound]
    rfl
  | case3 c s hpair hclose =>
    obtain ⟨rfl, rfl⟩ := Prod.mk.inj (Option.some.inj hbody)
    cases h
    obtain rfl := hs
    rw [List.nil_append, literalBody, if_pos hclose]
    exact hpair
  | case4 c s hpair hnot ih =>
    obtain ⟨⟨body, rest⟩, hfound, heq⟩ := Option.map_eq_some_iff.1 hbody
    obtain ⟨rfl, rfl⟩ := Prod.mk.inj heq
    obtain ⟨pad, u, rfl, hpad, -, h⟩ := h.exists_of_cons
    simp only [List.cons_append, List.cons.injEq, true_and] at hs
    have hback : c ≠ '\\' := by
      rintro rfl
      obtain ⟨d, t, ht⟩ := List.exists_cons_of_ne_nil (l := s) (by
        rintro rfl
        cases hfound)
      exact hpair d t rfl ht
    have hnot' (r : List Char) : ¬delimiter.text <+: c :: r := by
      cases delimiter <;> simp_all [Delimiter.text, Delimiter.isTriple]
    rw [List.cons_append, literalBody_of_not_closing hback (hnot' _), List.append_assoc, hopen hpad,
      ih h hs hfound]
    rfl

theorem exists_text_eq : ∃ quote, delimiter.text = [quote] ∧ quote ≠ '\\' := by
  cases delimiter with
  | single => exact ⟨'\'', rfl, by decide⟩
  | double => exact ⟨'"', rfl, by decide⟩
  | tripleSingle => cases hsingle
  | tripleDouble => cases hsingle

/-- The first character of a text that does not close at once is no quote. -/
theorem not_mem_text_of_literalBody {c : Char} {s body rest : List Char}
    (h : literalBody delimiter.text (c :: s) = some (c :: body, rest)) : c ∉ delimiter.text := by
  obtain ⟨quote, hquote, hback⟩ := exists_text_eq hsingle
  rw [hquote] at h ⊢
  rw [List.mem_singleton]
  rintro rfl
  simp [literalBody, hback] at h

/-- Quotes open a literal if another character follows. -/
theorem openingQuotes?_cons {c : Char} (hc : c ∉ delimiter.text) (s : List Char) :
    openingQuotes? (delimiter.text ++ c :: s) = some (delimiter, c :: s) := by
  obtain ⟨quote, hquote, -⟩ := exists_text_eq hsingle
  rw [hquote] at hc ⊢
  refine openingQuotes?_of_ne hquote fun r heq => hc ?_
  rw [(List.cons.inj heq).1]
  exact List.mem_singleton_self quote

/-- More indentation makes no other literal, and leaves the same behind it. -/
theorem MoreIndented.startsLiteral {raw raw' rest : List Char} (h : MoreIndented raw raw')
    (hstart : StartsLiteral (delimiter.text ++ (raw ++ (delimiter.text ++ rest))) delimiter raw) :
    StartsLiteral (delimiter.text ++ (raw' ++ (delimiter.text ++ rest))) delimiter raw' := by
  obtain ⟨r, rest', hopening, hbody⟩ := hstart
  obtain rfl := List.append_cancel_left (append_of_openingQuotes? hopening)
  have hbody' := h.literalBody_eq hsingle hbody
  cases raw with
  | nil =>
    cases h
    exact ⟨_, rest', hopening, hbody⟩
  | cons c raw =>
    have hc := not_mem_text_of_literalBody hsingle hbody
    obtain ⟨pad, s', rfl, -, -, -⟩ := h.exists_of_cons
    exact ⟨_, rest', openingQuotes?_cons hsingle hc _, hbody'⟩

end Quotes

/-- In front of `rest`, what is written is one literal with the given text, wherever it stands. -/
def Denotes (written rest : List Char) (text : String) : Prop :=
  ∀ place, tokensFrom place (written ++ rest) =
    (tokensFrom (place.advance written) rest).map ([⟨.string text, place⟩] ++ ·)

/-- A literal in front of anything denotes the text of its body. -/
theorem denotes_of_startsLiteral {delimiter : Delimiter} {raw rest : List Char}
    (h : StartsLiteral (delimiter.text ++ (raw ++ (delimiter.text ++ rest))) delimiter raw) :
    Denotes (delimiter.text ++ raw ++ delimiter.text) rest (literalText delimiter raw) := by
  intro place
  obtain ⟨r, rest', hopening, hbody⟩ := h
  have hstep := step_lex?_of_openingQuotes? hopening
  obtain rfl := List.append_cancel_left (append_of_openingQuotes? hopening)
  have hrest : rest' = rest := by
    have hall := append_of_literalBody hbody
    rw [List.append_assoc] at hall
    exact List.append_cancel_left (List.append_cancel_left hall)
  rw [hbody, hrest] at hstep
  simp only [List.append_assoc] at hstep ⊢
  exact tokensFrom_eq_of_step hstep place

/-- A body that closes nothing makes a literal between three quotes. -/
theorem startsLiteral_of_isTriple {delimiter : Delimiter} (htriple : delimiter.isTriple = true)
    {raw : List Char} (hopen : StaysOpen delimiter raw) (rest : List Char) :
    StartsLiteral (delimiter.text ++ (raw ++ (delimiter.text ++ rest))) delimiter raw := by
  refine ⟨raw ++ (delimiter.text ++ rest), rest, ?_, ?_⟩
  · cases delimiter with
    | single => cases htriple
    | double => cases htriple
    | tripleSingle => rfl
    | tripleDouble => rfl
  · rw [hopen, literalBody_closing, Option.map_some]
    simp only [List.append_nil]

theorem mem_of_mem_indentedLines {indent closing : Nat} {ls : List (List Char)} {c : Char}
    (hc : c ∈ indentedLines indent closing ls) : c = '\n' ∨ c = ' ' ∨ ∃ line ∈ ls, c ∈ line := by
  have hspace {n : Nat} (hc : c ∈ spaces n) : c = ' ' := List.eq_of_mem_replicate hc
  simp only [indentedLines, List.mem_cons, List.mem_append, List.mem_flatMap, List.not_mem_nil,
    or_false] at hc
  obtain hc | ⟨line, hline, (hc | hc) | hc⟩ | hc := hc
  · exact .inl hc
  · exact .inr (.inl (hspace hc))
  · exact .inr (.inr ⟨line, hline, hc⟩)
  · exact .inl hc
  · exact .inr (.inl (hspace hc))

theorem mem_of_mem_intercalate {sep c : Char} {ls : List (List Char)}
    (hc : c ∈ [sep].intercalate ls) : c = sep ∨ ∃ line ∈ ls, c ∈ line := by
  induction ls with
  | nil => cases hc
  | cons line ls ih =>
    cases ls with
    | nil =>
      rw [List.intercalate_singleton] at hc
      exact .inr ⟨line, List.mem_singleton_self line, hc⟩
    | cons second ls =>
      rw [List.intercalate_cons_cons, List.mem_append, List.mem_append, List.mem_singleton] at hc
      obtain (hc | hc) | hc := hc
      · exact .inr ⟨line, List.mem_cons_self, hc⟩
      · exact .inl hc
      · obtain hc | ⟨line, hline, hc⟩ := ih hc
        · exact .inl hc
        · exact .inr ⟨line, List.mem_cons_of_mem _ hline, hc⟩

section Heredocs

variable {ls : List (List Char)} (hplain : ∀ line ∈ ls, ∀ c ∈ line, c ∉ ['\'', '"', '\\', '\n'])
include hplain

/-- Lines without quotes and backslashes close nothing. -/
theorem staysOpen_indentedLines (delimiter : Delimiter) (indent closing : Nat) :
    StaysOpen delimiter (indentedLines indent closing ls) := by
  refine .of_plain fun c hc => ?_
  obtain rfl | rfl | ⟨line, hline, hc⟩ := mem_of_mem_indentedLines hc
  · exact ⟨by decide, delimiter.not_mem_text.1⟩
  · exact ⟨by decide, delimiter.not_mem_text.2.1⟩
  · have hnot := hplain line hline c hc
    refine ⟨?_, fun hquote => ?_⟩
    · rintro rfl
      exact hnot (by decide)
    · obtain rfl | rfl := Delimiter.quote_of_mem_text hquote
      · exact hnot (by decide)
      · exact hnot (by decide)

theorem unescape_intercalate : unescape (['\n'].intercalate ls) = ['\n'].intercalate ls := by
  refine unescape_eq_self ?_
  rintro c hc rfl
  obtain hc | ⟨line, hline, hc⟩ := mem_of_mem_intercalate hc
  · exact absurd hc (by decide)
  · exact hplain line hline _ hc (by decide)

end Heredocs

/-- Indentation is relative. Lines between three quotes, with a line feed before the first one and behind
each, denote the same lines wherever they are indented to, if one of them has more than blanks and none
in front. Between single or double quotes, spaces and tabs at the start of every line but the first one
make no difference at all. -/
theorem denotes_reindented :
    (∀ delimiter : Delimiter, delimiter.isTriple = true → ∀ ls : List (List Char),
      (∀ line ∈ ls, ∀ c ∈ line, c ∉ ['\'', '"', '\\', '\n']) →
      (∃ line ∈ ls, isBlankLine line = false ∧ ∀ c ∈ line.head?, isBlank c = false) →
      ∀ indent closing rest,
        Denotes (delimiter.text ++ indentedLines indent closing ls ++ delimiter.text) rest
          (String.ofList (['\n'].intercalate ls))) ∧
    ∀ delimiter : Delimiter, delimiter.isTriple = false → ∀ raw raw' rest,
      StartsLiteral (delimiter.text ++ (raw ++ (delimiter.text ++ rest))) delimiter raw →
      MoreIndented raw raw' →
      ∃ text, Denotes (delimiter.text ++ raw ++ delimiter.text) rest text ∧
        Denotes (delimiter.text ++ raw' ++ delimiter.text) rest text := by
  constructor
  · intro delimiter htriple ls hplain hflush indent closing rest
    obtain ⟨flush, hmem, hsome, hhead⟩ := hflush
    have hline : ∀ line ∈ ls, '\n' ∉ line := fun line hline hmem =>
      hplain line hline _ hmem (by decide)
    have htext : literalText delimiter (indentedLines indent closing ls) =
        String.ofList (['\n'].intercalate ls) := by
      rw [literalText, htriple, if_pos rfl,
        dedent_indentedLines hmem hsome (indentOf_of_head hhead) hline, unescape_intercalate hplain]
    rw [← htext]
    exact denotes_of_startsLiteral
      (startsLiteral_of_isTriple htriple
        (staysOpen_indentedLines hplain delimiter indent closing) rest)
  · intro delimiter hsingle raw raw' rest hstart hmore
    refine ⟨literalText delimiter raw, denotes_of_startsLiteral hstart, ?_⟩
    have htext : literalText delimiter raw = literalText delimiter raw' := by
      simp only [literalText, hsingle, Bool.false_eq_true, if_false, hmore.foldLines_eq]
    rw [htext]
    exact denotes_of_startsLiteral (hmore.startsLiteral hsingle hstart)

/-- The empty lines at both ends stay. A tab is put behind an escaped line feed, spaces behind an empty
    line. -/
theorem denotes_reindented_blankLines :
    let ls := [[], ['i', 'f'], [' ', 'é'], []]
    let raw := ['a', '\\', '\n', 'b', '\n', '\n', 'c']
    let raw' := ['a', '\\', '\n', '\t', 'b', '\n', '\n', ' ', ' ', 'c']
    indentedLines 2 1 ls = ['\n', ' ', ' ', '\n', ' ', ' ', 'i', 'f', '\n', ' ', ' ', ' ', 'é',
      '\n', ' ', ' ', '\n', ' '] ∧
    Denotes (['"', '"', '"'] ++ indentedLines 2 1 ls ++ ['"', '"', '"']) ['\n'] "\nif\n é\n" ∧
      StartsLiteral (['\''] ++ (raw ++ (['\''] ++ [']']))) .single raw ∧ MoreIndented raw raw' ∧
      ∃ text, Denotes (['\''] ++ raw ++ ['\'']) [']'] text ∧
        Denotes (['\''] ++ raw' ++ ['\'']) [']'] text := by
  intro ls raw raw'
  have hplain : ∀ line ∈ ls, ∀ c ∈ line, c ∉ ['\'', '"', '\\', '\n'] := by simp [ls]
  have hflush : ∃ line ∈ ls, isBlankLine line = false ∧ ∀ c ∈ line.head?, isBlank c = false :=
    ⟨['i', 'f'], by simp [ls], by decide, by rintro _ ⟨rfl⟩; decide⟩
  have hstart : StartsLiteral (['\''] ++ (raw ++ (['\''] ++ [']']))) .single raw :=
    ⟨_, _, rfl, by cbv⟩
  have htab : ∀ c ∈ ['\t'], c = ' ' ∨ c = '\t' := by simp
  have hspaces : ∀ c ∈ [' ', ' '], c = ' ' ∨ c = '\t' := by simp
  have hmore : MoreIndented raw raw' :=
    .cons 'a' <| .cons '\\' <| .newline htab <| .cons 'b' <| .cons '\n' <| .newline hspaces <|
    .cons 'c' .nil
  refine ⟨rfl, ?_, hstart, hmore, ?_⟩
  · exact denotes_reindented.1 .tripleDouble rfl ls hplain hflush 2 1 ['\n']
  · exact denotes_reindented.2 .single rfl raw raw' [']'] hstart hmore

end RuleGraph.Cson
