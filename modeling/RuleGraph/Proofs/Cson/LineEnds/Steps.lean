import RuleGraph.Proofs.Cson.Layout.Scalars
import RuleGraph.Proofs.Text.LineEnds

namespace RuleGraph.Cson

open RuleGraph.Text

/-- A line feed with blanks before and behind it. -/
structure LineEnding where
  before : List Char
  after : List Char
  before_blank : ∀ c ∈ before, isSpace c = true
  after_blank : ∀ c ∈ after, isSpace c = true

theorem isSpace_of_mem_nil : ∀ c ∈ ([] : List Char), isSpace c = true :=
  List.forall_mem_nil _

namespace LineEnding

variable (ending : LineEnding)

def text : List Char :=
  ending.before ++ '\n' :: ending.after

theorem text_ne_nil : ending.text ≠ [] := by
  simp [text]

/-- What holds of blanks and of the line feed holds of a line end with its blanks. -/
theorem forall_mem {P : Char → Prop} (h : P '\n' ∧ P ' ' ∧ P '\t' ∧ P '\r') :
    ∀ c ∈ '\n' :: ending.text, P c := by
  obtain ⟨hline, hspace, htab, hreturn⟩ := h
  have hblank : ∀ c, isSpace c = true → P c := by
    intro c hc
    simp only [isSpace, Bool.or_eq_true, decide_eq_true_eq] at hc
    obtain (rfl | rfl) | rfl := hc <;> assumption
  intro c hc
  simp only [text, List.mem_cons, List.mem_append] at hc
  obtain rfl | hc | rfl | hc := hc
  · exact hline
  · exact hblank c (ending.before_blank c hc)
  · exact hline
  · exact hblank c (ending.after_blank c hc)

/-- The text with this line end in place of every line feed. -/
abbrev relined (s : List Char) : List Char :=
  withLineEnds ending.text s

theorem relined_nil : ending.relined [] = [] := rfl

/-- A line end gets its blanks on both sides. -/
theorem relined_newline (s : List Char) :
    ending.relined ('\n' :: s) = ending.before ++ '\n' :: (ending.after ++ ending.relined s) := by
  simp [relined, text]

theorem relined_cons {c : Char} (h : c ≠ '\n') (s : List Char) :
    ending.relined (c :: s) = c :: ending.relined s :=
  withLineEnds_cons h s

theorem relined_append (s t : List Char) :
    ending.relined (s ++ t) = ending.relined s ++ ending.relined t :=
  withLineEnds_append s t

theorem relined_of_not_mem {s : List Char} (h : '\n' ∉ s) : ending.relined s = s :=
  withLineEnds_of_not_mem h

end LineEnding

/-- Quotes have no blanks, so none are put into them. -/
theorem Delimiter.not_mem_text (delimiter : Delimiter) :
    '\n' ∉ delimiter.text ∧ ' ' ∉ delimiter.text ∧ '\t' ∉ delimiter.text ∧
      '\r' ∉ delimiter.text := by
  cases delimiter <;> decide

/-- The longest quotes that a text starts with open it. -/
theorem openingQuotes?_eq (s : List Char) :
    openingQuotes? s =
      ([.tripleSingle, .tripleDouble, .single, .double].find? fun delimiter : Delimiter =>
        decide (delimiter.text <+: s)).map fun delimiter =>
          (delimiter, s.drop delimiter.text.length) := by
  unfold openingQuotes?
  split
  · simp [Delimiter.text]
  · simp [Delimiter.text]
  · rename_i r hnot
    have hshort : ¬['\'', '\''] <+: r := by
      rintro ⟨t, rfl⟩
      exact hnot t rfl
    simp [Delimiter.text, hshort]
  · rename_i r hnot
    have hshort : ¬['"', '"'] <+: r := by
      rintro ⟨t, rfl⟩
      exact hnot t rfl
    simp [Delimiter.text, hshort]
  · have hnone : ∀ delimiter : Delimiter, ¬delimiter.text <+: s := by
      rintro delimiter ⟨r, rfl⟩
      cases delimiter <;> simp_all [Delimiter.text]
    simp [hnone]

/-- A text that begins with the same quotes as one that they open is opened by them as well. -/
theorem openingQuotes?_of_prefix_iff {s r rest : List Char} {delimiter : Delimiter}
    (hsame : ∀ other : Delimiter, other.text <+: delimiter.text ++ rest ↔ other.text <+: s)
    (h : openingQuotes? s = some (delimiter, r)) :
    openingQuotes? (delimiter.text ++ rest) = some (delimiter, rest) := by
  rw [openingQuotes?_eq] at h ⊢
  simp only [hsame]
  obtain ⟨found, hfound, heq⟩ := Option.map_eq_some_iff.1 h
  obtain ⟨rfl, -⟩ := Prod.mk.inj heq
  rw [hfound, Option.map_some, List.drop_left]

/-- A comment over several lines stands between two marks of three characters, the first of which no
    fourth one follows. -/
theorem step_blockComment? (s : List Char) :
    step (blockComment? s) =
      if ['#', '#', '#'] <+: s ∧ (s.drop 3).head? ≠ some '#' then
        (splitAtMark ['#', '#', '#'] (s.drop 3)).map fun (body, rest) =>
          (none, ['#', '#', '#'] ++ body ++ ['#', '#', '#'], rest)
      else none := by
  unfold blockComment?
  split
  · rename_i r
    by_cases hmark : r.head? = some '#'
    · simp [hmark, step]
    · have hmarks : ['#', '#', '#'] <+: '#' :: '#' :: '#' :: r := ⟨r, rfl⟩
      rw [if_neg hmark, if_pos ⟨hmarks, hmark⟩]
      split <;> simp_all [step]
  · rename_i hnot
    rw [if_neg]
    · rfl
    · rintro ⟨⟨r, rfl⟩, -⟩
      exact hnot r rfl

theorem token?_of_blockComment {s : List Char} {found : Option Token × List Char × List Char}
    (h : step (blockComment? s) = some found) : found.1 = none := by
  rw [step_blockComment?] at h
  obtain ⟨-, hcut⟩ := Option.ite_none_right_eq_some.1 h
  obtain ⟨cut, -, rfl⟩ := Option.map_eq_some_iff.1 hcut
  rfl

namespace LineEnding

variable (ending : LineEnding)

/-- Quotes open at the same places as before. -/
theorem openingQuotes?_relined (s : List Char) :
    openingQuotes? (ending.relined s) =
      (openingQuotes? s).map fun (delimiter, r) => (delimiter, ending.relined r) := by
  have hout (delimiter : Delimiter) : ∀ c ∈ '\n' :: ending.text, c ∉ delimiter.text :=
    ending.forall_mem delimiter.not_mem_text
  have hsame (delimiter : Delimiter) :
      decide (delimiter.text <+: ending.relined s) = decide (delimiter.text <+: s) :=
    decide_eq_decide.2 (prefix_withLineEnds ending.text_ne_nil (hout delimiter) s)
  rw [openingQuotes?_eq, openingQuotes?_eq]
  simp only [hsame, Option.map_map]
  apply Option.map_congr
  intro delimiter hfound
  have hstart : delimiter.text <+: s := by simpa using List.find?_some hfound
  simp only [Function.comp_apply, relined, drop_withLineEnds (hout delimiter) hstart]

theorem openingQuotes?_relined_of_eq {s r : List Char} {delimiter : Delimiter}
    (h : openingQuotes? s = some (delimiter, r)) :
    openingQuotes? (ending.relined s) = some (delimiter, ending.relined r) := by
  rw [openingQuotes?_relined, h]
  rfl

/-- The closing quotes of a literal stand at the same place. -/
theorem literalBody_relined (delimiter : Delimiter) (s : List Char) :
    literalBody delimiter.text (ending.relined s) =
      (literalBody delimiter.text s).map fun (body, rest) =>
        (ending.relined body, ending.relined rest) := by
  have hout : ∀ c ∈ '\n' :: ending.text, c ∉ delimiter.text :=
    ending.forall_mem delimiter.not_mem_text
  have hplain : ∀ c ∈ '\n' :: ending.text, c ≠ '\\' ∧ c ∉ delimiter.text := fun c hc =>
    ⟨ending.forall_mem (P := (· ≠ '\\')) (by decide) c hc, hout c hc⟩
  fun_induction literalBody delimiter.text s with
  | case1 => rfl
  | case2 c s ih =>
    by_cases hc : c = '\n'
    · -- The backslash takes the first character of the new line end, and the others stand alone.
      subst hc
      obtain ⟨first, others, htext⟩ := List.exists_cons_of_ne_nil ending.text_ne_nil
      have hothers : ∀ c ∈ others, c ≠ '\\' ∧ c ∉ delimiter.text :=
        fun c hc => hplain c (by simp [htext, hc])
      have hend (t : List Char) :
          ending.relined ('\\' :: '\n' :: t) = '\\' :: first :: (others ++ ending.relined t) := by
        simp [LineEnding.relined, withLineEnds_cons, htext]
      rw [hend, literalBody_backslash, StaysOpen.of_plain hothers, ih]
      cases literalBody delimiter.text s with
      | none => rfl
      | some found => simp only [Option.map_some, hend]
    · rw [relined, withLineEnds_cons (by decide), withLineEnds_cons hc, literalBody_backslash, ih]
      cases literalBody delimiter.text s with
      | none => rfl
      | some found => simp [withLineEnds_cons hc, withLineEnds_cons (show '\\' ≠ '\n' by decide)]
  | case3 c s hpair hclose =>
    have hc : c ≠ '\n' := by
      rintro rfl
      exact not_prefix_cons delimiter.text_ne_nil (hout '\n' (by simp)) s hclose
    have hclose' := (prefix_withLineEnds ending.text_ne_nil hout _).2 hclose
    have hdrop := drop_withLineEnds hout hclose
    rw [relined, withLineEnds_cons hc] at *
    rw [literalBody, if_pos hclose', hdrop]
    · rfl
    · rintro d r rfl -
      exact not_prefix_cons delimiter.text_ne_nil delimiter.backslash_not_mem_text _ hclose
  | case4 c s hpair hopen ih =>
    by_cases hback : c = '\\'
    · subst hback
      cases s with
      | nil =>
        rw [relined, withLineEnds_cons (by decide), withLineEnds_nil]
        simp [literalBody, hopen]
      | cons d s => exact absurd rfl (hpair d s rfl)
    · by_cases hc : c = '\n'
      · subst hc
        rw [relined, withLineEnds_newline, StaysOpen.of_plain fun c hc => hplain c (by simp [hc]), ih]
        cases literalBody delimiter.text s <;> rfl
      · have hopen' := mt (prefix_withLineEnds ending.text_ne_nil hout _).1 hopen
        rw [relined, withLineEnds_cons hc] at *
        rw [literalBody_of_not_closing hback hopen', ih]
        cases literalBody delimiter.text s with
        | none => rfl
        | some found => simp [withLineEnds_cons hc]

/-- The step that goes with a step. -/
def relinedStep : Option Token × List Char × List Char → Option Token × List Char × List Char
  | (token?, taken, rest) => (token?, ending.relined taken, ending.relined rest)

/-- A comment over several lines takes the blanks inside it along. -/
theorem step_blockComment?_relined (s : List Char) :
    step (blockComment? (ending.relined s)) =
      (step (blockComment? s)).map ending.relinedStep := by
  have hsome := ending.text_ne_nil
  have hout : ∀ c ∈ '\n' :: ending.text, c ∉ ['#', '#', '#'] := ending.forall_mem (by decide)
  rw [step_blockComment?, step_blockComment?]
  simp only [relined, prefix_withLineEnds hsome hout]
  by_cases hmarks : ['#', '#', '#'] <+: s
  · have hdrop := drop_withLineEnds hout hmarks
    have hmark : '#' ∉ '\n' :: ending.text := fun h =>
      ending.forall_mem (P := (· ≠ '#')) (by decide) '#' h rfl
    simp only [List.length_cons, List.length_nil, Nat.reduceAdd] at hdrop
    simp only [hdrop, ne_eq, head?_withLineEnds hsome hmark]
    split
    · rw [splitAtMark_withLineEnds hsome hout (by simp)]
      cases splitAtMark ['#', '#', '#'] (s.drop 3) with
      | none => rfl
      | some cut => simp [relinedStep, withLineEnds_append, withLineEnds_cons]
    · rfl
  · simp [hmarks]

/-- Numbers end before a line end, with blanks in front of it or without. -/
theorem step_number?_relined (s : List Char) :
    step (number? (ending.relined s)) = (step (number? s)).map ending.relinedStep := by
  have hsome := ending.text_ne_nil
  have hdigit : ∀ c ∈ '\n' :: ending.text, isDigit c = false := ending.forall_mem (by decide)
  have hnumber : ∀ c ∈ '\n' :: ending.text, isNumberChar c = false := ending.forall_mem (by decide)
  have hminus : ∀ c ∈ '\n' :: ending.text, c ≠ '-' := ending.forall_mem (by decide)
  have hsign : minusSign (ending.relined s) = minusSign s := by
    cases s with
    | nil => rfl
    | cons c s =>
      by_cases hc : c = '\n'
      · subst hc
        obtain ⟨first, others, htext⟩ := List.exists_cons_of_ne_nil hsome
        rw [relined, withLineEnds_newline, htext, List.cons_append,
          minusSign_of_ne (hminus first (by simp [htext])), minusSign_of_ne (by decide)]
      · rw [relined, withLineEnds_cons hc]
        by_cases hsign : c = '-'
        · rw [hsign, minusSign, minusSign]
        · rw [minusSign_of_ne hsign, minusSign_of_ne hsign]
  have hout : ∀ c ∈ '\n' :: ending.text, c ∉ minusSign s := by
    intro c hc
    unfold minusSign
    split <;> simp [hminus c hc]
  have hdrop := drop_withLineEnds hout ⟨_, minusSign_append_drop s⟩
  have htext {p : Char → Bool} (hp : ∀ c ∈ '\n' :: ending.text, p c = false) (r : List Char) :
      ending.relined (r.takeWhile p) = r.takeWhile p :=
    withLineEnds_of_not_mem (not_mem_takeWhile (hp '\n' (by simp)) r)
  rw [step_number?, step_number?, hsign, hdrop]
  simp only [takeWhile_withLineEnds hsome hdigit, dropWhile_withLineEnds hsome hdigit,
    takeWhile_withLineEnds hsome hnumber, dropWhile_withLineEnds hsome hnumber]
  split
  · rfl
  · simp only [Option.map_some, relinedStep, relined, withLineEnds_append,
      withLineEnds_of_not_mem (hout '\n' (by simp)), htext hdigit, htext hnumber]

theorem step_word?_relined {c : Char} (h : c ≠ '\n') (s : List Char) :
    step (word? (c :: ending.relined s)) = (step (word? (c :: s))).map ending.relinedStep := by
  have hsome := ending.text_ne_nil
  have hword : ∀ c ∈ '\n' :: ending.text, isWordChar c = false := ending.forall_mem (by decide)
  have hmem : '\n' ∉ s.takeWhile isWordChar := not_mem_takeWhile (by decide) s
  rw [step_word?, step_word?, takeWhile_withLineEnds hsome hword,
    dropWhile_withLineEnds hsome hword]
  split
  · simp only [Option.map_some, relinedStep, relined, withLineEnds_cons h,
      withLineEnds_of_not_mem hmem]
  · rfl

theorem step_punctuation?_relined {c : Char} (h : c ≠ '\n') (s : List Char) :
    step (punctuation? (c :: ending.relined s)) =
      (step (punctuation? (c :: s))).map ending.relinedStep := by
  rw [step_punctuation?, step_punctuation?]
  cases punctuation c with
  | none => rfl
  | some token => simp [relinedStep, withLineEnds_cons h]

/-- The alternatives of a step can be followed one by one. -/
theorem map_relinedStep_or (x y : Option (Option Token × List Char × List Char)) :
    (x.or y).map ending.relinedStep =
      (x.map ending.relinedStep).or (y.map ending.relinedStep) := by
  cases x <;> rfl

/-- A number, a word or a single character is taken as before. -/
theorem step_lex?_relined_of_plain {c : Char} (hline : c ≠ '\n')
    (h : c ≠ '#' ∧ isSpace c = false ∧ c ≠ '\'' ∧ c ≠ '"') (s : List Char) :
    step (lex? (ending.relined (c :: s))) =
      (step (lex? (c :: s))).map ending.relinedStep := by
  have hnumber := ending.step_number?_relined (c :: s)
  rw [relined, withLineEnds_cons hline] at hnumber ⊢
  rw [step_lex?_of_plain _ h, step_lex?_of_plain _ h, map_relinedStep_or, map_relinedStep_or,
    hnumber, ending.step_word?_relined hline, ending.step_punctuation?_relined hline]

end LineEnding

end RuleGraph.Cson
