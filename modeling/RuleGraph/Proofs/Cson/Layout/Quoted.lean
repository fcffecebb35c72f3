import RuleGraph.Cson.Literal
import RuleGraph.Cson.Lexer
import RuleGraph.Proofs.Cson.Layout.Text
import RuleGraph.Proofs.Text.LineEnds
import RuleGraph.Proofs.Text.Lines

namespace RuleGraph.Cson

open RuleGraph.Text

theorem escapedChar_of_controlLetter? {c x : Char} (h : controlLetter? c = some x) :
    escapedChar x = c ∧ x ≠ 'u' ∧ x ≠ '\n' := by
  unfold controlLetter? at h
  split at h
  case h_7 => simp at h
  all_goals
    obtain rfl := Option.some.inj h
    decide

/-- The letter that stands for a character behind a backslash is resolved to that character. -/
theorem escapedChar_of_escapeLetter? {quote : Quote} {letters : Char → Bool} {c x : Char}
    (h : escapeLetter? quote letters c = some x) : escapedChar x = c ∧ x ≠ 'u' ∧ x ≠ '\n' := by
  unfold escapeLetter? at h
  split at h
  case h_3 =>
    split at h
    · rename_i hquote
      obtain rfl := Option.some.inj h
      rw [hquote]
      cases quote <;> decide
    · split at h
      · exact escapedChar_of_controlLetter? h
      · contradiction
  all_goals
    obtain rfl := Option.some.inj h
    decide

/-- A character without a letter needs none: it is no backslash, no line feed and not the quote. -/
theorem ne_of_escapeLetter? {quote : Quote} {letters : Char → Bool} {c : Char}
    (h : escapeLetter? quote letters c = none) : c ≠ '\\' ∧ c ≠ quote.char ∧ c ≠ '\n' := by
  refine ⟨?_, ?_, ?_⟩
  · rintro rfl
    simp [escapeLetter?] at h
  · rintro rfl
    cases quote <;> simp [escapeLetter?, Quote.char] at h
  · rintro rfl
    simp [escapeLetter?] at h

/-- Between quotes of this kind, each character is written as itself, or as a backslash and another
    character that stands for it. -/
def Spells (quote : Char) (write : Char → List Char) : Prop :=
  ∀ c, write c = [c] ∧ c ≠ '\\' ∧ c ≠ quote ∧ c ≠ '\n' ∨
    ∃ x, write c = ['\\', x] ∧ escapedChar x = c ∧ x ≠ 'u' ∧ x ≠ '\n'

/-- Every character is written as itself or as a letter behind a backslash, whichever letters are
    asked for. -/
theorem spelled_cases (quote : Quote) (letters : Char → Bool) :
    Spells quote.char (spelled quote letters) := by
  intro c
  unfold spelled
  cases h : escapeLetter? quote letters c with
  | none => exact .inl ⟨rfl, ne_of_escapeLetter? h⟩
  | some x => exact .inr ⟨x, rfl, escapedChar_of_escapeLetter? h⟩

theorem Delimiter.quote_of_mem_text {delimiter : Delimiter} {c : Char} (h : c ∈ delimiter.text) :
    c = '\'' ∨ c = '"' := by
  cases delimiter <;> simp [Delimiter.text] at h <;> simp [h]

theorem Delimiter.backslash_not_mem_text (delimiter : Delimiter) : '\\' ∉ delimiter.text := by
  cases delimiter <;> decide

/-- A character behind a backslash closes nothing. -/
theorem literalBody_backslash (quotes : List Char) (c : Char) (s : List Char) :
    literalBody quotes ('\\' :: c :: s) =
      (literalBody quotes s).map fun (body, rest) => ('\\' :: c :: body, rest) := by
  rw [literalBody]

/-- A character that closing quotes do not start with belongs to the body. -/
theorem literalBody_of_not_closing {quotes : List Char} {c : Char} {s : List Char}
    (hback : c ≠ '\\') (h : ¬quotes <+: c :: s) :
    literalBody quotes (c :: s) =
      (literalBody quotes s).map fun (body, rest) => (c :: body, rest) := by
  rw [literalBody]
  · rw [if_neg h]
  · intro x r heq
    exact absurd heq hback

/-- No quotes of the given kind close within the text. -/
def StaysOpen (delimiter : Delimiter) (s : List Char) : Prop :=
  ∀ t, literalBody delimiter.text (s ++ t) =
    (literalBody delimiter.text t).map fun (body, rest) => (s ++ body, rest)

namespace StaysOpen

variable {delimiter : Delimiter} {s t : List Char}

theorem nil : StaysOpen delimiter [] := by
  intro t
  simp

theorem pair (c : Char) : StaysOpen delimiter ['\\', c] :=
  literalBody_backslash delimiter.text c

theorem append (hs : StaysOpen delimiter s) (ht : StaysOpen delimiter t) :
    StaysOpen delimiter (s ++ t) := by
  intro rest
  rw [List.append_assoc, hs, ht, Option.map_map]
  simp [Function.comp_def]

theorem single {c : Char} (hback : c ≠ '\\') (hquote : c ∉ delimiter.text) :
    StaysOpen delimiter [c] :=
  fun t => literalBody_of_not_closing hback (not_prefix_cons delimiter.text_ne_nil hquote t)

theorem of_plain (h : ∀ c ∈ s, c ≠ '\\' ∧ c ∉ delimiter.text) : StaysOpen delimiter s := by
  induction s with
  | nil => exact .nil
  | cons c s ih =>
    rw [List.forall_mem_cons] at h
    exact (single h.1.1 h.1.2).append (ih h.2)

end StaysOpen

theorem unescape_of_ne {c : Char} (h : c ≠ '\\') (s : List Char) :
    unescape (c :: s) = c :: unescape s := by
  rw [unescape]
  all_goals
    intros
    contradiction

/-- A letter behind a backslash is resolved by the table. -/
theorem unescape_backslash {x : Char} (hu : x ≠ 'u') (hline : x ≠ '\n') (s : List Char) :
    unescape ('\\' :: x :: s) = escapedChar x :: unescape s := by
  rw [unescape]
  all_goals
    intros
    contradiction

/-- Without a code behind it the letter stands for itself. -/
theorem unescape_letter {s : List Char}
    (h : ∀ a b c d t, s = a :: b :: c :: d :: t → charOfHex? a b c d = none) :
    unescape ('\\' :: 'u' :: s) = 'u' :: unescape s := by
  match s with
  | a :: b :: c :: d :: t => rw [unescape, h a b c d t rfl]
  | [] | [_] | [_, _] | [_, _, _] => rfl

/-- Of a text on one line only the escapes are resolved. -/
theorem literalText_of_not_mem {delimiter : Delimiter} (h : delimiter.isTriple = false)
    {raw : List Char} (hline : '\n' ∉ raw) :
    literalText delimiter raw = String.ofList (unescape raw) := by
  rw [literalText, h]
  simp only [Bool.false_eq_true, ↓reduceIte, foldLines, lines_of_not_mem hline]

theorem indentOf_of_head {line : List Char} (h : ∀ c ∈ line.head?, isBlank c = false) :
    indentOf line = 0 := by
  cases line with
  | nil => rfl
  | cons c line =>
    have hc : ¬isBlank c = true := by simp [h c rfl]
    rw [indentOf, List.takeWhile_cons_of_neg hc]
    rfl

/-- If one of the lines that are kept starts without a blank, all of them are kept as they are. -/
theorem dedent_of_flush {raw line : List Char}
    (hline : line ∈ dropBlankLast (dropBlankFirst (lines raw))) (hsome : isBlankLine line = false)
    (hflush : indentOf line = 0) :
    dedent raw = ['\n'].intercalate (dropBlankLast (dropBlankFirst (lines raw))) := by
  have hindent : (((dropBlankLast (dropBlankFirst (lines raw))).filter (!isBlankLine ·)).map
      indentOf).min?.getD 0 = 0 := by
    apply Nat.le_zero.1
    apply List.min?_getD_le_of_mem
    rw [← hflush]
    exact List.mem_map_of_mem (List.mem_filter.2 ⟨hline, by simp [hsome]⟩)
  simp only [dedent, hindent, dropBytes?, Option.getD_some, List.map_id']

/-- A text without any blanks keeps its only line. -/
theorem dedent_of_not_blank {raw : List Char} (h : ∀ c ∈ raw, isBlank c = false) :
    dedent raw = raw := by
  have hline : '\n' ∉ raw := fun hmem => absurd (h _ hmem) (by simp [isBlank_newline])
  cases raw with
  | nil => rfl
  | cons c raw =>
    have hc := h c List.mem_cons_self
    have hsome : isBlankLine (c :: raw) = false := by simp [isBlankLine, hc]
    have hkept : dropBlankLast (dropBlankFirst (lines (c :: raw))) = [c :: raw] := by
      rw [lines_of_not_mem hline]
      simp [dropBlankLast, dropBlankFirst, hsome]
    have hflush : indentOf (c :: raw) = 0 := indentOf_of_head fun x hx => Option.some.inj hx ▸ hc
    rw [dedent_of_flush (hkept ▸ List.mem_singleton_self _) hsome hflush, hkept]
    simp [List.intercalate]

/-- One quote opens a literal unless two more of them follow. -/
theorem openingQuotes?_of_ne {delimiter : Delimiter} {quote : Char}
    (hdelimiter : delimiter.text = [quote]) {s : List Char} (h : ∀ r, s ≠ quote :: quote :: r) :
    openingQuotes? (quote :: s) = some (delimiter, s) := by
  cases delimiter <;> simp only [Delimiter.text, List.cons.injEq, reduceCtorEq, and_false] at hdelimiter
  all_goals
    obtain ⟨rfl, -⟩ := hdelimiter
    unfold openingQuotes?
    split <;> simp_all

theorem literalBody_closing (delimiter : Delimiter) (rest : List Char) :
    literalBody delimiter.text (delimiter.text ++ rest) = some ([], rest) := by
  cases delimiter <;> simp [Delimiter.text, literalBody]

/-- The quotes around a text are found as they were written, if no further quote stands next to
    them. -/
theorem openingQuotes?_around {delimiter : Delimiter} {raw rest : List Char}
    (hraw : ∀ c ∈ raw.head?, c ∉ delimiter.text) (hrest : ∀ c ∈ rest.head?, c ∉ delimiter.text) :
    openingQuotes? (delimiter.text ++ (raw ++ (delimiter.text ++ rest))) =
      some (delimiter, raw ++ (delimiter.text ++ rest)) := by
  have hshort {quote : Char} (htext : delimiter.text = [quote]) :
      openingQuotes? (quote :: (raw ++ quote :: rest)) = some (delimiter, raw ++ quote :: rest) := by
    rw [htext] at hraw hrest
    apply openingQuotes?_of_ne htext
    intro r heq
    cases raw with
    | nil =>
      obtain rfl := (List.cons.inj heq).2
      exact hrest quote rfl (List.mem_singleton_self quote)
    | cons c raw =>
      obtain rfl := (List.cons.inj heq).1
      exact hraw c rfl (List.mem_singleton_self c)
  cases delimiter with
  | single => exact hshort rfl
  | double => exact hshort rfl
  | tripleSingle => rfl
  | tripleDouble => rfl

section Spells

variable {quote : Char} {write : Char → List Char} (h : Spells quote write)
include h

/-- The closing quote of a literal is the one behind the text. -/
theorem staysOpen_spelled {delimiter : Delimiter} (hdelimiter : delimiter.text = [quote])
    (text : List Char) : StaysOpen delimiter (text.flatMap write) := by
  induction text with
  | nil => exact .nil
  | cons c text ih =>
    rw [List.flatMap_cons]
    obtain ⟨hself, hback, hne, -⟩ | ⟨x, hself, -, -, -⟩ := h c
    · rw [hself]
      exact (StaysOpen.single hback (by simpa [hdelimiter] using hne)).append ih
    · rw [hself]
      exact (StaysOpen.pair x).append ih

/-- Resolving the escapes undoes the writing of them. -/
theorem unescape_spelled (text : List Char) : unescape (text.flatMap write) = text := by
  induction text with
  | nil => rfl
  | cons c text ih =>
    rw [List.flatMap_cons]
    obtain ⟨hself, hback, -, -⟩ | ⟨x, hself, hchar, hu, hline⟩ := h c
    · rw [hself, List.singleton_append, unescape_of_ne hback, ih]
    · rw [hself]
      simp only [List.cons_append, List.nil_append]
      rw [unescape_backslash hu hline, ih, hchar]

/-- A spelled text stands on one line, so nothing of it is folded. -/
theorem not_mem_spelled (text : List Char) : '\n' ∉ text.flatMap write := by
  rw [List.mem_flatMap]
  rintro ⟨c, -, hmem⟩
  obtain ⟨hself, -, -, hline⟩ | ⟨x, hself, -, -, hline⟩ := h c
  · rw [hself, List.mem_singleton] at hmem
    exact hline hmem.symm
  · rw [hself] at hmem
    simp [Ne.symm hline] at hmem

/-- What is written for a text denotes the text. -/
theorem literalText_spelled {delimiter : Delimiter} (hdelimiter : delimiter.isTriple = false)
    (text : String) : literalText delimiter (text.toList.flatMap write) = text := by
  rw [literalText_of_not_mem hdelimiter (not_mem_spelled h text.toList),
    unescape_spelled h text.toList, String.ofList_toList]

/-- What is written for a text does not start with a quote, so that only the opening quote and the
    closing one can stand next to each other. -/
theorem head?_spelled_ne (hquote : quote ≠ '\\') (text : List Char) :
    (text.flatMap write).head? ≠ some quote := by
  cases text with
  | nil => simp
  | cons c text =>
    rw [List.flatMap_cons]
    obtain ⟨hself, -, hne, -⟩ | ⟨x, hself, -⟩ := h c
    · simpa [hself] using hne
    · simpa [hself] using hquote.symm

end Spells

end RuleGraph.Cson
