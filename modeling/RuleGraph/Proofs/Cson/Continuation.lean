import Mathlib
import RuleGraph.Proofs.Cson.Escapes
import RuleGraph.Proofs.Cson.Layout.Scalars

namespace RuleGraph.Cson

open RuleGraph.Text

/-- A text on one line without quotes and backslashes, and without blanks at its ends. -/
structure PlainLine (s : List Char) : Prop where
  plain : ∀ c ∈ s, c ∉ ['\'', '"', '\\', '\n']
  start : ∀ c ∈ s.head?, isBlank c = false
  stop : ∀ c ∈ s.getLast?, isBlank c = false

theorem plainLine_iff {s : List Char} :
    PlainLine s ↔ s.all (· ∉ ['\'', '"', '\\', '\n']) = true ∧ s.head?.all (!isBlank ·) = true ∧
      s.getLast?.all (!isBlank ·) = true := by
  simp only [List.all_eq_true, decide_eq_true_eq, Option.all_eq_true, Bool.not_eq_true',
    ← Option.mem_def]
  exact ⟨fun ⟨hplain, hstart, hstop⟩ => ⟨hplain, hstart, hstop⟩,
    fun ⟨hplain, hstart, hstop⟩ => ⟨hplain, hstart, hstop⟩⟩

instance (s : List Char) : Decidable (PlainLine s) :=
  decidable_of_iff _ plainLine_iff.symm

/-- Two texts on lines of their own, where the first line ends in a backslash. -/
def continued (x y : List Char) : List Char :=
  x ++ '\\' :: '\n' :: y

/-- The text that the two lines denote. -/
def joined (delimiter : Delimiter) (x y : List Char) : List Char :=
  x ++ if y = [] then ['\\'] else if delimiter.isTriple then y else ' ' :: y

/-- A property of the first characters of both parts is one of the first character of the whole. -/
theorem head_append_cons {P : Char → Prop} {c : Char} {x : List Char} (hc : P c)
    (hx : ∀ d ∈ x.head?, P d) (s : List Char) : ∀ d ∈ (x ++ c :: s).head?, P d := by
  intro d hd
  cases x with
  | nil => exact Option.some.inj hd ▸ hc
  | cons first x => exact hx d hd

namespace PlainLine

variable {delimiter : Delimiter} {s x y : List Char}

theorem ne_backslash (h : PlainLine s) : ∀ c ∈ s, c ≠ '\\' := by
  rintro c hc rfl
  exact h.plain _ hc (by decide)

theorem newline_not_mem (h : PlainLine s) : '\n' ∉ s :=
  fun hmem => h.plain _ hmem (by decide)

theorem not_mem_text (h : PlainLine s) : ∀ c ∈ s, c ∉ delimiter.text := by
  intro c hc hquote
  obtain rfl | rfl := Delimiter.quote_of_mem_text hquote
  · exact h.plain _ hc (by decide)
  · exact h.plain _ hc (by decide)

theorem isBlankLine_eq (h : PlainLine s) (hsome : s ≠ []) : isBlankLine s = false := by
  obtain ⟨c, r, rfl⟩ := List.exists_cons_of_ne_nil hsome
  simp [isBlankLine, h.start c rfl]

theorem unescape_eq (h : PlainLine s) : unescape s = s :=
  unescape_eq_self h.ne_backslash

/-- Without quotes and backslashes no closing quotes come up. -/
theorem staysOpen (h : PlainLine s) : StaysOpen delimiter s :=
  .of_plain fun c hc => ⟨h.ne_backslash c hc, h.not_mem_text c hc⟩

/-- The backslash ends the first of two lines. -/
theorem lines_continued (hx : PlainLine x) (hy : PlainLine y) :
    lines (continued x y) = [x ++ ['\\'], y] := by
  have hline : '\n' ∉ x ++ ['\\'] := by simp [hx.newline_not_mem]
  rw [continued, List.append_cons, lines_append_newline hline, lines_of_not_mem hy.newline_not_mem]

/-- Folding puts a space behind the backslash. -/
theorem foldLines_continued (hx : PlainLine x) (hy : PlainLine y) :
    foldLines (continued x y) = x ++ '\\' :: if y = [] then [] else ' ' :: y := by
  have hfirst : trimEnd (x ++ ['\\']) = x ++ ['\\'] := trimEnd_of_last (by simp; decide)
  have hlast : trimStart y = y := trimStart_of_head hy.start
  simp only [foldLines, lines_continued hx hy, trimLater, hfirst, hlast]
  split
  · next hnone => simp [hnone, List.intercalate]
  · next hsome => simp [hsome, List.intercalate]

/-- Dedenting keeps the line feed behind the backslash, if something follows it. -/
theorem dedent_continued (hx : PlainLine x) (hy : PlainLine y) :
    dedent (continued x y) = x ++ '\\' :: if y = [] then [] else '\n' :: y := by
  have hfirst : isBlankLine (x ++ ['\\']) = false := List.all_eq_false.2 ⟨'\\', by simp, by decide⟩
  have hnil : isBlankLine [] = true := rfl
  have hflush : indentOf (x ++ ['\\']) = 0 :=
    indentOf_of_head (head_append_cons (by decide) hx.start [])
  have hkept : dropBlankLast (dropBlankFirst (lines (continued x y))) =
      (x ++ ['\\']) :: if y = [] then [] else [y] := by
    rw [lines_continued hx hy]
    split
    · next hnone => simp [dropBlankFirst, dropBlankLast, hfirst, hnil, hnone]
    · next hsome => simp [dropBlankFirst, dropBlankLast, hfirst, hy.isBlankLine_eq hsome]
  rw [dedent_of_flush (hkept ▸ List.mem_cons_self) hfirst hflush, hkept]
  split <;> simp [List.intercalate]

/-- Lines are folded or dedented before escapes are resolved: in single or double quotes the
    backslash meets a space instead of the line feed, and a last line without characters is gone. -/
theorem literalText_continued (hx : PlainLine x) (hy : PlainLine y) :
    literalText delimiter (continued x y) = String.ofList (joined delimiter x y) := by
  have hline (s : List Char) : unescape ('\\' :: '\n' :: s) = unescape s := by rw [unescape]
  have hspace := unescape_backslash (x := ' ') (by decide) (by decide) y
  rw [literalText, foldLines_continued hx hy, dedent_continued hx hy, joined]
  congr 1
  cases delimiter.isTriple with
  | false =>
    simp only [Bool.false_eq_true, ↓reduceIte]
    rw [unescape_append hx.ne_backslash]
    split
    · rfl
    · rw [hspace, hy.unescape_eq]
      rfl
  | true =>
    simp only [↓reduceIte]
    rw [unescape_append hx.ne_backslash]
    split
    · rfl
    · rw [hline, hy.unescape_eq]

end PlainLine

/-- The two lines are joined without anything between them only within three quotes, and only if
    there is a second one. -/
theorem joined_eq_append_iff {delimiter : Delimiter} {x y : List Char} :
    joined delimiter x y = x ++ y ↔ delimiter.isTriple = true ∧ y ≠ [] := by
  rw [joined, List.append_cancel_left_eq]
  split
  · next hnone => simp [hnone]
  · next hsome =>
    split
    · next htriple => simp [htriple, hsome]
    · next hsingle => simp [hsingle]

theorem ok_string_inj {place : Place} {text text' : String} :
    (.ok [⟨.string text, place⟩] : Except Error (List Lexeme)) = .ok [⟨.string text', place⟩] ↔
      text = text' := by
  simp

/-- A backslash at the end of a line joins the lines exactly if there are three quotes and the second
    line is not empty. Otherwise a space takes the place of the line feed, or the backslash is the last
    character. -/
theorem tokens_continued (delimiter : Delimiter) {x y : List Char} (hx : PlainLine x)
    (hy : PlainLine y) :
    let written := delimiter.text ++ continued x y ++ delimiter.text
    tokens written = .ok [⟨.string (String.ofList (joined delimiter x y)), {}⟩] ∧
      (tokens written = .ok [⟨.string (String.ofList (x ++ y)), {}⟩] ↔
        delimiter.isTriple = true ∧ y ≠ []) := by
  have hopen : StaysOpen delimiter (continued x y) :=
    hx.staysOpen.append ((StaysOpen.pair '\n').append hy.staysOpen)
  have hstart : ∀ c ∈ (continued x y).head?, c ∉ delimiter.text :=
    head_append_cons delimiter.backslash_not_mem_text
      (fun c hc => hx.not_mem_text c (List.mem_of_mem_head? hc)) _
  have hread := tokens_literal hopen hstart
  rw [hx.literalText_continued hy] at hread
  refine ⟨hread, ?_⟩
  rw [hread, ok_string_inj, String.ofList_inj, joined_eq_append_iff]

/-- Between three quotes the lines are joined, in double quotes they are folded. -/
theorem tokens_continued_words :
    PlainLine ['a', ' ', 'é'] ∧ PlainLine ['b'] ∧
      tokens ['"', '"', '"', 'a', ' ', 'é', '\\', '\n', 'b', '"', '"', '"'] =
        .ok [⟨.string "a éb", {}⟩] ∧
      tokens ['"', 'a', ' ', 'é', '\\', '\n', 'b', '"'] = .ok [⟨.string "a é b", {}⟩] := by
  have hx : PlainLine ['a', ' ', 'é'] := by decide
  have hy : PlainLine ['b'] := by decide
  refine ⟨hx, hy, ?_, ?_⟩
  · exact (tokens_continued .tripleDouble hx hy).2.2 ⟨rfl, List.cons_ne_nil _ _⟩
  · exact (tokens_continued .double hx hy).1

/-- Folding comes before the escapes, so that the backslash is in front of a space. -/
theorem not_forall_tokens_continued :
    ¬∀ (delimiter : Delimiter) (x y : List Char), PlainLine x → PlainLine y →
      tokens (delimiter.text ++ continued x y ++ delimiter.text) =
        .ok [⟨.string (String.ofList (x ++ y)), {}⟩] := by
  intro h
  have hjoined := h .single ['a'] ['b'] (by decide) (by decide)
  have hread : tokens ['\'', 'a', '\\', '\n', 'b', '\''] = .ok [⟨.string "a b", {}⟩] := by cbv
  exact absurd (ok_string_inj.1 (hread.symm.trans hjoined)) (by decide)

end RuleGraph.Cson
