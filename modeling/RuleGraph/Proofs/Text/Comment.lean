import RuleGraph.Proofs.Text.Escape
import RuleGraph.Text.Comment

namespace RuleGraph.Text

/-- A text without comment marks has no comments. -/
theorem stripFrom_of_not_mem {s : List Char} (h : '#' ∉ s) (held : List Char) :
    stripFrom held s = held.reverse ++ s := by
  induction s generalizing held with
  | nil => simp [stripFrom]
  | cons c s ih =>
    obtain ⟨hc, hs⟩ := not_or.1 (mt List.mem_cons.2 h)
    rw [stripFrom, if_neg (Ne.symm hc)]
    split
    · rw [ih hs, List.reverse_cons, List.append_assoc, List.singleton_append]
    · rw [ih hs]
      rfl

/-- A blank needs no escaping. -/
theorem ne_of_isBlank {c : Char} (h : isBlank c = true) : c ≠ '\\' ∧ c ≠ '"' := by
  constructor <;> rintro rfl <;> revert h <;> decide

/-- Blanks are not escaped. -/
theorem escapeChars_reverse_of_blank {held : List Char} (h : ∀ c ∈ held, isBlank c = true) :
    escapeChars held.reverse = held.reverse :=
  escapeChars_of_plain fun c hc => ne_of_isBlank (h c (List.mem_reverse.1 hc))

/-- A character that is neither a mark nor a blank ends the run of blanks before it, escaped or not.
    -/
theorem stripFrom_escapeChar (c : Char) (s held : List Char) (hmark : c ≠ '#')
    (hblank : isBlank c = false) :
    stripFrom held (escapeChar c ++ s) = held.reverse ++ escapeChar c ++ stripFrom [] s := by
  have hslash : isBlank '\\' = false := by decide
  unfold escapeChar
  split
  · simp [stripFrom, hslash, hmark, hblank]
  · simp [stripFrom, hmark, hblank]

/-- Inside a comment everything is taken out, escaped or not. -/
theorem stripComment_escapeChar (c : Char) (s : List Char) (h : c ≠ '\n') :
    stripComment (escapeChar c ++ s) = stripComment s := by
  unfold escapeChar
  split <;> simp [stripComment, h]

theorem escapeChar_of_ne {c : Char} (h : c ≠ '\\' ∧ c ≠ '"') : escapeChar c = [c] := by
  simp [escapeChar, h]

mutual

/-- Outside of a comment, escaping before and after gives the same, since it adds and takes no
    comment mark, no blank and no line feed. The blanks that are held back are not escaped. -/
theorem stripFrom_escapeChars {held : List Char} (hheld : ∀ c ∈ held, isBlank c = true)
    (s : List Char) :
    stripFrom held (escapeChars s) = escapeChars (stripFrom held s) := by
  match s with
  | [] =>
    rw [escapeChars_nil, stripFrom, escapeChars_reverse_of_blank hheld]
  | c :: s =>
    rw [escapeChars_cons]
    by_cases hmark : c = '#'
    · subst hmark
      rw [escapeChar_of_ne (by decide), List.singleton_append, stripFrom, stripFrom, if_pos rfl,
        if_pos rfl, stripComment_escapeChars s]
    · by_cases hblank : isBlank c = true
      · have hmore : ∀ d ∈ c :: held, isBlank d = true := by
          simpa [hblank] using hheld
        rw [escapeChar_of_ne (ne_of_isBlank hblank), List.singleton_append, stripFrom, stripFrom,
          if_neg hmark, if_neg hmark, if_pos hblank, if_pos hblank, stripFrom_escapeChars hmore s]
      · rw [stripFrom_escapeChar c _ held hmark (by simpa using hblank),
          stripFrom_escapeChars (by simp) s, stripFrom, if_neg hmark, if_neg hblank,
          escapeChars_append, escapeChars_reverse_of_blank hheld, escapeChars_cons,
          List.append_assoc]

/-- Inside of a comment, the same holds. -/
theorem stripComment_escapeChars (s : List Char) :
    stripComment (escapeChars s) = escapeChars (stripComment s) := by
  match s with
  | [] => rfl
  | c :: s =>
    rw [escapeChars_cons]
    by_cases hbreak : c = '\n'
    · subst hbreak
      have hheld : ∀ d ∈ ['\n'], isBlank d = true := by simp [isBlank_newline]
      rw [escapeChar_of_ne (by decide), List.singleton_append, stripComment, stripComment,
        if_pos rfl, if_pos rfl, stripFrom_escapeChars hheld s]
    · rw [stripComment_escapeChar c _ hbreak, stripComment_escapeChars s, stripComment,
        if_neg hbreak]

end

end RuleGraph.Text
