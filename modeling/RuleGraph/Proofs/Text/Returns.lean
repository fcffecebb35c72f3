import RuleGraph.Proofs.Text.LineEnds
import RuleGraph.Text.Blank

namespace RuleGraph.Text

/-- The text with a carriage return in front of every line feed. -/
def withReturns : List Char → List Char
  | [] => []
  | c :: s => if c = '\n' then '\r' :: '\n' :: withReturns s else c :: withReturns s

@[simp] theorem withReturns_nil : withReturns [] = [] := rfl

@[simp] theorem withReturns_newline (s : List Char) :
    withReturns ('\n' :: s) = '\r' :: '\n' :: withReturns s := rfl

theorem withReturns_cons {c : Char} (h : c ≠ '\n') (s : List Char) :
    withReturns (c :: s) = c :: withReturns s := by
  rw [withReturns, if_neg h]

/-- The line end is a carriage return and a line feed. -/
theorem withReturns_eq_withLineEnds (s : List Char) :
    withReturns s = withLineEnds ['\r', '\n'] s := by
  induction s with
  | nil => rfl
  | cons c s ih =>
    by_cases hc : c = '\n'
    · rw [hc, withReturns_newline, withLineEnds_newline, ih]
      rfl
    · rw [withReturns_cons hc, withLineEnds_cons hc, ih]

/-- A text of one line has no line feed to change. -/
theorem withReturns_of_not_mem {s : List Char} (h : '\n' ∉ s) : withReturns s = s := by
  rw [withReturns_eq_withLineEnds, withLineEnds_of_not_mem h]

/-- All lines but the last one end in a carriage return. -/
def returnLines : List (List Char) → List (List Char)
  | [] => []
  | [last] => [last]
  | line :: later => (line ++ ['\r']) :: returnLines later

/-- Every line but the last one ends in a carriage return. -/
theorem returnLines_cons {later : List (List Char)} (h : later ≠ []) (line : List Char) :
    returnLines (line :: later) = (line ++ ['\r']) :: returnLines later := by
  cases later with
  | nil => exact absurd rfl h
  | cons second later => rfl

theorem returnLines_ne_nil {lines : List (List Char)} (h : lines ≠ []) :
    returnLines lines ≠ [] := by
  obtain ⟨line, later, rfl⟩ := List.exists_cons_of_ne_nil h
  cases later <;> simp [returnLines]

/-- The lines of such a text are the lines before, with their carriage returns. -/
theorem lines_withReturns (s : List Char) : lines (withReturns s) = returnLines (lines s) := by
  induction s with
  | nil => rfl
  | cons c s ih =>
    by_cases hc : c = '\n'
    · subst hc
      rw [withReturns_newline, lines, if_neg (by decide), lines, if_pos rfl, ih, lines, if_pos rfl,
        returnLines_cons (lines_ne_nil s)]
      rfl
    · rw [withReturns_cons hc, lines, if_neg hc, ih, lines, if_neg hc]
      obtain ⟨line, later, hlines⟩ := List.exists_cons_of_ne_nil (lines_ne_nil s)
      rw [hlines]
      cases later <;> rfl

section Trimming

variable {c : Char} (hblank : isBlank c = true)
include hblank

/-- A blank at the end is cut off with the others. -/
theorem trimEnd_append_blank (s : List Char) : trimEnd (s ++ [c]) = trimEnd s := by
  rw [trimEnd, trimEnd, List.reverse_append, List.reverse_singleton, List.singleton_append,
    List.dropWhile_cons_of_pos hblank]

/-- A blank behind a text is cut off with the other blanks at its end. -/
theorem trim_append_blank (s : List Char) : trim (s ++ [c]) = trim s := by
  rw [trim, trim, trimStart, trimStart, List.dropWhile_append]
  split
  · rename_i hall
    rw [List.isEmpty_iff.1 hall, List.dropWhile_cons_of_pos hblank]
    rfl
  · rw [trimEnd_append_blank hblank]

end Trimming

/-- A carriage return is blank. -/
theorem isBlank_return : isBlank '\r' = true := by decide

end RuleGraph.Text
