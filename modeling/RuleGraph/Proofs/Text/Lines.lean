import Mathlib.Data.List.Basic
import RuleGraph.Text.Line

namespace RuleGraph.Text

theorem not_mem_of_mem_lines {s line : List Char} (h : line ∈ lines s) : '\n' ∉ line := by
  induction s generalizing line with
  | nil =>
    rw [lines, List.mem_singleton] at h
    rw [h]
    exact List.not_mem_nil
  | cons c s ih =>
    obtain ⟨first, later, hlines⟩ := List.exists_cons_of_ne_nil (lines_ne_nil s)
    rw [hlines] at ih
    by_cases hc : c = '\n'
    · rw [lines, if_pos hc, hlines, List.mem_cons] at h
      obtain rfl | h := h
      · exact List.not_mem_nil
      · exact ih h
    · rw [lines, if_neg hc, hlines, List.mem_cons] at h
      obtain rfl | h := h
      · rw [List.mem_cons, not_or]
        exact ⟨Ne.symm hc, ih List.mem_cons_self⟩
      · exact ih (List.mem_cons_of_mem _ h)

theorem lines_of_not_mem {s : List Char} (h : '\n' ∉ s) : lines s = [s] := by
  induction s with
  | nil => rfl
  | cons c s ih =>
    rw [List.mem_cons, not_or] at h
    rw [lines, if_neg (Ne.symm h.1), ih h.2]

/-- A line feed ends the first line. -/
theorem lines_append_newline {line : List Char} (h : '\n' ∉ line) (s : List Char) :
    lines (line ++ '\n' :: s) = line :: lines s := by
  induction line with
  | nil => rw [List.nil_append, lines, if_pos rfl]
  | cons c line ih =>
    rw [List.mem_cons, not_or] at h
    rw [List.cons_append, lines, if_neg (Ne.symm h.1), ih h.2]

/-- A text without line feeds makes the first line longer. -/
theorem lines_append {front s line : List Char} {later : List (List Char)} (h : '\n' ∉ front)
    (hs : lines s = line :: later) : lines (front ++ s) = (front ++ line) :: later := by
  induction front with
  | nil => exact hs
  | cons c front ih =>
    rw [List.mem_cons, not_or] at h
    rw [List.cons_append, lines, if_neg (Ne.symm h.1), ih h.2]
    rfl

/-- Lines that are joined with line feeds are found again. -/
theorem lines_intercalate {parts : List (List Char)} (hsome : parts ≠ [])
    (h : ∀ line ∈ parts, '\n' ∉ line) : lines (['\n'].intercalate parts) = parts := by
  induction parts with
  | nil => exact absurd rfl hsome
  | cons line parts ih =>
    rw [List.forall_mem_cons] at h
    cases parts with
    | nil => simpa [List.intercalate] using lines_of_not_mem h.1
    | cons second parts =>
      rw [List.intercalate_cons_cons, List.append_assoc, List.singleton_append,
        lines_append_newline h.1, ih (List.cons_ne_nil _ _) h.2]

end RuleGraph.Text
