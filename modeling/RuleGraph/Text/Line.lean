namespace RuleGraph.Text

/-- The lines of a text, which its line feeds separate. There is always at least one. -/
def lines : List Char → List (List Char)
  | [] => [[]]
  | c :: s =>
    if c = '\n' then [] :: lines s
    else
      match lines s with
      | [] => [[c]]
      | line :: later => (c :: line) :: later

/-- The bytes of a text in UTF-8. -/
def byteLength (s : List Char) : Nat :=
  s.foldr (fun c n => c.utf8Size + n) 0

/-- The text without its first `n` bytes, unless there are fewer or the cut goes through a
    character. -/
def dropBytes? : Nat → List Char → Option (List Char)
  | 0, s => some s
  | _ + 1, [] => none
  | n + 1, c :: s => if c.utf8Size ≤ n + 1 then dropBytes? (n + 1 - c.utf8Size) s else none

/-- Even the empty text has a line. -/
theorem lines_ne_nil (s : List Char) : lines s ≠ [] := by
  cases s with
  | nil => simp [lines]
  | cons c s =>
    simp only [lines]
    split
    · simp
    · split <;> simp

/-- Joining the lines with line feeds gives the text back. -/
theorem intercalate_lines (s : List Char) : ['\n'].intercalate (lines s) = s := by
  induction s with
  | nil => simp [lines, List.intercalate]
  | cons c s ih =>
    simp only [lines]
    split
    · rename_i h
      have hne := lines_ne_nil s
      cases hl : lines s with
      | nil => exact absurd hl hne
      | cons line later =>
        rw [hl] at ih
        simp only [List.intercalate, List.intersperse, List.flatten_cons] at ih ⊢
        simp [ih, h]
    · split
      · rename_i hl
        exact absurd hl (lines_ne_nil s)
      · rename_i line later hl
        rw [hl] at ih
        cases later with
        | nil => simpa [List.intercalate, List.intersperse] using ih
        | cons second later => simpa [List.intercalate, List.intersperse] using ih

end RuleGraph.Text
