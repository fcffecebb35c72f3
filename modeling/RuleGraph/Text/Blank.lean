import RuleGraph.Text.Ranges

namespace RuleGraph.Text

/-- The ranges of the property White_Space, each with its first and its last code point. -/
def blankRanges : List (Nat × Nat) :=
  [(0x09, 0x0D), (0x20, 0x20), (0x85, 0x85), (0xA0, 0xA0), (0x1680, 0x1680), (0x2000, 0x200A),
    (0x2028, 0x2029), (0x202F, 0x202F), (0x205F, 0x205F), (0x3000, 0x3000)]

/-- A character with the property White_Space. -/
def isBlank (c : Char) : Bool :=
  inRanges blankRanges c.toNat

/-- The text from its first character that is not blank. -/
def trimStart (s : List Char) : List Char :=
  s.dropWhile isBlank

/-- The text up to its last character that is not blank. -/
def trimEnd (s : List Char) : List Char :=
  s.reverse.dropWhile isBlank |>.reverse

/-- The text without the blanks at both ends. -/
def trim (s : List Char) : List Char :=
  trimEnd (trimStart s)

/-- A text that does not start with a blank is trimmed already. -/
theorem trimStart_of_head {s : List Char} (h : ∀ c ∈ s.head?, isBlank c = false) :
    trimStart s = s := by
  cases s with
  | nil => rfl
  | cons c s => exact List.dropWhile_cons_of_neg (by simp [h c rfl])

/-- A text that does not end with a blank is trimmed already. -/
theorem trimEnd_of_last {s : List Char} (h : ∀ c ∈ s.getLast?, isBlank c = false) :
    trimEnd s = s := by
  rw [← List.head?_reverse] at h
  have hreverse : s.reverse.dropWhile isBlank = s.reverse := trimStart_of_head h
  rw [trimEnd, hreverse, List.reverse_reverse]

/-- A line feed is blank, so blanks run over the ends of lines. -/
theorem isBlank_newline : isBlank '\n' = true := by decide

/-- The mark of a comment is not blank. -/
theorem isBlank_hash : isBlank '#' = false := by decide

end RuleGraph.Text
