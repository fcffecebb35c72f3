namespace RuleGraph.Yaml

/-- The blanks and line ends between two pieces of text inside a scalar. -/
inductive Gap where
  /-- Blanks within a line, the last one first. -/
  | blanks (reversed : List Char)
  /-- The end of a line, which is none of the text if it is escaped, and the further line ends
      after it, the last one first. Blanks do not count any more. -/
  | breaks (first : Option Char) (reversedLater : List Char)

namespace Gap

/-- No gap. -/
def empty : Gap := .blanks []

/-- Whether there is no gap. -/
def isEmpty : Gap → Bool
  | .blanks [] => true
  | _ => false

/-- Whether the gap goes over the end of a line. -/
def crossesLine : Gap → Bool
  | .blanks _ => false
  | .breaks _ _ => true

/-- The gap with one more blank. -/
def addBlank (c : Char) : Gap → Gap
  | .blanks reversed => .blanks (c :: reversed)
  | gap => gap

/-- The gap with one more line end. -/
def addBreak (c : Char) : Gap → Gap
  | .blanks _ => .breaks (some c) []
  | .breaks first later => .breaks first (c :: later)

/-- What the gap adds to the text. A single line feed becomes a space; further ones stay, and then
    the first one vanishes. -/
def folded : Gap → List Char
  | .blanks reversed => reversed.reverse
  | .breaks (some first) later =>
    if first = '\n' then if later.isEmpty then [' '] else later.reverse
    else first :: later.reverse
  | .breaks none later => later.reverse

end Gap

end RuleGraph.Yaml
