import RuleGraph.Decimal.Digits
import RuleGraph.Yaml.Scalar.Gap
import RuleGraph.Yaml.Source

namespace RuleGraph.Yaml

/-- The text of a quoted scalar, and the number of characters taken, with the closing quote. -/
abbrev QuotedScalar := String × Nat

/-- What has been read of a quoted scalar. -/
structure QuotedState where
  /-- Whether the next character is the first one of a line. -/
  lineStart : Bool := false
  /-- The number of characters taken, with the opening quote. -/
  taken : Nat := 1
  /-- The gap behind the text. -/
  gap : Gap := .empty
  /-- The text, the last character first. -/
  reversed : List Char := []

namespace QuotedState

/-- One more blank in the gap. -/
def addBlank (state : QuotedState) (c : Char) : QuotedState :=
  { state with lineStart := false, taken := state.taken + 1, gap := state.gap.addBlank c }

/-- One more line end in the gap. -/
def addBreak (state : QuotedState) (c : Char) : QuotedState :=
  { state with lineStart := true, taken := state.taken + 1, gap := state.gap.addBreak c }

/-- The text with what is left of the gap. -/
def closeGap (state : QuotedState) : List Char :=
  state.gap.folded.reverse ++ state.reversed

/-- One more character of the text, for which `taken` characters stand in the source. -/
def add (state : QuotedState) (c : Char) (taken : Nat) : QuotedState :=
  { taken := state.taken + taken, reversed := c :: state.closeGap }

/-- A line end that is escaped: it adds nothing, and blanks at the start of the next line do not
    count. -/
def joinLine (state : QuotedState) : QuotedState :=
  { lineStart := true, taken := state.taken + 2, gap := .breaks none [],
    reversed := state.closeGap }

/-- The scalar that ends with the next character. -/
def finish (state : QuotedState) : QuotedScalar :=
  (String.ofList state.closeGap.reverse, state.taken + 1)

end QuotedState

/-- Reads on with a scalar in single quotes, where a quote is written twice. -/
def singleFrom (state : QuotedState) : List Char → Option QuotedScalar
  | [] => none
  | '\'' :: '\'' :: s => singleFrom (state.add '\'' 2) s
  | c :: s =>
    if isSpaceOrTab c then singleFrom (state.addBlank c) s
    else if isBreak c then singleFrom (state.addBreak c) s
    else if state.lineStart && atDocumentMark (c :: s) then none
    else if c = '\'' then some state.finish
    else singleFrom (state.add c 1) s

/-- The scalar in single quotes behind its opening quote. -/
def singleQuoted? (s : List Char) : Option QuotedScalar :=
  singleFrom {} s

/-- The character that a sign stands for behind a backslash. -/
def escapedChar? : Char → Option Char
  | '0' => some '\x00'
  | 'a' => some '\x07'
  | 'b' => some '\x08'
  | 't' => some '\t'
  | '\t' => some '\t'
  | 'n' => some '\n'
  | 'v' => some '\x0b'
  | 'f' => some '\x0c'
  | 'r' => some '\r'
  | 'e' => some '\x1b'
  | ' ' => some ' '
  | '"' => some '"'
  | '/' => some '/'
  | '\\' => some '\\'
  | 'N' => some '\u0085'
  | '_' => some '\u00a0'
  | 'L' => some '\u2028'
  | 'P' => some '\u2029'
  | _ => none

/-- The number of hexadecimal digits that a letter asks for behind a backslash. -/
def escapeDigits? : Char → Option Nat
  | 'x' => some 2
  | 'u' => some 4
  | 'U' => some 8
  | _ => none

/-- The character with the code point that the first `count` characters write. A surrogate is none,
    and neither is a number that is too large. -/
def hexChar? (count : Nat) (s : List Char) : Option Char :=
  let digits := s.take count
  if digits.length < count then none
  else
    match natOfDigits? 16 digits with
    | some code => if code.isValidChar then some (Char.ofNat code) else none
    | none => none

/-- Reads on with a scalar in double quotes. -/
def doubleFrom (state : QuotedState) : List Char → Option QuotedScalar
  | [] => none
  | c :: s =>
    if isSpaceOrTab c then doubleFrom (state.addBlank c) s
    else if isBreak c then doubleFrom (state.addBreak c) s
    else if state.lineStart && atDocumentMark (c :: s) then none
    else if c = '"' then some state.finish
    else if c = '\\' then
      match s with
      | [] => none
      | d :: s =>
        if isBreak d then doubleFrom state.joinLine s
        else
          match escapedChar? d, escapeDigits? d with
          | some x, _ => doubleFrom (state.add x 2) s
          | none, none => none
          | none, some count =>
            match hexChar? count s with
            | some x => doubleFrom (state.add x (2 + count)) (s.drop count)
            | none => none
    else doubleFrom (state.add c 1) s
termination_by s => s.length
decreasing_by all_goals (simp; try omega)

/-- The scalar in double quotes behind its opening quote. -/
def doubleQuoted? (s : List Char) : Option QuotedScalar :=
  doubleFrom {} s

end RuleGraph.Yaml
