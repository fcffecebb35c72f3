import RuleGraph.Decimal.Digits
import RuleGraph.Text.Blank
import RuleGraph.Text.Line

namespace RuleGraph.Cson

open RuleGraph.Text

/-- The quotes around a literal. -/
inductive Delimiter where
  | single
  | double
  | tripleSingle
  | tripleDouble
  deriving Repr, DecidableEq

namespace Delimiter

/-- The quotes as written. -/
def text : Delimiter → List Char
  | .single => ['\'']
  | .double => ['"']
  | .tripleSingle => ['\'', '\'', '\'']
  | .tripleDouble => ['"', '"', '"']

/-- Whether the literal keeps its lines. -/
def isTriple : Delimiter → Bool
  | .tripleSingle | .tripleDouble => true
  | .single | .double => false

end Delimiter

/-- The cuts at the ends of lines that come after the first one. -/
def trimLater : List (List Char) → List (List Char)
  | [] => []
  | [last] => [trimStart last]
  | line :: later => trim line :: trimLater later

/-- Joins the lines of a text with single spaces. Blanks next to a line end go away, and so do
    lines that are blank; a text of one line stays as it is. -/
def foldLines (raw : List Char) : List Char :=
  match lines raw with
  | [] => []
  | [line] => line
  | first :: later => [' '].intercalate ((trimEnd first :: trimLater later).filter (· ≠ []))

/-- Whether a line has nothing but blanks. -/
def isBlankLine (line : List Char) : Bool :=
  line.all isBlank

/-- The bytes of blanks at the start of a line. -/
def indentOf (line : List Char) : Nat :=
  byteLength (line.takeWhile isBlank)

/-- Without the first line, if that one is blank. -/
def dropBlankFirst : List (List Char) → List (List Char)
  | [] => []
  | line :: later => if isBlankLine line then later else line :: later

/-- Without the last line, if that one is blank. -/
def dropBlankLast (lines : List (List Char)) : List (List Char) :=
  (dropBlankFirst lines.reverse).reverse

/-- Takes away a blank first line, a blank last line, and as many bytes at the start of every line
    as all lines that are not blank have in common as indentation. A line that is too short for
    that loses all its leading blanks. -/
def dedent (raw : List Char) : List Char :=
  let kept := dropBlankLast (dropBlankFirst (lines raw))
  let indents := (kept.filter (!isBlankLine ·)).map indentOf
  let indent := indents.min?.getD 0
  ['\n'].intercalate (kept.map fun line => (dropBytes? indent line).getD (trimStart line))

/-- The character that a letter stands for behind a backslash; any other character stands for
    itself. -/
def escapedChar : Char → Char
  | 'n' => '\n'
  | 't' => '\t'
  | 'r' => '\r'
  | 'b' => '\x08'
  | 'f' => '\x0c'
  | 'v' => '\x0b'
  | '0' => '\x00'
  | c => c

/-- The character with the given code point, or the replacement character for a surrogate. -/
def charOfCode (code : Nat) : Char :=
  if code.isValidChar then Char.ofNat code else '\ufffd'

/-- The character of four characters behind `\u`: hexadecimal digits, of which the first may be
    replaced by a plus sign. -/
def charOfHex? (a b c d : Char) : Option Char :=
  (natOfDigits? 16 (if a = '+' then [b, c, d] else [a, b, c, d])).map charOfCode

/-- Resolves the escapes of a text from left to right. A backslash at the end of a line joins the
    lines, and a single one at the end of the text stays. -/
def unescape : List Char → List Char
  | [] => []
  | ['\\'] => ['\\']
  | '\\' :: 'u' :: a :: b :: c :: d :: s =>
    match charOfHex? a b c d with
    | some x => x :: unescape s
    | none => 'u' :: unescape (a :: b :: c :: d :: s)
  | '\\' :: '\n' :: s => unescape s
  | '\\' :: c :: s => escapedChar c :: unescape s
  | c :: s => c :: unescape s

/-- The text that a literal denotes, given what stands between its quotes. In single or double
    quotes its lines are folded into one; in three quotes they stay and lose their common
    indentation. Only after that are escapes resolved. -/
def literalText (delimiter : Delimiter) (raw : List Char) : String :=
  String.ofList (unescape (if delimiter.isTriple then dedent raw else foldLines raw))

end RuleGraph.Cson
