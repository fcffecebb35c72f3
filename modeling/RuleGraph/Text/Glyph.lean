import RuleGraph.Text.Columns

namespace RuleGraph.Text

/-- The character that begins an escape sequence. -/
def escapeMark : Char := '\x1b'

/-- The length of a command to the operating system behind its first character, where `last` has
    been read. It ends in a bell, or in an escape sequence that is a backslash. -/
def commandLength (last : Char) : List Char → Nat
  | [] => 0
  | c :: s =>
    if c = '\x07' ∨ (last = escapeMark ∧ c = '\\') then 1 else 1 + commandLength c s

/-- The length of a control sequence behind its first character. It ends in a letter or one of the
    marks beside the letters. -/
def controlLength : List Char → Nat
  | [] => 0
  | c :: s => if '@' ≤ c ∧ c ≤ '~' then 1 else 1 + controlLength s

/-- The length of an escape sequence behind the escape character. -/
def escapeLength : List Char → Nat
  | [] => 0
  | '[' :: s => 1 + controlLength s
  | ']' :: s => 1 + commandLength ']' s
  | _ :: _ => 1

/-- A character and the escape sequences before it, or the escape sequences at the end of a text.
    Escape sequences set colours and links and show nothing. -/
structure Glyph where
  escapes : List Char
  letter : Option Char
  deriving Repr, DecidableEq

namespace Glyph

/-- All characters of a glyph. -/
def chars (glyph : Glyph) : List Char :=
  glyph.escapes ++ glyph.letter.toList

/-- The columns that a glyph takes up. -/
def columns (glyph : Glyph) : Nat :=
  (glyph.letter.map Text.columns).getD 0

end Glyph

/-- The glyphs of a text, where escape sequences stand before it. -/
def glyphsFrom (escapes : List Char) : List Char → List Glyph
  | [] => if escapes.isEmpty then [] else [⟨escapes, none⟩]
  | c :: s =>
    if c = escapeMark then
      glyphsFrom (escapes ++ c :: s.take (escapeLength s)) (s.drop (escapeLength s))
    else ⟨escapes, some c⟩ :: glyphsFrom [] s
termination_by s => s.length

/-- The glyphs of a text. -/
def glyphs (s : List Char) : List Glyph :=
  glyphsFrom [] s

/-- The columns that a text takes up. -/
def width (s : List Char) : Nat :=
  (glyphs s).foldr (fun glyph n => glyph.columns + n) 0

end RuleGraph.Text
