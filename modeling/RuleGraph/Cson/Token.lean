namespace RuleGraph.Cson

/-- A token. A line feed is one, since it separates entries and opens indented blocks. -/
inductive Token where
  | openBrace
  | closeBrace
  | openBracket
  | closeBracket
  | colon
  | comma
  | newline
  /-- A quoted text, after its escapes are resolved. -/
  | string (text : String)
  /-- A number as written. -/
  | number (text : String)
  /-- A bare word as written. -/
  | word (text : String)
  deriving Repr, DecidableEq

namespace Token

/-- How messages name a token. -/
def describe : Token → String
  | .openBrace => "`\x7b`"
  | .closeBrace => "`\x7d`"
  | .openBracket => "`[`"
  | .closeBracket => "`]`"
  | .colon => "`:`"
  | .comma => "`,`"
  | .newline => "newline"
  | .string _ => "string"
  | .number text => "number `" ++ text ++ "`"
  | .word text => "`" ++ text ++ "`"

/-- The text of a token that may stand as a key. -/
def keyText? : Token → Option String
  | .string text | .number text | .word text => some text
  | _ => none

end Token

/-- A place in a source: the bytes before it, and those of them on its own line. -/
structure Place where
  /-- The bytes before the place. -/
  offset : Nat := 0
  /-- The bytes before the place on its line. -/
  column : Nat := 0
  deriving Repr, DecidableEq

namespace Place

/-- The place behind one character. -/
def next (place : Place) (c : Char) : Place :=
  if c = '\n' then ⟨place.offset + 1, 0⟩
  else ⟨place.offset + c.utf8Size, place.column + c.utf8Size⟩

/-- The place behind a piece of text. -/
def advance (place : Place) (s : List Char) : Place :=
  s.foldl next place

end Place

/-- A token with the place where it starts. -/
structure Lexeme where
  /-- The token. -/
  token : Token
  /-- Where it starts. -/
  place : Place
  deriving Repr, DecidableEq

end RuleGraph.Cson
