namespace RuleGraph.Yaml

/-- A character that may stand in a source. -/
def isAllowed (c : Char) : Bool :=
  let n := c.toNat
  n = 0x09 || n = 0x0A || n = 0x0D || (0x20 ≤ n && n ≤ 0x7E) || n = 0x85 ||
    (0xA0 ≤ n && n ≤ 0xD7FF) || (0xE000 ≤ n && n ≤ 0xFFFD) || 0x10000 ≤ n

/-- The separators of lines and paragraphs end a line, but are kept where line feeds fold. -/
def isKeptBreak (c : Char) : Bool :=
  c = '\u2028' || c = '\u2029'

/-- A character that ends a line, after `unifyBreaks`. -/
def isBreak (c : Char) : Bool :=
  c = '\n' || isKeptBreak c

/-- A blank within a line. -/
def isSpaceOrTab (c : Char) : Bool :=
  c = ' ' || c = '\t'

/-- Writes a line feed for each of the ways to end a line that mean the same as one. -/
def unifyBreaks : List Char → List Char
  | [] => []
  | '\r' :: '\n' :: s => '\n' :: unifyBreaks s
  | c :: s => (if c = '\r' || c = '\u0085' then '\n' else c) :: unifyBreaks s

/-- Whether a blank, the end of a line, or the end of the source comes next. -/
def atSpace : List Char → Bool
  | [] => true
  | c :: _ => isSpaceOrTab c || isBreak c

/-- Whether the mark that starts a document comes next, as it would at the start of a line. -/
def atDocumentStart : List Char → Bool
  | '-' :: '-' :: '-' :: s => atSpace s
  | _ => false

/-- Whether the mark that ends a document comes next, as it would at the start of a line. -/
def atDocumentEnd : List Char → Bool
  | '.' :: '.' :: '.' :: s => atSpace s
  | _ => false

/-- Whether a mark of either kind comes next. -/
def atDocumentMark (s : List Char) : Bool :=
  atDocumentStart s || atDocumentEnd s

/-- The number of characters to the next line, where nothing but blanks and a comment may stand. -/
def restOfLine? (s : List Char) : Option Nat :=
  let blanks := s.takeWhile isSpaceOrTab
  let s := s.dropWhile isSpaceOrTab
  let comment := if s.head? = some '#' then s.takeWhile (!isBreak ·) else []
  match s.drop comment.length with
  | [] => some (blanks.length + comment.length)
  | c :: _ => if isBreak c then some (blanks.length + comment.length + 1) else none

/-- A place in a source with its line and column. Columns count characters; the length of a key is
    counted in bytes, so a cursor knows both. -/
structure Cursor where
  /-- The text from here on. -/
  rest : List Char
  /-- The number of lines before this one. -/
  line : Nat := 0
  /-- The number of characters before this place on its line. -/
  column : Nat := 0
  /-- The number of bytes before this place on its line. -/
  offset : Nat := 0

namespace Cursor

/-- The place behind the character `c` of a line, with the text `s` from there on. -/
def behind (cursor : Cursor) (c : Char) (s : List Char) : Cursor :=
  { cursor with rest := s, column := cursor.column + 1, offset := cursor.offset + c.utf8Size }

/-- The start of the next line, with the text `s` from there on. -/
def nextLine (cursor : Cursor) (s : List Char) : Cursor :=
  { rest := s, line := cursor.line + 1 }

/-- The place one character on. -/
def next (cursor : Cursor) : Cursor :=
  match cursor.rest with
  | [] => cursor
  | c :: s => if isBreak c then cursor.nextLine s else cursor.behind c s

/-- The place several characters on. -/
def skip (cursor : Cursor) : Nat → Cursor
  | 0 => cursor
  | n + 1 => cursor.next.skip n

end Cursor

end RuleGraph.Yaml
