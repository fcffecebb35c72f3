import RuleGraph.Text.Alphanumeric
import RuleGraph.Text.Glyph
import RuleGraph.Text.LineBreak.Rules

namespace RuleGraph.Text

/-- A word and the blanks behind it, which do not count at the end of a line. -/
structure Word where
  letters : List Char
  blanks : List Char
  deriving Repr, DecidableEq

namespace Word

/-- The word that a piece of a line holds. -/
def ofPiece (piece : List Char) : Word :=
  let back := piece.reverse
  ⟨(back.dropWhile (· = ' ')).reverse, (back.takeWhile (· = ' ')).reverse⟩

/-- All characters of a word. -/
def chars (word : Word) : List Char :=
  word.letters ++ word.blanks

/-- The columns that a word takes up with the blanks behind it. -/
def fullWidth (word : Word) : Nat :=
  width word.letters + word.blanks.length

end Word

/-- The characters behind which a line breaks by the rules for words alone: the hyphen and the soft
    hyphen. -/
def isHyphen (c : Char) : Bool :=
  c = '-' || c = '\u00ad'

/-- Takes back the last break of a line. -/
def dropLastBreak (breaks : List Bool) : List Bool :=
  match breaks.reverse.dropWhile (!·) with
  | [] => breaks
  | _ :: earlier =>
    earlier.reverse ++ List.replicate (breaks.length - earlier.length) false

/-- For each character of a line, whether a new word begins there. The last of all breaks is the end
    of the line, which needs none; behind a hyphen that is a break inside the line. -/
def wordStarts (s : List Char) : List Bool :=
  let starts := (breaks s).zipWith (fun starts before => starts && !isHyphen before) ('-' :: s)
  if (s.getLast?.map isHyphen).getD false then dropLastBreak starts else starts

/-- The pieces of a line that hold one word each. -/
def pieces (line : List Char) : List (List Char) :=
  let line := glyphs line
  let starts := wordStarts (line.filterMap (·.letter))
  let marked := line.zip (starts ++ [false])
  (marked.splitBy fun _ next => !next.2).map fun piece => piece.flatMap (·.1.chars)

/-- Whether a word may be cut behind `c`: behind a hyphen between letters or digits. -/
def isInnerHyphen (before : Option Char) (c : Char) (next : Option Char) : Bool :=
  c = '-' && before.any isAlphanumeric && next.any isAlphanumeric

/-- The parts of a word between its hyphens, where `part` has been read of the current part, in
    reverse. -/
def hyphenatedFrom (part : List Char) : List Char → List (List Char)
  | [] => [part.reverse]
  | c :: s =>
    if isInnerHyphen part.head? c s.head? then (c :: part).reverse :: hyphenatedFrom [] s
    else hyphenatedFrom (c :: part) s

/-- Parts of a word as words of their own, where the blanks stand behind the last part. -/
def wordsOfParts (blanks : List Char) : List (List Char) → List Word
  | [] => []
  | [part] => [⟨part, blanks⟩]
  | part :: parts => ⟨part, []⟩ :: wordsOfParts blanks parts

/-- A word, cut behind the hyphens inside it. -/
def hyphenated (word : Word) : List Word :=
  wordsOfParts word.blanks (hyphenatedFrom [] word.letters)

/-- Cuts a word into parts of at most `limit` columns, where `part` has been read of the current part
    and takes up `taken` columns. -/
def cutFrom (limit : Nat) (part : List Char) (taken : Nat) : List Glyph → List (List Char)
  | [] => [part]
  | glyph :: glyphs =>
    if 0 < taken ∧ limit < taken + glyph.columns then
      (part ++ glyph.escapes) :: cutFrom limit glyph.letter.toList glyph.columns glyphs
    else cutFrom limit (part ++ glyph.chars) (taken + glyph.columns) glyphs

/-- A word, cut if it does not fit into a line of `limit` columns. -/
def cut (limit : Nat) (word : Word) : List Word :=
  if limit < width word.letters then
    wordsOfParts word.blanks (cutFrom limit [] 0 (glyphs word.letters))
  else [word]

/-- The words of a line, none of them wider than `limit` columns. -/
def words (limit : Nat) (line : List Char) : List Word :=
  (pieces line).flatMap fun piece => (hyphenated (.ofPiece piece)).flatMap (cut limit)

/-- The text of words in a line, without the blanks at its end. -/
def lineText : List Word → List Char
  | [] => []
  | [word] => word.letters
  | word :: words => word.chars ++ lineText words

/-- Fills lines of `limit` columns with words, where `line` is in the current line already, in
    reverse, and takes up `taken` columns. -/
def fillLines (limit : Nat) (line : List Word) (taken : Nat) : List Word → List (List Word)
  | [] => [line.reverse]
  | word :: words =>
    if limit < taken + width word.letters then
      line.reverse :: fillLines limit [word] word.fullWidth words
    else fillLines limit (word :: line) (taken + word.fullWidth) words

/-- The lines that a single line breaks into. The first of them is empty if the first word fits into
    no line that something else stands in. -/
def wrapLine (limit : Nat) (line : List Char) : List (List Char) :=
  (fillLines limit [] 0 (words limit line)).map lineText

/-- The lines of a text, broken to `limit` columns. A line is filled with as many words as fit; a
    word that is too long for a whole line is cut. -/
def wrap (limit : Nat) (text : String) : List String :=
  (text.splitOn "\n").flatMap fun line => (wrapLine limit line.toList).map String.ofList

/-- Lines behind one indentation for the first of them and another one for the others. -/
def indent (first others : String) : List String → List String
  | [] => []
  | line :: lines => (first ++ line) :: lines.map (others ++ ·)

end RuleGraph.Text
