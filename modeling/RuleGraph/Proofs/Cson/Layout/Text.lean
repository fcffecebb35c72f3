import RuleGraph.Cson.Lexer
import RuleGraph.Cson.Number
import RuleGraph.Decimal.Shortest

namespace RuleGraph.Cson

/-- The ways to write an array or an object. -/
inductive Form where
  /-- On one line, in brackets. -/
  | line
  /-- In brackets, with a line for each child and one for the closing bracket. -/
  | block
  /-- Without brackets, with a line for each entry. -/
  | implied
  deriving Repr, DecidableEq

/-- The quotes around a key or a text. -/
inductive Quote where
  | single
  | double
  deriving Repr, DecidableEq

/-- The character that opens and closes what stands between the quotes. -/
def Quote.char : Quote → Char
  | .single => '\''
  | .double => '"'

/-- How a node is written. All numbers count spaces. -/
structure Style where
  /-- The form of an array or an object. -/
  form : Form := .line
  /-- In front of the node. An entry that starts a line gets the room of its object instead. -/
  before : Nat := 0
  /-- Behind the key. -/
  afterKey : Nat := 0
  /-- Behind the colon. -/
  afterColon : Nat := 0
  /-- Behind the node. -/
  after : Nat := 0
  /-- Whether a comma follows the node where a line end suffices to separate it. -/
  comma : Bool := false
  /-- In front of each entry of the object. In an implied object that is a value, this counts from
      the first column that is deeper than the key. -/
  indent : Nat := 0
  /-- In front of the closing bracket. -/
  closing : Nat := 0
  /-- The quotes around the key and around the text. -/
  quote : Quote := .single
  /-- Whether the key stands without quotes if it is a word. -/
  bare : Bool := false
  /-- The control characters that are written as letters in the key and in the text. -/
  letters : Char → Bool := fun _ => false

/-- A style for each node of a document, found by the way to the node from the root. -/
def Layout : Type := List Nat → Style

namespace Layout

/-- The style of the root. -/
def style (layout : Layout) : Style :=
  layout []

/-- The layout of a child of the root. -/
def child (layout : Layout) (i : Nat) : Layout :=
  fun path => layout (i :: path)

end Layout

/-- Where a node stands, which limits the forms it can take. -/
inductive Setting where
  /-- The whole document. -/
  | document
  /-- Anywhere on a line that is not to be broken. -/
  | line
  /-- An item with a line of its own. -/
  | item
  /-- The value of an entry that starts a line, with its key in the given column. -/
  | value (column : Nat)
  deriving Repr, DecidableEq

/-- A run of spaces. -/
def spaces (n : Nat) : List Char :=
  List.replicate n ' '

/-- A line end and the spaces at the start of the next line. -/
def lineStart (n : Nat) : List Char :=
  '\n' :: spaces n

/-- The letter that stands for a control character behind a backslash. -/
def controlLetter? : Char → Option Char
  | '\t' => some 't'
  | '\r' => some 'r'
  | '\x08' => some 'b'
  | '\x0c' => some 'f'
  | '\x0b' => some 'v'
  | '\x00' => some '0'
  | _ => none

/-- What is written behind a backslash for a character, unless the character is written itself. -/
def escapeLetter? (quote : Quote) (letters : Char → Bool) : Char → Option Char
  | '\\' => some '\\'
  | '\n' => some 'n'
  | c => if c = quote.char then some c else if letters c then controlLetter? c else none

/-- A character between quotes. -/
def spelled (quote : Quote) (letters : Char → Bool) (c : Char) : List Char :=
  match escapeLetter? quote letters c with
  | some x => ['\\', x]
  | none => [c]

/-- A text between quotes. -/
def quoted (quote : Quote) (letters : Char → Bool) (text : String) : List Char :=
  quote.char :: (text.toList.flatMap (spelled quote letters) ++ [quote.char])

/-- A whole number. -/
def intText (n : Int) : List Char :=
  if n < 0 then '-' :: decimalDigits n.natAbs else decimalDigits n.natAbs

namespace Setting

/-- The form that an array takes, and an object in braces. -/
def bracketForm : Setting → Form → Form
  | .line, _ => .line
  | _, .line => .line
  | _, _ => .block

/-- The column of the entries of an implied object, where there can be one. -/
def impliedColumn? (style : Style) : Setting → Option Nat
  | .document => some style.before
  | .value column => some (column + 1 + style.indent)
  | .line | .item => none

/-- What stands before the first entry of an implied object in the given column. -/
def beforeImplied (column : Nat) : Setting → List Char
  | .document => []
  | _ => lineStart column

/-- The column of an implied object, if the object is to be written as one and can be. -/
def implies? (setting : Setting) (style : Style) (fields : List (String × Document)) : Option Nat :=
  if style.form = .implied ∧ fields ≠ [] then setting.impliedColumn? style else none

end Setting

namespace Form

/-- What stands before the first child, of which the line starts in the given column. -/
def opening (column : Nat) : Form → List Char
  | .line => []
  | .block | .implied => lineStart column

/-- What stands before each later child. -/
def between (column : Nat) : Form → List Char
  | .line => [',']
  | .block | .implied => lineStart column

/-- What stands before the closing bracket. -/
def closing (n : Nat) : Form → List Char
  | .line => spaces n
  | .block | .implied => lineStart n

/-- The comma behind a child that the next line end separates already. -/
def trailing (comma : Bool) : Form → List Char
  | .block => if comma then [','] else []
  | .line | .implied => []

/-- The room in front of an entry, which starts at once where the line starts for it. -/
def inset (n : Nat) : Form → List Char
  | .line => spaces n
  | .block | .implied => []

/-- Where the items of an array stand. -/
def itemSetting : Form → Setting
  | .line => .line
  | .block | .implied => .item

/-- Where the values of entries in the given column stand. -/
def valueSetting (column : Nat) : Form → Setting
  | .line => .line
  | .block | .implied => .value column

end Form

/-- Whether a name is written without quotes. -/
def Style.isBare (style : Style) (name : String) : Bool :=
  style.bare &&
    match name.toList with
    | c :: s => isWordStart c && s.all isWordChar
    | [] => false

/-- A key. -/
def keyText (style : Style) (name : String) : List Char :=
  if style.isBare name then name.toList else quoted style.quote style.letters name

/-- An entry, given its value as written. -/
def entryText (style : Style) (name : String) (value : List Char) : List Char :=
  keyText style name ++ spaces style.afterKey ++ ':' :: (spaces style.afterColon ++ value)

mutual

/-- The text of a document or of a part of it that stands in the given setting. -/
def valueText (layout : Layout) (setting : Setting) : Document → List Char
  | .null => "null".toList
  | .bool true => "true".toList
  | .bool false => "false".toList
  | .int n => intText n
  | .float x => (x.text ⟨.even, none⟩).toList
  | .string text => quoted layout.style.quote layout.style.letters text
  | .array items =>
    let form := setting.bracketForm layout.style.form
    '[' :: (itemsText layout form (form.opening 0) 0 items ++ form.closing layout.style.closing ++
      [']'])
  | .object fields =>
    match setting.implies? layout.style fields with
    | some column => fieldsText layout .implied column (setting.beforeImplied column) 0 fields
    | none =>
      let form := setting.bracketForm layout.style.form
      let column := layout.style.indent
      '\x7b' :: (fieldsText layout form column (form.opening column) 0 fields ++
        form.closing layout.style.closing ++ ['\x7d'])

/-- The texts of the items from number `i` on, with `lead` before the first of them. -/
def itemsText (layout : Layout) (form : Form) (lead : List Char) (i : Nat) :
    List Document → List Char
  | [] => []
  | d :: rest =>
    let style := (layout.child i).style
    lead ++ spaces style.before ++ valueText (layout.child i) form.itemSetting d ++
      spaces style.after ++ form.trailing style.comma ++
      itemsText layout form (form.between 0) (i + 1) rest

/-- The texts of the entries from number `i` on, with `lead` before the first of them. Where they
    start lines, they start in the given column. -/
def fieldsText (layout : Layout) (form : Form) (column : Nat) (lead : List Char) (i : Nat) :
    List (String × Document) → List Char
  | [] => []
  | (name, d) :: rest =>
    let style := (layout.child i).style
    lead ++ form.inset style.before ++
      entryText style name (valueText (layout.child i) (form.valueSetting column) d) ++
      spaces style.after ++ form.trailing style.comma ++
      fieldsText layout form column (form.between column) (i + 1) rest

end

/-- The text of a whole document, followed by some line ends. -/
def documentText (layout : Layout) (lineEnds : Nat) (d : Document) : String :=
  String.ofList (spaces layout.style.before ++ valueText layout .document d ++
    spaces layout.style.after ++ List.replicate lineEnds '\n')

end RuleGraph.Cson
