import RuleGraph.PropertyList.Base64
import RuleGraph.PropertyList.Date
import RuleGraph.PropertyList.Event
import RuleGraph.PropertyList.Number
import RuleGraph.PropertyList.Xml.Markup
import RuleGraph.Text.Blank

namespace RuleGraph.PropertyList.Xml

/-- An element that holds a text. -/
inductive Leaf where
  | string
  | integer
  | real
  | date
  | data
  deriving Repr, DecidableEq

/-- The value of an element that holds a text. Dates and data have none, but have to be right. -/
def Leaf.value? (leaf : Leaf) (text : String) : Option Document :=
  match leaf with
  | string => some (.string text)
  | integer => (integer? text.toList).map Document.int
  | real => real? text.toList
  | date => if isDate text.toList then some .null else none
  | data => if isData text.toList then some .null else none

/-- An element of property lists. -/
inductive Element where
  /-- The element around the whole list, which may be left out. -/
  | frame
  | array
  | dictionary
  /-- A truth value, which needs no text. -/
  | truth (value : Bool)
  | leaf (leaf : Leaf)
  deriving Repr, DecidableEq

/-- The name of an element without the name of its namespace. -/
def localName (name : List Char) : List Char :=
  match name.dropWhile (· ≠ ':') with
  | _ :: name => name
  | [] => name

/-- The element of a name. The names in dictionaries are written like strings. -/
def element? (name : List Char) : Option Element :=
  match String.ofList (localName name) with
  | "plist" => some .frame
  | "array" => some .array
  | "dict" => some .dictionary
  | "true" => some (.truth true)
  | "false" => some (.truth false)
  | "key" | "string" => some (.leaf .string)
  | "integer" => some (.leaf .integer)
  | "real" => some (.leaf .real)
  | "date" => some (.leaf .date)
  | "data" => some (.leaf .data)
  | _ => none

/-- The character with a given number. -/
def charOfNumber? (n : Option Nat) : Option Char :=
  match n with
  | some n => if 0 < n ∧ n.isValidChar then some (Char.ofNat n) else none
  | none => none

/-- The text that a reference stands for. Names that are not known stand for nothing; numbers have
    to be those of characters. -/
def referenceText? (name : List Char) : Option String :=
  match name with
  | '#' :: 'x' :: digits => (charOfNumber? (natOfDigits? 16 digits)).map String.singleton
  | '#' :: digits => (charOfNumber? (natOfDigits? 10 digits)).map String.singleton
  | name =>
    match String.ofList name with
    | "lt" => some "<"
    | "gt" => some ">"
    | "amp" => some "&"
    | "apos" => some "'"
    | "quot" => some "\""
    | _ => some ""

/-- A step through a file. -/
inductive Step where
  /-- The file says that it is XML. -/
  | declaration
  | event (event : Event)
  /-- The file is no property list from here on. Nothing follows. -/
  | broken
  deriving Repr

/-- The event at the end of an element. -/
def closingSteps (name : List Char) : List Step :=
  match element? name with
  | some .array | some .dictionary => [.event .finish]
  | _ => []

mutual

/-- The steps through a file between texts that mean something, inside the elements `outer`, the
    innermost one first. Values stand between tags, where texts are blank and no references are. -/
def steps (outer : List (List Char)) : List Piece → List Step
  | [] => []
  | .broken :: _ => [.broken]
  | .declaration :: rest => .declaration :: steps outer rest
  | .reference _ :: _ => [.broken]
  | .text content :: rest => if content.all Text.isBlank then steps outer rest else [.broken]
  | .closing name :: rest =>
    match outer with
    | [] => [.broken]
    | inner :: outer =>
      if inner = name then closingSteps name ++ steps outer rest else [.broken]
  | .opening name :: rest =>
    match element? name with
    | none => [.broken]
    | some .frame => steps (name :: outer) rest
    | some .array => .event .startArray :: steps (name :: outer) rest
    | some .dictionary => .event .startDictionary :: steps (name :: outer) rest
    | some (.truth value) => .event (.value (.bool value)) :: steps (name :: outer) rest
    | some (.leaf leaf) => leafSteps outer name leaf "" rest

/-- The steps through a file inside an element that holds a text, of which `text` is read
    already. -/
def leafSteps (outer : List (List Char)) (name : List Char) (leaf : Leaf) (text : String) :
    List Piece → List Step
  | [] => [.broken]
  | .broken :: _ => [.broken]
  | .opening _ :: _ => [.broken]
  | .declaration :: rest => leafSteps outer name leaf text rest
  | .text content :: rest => leafSteps outer name leaf (text ++ String.ofList content) rest
  | .reference reference :: rest =>
    match referenceText? reference with
    | some more => leafSteps outer name leaf (text ++ more) rest
    | none => [.broken]
  | .closing closed :: rest =>
    if closed = name then
      match leaf.value? text with
      | some value => .event (.value value) :: steps outer rest
      | none => [.broken]
    else [.broken]

end

/-- The file without the mark of its encoding. -/
def dropEncodingMark : List Char → List Char
  | '\ufeff' :: s => s
  | s => s

/-- The steps through a file, which has to be text in UTF-8 all through. -/
def stepsOfFile (input : ByteArray) : List Step :=
  match String.fromUTF8? input with
  | some text => steps [] (pieces (dropEncodingMark text.toList))
  | none => [.broken]

/-- The events among the steps through a file, unless it breaks off. -/
def eventsOfSteps? : List Step → Option (List Event)
  | [] => some []
  | .broken :: _ => none
  | .declaration :: rest => eventsOfSteps? rest
  | .event event :: rest => (eventsOfSteps? rest).map fun events => event :: events

end RuleGraph.PropertyList.Xml
