import RuleGraph.Document.Basic
import RuleGraph.Yaml.Tag

namespace RuleGraph.Yaml

/-- A scalar that says that there is no value. -/
def isNull (text : String) : Bool :=
  text ∈ ["null", "Null", "NULL", "~"]

/-- A truth value. -/
def boolValue? (text : String) : Option Bool :=
  if text ∈ ["true", "True", "TRUE"] then some true
  else if text ∈ ["false", "False", "FALSE"] then some false
  else none

/-- What an integer becomes. -/
inductive IntValue where
  /-- A number that fits into 64 bits, with a sign if it is negative. -/
  | fits (value : Int)
  /-- A number that fits into 128 bits only, which no document can hold. -/
  | tooLarge
  /-- The text is no integer of at most 128 bits. -/
  | none

/-- Digits behind a zero make a string, and no number. -/
def hasLeadingZero (s : List Char) : Bool :=
  match (Decimal.splitSign s).2 with
  | '0' :: c :: rest => (c :: rest).all isDigit
  | _ => false

/-- The number behind a sign: in base sixteen, eight or two behind a mark, and decimal without
    one. -/
def naturalOf? (s : List Char) : Option Nat :=
  match s with
  | '0' :: 'x' :: digits => natOfDigits? 16 digits
  | '0' :: 'o' :: digits => natOfDigits? 8 digits
  | '0' :: 'b' :: digits => natOfDigits? 2 digits
  | digits => natOfDigits? 10 digits

/-- A natural number as an integer of at most 64 or 128 bits. -/
def positiveValue (n : Nat) : IntValue :=
  if n < Nat.pow 2 64 then .fits n else if n < Nat.pow 2 128 then .tooLarge else .none

/-- The negative of a natural number as an integer of at most 64 or 128 bits. -/
def negativeValue (n : Nat) : IntValue :=
  if n ≤ Nat.pow 2 63 then .fits (-n) else if n ≤ Nat.pow 2 127 then .tooLarge else .none

/-- The integer that a text writes. -/
def intValue (s : List Char) : IntValue :=
  if hasLeadingZero s then .none
  else
    let (negative, digits) := Decimal.splitSign s
    match naturalOf? digits with
    | some n => if negative then negativeValue n else positiveValue n
    | .none => .none

/-- The floating-point number that a text writes: infinite and undefined by name only. -/
def floatValue? (text : String) : Option Binary64 :=
  if text ∈ [".inf", ".Inf", ".INF", "+.inf", "+.Inf", "+.INF"] then
    some (.ofMagnitude false Binary64.infinityBits)
  else if text ∈ ["-.inf", "-.Inf", "-.INF"] then some (.ofMagnitude true Binary64.infinityBits)
  else if text ∈ [".nan", ".NaN", ".NAN"] then
    some (.ofMagnitude false Binary64.quietBits)
  else
    match Decimal.ofText? text.toList with
    | some d => if d.toBinary64.isFinite then some d.toBinary64 else none
    | none => none

/-- The value of a plain scalar without a tag. -/
def plainValue? (text : String) : Option Document :=
  if text = "" || isNull text then some .null
  else
    match boolValue? text with
    | some b => some (.bool b)
    | none =>
      match intValue text.toList with
      | .fits n => some (.int n)
      | .tooLarge => none
      | .none =>
        if hasLeadingZero text.toList then some (.string text)
        else
          match floatValue? text with
          | some x => some (Document.ofFloat x)
          | none => some (.string text)

/-- The whole names of the core tags. -/
def coreTag (name : String) : List UInt8 :=
  bytesOf ("tag:yaml.org,2002:" ++ name)

/-- A tag of the document's own, which no value carries. A name that is no text does not count. -/
def isLocalTag (tag : List UInt8) : Bool :=
  match tag with
  | first :: rest => first = 0x21 && (ByteArray.mk rest.toArray).validateUTF8
  | [] => false

/-- Whether a tag starts like one of the document's own. -/
def startsLocal (tag : List UInt8) : Bool :=
  tag.head? = some 0x21

/-- The value of a scalar with a tag, unless the text is no such value. -/
def taggedValue? (tag : List UInt8) (plain : Bool) (text : String) : Option Document :=
  if tag = coreTag "bool" then (boolValue? text).map Document.bool
  else if tag = coreTag "int" then
    match intValue text.toList with
    | .fits n => some (.int n)
    | .tooLarge | .none => none
  else if tag = coreTag "float" then (floatValue? text).map Document.ofFloat
  else if tag = coreTag "null" then if isNull text then some .null else none
  else if isLocalTag tag then none
  else if startsLocal tag && plain then plainValue? text
  else some (.string text)

/-- The value of a scalar. A plain scalar without a tag is whatever its text looks like; a core tag
    asks for one kind of value, and any other scalar is a string. -/
def scalarValue? (tag : Option (List UInt8)) (plain : Bool) (text : String) : Option Document :=
  match tag with
  | some tag => taggedValue? tag plain text
  | none => if plain then plainValue? text else some (.string text)

end RuleGraph.Yaml
