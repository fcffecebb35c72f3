import RuleGraph.Document.Basic
import RuleGraph.Json.Text

namespace RuleGraph.PropertyList.Binary

/-- The number in `count` bytes from `start` on, the first byte being the most significant one. -/
def number? (input : ByteArray) (start count : Nat) : Option Nat :=
  (List.range count).foldlM
    (fun n i => input[start + i]?.map fun byte => n * 256 + byte.toNat) 0

/-- The number of the bytes in the trailer. -/
def trailerSize : Nat := 32

/-- Whether bytes from `start` on all stand before the trailer. -/
def endsInBody (input : ByteArray) (start count : Nat) : Bool :=
  start + count + trailerSize ≤ input.size

/-- Numbers of `size` bytes each from `start` on, all of them before the trailer. -/
def numbers? (input : ByteArray) (start count size : Nat) : Option (List Nat) :=
  if endsInBody input start (count * size) then
    (List.range count).mapM fun i => number? input (start + i * size) size
  else none

/-- The bytes from `start` on, all of them before the trailer. -/
def bytes? (input : ByteArray) (start count : Nat) : Option ByteArray :=
  if endsInBody input start count then some (input.extract start (start + count)) else none

/-- A file with its table. -/
structure File where
  /-- All bytes. -/
  input : ByteArray
  /-- The number of bytes in which objects name others. -/
  referenceSize : Nat
  /-- The place of each object. -/
  places : Array Nat
  /-- The number of the object that holds all others. -/
  top : Nat

/-- The sizes that numbers may have. -/
def isNumberSize (size : Nat) : Bool :=
  size ∈ [1, 2, 3, 4, 8]

/-- Reads the trailer and the table. The first bytes of the trailer mean nothing. -/
def file? (input : ByteArray) : Option File := do
  if input.size < trailerSize then none
  let trailer := input.size - trailerSize
  let placeSize ← number? input (trailer + 6) 1
  let referenceSize ← number? input (trailer + 7) 1
  let count ← number? input (trailer + 8) 8
  let top ← number? input (trailer + 16) 8
  let table ← number? input (trailer + 24) 8
  if isNumberSize placeSize && isNumberSize referenceSize then
    let places ← numbers? input table count placeSize
    some ⟨input, referenceSize, places.toArray, top⟩
  else none

/-- The length of an object and the place behind it. Lengths from fifteen on do not fit into the
    mark `low` and stand in a number of their own. -/
def length? (input : ByteArray) (start low : Nat) : Option (Nat × Nat) :=
  if low = 15 then do
    let size := Nat.pow 2 ((← number? input start 1) % 4)
    return (← number? input (start + 1) size, start + 1 + size)
  else some (low, start)

/-- A natural number of `size` bits, with half of them taken for negative ones. -/
def signed (size n : Nat) : Int :=
  if n < Nat.pow 2 (size - 1) then n else n - Nat.pow 2 size

/-- A whole number. Only those of eight bytes have a sign, and those of sixteen bytes hold no more
    than those of eight could without one. -/
def integer? (input : ByteArray) (start low : Nat) : Option Document :=
  match low with
  | 0 | 1 | 2 => (number? input start (Nat.pow 2 low)).map fun n => .int n
  | 3 => (number? input start 8).map fun n => .int (signed 64 n)
  | 4 =>
    match number? input start 16 with
    | some n => if n < Nat.pow 2 64 then some (.int n) else none
    | none => none
  | _ => none

/-- The floating-point number of 64 bits that equals one of 32 bits, given by its bits without the
    sign. -/
def widenMagnitude (magnitude : Nat) : Nat :=
  let exponent := magnitude / Nat.pow 2 23
  let fraction := magnitude % Nat.pow 2 23
  if exponent = 0xFF then Binary64.infinityBits + fraction * Nat.pow 2 29
  else if exponent = 0 then
    if fraction = 0 then 0 else Binary64.roundMagnitude fraction (Nat.pow 2 149)
  else (exponent + 1023 - 127) * Nat.pow 2 52 + fraction * Nat.pow 2 29

/-- A floating-point number of four or eight bytes. -/
def real? (input : ByteArray) (start low : Nat) : Option Binary64 :=
  match low with
  | 2 =>
    (number? input start 4).map fun n =>
      Binary64.ofMagnitude (Nat.pow 2 31 ≤ n) (widenMagnitude (n % Nat.pow 2 31))
  | 3 => (number? input start 8).map fun n => ⟨UInt64.ofNat n⟩
  | _ => none

/-- The seconds from the start of the year -9999 to the start of the year 2001, from which points in
    time are counted. -/
def secondsBefore : Nat := 378683424000

/-- The seconds from the start of the year 2001 to the end of the year 9999. -/
def secondsAfter : Nat := 252423993600

/-- Whether a number of seconds is a point in time: years have four digits and a sign. -/
def isPointInTime (x : Binary64) : Bool :=
  if x.negative then x.magnitude ≤ Binary64.roundMagnitude secondsBefore 1
  else x.magnitude < Binary64.roundMagnitude secondsAfter 1

/-- A point in time, in seconds. -/
def date? (input : ByteArray) (start low : Nat) : Option Document :=
  if low = 3 then
    match real? input start 3 with
    | some x => if isPointInTime x then some .null else none
    | none => none
  else none

/-- The text of code units. Half a surrogate pair makes no character. -/
def textOfUnits? : List Nat → Option (List Char)
  | [] => some []
  | high :: low :: units =>
    if Json.isHighSurrogate high then
      if Json.isLowSurrogate low then
        (textOfUnits? units).map fun text => Json.charOfPair high low :: text
      else none
    else if Json.isLowSurrogate high then none
    else (textOfUnits? (low :: units)).map fun text => Char.ofNat high :: text
  | [unit] =>
    if Json.isHighSurrogate unit || Json.isLowSurrogate unit then none
    else some [Char.ofNat unit]

/-- A string of code units of two bytes. -/
def wideString? (input : ByteArray) (start count : Nat) : Option Document :=
  ((numbers? input start count 2).bind textOfUnits?).map fun text =>
    .string (String.ofList text)

/-- A string of bytes. -/
def narrowString? (input : ByteArray) (start count : Nat) : Option Document :=
  ((bytes? input start count).bind fun bytes => String.fromUTF8? bytes).map Document.string

/-- An object that holds no others, by the two halves of its first byte. Dates, data and
    identifiers have no value, but have to be right. -/
def leaf? (input : ByteArray) (start high low : Nat) : Option Document :=
  match high with
  | 0x0 => if low = 8 then some (.bool false) else if low = 9 then some (.bool true) else none
  | 0x1 => integer? input start low
  | 0x2 => (real? input start low).map Document.ofFloat
  | 0x3 => date? input start low
  | 0x4 => do
    let (count, start) ← length? input start low
    let _ ← bytes? input start count
    return .null
  | 0x5 => do
    let (count, start) ← length? input start low
    narrowString? input start count
  | 0x6 => do
    let (count, start) ← length? input start low
    wideString? input start count
  | 0x8 => if low < 8 then (number? input start (low + 1)).map fun _ => .null else none
  | _ => none

/-- The name that a document is, for use in a dictionary. -/
def name? : Document → Option String
  | .string name => some name
  | _ => none

/-- An object by its number. Objects do not hold themselves, so there are at most `depth` of them
    inside each other, where `depth` is the number of all objects. -/
def object? (file : File) : Nat → Nat → Option Document
  | 0, _ => none
  | depth + 1, reference => do
    let place ← file.places[reference]?
    if !endsInBody file.input place 1 then none
    let mark ← number? file.input place 1
    let high := mark / 16
    let low := mark % 16
    if high = 0xA then
      let (count, start) ← length? file.input (place + 1) low
      let items ← numbers? file.input start count file.referenceSize
      return .array (← items.mapM (object? file depth))
    else if high = 0xD then
      let (count, start) ← length? file.input (place + 1) low
      let names ← numbers? file.input start count file.referenceSize
      let values ←
        numbers? file.input (start + count * file.referenceSize) count file.referenceSize
      let names ← names.mapM fun reference => (object? file depth reference).bind name?
      return .ofFields (names.zip (← values.mapM (object? file depth)))
    else leaf? file.input (place + 1) high low

/-- The document in a binary property list: objects one after the other, a table of the places where
    they begin, and a trailer that says how to read the table. Objects hold others by their numbers
    in the table. -/
def document? (input : ByteArray) : Option Document := do
  let file ← file? input
  object? file file.places.size file.top

end RuleGraph.PropertyList.Binary
