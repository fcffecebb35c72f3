import RuleGraph.Document.Basic

namespace RuleGraph.PropertyList

/-- The digits behind any number of marks `0x`. -/
def dropHexMarks : List Char → List Char
  | '0' :: 'x' :: s => dropHexMarks s
  | s => s

/-- The number written by hexadecimal digits, with or without a plus sign. -/
def hexNumber? : List Char → Option Int
  | '+' :: digits => (natOfDigits? 16 digits).map Int.ofNat
  | digits => (natOfDigits? 16 digits).map Int.ofNat

/-- A whole number of 64 bits, with or without a sign, in decimal or behind `0x`. -/
def integer? (s : List Char) : Option Int :=
  match s with
  | '0' :: 'x' :: _ =>
    match hexNumber? (dropHexMarks s) with
    | some n => if n < 0x10000000000000000 then some n else none
    | none => none
  | _ =>
    match intOfText? 10 s with
    | some n => if -0x8000000000000000 ≤ n ∧ n < 0x10000000000000000 then some n else none
    | none => none

/-- The names of numbers that are not finite, in any case and behind any sign. -/
def isNotFiniteName (s : List Char) : Bool :=
  let name := String.ofList ((Decimal.splitSign s).2.map Char.toLower)
  name ∈ ["nan", "inf", "infinity"]

/-- A floating-point number, or no value if it is not finite. -/
def real? (s : List Char) : Option Document :=
  if isNotFiniteName s then some .null
  else (Decimal.ofText? s).map fun d => Document.ofFloat d.toBinary64

end RuleGraph.PropertyList
