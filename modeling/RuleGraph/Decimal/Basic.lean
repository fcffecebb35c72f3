import RuleGraph.Decimal.Digits

namespace RuleGraph

/-- The number `digits · 10 ^ exponent` with a sign, which zero has as well. -/
structure Decimal where
  /-- Whether the number has a minus sign. -/
  negative : Bool
  /-- The digits read as a whole number. -/
  digits : Nat
  /-- The power of ten. -/
  exponent : Int
  deriving Repr, DecidableEq

namespace Decimal

/-- Cuts an optional sign off a text and says whether it is a minus sign. -/
def splitSign : List Char → Bool × List Char
  | '-' :: s => (true, s)
  | '+' :: s => (false, s)
  | s => (false, s)

theorem length_splitSign_le (s : List Char) : (splitSign s).2.length ≤ s.length := by
  unfold splitSign
  split <;> simp

/-- The power of ten after the digits: nothing at all, or `e` in either case, an optional sign and
    at least one digit. -/
def exponentOfText? : List Char → Option Int
  | [] => some 0
  | c :: s =>
    if c = 'e' ∨ c = 'E' then
      let (negative, digits) := splitSign s
      (natOfDigits? 10 digits).map fun n => if negative then -(n : Int) else n
    else none

/-- Reads an optional sign, digits with an optional point among or around them, and an optional
    power of ten. At least one digit stands before the power. -/
def ofText? (s : List Char) : Option Decimal :=
  let (negative, s) := splitSign s
  let whole := s.takeWhile isDigit
  let (fraction, rest) :=
    match s.dropWhile isDigit with
    | '.' :: t => (t.takeWhile isDigit, t.dropWhile isDigit)
    | t => ([], t)
  if whole.isEmpty && fraction.isEmpty then none
  else
    (exponentOfText? rest).map fun exponent =>
      ⟨negative, natOfDecimals (whole ++ fraction), exponent - fraction.length⟩

end Decimal

/-- Reads an optional sign and digits of a base as a whole number. -/
def intOfText? (base : Nat) (s : List Char) : Option Int :=
  let (negative, digits) := Decimal.splitSign s
  (natOfDigits? base digits).map fun n => if negative then -(n : Int) else n

end RuleGraph
