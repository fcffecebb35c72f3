import RuleGraph.Decimal.Binary64

namespace RuleGraph

namespace Binary64

/-- Where a number lies halfway between two shortest decimals, one of them is taken. -/
inductive Tie where
  /-- The one whose last digit is even. -/
  | even
  /-- The one farther from zero. -/
  | up
  deriving Repr, DecidableEq

/-- The quotient with `10 ^ exponent` divided out. -/
def overPowerOfTen (num den : Nat) (exponent : Int) : Nat × Nat :=
  if 0 ≤ exponent then (num, den * Nat.pow 10 exponent.toNat) else (num * Nat.pow 10 (-exponent).toNat, den)

/-- The whole part of the logarithm to base ten of a positive quotient. -/
def log10 (num den : Nat) : Int :=
  let guess : Int := ((Nat.log2 num : Int) - (Nat.log2 den : Int)) * 30103 / 100000
  let reaches (e : Int) : Bool :=
    let (n, d) := overPowerOfTen num den e
    d ≤ n
  if reaches (guess + 1) then guess + 1 else if reaches guess then guess else guess - 1

/-- The ends of the interval of numbers that round to `m · 2 ^ q`, as multiples of `2 ^ (q - 2)`.
    Below a power of two the neighbours stand half as far apart. -/
def roundingEnds (x : Binary64) : Nat × Nat :=
  let m := x.significand
  (if m = Nat.pow 2 52 ∧ -1074 < x.power then 4 * m - 1 else 4 * m - 2, 4 * m + 2)

/-- The nearest decimal with the given number of digits that reads back as the positive number `x`,
    if there is one: its digits and its power of ten. -/
def digitsOfLength? (tie : Tie) (x : Binary64) (leading : Int) (length : Nat) :
    Option (Nat × Int) :=
  let exponent := leading - length + 1
  let unit (k : Nat) : Nat × Nat :=
    let (n, d) := scale k 1 (x.power - 2)
    overPowerOfTen n d exponent
  let (low, high) := x.roundingEnds
  let (n, d) := unit (4 * x.significand)
  let inside (c : Nat) : Bool :=
    let (ln, ld) := unit low
    let (hn, hd) := unit high
    if x.significand % 2 = 0 then ln ≤ c * ld && c * hd ≤ hn else ln < c * ld && c * hd < hn
  let c := n / d
  let upper := c + 1
  match inside c, inside upper with
  | true, true =>
    let twice := 2 * (n % d)
    if twice < d || (twice = d && (tie = .even && c % 2 = 0)) then some (c, exponent)
    else some (upper, exponent)
  | true, false => some (c, exponent)
  | false, true => some (upper, exponent)
  | false, false => none

/-- The first success among growing numbers of digits. -/
def firstDigits (tie : Tie) (x : Binary64) (leading : Int) : Nat → Nat → Nat × Int
  | 0, length => (digitsOfLength? tie x leading length).getD (x.significand, x.power)
  | more + 1, length =>
    match digitsOfLength? tie x leading length with
    | some found => found
    | none => firstDigits tie x leading more (length + 1)

/-- Moves zeros at the end of the digits into the power of ten. -/
def dropZeros (digits : List Char) (exponent : Int) : List Char × Int :=
  let zeros := (digits.reverse.takeWhile (· = '0')).length
  (digits.take (digits.length - zeros), exponent + zeros)

/-- The shortest digits that read back as the finite number `x`, without zeros at either end, and
    the power of ten of the last of them. Zero has the digit zero. Seventeen digits always
    suffice. -/
def shortest (tie : Tie) (x : Binary64) : List Char × Int :=
  if x.significand = 0 then (['0'], 0)
  else
    let (n, d) := scale x.significand 1 x.power
    let (digits, exponent) := firstDigits tie x (log10 n d) 16 1
    dropZeros (decimalDigits digits) exponent

/-- How a number is written. -/
structure Layout where
  /-- Which of two shortest decimals is taken at equal distance. -/
  tie : Tie
  /-- The range of powers of ten of the first digit in which the number is written without a power
      of ten; no range means always. -/
  plain : Option (Int × Int)

/-- A number without a power of ten. There is always a point with at least one digit on both
    sides. -/
def plainText (digits : List Char) (exponent : Int) : List Char :=
  if 0 ≤ exponent then digits ++ List.replicate exponent.toNat '0' ++ ['.', '0']
  else
    let places := (-exponent).toNat
    if places < digits.length then
      digits.take (digits.length - places) ++ '.' :: digits.drop (digits.length - places)
    else '0' :: '.' :: List.replicate (places - digits.length) '0' ++ digits

/-- A number with a power of ten: one digit, the others after a point if there are any, and the
    power with its sign. -/
def powerText (digits : List Char) (exponent : Int) : List Char :=
  let power := exponent + digits.length - 1
  let sign := if power < 0 then '-' else '+'
  let fraction := if digits.length ≤ 1 then [] else '.' :: digits.drop 1
  digits.take 1 ++ fraction ++ 'e' :: sign :: decimalDigits power.natAbs

/-- The text of a number. -/
def text (layout : Layout) (x : Binary64) : String :=
  if x.isFinite then
    let (digits, exponent) := shortest layout.tie x
    let power := exponent + digits.length - 1
    let body :=
      match layout.plain with
      | none => plainText digits exponent
      | some (least, most) =>
        if least ≤ power ∧ power ≤ most then plainText digits exponent
        else powerText digits exponent
    String.ofList (if x.negative then '-' :: body else body)
  else if x.magnitude = infinityBits then if x.negative then "-inf" else "inf"
  else "NaN"

end Binary64

end RuleGraph
