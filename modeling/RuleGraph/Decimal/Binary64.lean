import RuleGraph.Decimal.Basic

namespace RuleGraph

/-- A floating-point number of the IEEE 754 binary64 format, by its bits. -/
structure Binary64 where
  /-- Sign, eleven bits of exponent, and 52 bits of fraction. -/
  bits : UInt64
  deriving Repr, DecidableEq, Inhabited

namespace Binary64

/-- The bits of infinity, without a sign: every number below is finite. -/
def infinityBits : Nat := 0x7FF0000000000000

/-- The bits of what is no number, without a sign. -/
def quietBits : Nat := 0x7FF8000000000000

/-- The number with the given sign and the given bits for the rest. -/
def ofMagnitude (negative : Bool) (magnitude : Nat) : Binary64 :=
  ⟨UInt64.ofNat (if negative then Nat.pow 2 63 + magnitude else magnitude)⟩

/-- The bits without the sign. -/
def magnitude (x : Binary64) : Nat :=
  x.bits.toNat % Nat.pow 2 63

/-- Whether the sign bit is set. -/
def negative (x : Binary64) : Bool :=
  Nat.pow 2 63 ≤ x.bits.toNat

/-- Neither infinite nor undefined. -/
def isFinite (x : Binary64) : Bool :=
  x.magnitude < infinityBits

/-- The whole number `m` in `x = ± m · 2 ^ q` for the least possible `q`. -/
def significand (x : Binary64) : Nat :=
  if x.magnitude < Nat.pow 2 52 then x.magnitude else Nat.pow 2 52 + x.magnitude % Nat.pow 2 52

/-- The whole number `q` in `x = ± m · 2 ^ q` for the least possible `q`. -/
def power (x : Binary64) : Int :=
  if x.magnitude < Nat.pow 2 52 then -1074 else (x.magnitude / Nat.pow 2 52 : Nat) - 1075

/-- The whole number nearest to a quotient. A half goes to the even neighbour. -/
def roundDiv (num den : Nat) : Nat :=
  let q := num / den
  let r := num % den
  if 2 * r < den then q else if den < 2 * r then q + 1 else q + q % 2

/-- A quotient times a power of two, as a quotient of whole numbers. -/
def scale (num den : Nat) (power : Int) : Nat × Nat :=
  if 0 ≤ power then (num * Nat.pow 2 power.toNat, den) else (num, den * Nat.pow 2 (-power).toNat)

/-- The least power of two `q ≥ -1074` for which the quotient over `2 ^ q` has at most 53 binary
    digits before the point. -/
def powerFor (num den : Nat) : Int :=
  let low : Int := (Nat.log2 num : Int) - (Nat.log2 den : Int) - 53
  let (n, d) := scale num den (-low)
  max (-1074) (if n / d < Nat.pow 2 53 then low else low + 1)

/-- The bits, without sign, of the number nearest to a positive quotient. The exponent is counted
    in steps of `2 ^ 52`, so a significand that rounds up to `2 ^ 53` carries into it. -/
def roundMagnitude (num den : Nat) : Nat :=
  let q := powerFor num den
  let (n, d) := scale num den (-q)
  min infinityBits ((q + 1074).toNat * Nat.pow 2 52 + roundDiv n d)

end Binary64

/-- The floating-point number nearest to a decimal one; too large a number becomes infinite. Powers
    of ten beyond 400 on either side decide the result alone and are not computed. -/
def Decimal.toBinary64 (d : Decimal) : Binary64 :=
  Binary64.ofMagnitude d.negative <|
    if d.digits = 0 then 0
    else if 400 < d.exponent then Binary64.infinityBits
    else if d.exponent + Nat.log2 d.digits < -400 then 0
    else if 0 ≤ d.exponent then Binary64.roundMagnitude (d.digits * Nat.pow 10 d.exponent.toNat) 1
    else Binary64.roundMagnitude d.digits (Nat.pow 10 (-d.exponent).toNat)

end RuleGraph
