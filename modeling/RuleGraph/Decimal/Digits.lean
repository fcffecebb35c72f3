namespace RuleGraph

/-- The value of a digit in a base up to 36. Letters of both cases stand for the digits from ten
    on. -/
def digitValue? (base : Nat) (c : Char) : Option Nat :=
  let value :=
    if '0' ≤ c ∧ c ≤ '9' then c.toNat - '0'.toNat
    else if 'a' ≤ c ∧ c ≤ 'z' then c.toNat - 'a'.toNat + 10
    else if 'A' ≤ c ∧ c ≤ 'Z' then c.toNat - 'A'.toNat + 10
    else base
  if value < base then some value else none

/-- Reads further digits behind a number that is read already. -/
def continueDigits? (base : Nat) (number : Nat) : List Char → Option Nat
  | [] => some number
  | c :: s =>
    match digitValue? base c with
    | some d => continueDigits? base (number * base + d) s
    | none => none

/-- The number written by one or more digits and nothing else. -/
def natOfDigits? (base : Nat) : List Char → Option Nat
  | [] => none
  | s => continueDigits? base 0 s

/-- A decimal digit of the ASCII range. -/
def isDigit (c : Char) : Bool :=
  '0' ≤ c && c ≤ '9'

/-- A hexadecimal digit in either case. -/
def isHexDigit (c : Char) : Bool :=
  (digitValue? 16 c).isSome

/-- The number written by some decimal digits, zero for none. Other characters are taken for
    zeros, so callers pass digits only. -/
def natOfDecimals (s : List Char) : Nat :=
  s.foldl (fun n c => n * 10 + (c.toNat - '0'.toNat)) 0

/-- The decimal digits of a number, without leading zeros. -/
def decimalDigits (n : Nat) : List Char :=
  (toString n).toList

end RuleGraph
