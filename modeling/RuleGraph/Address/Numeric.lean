import RuleGraph.Decimal.Digits

namespace RuleGraph.Address

/-- The number that a part of an address writes: hexadecimal behind `0x`, octal behind another zero,
    and decimal otherwise. Nothing behind these marks is a zero. -/
def number? : List Char → Option Nat
  | ['0'] => some 0
  | '0' :: 'x' :: s => if s.isEmpty then some 0 else natOfDigits? 16 s
  | '0' :: s => natOfDigits? 8 s
  | s => natOfDigits? 10 s

/-- Parts without the empty one behind a dot at the end. -/
def withoutLastEmpty (parts : List (List Char)) : List (List Char) :=
  match parts.reverse with
  | [] :: earlier => earlier.reverse
  | _ => parts

/-- Whether the parts between the dots of a name can be nothing but numbers, because the last of
    them is one. -/
def endsInNumber (parts : List (List Char)) : Bool :=
  match (withoutLastEmpty parts).getLast? with
  | none => false
  | some part => (!part.isEmpty && part.all isDigit) || (number? part).isSome

/-- Whether numbers fill the four bytes of an address. The last one takes all bytes that the others
    leave. -/
def fillsFourBytes (numbers : List Nat) : Bool :=
  numbers.length ≤ 4 && numbers.dropLast.all (· < 256) &&
    numbers.getLast?.any (· < Nat.pow 256 (5 - numbers.length))

/-- Whether parts between dots are an address of four bytes, where the last number may take the
    place of several bytes. -/
def isFourBytes (parts : List (List Char)) : Bool :=
  ((withoutLastEmpty parts).mapM number?).any fillsFourBytes

/-- A byte in decimal digits, without leading zeros. -/
def isDecimalByte (s : List Char) : Bool :=
  (s = ['0'] || s.head? ≠ some '0') && (natOfDigits? 10 s).any (· < 256)

/-- Four bytes in decimal digits. -/
def isDotted (s : List Char) : Bool :=
  let parts := (String.ofList s).splitOn "."
  parts.length = 4 && parts.all fun part => isDecimalByte part.toList

/-- Whether further groups of hexadecimal digits complete an address of eight, where `count` groups
    have been read, and `squeezed` says that a run of zeros has been left out. Four bytes may stand
    for the last two groups. -/
def isGroups (count : Nat) (squeezed : Bool) : List Char → Bool
  | [] => squeezed || count = 8
  | c :: s =>
    if count = 8 then false
    else if c = ':' then !squeezed && isGroups (count + 1) true s
    else
      let digits := ((c :: s).take 4).takeWhile isHexDigit
      match digits, h : (c :: s).drop digits.length with
      | [], _ => false
      | _, [] => squeezed || count = 7
      | _, '.' :: _ => count ≤ 6 && (squeezed || count = 6) && isDotted (c :: s)
      | _, ':' :: t => !t.isEmpty && isGroups (count + 1) squeezed t
      | _, _ => false
termination_by s => s.length
decreasing_by
  · simp
  · have := congrArg List.length h
    simp at this ⊢
    omega

/-- Whether a text is an address of eight groups of hexadecimal digits between colons, where one run
    of zeros may be left out. -/
def isEightGroups : List Char → Bool
  | ':' :: ':' :: s => isGroups 1 true s
  | ':' :: _ => false
  | s => 2 ≤ s.length && isGroups 0 false s

end RuleGraph.Address
