import RuleGraph.Calendar
import RuleGraph.Toml.Value

namespace RuleGraph.Toml

/-- The digits of a number without the underscores between them. Each underscore stands between two
    digits. -/
def digitsOf? (base : Nat) : List Char → Option (List Char)
  | [] => none
  | [c] => if (digitValue? base c).isSome then some [c] else none
  | c :: '_' :: s =>
    if (digitValue? base c).isSome then (digitsOf? base s).map (c :: ·) else none
  | c :: s => if (digitValue? base c).isSome then (digitsOf? base s).map (c :: ·) else none

/-- The digits of a decimal number that does not start with a zero, unless it is zero. -/
def wholeDigits? (s : List Char) : Option (List Char) :=
  match digitsOf? 10 s with
  | some ('0' :: _ :: _) => none
  | digits => digits

/-- A whole number, which has to fit into 64 bits with a sign. -/
def ofInt (n : Int) : Value :=
  if -0x8000000000000000 ≤ n ∧ n < 0x8000000000000000 then .int n else .unreadable

/-- A whole number, in decimal with or without a sign, or in another base without one. -/
def int? (s : List Char) : Option Value :=
  match s with
  | '0' :: 'x' :: s => based 16 s
  | '0' :: 'o' :: s => based 8 s
  | '0' :: 'b' :: s => based 2 s
  | s => do
    let (negative, s) := Decimal.splitSign s
    let n ← natOfDigits? 10 (← wholeDigits? s)
    return ofInt (if negative then -(n : Int) else n)
where
  /-- A number behind the mark of its base. The digits may be missing, but then it has no value. -/
  based (base : Nat) (s : List Char) : Option Value :=
    if s.isEmpty then some .unreadable
    else do
      let n ← natOfDigits? base (← digitsOf? base s)
      return ofInt n

/-- The digits behind the point, none if there is no point. -/
def fraction? : List Char → Option (List Char)
  | '.' :: s => digitsOf? 10 s
  | [] => some []
  | _ => none

/-- The power of ten behind its mark, zero if there is no mark. -/
def power? : List Char → Option Int
  | [] => some 0
  | _ :: s => do
    let (negative, s) := Decimal.splitSign s
    let n ← natOfDigits? 10 (← digitsOf? 10 s)
    return if negative then -(n : Int) else n

/-- A number that is not finite, by its name. -/
def namedFloat? (s : List Char) : Option Value :=
  let (negative, name) := Decimal.splitSign s
  if name = ['i', 'n', 'f'] then
    some (.float (.ofMagnitude negative Binary64.infinityBits))
  else if name = ['n', 'a', 'n'] then
    some (.float (.ofMagnitude negative Binary64.quietBits))
  else none

/-- The mark of a power of ten. -/
def isPowerMark (c : Char) : Bool :=
  c = 'e' || c = 'E'

/-- A number with a point or a power of ten, which has to be finite. -/
def float? (s : List Char) : Option Value := do
  let (negative, s) := Decimal.splitSign s
  let mantissa := s.takeWhile (!isPowerMark ·)
  let whole ← wholeDigits? (mantissa.takeWhile (· ≠ '.'))
  let fraction ← fraction? (mantissa.dropWhile (· ≠ '.'))
  let power ← power? (s.dropWhile (!isPowerMark ·))
  let decimal : Decimal :=
    ⟨negative, natOfDecimals (whole ++ fraction), power - fraction.length⟩
  return if decimal.toBinary64.isFinite then .float decimal.toBinary64 else .unreadable

/-- What follows the seconds of a time, which may be left out. -/
def skipSeconds? (s : List Char) : Option (List Char) :=
  match s with
  | ':' :: s => do
    let (second, s) ← Calendar.fixedDigits? 2 s
    if second ≤ 60 then Calendar.skipFraction? s else none
  | s => some s

/-- What follows a time of day. -/
def skipTime? (s : List Char) : Option (List Char) := do
  let (hour, s) ← Calendar.fixedDigits? 2 s
  let (minute, s) ← Calendar.fixedDigits? 2 (← Calendar.mark? ':' s)
  if hour < 24 ∧ minute < 60 then skipSeconds? s else none

/-- A time of day, and behind it a time zone or nothing. -/
def isZonedTime (s : List Char) : Bool :=
  match skipTime? s with
  | some [] => true
  | some s => (Calendar.zone? s).isSome
  | none => false

/-- Whether a text is a date without a time of day. -/
def isDay (s : List Char) : Bool :=
  match Calendar.date? s with
  | some (_, _, rest) => rest.isEmpty
  | none => false

/-- Whether a text is a date, a time of day, or both. -/
def isDate (s : List Char) : Bool :=
  match Calendar.date? s with
  | some (_, _, []) => true
  | some (_, _, separator :: time) => separator ∈ ['T', 't', ' '] && isZonedTime time
  | none => skipTime? s = some []

/-- The value of a text without quotes and brackets. -/
def scalar? (s : List Char) : Option Value :=
  if s = ['t', 'r', 'u', 'e'] then some (.bool true)
  else if s = ['f', 'a', 'l', 's', 'e'] then some (.bool false)
  else
    int? s <|> namedFloat? s <|> float? s <|>
      if isDate s then some (.date (String.ofList s)) else none

/-- A character that may stand in a value without quotes and brackets. -/
def isScalarChar (c : Char) : Bool :=
  c.isAlphanum || c ∈ ['_', '+', '-', '.', ':']

end RuleGraph.Toml
