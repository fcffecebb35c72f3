import RuleGraph.Decimal.Digits

namespace RuleGraph.Calendar

/-- The number written by the first `count` characters, and what follows them. -/
def fixedDigits? (count : Nat) (s : List Char) : Option (Nat × List Char) :=
  let digits := s.take count
  if digits.length = count && digits.all isDigit then some (natOfDecimals digits, s.drop count)
  else none

/-- Takes a given character off the front of a text. -/
def mark? (mark : Char) : List Char → Option (List Char)
  | c :: s => if c = mark then some s else none
  | [] => none

/-- Whether a year has a day more than others. -/
def isLeapYear (year : Nat) : Bool :=
  year % 4 = 0 && (year % 100 ≠ 0 || year % 400 = 0)

/-- The number of days of a month, none if there is no such month. -/
def daysInMonth (year month : Nat) : Nat :=
  if month = 2 then if isLeapYear year then 29 else 28
  else if month ∈ [4, 6, 9, 11] then 30
  else if 1 ≤ month ∧ month ≤ 12 then 31
  else 0

/-- A day of a month at the front of a text, the number of days of that month, and what follows. -/
def date? (s : List Char) : Option (Nat × Nat × List Char) := do
  let (year, s) ← fixedDigits? 4 s
  let (month, s) ← fixedDigits? 2 (← mark? '-' s)
  let (day, s) ← fixedDigits? 2 (← mark? '-' s)
  let last := daysInMonth year month
  if 1 ≤ day ∧ day ≤ last then some (day, last, s) else none

/-- What follows the fractions of a second, if there are any. -/
def skipFraction? : List Char → Option (List Char)
  | '.' :: s => if (s.takeWhile isDigit).isEmpty then none else some (s.dropWhile isDigit)
  | s => some s

/-- The distance of a time zone from universal time in minutes. Nothing follows it. -/
def zone? : List Char → Option Int
  | ['Z'] | ['z'] => some 0
  | '+' :: s => distance? s
  | '-' :: s => (distance? s).map fun minutes => -minutes
  | _ => none
where
  /-- Hours and minutes. -/
  distance? (s : List Char) : Option Int := do
    let (hour, s) ← fixedDigits? 2 s
    let (minute, s) ← fixedDigits? 2 (← mark? ':' s)
    if hour < 24 ∧ minute < 60 ∧ s.isEmpty then some (60 * hour + minute : Nat) else none

end RuleGraph.Calendar
