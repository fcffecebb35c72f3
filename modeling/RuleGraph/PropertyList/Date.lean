import RuleGraph.Calendar

namespace RuleGraph.PropertyList

open Calendar

/-- The minute of the day and the second at the front of a text, and what follows. A minute may
    have one second too many. -/
def time? (s : List Char) : Option (Nat × Nat × List Char) := do
  let (hour, s) ← fixedDigits? 2 s
  let (minute, s) ← fixedDigits? 2 (← mark? ':' s)
  let (second, s) ← fixedDigits? 2 (← mark? ':' s)
  if hour < 24 ∧ minute < 60 ∧ second ≤ 60 then some (60 * hour + minute, second, s) else none

/-- Whether the minute that starts `minute` minutes after the day `day` is the last one of a month
    with `last` days. The day may be the one before or after. -/
def isLastMinute (day last : Nat) (minute : Int) : Bool :=
  (minute = -1 && day = 1) || (minute = 24 * 60 - 1 && day = last) ||
    (minute = 48 * 60 - 1 && day + 1 = last)

/-- Whether a text is a point in time. Any ASCII character may separate the date from the time. A
    second too many is only right at the end of a month of universal time. -/
def isDate (s : List Char) : Bool :=
  match date? s with
  | some (day, last, separator :: s) =>
    match time? s with
    | some (minute, second, s) =>
      match (skipFraction? s).bind zone? with
      | some distance =>
        separator.toNat < 0x80 && (second < 60 || isLastMinute day last (minute - distance))
      | none => false
    | none => false
  | _ => false

end RuleGraph.PropertyList
