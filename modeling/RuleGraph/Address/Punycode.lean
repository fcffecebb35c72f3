import RuleGraph.Decimal.Digits

namespace RuleGraph.Address.Punycode

/-- The value of a digit. -/
def digit? (c : Char) : Option Nat :=
  if 'a' ≤ c ∧ c ≤ 'z' then some (c.toNat - 'a'.toNat)
  else if isDigit c then some (c.toNat - '0'.toNat + 26)
  else none

/-- The threshold of a place: it grows with the place, from one to twenty-six, behind the bias. -/
def threshold (bias place : Nat) : Nat :=
  min 26 (max 1 (place - bias))

/-- Reads the digits of a number from a place on, where a digit of that place counts `weight` times.
    What follows the number is shorter than the text. -/
def number? (bias place weight : Nat) :
    (s : List Char) → Option (Nat × { rest : List Char // rest.length < s.length })
  | [] => none
  | c :: s =>
    match digit? c with
    | none => none
    | some digit =>
      if digit < threshold bias place then some (digit * weight, ⟨s, by simp⟩)
      else
        match number? bias (place + 36) (weight * (36 - threshold bias place)) s with
        | none => none
        | some (number, ⟨rest, h⟩) =>
          some (digit * weight + number, ⟨rest, by simp only [List.length_cons]; omega⟩)

/-- The bias for a further number, which has about as many digits as `delta` has. -/
def biasFor (bias delta : Nat) : Nat :=
  if 455 < delta then biasFor (bias + 36) (delta / 35) else bias + 36 * delta / (delta + 38)
termination_by delta
decreasing_by omega

/-- The bias behind a number, with which the text has `count` characters. -/
def biasBehind (number count : Nat) (first : Bool) : Nat :=
  let delta := if first then number / 700 else number / 2
  biasFor 0 (delta + delta / count)

/-- Puts further characters into a text. The numbers count over all places in the text, for one code
    point after the other, from the place `index` for the code point `code` on. -/
def insertAll? (written : List Char) (code index bias : Nat) (s : List Char) :
    Option (List Char) :=
  if s.isEmpty then some written
  else
    match number? bias 36 1 s with
    | none => none
    | some (number, ⟨rest, _⟩) =>
      let count := written.length + 1
      let code := code + (index + number) / count
      let index' := (index + number) % count
      if code.isValidChar then
        insertAll? (written.insertIdx index' (.ofNat code)) code (index' + 1)
          (biasBehind number count (index = 0)) rest
      else none
termination_by s.length

/-- The label that a text in plain characters writes. The plain characters of the label come first,
    and behind their last hyphen stand numbers that say where further characters go, their lowest
    digits first; a digit below the threshold of its place ends a number. -/
def decode? (s : List Char) : Option (List Char) :=
  let digits := (s.reverse.takeWhile (· ≠ '-')).reverse
  let plain := s.take (s.length - digits.length - 1)
  if plain.all (·.toNat < 0x80) then insertAll? plain 0x80 0 72 digits else none

end RuleGraph.Address.Punycode
