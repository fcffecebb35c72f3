namespace RuleGraph.PropertyList

/-- The value of one character of the alphabet. -/
def sixBits? (c : Char) : Option Nat :=
  if 'A' ≤ c ∧ c ≤ 'Z' then some (c.toNat - 'A'.toNat)
  else if 'a' ≤ c ∧ c ≤ 'z' then some (c.toNat - 'a'.toNat + 26)
  else if '0' ≤ c ∧ c ≤ '9' then some (c.toNat - '0'.toNat + 52)
  else if c = '+' then some 62
  else if c = '/' then some 63
  else none

/-- The last group of four may be filled up with one or two marks. The bits that no byte needs are
    zero then. -/
def isLastGroup (a b c d : Char) : Bool :=
  match sixBits? a, sixBits? b, sixBits? c, sixBits? d with
  | some _, some _, some _, some _ => true
  | some _, some _, some c, none => d = '=' && c % 4 = 0
  | some _, some b, none, none => c = '=' && d = '=' && b % 16 = 0
  | _, _, _, _ => false

/-- Groups of four characters. -/
def isGroups : List Char → Bool
  | [] => true
  | [a, b, c, d] => isLastGroup a b c d
  | a :: b :: c :: d :: s => [a, b, c, d].all (fun x => (sixBits? x).isSome) && isGroups s
  | _ => false

/-- A blank of the ASCII range. -/
def isAsciiBlank (c : Char) : Bool :=
  c ∈ [' ', '\t', '\n', '\x0c', '\r']

/-- Whether a text is data in base 64, with blanks anywhere. -/
def isData (s : List Char) : Bool :=
  isGroups (s.filter (!isAsciiBlank ·))

end RuleGraph.PropertyList
