import RuleGraph.Document.Basic
import RuleGraph.Parsed

namespace RuleGraph.Json

/-- Reads digits into a number as long as it stays below `2 ^ 64`. Gives the number, how many digits
    it took, and the rest. -/
def takeDigits (number taken : Nat) : List Char → Nat × Nat × List Char
  | [] => (number, taken, [])
  | c :: s =>
    if isDigit c then
      let next := number * 10 + (c.toNat - '0'.toNat)
      if next < Nat.pow 2 64 then takeDigits next (taken + 1) s else (number, taken, c :: s)
    else (number, taken, c :: s)

/-- Reading digits leaves no more than was there, also where the number is full. -/
theorem length_takeDigits_le (number taken : Nat) (s : List Char) :
    (takeDigits number taken s).2.2.length ≤ s.length := by
  induction s generalizing number taken with
  | nil => simp [takeDigits]
  | cons c s ih =>
    simp only [takeDigits]
    split
    · split
      · exact Nat.le_trans (ih _ _) (by simp)
      · simp
    · simp

/-- The largest power of ten that one step applies. -/
def maxStep : Nat := 308

/-- A positive floating-point number by its bits, as a quotient. -/
def quotientOf (magnitude : Nat) : Nat × Nat :=
  let x := Binary64.ofMagnitude false magnitude
  Binary64.scale x.significand 1 x.power

/-- The product or quotient of a floating-point number and a power of ten that is rounded itself. -/
def applyPower (divide : Bool) (magnitude power : Nat) : Nat :=
  let (n, d) := quotientOf magnitude
  let (pn, pd) := quotientOf (Binary64.roundMagnitude (Nat.pow 10 power) 1)
  if n = 0 then 0
  else if divide then Binary64.roundMagnitude (n * pd) (d * pn)
  else Binary64.roundMagnitude (n * pn) (d * pd)

/-- Applies a negative power of ten in steps. -/
def shrink (magnitude power : Nat) : Nat :=
  if power ≤ maxStep then applyPower true magnitude power
  else if magnitude = 0 then 0
  else shrink (applyPower true magnitude maxStep) (power - maxStep)
termination_by power
decreasing_by
  have : 0 < maxStep := by decide
  omega

/-- The number with the given digits and power of ten, unless it is too large. -/
def floatOf? (negative : Bool) (digits : Nat) (exponent : Int) : Option Document :=
  let start := if digits = 0 then 0 else Binary64.roundMagnitude digits 1
  let magnitude? :=
    if exponent < 0 then some (shrink start exponent.natAbs)
    else if exponent.toNat ≤ maxStep then some (applyPower false start exponent.toNat)
    else if start = 0 then some 0
    else none
  match magnitude? with
  | some magnitude =>
    if magnitude < Binary64.infinityBits then
      some (.float (Binary64.ofMagnitude negative magnitude))
    else none
  | none => none

/-- The largest power of ten that is read digit by digit. -/
def maxExponent : Nat := Nat.pow 2 31 - 1

/-- The floating-point number with the given digits, ten to the given power, and what the text says
    of a further power of ten. -/
def withExponent? (negative : Bool) (digits : Nat) (exponent : Int) (s : List Char) :
    Option (Document × List Char) :=
  match s with
  | c :: t =>
    if c = 'e' ∨ c = 'E' then
      let (down, digitsAfter) := Decimal.splitSign t
      let rest := digitsAfter.dropWhile isDigit
      match natOfDigits? 10 (digitsAfter.takeWhile isDigit) with
      | none => none
      | some n =>
        if n ≤ maxExponent then
          (floatOf? negative digits (if down then exponent - n else exponent + n)).map (·, rest)
        else if digits = 0 ∨ down then
          some (.float (Binary64.ofMagnitude negative 0), rest)
        else none
    else (floatOf? negative digits exponent).map (·, s)
  | [] => (floatOf? negative digits exponent).map (·, [])

/-- The number that starts with the given whole part, ten to the given power. A point has at least
    one digit behind it. Digits that no longer fit are skipped. -/
def withFraction? (negative : Bool) (whole : Nat) (exponent : Nat) (s : List Char) :
    Option (Document × List Char) :=
  match s with
  | '.' :: t =>
    let (digits, taken, rest) := takeDigits whole 0 t
    if t.takeWhile isDigit = [] then none
    else withExponent? negative digits (exponent - taken) (rest.dropWhile isDigit)
  | s => withExponent? negative whole exponent s

/-- Whether more than a whole number follows. -/
def continues : List Char → Bool
  | '.' :: _ | 'e' :: _ | 'E' :: _ => true
  | _ => false

/-- A number without its sign. A zero at the start is the whole number zero. -/
def unsigned? (negative : Bool) (s : List Char) : Option (Document × List Char) :=
  match s with
  | [] => none
  | c :: t =>
    if !isDigit c || (c = '0' && (t.head?.map isDigit).getD false) then none
    else
      let (whole, _, rest) := takeDigits 0 0 (c :: t)
      let skipped := rest.takeWhile isDigit
      let rest := rest.dropWhile isDigit
      if skipped.isEmpty && !continues rest then
        if !negative then some (.int whole, rest)
        else if whole = 0 ∨ Nat.pow 2 63 < whole then
          (floatOf? true whole 0).map (·, rest)
        else some (.int (-(whole : Int)), rest)
      else withFraction? negative whole skipped.length rest

/-- A number may have no exponent, so what follows its digits need not get shorter. -/
theorem length_withExponent?_le {negative : Bool} {digits : Nat} {exponent : Int}
    {s rest : List Char} {x : Document}
    (h : withExponent? negative digits exponent s = some (x, rest)) : rest.length ≤ s.length := by
  unfold withExponent? at h
  split at h
  · rename_i c t
    split at h
    · have hle : ((Decimal.splitSign t).2.dropWhile isDigit).length ≤ (c :: t).length :=
        Nat.le_trans (List.dropWhile_sublist _).length_le
          (Nat.le_trans (Decimal.length_splitSign_le t) (by simp))
      dsimp only at h
      split at h
      · simp at h
      · split at h
        · obtain ⟨_, _, he⟩ := Option.map_eq_some_iff.1 h
          obtain ⟨rfl, rfl⟩ := Prod.mk.injEq .. ▸ he
          exact hle
        · split at h
          · obtain ⟨rfl, rfl⟩ := Prod.mk.injEq .. ▸ Option.some.inj h
            exact hle
          · simp at h
    · obtain ⟨_, _, he⟩ := Option.map_eq_some_iff.1 h
      obtain ⟨rfl, rfl⟩ := Prod.mk.injEq .. ▸ he
      exact Nat.le_refl _
  · obtain ⟨_, _, he⟩ := Option.map_eq_some_iff.1 h
    obtain ⟨rfl, rfl⟩ := Prod.mk.injEq .. ▸ he
    exact Nat.le_refl _

theorem length_withFraction?_le {negative : Bool} {whole exponent : Nat} {s rest : List Char}
    {x : Document} (h : withFraction? negative whole exponent s = some (x, rest)) :
    rest.length ≤ s.length := by
  unfold withFraction? at h
  split at h
  · rename_i t
    dsimp only at h
    split at h
    · simp at h
    · refine Nat.le_trans (length_withExponent?_le h) ?_
      refine Nat.le_trans (List.dropWhile_sublist _).length_le ?_
      exact Nat.le_trans (length_takeDigits_le _ _ _) (by simp)
  · exact length_withExponent?_le h

theorem length_takeDigits_lt {c : Char} {t : List Char} (h : isDigit c = true) :
    (takeDigits 0 0 (c :: t)).2.2.length < (c :: t).length := by
  have hdigit : 0 * 10 + (c.toNat - '0'.toNat) < Nat.pow 2 64 := by
    have : c.toNat ≤ '9'.toNat := by
      simp only [isDigit, Bool.and_eq_true, decide_eq_true_eq] at h
      exact h.2
    have : '9'.toNat = 57 := rfl
    have : 58 ≤ Nat.pow 2 64 := by decide
    omega
  simp only [takeDigits, h, if_true, hdigit]
  exact Nat.lt_succ_of_le (length_takeDigits_le _ _ _)

/-- A number takes at least one character, so its reader comes to an end. -/
theorem length_unsigned?_lt {negative : Bool} {s rest : List Char} {x : Document}
    (h : unsigned? negative s = some (x, rest)) : rest.length < s.length := by
  unfold unsigned? at h
  split at h
  · simp at h
  · rename_i c t
    split at h
    · simp at h
    · rename_i hc
      have hdigit : isDigit c = true := by
        cases hd : isDigit c with
        | true => rfl
        | false => simp [hd] at hc
      have hlt := length_takeDigits_lt (t := t) hdigit
      have hdrop := Nat.lt_of_le_of_lt (List.dropWhile_sublist isDigit).length_le hlt
      dsimp only at h
      split at h
      · split at h
        · obtain ⟨rfl, rfl⟩ := Prod.mk.injEq .. ▸ Option.some.inj h
          exact hdrop
        · split at h
          · obtain ⟨_, _, he⟩ := Option.map_eq_some_iff.1 h
            obtain ⟨rfl, rfl⟩ := Prod.mk.injEq .. ▸ he
            exact hdrop
          · obtain ⟨rfl, rfl⟩ := Prod.mk.injEq .. ▸ Option.some.inj h
            exact hdrop
      · exact Nat.lt_of_le_of_lt (length_withFraction?_le h) hdrop

/-- A number. Whole numbers stay whole as far as they fit into 64 bits. All others become
    floating-point numbers in two steps: the digits, as many as fit into 64 bits, are rounded first,
    and a power of ten is applied to the result. -/
def number? (s : List Char) : Option (Parsed Document s) :=
  match s with
  | '-' :: t =>
    match h : unsigned? true t with
    | some (x, rest) => some ⟨x, rest, Nat.lt_succ_of_lt (length_unsigned?_lt h)⟩
    | none => none
  | s =>
    match h : unsigned? false s with
    | some (x, rest) => some ⟨x, rest, length_unsigned?_lt h⟩
    | none => none

end RuleGraph.Json
