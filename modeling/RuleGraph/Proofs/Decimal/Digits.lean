import RuleGraph.Decimal.Basic

namespace RuleGraph

theorem continueDigits?_cons (base number : Nat) (c : Char) (s : List Char) :
    continueDigits? base number (c :: s) =
      (digitValue? base c).bind fun d => continueDigits? base (number * base + d) s := by
  rw [continueDigits?]
  cases digitValue? base c <;> rfl

theorem continueDigits?_nil (base number : Nat) : continueDigits? base number [] = some number :=
  rfl

theorem natOfDigits?_cons (base : Nat) (c : Char) (s : List Char) :
    natOfDigits? base (c :: s) = continueDigits? base 0 (c :: s) :=
  rfl

theorem toList_toString (n : Nat) : (toString n).toList = Nat.toDigits 10 n := by
  rw [Nat.toString_eq_ofList_toDigits, String.toList_ofList]

theorem isDigit_of_mem_decimalDigits {n : Nat} {c : Char} (h : c ∈ decimalDigits n) :
    isDigit c = true := by
  rw [decimalDigits, toList_toString] at h
  have hdigit := Nat.isDigit_of_mem_toDigits (by decide) (by decide) h
  simpa [isDigit, Char.isDigit, Char.le_def] using hdigit

theorem decimalDigits_ne_nil (n : Nat) : decimalDigits n ≠ [] := by
  rw [decimalDigits, toList_toString]
  exact Nat.toDigits_ne_nil

/-- Digits can be read in two parts, the second going on with the number of the first. -/
theorem continueDigits?_append (base number : Nat) (s t : List Char) :
    continueDigits? base number (s ++ t) =
      (continueDigits? base number s).bind fun n => continueDigits? base n t := by
  induction s generalizing number with
  | nil => rfl
  | cons c s ih =>
    simp only [List.cons_append, continueDigits?]
    cases digitValue? base c with
    | none => rfl
    | some d => exact ih (number * base + d)

theorem digitValue?_digitChar {d : Nat} (h : d < 10) : digitValue? 10 d.digitChar = some d := by
  revert d
  decide

/-- The digits of a number are read as the number. -/
theorem continueDigits?_toDigits (n : Nat) :
    continueDigits? 10 0 (Nat.toDigits 10 n) = some n := by
  induction n using Nat.strongRecOn with
  | ind n ih =>
    by_cases hsmall : n < 10
    · rw [Nat.toDigits_of_lt_base hsmall]
      simp [continueDigits?, digitValue?_digitChar hsmall]
    · have hlast : n % 10 < 10 := Nat.mod_lt n (by decide)
      rw [Nat.toDigits_of_base_le (by decide) (by omega), continueDigits?_append,
        ih (n / 10) (by omega)]
      simp only [Option.bind_some, continueDigits?, digitValue?_digitChar hlast]
      congr 1
      omega

/-- The decimal digits of a number denote it. -/
theorem natOfDigits?_decimalDigits (n : Nat) : natOfDigits? 10 (decimalDigits n) = some n := by
  have hne := decimalDigits_ne_nil n
  have hvalue := continueDigits?_toDigits n
  rw [← toList_toString] at hvalue
  rw [decimalDigits] at hne ⊢
  cases hs : (toString n).toList with
  | nil => exact absurd hs hne
  | cons c s =>
    rw [natOfDigits?, ← hs, hvalue]
    simp

theorem digitChar_ne {d : Nat} (h : d < 10) (hd : d ≠ 0) : d.digitChar ≠ '0' := by
  revert d
  decide

/-- No number but zero is written with a zero in front. -/
theorem head?_toDigits_ne {n : Nat} (h : n ≠ 0) : (Nat.toDigits 10 n).head? ≠ some '0' := by
  induction n using Nat.strongRecOn with
  | ind n ih =>
    by_cases hsmall : n < 10
    · rw [Nat.toDigits_of_lt_base hsmall, List.head?_cons]
      exact fun heq => digitChar_ne hsmall h (Option.some.inj heq)
    · have hrest := ih (n / 10) (by omega) (by omega)
      rw [Nat.toDigits_of_base_le (by decide) (by omega), List.head?_append]
      cases hdigits : Nat.toDigits 10 (n / 10) with
      | nil => exact absurd hdigits Nat.toDigits_ne_nil
      | cons c s =>
        rw [hdigits] at hrest
        exact hrest

/-- Only zero is written with a zero in front. -/
theorem decimalDigits_eq_of_head? {n : Nat} (h : (decimalDigits n).head? = some '0') :
    decimalDigits n = ['0'] := by
  rw [decimalDigits, toList_toString] at h ⊢
  by_cases hzero : n = 0
  · rw [hzero, Nat.toDigits_of_lt_base (by decide)]
    rfl
  · exact absurd h (head?_toDigits_ne hzero)

/-- A text with anything but digits is no number. -/
theorem natOfDigits?_eq_none {base : Nat} {s : List Char} {c : Char} (hc : c ∈ s)
    (hdigit : digitValue? base c = none) : natOfDigits? base s = none := by
  have hcontinue : ∀ number, continueDigits? base number s = none := by
    induction s with
    | nil => cases hc
    | cons d s ih =>
      intro number
      rw [continueDigits?]
      rcases List.mem_cons.1 hc with rfl | hc
      · rw [hdigit]
      · cases digitValue? base d with
        | none => rfl
        | some value => exact ih hc _
  cases s with
  | nil => rfl
  | cons d s => exact hcontinue 0

/-- What is read as a number has nothing but digits. -/
theorem ne_of_mem_digits {base n : Nat} {s : List Char} (h : natOfDigits? base s = some n)
    {x c : Char} (hx : x ∈ s) (hc : digitValue? base c = none) : x ≠ c := by
  rintro rfl
  rw [natOfDigits?_eq_none hx hc] at h
  cases h

theorem digitValue?_lt {base d : Nat} {c : Char} (h : digitValue? base c = some d) : d < base := by
  obtain ⟨hlt, heq⟩ := Option.ite_none_right_eq_some.1 h
  exact Option.some.inj heq ▸ hlt

/-- A number with some digits is below the power of the base with that exponent. -/
theorem continueDigits?_lt {base number n : Nat} {s : List Char}
    (h : continueDigits? base number s = some n) : n < (number + 1) * base.pow s.length := by
  induction s generalizing number with
  | nil =>
    obtain rfl := Option.some.inj h
    simp
  | cons c s ih =>
    rw [continueDigits?] at h
    cases hd : digitValue? base c with
    | none =>
      rw [hd] at h
      cases h
    | some d =>
      rw [hd] at h
      have hlt := digitValue?_lt hd
      have hnumber : number * base + d + 1 ≤ (number + 1) * base := by
        rw [Nat.succ_mul]
        omega
      calc n < (number * base + d + 1) * base.pow s.length := ih h
        _ ≤ (number + 1) * base * base.pow s.length := Nat.mul_le_mul_right _ hnumber
        _ = (number + 1) * base.pow (c :: s).length := by
          rw [List.length_cons, Nat.pow_eq, Nat.pow_eq, Nat.pow_succ', Nat.mul_assoc]

/-- As many digits as there are bound the number. -/
theorem natOfDigits?_lt {base n : Nat} {s : List Char} (h : natOfDigits? base s = some n) :
    n < base.pow s.length := by
  cases s with
  | nil => cases h
  | cons c s => simpa using continueDigits?_lt h

end RuleGraph
