import Mathlib.Data.List.Forall2
import Mathlib.Data.Nat.Digits.Defs
import RuleGraph.Proofs.Decimal.Digits

namespace RuleGraph

def hexDigits : List Char :=
  ['0', '1', '2', '3', '4', '5', '6', '7', '8', '9', 'a', 'b', 'c', 'd', 'e', 'f']

/-- The character is the hexadecimal digit of the value, in either case. -/
def HexDigit (c : Char) (value : Nat) : Prop :=
  hexDigits[value]? = some c ∨ (hexDigits.map Char.toUpper)[value]? = some c

instance (c : Char) (value : Nat) : Decidable (HexDigit c value) :=
  inferInstanceAs (Decidable (_ ∨ _))

theorem HexDigit.lt {c : Char} {value : Nat} (h : HexDigit c value) : value < 16 := by
  obtain h | h := h
  · exact (List.getElem?_eq_some_iff.1 h).1
  · exact (List.getElem?_eq_some_iff.1 h).1

theorem HexDigit.mem {c : Char} {value : Nat} (h : HexDigit c value) :
    c ∈ hexDigits ++ hexDigits.map Char.toUpper := by
  rw [List.mem_append]
  exact h.imp List.mem_of_getElem? List.mem_of_getElem?

/-- Letters of both cases are read as the digits from ten on. -/
theorem digitValue?_of_hexDigit {c : Char} {value : Nat} (h : HexDigit c value) :
    digitValue? 16 c = some value := by
  have hall : ∀ value < 16, hexDigits[value]?.bind (digitValue? 16) = some value ∧
      (hexDigits.map Char.toUpper)[value]?.bind (digitValue? 16) = some value := by decide
  obtain ⟨hlower, hupper⟩ := hall value h.lt
  obtain h | h := h
  · rwa [h] at hlower
  · rwa [h] at hupper

/-- What is read as a digit is one of the sixteen. -/
theorem hexDigit_of_digitValue? {c : Char} {value : Nat} (h : digitValue? 16 c = some value) :
    HexDigit c value := by
  have hall : ∀ code < 103, ∀ value ∈ digitValue? 16 (Char.ofNat code),
      HexDigit (Char.ofNat code) value := by decide
  have hcode : c.toNat < 103 := by
    by_contra hlarge
    have hnine : '9'.toNat = 57 := rfl
    have ha : 'a'.toNat = 97 := rfl
    have hA : 'Z'.toNat = 90 := rfl
    simp only [digitValue?, Option.ite_none_right_eq_some, Char.le_def, UInt32.le_iff_toNat_le,
      Char.toNat_val] at h
    split at h
    · omega
    · split at h
      · omega
      · split at h <;> omega
  have hc := hall c.toNat hcode
  rw [Char.ofNat_toNat] at hc
  exact hc value h

/-- The character is the digit of the value in a base up to sixteen. -/
def DigitOf (base : Nat) (c : Char) (value : Nat) : Prop :=
  HexDigit c value ∧ value < base

/-- The text is one digit or more, and denotes the number that its digits make up by their places, of
    which the last one counts ones. -/
inductive Numeral (base : Nat) : List Char → Nat → Prop where
  | intro {s : List Char} {digits : List Nat} (hsome : s ≠ [])
      (hdigits : List.Forall₂ (DigitOf base) s digits) :
      Numeral base s (Nat.ofDigits base digits.reverse)

/-- The reader of digits knows the digits of the base and no others. -/
theorem digitValue?_eq_some_iff {base : Nat} (hbase : base ≤ 16) {c : Char} {value : Nat} :
    digitValue? base c = some value ↔ DigitOf base c value := by
  constructor
  · intro h
    have hlt := digitValue?_lt h
    refine ⟨hexDigit_of_digitValue? ?_, hlt⟩
    simp only [digitValue?, Option.ite_none_right_eq_some, Option.some.injEq] at h ⊢
    split_ifs at h ⊢ <;> omega
  · rintro ⟨hc, hlt⟩
    have hsixteen := digitValue?_of_hexDigit hc
    simp only [digitValue?, Option.ite_none_right_eq_some, Option.some.injEq] at hsixteen ⊢
    split_ifs at hsixteen ⊢ <;> omega

/-- Digits behind a number move it up by as many places as there are digits. -/
theorem continueDigits?_eq_some_iff {base : Nat} (hbase : base ≤ 16) {number n : Nat}
    {s : List Char} :
    continueDigits? base number s = some n ↔
      ∃ digits, List.Forall₂ (DigitOf base) s digits ∧
        Nat.ofDigits base digits.reverse + base ^ digits.length * number = n := by
  induction s generalizing number with
  | nil => simp [continueDigits?_nil]
  | cons c s ih =>
    have hplaces (d : Nat) (digits : List Nat) :
        Nat.ofDigits base digits.reverse + base ^ digits.length * (number * base + d) =
          Nat.ofDigits base (d :: digits).reverse + base ^ (d :: digits).length * number := by
      rw [Nat.ofDigits_reverse_cons, List.length_cons]
      ring
    simp only [continueDigits?_cons, Option.bind_eq_some_iff, digitValue?_eq_some_iff hbase, ih,
      hplaces, List.forall₂_cons_left_iff]
    constructor
    · rintro ⟨d, hd, digits, hdigits, hn⟩
      exact ⟨d :: digits, ⟨d, digits, hd, hdigits, rfl⟩, hn⟩
    · rintro ⟨_, ⟨d, digits, hd, hdigits, rfl⟩, hn⟩
      exact ⟨d, hd, digits, hdigits, hn⟩

/-- Exactly the numerals are read, each as the number that it denotes. -/
theorem natOfDigits?_eq_some_iff_numeral {base : Nat} (hbase : base ≤ 16) {s : List Char}
    {n : Nat} : natOfDigits? base s = some n ↔ Numeral base s n := by
  cases s with
  | nil =>
    constructor
    · intro h
      cases h
    · rintro ⟨hsome, -⟩
      exact absurd rfl hsome
  | cons c s =>
    rw [natOfDigits?_cons, continueDigits?_eq_some_iff hbase]
    constructor
    · rintro ⟨digits, hdigits, rfl⟩
      exact .intro (List.cons_ne_nil c s) hdigits
    · rintro ⟨-, hdigits⟩
      exact ⟨_, hdigits, rfl⟩

/-- No other character stands in a numeral. -/
theorem not_numeral_of_mem {base n : Nat} (hbase : base ≤ 16) {s : List Char} {c : Char}
    (hmem : c ∈ s) (hc : digitValue? base c = none) : ¬Numeral base s n := by
  intro h
  rw [← natOfDigits?_eq_some_iff_numeral hbase, natOfDigits?_eq_none hmem hc] at h
  cases h

/-- A numeral with a sign in front or with none. -/
inductive SignedNumeral (base : Nat) : List Char → Int → Prop where
  | unsigned {s : List Char} {n : Nat} (h : Numeral base s n) : SignedNumeral base s n
  | plus {s : List Char} {n : Nat} (h : Numeral base s n) : SignedNumeral base ('+' :: s) n
  | minus {s : List Char} {n : Nat} (h : Numeral base s n) : SignedNumeral base ('-' :: s) (-n)

theorem digitValue?_sign (base : Nat) :
    digitValue? base '-' = none ∧ digitValue? base '+' = none := by
  simp [digitValue?]

/-- A numeral starts with a digit, which is no sign. -/
theorem Numeral.splitSign_eq {base n : Nat} (hbase : base ≤ 16) {s : List Char}
    (h : Numeral base s n) : Decimal.splitSign s = (false, s) := by
  obtain ⟨hminus, hplus⟩ := digitValue?_sign base
  unfold Decimal.splitSign
  split
  · exact absurd h (not_numeral_of_mem hbase List.mem_cons_self hminus)
  · exact absurd h (not_numeral_of_mem hbase List.mem_cons_self hplus)
  · rfl

/-- Exactly the numerals with or without a sign are read as whole numbers. -/
theorem intOfText?_eq_some_iff {base : Nat} (hbase : base ≤ 16) {s : List Char} {n : Int} :
    intOfText? base s = some n ↔ SignedNumeral base s n := by
  have hread (negative : Bool) (t : List Char) (hsplit : Decimal.splitSign s = (negative, t)) :
      intOfText? base s = some n ↔
        ∃ m : Nat, Numeral base t m ∧ (if negative then -(m : Int) else m) = n := by
    rw [intOfText?, hsplit]
    simp [Option.bind_eq_some_iff, natOfDigits?_eq_some_iff_numeral hbase]
  constructor
  · intro h
    obtain ⟨⟨negative, t⟩, hsplit⟩ : ∃ x, Decimal.splitSign s = x := ⟨_, rfl⟩
    obtain ⟨m, hm, rfl⟩ := (hread negative t hsplit).1 h
    unfold Decimal.splitSign at hsplit
    split at hsplit
    all_goals obtain ⟨rfl, rfl⟩ := hsplit
    · exact .minus hm
    · exact .plus hm
    · exact .unsigned hm
  · intro h
    cases h with
    | unsigned hm => exact (hread false _ (hm.splitSign_eq hbase)).2 ⟨_, hm, rfl⟩
    | plus hm => exact (hread false _ rfl).2 ⟨_, hm, rfl⟩
    | minus hm => exact (hread true _ rfl).2 ⟨_, hm, rfl⟩

end RuleGraph
