import Mathlib
import RuleGraph.Proofs.Cson.Number
import RuleGraph.Proofs.Cson.Trivia

namespace RuleGraph.Cson

/-- The numbers of sources are a sign or none, digits, and whatever may go on with them. -/
theorem numberText_iff_exists_tokens {text : String} :
    NumberText text.toList ↔
      ∃ source ts place, tokens source = .ok ts ∧ ⟨.number text, place⟩ ∈ ts := by
  constructor
  · intro h
    have hnone : ∀ c ∈ ([] : List Char).head?, isNumberChar c = false := by simp
    have htokens := tokensFrom_number h hnone {}
    rw [List.append_nil, String.ofList_toList, tokensFrom_nil] at htokens
    exact ⟨text.toList, _, _, htokens, List.mem_cons_self⟩
  · rintro ⟨source, ts, place, htokens, hmem⟩
    exact writable_of_mem_tokensFrom htokens _ hmem

/-- A number has no plus sign, and a minus sign at its start only. -/
theorem NumberText.not_mem_signs {number : List Char} (h : NumberText number) :
    '+' ∉ number ∧ '-' ∉ number.tail := by
  obtain @⟨sign, digits, more, hsign, -, hdigits, hmore⟩ := h
  have hchars : ∀ c ∈ digits ++ more, isNumberChar c = true := by
    intro c hc
    rcases List.mem_append.1 hc with hc | hc
    · exact isNumberChar_of_isDigit (hdigits c hc)
    · exact hmore c hc
  have hplus : '+' ∉ digits ++ more := fun hc => absurd (hchars _ hc) (by decide)
  have hminus : '-' ∉ digits ++ more := fun hc => absurd (hchars _ hc) (by decide)
  obtain rfl | rfl := hsign
  · exact ⟨hplus, fun hc => hminus (List.mem_of_mem_tail hc)⟩
  · exact ⟨List.not_mem_cons_of_ne_of_not_mem (by decide) hplus, hminus⟩

/-- The text writes the whole number: a minus sign or none and decimal digits, or hexadecimal digits
    behind `0x`. -/
inductive WritesInt : List Char → Int → Prop where
  | decimal {s : List Char} {n : Nat} (h : Numeral 10 s n) : WritesInt s n
  | negative {s : List Char} {n : Nat} (h : Numeral 10 s n) : WritesInt ('-' :: s) (-n)
  | hexadecimal {s : List Char} {n : Nat} (h : Numeral 16 s n) : WritesInt ('0' :: 'x' :: s) n

/-- What a text writes is read, whatever its size. -/
theorem WritesInt.wholeNumber?_eq {text : List Char} {n : Int} (h : WritesInt text n) :
    wholeNumber? text = some n := by
  cases h with
  | decimal hm =>
    unfold wholeNumber?
    split
    · exact absurd hm (not_numeral_of_mem (c := 'x') (by decide) (by simp) rfl)
    · exact (intOfText?_eq_some_iff (by decide)).2 (.unsigned hm)
  | negative hm => exact (intOfText?_eq_some_iff (by decide)).2 (.minus hm)
  | hexadecimal hm => exact (intOfText?_eq_some_iff (by decide)).2 (.unsigned hm)

/-- A text that a source can have for a number is read as the whole number that it writes, and not read
    if it writes none. -/
theorem wholeNumber?_eq_some_iff {text : List Char} (h : NumberText text) {n : Int} :
    wholeNumber? text = some n ↔ WritesInt text n := by
  refine ⟨fun hread => ?_, WritesInt.wholeNumber?_eq⟩
  obtain ⟨hplus, hminus⟩ := h.not_mem_signs
  unfold wholeNumber? at hread
  split at hread
  · cases (intOfText?_eq_some_iff (by decide)).1 hread with
    | unsigned hm => exact .hexadecimal hm
    | plus => exact absurd (by simp) hplus
    | minus => exact absurd (by simp) hminus
  · cases (intOfText?_eq_some_iff (by decide)).1 hread with
    | unsigned hm => exact .decimal hm
    | plus => exact absurd List.mem_cons_self hplus
    | minus hm => exact .negative hm

/-- The number of a source is the whole number that its text writes, if the text writes one within 64
    bits. Behind `0x` there is no other number, and all other texts denote finite floating-point
    numbers or nothing. -/
theorem numberValue?_of_mem_tokens {source : List Char} {ts : List Lexeme}
    (htokens : tokens source = .ok ts) {text : String} {place : Place}
    (hmem : ⟨.number text, place⟩ ∈ ts) :
    (∀ n, numberValue? text.toList = some (.int n) ↔
      WritesInt text.toList n ∧ -2 ^ 63 ≤ n ∧ n < 2 ^ 63) ∧
    ((∀ n, WritesInt text.toList n → ¬(-2 ^ 63 ≤ n ∧ n < 2 ^ 63)) →
      if ['0', 'x'] <+: text.toList then numberValue? text.toList = none
      else numberValue? text.toList = none ∨
        ∃ x, numberValue? text.toList = some (.float x) ∧ x.isFinite = true) := by
  have htext : NumberText text.toList :=
    numberText_iff_exists_tokens.2 ⟨source, ts, place, htokens, hmem⟩
  simp only [← wholeNumber?_eq_some_iff htext, ← fitsSigned_iff]
  rw [numberValue?_eq]
  cases hwhole : (wholeNumber? text.toList).filter fitsSigned with
  | some m =>
    obtain ⟨hread, hfits⟩ := Option.filter_eq_some_iff.1 hwhole
    simp only [hread, Option.map_some, Option.some_or, Option.some.injEq, Document.int.injEq]
    refine ⟨fun n => ⟨?_, fun h => h.1⟩, fun hnone => absurd hfits (hnone m rfl)⟩
    rintro rfl
    exact ⟨rfl, hfits⟩
  | none =>
    rw [Option.filter_eq_none_iff] at hwhole
    rw [Option.map_none, Option.none_or]
    refine ⟨fun n => ⟨fun h => ?_, fun h => absurd h.2 (hwhole n h.1)⟩, fun _ => ?_⟩
    · obtain ⟨-, hfloat⟩ := Option.ite_none_left_eq_some.1 h
      obtain ⟨x, heq, -⟩ := exists_float_of_floatValue? hfloat
      cases heq
    · split
      · rfl
      · cases hfloat : floatValue? text.toList with
        | none => exact .inl rfl
        | some v =>
          obtain ⟨x, rfl, hfinite⟩ := exists_float_of_floatValue? hfloat
          exact .inr ⟨x, rfl, hfinite⟩

/-- The least number of 64 bits, and behind `0x` the first one beyond the largest. -/
theorem numberValue?_of_mem_tokens_bounds :
    tokens "-9223372036854775808 0x8000000000000000".toList =
        .ok [⟨.number "-9223372036854775808", ⟨0, 0⟩⟩, ⟨.number "0x8000000000000000", ⟨21, 21⟩⟩] ∧
      numberValue? "-9223372036854775808".toList = some (.int (-2 ^ 63)) ∧
      numberValue? "0x8000000000000000".toList = none := by
  have htokens : tokens "-9223372036854775808 0x8000000000000000".toList =
      .ok [⟨.number "-9223372036854775808", ⟨0, 0⟩⟩,
        ⟨.number "0x8000000000000000", ⟨21, 21⟩⟩] := by cbv
  have htext : NumberText "-9223372036854775808".toList :=
    numberText_iff_exists_tokens.2 ⟨_, _, _, htokens, List.mem_cons_self⟩
  have hleast : WritesInt "-9223372036854775808".toList (-2 ^ 63) :=
    (wholeNumber?_eq_some_iff htext).1 (by cbv)
  have hbeyond : ∀ n, WritesInt "0x8000000000000000".toList n → ¬(-2 ^ 63 ≤ n ∧ n < 2 ^ 63) := by
    intro n hwrites
    have hread : wholeNumber? "0x8000000000000000".toList = some (2 ^ 63) := by cbv
    obtain rfl := Option.some.inj (hread.symm.trans hwrites.wholeNumber?_eq)
    decide
  obtain ⟨hint, -⟩ := numberValue?_of_mem_tokens htokens List.mem_cons_self
  obtain ⟨-, hother⟩ := numberValue?_of_mem_tokens htokens
    (List.mem_cons_of_mem _ List.mem_cons_self)
  have hrejected := hother hbeyond
  rw [if_pos ⟨_, rfl⟩] at hrejected
  exact ⟨htokens, (hint _).2 ⟨hleast, by decide, by decide⟩, hrejected⟩

end RuleGraph.Cson
