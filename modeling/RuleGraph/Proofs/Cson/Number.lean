import RuleGraph.Cson.Number
import RuleGraph.Proofs.Decimal.Numeral

namespace RuleGraph.Cson

/-- The whole number that a text is read as, of any size: hexadecimal behind `0x`, and else
    decimal. -/
def wholeNumber? : List Char → Option Int
  | '0' :: 'x' :: digits => intOfText? 16 digits
  | text => intOfText? 10 text

theorem fitsSigned_iff {n : Int} : fitsSigned n = true ↔ -2 ^ 63 ≤ n ∧ n < 2 ^ 63 := by
  simp [fitsSigned]

/-- Behind `0x` a number is whole, and is refused if it does not fit. -/
theorem hexValue?_eq (text : List Char) :
    hexValue? text = ((intOfText? 16 text).filter fitsSigned).map Document.int := by
  unfold hexValue?
  cases intOfText? 16 text with
  | none => rfl
  | some n => cases hfits : fitsSigned n <;> simp [hfits]

/-- A text is read as a whole number within 64 bits if it is one, and else as a floating-point number
    unless it starts with `0x`. -/
theorem numberValue?_eq (text : List Char) :
    numberValue? text =
      (((wholeNumber? text).filter fitsSigned).map Document.int).or
        (if ['0', 'x'] <+: text then none else floatValue? text) := by
  by_cases hmark : ['0', 'x'] <+: text
  · obtain ⟨digits, rfl⟩ := hmark
    have hdecimal : intOfText? 10 ('0' :: 'x' :: digits) = none := by
      rw [Option.eq_none_iff_forall_ne_some]
      intro n hn
      cases (intOfText?_eq_some_iff (by decide)).1 hn with
      | unsigned hm => exact not_numeral_of_mem (c := 'x') (by decide) (by simp) rfl hm
    have hvalue : numberValue? ('0' :: 'x' :: digits) = hexValue? digits := by
      rw [numberValue?, hdecimal]
      rfl
    rw [if_pos (List.prefix_append _ digits), Option.or_none]
    exact hvalue.trans (hexValue?_eq digits)
  · have hother : otherValue? text = floatValue? text := by
      unfold otherValue?
      split
      · exact absurd ⟨_, rfl⟩ hmark
      · rfl
    have hwhole : wholeNumber? text = intOfText? 10 text := by
      unfold wholeNumber?
      split
      · exact absurd ⟨_, rfl⟩ hmark
      · rfl
    rw [if_neg hmark, hwhole, numberValue?, hother]
    cases intOfText? 10 text with
    | none => rfl
    | some n => cases hfits : fitsSigned n <;> simp [Option.filter, hfits]

/-- What is read as a floating-point number is finite. -/
theorem exists_float_of_floatValue? {text : List Char} {v : Document}
    (h : floatValue? text = some v) : ∃ x, v = .float x ∧ x.isFinite = true := by
  unfold floatValue? at h
  split at h
  · obtain ⟨hfinite, heq⟩ := Option.ite_none_right_eq_some.1 h
    exact ⟨_, (Option.some.inj heq).symm, hfinite⟩
  · cases h

end RuleGraph.Cson
