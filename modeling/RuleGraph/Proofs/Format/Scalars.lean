import RuleGraph.Proofs.Cson.Layout.Written
import RuleGraph.Proofs.Yaml.Marks
import RuleGraph.Yaml.Scalar.Value

namespace RuleGraph.Cson

open RuleGraph.Text

theorem isWordChar_of_isDigit {c : Char} (h : isDigit c = true) : isWordChar c = true := by
  have hascii : c.isDigit = true := by
    simpa [isDigit, Char.isDigit, Char.le_def] using h
  simp [isWordChar, Char.isAlphanum, hascii]

theorem isWordChar_of_isWordStart {c : Char} (h : isWordStart c = true) : isWordChar c = true := by
  simp only [isWordStart, Bool.or_eq_true, decide_eq_true_eq] at h
  obtain (halpha | rfl) | rfl := h
  · simp [isWordChar, Char.isAlphanum, halpha]
  all_goals decide

/-- What is made of the characters of words means nothing else in YAML, with a dash in front of it
    as well as without one. -/
theorem plainText_of_isWordChar {sign word : List Char} (hsign : sign = [] ∨ sign = ['-'])
    (hsome : word ≠ []) (hword : ∀ c ∈ word, isWordChar c = true) :
    Yaml.PlainText (sign ++ word) := by
  have hne : ∀ c ∈ word, ∀ d, isWordChar d = false → c ≠ d := by
    rintro c hc d hd rfl
    rw [hword c hc] at hd
    contradiction
  have hbody : ∀ c ∈ word, Yaml.isPlainBody c = true := by
    intro c hc
    have hother := hne c hc
    refine Yaml.isPlainBody_iff.2 ⟨?_, ?_, hother ':' (by decide), ?_⟩
    · simp [Yaml.isSpaceOrTab, hother ' ' (by decide), hother '\t' (by decide)]
    · simp [Yaml.isBreak, Yaml.isKeptBreak, hother '\n' (by decide), hother '\u2028' (by decide),
        hother '\u2029' (by decide)]
    · simp [Yaml.endsInFlow, hother ',' (by decide), hother '[' (by decide), hother ']' (by decide),
        hother '\x7b' (by decide), hother '\x7d' (by decide)]
  obtain ⟨c, r, rfl⟩ := List.exists_cons_of_ne_nil hsome
  have hfirst := hne c List.mem_cons_self
  refine ⟨?_, sign, c, r, rfl, hsign, ?_, hfirst '.' (by decide), hfirst _ (by decide)⟩
  · obtain rfl | rfl := hsign
    · exact hbody
    · exact List.forall_mem_cons.2 ⟨by decide, hbody⟩
  · cases hindicator : Yaml.Scanner.isIndicator c with
    | false => rfl
    | true =>
      have hall : ∀ d, Yaml.Scanner.isIndicator d = true → isWordChar d = false := by
        intro d hd
        have hplain := @List.all_eq_true _ (fun d => !isWordChar d) _ |>.1 rfl d (of_decide_eq_true hd)
        simpa using hplain
      exact absurd rfl (hfirst c (hall c hindicator))

/-- A bare word of CSON is a plain scalar of YAML. -/
theorem plainText_word {c : Char} {s : List Char} (hstart : isWordStart c = true)
    (hchars : ∀ d ∈ s, isWordChar d = true) : Yaml.PlainText (c :: s) :=
  plainText_of_isWordChar (.inl rfl) (List.cons_ne_nil c s)
    (List.forall_mem_cons.2 ⟨isWordChar_of_isWordStart hstart, hchars⟩)

/-- A whole number is written with a sign or without one in front of its digits. -/
theorem intText_eq (n : Int) :
    intText n = (if n < 0 then ['-'] else []) ++ decimalDigits n.natAbs := by
  rw [intText]
  split <;> rfl

/-- The text of a whole number is a plain scalar of YAML. -/
theorem plainText_intText (n : Int) : Yaml.PlainText (intText n) := by
  rw [intText_eq]
  refine plainText_of_isWordChar ?_ (decimalDigits_ne_nil _)
    fun c hc => isWordChar_of_isDigit (isDigit_of_mem_decimalDigits hc)
  split <;> simp

section Integers

variable {n : Int}

/-- The sign of a number is split off from its digits. -/
theorem splitSign_intText :
    Decimal.splitSign (intText n) = (decide (n < 0), decimalDigits n.natAbs) := by
  obtain ⟨c, s, hdigits⟩ := List.exists_cons_of_ne_nil (decimalDigits_ne_nil n.natAbs)
  have hdigit : isDigit c = true := isDigit_of_mem_decimalDigits (by rw [hdigits]; simp)
  have hminus : c ≠ '-' := by
    rintro rfl
    contradiction
  have hplus : c ≠ '+' := by
    rintro rfl
    contradiction
  rw [intText]
  split
  · rename_i hn
    simp [Decimal.splitSign, hn]
  · rename_i hn
    rw [hdigits]
    unfold Decimal.splitSign
    split <;> simp_all

/-- The text of a number starts with a sign or a digit, so it is none of the names of other
    values. -/
theorem ofList_intText_ne (n : Int) {text : String}
    (h : text.toList.head?.all (fun c => !isDigit c && c != '-') = true) :
    String.ofList (intText n) ≠ text := by
  have hstart : ∃ c s, intText n = c :: s ∧ (isDigit c = true ∨ c = '-') := by
    obtain ⟨c, s, hdigits⟩ := List.exists_cons_of_ne_nil (decimalDigits_ne_nil n.natAbs)
    rw [intText]
    split
    · exact ⟨'-', _, rfl, .inr rfl⟩
    · exact ⟨c, s, hdigits, .inl (isDigit_of_mem_decimalDigits (by rw [hdigits]; simp))⟩
  obtain ⟨c, s, htext, hc⟩ := hstart
  rintro rfl
  rw [String.toList_ofList, htext] at h
  obtain hc | rfl := hc
  · simp [hc] at h
  · contradiction

/-- The digits of a number do not go on behind a zero. -/
theorem decimalDigits_ne_zero_cons (m : Nat) (c : Char) (s : List Char) :
    decimalDigits m ≠ '0' :: c :: s := by
  intro heq
  have hone := decimalDigits_eq_of_head? (n := m) (by rw [heq]; rfl)
  rw [heq] at hone
  simp at hone

/-- The digits of a number are read as the number, since they have no zero in front. -/
theorem naturalOf?_decimalDigits (m : Nat) : Yaml.naturalOf? (decimalDigits m) = some m := by
  unfold Yaml.naturalOf?
  split
  · exact absurd ‹_› (decimalDigits_ne_zero_cons m _ _)
  · exact absurd ‹_› (decimalDigits_ne_zero_cons m _ _)
  · exact absurd ‹_› (decimalDigits_ne_zero_cons m _ _)
  · exact natOfDigits?_decimalDigits m

/-- A whole number is printed without a zero in front, so it is read in base ten. -/
theorem hasLeadingZero_intText : Yaml.hasLeadingZero (intText n) = false := by
  unfold Yaml.hasLeadingZero
  rw [splitSign_intText]
  split
  · exact absurd ‹_› (decimalDigits_ne_zero_cons n.natAbs _ _)
  · rfl

/-- A number within 64 bits is read as fitting, with its sign. -/
theorem intValue_intText (h : fitsSigned n = true) : Yaml.intValue (intText n) = .fits n := by
  simp only [fitsSigned, Bool.and_eq_true, decide_eq_true_eq] at h
  have hnegative : Nat.pow 2 63 = 9223372036854775808 := by decide
  have hpositive : Nat.pow 2 64 = 18446744073709551616 := by decide
  rw [Yaml.intValue, hasLeadingZero_intText, splitSign_intText]
  simp only [Bool.false_eq_true, if_false, naturalOf?_decimalDigits]
  by_cases hn : n < 0
  · rw [if_pos (decide_eq_true hn), Yaml.negativeValue, hnegative, if_pos (by omega)]
    congr 1
    omega
  · rw [if_neg (by simpa using hn), Yaml.positiveValue, hpositive, if_pos (by omega)]
    congr 1
    omega

/-- YAML reads the text of a whole number within 64 bits as the number. -/
theorem plainValue?_intText (h : fitsSigned n = true) :
    Yaml.plainValue? (String.ofList (intText n)) = some (.int n) := by
  have hne : ∀ text : String, text.toList.head?.all (fun c => !isDigit c && c != '-') = true →
      String.ofList (intText n) ≠ text := fun _ => ofList_intText_ne n
  have hempty := hne "" rfl
  have hnull : Yaml.isNull (String.ofList (intText n)) = false := by
    simp [Yaml.isNull, hne "null" rfl, hne "Null" rfl, hne "NULL" rfl,
      hne "~" rfl]
  have hbool : Yaml.boolValue? (String.ofList (intText n)) = none := by
    simp [Yaml.boolValue?, hne "true" rfl, hne "True" rfl, hne "TRUE" rfl,
      hne "false" rfl, hne "False" rfl, hne "FALSE" rfl]
  rw [Yaml.plainValue?, if_neg (by simp [hempty, hnull]), hbool, String.toList_ofList]
  simp only [intValue_intText h]

end Integers

/-- What is written behind a backslash between double quotes means the same in YAML. -/
theorem yaml_escapedChar?_of_escapeLetter? {letters : Char → Bool} {c x : Char}
    (h : escapeLetter? .double letters c = some x) :
    Yaml.escapedChar? x = some c ∧ Yaml.isBreak x = false := by
  unfold escapeLetter? at h
  split at h
  case h_3 =>
    split at h
    · rename_i hquote
      obtain rfl := Option.some.inj h
      rw [hquote]
      decide
    · split at h
      · unfold controlLetter? at h
        split at h
        case h_7 => contradiction
        all_goals
          obtain rfl := Option.some.inj h
          decide
      · contradiction
  all_goals
    obtain rfl := Option.some.inj h
    decide

/-- Between double quotes YAML resolves what is written for a text to the text. -/
theorem doubleBody_spelledText {letters : Char → Bool} {text : List Char}
    (h : ∀ c ∈ text.flatMap (spelled .double letters), Yaml.isKeptBreak c = false) :
    Yaml.DoubleBody (text.flatMap (spelled .double letters)) text := by
  induction text with
  | nil => exact .nil
  | cons c text ih =>
    rw [List.flatMap_cons] at h ⊢
    have hrest := ih fun d hd => h d (List.mem_append_right _ hd)
    unfold spelled at h ⊢
    cases hletter : escapeLetter? .double letters c with
    | none =>
      obtain ⟨hback, hquote, hline⟩ := ne_of_escapeLetter? hletter
      have hkept := h c (by simp [hletter])
      exact .char (by simp [Yaml.isBreak, hline, hkept]) hquote hback hrest
    | some x =>
      obtain ⟨hchar, hbreak⟩ := yaml_escapedChar?_of_escapeLetter? hletter
      exact .escape hbreak hchar hrest

end RuleGraph.Cson
