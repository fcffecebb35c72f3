import RuleGraph.Proofs.Cson.Layout.Scalars
import RuleGraph.Proofs.Cson.Number
import RuleGraph.Proofs.Json.Number

namespace RuleGraph.Cson

section Exponent

variable {e : Char} (he : e = 'e' ∨ e = 'E')
include he

theorem digitValue?_exponent : digitValue? 10 e = none := by
  rcases he with rfl | rfl <;> rfl

theorem exists_splitSign_concat (t : List Char) :
    ∃ u, (Decimal.splitSign (t ++ [e])).2 = u ++ [e] := by
  cases t with
  | nil => rcases he with rfl | rfl <;> exact ⟨[], rfl⟩
  | cons c t =>
    rw [List.cons_append]
    unfold Decimal.splitSign
    split
    · rename_i heq
      exact ⟨t, (List.cons.inj heq).2.symm⟩
    · rename_i heq
      exact ⟨t, (List.cons.inj heq).2.symm⟩
    · exact ⟨c :: t, rfl⟩

/-- A letter at the end is no digit, so taking digits off the front stops at it at the latest. -/
theorem exists_dropWhile_concat (t : List Char) :
    ∃ u, (t ++ [e]).dropWhile isDigit = u ++ [e] := by
  have hstop : ([e]).dropWhile isDigit = [e] := by
    rcases he with rfl | rfl <;> rfl
  rw [List.dropWhile_append, hstop]
  split
  · exact ⟨[], rfl⟩
  · exact ⟨_, rfl⟩

theorem natOfDigits?_concat (t : List Char) :
    natOfDigits? 10 (Decimal.splitSign (t ++ [e])).2 = none := by
  obtain ⟨u, hu⟩ := exists_splitSign_concat he t
  rw [hu]
  exact natOfDigits?_eq_none (List.mem_append_right u List.mem_cons_self) (digitValue?_exponent he)

/-- A power of ten without digits is none. -/
theorem exponentOfText?_concat (t : List Char) :
    Decimal.exponentOfText? (t ++ [e]) = none := by
  cases t with
  | nil => rcases he with rfl | rfl <;> rfl
  | cons c t =>
    simp [Decimal.exponentOfText?, natOfDigits?_concat he t]

/-- A text that ends with the letter of a power of ten is no number. -/
theorem ofText?_concat (t : List Char) : Decimal.ofText? (t ++ [e]) = none := by
  obtain ⟨u, hu⟩ := exists_splitSign_concat he t
  obtain ⟨w, hw⟩ := exists_dropWhile_concat he u
  have hrest : ∀ r, w ++ [e] = '.' :: r → Decimal.exponentOfText? (r.dropWhile isDigit) = none := by
    intro r heq
    cases w with
    | nil =>
      obtain ⟨rfl, -⟩ := List.cons.inj heq
      exact absurd he (by decide)
    | cons c w =>
      obtain ⟨v, hv⟩ := exists_dropWhile_concat he w
      rw [List.cons_append] at heq
      rw [← (List.cons.inj heq).2, hv, exponentOfText?_concat he]
  simp only [Decimal.ofText?, hu, hw]
  split
  · rename_i r heq
    simp [hrest r heq]
  · simp [exponentOfText?_concat he]

/-- A number that breaks off behind the letter of its power of ten denotes nothing. -/
theorem numberValue?_concat {t : List Char} (ht : 'x' ∉ t) : numberValue? (t ++ [e]) = none := by
  have hother : otherValue? (t ++ [e]) = none := by
    unfold otherValue?
    split
    · rename_i digits heq
      have hx : 'x' ∈ t ++ [e] := by rw [heq]; simp
      rcases List.mem_append.1 hx with hx | hx
      · exact absurd hx ht
      · obtain rfl := List.mem_singleton.1 hx
        exact absurd he (by decide)
    · rw [floatValue?, ofText?_concat he]
  have hint : intOfText? 10 (t ++ [e]) = none := by
    simp [intOfText?, natOfDigits?_concat he t]
  rw [numberValue?, hint]
  exact hother

end Exponent

/-- The worth of a number aside, all numbers are the same. -/
theorem withoutNumbers_numberValue? {text : List Char} {v : Document}
    (h : numberValue? text = some v) : v.withoutNumbers = .int 0 := by
  rw [numberValue?_eq, Option.or_eq_some_iff] at h
  obtain hint | ⟨-, hother⟩ := h
  · obtain ⟨n, -, rfl⟩ := Option.map_eq_some_iff.1 hint
    rw [Document.withoutNumbers]
  · obtain ⟨-, hfloat⟩ := Option.ite_none_left_eq_some.1 hother
    obtain ⟨x, rfl, -⟩ := exists_float_of_floatValue? hfloat
    rw [Document.withoutNumbers]

/-- What JSON allows in a number is taken by the lexer, but for the sign of a power of ten. -/
theorem isNumberChar_of_mem_run {run : List Char}
    (h : ∀ c ∈ run, isDigit c = true ∨ c ∈ ['.', 'e', 'E']) : ∀ c ∈ run, isNumberChar c = true := by
  intro c hc
  rcases h c hc with hdigit | hmem
  · exact isNumberChar_of_isDigit hdigit
  · simp only [List.mem_cons, List.not_mem_nil, or_false] at hmem
    rcases hmem with rfl | rfl | rfl <;> rfl

/-- Both readers take the same sign from the front of a number. -/
theorem minusSign_append {sign r : List Char}
    (h : sign = [] ∧ r.head? ≠ some '-' ∨ sign = ['-']) : minusSign (sign ++ r) = sign := by
  rcases h with ⟨rfl, hhead⟩ | rfl
  · rw [List.nil_append]
    unfold minusSign
    split
    · exact absurd rfl hhead
    · rfl
  · rfl

/-- A token takes the tail of a number up to the rest, or up to the sign of the power of ten, and
    then it denotes nothing. -/
theorem dropWhile_isNumberChar_tail {front tail rest : List Char} (hfront : 'x' ∉ front)
    (htail : Json.Tail tail rest) (hrest : ∀ c ∈ rest.head?, isNumberChar c = false) :
    tail.dropWhile isNumberChar = rest ∨
      numberValue? (front ++ tail.takeWhile isNumberChar) = none ∧
        ((tail.dropWhile isNumberChar).head? = some '+' ∨
          (tail.dropWhile isNumberChar).head? = some '-') := by
  cases htail with
  | unsigned hrun => exact .inl (takeWhile_run (isNumberChar_of_mem_run hrun) hrest).2
  | @signed run more _ e c hrun he hc =>
    have hall : ∀ d ∈ run ++ [e], isNumberChar d = true := by
      refine isNumberChar_of_mem_run fun d hd => ?_
      rcases List.mem_append.1 hd with hd | hd
      · exact (hrun d hd).imp_right fun hpoint => by simp [hpoint]
      · rw [List.mem_singleton.1 hd]
        rcases he with rfl | rfl <;> simp
    have hstop : ∀ d ∈ (c :: more).head?, isNumberChar d = false := by
      intro d hd
      obtain rfl := Option.some.inj hd
      rcases hc with rfl | rfl <;> rfl
    have hx : 'x' ∉ front ++ run := by
      intro hx
      rcases List.mem_append.1 hx with hx | hx
      · exact hfront hx
      · exact absurd (hrun _ hx) (by decide)
    have hsplit : run ++ e :: c :: more = run ++ [e] ++ c :: more := by simp
    obtain ⟨htake, hleft⟩ := takeWhile_run hall hstop
    rw [hsplit, htake, hleft, ← List.append_assoc]
    refine .inr ⟨numberValue?_concat he hx, ?_⟩
    rcases hc with rfl | rfl <;> simp

/-- In front of what goes on with no number, a number is one token. The token leaves the rest, or
    it denotes nothing and leaves a sign. -/
theorem exists_step_number? {s : List Char} {p : Parsed Document s} (h : Json.number? s = some p)
    (hrest : ∀ c ∈ p.rest.head?, isNumberChar c = false) :
    ∃ text later, step (number? s) = some (some (.number (String.ofList text)), text, later) ∧
      (later = p.rest ∨
        numberValue? text = none ∧ (later.head? = some '+' ∨ later.head? = some '-')) := by
  obtain ⟨-, sign, r, hs, hsign, hdigits, htail⟩ := Json.exists_of_number? h
  have hminus : minusSign s = sign := hs ▸ minusSign_append hsign
  have hdrop : s.drop (minusSign s).length = r := by rw [hminus, hs, List.drop_left]
  have hfront : 'x' ∉ sign ++ r.takeWhile isDigit := by
    simp only [List.mem_append, not_or]
    constructor
    · rcases hsign with ⟨rfl, -⟩ | rfl <;> simp
    · intro hx
      exact absurd (Json.takeWhile_isDigit _ hx) (by decide)
  rw [step_number?, hdrop, hminus]
  simp only [hdigits, ↓reduceIte]
  exact ⟨_, _, rfl, dropWhile_isNumberChar_tail hfront htail hrest⟩

end RuleGraph.Cson
