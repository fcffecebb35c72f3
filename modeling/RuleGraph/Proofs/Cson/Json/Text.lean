import RuleGraph.Json.Text
import RuleGraph.Proofs.Cson.Escapes

namespace RuleGraph.Cson

/-- The second text has one character beyond the basic plane for some of the places where the first
    one has two replacement characters. -/
inductive Halved : List Char → List Char → Prop where
  | nil : Halved [] []
  | cons (c : Char) {s t : List Char} (h : Halved s t) : Halved (c :: s) (c :: t)
  | pair {c : Char} (hc : 0x10000 ≤ c.toNat) {s t : List Char} (h : Halved s t) :
      Halved ('\ufffd' :: '\ufffd' :: s) (c :: t)

/-- Somewhere in the text stands an escape for the first half of a surrogate pair. -/
def WritesHalf (s : List Char) : Prop :=
  ∃ a b c d unit, ['\\', 'u', a, b, c, d] <:+: s ∧ natOfDigits? 16 [a, b, c, d] = some unit ∧
    Json.isHighSurrogate unit = true

theorem WritesHalf.of_infix {s t : List Char} (h : WritesHalf s) (hs : s <:+: t) :
    WritesHalf t := by
  obtain ⟨a, b, c, d, unit, hwithin, hunit, hhigh⟩ := h
  exact ⟨a, b, c, d, unit, hwithin.trans hs, hunit, hhigh⟩

/-- A JSON string with the given text ends at the same place as a literal, and the escapes of the
    literal denote the text, up to surrogate pairs. -/
def Transfers (s text rest : List Char) : Prop :=
  ∃ raw, literalBody ['"'] s = some (raw, rest) ∧ '\n' ∉ raw ∧ Halved (unescape raw) text ∧
    (unescape raw = text ∨ WritesHalf raw)

/-- A piece in front that denotes one character in both. -/
theorem Transfers.cons {piece s text rest : List Char} {c : Char} (h : Transfers s text rest)
    (hopen : StaysOpen .double piece) (hline : '\n' ∉ piece)
    (hchar : ∀ raw, unescape (piece ++ raw) = c :: unescape raw) :
    Transfers (piece ++ s) (c :: text) rest := by
  obtain ⟨raw, hraw, hlines, hhalved, hsame⟩ := h
  have hbody := hopen s
  rw [Delimiter.text, hraw, Option.map_some] at hbody
  refine ⟨piece ++ raw, hbody, ?_, ?_, ?_⟩
  · exact fun hmem => (List.mem_append.1 hmem).elim hline hlines
  · rw [hchar]
    exact .cons c hhalved
  · rw [hchar]
    exact hsame.imp (congrArg (c :: ·)) fun h => h.of_infix (List.suffix_append _ _).isInfix

section Unit

variable {a b c d : Char} {unit : Nat} (hunit : natOfDigits? 16 [a, b, c, d] = some unit)
include hunit

/-- An escaped code closes no literal. -/
theorem staysOpen_unit : StaysOpen .double ['\\', 'u', a, b, c, d] := by
  have hplain : ∀ x ∈ [a, b, c, d], x ≠ '\\' ∧ x ∉ Delimiter.double.text := fun x hx =>
    ⟨ne_of_mem_digits hunit hx (by decide),
      mt List.mem_singleton.1 (ne_of_mem_digits hunit hx (by decide))⟩
  exact (StaysOpen.pair 'u').append (.of_plain hplain)

theorem not_mem_unit : '\n' ∉ ['\\', 'u', a, b, c, d] := by
  have hplain : ∀ x ∈ [a, b, c, d], x ≠ '\n' := fun x hx => ne_of_mem_digits hunit hx (by decide)
  intro hmem
  rcases List.mem_cons.1 hmem with hback | hmem
  · cases hback
  · rcases List.mem_cons.1 hmem with hletter | hmem
    · cases hletter
    · exact hplain _ hmem rfl

theorem unescape_unit (s : List Char) :
    unescape (['\\', 'u', a, b, c, d] ++ s) = charOfCode unit :: unescape s :=
  unescape_looseCode (.digits (natOfDigits?_eq_some_iff.1 hunit)) s

/-- Outside of the surrogates both readers make the same character of a code. -/
theorem charOfCode_unit (hhigh : Json.isHighSurrogate unit = false)
    (hlow : Json.isLowSurrogate unit = false) : charOfCode unit = Char.ofNat unit := by
  have hlt := natOfDigits?_lt hunit
  have hpow : Nat.pow 16 4 = 65536 := by decide
  have hvalid : unit.isValidChar := by
    simp only [Json.isHighSurrogate, Json.isLowSurrogate, Bool.and_eq_false_iff,
      decide_eq_false_iff_not] at hhigh hlow
    simp only [List.length_cons, List.length_nil, Nat.reduceAdd, hpow] at hlt
    unfold Nat.isValidChar
    omega
  rw [charOfCode, if_pos hvalid]

end Unit

/-- Half a surrogate pair is no character. -/
theorem charOfCode_of_isSurrogate {unit : Nat}
    (h : Json.isHighSurrogate unit = true ∨ Json.isLowSurrogate unit = true) :
    charOfCode unit = '\ufffd' := by
  simp only [Json.isHighSurrogate, Json.isLowSurrogate, Bool.and_eq_true, decide_eq_true_eq] at h
  exact charOfCode_of_surrogate (by omega) (by omega)

/-- A pair writes a character beyond the basic plane. -/
theorem le_toNat_charOfPair {high low : Nat} (hhigh : Json.isHighSurrogate high = true)
    (hlow : Json.isLowSurrogate low = true) : 0x10000 ≤ (Json.charOfPair high low).toNat := by
  simp only [Json.isHighSurrogate, Json.isLowSurrogate, Bool.and_eq_true,
    decide_eq_true_eq] at hhigh hlow
  have hvalid : (0x10000 + (high - 0xD800) * 0x400 + (low - 0xDC00)).isValidChar := by
    unfold Nat.isValidChar
    omega
  rw [Json.charOfPair, Char.ofNat, dif_pos hvalid]
  change 0x10000 ≤ 0x10000 + (high - 0xD800) * 0x400 + (low - 0xDC00)
  omega

/-- The letters that JSON knows behind a backslash mean the same in CSON. -/
theorem escapedChar_of_escapedChar? {c x : Char} (h : Json.escapedChar? c = some x) :
    escapedChar c = x ∧ c ≠ 'u' ∧ c ≠ '\n' := by
  unfold Json.escapedChar? at h
  split at h <;> cases h <;> decide

/-- Every string of JSON is a literal, and its escapes denote the same text, up to surrogate
    pairs. -/
theorem transfers_of_stringBody {s text rest : List Char}
    (h : Json.stringBody s = some (text, rest)) : Transfers s text rest := by
  -- A case for each kind of piece in front; those that the reader refuses are gone at once.
  fun_induction Json.stringBody s generalizing text with
  | case1 | case3 | case4 | case6 | case7 | case8 | case11 | case12 => cases h
  | case2 s =>
    obtain ⟨rfl, rfl⟩ := Prod.mk.inj (Option.some.inj h)
    refine ⟨[], ?_, by simp, .nil, .inl rfl⟩
    rw [literalBody] <;> simp
  | case5 a b c d unit hunit hhigh e f g i s low hlow hlowSurrogate ih =>
    obtain ⟨⟨text', rest'⟩, hbody, heq⟩ := Option.map_eq_some_iff.1 h
    obtain ⟨rfl, rfl⟩ := Prod.mk.inj heq
    obtain ⟨raw, hraw, hlines, hhalved, -⟩ := ih hbody
    have hfirst := staysOpen_unit hunit (['\\', 'u', e, f, g, i] ++ s)
    rw [staysOpen_unit hlow, Delimiter.text, hraw] at hfirst
    have hresolved : unescape (['\\', 'u', a, b, c, d] ++ (['\\', 'u', e, f, g, i] ++ raw)) =
        '\ufffd' :: '\ufffd' :: unescape raw := by
      rw [unescape_unit hunit, unescape_unit hlow, charOfCode_of_isSurrogate (.inl hhigh),
        charOfCode_of_isSurrogate (.inr hlowSurrogate)]
    refine ⟨_, hfirst, ?_, ?_, .inr ?_⟩
    · intro hmem
      rcases List.mem_append.1 hmem with hmem | hmem
      · exact not_mem_unit hunit hmem
      · exact (List.mem_append.1 hmem).elim (not_mem_unit hlow) hlines
    · rw [hresolved]
      exact .pair (le_toNat_charOfPair hhigh hlowSurrogate) hhalved
    · exact ⟨a, b, c, d, unit, (List.prefix_append _ _).isInfix, hunit, hhigh⟩
  | case9 a b c d s unit hunit hhigh hlow ih =>
    obtain ⟨⟨text', rest'⟩, hbody, heq⟩ := Option.map_eq_some_iff.1 h
    obtain ⟨rfl, rfl⟩ := Prod.mk.inj heq
    refine (ih hbody).cons (staysOpen_unit hunit) (not_mem_unit hunit) fun raw => ?_
    rw [unescape_unit hunit, charOfCode_unit hunit (by simpa using hhigh) (by simpa using hlow)]
  | case10 c s hpair x hx ih =>
    obtain ⟨⟨text', rest'⟩, hbody, heq⟩ := Option.map_eq_some_iff.1 h
    obtain ⟨rfl, rfl⟩ := Prod.mk.inj heq
    obtain ⟨hchar, hu, hline⟩ := escapedChar_of_escapedChar? hx
    refine (ih hbody).cons (.pair c) ?_ fun raw => ?_
    · simp [Ne.symm hline]
    · simp only [List.cons_append, List.nil_append]
      rw [unescape_backslash hu hline, hchar]
  | case13 c s hquote hpair hback hplain ih =>
    obtain ⟨⟨text', rest'⟩, hbody, heq⟩ := Option.map_eq_some_iff.1 h
    obtain ⟨rfl, rfl⟩ := Prod.mk.inj heq
    simp only [Bool.or_eq_true, decide_eq_true_eq, not_or] at hplain
    refine (ih hbody).cons (.single hplain.2 (mt List.mem_singleton.1 hquote)) ?_ fun raw => ?_
    · rw [List.mem_singleton]
      rintro rfl
      exact hplain.1 (by decide)
    · exact unescape_of_ne hplain.2 raw

end RuleGraph.Cson
