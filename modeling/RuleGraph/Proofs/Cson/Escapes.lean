import Mathlib.Data.List.Infix
import RuleGraph.Proofs.Cson.Layout.Quoted
import RuleGraph.Proofs.Decimal.Numeral

namespace RuleGraph

/-- Four hexadecimal digits, and the number that they write. -/
inductive HexCode : List Char → Nat → Prop where
  | intro {a b c d : Char} {i j k l : Nat} (ha : HexDigit a i) (hb : HexDigit b j)
      (hc : HexDigit c k) (hd : HexDigit d l) :
      HexCode [a, b, c, d] (((i * 16 + j) * 16 + k) * 16 + l)

/-- Four digits write a code below `0x10000`, so no character beyond the basic plane. -/
theorem HexCode.lt {digits : List Char} {n : Nat} (h : HexCode digits n) : n < 0x10000 := by
  obtain @⟨a, b, c, d, i, j, k, l, ha, hb, hc, hd⟩ := h
  have hi := ha.lt
  have hj := hb.lt
  have hk := hc.lt
  have hl := hd.lt
  omega

theorem HexCode.mem {digits : List Char} {n : Nat} (h : HexCode digits n) :
    ∀ c ∈ digits, c ∈ hexDigits ++ hexDigits.map Char.toUpper := by
  obtain ⟨ha, hb, hc, hd⟩ := h
  simp only [List.forall_mem_cons, List.not_mem_nil, false_implies, implies_true, and_true]
  exact ⟨ha.mem, hb.mem, hc.mem, hd.mem⟩

theorem HexCode.ne_backslash {digits : List Char} {n : Nat} (h : HexCode digits n) :
    ∀ c ∈ digits, c ≠ '\\' := by
  rintro c hc rfl
  exact absurd (h.mem _ hc) (by decide)

/-- Four characters are read as a number exactly if all of them are hexadecimal digits. -/
theorem natOfDigits?_eq_some_iff {a b c d : Char} {n : Nat} :
    natOfDigits? 16 [a, b, c, d] = some n ↔ HexCode [a, b, c, d] n := by
  simp only [natOfDigits?_cons, continueDigits?_cons, continueDigits?_nil, Option.bind_eq_some_iff,
    Option.some.injEq, Nat.zero_mul, Nat.zero_add]
  constructor
  · rintro ⟨i, ha, j, hb, k, hc, l, hd, rfl⟩
    exact .intro (hexDigit_of_digitValue? ha) (hexDigit_of_digitValue? hb)
      (hexDigit_of_digitValue? hc) (hexDigit_of_digitValue? hd)
  · rintro ⟨ha, hb, hc, hd⟩
    exact ⟨_, digitValue?_of_hexDigit ha, _, digitValue?_of_hexDigit hb, _,
      digitValue?_of_hexDigit hc, _, digitValue?_of_hexDigit hd, rfl⟩

/-- A zero in front changes no number. -/
theorem natOfDigits?_zero_cons (a : Char) (s : List Char) :
    natOfDigits? 16 ('0' :: a :: s) = natOfDigits? 16 (a :: s) := by
  have hzero : digitValue? 16 '0' = some 0 := by decide
  rw [natOfDigits?_cons, continueDigits?_cons, hzero]
  rfl

end RuleGraph

namespace RuleGraph.Cson

/-- The letters that stand for control characters behind a backslash. -/
def controlEscapes : List (Char × Char) :=
  [('n', '\n'), ('t', '\t'), ('r', '\r'), ('b', '\x08'), ('f', '\x0c'), ('v', '\x0b'), ('0', '\x00')]

/-- The first text is read from left to right as the second one, where the given codes may follow
    the letter of a code. -/
inductive Resolves (Code : List Char → Nat → Prop) : List Char → List Char → Prop where
  | nil : Resolves Code [] []
  | plain {c : Char} {s t : List Char} (hc : c ≠ '\\') (h : Resolves Code s t) :
      Resolves Code (c :: s) (c :: t)
  | control {letter c : Char} {s t : List Char} (hc : (letter, c) ∈ controlEscapes)
      (h : Resolves Code s t) : Resolves Code ('\\' :: letter :: s) (c :: t)
  | code {digits : List Char} {c : Char} {s t : List Char} (hc : Code digits c.toNat)
      (h : Resolves Code s t) : Resolves Code ('\\' :: 'u' :: (digits ++ s)) (c :: t)
  | surrogate {digits : List Char} {n : Nat} {s t : List Char} (hn : Code digits n)
      (hlow : 0xD800 ≤ n) (hhigh : n ≤ 0xDFFF) (h : Resolves Code s t) :
      Resolves Code ('\\' :: 'u' :: (digits ++ s)) ('\ufffd' :: t)
  | letter {s t : List Char} (hcode : ∀ digits n, Code digits n → ¬digits <+: s)
      (h : Resolves Code s t) : Resolves Code ('\\' :: 'u' :: s) ('u' :: t)
  | lineEnd {s t : List Char} (h : Resolves Code s t) : Resolves Code ('\\' :: '\n' :: s) t
  | other {c : Char} {s t : List Char}
      (hc : c ∉ ['n', 't', 'r', 'b', 'f', 'v', '0', 'u', '\n']) (h : Resolves Code s t) :
      Resolves Code ('\\' :: c :: s) (c :: t)
  | last : Resolves Code ['\\'] ['\\']

/-- Four hexadecimal digits, of which the first may be replaced by a plus sign. -/
inductive LooseCode : List Char → Nat → Prop where
  | digits {digits : List Char} {n : Nat} (h : HexCode digits n) : LooseCode digits n
  | sign {digits : List Char} {n : Nat} (h : HexCode ('0' :: digits) n) :
      LooseCode ('+' :: digits) n

/-- Where the text is read from left to right, the code of an escape has a plus sign. -/
inductive HasSign : List Char → Prop where
  | here {digits s : List Char} {n : Nat} (h : HexCode ('0' :: digits) n) :
      HasSign ('\\' :: 'u' :: '+' :: (digits ++ s))
  | plain {c : Char} {s : List Char} (hc : c ≠ '\\') (h : HasSign s) : HasSign (c :: s)
  | pair {c : Char} {s : List Char} (h : HasSign s) : HasSign ('\\' :: c :: s)

/-- A plus sign stands for a digit, so it makes no larger code. -/
theorem LooseCode.lt {digits : List Char} {n : Nat} (h : LooseCode digits n) : n < 0x10000 := by
  cases h with
  | digits h => exact h.lt
  | sign h => exact h.lt

theorem not_hexCode_plus {digits : List Char} {n : Nat} : ¬HexCode ('+' :: digits) n := by
  rintro ⟨ha, -, -, -⟩
  have hvalue := digitValue?_of_hexDigit ha
  rw [show digitValue? 16 '+' = none by decide] at hvalue
  cases hvalue

/-- The code behind `\u` is read loosely: a plus sign may stand for its first digit. -/
theorem charOfHex?_eq_some_iff {a b c d x : Char} :
    charOfHex? a b c d = some x ↔ ∃ n, LooseCode [a, b, c, d] n ∧ charOfCode n = x := by
  rw [charOfHex?, Option.map_eq_some_iff]
  refine exists_congr fun n => and_congr_left' ?_
  by_cases hsign : a = '+'
  · subst hsign
    rw [if_pos rfl, ← natOfDigits?_zero_cons, natOfDigits?_eq_some_iff]
    refine ⟨.sign, fun h => ?_⟩
    cases h with
    | digits h => exact absurd h not_hexCode_plus
    | sign h => exact h
  · rw [if_neg hsign, natOfDigits?_eq_some_iff]
    refine ⟨.digits, fun h => ?_⟩
    cases h with
    | digits h => exact h
    | sign h => exact absurd rfl hsign

theorem charOfCode_toNat (c : Char) : charOfCode c.toNat = c := by
  have hvalid : c.toNat.isValidChar := c.valid
  rw [charOfCode, if_pos hvalid, Char.ofNat_toNat]

/-- Half a surrogate pair is no character and becomes the replacement character. -/
theorem charOfCode_of_surrogate {n : Nat} (hlow : 0xD800 ≤ n) (hhigh : n ≤ 0xDFFF) :
    charOfCode n = '\ufffd' := by
  rw [charOfCode, if_neg]
  unfold Nat.isValidChar
  omega

/-- A loose code is resolved, and reading goes on behind its four characters. -/
theorem unescape_looseCode {digits : List Char} {n : Nat} (h : LooseCode digits n)
    (s : List Char) : unescape ('\\' :: 'u' :: (digits ++ s)) = charOfCode n :: unescape s := by
  have hfour : ∃ a b c d, digits = [a, b, c, d] := by
    cases h with
    | digits h =>
      obtain ⟨-, -, -, -⟩ := h
      exact ⟨_, _, _, _, rfl⟩
    | sign h =>
      obtain ⟨-, -, -, -⟩ := h
      exact ⟨_, _, _, _, rfl⟩
  obtain ⟨a, b, c, d, rfl⟩ := hfour
  have hchar : charOfHex? a b c d = some (charOfCode n) := charOfHex?_eq_some_iff.2 ⟨n, h, rfl⟩
  simp only [List.cons_append, List.nil_append]
  rw [unescape, hchar]

/-- Without a code behind it, an escaped `u` is the letter itself. -/
theorem unescape_letter_of_not_looseCode {s : List Char}
    (h : ∀ digits n, LooseCode digits n → ¬digits <+: s) :
    unescape ('\\' :: 'u' :: s) = 'u' :: unescape s := by
  apply unescape_letter
  rintro a b c d t rfl
  rw [Option.eq_none_iff_forall_ne_some]
  intro x hx
  obtain ⟨n, hcode, -⟩ := charOfHex?_eq_some_iff.1 hx
  exact h _ n hcode ⟨t, rfl⟩

/-- The letters of the table stand for their control characters. -/
theorem escapedChar_of_mem {letter c : Char} (h : (letter, c) ∈ controlEscapes) :
    escapedChar letter = c ∧ letter ≠ 'u' ∧ letter ≠ '\n' := by
  simp only [controlEscapes, List.mem_cons, Prod.mk.injEq, List.not_mem_nil, or_false] at h
  obtain ⟨rfl, rfl⟩ | ⟨rfl, rfl⟩ | ⟨rfl, rfl⟩ | ⟨rfl, rfl⟩ | ⟨rfl, rfl⟩ | ⟨rfl, rfl⟩ | ⟨rfl, rfl⟩ := h
  all_goals decide

/-- Every other character stands for itself behind a backslash. -/
theorem escapedChar_of_not_mem {c : Char}
    (h : c ∉ ['n', 't', 'r', 'b', 'f', 'v', '0', 'u', '\n']) :
    escapedChar c = c ∧ c ≠ 'u' ∧ c ≠ '\n' := by
  simp only [List.mem_cons, List.not_mem_nil, or_false, not_or] at h
  unfold escapedChar
  split <;> simp_all

theorem toNat_charOfCode {n : Nat} (hlt : n < 0x10000) (h : n < 0xD800 ∨ 0xDFFF < n) :
    (charOfCode n).toNat = n := by
  have hvalid : n.isValidChar := by
    unfold Nat.isValidChar
    omega
  rw [charOfCode, if_pos hvalid, Char.ofNat, dif_pos hvalid]
  rfl

/-- Behind a backslash the table has an entry for every text. -/
theorem Resolves.exists_pair {Code : List Char → Nat → Prop}
    (hlt : ∀ digits n, Code digits n → n < 0x10000) (c : Char) {s : List Char}
    (h : ∀ rest, rest <:+ s → ∃ t, Resolves Code rest t) :
    ∃ t, Resolves Code ('\\' :: c :: s) t := by
  obtain ⟨t, ht⟩ := h s List.suffix_rfl
  by_cases hu : c = 'u'
  · subst hu
    by_cases hcode : ∃ digits n rest, Code digits n ∧ digits ++ rest = s
    · obtain ⟨digits, n, rest, hn, rfl⟩ := hcode
      obtain ⟨t, ht⟩ := h rest (List.suffix_append digits rest)
      by_cases hsurrogate : 0xD800 ≤ n ∧ n ≤ 0xDFFF
      · exact ⟨_, .surrogate hn hsurrogate.1 hsurrogate.2 ht⟩
      · have hchar : (charOfCode n).toNat = n := toNat_charOfCode (hlt _ n hn) (by omega)
        exact ⟨_, .code (hchar.symm ▸ hn) ht⟩
    · refine ⟨_, .letter (fun digits n hn hfront => hcode ?_) ht⟩
      obtain ⟨rest, hrest⟩ := hfront
      exact ⟨digits, n, rest, hn, hrest⟩
  by_cases hline : c = '\n'
  · subst hline
    exact ⟨_, .lineEnd ht⟩
  by_cases hcontrol : c ∈ controlEscapes.map Prod.fst
  · obtain ⟨⟨letter, x⟩, hmem, rfl⟩ := List.mem_map.1 hcontrol
    exact ⟨_, .control hmem ht⟩
  · refine ⟨_, .other ?_ ht⟩
    simpa [controlEscapes, hu, hline] using hcontrol

theorem unescape_append {front : List Char} (h : ∀ c ∈ front, c ≠ '\\') (s : List Char) :
    unescape (front ++ s) = front ++ unescape s := by
  induction front with
  | nil => rfl
  | cons c front ih =>
    rw [List.forall_mem_cons] at h
    rw [List.cons_append, unescape_of_ne h.1, ih h.2, List.cons_append]

theorem unescape_eq_self {s : List Char} (h : ∀ c ∈ s, c ≠ '\\') : unescape s = s := by
  have hread := unescape_append h []
  rwa [List.append_nil, unescape, List.append_nil] at hread

/-- The table reads every text. -/
theorem exists_resolves {Code : List Char → Nat → Prop}
    (hlt : ∀ digits n, Code digits n → n < 0x10000) (s : List Char) : ∃ t, Resolves Code s t := by
  induction hlength : s.length using Nat.strong_induction_on generalizing s with
  | _ length ih =>
    match s with
    | [] => exact ⟨_, .nil⟩
    | [c] =>
      by_cases hback : c = '\\'
      · subst hback
        exact ⟨_, .last⟩
      · exact ⟨_, .plain hback .nil⟩
    | c :: d :: s =>
      by_cases hback : c = '\\'
      · subst hback
        apply Resolves.exists_pair hlt
        intro rest hrest
        have hshorter := hrest.length_le
        simp only [List.length_cons] at hlength
        exact ih rest.length (by omega) rest rfl
      · obtain ⟨t, ht⟩ := ih (d :: s).length (by simp [← hlength]) (d :: s) rfl
        exact ⟨_, .plain hback ht⟩

/-- Reading from left to right by the table with loose codes is what the lexer does. -/
theorem Resolves.unescape_eq {s t : List Char} (h : Resolves LooseCode s t) : unescape s = t := by
  induction h with
  | nil => rfl
  | plain hc _ ih => rw [unescape_of_ne hc, ih]
  | control hc _ ih =>
    obtain ⟨hchar, hu, hline⟩ := escapedChar_of_mem hc
    rw [unescape_backslash hu hline, hchar, ih]
  | code hc _ ih => rw [unescape_looseCode hc, charOfCode_toNat, ih]
  | surrogate hn hlow hhigh _ ih =>
    rw [unescape_looseCode hn, charOfCode_of_surrogate hlow hhigh, ih]
  | letter hcode _ ih => rw [unescape_letter_of_not_looseCode hcode, ih]
  | lineEnd _ ih => rw [unescape, ih]
  | other hc _ ih =>
    obtain ⟨hchar, hu, hline⟩ := escapedChar_of_not_mem hc
    rw [unescape_backslash hu hline, hchar, ih]
  | last => rfl

/-- Read with a sign for a digit, every text is read as the table reads it. -/
theorem unescape_eq_iff {s t : List Char} : unescape s = t ↔ Resolves LooseCode s t := by
  refine ⟨?_, Resolves.unescape_eq⟩
  rintro rfl
  obtain ⟨t, ht⟩ := exists_resolves (fun _ _ => LooseCode.lt) s
  rwa [ht.unescape_eq]

theorem hasSign_cons_iff {c : Char} (hc : c ≠ '\\') {s : List Char} :
    HasSign (c :: s) ↔ HasSign s := by
  refine ⟨fun h => ?_, .plain hc⟩
  cases h with
  | here => exact absurd rfl hc
  | plain _ h => exact h
  | pair => exact absurd rfl hc

theorem hasSign_append_iff {front : List Char} (hfront : ∀ c ∈ front, c ≠ '\\') {s : List Char} :
    HasSign (front ++ s) ↔ HasSign s := by
  induction front with
  | nil => rfl
  | cons c front ih =>
    rw [List.forall_mem_cons] at hfront
    rw [List.cons_append, hasSign_cons_iff hfront.1, ih hfront.2]

/-- The character behind a backslash is used up with it, so it starts no escape of its own. -/
theorem hasSign_pair_iff {c : Char} (hc : c ≠ 'u') {s : List Char} :
    HasSign ('\\' :: c :: s) ↔ HasSign s := by
  refine ⟨fun h => ?_, .pair⟩
  cases h with
  | here => exact absurd rfl hc
  | plain hback => exact absurd rfl hback
  | pair h => exact h

/-- A sign is used behind an escaped `u` that has the other digits of a code behind the sign, or
    later. -/
theorem hasSign_letter_iff {s : List Char} :
    HasSign ('\\' :: 'u' :: s) ↔
      (∃ digits n, HexCode ('0' :: digits) n ∧ '+' :: digits <+: s) ∨ HasSign s := by
  constructor
  · intro h
    cases h with
    | here hcode => exact .inl ⟨_, _, hcode, List.prefix_append ('+' :: _) _⟩
    | plain hback => exact absurd rfl hback
    | pair h => exact .inr h
  · rintro (⟨digits, n, hcode, rest, rfl⟩ | h)
    · exact .here hcode
    · exact .pair h

/-- A code of four digits leaves no room for a sign. -/
theorem hasSign_code_iff {digits : List Char} {n : Nat} (h : HexCode digits n) {s : List Char} :
    HasSign ('\\' :: 'u' :: (digits ++ s)) ↔ HasSign s := by
  rw [hasSign_letter_iff, hasSign_append_iff h.ne_backslash, or_iff_right]
  rintro ⟨more, m, -, hfront⟩
  obtain ⟨ha, hb, hc, hd⟩ := h
  obtain rfl := (List.cons_prefix_cons.1 hfront).1
  exact not_hexCode_plus (.intro ha hb hc hd)

/-- A text without signs is read as the second one. Each sign costs characters, because four of them
    are read as one. -/
def ReadUpToSigns (s t : List Char) : Prop :=
  (HasSign s → (unescape s).length < t.length) ∧ (¬HasSign s → unescape s = t)

/-- Four characters with a sign are read as one, so what is read is never longer than what the table
    gives. -/
theorem ReadUpToSigns.length_le {s t : List Char} (h : ReadUpToSigns s t) :
    (unescape s).length ≤ t.length := by
  by_cases hsign : HasSign s
  · exact (h.1 hsign).le
  · rw [h.2 hsign]

/-- What both readings resolve alike can be put in front. -/
theorem ReadUpToSigns.step {s s' t : List Char} (h : ReadUpToSigns s t) (front : List Char)
    (hread : unescape s' = front ++ unescape s) (hsign : HasSign s' ↔ HasSign s) :
    ReadUpToSigns s' (front ++ t) := by
  rw [ReadUpToSigns, hsign, hread]
  refine ⟨fun hs => ?_, fun hs => by rw [h.2 hs]⟩
  have hshorter := h.1 hs
  simp only [List.length_append]
  omega

/-- Behind the letter of a code that the table does not know. -/
theorem ReadUpToSigns.letter {s t : List Char} (h : ReadUpToSigns s t)
    (hcode : ∀ digits n, HexCode digits n → ¬digits <+: s) :
    ReadUpToSigns ('\\' :: 'u' :: s) ('u' :: t) := by
  by_cases hplus : ∃ digits n, HexCode ('0' :: digits) n ∧ '+' :: digits <+: s
  · have hsign : HasSign ('\\' :: 'u' :: s) := hasSign_letter_iff.2 (.inl hplus)
    refine ⟨fun _ => ?_, fun hnot => absurd hsign hnot⟩
    obtain ⟨digits, n, hn, rest, rfl⟩ := hplus
    have hplain : ∀ c ∈ '+' :: digits, c ≠ '\\' :=
      List.forall_mem_cons.2 ⟨by decide, (List.forall_mem_cons.1 hn.ne_backslash).2⟩
    have hlength := h.length_le
    rw [unescape_append hplain] at hlength
    rw [unescape_looseCode (.sign hn)]
    simp only [List.length_append, List.length_cons] at hlength ⊢
    omega
  · refine h.step ['u'] (unescape_letter_of_not_looseCode ?_) ?_
    · intro digits n hn hfront
      cases hn with
      | digits hn => exact hcode _ _ hn hfront
      | sign hn => exact hplus ⟨_, _, hn, hfront⟩
    · rw [hasSign_letter_iff, or_iff_right hplus]

/-- Escapes are resolved by the table but for one thing: a plus sign may stand for the first digit
    of a code. -/
theorem Resolves.readUpToSigns {s t : List Char} (h : Resolves HexCode s t) : ReadUpToSigns s t := by
  induction h with
  | nil => exact ⟨fun h => (by cases h), fun _ => rfl⟩
  | @plain c s t hc _ ih => exact ih.step [c] (unescape_of_ne hc s) (hasSign_cons_iff hc)
  | @control letter c s t hc _ ih =>
    obtain ⟨hchar, hu, hline⟩ := escapedChar_of_mem hc
    refine ih.step [c] ?_ (hasSign_pair_iff hu)
    rw [unescape_backslash hu hline, hchar]
    rfl
  | @code digits c s t hc _ ih =>
    refine ih.step [c] ?_ (hasSign_code_iff hc)
    rw [unescape_looseCode (.digits hc), charOfCode_toNat]
    rfl
  | surrogate hn hlow hhigh _ ih =>
    refine ih.step ['\ufffd'] ?_ (hasSign_code_iff hn)
    rw [unescape_looseCode (.digits hn), charOfCode_of_surrogate hlow hhigh]
    rfl
  | letter hcode _ ih => exact ih.letter hcode
  | lineEnd _ ih =>
    refine ih.step [] ?_ (hasSign_pair_iff (by decide))
    rw [unescape]
    rfl
  | @other c s t hc _ ih =>
    obtain ⟨hchar, hu, hline⟩ := escapedChar_of_not_mem hc
    refine ih.step [c] ?_ (hasSign_pair_iff hu)
    rw [unescape_backslash hu hline, hchar]
    rfl
  | last =>
    refine ⟨fun h => ?_, fun _ => rfl⟩
    cases h with
    | plain hback => exact absurd rfl hback

/-- Every text is read by the table with codes that may begin with a plus sign, and by the table itself
    exactly if there is no such sign. -/
theorem unescape_eq_iff_resolves (s : List Char) :
    (∀ t, unescape s = t ↔ Resolves LooseCode s t) ∧
      ((∀ t, unescape s = t ↔ Resolves HexCode s t) ↔ ¬HasSign s) := by
  refine ⟨fun _ => unescape_eq_iff, fun h hsign => ?_, fun hsign t => ⟨?_, ?_⟩⟩
  · have hread := ((h _).1 rfl).readUpToSigns
    exact (hread.1 hsign).ne rfl
  · rintro rfl
    obtain ⟨t, ht⟩ := exists_resolves (fun _ _ => HexCode.lt) s
    rwa [ht.readUpToSigns.2 hsign]
  · exact fun h => h.readUpToSigns.2 hsign

/-- A plus sign and three digits are read as a code, where the table reads five characters. -/
theorem not_forall_resolves_unescape : ¬∀ s, Resolves HexCode s (unescape s) := by
  intro h
  have hcode : HexCode ['0', '1', '2', '3'] 0x123 :=
    .intro (i := 0) (j := 1) (k := 2) (l := 3) (by decide) (by decide) (by decide) (by decide)
  have hsign : HasSign ('\\' :: 'u' :: '+' :: (['1', '2', '3'] ++ [])) := .here hcode
  exact ((h _).readUpToSigns.1 hsign).ne rfl

end RuleGraph.Cson
