import RuleGraph.Proofs.Cson.Grammar
import RuleGraph.Proofs.Cson.Layout.Pieces
import RuleGraph.Proofs.Decimal.Numeral

namespace RuleGraph.Cson

/-- Nothing that comes before words and numbers in the order of the lexer starts with the
    character. -/
theorem step_lex?_of_plain {c : Char} (s : List Char)
    (h : c ≠ '#' ∧ isSpace c = false ∧ c ≠ '\'' ∧ c ≠ '"') :
    step (lex? (c :: s)) = (step (number? (c :: s))).or ((step (word? (c :: s))).or
      (step (punctuation? (c :: s)))) := by
  obtain ⟨hmark, hspace, hsingle, hdouble⟩ := h
  have hhead : (c :: s).head? ≠ some '#' := by
    rw [List.head?_cons]
    exact fun heq => hmark (Option.some.inj heq)
  have hquotes : openingQuotes? (c :: s) = none := by
    unfold openingQuotes?
    split <;> simp_all
  rw [step_lex?, step_blockComment?_of_ne hhead, step_lineComment?_of_ne hhead, step_spaces?,
    step_literal?, hquotes, hspace]
  rfl

theorem isDigit_eq_false_of_isNumberChar {c : Char} (h : isNumberChar c = false) :
    isDigit c = false := by
  cases hdigit : isDigit c with
  | false => rfl
  | true =>
    have hascii : c.isDigit = true := by
      simpa [isDigit, Char.isDigit, Char.le_def] using hdigit
    simp [isNumberChar, Char.isAlphanum, hascii] at h

theorem isDigit_eq_false_of_isWordStart {c : Char} (h : isWordStart c = true) :
    isDigit c = false := by
  simp only [isWordStart, Bool.or_eq_true, decide_eq_true_eq] at h
  simp only [isDigit, Bool.and_eq_false_iff, decide_eq_false_iff_not, Char.le_def,
    UInt32.le_iff_toNat_le]
  have hnine : '9'.val.toNat = 57 := rfl
  obtain (halpha | rfl) | rfl := h
  · obtain hupper | hlower := Bool.or_eq_true_iff.1 halpha
    · have hfirst : 'A'.val ≤ c.val := (of_decide_eq_true hupper).1
      have hletter : 'A'.val.toNat = 65 := rfl
      rw [UInt32.le_iff_toNat_le] at hfirst
      omega
    · have hfirst : 'a'.val ≤ c.val := of_decide_eq_true (Bool.and_eq_true_iff.1 hlower).1
      have hletter : 'a'.val.toNat = 97 := rfl
      rw [UInt32.le_iff_toNat_le] at hfirst
      omega
  all_goals decide

/-- What starts a word starts no blank, comment or quote. -/
theorem plain_of_isWordStart {c : Char} (h : isWordStart c = true) :
    c ≠ '#' ∧ isSpace c = false ∧ c ≠ '\'' ∧ c ≠ '"' := by
  have hne : ∀ d, isWordStart d = false → c ≠ d := by
    rintro d hd rfl
    rw [h] at hd
    contradiction
  refine ⟨hne _ (by decide), ?_, hne _ (by decide), hne _ (by decide)⟩
  simp [isSpace, hne ' ' (by decide), hne '\t' (by decide), hne '\r' (by decide)]

theorem plain_of_isDigit {c : Char} (h : isDigit c = true) :
    (c ≠ '#' ∧ isSpace c = false ∧ c ≠ '\'' ∧ c ≠ '"') ∧ c ≠ '-' := by
  have hne : ∀ d, isDigit d = false → c ≠ d := by
    rintro d hd rfl
    rw [h] at hd
    contradiction
  refine ⟨⟨hne _ (by decide), ?_, hne _ (by decide), hne _ (by decide)⟩, hne _ (by decide)⟩
  simp [isSpace, hne ' ' (by decide), hne '\t' (by decide), hne '\r' (by decide)]

/-- A run of characters ends where the first one stands that does not belong to it. -/
theorem takeWhile_run {p : Char → Bool} {s rest : List Char} (hs : ∀ c ∈ s, p c = true)
    (hrest : ∀ c ∈ rest.head?, p c = false) :
    (s ++ rest).takeWhile p = s ∧ (s ++ rest).dropWhile p = rest := by
  have hstop : rest.takeWhile p = [] ∧ rest.dropWhile p = rest := by
    cases rest with
    | nil => exact ⟨rfl, rfl⟩
    | cons c rest =>
      have hc : ¬p c = true := by simp [hrest c rfl]
      exact ⟨List.takeWhile_cons_of_neg hc, List.dropWhile_cons_of_neg hc⟩
  rw [List.takeWhile_append_of_pos hs, List.dropWhile_append_of_pos hs, hstop.1, hstop.2]
  simp

/-- A run that cannot go on in the rest is the same as without the rest. -/
theorem takeWhile_append_stop {p : Char → Bool} {rest : List Char}
    (hrest : ∀ c ∈ rest.head?, p c = false) (s : List Char) :
    (s ++ rest).takeWhile p = s.takeWhile p ∧ (s ++ rest).dropWhile p = s.dropWhile p ++ rest := by
  induction s with
  | nil => exact takeWhile_run (List.forall_mem_nil _) hrest
  | cons c s ih =>
    rw [List.cons_append, List.takeWhile_cons, List.takeWhile_cons, List.dropWhile_cons,
      List.dropWhile_cons, ih.1, ih.2]
    split <;> simp

/-- A word as the lexer takes it. -/
inductive WordText : List Char → Prop where
  | intro {c : Char} {s : List Char} (hstart : isWordStart c = true)
      (hchars : ∀ d ∈ s, isWordChar d = true) : WordText (c :: s)

/-- A number as the lexer takes it: a sign or none, digits, and whatever may go on with them. -/
inductive NumberText : List Char → Prop where
  | intro {sign digits more : List Char} (hsign : sign = [] ∨ sign = ['-']) (hsome : digits ≠ [])
      (hdigits : ∀ c ∈ digits, isDigit c = true) (hmore : ∀ c ∈ more, isNumberChar c = true) :
      NumberText (sign ++ (digits ++ more))

/-- A bare word is one token in front of what does not go on with it. -/
theorem tokensFrom_word {word rest : List Char} (h : WordText word)
    (hrest : ∀ c ∈ rest.head?, isWordChar c = false) (place : Place) :
    tokensFrom place (word ++ rest) = (tokensFrom (place.advance word) rest).map
      ([⟨.word (String.ofList word), place⟩] ++ ·) := by
  obtain @⟨c, s, hstart, hchars⟩ := h
  have hdigit := isDigit_eq_false_of_isWordStart hstart
  have hminus : c ≠ '-' := by
    rintro rfl
    exact absurd hstart (by decide)
  obtain ⟨htake, hdrop⟩ := takeWhile_run hchars hrest
  have hnumber : step (number? (c :: (s ++ rest))) = none := by
    rw [step_number?]
    simp [minusSign, hminus, hdigit]
  have hstep : step (lex? (c :: s ++ rest)) =
      some (some (.word (String.ofList (c :: s))), c :: s, rest) := by
    rw [List.cons_append, step_lex?_of_plain _ (plain_of_isWordStart hstart), hnumber, step_word?,
      if_pos hstart, htake, hdrop]
    rfl
  exact tokensFrom_eq_of_step hstep place

/-- A bare word is one token in front of what does not go on with it. -/
theorem lexes_word {word : String} {c : Char} {s : List Char} (hword : word.toList = c :: s)
    (hstart : isWordStart c = true) (hchars : s.all isWordChar = true) (place : Place) :
    Lexes place word.toList [⟨.word word, place⟩] := by
  intro rest hrest
  have htext : WordText word.toList := hword ▸ .intro hstart (List.all_eq_true.1 hchars)
  have htokens := tokensFrom_word htext (fun x hx => (hrest x hx).1) place
  rwa [String.ofList_toList] at htokens

theorem minusSign_of_ne {c : Char} (h : c ≠ '-') (s : List Char) : minusSign (c :: s) = [] := by
  unfold minusSign
  split <;> simp_all

theorem isNumberChar_of_isDigit {c : Char} (h : isDigit c = true) : isNumberChar c = true := by
  cases hc : isNumberChar c with
  | true => rfl
  | false =>
    rw [isDigit_eq_false_of_isNumberChar hc] at h
    exact h

/-- The text of a number is taken as a whole if the rest does not go on with it. -/
theorem NumberText.step_number? {number rest : List Char} (h : NumberText number)
    (hrest : ∀ c ∈ rest.head?, isNumberChar c = false) :
    step (number? (number ++ rest)) =
      some (some (.number (String.ofList number)), number, rest) := by
  obtain @⟨sign, digits, more, hsign, hsome, hdigits, hmore⟩ := h
  obtain ⟨first, others, rfl⟩ := List.exists_cons_of_ne_nil hsome
  have hfirst := hdigits first List.mem_cons_self
  have hminus : minusSign (sign ++ (first :: others ++ more) ++ rest) = sign := by
    obtain rfl | rfl := hsign
    · exact minusSign_of_ne (plain_of_isDigit hfirst).2 _
    · rfl
  -- The lexer takes all digits first, also those that go on behind the given ones.
  obtain ⟨htake, hdrop⟩ := takeWhile_append_stop (p := isDigit)
    (fun c hc => isDigit_eq_false_of_isNumberChar (hrest c hc)) (first :: others ++ more)
  have hchars : ∀ c ∈ (first :: others ++ more).dropWhile isDigit, isNumberChar c = true := by
    intro c hc
    rcases List.mem_append.1 (List.dropWhile_suffix _ |>.mem hc) with hc | hc
    · exact isNumberChar_of_isDigit (hdigits c hc)
    · exact hmore c hc
  obtain ⟨hall, hleft⟩ := takeWhile_run hchars hrest
  have hdigit : (first :: others ++ more).takeWhile isDigit ≠ [] := by simp [hfirst]
  rw [Cson.step_number?, hminus, List.append_assoc, List.drop_left]
  simp only [htake, hdrop, hall, hleft, if_neg hdigit]
  rw [List.append_assoc, List.takeWhile_append_dropWhile]

/-- A number is one token in front of what does not go on with it. -/
theorem tokensFrom_number {number rest : List Char} (h : NumberText number)
    (hrest : ∀ c ∈ rest.head?, isNumberChar c = false) (place : Place) :
    tokensFrom place (number ++ rest) = (tokensFrom (place.advance number) rest).map
      ([⟨.number (String.ofList number), place⟩] ++ ·) := by
  have hplain : ∃ c s, number = c :: s ∧ c ≠ '#' ∧ isSpace c = false ∧ c ≠ '\'' ∧ c ≠ '"' := by
    obtain @⟨sign, digits, more, rfl | rfl, hsome, hdigits, -⟩ := h
    · obtain ⟨first, others, rfl⟩ := List.exists_cons_of_ne_nil hsome
      exact ⟨first, others ++ more, rfl, (plain_of_isDigit (hdigits first (by simp))).1⟩
    · exact ⟨'-', digits ++ more, rfl, by decide⟩
  have hnumber := h.step_number? hrest
  obtain ⟨c, s, hcons, hplain⟩ := hplain
  have hstep : step (lex? (number ++ rest)) =
      some (some (.number (String.ofList number)), number, rest) := by
    rw [hcons, List.cons_append] at hnumber ⊢
    rw [step_lex?_of_plain _ hplain, hnumber]
    rfl
  exact tokensFrom_eq_of_step hstep place

/-- The text of a whole number is one that the lexer takes for a number. -/
theorem numberText_intText (n : Int) : NumberText (intText n) := by
  have hdigits : ∀ c ∈ decimalDigits n.natAbs, isDigit c = true :=
    fun c hc => isDigit_of_mem_decimalDigits hc
  have hsome := decimalDigits_ne_nil n.natAbs
  have hsign : ∃ sign, (sign = [] ∨ sign = ['-']) ∧
      intText n = sign ++ (decimalDigits n.natAbs ++ []) := by
    by_cases hn : n < 0
    · exact ⟨['-'], .inr rfl, by rw [intText, if_pos hn]; simp⟩
    · exact ⟨[], .inl rfl, by rw [intText, if_neg hn]; simp⟩
  obtain ⟨sign, hsign, htext⟩ := hsign
  rw [htext]
  exact .intro hsign hsome hdigits (List.forall_mem_nil _)

/-- A whole number is one token. -/
theorem lexes_intText (n : Int) (place : Place) :
    Lexes place (intText n) [⟨.number (String.ofList (intText n)), place⟩] :=
  fun _ hrest => tokensFrom_number (numberText_intText n) (fun x hx => (hrest x hx).2.1) place

/-- The text of a whole number within 64 bits denotes the number. -/
theorem numberValue?_intText {n : Int} (h : fitsSigned n = true) :
    numberValue? (intText n) = some (.int n) := by
  have hnumeral : Numeral 10 (decimalDigits n.natAbs) n.natAbs :=
    (natOfDigits?_eq_some_iff_numeral (by decide)).1 (natOfDigits?_decimalDigits n.natAbs)
  have hint : intOfText? 10 (intText n) = some n := by
    rw [intOfText?_eq_some_iff (by decide), intText]
    by_cases hn : n < 0
    · have habs : -(n.natAbs : Int) = n := by omega
      have hsigned := SignedNumeral.minus hnumeral
      rw [habs] at hsigned
      rwa [if_pos hn]
    · have habs : (n.natAbs : Int) = n := by omega
      have hsigned := SignedNumeral.unsigned hnumeral
      rw [habs] at hsigned
      rwa [if_neg hn]
  rw [numberValue?, hint]
  simp only [h, ↓reduceIte]

/-- A literal that its quotes close is one token, unless a further quote follows. -/
theorem tokensFrom_literal {delimiter : Delimiter} {raw rest : List Char}
    (hopen : StaysOpen delimiter raw) (hraw : ∀ c ∈ raw.head?, c ∉ delimiter.text)
    (hrest : ∀ c ∈ rest.head?, c ∉ delimiter.text) (place : Place) :
    let written := delimiter.text ++ raw ++ delimiter.text
    tokensFrom place (written ++ rest) = (tokensFrom (place.advance written) rest).map
      ([⟨.string (literalText delimiter raw), place⟩] ++ ·) := by
  have hstep := step_lex?_of_openingQuotes? (openingQuotes?_around hraw hrest)
  rw [hopen, literalBody_closing] at hstep
  simp only [Option.map_some, List.append_nil, List.append_assoc] at hstep ⊢
  exact tokensFrom_eq_of_step hstep place

/-- A body that stays open within its quotes is one token by itself. -/
theorem tokens_literal {delimiter : Delimiter} {raw : List Char} (hopen : StaysOpen delimiter raw)
    (hraw : ∀ c ∈ raw.head?, c ∉ delimiter.text) :
    tokens (delimiter.text ++ raw ++ delimiter.text) =
      .ok [⟨.string (literalText delimiter raw), {}⟩] := by
  have hnone : ∀ c ∈ ([] : List Char).head?, c ∉ delimiter.text := by simp
  have htokens := tokensFrom_literal hopen hraw hnone {}
  simp only [List.append_nil, tokensFrom_nil] at htokens
  exact htokens

/-- A text between two quotes is one token, unless a third quote follows. -/
theorem tokensFrom_spelled {quote : Char} {write : Char → List Char} (h : Spells quote write)
    {delimiter : Delimiter} (hdelimiter : delimiter.text = [quote])
    (hplain : delimiter.isTriple = false ∧ quote ≠ '\\') (text : String) {rest : List Char}
    (hrest : rest.head? ≠ some quote) (place : Place) :
    let written := quote :: (text.toList.flatMap write ++ [quote])
    tokensFrom place (written ++ rest) =
      (tokensFrom (place.advance written) rest).map ([⟨.string text, place⟩] ++ ·) := by
  have hapart {s : List Char} (hs : s.head? ≠ some quote) : ∀ c ∈ s.head?, c ∉ delimiter.text := by
    intro c hc hmem
    rw [hdelimiter, List.mem_singleton] at hmem
    exact hs (hmem ▸ hc)
  have htokens := tokensFrom_literal (staysOpen_spelled h hdelimiter text.toList)
    (hapart (head?_spelled_ne h hplain.2 text.toList)) (hapart hrest) place
  rwa [literalText_spelled h hplain.1, hdelimiter] at htokens

/-- A text between quotes is one token. -/
theorem lexes_quoted (quote : Quote) (letters : Char → Bool) (text : String) (place : Place) :
    Lexes place (quoted quote letters text) [⟨.string text, place⟩] := by
  intro rest hrest
  have hnone : rest.head? ≠ some quote.char := by
    intro hhead
    cases quote with
    | single => exact (hrest _ hhead).2.2.1 rfl
    | double => exact (hrest _ hhead).2.2.2 rfl
  have htext : ∃ delimiter : Delimiter, delimiter.text = [quote.char] ∧
      delimiter.isTriple = false ∧ quote.char ≠ '\\' := by
    cases quote with
    | single => exact ⟨.single, by decide⟩
    | double => exact ⟨.double, by decide⟩
  obtain ⟨delimiter, htext, hplain⟩ := htext
  exact tokensFrom_spelled (spelled_cases quote letters) htext hplain text hnone place

/-- A key is one token, a text or a word, that stands for its name. -/
theorem exists_lexes_keyText (style : Style) (name : String) (place : Place) :
    ∃ token, Lexes place (keyText style name) [⟨token, place⟩] ∧ token.keyText? = some name := by
  unfold keyText
  cases hbare : style.isBare name with
  | false => exact ⟨.string name, lexes_quoted style.quote style.letters name place, rfl⟩
  | true =>
    rw [Style.isBare, Bool.and_eq_true] at hbare
    refine ⟨.word name, ?_, rfl⟩
    cases hname : name.toList with
    | nil => simp [hname] at hbare
    | cons c s =>
      simp only [hname, Bool.and_eq_true] at hbare
      rw [if_pos rfl, ← hname]
      exact lexes_word hname hbare.2.1 hbare.2.2 place

end RuleGraph.Cson
