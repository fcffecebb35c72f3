import RuleGraph.Proofs.Cson.Escapes
import RuleGraph.Proofs.Cson.Layout.Scalars

namespace RuleGraph.Cson

open RuleGraph.Text

/-- The ways to write a character between quotes of the given kind. -/
inductive Spelling (delimiter : Delimiter) (c : Char) : List Char → Prop where
  | itself (hback : c ≠ '\\') (hquote : c ∉ delimiter.text) (hline : c ≠ '\n')
      (hblank : delimiter.isTriple = true → isBlank c = false) : Spelling delimiter c [c]
  | escaped (h : c = '\\' ∨ c ∈ delimiter.text) : Spelling delimiter c ['\\', c]
  | control {letter : Char} (h : (letter, c) ∈ controlEscapes) : Spelling delimiter c ['\\', letter]
  | code {digits : List Char} (h : HexCode digits c.toNat) :
      Spelling delimiter c ('\\' :: 'u' :: digits)

/-- A text and what may be written for its characters, one after the other. -/
inductive Spelled (delimiter : Delimiter) : List Char → List Char → Prop where
  | nil : Spelled delimiter [] []
  | cons {c : Char} {piece text raw : List Char} (hc : Spelling delimiter c piece)
      (h : Spelled delimiter text raw) : Spelled delimiter (c :: text) (piece ++ raw)

/-- A hexadecimal digit ends no literal. -/
theorem not_mem_text_of_hexCode {digits : List Char} {n : Nat} (h : HexCode digits n)
    (delimiter : Delimiter) : ∀ c ∈ digits, c ∉ delimiter.text := by
  intro c hc hquote
  obtain rfl | rfl := Delimiter.quote_of_mem_text hquote
  · exact absurd (h.mem _ hc) (by decide)
  · exact absurd (h.mem _ hc) (by decide)

/-- Digits are not blank, so no line of codes is trimmed or dropped. -/
theorem not_blank_of_hexCode {digits : List Char} {n : Nat} (h : HexCode digits n) :
    ∀ c ∈ digits, isBlank c = false := by
  have hall : (hexDigits ++ hexDigits.map Char.toUpper).all (!isBlank ·) = true := by decide
  intro c hc
  simpa using List.all_eq_true.1 hall c (h.mem c hc)

theorem not_blank_of_mem_controlEscapes {letter c : Char} (h : (letter, c) ∈ controlEscapes) :
    isBlank letter = false := by
  have hall : controlEscapes.all (!isBlank ·.1) = true := by decide
  simpa using List.all_eq_true.1 hall _ h

namespace Spelling

variable {delimiter : Delimiter} {c : Char} {piece : List Char} (h : Spelling delimiter c piece)
include h

/-- No quotes close within what is written for a character. -/
theorem staysOpen : StaysOpen delimiter piece := by
  cases h with
  | itself hback hquote => exact .single hback hquote
  | escaped | control => exact .pair _
  | code hcode =>
    refine (StaysOpen.pair 'u').append (.of_plain fun d hd => ?_)
    exact ⟨hcode.ne_backslash d hd, not_mem_text_of_hexCode hcode delimiter d hd⟩

/-- What is written for a character is resolved to it. -/
theorem unescape_append (s : List Char) : unescape (piece ++ s) = c :: unescape s := by
  cases h with
  | itself hback => exact unescape_of_ne hback s
  | escaped hc =>
    have hother : c ∉ ['n', 't', 'r', 'b', 'f', 'v', '0', 'u', '\n'] := by
      obtain rfl | hquote := hc
      · decide
      · obtain rfl | rfl := Delimiter.quote_of_mem_text hquote <;> decide
    obtain ⟨hchar, hu, hline⟩ := escapedChar_of_not_mem hother
    exact (unescape_backslash hu hline s).trans (by rw [hchar])
  | control hc =>
    obtain ⟨hchar, hu, hline⟩ := escapedChar_of_mem hc
    exact (unescape_backslash hu hline s).trans (by rw [hchar])
  | code hcode =>
    exact (unescape_looseCode (.digits hcode) s).trans (by rw [charOfCode_toNat])

/-- Line ends are never written as themselves, and other blanks only between single quotes. -/
theorem plain : ∀ d ∈ piece, d ≠ '\n' ∧ (delimiter.isTriple = true → isBlank d = false) := by
  have hescape {s : List Char} (hs : ∀ d ∈ s, isBlank d = false) :
      ∀ d ∈ '\\' :: s, d ≠ '\n' ∧ (delimiter.isTriple = true → isBlank d = false) := by
    have hall : ∀ d ∈ '\\' :: s, isBlank d = false := List.forall_mem_cons.2 ⟨by decide, hs⟩
    refine fun d hd => ⟨?_, fun _ => hall d hd⟩
    rintro rfl
    exact absurd (hall _ hd) (by decide)
  cases h with
  | itself _ _ hline hblank => exact List.forall_mem_singleton.2 ⟨hline, hblank⟩
  | escaped hc =>
    apply hescape
    rw [List.forall_mem_singleton]
    obtain rfl | hquote := hc
    · decide
    · obtain rfl | rfl := Delimiter.quote_of_mem_text hquote <;> decide
  | control hc => exact hescape (List.forall_mem_singleton.2 (not_blank_of_mem_controlEscapes hc))
  | code hcode => exact hescape (List.forall_mem_cons.2 ⟨by decide, not_blank_of_hexCode hcode⟩)

/-- A spelled character does not start with a quote of its own kind. -/
theorem head : ∃ d s, piece = d :: s ∧ d ∉ delimiter.text := by
  cases h with
  | itself _ hquote => exact ⟨c, [], rfl, hquote⟩
  | escaped | control | code => exact ⟨'\\', _, rfl, delimiter.backslash_not_mem_text⟩

end Spelling

namespace Spelled

variable {delimiter : Delimiter} {text raw : List Char} (h : Spelled delimiter text raw)
include h

/-- A spelled text closes no literal. -/
theorem staysOpen : StaysOpen delimiter raw := by
  induction h with
  | nil => exact .nil
  | cons hc _ ih => exact hc.staysOpen.append ih

/-- A spelled text is resolved to the text it spells. -/
theorem unescape_eq : unescape raw = text := by
  induction h with
  | nil => rfl
  | cons hc _ ih => rw [hc.unescape_append, ih]

/-- A spelled text stands on one line, and has no blanks where lines are dedented. -/
theorem plain : ∀ d ∈ raw, d ≠ '\n' ∧ (delimiter.isTriple = true → isBlank d = false) := by
  induction h with
  | nil => exact List.forall_mem_nil _
  | cons hc _ ih => exact List.forall_mem_append.2 ⟨hc.plain, ih⟩

theorem head : ∀ d ∈ raw.head?, d ∉ delimiter.text := by
  cases h with
  | nil => simp
  | cons hc =>
    obtain ⟨d, s, rfl, hd⟩ := hc.head
    intro x hx
    obtain rfl := Option.some.inj hx
    exact hd

/-- Between the quotes of its kind the literal denotes the text. -/
theorem literalText_eq : literalText delimiter raw = String.ofList text := by
  have hline : '\n' ∉ raw := fun hmem => (h.plain _ hmem).1 rfl
  cases htriple : delimiter.isTriple with
  | false => rw [literalText_of_not_mem htriple hline, h.unescape_eq]
  | true =>
    rw [literalText, htriple, if_pos rfl, dedent_of_not_blank fun d hd => (h.plain d hd).2 htriple,
      h.unescape_eq]

end Spelled

theorem exists_hexDigit {value : Nat} (h : value < 16) : ∃ c, HexDigit c value :=
  ⟨hexDigits[value], .inl (List.getElem?_eq_getElem h)⟩

/-- Four digits are enough for every number below the bound. -/
theorem exists_hexCode {n : Nat} (h : n < 0x10000) : ∃ digits, HexCode digits n := by
  obtain ⟨a, ha⟩ := exists_hexDigit (show n / 0x1000 < 16 by omega)
  obtain ⟨b, hb⟩ := exists_hexDigit (show n / 0x100 % 16 < 16 by omega)
  obtain ⟨c, hc⟩ := exists_hexDigit (show n / 0x10 % 16 < 16 by omega)
  obtain ⟨d, hd⟩ := exists_hexDigit (show n % 16 < 16 by omega)
  have hn : ((n / 0x1000 * 16 + n / 0x100 % 16) * 16 + n / 0x10 % 16) * 16 + n % 16 = n := by omega
  exact ⟨[a, b, c, d], hn ▸ .intro ha hb hc hd⟩

/-- All blanks lie in the basic plane, so each of them has a code of four digits. -/
theorem toNat_lt_of_isBlank {c : Char} (h : isBlank c = true) : c.toNat < 0x10000 := by
  obtain ⟨range, hrange, -, hlast⟩ := inRanges_iff.1 h
  have hall : blankRanges.all (decide <| ·.2 < 0x10000) = true := by decide
  have hlt := List.all_eq_true.1 hall range hrange
  rw [decide_eq_true_eq] at hlt
  omega

/-- Between quotes of each kind there is a way to write each character. -/
theorem exists_spelling (delimiter : Delimiter) (c : Char) :
    ∃ piece, Spelling delimiter c piece := by
  by_cases hescaped : c = '\\' ∨ c ∈ delimiter.text
  · exact ⟨_, .escaped hescaped⟩
  rw [not_or] at hescaped
  cases hblank : isBlank c with
  | true =>
    obtain ⟨digits, hdigits⟩ := exists_hexCode (toNat_lt_of_isBlank hblank)
    exact ⟨_, .code hdigits⟩
  | false =>
    have hline : c ≠ '\n' := by
      rintro rfl
      exact absurd hblank (by decide)
    exact ⟨_, .itself hescaped.1 hescaped.2 hline fun _ => hblank⟩

/-- Between quotes of each kind every text can be spelled. -/
theorem exists_spelled (delimiter : Delimiter) (text : List Char) :
    ∃ raw, Spelled delimiter text raw := by
  induction text with
  | nil => exact ⟨_, .nil⟩
  | cons c text ih =>
    obtain ⟨piece, hpiece⟩ := exists_spelling delimiter c
    obtain ⟨raw, hraw⟩ := ih
    exact ⟨_, .cons hpiece hraw⟩

/-- Every text can be spelled out between quotes of every kind, and however this is done, the literal
    is one token with that text. -/
theorem tokens_spelled_out (delimiter : Delimiter) (text : List Char) :
    (∃ raw, Spelled delimiter text raw) ∧
      ∀ raw, Spelled delimiter text raw →
        tokens (delimiter.text ++ raw ++ delimiter.text) =
          .ok [⟨.string (String.ofList text), {}⟩] := by
  refine ⟨exists_spelled delimiter text, fun raw h => ?_⟩
  rw [tokens_literal h.staysOpen h.head, h.literalText_eq]

/-- A code in digits of both cases, a digit behind it, a quote, a line end and a last backslash, between
    three quotes. -/
theorem tokens_spelled_out_triple :
    let raw := ['\\', 'u', '0', '0', 'E', 'e', '1', '\\', '\'', '\\', 'n', '"', '\\', '\\']
    let text := ['î', '1', '\'', '\n', '"', '\\']
    Spelled .tripleSingle text raw ∧
      tokens (Delimiter.tripleSingle.text ++ raw ++ Delimiter.tripleSingle.text) =
        .ok [⟨.string (String.ofList text), {}⟩] := by
  intro raw text
  have hcode : HexCode ['0', '0', 'E', 'e'] 'î'.toNat :=
    .intro (i := 0) (j := 0) (k := 14) (l := 14) (by decide) (by decide) (by decide) (by decide)
  have h : Spelled .tripleSingle text raw :=
    .cons (.code hcode) <|
    .cons (.itself (by decide) (by decide) (by decide) (by decide)) <|
    .cons (.escaped (.inr (by decide))) <|
    .cons (.control (by decide)) <|
    .cons (.itself (by decide) (by decide) (by decide) (by decide)) <|
    .cons (.escaped (.inl rfl)) .nil
  exact ⟨h, (tokens_spelled_out _ _).2 _ h⟩

end RuleGraph.Cson
