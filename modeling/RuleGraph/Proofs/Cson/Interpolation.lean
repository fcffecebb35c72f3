import Mathlib.Data.List.Induction
import RuleGraph.Proofs.Cson.LineEnds.Tokens
import RuleGraph.Proofs.Decimal.Digits
import RuleGraph.Proofs.Text.Returns

namespace RuleGraph.Cson

open RuleGraph.Text

/-- Whether a text between quotes has the mark of an interpolation that no backslash stands before. -/
def interpolates : List Char → Bool
  | [] => false
  | '\\' :: _ :: s => interpolates s
  | c :: s => (c = '#' && s.head? = some '\x7b') || interpolates s

/-- The text with a backslash before each mark of an interpolation. -/
def escapeInterpolations : List Char → List Char
  | [] => []
  | '\\' :: c :: s => '\\' :: c :: escapeInterpolations s
  | c :: s =>
    if c = '#' ∧ s.head? = some '\x7b' then '\\' :: '#' :: escapeInterpolations s
    else c :: escapeInterpolations s

/-- A character that no escape starts with, and that has no part in the mark of an interpolation. -/
def IsOrdinary (c : Char) : Prop :=
  c ≠ '\\' ∧ c ≠ '#' ∧ c ≠ '\x7b'

theorem IsOrdinary.of_isBlank {c : Char} (h : isBlank c = true) : IsOrdinary c := by
  refine ⟨?_, ?_, ?_⟩ <;>
    · rintro rfl
      revert h
      decide

/-- A backslash is put in front of the mark of an interpolation. -/
theorem escapeInterpolations_mark {s : List Char} (h : s.head? = some '\x7b') :
    escapeInterpolations ('#' :: s) = '\\' :: '#' :: escapeInterpolations s := by
  rw [escapeInterpolations]
  · rw [if_pos ⟨rfl, h⟩]
  · intro d t heq
    contradiction

theorem escapeInterpolations_unmarked {c : Char} {s : List Char} (hback : c ≠ '\\')
    (h : ¬(c = '#' ∧ s.head? = some '\x7b')) :
    escapeInterpolations (c :: s) = c :: escapeInterpolations s := by
  rw [escapeInterpolations]
  · rw [if_neg h]
  · intro d t heq
    exact absurd heq hback

theorem escapeInterpolations_cons {c : Char} (hback : c ≠ '\\') (hmark : c ≠ '#') (s : List Char) :
    escapeInterpolations (c :: s) = c :: escapeInterpolations s :=
  escapeInterpolations_unmarked hback fun h => hmark h.1

/-- An ordinary character is kept, whatever follows it. -/
theorem IsOrdinary.escapeInterpolations_cons {c : Char} (h : IsOrdinary c) (s : List Char) :
    escapeInterpolations (c :: s) = c :: escapeInterpolations s :=
  Cson.escapeInterpolations_cons h.1 h.2.1 s

/-- What the escaped text starts with is what the text starts with, or a backslash. -/
theorem exists_of_escapeInterpolations_eq_cons {s t : List Char} {c : Char} (hback : c ≠ '\\')
    (h : escapeInterpolations s = c :: t) : ∃ r, s = c :: r ∧ escapeInterpolations r = t := by
  unfold escapeInterpolations at h
  split at h
  · cases h
  · exact absurd (List.cons.inj h).1 hback.symm
  · rename_i d r _
    split at h
    · exact absurd (List.cons.inj h).1 hback.symm
    · obtain ⟨rfl, rfl⟩ := List.cons.inj h
      exact ⟨r, rfl, rfl⟩

/-- No mark runs over an ordinary character, so the text may be cut there. -/
theorem escapeInterpolations_append_cons {c : Char} (hc : IsOrdinary c) (s t : List Char) :
    escapeInterpolations (s ++ c :: t) = escapeInterpolations s ++ c :: escapeInterpolations t := by
  fun_induction escapeInterpolations s with
  | case1 => exact hc.escapeInterpolations_cons t
  | case2 d s ih => rw [List.cons_append, List.cons_append, escapeInterpolations, ih]; rfl
  | case3 d s hpair hmark ih =>
    obtain ⟨rfl, hbrace⟩ := hmark
    have hbrace' : (s ++ c :: t).head? = some '\x7b' := by rw [List.head?_append, hbrace]; rfl
    rw [List.cons_append, escapeInterpolations_mark hbrace', ih]
    rfl
  | case4 d s hpair hmark ih =>
    cases s with
    | nil =>
      by_cases hback : d = '\\'
      · rw [hback]
        rfl
      · rw [List.cons_append, escapeInterpolations_unmarked hback, ih]
        · rfl
        · rintro ⟨-, hbrace⟩
          exact hc.2.2 (Option.some.inj hbrace)
    | cons e s =>
      have hback : d ≠ '\\' := fun heq => hpair e s heq rfl
      rw [List.cons_append, escapeInterpolations_unmarked hback, ih]
      · rfl
      · exact hmark

/-- A backslash is put before other characters only. -/
theorem getLast?_escapeInterpolations (s : List Char) :
    (escapeInterpolations s).getLast? = s.getLast? := by
  fun_induction escapeInterpolations s with
  | case1 => rfl
  | case2 c s ih => simp only [List.getLast?_cons, ih]
  | case3 c s hpair hmark ih => simp only [List.getLast?_cons, ih, hmark.1, Option.getD_some]
  | case4 c s hpair hmark ih => simp only [List.getLast?_cons, ih]

theorem escapeInterpolations_eq_nil_iff {s : List Char} :
    escapeInterpolations s = [] ↔ s = [] := by
  rw [← List.getLast?_eq_none_iff, getLast?_escapeInterpolations, List.getLast?_eq_none_iff]

/-- No mark is left that no backslash stands before. -/
theorem interpolates_escapeInterpolations (s : List Char) :
    interpolates (escapeInterpolations s) = false := by
  fun_induction escapeInterpolations s with
  | case1 => rfl
  | case2 c s ih => exact ih
  | case3 c s hpair hmark ih => exact ih
  | case4 c s hpair hmark ih =>
    cases s with
    | nil => simp [escapeInterpolations, interpolates]
    | cons d s =>
      have hback : c ≠ '\\' := fun heq => hpair d s heq rfl
      have hhead : ¬(c = '#' ∧ (escapeInterpolations (d :: s)).head? = some '\x7b') := by
        rintro ⟨hhash, hbrace⟩
        obtain ⟨t, ht⟩ := List.head?_eq_some_iff.1 hbrace
        obtain ⟨r, hr, -⟩ := exists_of_escapeInterpolations_eq_cons (by decide) ht
        exact hmark ⟨hhash, by rw [hr]; rfl⟩
      rw [interpolates]
      · simpa [ih] using hhead
      · intro _ _ heq
        exact absurd heq hback

/-- Nothing is to be escaped exactly where no mark is left open. -/
theorem escapeInterpolations_eq_self_iff {s : List Char} :
    escapeInterpolations s = s ↔ interpolates s = false := by
  refine ⟨fun h => h ▸ interpolates_escapeInterpolations s, fun h => ?_⟩
  fun_induction escapeInterpolations s with
  | case1 => rfl
  | case2 c s ih => rw [ih h]
  | case3 c s hpair hmark ih =>
    rw [hmark.1, interpolates] at h
    · simp [hmark.2] at h
    · intro _ _ heq
      cases heq
  | case4 c s hpair hmark ih =>
    cases s with
    | nil => rfl
    | cons d s =>
      rw [interpolates] at h
      · rw [ih (Bool.or_eq_false_iff.1 h).2]
      · intro _ _ heq _
        exact hpair d s heq rfl

/-- Backslashes are the only characters that are added. -/
theorem mem_of_mem_escapeInterpolations {c : Char} (hback : c ≠ '\\') {s : List Char}
    (h : c ∈ escapeInterpolations s) : c ∈ s := by
  fun_induction escapeInterpolations s with
  | case1 => exact h
  | case2 d s ih =>
    simp only [List.mem_cons, hback, false_or] at h ⊢
    exact h.imp_right ih
  | case3 d s hpair hmark ih =>
    simp only [List.mem_cons, hback, false_or] at h ⊢
    exact h.imp (fun heq => heq.trans hmark.1.symm) ih
  | case4 d s hpair hmark ih => exact List.mem_cons.2 ((List.mem_cons.1 h).imp_right ih)

/-- Marks do not reach over an ordinary character, so parts joined by one can be escaped one by one.
    -/
theorem intercalate_escapeInterpolations {c : Char} (hc : IsOrdinary c) (parts : List (List Char)) :
    [c].intercalate (parts.map escapeInterpolations) =
      escapeInterpolations ([c].intercalate parts) := by
  induction parts with
  | nil => rfl
  | cons part parts ih =>
    cases parts with
    | nil => simp [List.intercalate]
    | cons second parts =>
      rw [List.map_cons, List.map_cons, List.intercalate_cons_cons, ← List.map_cons, ih,
        List.intercalate_cons_cons, List.append_assoc, List.append_assoc, List.singleton_append,
        List.singleton_append, escapeInterpolations_append_cons hc]

theorem isOrdinary_newline : IsOrdinary '\n' :=
  .of_isBlank isBlank_newline

theorem isOrdinary_space : IsOrdinary ' ' :=
  .of_isBlank (by decide)

/-- The lines of the escaped text are the escaped lines: no mark and no escape runs over a line end. -/
theorem lines_escapeInterpolations (s : List Char) :
    lines (escapeInterpolations s) = (lines s).map escapeInterpolations := by
  have hsplit : ∀ line ∈ (lines s).map escapeInterpolations, '\n' ∉ line := by
    rw [List.forall_mem_map]
    intro line hline hmem
    exact not_mem_of_mem_lines hline (mem_of_mem_escapeInterpolations (by decide) hmem)
  have hsome : (lines s).map escapeInterpolations ≠ [] := by simpa using lines_ne_nil s
  rw [← lines_intercalate hsome hsplit, intercalate_escapeInterpolations isOrdinary_newline,
    intercalate_lines]

/-- A backslash is not blank, so the blanks at the start of a text are the same. -/
theorem exists_escapeInterpolations_eq_cons {c : Char} (hblank : isBlank c = false) (s : List Char) :
    ∃ d t, escapeInterpolations (c :: s) = d :: t ∧ isBlank d = false := by
  obtain ⟨d, t, hs⟩ := List.exists_cons_of_ne_nil
    (mt escapeInterpolations_eq_nil_iff.1 (List.cons_ne_nil c s))
  refine ⟨d, t, hs, ?_⟩
  by_cases hback : d = '\\'
  · rw [hback]
    decide
  · obtain ⟨r, hr, -⟩ := exists_of_escapeInterpolations_eq_cons hback hs
    rw [← (List.cons.inj hr).1, hblank]

/-- A backslash that is added stands in front of a mark, so the blanks before it stay at the start.
    -/
theorem trimStart_escapeInterpolations (s : List Char) :
    trimStart (escapeInterpolations s) = escapeInterpolations (trimStart s) := by
  induction s with
  | nil => rfl
  | cons c s ih =>
    cases hblank : isBlank c with
    | true =>
      rw [(IsOrdinary.of_isBlank hblank).escapeInterpolations_cons, trimStart,
        List.dropWhile_cons_of_pos hblank, trimStart, List.dropWhile_cons_of_pos hblank]
      exact ih
    | false =>
      obtain ⟨d, t, hs, hd⟩ := exists_escapeInterpolations_eq_cons hblank s
      rw [trimStart, trimStart, List.dropWhile_cons_of_neg (by simp [hblank]), hs,
        List.dropWhile_cons_of_neg (by simp [hd])]

/-- The indentation of a line does not count the backslashes that are added. -/
theorem indentOf_escapeInterpolations (line : List Char) :
    indentOf (escapeInterpolations line) = indentOf line := by
  have hblanks : (escapeInterpolations line).takeWhile isBlank = line.takeWhile isBlank := by
    induction line with
    | nil => rfl
    | cons c s ih =>
      cases hblank : isBlank c with
      | true =>
        rw [(IsOrdinary.of_isBlank hblank).escapeInterpolations_cons,
          List.takeWhile_cons_of_pos hblank, List.takeWhile_cons_of_pos hblank, ih]
      | false =>
        obtain ⟨d, t, hs, hd⟩ := exists_escapeInterpolations_eq_cons hblank s
        rw [List.takeWhile_cons_of_neg (by simp [hblank]), hs,
          List.takeWhile_cons_of_neg (by simp [hd])]
  rw [indentOf, indentOf, hblanks]

/-- No backslash is added among the blanks at the end. -/
theorem trimEnd_escapeInterpolations (s : List Char) :
    trimEnd (escapeInterpolations s) = escapeInterpolations (trimEnd s) := by
  induction s using List.reverseRecOn with
  | nil => rfl
  | append_singleton s c ih =>
    cases hblank : isBlank c with
    | true =>
      rw [escapeInterpolations_append_cons (.of_isBlank hblank)]
      rw [escapeInterpolations, trimEnd_append_blank hblank, ih, trimEnd_append_blank hblank]
    | false =>
      have hlast : ∀ d ∈ (s ++ [c]).getLast?, isBlank d = false := by simp [hblank]
      have hsame := hlast
      rw [← getLast?_escapeInterpolations] at hsame
      rw [trimEnd_of_last hlast, trimEnd_of_last hsame]

theorem trimLater_escapeInterpolations (later : List (List Char)) :
    trimLater (later.map escapeInterpolations) = (trimLater later).map escapeInterpolations := by
  induction later with
  | nil => rfl
  | cons line later ih =>
    cases later with
    | nil => simp only [List.map_cons, List.map_nil, trimLater, trimStart_escapeInterpolations]
    | cons second later =>
      rw [List.map_cons] at ih
      simp only [List.map_cons, trimLater, trim, trimStart_escapeInterpolations,
        trimEnd_escapeInterpolations] at ih ⊢
      rw [ih]

/-- Folding and escaping go by lines and by marks, so it does not matter which comes first. -/
theorem foldLines_escapeInterpolations (raw : List Char) :
    foldLines (escapeInterpolations raw) = escapeInterpolations (foldLines raw) := by
  rw [foldLines, foldLines, lines_escapeInterpolations]
  cases lines raw with
  | nil => rfl
  | cons first later =>
    cases later with
    | nil => rfl
    | cons second later =>
      simp only [List.map_cons]
      rw [← List.map_cons, trimLater_escapeInterpolations, trimEnd_escapeInterpolations,
        ← List.map_cons, List.filter_map, intercalate_escapeInterpolations isOrdinary_space]
      congr 3
      funext line
      simp [escapeInterpolations_eq_nil_iff]

theorem isBlankLine_escapeInterpolations (line : List Char) :
    isBlankLine (escapeInterpolations line) = isBlankLine line := by
  have hiff (s : List Char) : isBlankLine s = true ↔ trimStart s = [] := by
    rw [trimStart, List.dropWhile_eq_nil_iff, isBlankLine, List.all_eq_true]
  rw [Bool.eq_iff_iff, hiff, hiff, trimStart_escapeInterpolations, escapeInterpolations_eq_nil_iff]

/-- Taking blanks away at the start of a line takes no backslash away. -/
theorem dropBytes?_escapeInterpolations {n : Nat} {line : List Char}
    (h : isBlankLine line = true ∨ n ≤ indentOf line) :
    dropBytes? n (escapeInterpolations line) = (dropBytes? n line).map escapeInterpolations := by
  induction line generalizing n with
  | nil => cases n <;> rfl
  | cons c line ih =>
    cases n with
    | zero => simp only [dropBytes?, Option.map_some]
    | succ n =>
      have hblank : isBlank c = true := by
        obtain hblank | hle := h
        · exact List.all_eq_true.1 hblank c List.mem_cons_self
        · by_contra hsome
          rw [indentOf, List.takeWhile_cons_of_neg hsome] at hle
          exact absurd hle (Nat.not_succ_le_zero n)
      rw [(IsOrdinary.of_isBlank hblank).escapeInterpolations_cons, dropBytes?, dropBytes?]
      split
      · refine ih (h.imp (fun hline => ?_) fun hle => ?_)
        · exact (Bool.and_eq_true_iff.1 hline).2
        · rw [indentOf, List.takeWhile_cons_of_pos hblank, byteLength, List.foldr_cons] at hle
          rw [indentOf, byteLength]
          omega
      · rfl

theorem dropBlankFirst_escapeInterpolations (lines : List (List Char)) :
    dropBlankFirst (lines.map escapeInterpolations) =
      (dropBlankFirst lines).map escapeInterpolations := by
  cases lines with
  | nil => rfl
  | cons line later =>
    simp only [List.map_cons, dropBlankFirst, isBlankLine_escapeInterpolations]
    split <;> rfl

theorem dropBlankLast_escapeInterpolations (lines : List (List Char)) :
    dropBlankLast (lines.map escapeInterpolations) =
      (dropBlankLast lines).map escapeInterpolations := by
  rw [dropBlankLast, ← List.map_reverse, dropBlankFirst_escapeInterpolations, ← List.map_reverse,
    dropBlankLast]

/-- The common indentation is the same, so dedenting and escaping can change places. -/
theorem dedent_escapeInterpolations (raw : List Char) :
    dedent (escapeInterpolations raw) = escapeInterpolations (dedent raw) := by
  have hindents (kept : List (List Char)) :
      ((kept.map escapeInterpolations).filter (!isBlankLine ·)).map indentOf =
        (kept.filter (!isBlankLine ·)).map indentOf := by
    rw [List.filter_map, List.map_map]
    have hindent : indentOf ∘ escapeInterpolations = indentOf :=
      funext indentOf_escapeInterpolations
    have hblank : ((!isBlankLine ·) ∘ escapeInterpolations) = (!isBlankLine ·) :=
      funext fun line => by rw [Function.comp_apply, isBlankLine_escapeInterpolations]
    rw [hindent, hblank]
  rw [dedent, dedent, lines_escapeInterpolations, dropBlankFirst_escapeInterpolations,
    dropBlankLast_escapeInterpolations, hindents,
    ← intercalate_escapeInterpolations isOrdinary_newline, List.map_map, List.map_map]
  congr 1
  apply List.map_congr_left
  intro line hline
  have hindent : isBlankLine line = true ∨
      (((dropBlankLast (dropBlankFirst (lines raw))).filter (!isBlankLine ·)).map
        indentOf).min?.getD 0 ≤ indentOf line := by
    cases hblank : isBlankLine line with
    | true => exact .inl rfl
    | false =>
      apply Or.inr
      apply List.min?_getD_le_of_mem
      exact List.mem_map_of_mem (List.mem_filter.2 ⟨hline, by simp [hblank]⟩)
  simp only [Function.comp_apply, dropBytes?_escapeInterpolations hindent,
    trimStart_escapeInterpolations, Option.getD_map]

/-- The code of an escape has only digits and a plus sign, so no mark of an interpolation begins
    inside it. -/
theorem not_mem_of_charOfHex? {a b c d x y : Char} (h : charOfHex? a b c d = some x)
    (hdigit : digitValue? 16 y = none) (hplus : y ≠ '+') : y ∉ [a, b, c, d] := by
  intro hmem
  have hmem' : y ∈ if a = '+' then [b, c, d] else [a, b, c, d] := by
    split
    · rename_i heq
      exact (List.mem_cons.1 hmem).resolve_left fun hy => hplus (hy.trans heq)
    · exact hmem
  rw [charOfHex?, natOfDigits?_eq_none hmem' hdigit] at h
  cases h

section Code

variable {a b c d x : Char} (hcode : charOfHex? a b c d = some x)
include hcode

theorem ne_of_charOfHex? : ∀ y ∈ [a, b, c, d], y ≠ '\\' ∧ y ≠ '#' := by
  intro y hy
  constructor
  · rintro rfl
    exact not_mem_of_charOfHex? hcode (by decide) (by decide) hy
  · rintro rfl
    exact not_mem_of_charOfHex? hcode (by decide) (by decide) hy

/-- There is a code in the escaped text where there is one in the text. -/
theorem escapeInterpolations_eq_code_iff {s t : List Char} :
    escapeInterpolations s = a :: b :: c :: d :: t ↔
      ∃ r, s = a :: b :: c :: d :: r ∧ escapeInterpolations r = t := by
  have hplain := ne_of_charOfHex? hcode
  simp only [List.forall_mem_cons, List.not_mem_nil, false_implies, implies_true,
    and_true] at hplain
  obtain ⟨ha, hb, hc, hd⟩ := hplain
  constructor
  · intro hs
    obtain ⟨s₁, rfl, h₁⟩ := exists_of_escapeInterpolations_eq_cons ha.1 hs
    obtain ⟨s₂, rfl, h₂⟩ := exists_of_escapeInterpolations_eq_cons hb.1 h₁
    obtain ⟨s₃, rfl, h₃⟩ := exists_of_escapeInterpolations_eq_cons hc.1 h₂
    obtain ⟨s₄, rfl, h₄⟩ := exists_of_escapeInterpolations_eq_cons hd.1 h₃
    exact ⟨s₄, rfl, h₄⟩
  · rintro ⟨r, rfl, rfl⟩
    rw [escapeInterpolations_cons ha.1 ha.2, escapeInterpolations_cons hb.1 hb.2,
      escapeInterpolations_cons hc.1 hc.2, escapeInterpolations_cons hd.1 hd.2]

end Code

/-- Where no code stood behind an escaped `u`, the backslashes that are added make none. -/
theorem unescape_letter_escapeInterpolations {s : List Char}
    (h : ∀ a b c d t, s = a :: b :: c :: d :: t → charOfHex? a b c d = none) :
    unescape ('\\' :: 'u' :: escapeInterpolations s) = 'u' :: unescape (escapeInterpolations s) := by
  apply unescape_letter
  intro a b c d t hs
  cases hcode : charOfHex? a b c d with
  | none => rfl
  | some x =>
    obtain ⟨r, hr, -⟩ := (escapeInterpolations_eq_code_iff hcode).1 hs
    rw [h a b c d r hr] at hcode
    cases hcode

/-- The backslash before a mark goes away with the other escapes. -/
theorem unescape_escapeInterpolations (s : List Char) :
    unescape (escapeInterpolations s) = unescape s := by
  fun_induction unescape s with
  | case1 => rfl
  | case2 => rfl
  | case3 a b c d s x hcode ih =>
    have hs := (escapeInterpolations_eq_code_iff hcode).2 ⟨s, rfl, rfl⟩
    rw [escapeInterpolations, hs, unescape, hcode]
    dsimp only
    rw [ih]
  | case4 a b c d s hcode ih =>
    rw [escapeInterpolations, unescape_letter_escapeInterpolations, ih]
    rintro _ _ _ _ _ ⟨⟩
    exact hcode
  | case5 s ih => rw [escapeInterpolations, unescape, ih]
  | case6 c s hletter hline ih =>
    rw [escapeInterpolations]
    by_cases hu : c = 'u'
    · -- too few characters are left for a code
      rw [hu, unescape_letter_escapeInterpolations, ih]
      · rfl
      · intro _ _ _ _ _ hs
        exact (hletter _ _ _ _ _ hu hs).elim
    · rw [unescape_backslash hu hline, ih]
  | case7 c s hlast _ _ hpair ih =>
    have hback : c ≠ '\\' := by
      intro heq
      cases s with
      | nil => exact hlast heq rfl
      | cons d s => exact hpair d s heq rfl
    by_cases hmark : c = '#' ∧ s.head? = some '\x7b'
    · obtain ⟨rfl, hbrace⟩ := hmark
      rw [escapeInterpolations_mark hbrace, unescape_backslash (by decide) (by decide), ih]
      rfl
    · rw [escapeInterpolations_unmarked hback hmark, unescape_of_ne hback, ih]

/-- A literal knows no interpolations: it denotes the same text when a backslash is put before each
    mark of one, which makes that mark two ordinary characters. -/
theorem literalText_escapeInterpolations (delimiter : Delimiter) (raw : List Char) :
    literalText delimiter (escapeInterpolations raw) = literalText delimiter raw := by
  rw [literalText, literalText, dedent_escapeInterpolations, foldLines_escapeInterpolations,
    ← apply_ite escapeInterpolations, unescape_escapeInterpolations]

/-- The front of the escaped text is the front of the text as far as it has neither of the two
    characters that a mark starts with. -/
theorem prefix_escapeInterpolations_iff {front : List Char}
    (hfront : ∀ c ∈ front, c ≠ '\\' ∧ c ≠ '#') (s t : List Char) :
    front <+: escapeInterpolations s ++ t ↔ front <+: s ++ t := by
  fun_induction escapeInterpolations s generalizing front with
  | case1 => rfl
  | case2 c s ih =>
    cases front with
    | nil => simp
    | cons d front => simp [List.cons_prefix_cons, (hfront d List.mem_cons_self).1]
  | case3 c s hpair hmark ih =>
    cases front with
    | nil => simp
    | cons d front =>
      obtain ⟨hback, hhash⟩ := hfront d List.mem_cons_self
      simp [List.cons_prefix_cons, hback, hhash, hmark.1]
  | case4 c s hpair hmark ih =>
    cases front with
    | nil => simp
    | cons d front =>
      rw [List.cons_append, List.cons_append, List.cons_prefix_cons, List.cons_prefix_cons,
        ih fun x hx => hfront x (List.mem_cons_of_mem _ hx)]

theorem Delimiter.ne_of_mem_text {delimiter : Delimiter} {c : Char} (h : c ∈ delimiter.text) :
    c ≠ '\\' ∧ c ≠ '#' := by
  obtain rfl | rfl := Delimiter.quote_of_mem_text h <;> decide

/-- The closing quotes are found behind the escaped text. -/
theorem literalBody_escapeInterpolations {delimiter : Delimiter} {s raw rest : List Char}
    (h : literalBody delimiter.text s = some (raw, rest)) :
    literalBody delimiter.text (escapeInterpolations raw ++ (delimiter.text ++ rest)) =
      some (escapeInterpolations raw, rest) := by
  have hplain : ∀ c ∈ delimiter.text, c ≠ '\\' ∧ c ≠ '#' := fun c => Delimiter.ne_of_mem_text
  fun_induction literalBody delimiter.text s generalizing raw with
  | case1 => cases h
  | case2 c s ih =>
    obtain ⟨⟨b, r⟩, hb, he⟩ := Option.map_eq_some_iff.1 h
    obtain ⟨rfl, rfl⟩ := Prod.mk.injEq .. ▸ he
    rw [escapeInterpolations, List.cons_append, List.cons_append, literalBody_backslash, ih hb]
    rfl
  | case3 c s hpair hquotes =>
    obtain ⟨rfl, rfl⟩ := Prod.mk.injEq .. ▸ Option.some.inj h
    have hwhole : delimiter.text ++ (c :: s).drop delimiter.text.length = c :: s := by
      obtain ⟨t, ht⟩ := hquotes
      rw [← ht, List.drop_left]
    rw [escapeInterpolations, List.nil_append, hwhole, literalBody, if_pos hquotes]
    exact hpair
  | case4 c s hpair hquotes ih =>
    obtain ⟨⟨b, r⟩, hb, he⟩ := Option.map_eq_some_iff.1 h
    obtain ⟨rfl, rfl⟩ := Prod.mk.injEq .. ▸ he
    have hback : c ≠ '\\' := by
      rintro rfl
      obtain ⟨d, t, ht⟩ := List.exists_cons_of_ne_nil (l := s) (by
        rintro rfl
        cases hb)
      exact hpair d t rfl ht
    by_cases hmark : c = '#' ∧ b.head? = some '\x7b'
    · obtain ⟨rfl, hbrace⟩ := hmark
      rw [escapeInterpolations_mark hbrace, List.cons_append, List.cons_append,
        literalBody_backslash, ih hb]
      rfl
    · have hopen : ¬delimiter.text <+:
          escapeInterpolations (c :: b) ++ (delimiter.text ++ r) := by
        rw [prefix_escapeInterpolations_iff hplain, List.cons_append, ← List.append_assoc,
          append_of_literalBody hb]
        exact hquotes
      rw [escapeInterpolations_unmarked hback hmark, List.cons_append] at hopen ⊢
      rw [literalBody_of_not_closing hback hopen, ih hb]
      rfl

/-- In front of the first backslash or mark nothing is changed. -/
theorem escapeInterpolations_append {front : List Char} (h : ∀ c ∈ front, c ≠ '\\' ∧ c ≠ '#')
    (s : List Char) : escapeInterpolations (front ++ s) = front ++ escapeInterpolations s := by
  induction front with
  | nil => rfl
  | cons c front ih =>
    rw [List.forall_mem_cons] at h
    rw [List.cons_append, escapeInterpolations_cons h.1.1 h.1.2, ih h.2, List.cons_append]

/-- The same quotes open a literal and the literal with a backslash before each mark. -/
theorem openingQuotes?_escapeInterpolations {delimiter : Delimiter} {raw rest : List Char}
    (h : openingQuotes? (delimiter.text ++ (raw ++ rest)) = some (delimiter, raw ++ rest)) :
    openingQuotes? (delimiter.text ++ (escapeInterpolations raw ++ rest)) =
      some (delimiter, escapeInterpolations raw ++ rest) := by
  refine openingQuotes?_of_prefix_iff (fun other => ?_) h
  rw [← List.append_assoc, ← escapeInterpolations_append fun c => Delimiter.ne_of_mem_text,
    prefix_escapeInterpolations_iff fun c => Delimiter.ne_of_mem_text, List.append_assoc]

/-- A literal and the literal with a backslash before each mark make the same token, and the same is
    left behind them. -/
theorem step_lex?_escapeInterpolations {s raw : List Char} {delimiter : Delimiter}
    (h : StartsLiteral s delimiter raw) :
    ∃ rest,
      step (lex? s) =
        some (some (.string (literalText delimiter raw)), delimiter.text ++ raw ++ delimiter.text,
          rest) ∧
      step (lex? (delimiter.text ++ escapeInterpolations raw ++ delimiter.text ++ rest)) =
        some (some (.string (literalText delimiter raw)),
          delimiter.text ++ escapeInterpolations raw ++ delimiter.text, rest) := by
  obtain ⟨r, rest, hopen, hbody⟩ := h
  refine ⟨rest, by rw [step_lex?_of_openingQuotes? hopen, hbody]; rfl, ?_⟩
  have hr := append_of_literalBody hbody
  rw [← append_of_openingQuotes? hopen, ← hr, List.append_assoc] at hopen
  have hopen' := openingQuotes?_escapeInterpolations hopen
  rw [List.append_assoc, List.append_assoc, step_lex?_of_openingQuotes? hopen',
    literalBody_escapeInterpolations hbody, Option.map_some]
  dsimp only
  rw [literalText_escapeInterpolations, List.append_assoc]

end RuleGraph.Cson
