import RuleGraph.Text.Escape

namespace RuleGraph.Text

/-- Each character is escaped for itself. The backslash that is put before a quote comes too late to
be doubled, and doubling brings no new quote. -/
theorem escapeChars_cons (c : Char) (s : List Char) :
    escapeChars (c :: s) = escapeChar c ++ escapeChars s := by
  simp only [escapeChars, substitute_cons, substitute_append]
  congr 1
  by_cases hslash : c = '\\'
  · subst hslash
    rfl
  · rw [if_neg hslash, substitute_cons, substitute_nil, List.append_nil, escapeChar]
    by_cases hquote : c = '"' <;> simp [hslash, hquote]

theorem escapeChars_append (s t : List Char) :
    escapeChars (s ++ t) = escapeChars s ++ escapeChars t := by
  simp only [escapeChars, substitute_append]

theorem escapeChars_eq_flatMap (s : List Char) : escapeChars s = s.flatMap escapeChar := by
  induction s with
  | nil => rfl
  | cons c s ih => rw [escapeChars_cons, ih, List.flatMap_cons]

theorem escape_append (s t : String) : escape (s ++ t) = escape s ++ escape t := by
  rw [← String.toList_inj]
  simp only [toList_escape, String.toList_append, escapeChars_append]

/-- Text without backslashes and quotes stays as it is. -/
theorem escapeChars_of_plain {s : List Char} (h : ∀ c ∈ s, c ≠ '\\' ∧ c ≠ '"') :
    escapeChars s = s := by
  induction s with
  | nil => rfl
  | cons c s ih =>
    have hc := h c List.mem_cons_self
    rw [escapeChars_cons, ih fun d hd => h d (List.mem_cons_of_mem c hd), escapeChar,
      if_neg (by simp [hc])]
    rfl

/-- Takes away the backslash of every pair that begins with one. -/
def unescapeChars : List Char → List Char
  | [] => []
  | '\\' :: c :: s => c :: unescapeChars s
  | c :: s => c :: unescapeChars s

/-- Escaping can be undone pair by pair. -/
theorem unescapeChars_escapeChar (c : Char) (s : List Char) :
    unescapeChars (escapeChar c ++ s) = c :: unescapeChars s := by
  unfold escapeChar
  split
  · rfl
  · rename_i hplain
    have hslash : c ≠ '\\' := fun h => hplain (.inl h)
    simp [unescapeChars, hslash]

/-- Escaping can be undone. -/
theorem unescapeChars_escapeChars (s : List Char) : unescapeChars (escapeChars s) = s := by
  induction s with
  | nil => rfl
  | cons c s ih => rw [escapeChars_cons, unescapeChars_escapeChar, ih]

/-- Different names stay different. -/
theorem escape_inj {s t : String} : escape s = escape t ↔ s = t := by
  constructor
  · intro h
    have hchars : escapeChars s.toList = escapeChars t.toList := by
      rw [← toList_escape, ← toList_escape, h]
    have hsame := congrArg unescapeChars hchars
    rw [unescapeChars_escapeChars, unescapeChars_escapeChars] at hsame
    exact String.toList_inj.1 hsame
  · exact congrArg escape

/-- The text is made of characters other than backslashes and quotes, of pairs of backslashes, and of
quotes with a backslash in front. -/
inductive Escaped : List Char → Prop where
  | nil : Escaped []
  | plain {c : Char} {s : List Char} (hslash : c ≠ '\\') (hquote : c ≠ '"') (h : Escaped s) :
      Escaped (c :: s)
  | backslash {s : List Char} (h : Escaped s) : Escaped ('\\' :: '\\' :: s)
  | quote {s : List Char} (h : Escaped s) : Escaped ('\\' :: '"' :: s)

/-- In an escaped text backslashes and quotes stand in pairs. -/
theorem escaped_escapeChars (s : List Char) : Escaped (escapeChars s) := by
  induction s with
  | nil => exact .nil
  | cons c s ih =>
    rw [escapeChars_cons, escapeChar]
    split
    · rename_i hspecial
      rcases hspecial with rfl | rfl
      · exact .backslash ih
      · exact .quote ih
    · rename_i hplain
      obtain ⟨hslash, hquote⟩ := not_or.1 hplain
      exact .plain hslash hquote ih

/-- Where all backslashes and quotes are paired, taking the pairs apart loses nothing. -/
theorem Escaped.escapeChars_unescapeChars {t : List Char} (h : Escaped t) :
    escapeChars (unescapeChars t) = t := by
  induction h with
  | nil => rfl
  | @plain c s hslash hquote _ ih =>
    have hkeep : unescapeChars (c :: s) = c :: unescapeChars s := by
      simp [unescapeChars, hslash]
    rw [hkeep, escapeChars_cons, ih, escapeChar, if_neg (not_or.2 ⟨hslash, hquote⟩)]
    rfl
  | backslash _ ih | quote _ ih =>
    rw [unescapeChars, escapeChars_cons, ih]
    rfl

/-- Escaping is a code that works on each character alone and can be undone. -/
theorem escape_characterwise :
    (∀ s, (escape s).toList = s.toList.flatMap escapeChar) ∧
    (∀ s t, escape (s ++ t) = escape s ++ escape t) ∧
    (∀ s, unescapeChars (escape s).toList = s.toList) ∧
    ∀ t : String, (∃ s, escape s = t) ↔ Escaped t.toList := by
  refine ⟨fun s => ?_, escape_append, fun s => ?_, fun t => ⟨?_, fun h => ?_⟩⟩
  · rw [toList_escape, escapeChars_eq_flatMap]
  · rw [toList_escape, unescapeChars_escapeChars]
  · rintro ⟨s, rfl⟩
    rw [toList_escape]
    exact escaped_escapeChars s.toList
  · refine ⟨String.ofList (unescapeChars t.toList), ?_⟩
    rw [← String.toList_inj, toList_escape, String.toList_ofList, h.escapeChars_unescapeChars]

end RuleGraph.Text
