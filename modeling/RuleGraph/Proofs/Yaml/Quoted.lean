import RuleGraph.Yaml.Scalar.Quoted

namespace RuleGraph.Yaml

/-- A character that stands for itself between single quotes and ends no line. -/
def isBodyChar (c : Char) : Bool :=
  isAllowed c && !isBreak c && c ≠ '\r' && c ≠ '\u0085' && c ≠ '\''

/-- A character that stands for itself between single quotes, and on the same line. -/
theorem isBodyChar_iff {c : Char} : isBodyChar c = true ↔
    isAllowed c = true ∧ isBreak c = false ∧ c ≠ '\r' ∧ c ≠ '\u0085' ∧ c ≠ '\'' := by
  simp [isBodyChar, and_assoc]

/-- One step through a text in single quotes: a blank, a line end, or a character that is taken. -/
theorem singleFrom_cons {c : Char} (hquote : c ≠ '\'') (state : QuotedState) (s : List Char) :
    singleFrom state (c :: s) =
      if isSpaceOrTab c then singleFrom (state.addBlank c) s
      else if isBreak c then singleFrom (state.addBreak c) s
      else if state.lineStart && atDocumentMark (c :: s) then none
      else singleFrom (state.add c 1) s := by
  rw [singleFrom]
  · simp only [hquote, if_false]
  · intro r heq
    exact absurd heq hquote

/-- A quote that no other one follows ends the text. -/
theorem singleFrom_quote {rest : List Char} (h : rest.head? ≠ some '\'') {state : QuotedState}
    (hline : state.lineStart = false) : singleFrom state ('\'' :: rest) = some state.finish := by
  rw [singleFrom]
  · simp [isSpaceOrTab, isBreak, isKeptBreak, hline]
  · intro r _ heq
    rw [heq] at h
    exact h rfl

/-- A character that is taken stands behind the gap before it. -/
theorem QuotedState.closeGap_add (state : QuotedState) (c : Char) (n : Nat) :
    (state.add c n).closeGap = c :: state.closeGap :=
  rfl

/-- Blanks within a line stay. -/
theorem QuotedState.closeGap_addBlank {state : QuotedState} (h : state.gap.crossesLine = false)
    (c : Char) : (state.addBlank c).closeGap = c :: state.closeGap := by
  cases hgap : state.gap with
  | blanks reversed => simp [closeGap, addBlank, hgap, Gap.addBlank, Gap.folded]
  | breaks first later =>
    rw [hgap] at h
    contradiction

theorem Gap.crossesLine_addBlank (gap : Gap) (c : Char) :
    (gap.addBlank c).crossesLine = gap.crossesLine := by
  cases gap <;> rfl

/-- Within a line the scanner collects what it goes over, blanks as well, up to the closing
    quote. -/
theorem singleFrom_body {body rest : List Char} (hbody : ∀ c ∈ body, isBodyChar c = true)
    (hrest : rest.head? ≠ some '\'') {state : QuotedState} (hline : state.lineStart = false)
    (hgap : state.gap.crossesLine = false) :
    singleFrom state (body ++ '\'' :: rest) =
      some (String.ofList (state.closeGap.reverse ++ body), state.taken + body.length + 1) := by
  induction body generalizing state with
  | nil =>
    rw [List.nil_append, singleFrom_quote hrest hline, List.append_nil]
    rfl
  | cons c body ih =>
    obtain ⟨-, hbreak, -, -, hquote⟩ := isBodyChar_iff.1 (hbody c List.mem_cons_self)
    have htail : ∀ d ∈ body, isBodyChar d = true := fun d hd => hbody d (List.mem_cons_of_mem c hd)
    rw [List.cons_append, singleFrom_cons hquote]
    by_cases hblank : isSpaceOrTab c = true
    · have hsame : (state.addBlank c).gap.crossesLine = false :=
        (Gap.crossesLine_addBlank state.gap c).trans hgap
      rw [if_pos hblank, ih htail rfl hsame, QuotedState.closeGap_addBlank hgap]
      simp [QuotedState.addBlank]
      omega
    · rw [if_neg hblank, if_neg (by simp [hbreak]), if_neg (by simp [hline]), ih htail rfl rfl,
        QuotedState.closeGap_add]
      simp [QuotedState.add]
      omega

/-- The scalar behind an opening quote is what stands before the closing one, character by
    character. In particular a backslash is nothing but a backslash. -/
theorem singleQuoted?_body {body rest : List Char} (hbody : ∀ c ∈ body, isBodyChar c = true)
    (hrest : rest.head? ≠ some '\'') :
    singleQuoted? (body ++ '\'' :: rest) = some (String.ofList body, body.length + 2) := by
  rw [singleQuoted?, singleFrom_body hbody hrest rfl rfl]
  simp [QuotedState.closeGap, Gap.folded, Gap.empty]
  omega

/-- The first text stands between double quotes for the second one, on one line and without the codes
    of characters. -/
inductive DoubleBody : List Char → List Char → Prop where
  | nil : DoubleBody [] []
  | char {c : Char} {s t : List Char} (hline : isBreak c = false) (hquote : c ≠ '"')
      (hback : c ≠ '\\') (h : DoubleBody s t) : DoubleBody (c :: s) (c :: t)
  | escape {x c : Char} {s t : List Char} (hline : isBreak x = false)
      (hx : escapedChar? x = some c) (h : DoubleBody s t) : DoubleBody ('\\' :: x :: s) (c :: t)

/-- A body in double quotes stands on one line, since line feeds are escaped in it. -/
theorem DoubleBody.isBreak_of_mem {body text : List Char} (h : DoubleBody body text) :
    ∀ c ∈ body, isBreak c = false := by
  induction h with
  | nil => exact List.forall_mem_nil _
  | char hline _ _ _ ih => exact List.forall_mem_cons.2 ⟨hline, ih⟩
  | escape hline _ _ ih =>
    exact List.forall_mem_cons.2 ⟨by decide, List.forall_mem_cons.2 ⟨hline, ih⟩⟩

/-- Within a line the scanner collects blanks as well and resolves the escapes, up to the closing
    quote. -/
theorem DoubleBody.doubleFrom_eq {body text : List Char} (h : DoubleBody body text)
    (rest : List Char) {state : QuotedState} (hline : state.lineStart = false)
    (hgap : state.gap.crossesLine = false) :
    doubleFrom state (body ++ '"' :: rest) =
      some (String.ofList (state.closeGap.reverse ++ text), state.taken + body.length + 1) := by
  induction h generalizing state with
  | nil =>
    rw [List.nil_append, doubleFrom.eq_def]
    simp only
    rw [if_neg (by decide), if_neg (by decide), if_neg (by simp [hline]), if_pos trivial,
      List.append_nil]
    rfl
  | @char c body text hbreak hquote hback h ih =>
    rw [List.cons_append, doubleFrom.eq_def]
    simp only
    by_cases hblank : isSpaceOrTab c = true
    · have hsame : (state.addBlank c).gap.crossesLine = false :=
        (Gap.crossesLine_addBlank state.gap c).trans hgap
      rw [if_pos hblank, ih rfl hsame, QuotedState.closeGap_addBlank hgap]
      simp [QuotedState.addBlank]
      omega
    · rw [if_neg hblank, if_neg (by simp [hbreak]), if_neg (by simp [hline]), if_neg hquote,
        if_neg hback, ih rfl rfl, QuotedState.closeGap_add]
      simp [QuotedState.add]
      omega
  | @escape x c body text hbreak hx h ih =>
    rw [List.cons_append, List.cons_append, doubleFrom.eq_def]
    simp only
    rw [if_neg (by decide), if_neg (by decide), if_neg (by simp [hline]), if_neg (by decide),
      if_pos trivial]
    simp only [hbreak, Bool.false_eq_true, ↓reduceIte, hx]
    rw [ih rfl rfl, QuotedState.closeGap_add]
    simp [QuotedState.add]
    omega

/-- The scalar behind an opening double quote is what its body stands for. -/
theorem DoubleBody.doubleQuoted?_eq {body text : List Char} (h : DoubleBody body text)
    (rest : List Char) :
    doubleQuoted? (body ++ '"' :: rest) = some (String.ofList text, body.length + 2) := by
  rw [doubleQuoted?, h.doubleFrom_eq rest rfl rfl]
  simp [QuotedState.closeGap, Gap.folded, Gap.empty]
  omega

end RuleGraph.Yaml
