import RuleGraph.Proofs.Yaml.Scanning

namespace RuleGraph.Yaml

/-- A character that a plain scalar takes wherever it stands in it. -/
def isPlainBody (c : Char) : Bool :=
  !isSpaceOrTab c && !isBreak c && c ≠ ':' && !endsInFlow c

/-- It is no blank, no line end and no colon, and no sign of brackets and braces. -/
theorem isPlainBody_iff {c : Char} : isPlainBody c = true ↔
    isSpaceOrTab c = false ∧ isBreak c = false ∧ c ≠ ':' ∧ endsInFlow c = false := by
  simp [isPlainBody, and_assoc]

/-- What ends a plain scalar behind a gap: the end of the source, a colon with a blank behind it, a
    sign that means something in brackets and braces, or a line that does not stand deep enough. -/
inductive EndsPlain (context : PlainContext) : List Char → List Char → Prop where
  | source (gap : List Char) : EndsPlain context gap []
  | colon {r : List Char} (hspace : atSpace r = true) (gap : List Char) :
      EndsPlain context gap (':' :: r)
  | sign {c : Char} (hflow : context.flow = true) (hc : endsInFlow c = true) (gap r : List Char) :
      EndsPlain context gap (c :: r)
  | line {n : Nat} {c : Char} (hblock : context.flow = false) (hn : n < context.indent)
      (hc : startsToken c = true) (before r : List Char) :
      EndsPlain context (before ++ '\n' :: List.replicate n ' ') (c :: r)

/-- A gap starts with a blank or a line end. -/
theorem atSpace_of_isGap {gap : List Char} (h : IsGap gap) (hsome : gap ≠ []) (rest : List Char) :
    atSpace (gap ++ rest) = true := by
  cases gap with
  | nil => exact absurd rfl hsome
  | cons c gap => obtain rfl | rfl := h c List.mem_cons_self <;> rfl

/-- What ends a plain scalar inside brackets is a token of its own. -/
theorem startsToken_of_endsInFlow {c : Char} (h : endsInFlow c = true) : startsToken c = true := by
  simp only [endsInFlow, Bool.or_eq_true, decide_eq_true_eq] at h
  obtain (((rfl | rfl) | rfl) | rfl) | rfl := h <;> rfl

/-- The text does not go on with a quote, which would belong to a text in single quotes in front of
    it. -/
def NoQuote (s : List Char) : Prop :=
  s.head? ≠ some '\''

theorem NoQuote.append {s t : List Char} (hs : NoQuote s) (ht : NoQuote t) : NoQuote (s ++ t) := by
  cases s with
  | nil => exact ht
  | cons c s => exact hs

theorem IsGap.noQuote {s : List Char} (h : IsGap s) : NoQuote s := by
  cases s with
  | nil => simp [NoQuote]
  | cons c s =>
    obtain rfl | rfl := h c List.mem_cons_self <;> simp [NoQuote]

/-- Where a plain scalar ends, no scalar in single quotes goes on. -/
theorem EndsPlain.noQuote {context : PlainContext} {gap tail : List Char} (hgap : IsGap gap)
    (h : EndsPlain context gap tail) : NoQuote (gap ++ tail) := by
  cases h with
  | source => exact hgap.noQuote.append (by simp [NoQuote])
  | colon => exact hgap.noQuote.append (by simp [NoQuote])
  | @sign c _ hc =>
    refine hgap.noQuote.append fun hquote => ?_
    obtain rfl := Option.some.inj hquote
    contradiction
  | line _ _ _ before =>
    have hbefore : IsGap before := fun c hc => hgap c (List.mem_append_left _ hc)
    rw [List.append_assoc]
    exact hbefore.noQuote.append (by simp [NoQuote])

namespace PlainState

/-- One more character of the gap. -/
def pass (state : PlainState) (c : Char) : PlainState :=
  if c = '\n' then
    { state with column := 0, taken := state.taken + 1, gap := state.gap.addBreak c }
  else { state with column := state.column + 1, taken := state.taken + 1, gap := state.gap.addBlank c }

theorem reversed_foldl_pass (gap : List Char) (state : PlainState) :
    (gap.foldl pass state).reversed = state.reversed := by
  induction gap generalizing state with
  | nil => rfl
  | cons c gap ih =>
    rw [List.foldl_cons, ih]
    unfold pass
    split <;> rfl

theorem taken_foldl_pass (gap : List Char) (state : PlainState) :
    (gap.foldl pass state).taken = state.taken + gap.length := by
  induction gap generalizing state with
  | nil => rfl
  | cons c gap ih =>
    have htaken : (state.pass c).taken = state.taken + 1 := by
      unfold pass
      split <;> rfl
    rw [List.foldl_cons, ih, htaken, List.length_cons]
    omega

/-- A gap crosses a line if it has a line feed. -/
theorem crossesLine_foldl_pass {gap : List Char} (hgap : IsGap gap) (state : PlainState) :
    (gap.foldl pass state).gap.crossesLine = (state.gap.crossesLine || gap.contains '\n') := by
  induction gap generalizing state with
  | nil => simp
  | cons c gap ih =>
    rw [List.foldl_cons, ih fun d hd => hgap d (List.mem_cons_of_mem c hd)]
    obtain rfl | rfl := hgap c List.mem_cons_self
    · cases hstate : state.gap <;> simp [pass, hstate, Gap.addBlank, Gap.crossesLine]
    · cases hstate : state.gap <;> simp [pass, hstate, Gap.addBreak, Gap.crossesLine]

/-- A gap that was begun is not empty. -/
theorem isEmpty_foldl_pass (gap : List Char) {state : PlainState} (h : state.gap.isEmpty = false) :
    (gap.foldl pass state).gap.isEmpty = false := by
  induction gap generalizing state with
  | nil => exact h
  | cons c gap ih =>
    refine ih ?_
    unfold pass
    split <;> cases state.gap <;> simp [Gap.addBlank, Gap.addBreak, Gap.isEmpty]

theorem column_foldl_spaces (n : Nat) (state : PlainState) :
    ((List.replicate n ' ').foldl pass state).column = state.column + n := by
  induction n generalizing state with
  | zero => rfl
  | succ n ih =>
    have hcolumn : (state.pass ' ').column = state.column + 1 := rfl
    rw [List.replicate_succ, List.foldl_cons, ih, hcolumn]
    omega

end PlainState

/-- The scanner goes over a gap within a plain scalar, and over the one behind it. -/
theorem plainFrom_gap {context : PlainContext} {gap : List Char} (hgap : IsGap gap)
    (state : PlainState) (rest : List Char) :
    plainFrom context state (gap ++ rest) =
      plainFrom context (gap.foldl PlainState.pass state) rest := by
  induction gap generalizing state with
  | nil => rfl
  | cons c gap ih =>
    rw [List.cons_append, List.foldl_cons, ← ih fun d hd => hgap d (List.mem_cons_of_mem c hd)]
    obtain rfl | rfl := hgap c List.mem_cons_self
    · rw [plainFrom, if_pos (by decide), if_neg (by simp)]
      rfl
    · rw [plainFrom, if_neg (by decide), if_pos (by decide)]
      rfl

/-- A run of characters that a plain scalar takes is added to its text. -/
theorem plainFrom_body {context : PlainContext} {body : List Char}
    (hbody : ∀ c ∈ body, isPlainBody c = true) {state : PlainState} (hgap : state.gap = .empty)
    (rest : List Char) :
    plainFrom context state (body ++ rest) = plainFrom context
      { column := state.column + body.length, taken := state.taken + body.length,
        reversed := body.reverse ++ state.reversed } rest := by
  induction body generalizing state with
  | nil =>
    cases state
    subst hgap
    rfl
  | cons c body ih =>
    obtain ⟨hblank, hbreak, hcolon, hsign⟩ := isPlainBody_iff.1 (hbody c List.mem_cons_self)
    have hstays : endsAfterGap context state (c :: (body ++ rest)) = false := by
      simp [endsAfterGap, hgap, Gap.empty, Gap.isEmpty]
    rw [List.cons_append, plainFrom, if_neg (by simp [hblank]), if_neg (by simp [hbreak]),
      if_neg (by simp [hstays]), if_neg (by simp [hcolon]), if_neg (by simp [hcolon, hsign]),
      ih (fun d hd => hbody d (List.mem_cons_of_mem c hd)) rfl]
    have hcolumn : state.column + 1 + body.length = state.column + (body.length + 1) := by omega
    have htaken : state.taken + 1 + body.length = state.taken + (body.length + 1) := by omega
    simp [hgap, Gap.folded, Gap.empty, hcolumn, htaken]

/-- Behind its gap a plain scalar ends where it should. -/
theorem EndsPlain.plainFrom_eq {context : PlainContext} {gap tail : List Char}
    (h : EndsPlain context gap tail) (state : PlainState) :
    plainFrom context (gap.foldl PlainState.pass state) tail =
      some (gap.foldl PlainState.pass state).finish := by
  cases h with
  | source => rfl
  | @colon r hspace =>
    have hclash : (r.head?.map clashesInFlow).getD false = false := by
      cases r with
      | nil => rfl
      | cons d r =>
        simp only [atSpace, isSpaceOrTab, isBreak, isKeptBreak, Bool.or_eq_true,
          decide_eq_true_eq] at hspace
        obtain (rfl | rfl) | rfl | rfl | rfl := hspace <;> rfl
    rw [plainFrom, if_neg (by decide), if_neg (by decide)]
    split
    · rfl
    · rw [if_neg (by simp [hclash]), if_pos (by simp [hspace])]
  | @sign c hflow hc =>
    have hplain : isSpaceOrTab c = false ∧ isBreak c = false ∧ c ≠ ':' := by
      simp only [endsInFlow, Bool.or_eq_true, decide_eq_true_eq] at hc
      obtain (((rfl | rfl) | rfl) | rfl) | rfl := hc <;> decide
    rw [plainFrom, if_neg (by simp [hplain.1]), if_neg (by simp [hplain.2.1])]
    split
    · rfl
    · rw [if_neg (by simp [hplain.2.2]), if_pos (by simp [hflow, hc])]
  | @line n c hblock hn hc before r =>
    simp only [Yaml.startsToken, Bool.and_eq_true, Bool.not_eq_true'] at hc
    rw [List.foldl_append, List.foldl_cons]
    generalize before.foldl PlainState.pass state = state
    have hempty : (state.pass '\n').gap.isEmpty = false := by
      cases hstate : state.gap <;> simp [PlainState.pass, hstate, Gap.addBreak, Gap.isEmpty]
    have hcolumn : ((List.replicate n ' ').foldl PlainState.pass (state.pass '\n')).column = n := by
      rw [PlainState.column_foldl_spaces]
      exact Nat.zero_add n
    have hends := PlainState.isEmpty_foldl_pass (List.replicate n ' ') hempty
    rw [plainFrom, if_neg (by simp [hc.1.1.2]), if_neg (by simp [hc.1.1.1]),
      if_pos (by simp [endsAfterGap, hends, hcolumn, hblock, hn])]

/-- A plain scalar is what stands in front of the gap behind which it ends. -/
theorem plainScalar?_eq {context : PlainContext} {body gap tail : List Char}
    (hbody : ∀ c ∈ body, isPlainBody c = true) (hgap : IsGap gap)
    (hends : EndsPlain context gap tail) (column : Nat) :
    plainScalar? context column (body ++ (gap ++ tail)) =
      some ⟨String.ofList body, (body ++ gap).length, gap.contains '\n'⟩ := by
  rw [plainScalar?, plainFrom_body hbody rfl, plainFrom_gap hgap, hends.plainFrom_eq,
    PlainState.finish, PlainState.reversed_foldl_pass, PlainState.taken_foldl_pass,
    PlainState.crossesLine_foldl_pass hgap]
  simp [Gap.crossesLine, Gap.empty]

/-- A text that can be written as a plain scalar: it starts with a character that starts nothing
    else, or with a dash in front of such a character. -/
structure PlainText (text : List Char) : Prop where
  body : ∀ c ∈ text, isPlainBody c = true
  starts : ∃ sign c r, text = sign ++ c :: r ∧ (sign = [] ∨ sign = ['-']) ∧
    Scanner.isIndicator c = false ∧ c ≠ '.' ∧ c ≠ Scanner.orderMark

/-- A plain scalar starts with a character that starts a token. -/
theorem PlainText.startsToken {text : List Char} (h : PlainText text) :
    ∃ c r, text = c :: r ∧ startsToken c = true := by
  obtain ⟨sign, c, r, rfl, hsign, hindicator, -, horder⟩ := h.starts
  obtain rfl | rfl := hsign
  · obtain ⟨hblank, hbreak, -, -⟩ := isPlainBody_iff.1 (h.body c (by simp))
    have hmark : c ≠ '#' := by
      rintro rfl
      contradiction
    exact ⟨c, r, rfl, by simp [Yaml.startsToken, hblank, hbreak, hmark, horder]⟩
  · exact ⟨'-', c :: r, rfl, rfl⟩

end RuleGraph.Yaml
