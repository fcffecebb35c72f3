import RuleGraph.Proofs.Yaml.Flow

namespace RuleGraph.Yaml

namespace Scanner

namespace View

/-- Closes the blocks that stand deeper than the column, given the columns of the blocks around the
    innermost one. -/
def unrollBlocks (column : Int) (view : View) : List Int → View
  | [] => view
  | outer :: outers =>
    if column < view.indent then
      unrollBlocks column { view.read [.blockEnd] with indent := outer, outerIndents := outers }
        outers
    else view

/-- Closes the blocks that stand deeper than the column, outside of brackets and braces. -/
def unroll (column : Int) (view : View) : View :=
  if 0 < view.depth then view else view.unrollBlocks column view.outerIndents

/-- Closing blocks opens and closes no bracket. -/
theorem depth_unrollBlocks (column : Int) (outers : List Int) (view : View) :
    (view.unrollBlocks column outers).depth = view.depth := by
  induction outers generalizing view with
  | nil => rfl
  | cons outer outers ih =>
    rw [unrollBlocks]
    split
    · exact ih _
    · rfl

@[simp] theorem depth_unroll (column : Int) (view : View) :
    (view.unroll column).depth = view.depth := by
  unfold unroll
  split
  · rfl
  · exact depth_unrollBlocks _ _ _

/-- A block that does not stand deeper than the column stays open. -/
theorem unroll_of_le {column : Int} {view : View} (h : view.indent ≤ column) :
    view.unroll column = view := by
  unfold unroll
  split
  · rfl
  · cases houter : view.outerIndents with
    | nil => rfl
    | cons outer outers => rw [unrollBlocks, if_neg (by omega)]

/-- Blocks can be closed in two turns, first those that stand deeper. -/
theorem unrollBlocks_unrollBlocks {column deeper : Int} (h : column ≤ deeper) (outers : List Int)
    {view : View} (houters : view.outerIndents = outers) :
    (view.unrollBlocks deeper outers).unrollBlocks column
      (view.unrollBlocks deeper outers).outerIndents = view.unrollBlocks column outers := by
  induction outers generalizing view with
  | nil => rw [unrollBlocks, houters]
  | cons outer outers ih =>
    by_cases hdeeper : deeper < view.indent
    · have hcolumn : column < view.indent := by omega
      simp only [unrollBlocks, if_pos hdeeper, if_pos hcolumn]
      exact ih rfl
    · rw [unrollBlocks, if_neg hdeeper, houters]

/-- Closing the deeper blocks first closes no block that would stay open otherwise. -/
theorem unroll_unroll {column deeper : Int} (h : column ≤ deeper) (view : View) :
    (view.unroll deeper).unroll column = view.unroll column := by
  by_cases hdepth : 0 < view.depth
  · simp [unroll, hdepth]
  · rw [unroll, depth_unroll, if_neg hdepth, unroll, if_neg hdepth, unroll, if_neg hdepth]
    exact unrollBlocks_unrollBlocks h _ rfl

/-- A block that was opened in a deeper column is closed again. -/
theorem unroll_enter {view : View} (hdepth : view.depth = 0) {column : Nat}
    (h : view.indent < column) (ts : List Token) :
    ((view.enter column).read ts).unroll view.indent =
      view.read (.blockMappingStart :: (ts ++ [.blockEnd])) := by
  have hclosed : ((view.enter column).read ts).unroll view.indent =
      (view.read (.blockMappingStart :: (ts ++ [.blockEnd]))).unroll view.indent := by
    simp [unroll, unrollBlocks, enter, read, hdepth, h]
  rw [hclosed]
  exact unroll_of_le (Int.le_refl _)

end View

theorem view_unrollBlocks (column : Int) (outers : List Int) (s : Scanner) :
    (s.unrollBlocks column outers).view = s.view.unrollBlocks column outers := by
  induction outers generalizing s with
  | nil => rfl
  | cons outer outers ih =>
    rw [unrollBlocks, View.unrollBlocks]
    by_cases h : column < s.indent
    · have hview : column < s.view.indent := h
      rw [if_pos h, if_pos hview, ih]
      rfl
    · have hview : ¬column < s.view.indent := h
      rw [if_neg h, if_neg hview]

/-- The view of the scanner shows which blocks are closed. -/
theorem view_unrollIndent (column : Int) (s : Scanner) :
    (s.unrollIndent column).view = s.view.unroll column := by
  unfold unrollIndent View.unroll
  by_cases hflow : s.inFlow = true
  · rw [if_pos hflow, if_pos ((inFlow_iff s).1 hflow)]
  · rw [if_neg hflow, if_neg (mt (inFlow_iff s).2 hflow)]
    exact view_unrollBlocks _ _ s

/-- Closing blocks adds tokens and leaves everything but the blocks alone. -/
theorem exists_unrollIndent_eq (column : Int) (s : Scanner) :
    ∃ reversed count indent outerIndents, s.unrollIndent column =
      { s with
        reversed := reversed, count := count, indent := indent, outerIndents := outerIndents } := by
  have hblocks : ∀ (outers : List Int) (s : Scanner),
      ∃ reversed count indent outerIndents, s.unrollBlocks column outers =
        { s with
          reversed := reversed, count := count
          indent := indent, outerIndents := outerIndents } := by
    intro outers
    induction outers with
    | nil => exact fun s => ⟨s.reversed, s.count, s.indent, s.outerIndents, rfl⟩
    | cons outer outers ih =>
      intro s
      rw [unrollBlocks]
      split
      · exact ih { s.emit .blockEnd with indent := outer, outerIndents := outers }
      · exact ⟨s.reversed, s.count, s.indent, s.outerIndents, rfl⟩
  unfold unrollIndent
  split
  · exact ⟨s.reversed, s.count, s.indent, s.outerIndents, rfl⟩
  · exact hblocks s.outerIndents s

/-- Closing blocks makes no key required. -/
theorem quiet_unrollIndent (column : Int) {s : Scanner} (h : s.Quiet) :
    (s.unrollIndent column).Quiet := by
  obtain ⟨reversed, count, indent, outerIndents, heq⟩ := exists_unrollIndent_eq column s
  rw [heq]
  exact ⟨h.key, h.outerKeys⟩

/-- Outside of brackets and braces a key may start at the next token. -/
def AllowsKey (s : Scanner) : Prop :=
  s.keyAllowed = true ∨ '\n' ∈ s.cursor.gap

/-- Behind a line end a key is allowed. -/
theorem Reaches.allowsKey {s : Scanner} {place : Cursor} (h : s.Reaches place)
    {gap rest : List Char} (hgap : IsGap gap) (hrest : place.rest = gap ++ rest)
    (hline : '\n' ∈ gap) : s.AllowsKey := by
  apply h.line
  rw [Cursor.gap_eq_append hgap hrest]
  exact List.mem_append_left _ hline

/-- The scanner goes on to the next token outside of brackets and braces. Blocks that stand deeper
    than the token are closed before it. -/
theorem Quiet.exists_toNextToken? {s : Scanner} (h : s.Quiet) {place : Cursor}
    (hreach : s.Reaches place) {c : Char} {r : List Char} (hrest : place.rest = c :: r)
    (hc : startsToken c = true) (hdepth : s.view.depth = 0) (hallowed : s.AllowsKey) :
    ∃ next, s.toNextToken? = some next ∧ next.Quiet ∧ next.keyAllowed = true ∧
      next.cursor = place ∧ next.view = s.view.unroll place.column ∧
      next.cursor.rest.length ≤ s.cursor.rest.length := by
  have hstart : ∀ x ∈ place.rest.head?, startsToken x = true := by
    rw [hrest]
    exact fun _ heq => Option.some.inj heq ▸ hc
  obtain ⟨hnext, hplace, hle⟩ :=
    hreach.toNextToken?_eq hstart (fun k hk => .inl (h.key k hk)) h.outerKeys
  have hquiet : (s.past s.cursor.gap).refreshed.Quiet := quiet_refreshed ⟨h.key, h.outerKeys⟩
  have hview := view_unrollIndent place.column (s.past s.cursor.gap).refreshed
  rw [view_refreshed, view_past] at hview
  obtain ⟨reversed, count, indent, outerIndents, heq⟩ :=
    exists_unrollIndent_eq place.column (s.past s.cursor.gap).refreshed
  have hcursor : ((s.past s.cursor.gap).refreshed.unrollIndent place.column).cursor = place := by
    rw [heq]
    exact hplace
  refine ⟨_, hnext, quiet_unrollIndent _ hquiet, ?_, hcursor, hview, ?_⟩
  · have hflow := (inFlow_eq_false_iff s).2 hdepth
    rw [heq]
    simpa [refreshed, past, hflow, AllowsKey] using hallowed
  · rw [hcursor]
    exact hle

end Scanner

open Scanner

/-- In a block of the given column a value ends in front of this text: at the end of the source, or
    with a line that stands no deeper. -/
inductive EndsBlock (column : Nat) : List Char → Prop where
  | source {gap : List Char} (h : IsGap gap) : EndsBlock column gap
  | line {before : List Char} {n : Nat} {c : Char} (hbefore : IsGap before) (hn : n ≤ column)
      (hc : startsToken c = true) (r : List Char) :
      EndsBlock column (before ++ '\n' :: (List.replicate n ' ' ++ c :: r))

theorem isGap_lineStart (n : Nat) : IsGap ('\n' :: List.replicate n ' ') := by
  intro c hc
  obtain rfl | hc := List.mem_cons.1 hc
  · exact .inr rfl
  · exact .inl (List.eq_of_mem_replicate hc)

/-- What ends a block ends all deeper ones. -/
theorem EndsBlock.mono {column deeper : Nat} {rest : List Char} (h : EndsBlock column rest)
    (hle : column ≤ deeper) : EndsBlock deeper rest := by
  cases h with
  | source h => exact .source h
  | line hbefore hn hc r => exact .line hbefore (Nat.le_trans hn hle) hc r

/-- The end of a block may stand behind a gap. -/
theorem EndsBlock.behind_gap {column : Nat} {gap rest : List Char} (hgap : IsGap gap)
    (h : EndsBlock column rest) : EndsBlock column (gap ++ rest) := by
  cases h with
  | source h => exact .source (hgap.append h)
  | line hbefore hn hc r =>
    rw [← List.append_assoc]
    exact .line (hgap.append hbefore) hn hc r

/-- Where a block ends, the value in front of it ends. -/
theorem EndsBlock.endsValue {column : Nat} {rest : List Char} (h : EndsBlock column rest)
    {context : PlainContext} (hblock : context.flow = false) (hindent : column < context.indent) :
    EndsValue context rest := by
  cases h with
  | source h => exact ⟨rest, [], h, (List.append_nil rest).symm, .source rest⟩
  | @line before n c hbefore hn hc r =>
    exact ⟨_, c :: r, hbefore.append (isGap_lineStart n), by simp,
      .line hblock (by omega) hc before r⟩

/-- Where the fields of a block stand in the given column, the scanner reads these tokens from the
    text, which starts with a field. They open the block if it is not open yet. -/
structure ScansFields (column : Nat) (text : List Char) (ts : List Token) : Prop where
  starts : ∃ c r, text = c :: r ∧ startsToken c = true
  scans {s : Scanner} {place : Cursor} {rest : List Char} : s.Quiet → s.view.depth = 0 →
    s.AllowsKey → s.Reaches place → place.column = column →
    (s.view.unroll column).indent ≤ column → EndsBlock column rest → place.rest = text ++ rest →
    ∃ s' : Scanner, s.tokens? = s'.tokens? ∧ s'.Quiet ∧ s'.Reaches (place.skip text.length) ∧
      s'.view.unroll column = ((s.view.unroll column).atField column).read ts

namespace Scanner.View

/-- Fields of a block open no bracket. -/
@[simp] theorem depth_atField (column : Nat) (view : View) :
    (view.atField column).depth = view.depth := by
  unfold atField
  split <;> rfl

/-- At a field the innermost block has the column of the field. -/
theorem indent_atField {column : Nat} {view : View} (hdepth : view.depth = 0)
    (h : view.indent ≤ column) : (view.atField column).indent = column := by
  unfold atField
  split
  · rfl
  · omega

/-- A further field in the same column opens no further block. -/
theorem atField_of_indent_eq {column : Nat} {view : View} (h : view.indent = column) :
    view.atField column = view := by
  rw [atField, if_neg (by omega)]

end Scanner.View

/-- The key of a field with its colon. -/
theorem exists_blockKey {s : Scanner} {place : Cursor} {key pad r : List Char} {plain : Bool}
    {name : String} (hquiet : s.Quiet) (hdepth : s.view.depth = 0) (hallowed : s.AllowsKey)
    (hreach : s.Reaches place) (hindent : (s.view.unroll place.column).indent ≤ place.column)
    (hkey : ScalarText key plain name) (hpad : ∀ c ∈ pad, c = ' ')
    (hshort : Text.byteLength (key ++ pad) ≤ maxKeyLength) (hspace : atSpace r = true)
    (hrest : place.rest = key ++ (pad ++ ':' :: r)) :
    ∃ s' : Scanner, s.tokens? = s'.tokens? ∧ s'.Quiet ∧
      s'.cursor = place.skip ((key ++ pad).length + 1) ∧ s'.cursor.rest = r ∧
      place.column < s'.cursor.column ∧ s'.view.depth = 0 ∧ s'.view.indent = place.column ∧
      s'.view = ((s.view.unroll place.column).atField place.column).read
        [.key, .scalar plain name, .value] := by
  obtain ⟨c, t, hcons, hc⟩ := hkey.starts
  have hstart : place.rest = c :: (t ++ (pad ++ ':' :: r)) := by
    rw [hrest, hcons]
    rfl
  obtain ⟨next, hnext, hquiet', hallowed', hcursor, hview, hle⟩ :=
    hquiet.exists_toNextToken? hreach hstart hc hdepth hallowed
  subst hcursor
  have hopen : next.indent ≤ next.cursor.column := by
    show next.view.indent ≤ _
    rw [hview]
    exact hindent
  obtain ⟨s', htokens, hview', hquiet'', -, hcursor', hrest', hcolumn⟩ := exists_key hnext hle
    hquiet' hallowed' hkey hpad hshort (fun _ => hspace) (.inr ⟨hopen, hspace⟩) hrest
  rw [hview] at hview'
  refine ⟨s', htokens, hquiet'', hcursor', hrest', by omega, ?_, ?_, hview'⟩
  · rw [hview', View.depth_read, View.depth_atField, View.depth_unroll, hdepth]
  · rw [hview', View.indent_read, View.indent_atField (by simp [hdepth]) hindent]

/-- Behind its key a value on the same line stands deeper than the block, so the scanner arrives at
    it without closing one. -/
theorem exists_arrives_sameLine {keyed : Scanner} (hquiet : keyed.Quiet)
    (hdeeper : keyed.indent < keyed.cursor.column) {gap : List Char} (hgap : ∀ c ∈ gap, c = ' ')
    {c : Char} {r : List Char} (hc : startsToken c = true)
    (hrest : keyed.cursor.rest = gap ++ c :: r) :
    ∃ next, keyed.Arrives next (keyed.cursor.skip gap.length) := by
  have hline : ∀ x ∈ gap, isBreak x = false := fun x hx => by
    rw [hgap x hx]
    rfl
  have hskip : (keyed.cursor.skip gap.length).column = keyed.cursor.column + gap.length := by
    rw [Cursor.skip_within_line hline hrest]
  exact hquiet.exists_arrives
    ((reaches_cursor keyed).behind_gap (fun x hx => .inl (hgap x hx)) hrest)
    (Cursor.rest_skip_of_append hrest) hc (.inr (by omega))

/-- A field whose value stands on the line of its key. -/
theorem scansFields_value {column : Nat} {key pad gap value : List Char} {plain : Bool}
    {name : String} {ts : List Token} (hkey : ScalarText key plain name) (hpad : ∀ c ∈ pad, c = ' ')
    (hshort : Text.byteLength (key ++ pad) ≤ maxKeyLength) (hgap : ∀ c ∈ gap, c = ' ')
    (hsome : gap ≠ []) (hvalue : ScansValue value ts) :
    ScansFields column (key ++ pad ++ ':' :: (gap ++ value))
      (.key :: .scalar plain name :: .value :: ts) where
  starts := by
    obtain ⟨c, r, rfl, hc⟩ := hkey.starts
    exact ⟨c, _, rfl, hc⟩
  scans := by
    intro s place rest hquiet hdepth hallowed hreach hcolumn hindent hends hrest
    subst hcolumn
    rw [field_append] at hrest
    obtain ⟨keyed, htokens, hquiet', hcursor, hrest', hlt, hdepth', hindent', hview⟩ :=
      exists_blockKey hquiet hdepth hallowed hreach hindent hkey hpad hshort
        (atSpace_of_isGap (fun c hc => .inl (hgap c hc)) hsome _) hrest
    have hopen : keyed.indent = place.column := hindent'
    obtain ⟨c, r, hcons, hc⟩ := hvalue.starts
    have hstart : keyed.cursor.rest = gap ++ c :: (r ++ rest) := by
      rw [hrest', hcons]
      rfl
    obtain ⟨next, harrives⟩ := exists_arrives_sameLine hquiet' (by omega) hgap hc hstart
    have hcontext : EndsValue keyed.view.context rest := by
      refine hends.endsValue (decide_eq_false (by omega)) ?_
      show _ < keyed.indent + 1
      omega
    obtain ⟨last, hreads, hend⟩ :=
      hvalue.scans harrives hcontext (Cursor.rest_skip_of_append hrest')
    rw [hcursor, skip_field] at hend
    refine ⟨last, htokens.trans hreads.tokens, hreads.quiet, hend, ?_⟩
    have hstays : last.view.indent ≤ place.column := by
      rw [hreads.view, View.indent_read]
      exact Int.le_of_eq hindent'
    rw [View.unroll_of_le hstays, hreads.view, hview, View.read_read]
    rfl

/-- A field whose value is a block of its own, on the lines below and deeper than the key. -/
theorem scansFields_block {column deeper : Nat} {key pad gap fields : List Char} {plain : Bool}
    {name : String} {ts : List Token} (hkey : ScalarText key plain name) (hpad : ∀ c ∈ pad, c = ' ')
    (hshort : Text.byteLength (key ++ pad) ≤ maxKeyLength) (hgap : IsGap gap)
    (hlt : column < deeper) (hfields : ScansFields deeper fields ts) :
    ScansFields column
      (key ++ pad ++ ':' :: (gap ++ '\n' :: List.replicate deeper ' ' ++ fields))
      (.key :: .scalar plain name :: .value ::
        .blockMappingStart :: (ts ++ [.blockEnd])) where
  starts := by
    obtain ⟨c, r, rfl, hc⟩ := hkey.starts
    exact ⟨c, _, rfl, hc⟩
  scans := by
    intro s place rest hquiet hdepth hallowed hreach hcolumn hindent hends hrest
    subst hcolumn
    have hbreak : '\n' ∈ gap ++ '\n' :: List.replicate deeper ' ' := by simp
    have hgap' : IsGap (gap ++ '\n' :: List.replicate deeper ' ') :=
      hgap.append (isGap_lineStart deeper)
    rw [field_append] at hrest
    obtain ⟨keyed, htokens, hquiet', hcursor, hrest', -, hdepth', hindent', hview⟩ :=
      exists_blockKey hquiet hdepth hallowed hreach hindent hkey hpad hshort
        (atSpace_of_isGap hgap' (List.ne_nil_of_mem hbreak) _) hrest
    have hstays : keyed.view.unroll deeper = keyed.view := View.unroll_of_le (by omega)
    have hline : keyed.cursor.rest =
        gap ++ ('\n' :: (List.replicate deeper ' ' ++ (fields ++ rest))) := by
      simpa using hrest'
    have hkeyed := reaches_cursor keyed
    obtain ⟨last, htokens', hquiet'', hend, hlast⟩ := hfields.scans hquiet' hdepth'
      (hkeyed.allowsKey hgap' hrest' hbreak) (hkeyed.behind_gap hgap' hrest')
      (Cursor.column_skip_lineStart hline) (by rw [hstays]; omega)
      (hends.mono (Nat.le_of_lt hlt)) (Cursor.rest_skip_of_append hrest')
    rw [hcursor, skip_field] at hend
    refine ⟨last, htokens.trans htokens', hquiet'', hend, ?_⟩
    -- The fields open a block of their own, which is closed before the next field of the outer one.
    have henter : keyed.view.atField deeper = keyed.view.enter deeper := by
      rw [View.atField, if_pos ⟨hdepth', by omega⟩]
    rw [hstays, henter] at hlast
    have hlt' : keyed.view.indent < deeper := by omega
    have hclosed := View.unroll_enter hdepth' hlt' ts
    rw [hindent', ← hlast, View.unroll_unroll (by omega)] at hclosed
    rw [hclosed, hview, View.read_read]
    rfl

/-- A gap behind the fields belongs to their text as well. -/
theorem ScansFields.before_gap {column : Nat} {text gap : List Char} {ts : List Token}
    (h : ScansFields column text ts) (hgap : IsGap gap) : ScansFields column (text ++ gap) ts where
  starts := by
    obtain ⟨c, r, rfl, hc⟩ := h.starts
    exact ⟨c, _, rfl, hc⟩
  scans := by
    intro s place rest hquiet hdepth hallowed hreach hplace hindent hends hrest
    rw [List.append_assoc] at hrest
    obtain ⟨last, htokens, hquiet', hend, hview⟩ := h.scans hquiet hdepth hallowed hreach hplace
      hindent (hends.behind_gap hgap) hrest
    have hbehind := hend.behind_gap hgap (Cursor.rest_skip_of_append hrest)
    rw [← Cursor.skip_add, ← List.length_append] at hbehind
    exact ⟨last, htokens, hquiet', hbehind, hview⟩

/-- Further fields on later lines, in the same column. -/
theorem ScansFields.append {column : Nat} {first others : List Char} {ts us : List Token}
    (hfirst : ScansFields column first ts) (hothers : ScansFields column others us) :
    ScansFields column (first ++ '\n' :: (List.replicate column ' ' ++ others)) (ts ++ us) where
  starts := by
    obtain ⟨c, r, rfl, hc⟩ := hfirst.starts
    exact ⟨c, _, rfl, hc⟩
  scans := by
    intro s place rest hquiet hdepth hallowed hreach hplace hindent hends hrest
    have hline := isGap_lineStart column
    have hsplit : first ++ '\n' :: (List.replicate column ' ' ++ others) ++ rest =
        first ++ ('\n' :: List.replicate column ' ' ++ (others ++ rest)) := by
      simp
    rw [hsplit] at hrest
    have hnext : EndsBlock column ('\n' :: List.replicate column ' ' ++ (others ++ rest)) := by
      obtain ⟨c, r, rfl, hc⟩ := hothers.starts
      exact .line isGap_nil (Nat.le_refl column) hc (r ++ rest)
    obtain ⟨middle, htokens, hquiet', hbehind, hmiddle⟩ :=
      hfirst.scans hquiet hdepth hallowed hreach hplace hindent hnext hrest
    have hindent' : (middle.view.unroll column).indent = column := by
      rw [hmiddle, View.indent_read, View.indent_atField (by simp [hdepth]) hindent]
    have hdepth' : middle.view.depth = 0 := by
      have heq := congrArg View.depth hmiddle
      rwa [View.depth_unroll, View.depth_read, View.depth_atField, View.depth_unroll, hdepth] at heq
    have hrest' := Cursor.rest_skip_of_append hrest
    have hcolumn : ((place.skip first.length).skip
        ('\n' :: List.replicate column ' ').length).column = column :=
      @Cursor.column_skip_lineStart _ [] _ _ hrest'
    obtain ⟨last, htokens', hquiet'', hend, hlast⟩ := hothers.scans hquiet' hdepth'
      (hbehind.allowsKey hline hrest' List.mem_cons_self) (hbehind.behind_gap hline hrest') hcolumn
      (Int.le_of_eq hindent') hends (Cursor.rest_skip_of_append hrest')
    have hlength : (first ++ '\n' :: (List.replicate column ' ' ++ others)).length =
        first.length + (('\n' :: List.replicate column ' ').length + others.length) := by
      simp only [List.length_append, List.length_cons]
      omega
    rw [← Cursor.skip_add, ← Cursor.skip_add, ← hlength] at hend
    refine ⟨last, htokens.trans htokens', hquiet'', hend, ?_⟩
    rw [hlast, View.atField_of_indent_eq hindent', hmiddle, View.read_read]

end RuleGraph.Yaml
