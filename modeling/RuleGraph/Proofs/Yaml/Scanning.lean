import RuleGraph.Text.Line
import RuleGraph.Yaml.Scanner

namespace RuleGraph.Yaml

open RuleGraph.Text

/-- Spaces and line ends, as they stand between tokens. -/
def IsGap (s : List Char) : Prop :=
  ∀ c ∈ s, c = ' ' ∨ c = '\n'

theorem isGap_nil : IsGap [] :=
  List.forall_mem_nil _

theorem IsGap.append {s t : List Char} (hs : IsGap s) (ht : IsGap t) : IsGap (s ++ t) :=
  fun c hc => (List.mem_append.1 hc).elim (hs c) (ht c)

/-- A space or a line end. -/
def isGapChar (c : Char) : Bool :=
  c = ' ' || c = '\n'

theorem isGap_takeWhile (s : List Char) : IsGap (s.takeWhile isGapChar) := by
  intro c hc
  have hgap := List.all_eq_true.1 List.all_takeWhile c hc
  simpa [isGapChar] using hgap

/-- A character that is neither skipped nor the start of a comment. -/
def startsToken (c : Char) : Bool :=
  !isBreak c && !isSpaceOrTab c && c ≠ '#' && c ≠ Scanner.orderMark

/-- What starts a token is not part of a gap. -/
theorem isGapChar_of_startsToken {c : Char} (h : startsToken c = true) : isGapChar c = false := by
  simp only [startsToken, isBreak, isSpaceOrTab, Bool.and_eq_true, Bool.not_eq_true',
    Bool.or_eq_false_iff, decide_eq_false_iff_not] at h
  simp [isGapChar, h.1.1.1.1, h.1.1.2.1]

/-- A gap goes on with the gap at the start of what follows it. -/
theorem takeWhile_isGapChar_append {gap : List Char} (hgap : IsGap gap) (rest : List Char) :
    (gap ++ rest).takeWhile isGapChar = gap ++ rest.takeWhile isGapChar :=
  List.takeWhile_append_of_pos fun c hc => by
    obtain rfl | rfl := hgap c hc <;> rfl

namespace Cursor

@[simp] theorem rest_next (cursor : Cursor) : cursor.next.rest = cursor.rest.tail := by
  unfold next
  split
  · simp_all
  · split <;> simp_all [nextLine, behind]

@[simp] theorem rest_skip (cursor : Cursor) (n : Nat) :
    (cursor.skip n).rest = cursor.rest.drop n := by
  induction n generalizing cursor with
  | zero => rfl
  | succ n ih => rw [skip, ih, rest_next, List.drop_tail]

/-- Behind a text comes what follows it. -/
theorem rest_skip_of_append {text rest : List Char} {cursor : Cursor}
    (h : cursor.rest = text ++ rest) : (cursor.skip text.length).rest = rest := by
  rw [rest_skip, h, List.drop_left]

theorem skip_add (cursor : Cursor) (m n : Nat) :
    cursor.skip (m + n) = (cursor.skip m).skip n := by
  induction m generalizing cursor with
  | zero => rw [Nat.zero_add]; rfl
  | succ m ih => rw [Nat.succ_add, skip, skip, ih]

/-- Over text that ends no line, the cursor stays on its line and counts characters and bytes. -/
theorem skip_within_line {text rest : List Char} (htext : ∀ c ∈ text, isBreak c = false)
    {cursor : Cursor} (hrest : cursor.rest = text ++ rest) :
    cursor.skip text.length =
      ⟨rest, cursor.line, cursor.column + text.length, cursor.offset + byteLength text⟩ := by
  induction text generalizing cursor with
  | nil =>
    rw [List.nil_append] at hrest
    subst hrest
    rfl
  | cons c text ih =>
    have hc := htext c List.mem_cons_self
    have hnext : cursor.next = cursor.behind c (text ++ rest) := by
      simp [next, hrest, hc]
    rw [List.length_cons, skip, hnext, ih (fun d hd => htext d (List.mem_cons_of_mem c hd)) rfl]
    simp only [behind, byteLength, List.foldr_cons, mk.injEq, true_and]
    omega

/-- Behind a line end and spaces, the column is the number of spaces. -/
theorem column_skip_lineStart {cursor : Cursor} {before rest : List Char} {n : Nat}
    (hrest : cursor.rest = before ++ ('\n' :: (List.replicate n ' ' ++ rest))) :
    (cursor.skip (before ++ '\n' :: List.replicate n ' ').length).column = n := by
  have hbehind := rest_skip_of_append hrest
  have hnext : (cursor.skip before.length).next =
      (cursor.skip before.length).nextLine (List.replicate n ' ' ++ rest) := by
    rw [next, hbehind]
    rfl
  have hspaces : ∀ c ∈ List.replicate n ' ', isBreak c = false := fun c hc => by
    rw [List.eq_of_mem_replicate hc]
    rfl
  rw [List.length_append, List.length_cons, skip_add, skip, hnext, skip_within_line hspaces rfl]
  simp [nextLine]

/-- The gap that starts at a place. -/
def gap (cursor : Cursor) : List Char :=
  cursor.rest.takeWhile isGapChar

/-- The place behind the gap. -/
def pastGap (cursor : Cursor) : Cursor :=
  cursor.skip cursor.gap.length

/-- The rest of a source is the gap in front of it and what follows the gap. -/
theorem rest_eq_gap_append (cursor : Cursor) : cursor.rest = cursor.gap ++ cursor.pastGap.rest := by
  rw [pastGap, rest_skip]
  exact (List.prefix_iff_eq_append.1 (List.takeWhile_prefix isGapChar)).symm

/-- A gap of which a part was passed goes on with the other part. -/
theorem gap_eq_append {gap rest : List Char} (hgap : IsGap gap) {cursor : Cursor}
    (hrest : cursor.rest = gap ++ rest) : cursor.gap = gap ++ (cursor.skip gap.length).gap := by
  rw [Cursor.gap, Cursor.gap, rest_skip_of_append hrest, hrest, takeWhile_isGapChar_append hgap]

/-- Going over a part of a gap first leads to the same place behind it. -/
theorem pastGap_skip {gap rest : List Char} (hgap : IsGap gap) {cursor : Cursor}
    (hrest : cursor.rest = gap ++ rest) : (cursor.skip gap.length).pastGap = cursor.pastGap := by
  rw [pastGap, ← skip_add, pastGap, gap_eq_append hgap hrest, List.length_append]

/-- In front of a token, and at the end, there is no gap. -/
theorem gap_eq_nil {cursor : Cursor} (h : ∀ c ∈ cursor.rest.head?, startsToken c = true) :
    cursor.gap = [] := by
  rw [gap]
  cases hrest : cursor.rest with
  | nil => rfl
  | cons c s =>
    have hc := isGapChar_of_startsToken (h c (by rw [hrest]; rfl))
    exact List.takeWhile_cons_of_neg (by simp [hc])

end Cursor

/-- Whether a possible key is still one at the given place. -/
def PossibleKey.lasts (cursor : Cursor) (k : PossibleKey) : Bool :=
  !(k.line < cursor.line || k.offset + maxKeyLength < cursor.offset)

/-- A key stays possible on its own line and within the longest length. -/
theorem PossibleKey.lasts_iff {cursor : Cursor} {k : PossibleKey} :
    k.lasts cursor = true ↔ cursor.line ≤ k.line ∧ cursor.offset ≤ k.offset + maxKeyLength := by
  simp [lasts]

namespace Scanner

/-- A gap is skipped. Outside of brackets and braces a key may start behind a line end. -/
theorem skipTrivia_gap {gap : List Char} (hgap : IsGap gap) (flow : Bool) {keyAllowed : Bool}
    {cursor : Cursor} {rest : List Char} (hrest : cursor.rest = gap ++ rest) :
    skipTrivia flow false keyAllowed cursor (gap ++ rest) =
      skipTrivia flow false (keyAllowed || (!flow && gap.contains '\n')) (cursor.skip gap.length)
        rest := by
  induction gap generalizing cursor keyAllowed with
  | nil => simp [Cursor.skip]
  | cons c gap ih =>
    have htail : IsGap gap := fun d hd => hgap d (List.mem_cons_of_mem c hd)
    obtain rfl | rfl := hgap c List.mem_cons_self
    · have hnext : cursor.next = cursor.behind ' ' (gap ++ rest) := by
        simp [Cursor.next, hrest, isBreak, isKeptBreak]
      rw [List.cons_append, skipTrivia, if_neg (by decide), if_pos (by simp), ih htail rfl, ← hnext]
      simp [Cursor.skip]
    · have hnext : cursor.next = cursor.nextLine (gap ++ rest) := by
        simp [Cursor.next, hrest, isBreak]
      rw [List.cons_append, skipTrivia, if_pos (by decide), ih htail rfl, ← hnext]
      have hallowed : (keyAllowed || !flow || (!flow && gap.contains '\n')) =
          (keyAllowed || (!flow && ('\n' :: gap).contains '\n')) := by
        cases flow <;> simp
      rw [hallowed]
      rfl

/-- Where a token starts, and at the end, nothing is skipped. -/
theorem skipTrivia_of_startsToken {rest : List Char} (h : ∀ c ∈ rest.head?, startsToken c = true)
    (flow keyAllowed : Bool) {cursor : Cursor} (hrest : cursor.rest = rest) :
    skipTrivia flow false keyAllowed cursor rest = (cursor, keyAllowed) := by
  cases rest with
  | nil => rw [skipTrivia, ← hrest]
  | cons c s =>
    have hc := h c rfl
    simp only [startsToken, isSpaceOrTab, Bool.and_eq_true, Bool.not_eq_true',
      Bool.or_eq_false_iff, decide_eq_false_iff_not, decide_eq_true_eq] at hc
    obtain ⟨⟨⟨hbreak, hspace, htab⟩, hmark⟩, horder⟩ := hc
    rw [skipTrivia, if_neg (by simp [hbreak]), if_neg (by simp [hspace, htab, horder]),
      if_neg hmark, ← hrest]

/-- No possible key would be missed if it were given up. -/
structure Quiet (s : Scanner) : Prop where
  key : ∀ k ∈ s.key, k.required = false
  outerKeys : ∀ o ∈ s.outerKeys, ∀ k ∈ o, k.required = false

/-- A key that is not required is given up without harm. -/
theorem refreshKey?_eq {cursor : Cursor} {key : Option PossibleKey}
    (h : ∀ k ∈ key, k.required = false ∨ k.lasts cursor = true) :
    refreshKey? cursor key = some (key.filter (·.lasts cursor)) := by
  cases key with
  | none => rfl
  | some k =>
    have hk := h k rfl
    cases hstale : (k.line < cursor.line || k.offset + maxKeyLength < cursor.offset : Bool) with
    | false => simp [refreshKey?, PossibleKey.lasts, hstale, Option.filter]
    | true =>
      have hfree : k.required = false := hk.resolve_right (by simp [PossibleKey.lasts, hstale])
      simp [refreshKey?, PossibleKey.lasts, hstale, hfree, Option.filter]

theorem mapM_refreshKey?_eq {cursor : Cursor} {keys : List (Option PossibleKey)}
    (h : ∀ o ∈ keys, ∀ k ∈ o, k.required = false) :
    keys.mapM (refreshKey? cursor) =
      some (keys.map fun o => o.filter (·.lasts cursor)) := by
  induction keys with
  | nil => rfl
  | cons o keys ih =>
    have ho : refreshKey? cursor o = some (o.filter (·.lasts cursor)) :=
      refreshKey?_eq fun k hk => .inl (h o List.mem_cons_self k hk)
    rw [List.mapM_cons, ho, ih fun p hp => h p (List.mem_cons_of_mem o hp)]
    rfl

/-- The scanner without the possible keys that are none any more. -/
def refreshed (s : Scanner) : Scanner :=
  { s with
    key := s.key.filter (·.lasts s.cursor)
    outerKeys := s.outerKeys.map fun o => o.filter (·.lasts s.cursor) }

/-- Where no required key is lost, refreshing only gives up keys that can be no more. -/
theorem refreshKeys?_eq {s : Scanner}
    (hkey : ∀ k ∈ s.key, k.required = false ∨ k.lasts s.cursor = true)
    (houter : ∀ o ∈ s.outerKeys, ∀ k ∈ o, k.required = false) :
    s.refreshKeys? = some s.refreshed := by
  simp [refreshKeys?, refreshKey?_eq hkey, mapM_refreshKey?_eq houter, refreshed]

/-- Giving up keys leaves no required one. -/
theorem quiet_refreshed {s : Scanner} (h : s.Quiet) : s.refreshed.Quiet where
  key k hk := h.key k (Option.mem_filter_iff.1 hk).1
  outerKeys o ho k hk := by
    obtain ⟨o', ho', rfl⟩ := List.mem_map.1 ho
    exact h.outerKeys o' ho' k (Option.mem_filter_iff.1 hk).1

/-- A key that is not required can be dropped. -/
theorem dropKey?_of_quiet {s : Scanner} (h : s.Quiet) :
    s.dropKey? = some { s with key := none } := by
  unfold dropKey?
  split
  · rename_i k hkey
    simp [h.key k hkey]
  · rename_i hkey
    rw [← hkey]

/-- A token is taken, and the scanner goes on behind it. -/
theorem tokens?_eq_of_fetch {s next fetched : Scanner} {c : Char} {r : List Char}
    (hnext : s.toNextToken? = some next) (hrest : next.cursor.rest = c :: r)
    (hfetch : next.fetch? c r = some fetched)
    (hshort : fetched.cursor.rest.length < s.cursor.rest.length) : s.tokens? = fetched.tokens? := by
  rw [tokens?, hnext]
  simp only [hrest, hfetch, if_pos hshort]

/-- The scanner behind a gap, before anything is given up or closed. -/
def past (gap : List Char) (s : Scanner) : Scanner :=
  { s with
    cursor := s.cursor.skip gap.length
    keyAllowed := s.keyAllowed || (!s.inFlow && gap.contains '\n') }

/-- Behind a gap, keys are given up and blocks are closed. -/
theorem toNextToken?_gap {s : Scanner} {gap rest : List Char} (hgap : IsGap gap)
    (hrest : s.cursor.rest = gap ++ rest) (hstart : ∀ c ∈ rest.head?, startsToken c = true)
    (hkey : ∀ k ∈ s.key, k.required = false ∨ k.lasts (s.cursor.skip gap.length) = true)
    (houter : ∀ o ∈ s.outerKeys, ∀ k ∈ o, k.required = false) :
    s.toNextToken? =
      some ((s.past gap).refreshed.unrollIndent (s.cursor.skip gap.length).column) := by
  have hbehind := Cursor.rest_skip_of_append hrest
  have hskip : skipTrivia s.inFlow false s.keyAllowed s.cursor s.cursor.rest =
      ((s.past gap).cursor, (s.past gap).keyAllowed) := by
    rw [hrest, skipTrivia_gap hgap _ hrest, skipTrivia_of_startsToken hstart _ _ hbehind]
    rfl
  have hrefresh : (s.past gap).refreshKeys? = some (s.past gap).refreshed :=
    refreshKeys?_eq hkey houter
  rw [toNextToken?, hskip]
  exact (congrArg (Option.map _) hrefresh).trans rfl

/-- What a scanner has read and where it is: the tokens so far, the last one first, the columns of
    the blocks around it, and the number of brackets and braces. -/
structure View where
  reversed : List Token
  indent : Int
  outerIndents : List Int
  depth : Nat

namespace View

/-- Some more tokens are read. -/
def read (ts : List Token) (view : View) : View :=
  { view with reversed := ts.reverse ++ view.reversed }

/-- A bracket or brace is opened. -/
def deeper (view : View) : View :=
  { view with depth := view.depth + 1 }

@[simp] theorem read_read (view : View) (ts us : List Token) :
    (view.read ts).read us = view.read (ts ++ us) := by
  simp [read]

@[simp] theorem depth_read (view : View) (ts : List Token) : (view.read ts).depth = view.depth :=
  rfl

@[simp] theorem indent_read (view : View) (ts : List Token) : (view.read ts).indent = view.indent :=
  rfl

@[simp] theorem depth_deeper (view : View) : view.deeper.depth = view.depth + 1 :=
  rfl

theorem read_deeper (view : View) (ts : List Token) :
    view.deeper.read ts = (view.read ts).deeper :=
  rfl

end View

/-- The view of a scanner. -/
def view (s : Scanner) : View :=
  ⟨s.reversed, s.indent, s.outerIndents, s.outerKeys.length⟩

/-- The scanner is inside brackets if at least one of them is open. -/
theorem inFlow_iff (s : Scanner) : s.inFlow = true ↔ 0 < s.view.depth := by
  cases h : s.outerKeys <;> simp [inFlow, view, h]

theorem inFlow_eq_false_iff (s : Scanner) : s.inFlow = false ↔ s.view.depth = 0 := by
  cases h : s.outerKeys <;> simp [inFlow, view, h]

/-- Inside brackets no block is closed, and outside of them none that does not stand deeper than the
    column. -/
theorem unrollIndent_of_open {s : Scanner} {column : Int}
    (h : 0 < s.view.depth ∨ s.indent ≤ column) : s.unrollIndent column = s := by
  unfold unrollIndent
  split
  · rfl
  · rename_i hflow
    have hle := h.resolve_left (mt (inFlow_iff s).2 hflow)
    cases houter : s.outerIndents with
    | nil => rfl
    | cons outer outers => rw [unrollBlocks, if_neg (by omega)]

@[simp] theorem view_refreshed (s : Scanner) : s.refreshed.view = s.view := by
  simp [view, refreshed]

@[simp] theorem view_past (gap : List Char) (s : Scanner) : (s.past gap).view = s.view :=
  rfl

/-- From the scanner and from the given place, the same place is reached behind the gap, and a line
    end in the gap there has not gone unnoticed. -/
structure Reaches (s : Scanner) (place : Cursor) : Prop where
  past : s.cursor.pastGap = place.pastGap
  line : '\n' ∈ place.gap → s.keyAllowed = true ∨ '\n' ∈ s.cursor.gap

theorem reaches_cursor (s : Scanner) : s.Reaches s.cursor :=
  ⟨rfl, .inr⟩

/-- A gap makes no difference to what is reached. -/
theorem Reaches.behind_gap {s : Scanner} {place : Cursor} (h : s.Reaches place)
    {gap rest : List Char} (hgap : IsGap gap) (hrest : place.rest = gap ++ rest) :
    s.Reaches (place.skip gap.length) where
  past := h.past.trans (Cursor.pastGap_skip hgap hrest).symm
  line hmem := h.line (by rw [Cursor.gap_eq_append hgap hrest]; exact List.mem_append_right gap hmem)

/-- The scanner may have gone over a part of the gap already, if it allows a key behind a line end in
    that part. -/
theorem reaches_of_taken {s : Scanner} {place : Cursor} {taken rest : List Char}
    (htaken : IsGap taken) (hrest : place.rest = taken ++ rest)
    (hcursor : s.cursor = place.skip taken.length) (hline : '\n' ∈ taken → s.keyAllowed = true) :
    s.Reaches place where
  past := by rw [hcursor, Cursor.pastGap_skip htaken hrest]
  line hmem := by
    rw [Cursor.gap_eq_append htaken hrest, ← hcursor] at hmem
    exact (List.mem_append.1 hmem).imp_left hline

/-- In front of a token nothing but a gap is left of the source before it. -/
theorem Reaches.exists_gap {s : Scanner} {place : Cursor} (h : s.Reaches place)
    (hstart : ∀ c ∈ place.rest.head?, startsToken c = true) :
    s.cursor.rest = s.cursor.gap ++ place.rest ∧ s.cursor.skip s.cursor.gap.length = place := by
  have hpast : place.pastGap = place := by
    rw [Cursor.pastGap, Cursor.gap_eq_nil hstart]
    rfl
  have hplace : s.cursor.pastGap = place := h.past.trans hpast
  exact ⟨hplace ▸ s.cursor.rest_eq_gap_append, hplace⟩

/-- The scanner goes on to the next token, gives up keys that do not last until there, and closes the
    blocks that end before it. -/
theorem Reaches.toNextToken?_eq {s : Scanner} {place : Cursor} (h : s.Reaches place)
    (hstart : ∀ c ∈ place.rest.head?, startsToken c = true)
    (hkey : ∀ k ∈ s.key, k.required = false ∨ k.lasts place = true)
    (houter : ∀ o ∈ s.outerKeys, ∀ k ∈ o, k.required = false) :
    s.toNextToken? = some ((s.past s.cursor.gap).refreshed.unrollIndent place.column) ∧
      (s.past s.cursor.gap).cursor = place ∧ place.rest.length ≤ s.cursor.rest.length := by
  obtain ⟨hbefore, hplace⟩ := h.exists_gap hstart
  have hnext := toNextToken?_gap (isGap_takeWhile s.cursor.rest) hbefore hstart
    (by rw [← hplace] at hkey; exact hkey) houter
  refine ⟨?_, hplace, ?_⟩
  · rw [← hplace]
    exact hnext
  · rw [hbefore, List.length_append]
    omega

/-- The scanner goes on to the token at the given place and closes no block before it. A scalar or a
    bracket that stands there could do without being a key. -/
structure Arrives (s next : Scanner) (place : Cursor) : Prop where
  eq : s.toNextToken? = some next
  cursor : next.cursor = place
  view : next.view = s.view
  quiet : next.Quiet
  keyAllowed : s.keyAllowed = true → next.keyAllowed = true
  free : next.keyAllowed = true → next.inFlow = false → next.indent ≠ next.cursor.column
  length_le : place.rest.length ≤ s.cursor.rest.length

/-- A gap before a token that stands in brackets or braces, or deeper than the block around it, is
    nothing but a gap. -/
theorem Quiet.exists_arrives {s : Scanner} (h : s.Quiet) {place : Cursor} (hreach : s.Reaches place)
    {c : Char} {r : List Char} (hrest : place.rest = c :: r) (hc : startsToken c = true)
    (hopen : 0 < s.view.depth ∨ s.indent < place.column) : ∃ next, s.Arrives next place := by
  have hstart : ∀ x ∈ place.rest.head?, startsToken x = true := by
    rw [hrest]
    exact fun _ heq => Option.some.inj heq ▸ hc
  obtain ⟨hnext, hplace, hle⟩ :=
    hreach.toNextToken?_eq hstart (fun k hk => .inl (h.key k hk)) h.outerKeys
  have hquiet : (s.past s.cursor.gap).refreshed.Quiet := quiet_refreshed ⟨h.key, h.outerKeys⟩
  have hview : (s.past s.cursor.gap).refreshed.view = s.view := by simp
  have hopen' : 0 < (s.past s.cursor.gap).refreshed.view.depth ∨
      (s.past s.cursor.gap).refreshed.indent ≤ place.column := by
    rw [hview]
    exact hopen.imp_right Int.le_of_lt
  rw [unrollIndent_of_open hopen'] at hnext
  refine ⟨_, hnext, hplace, hview, hquiet, ?_, ?_, hle⟩
  · intro hallowed
    simp [refreshed, past, hallowed]
  · intro _ hfalse
    rw [inFlow_eq_false_iff, hview] at hfalse
    have hlt := hopen.resolve_left (by omega)
    show s.indent ≠ (s.past s.cursor.gap).cursor.column
    rw [hplace]
    exact Int.ne_of_lt hlt

/-- The scanner reads some more tokens, and then it is in the same blocks and brackets again. -/
structure Reads (s s' : Scanner) (ts : List Token) : Prop where
  tokens : s.tokens? = s'.tokens?
  view : s'.view = s.view.read ts
  quiet : s'.Quiet

/-- Runs of tokens can be put together. -/
theorem Reads.trans {s s' s'' : Scanner} {ts us : List Token} (h : s.Reads s' ts)
    (h' : s'.Reads s'' us) : s.Reads s'' (ts ++ us) where
  tokens := h.tokens.trans h'.tokens
  view := by rw [h'.view, h.view, View.read_read]
  quiet := h'.quiet

/-- Where the scanner arrives at a token and fetches it, the tokens of a source are those behind it.
    -/
theorem Arrives.tokens?_eq {s next fetched : Scanner} {place : Cursor} (h : s.Arrives next place)
    {c : Char} {r : List Char} (hrest : place.rest = c :: r)
    (hfetch : next.fetch? c r = some fetched) (hshort : fetched.cursor.rest.length ≤ r.length) :
    s.tokens? = fetched.tokens? := by
  have hle := h.length_le
  rw [hrest, List.length_cons] at hle
  exact tokens?_eq_of_fetch h.eq (h.cursor ▸ hrest) hfetch (by omega)

end Scanner

end RuleGraph.Yaml
