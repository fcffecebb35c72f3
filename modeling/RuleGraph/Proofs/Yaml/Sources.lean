import RuleGraph.Proofs.Yaml.Block
import RuleGraph.Proofs.Yaml.Values

namespace RuleGraph.Yaml

open Scanner

/-- A character that may stand in a source and is not rewritten as another one. -/
def isPlainChar (c : Char) : Bool :=
  isAllowed c && c ≠ '\r' && c ≠ '\u0085'

/-- Without carriage returns the line ends of a source are the same already. -/
theorem unifyBreaks_of_plain {s : List Char} (h : ∀ c ∈ s, isPlainChar c = true) :
    unifyBreaks s = s := by
  induction s with
  | nil => rfl
  | cons c s ih =>
    have hc := h c List.mem_cons_self
    simp only [isPlainChar, Bool.and_eq_true, decide_eq_true_eq] at hc
    obtain ⟨⟨-, hreturn⟩, hnext⟩ := hc
    rw [unifyBreaks, if_neg (by simp [hreturn, hnext]),
      ih fun d hd => h d (List.mem_cons_of_mem c hd)]
    intro r heq
    exact absurd heq hreturn

/-- The scanner at the start of a source. -/
def start (source : List Char) : Scanner :=
  { cursor := ⟨source, 0, 0, 0⟩ }

/-- At the start no key is required. -/
theorem quiet_start (source : List Char) : (start source).Quiet :=
  ⟨by simp [start], by simp [start]⟩

/-- At the end of a source all blocks are closed. -/
theorem Scanner.Quiet.tokens?_of_isGap {s : Scanner} (h : s.Quiet) {place : Cursor}
    (hreach : s.Reaches place) (hgap : IsGap place.rest) :
    s.tokens? = some (s.view.unroll (-1)).reversed.reverse := by
  let last := (s.past s.cursor.gap).refreshed
  let column := (place.skip place.rest.length).column
  have hbehind : (place.skip place.rest.length).rest = [] := by
    rw [Cursor.rest_skip, List.drop_length]
  have hend := hreach.behind_gap hgap (List.append_nil _).symm
  obtain ⟨hnext, hcursor, -⟩ := hend.toNextToken?_eq (by simp)
    (fun k hk => .inl (h.key k hk)) h.outerKeys
  have hquiet : ((last.unrollIndent column).unrollIndent (-1)).Quiet :=
    quiet_unrollIndent _ (quiet_unrollIndent _ (quiet_refreshed ⟨h.key, h.outerKeys⟩))
  have hview : ((last.unrollIndent column).unrollIndent (-1)).view = s.view.unroll (-1) := by
    rw [view_unrollIndent, view_unrollIndent, View.unroll_unroll (by omega), view_refreshed,
      view_past]
  have hrest : (last.unrollIndent column).cursor.rest = [] := by
    obtain ⟨reversed, count, indent, outerIndents, heq⟩ := exists_unrollIndent_eq column last
    rw [heq]
    show (s.past s.cursor.gap).cursor.rest = []
    rw [hcursor, hbehind]
  change s.toNextToken? = some (last.unrollIndent column) at hnext
  rw [tokens?, hnext]
  simp only [hrest]
  rw [finish?, dropKey?_of_quiet hquiet, ← hview]
  rfl

/-- The tokens of a source are those that the scanner reads from its start. -/
theorem tokensOf?_eq {source : List Char} (h : ∀ c ∈ source, isPlainChar c = true) :
    tokensOf? source = (start source).tokens? := by
  have hallowed : source.all isAllowed = true := by
    refine List.all_eq_true.2 fun c hc => ?_
    have hplain := h c hc
    simp only [isPlainChar, Bool.and_eq_true] at hplain
    exact hplain.1.1
  rw [tokensOf?, if_pos hallowed, unifyBreaks_of_plain h]
  rfl

theorem startsBare_cons {t : Token} (h : opensNode t = true) (ts : List Token) :
    startsBare (t :: ts) = true := by
  cases t <;> simp_all [opensNode, startsBare]

/-- A source of which the tokens make a document has that document. -/
theorem parse?_of_makes {source : List Char} {ts : List Token} {d : Document}
    (htokens : tokensOf? source = some ts) (hmakes : Makes .item maxDepth ts d) :
    parse? (String.ofList source) = some d := by
  obtain ⟨⟨t, r, hcons, hopens⟩, node, hnode, numbered, hnumbers, hdocument⟩ := hmakes
  have hbare : startsBare ts = true := hcons ▸ startsBare_cons hopens r
  have hfound := hnode []
  rw [List.append_nil] at hfound
  have hsingle : singleDocument? ts = some (some node) := by
    have hdoc : documentNode? ts = some (node, []) := by
      rw [documentNode?, if_pos hbare]
      exact hfound
    rw [singleDocument?, hdoc, hcons]
    rfl
  rw [parse?, String.toList_ofList, htokens, Option.bind_some, hsingle]
  simp only [hnumbers]
  rw [hdocument]
  rfl

/-- A value with gaps around it is a source. -/
theorem parse?_value {gap text gap' : List Char} {ts : List Token} {d : Document}
    (hgap : IsGap gap) (hgap' : IsGap gap')
    (hplain : ∀ c ∈ gap ++ (text ++ gap'), isPlainChar c = true) (htext : ScansValue text ts)
    (hmakes : Makes .item maxDepth ts d) :
    parse? (String.ofList (gap ++ (text ++ gap'))) = some d := by
  refine parse?_of_makes ?_ hmakes
  let first := start (gap ++ (text ++ gap'))
  have hbehind : (first.cursor.skip gap.length).rest = text ++ gap' :=
    Cursor.rest_skip_of_append rfl
  obtain ⟨c, r, hcons, hc⟩ := htext.starts
  have hstart : (first.cursor.skip gap.length).rest = c :: (r ++ gap') := by
    rw [hbehind, hcons]
    rfl
  obtain ⟨next, harrives⟩ := (quiet_start _).exists_arrives
    ((reaches_cursor first).behind_gap hgap rfl) hstart hc
    (.inr (by simp only [first, start]; omega))
  have hends : EndsValue first.view.context gap' :=
    ⟨gap', [], hgap', (List.append_nil gap').symm, .source gap'⟩
  obtain ⟨last, hreads, hreach⟩ := htext.scans harrives hends hbehind
  have hrest := Cursor.rest_skip_of_append hbehind
  have hend := hreads.quiet.tokens?_of_isGap hreach (hrest ▸ hgap')
  have hstays : last.view.unroll (-1) = last.view := by
    refine View.unroll_of_le ?_
    rw [hreads.view]
    exact Int.le_refl (-1)
  rw [tokensOf?_eq hplain, hreads.tokens, hend, hstays, hreads.view]
  simp [View.read, Scanner.view, start]

/-- The fields of a block, with spaces in front of the first one, are a source. -/
theorem parse?_fields {gap text gap' : List Char} {ts : List Token} {d : Document}
    (hgap : ∀ c ∈ gap, c = ' ') (hgap' : IsGap gap')
    (hplain : ∀ c ∈ gap ++ (text ++ gap'), isPlainChar c = true)
    (htext : ScansFields gap.length text ts)
    (hmakes : Makes .item maxDepth (.blockMappingStart :: (ts ++ [.blockEnd])) d) :
    parse? (String.ofList (gap ++ (text ++ gap'))) = some d := by
  refine parse?_of_makes ?_ hmakes
  let first := start (gap ++ (text ++ gap'))
  have hspaces : IsGap gap := fun c hc => .inl (hgap c hc)
  have hline : ∀ c ∈ gap, isBreak c = false := fun c hc => by
    rw [hgap c hc]
    rfl
  have hcolumn : (first.cursor.skip gap.length).column = gap.length := by
    rw [Cursor.skip_within_line hline rfl]
    exact Nat.zero_add _
  have hbehind : (first.cursor.skip gap.length).rest = text ++ gap' :=
    Cursor.rest_skip_of_append rfl
  have hopen : first.view.indent < gap.length := by
    show (-1 : Int) < _
    omega
  have hstays : first.view.unroll gap.length = first.view := View.unroll_of_le (Int.le_of_lt hopen)
  obtain ⟨last, htokens, hquiet, hreach, hview⟩ := htext.scans (quiet_start _) rfl (.inl rfl)
    ((reaches_cursor first).behind_gap hspaces rfl) hcolumn
    (by rw [hstays]; exact Int.le_of_lt hopen) (.source hgap') hbehind
  rw [hstays, View.atField, if_pos ⟨rfl, hopen⟩] at hview
  -- The scanner starts in column -1, so the end of the source closes the block of these fields.
  have hclosed := View.unroll_enter (show first.view.depth = 0 from rfl) hopen ts
  rw [← hview, View.unroll_unroll (Int.le_of_lt hopen)] at hclosed
  have hend := hquiet.tokens?_of_isGap hreach (Cursor.rest_skip_of_append hbehind ▸ hgap')
  rw [tokensOf?_eq hplain, htokens, hend]
  refine congrArg some ?_
  rw [show (-1 : Int) = first.view.indent from rfl, hclosed]
  simp [View.read, Scanner.view, first, start]

end RuleGraph.Yaml
