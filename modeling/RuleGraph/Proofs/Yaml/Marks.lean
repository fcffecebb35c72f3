import RuleGraph.Proofs.Yaml.Plain
import RuleGraph.Proofs.Yaml.Quoted

namespace RuleGraph.Yaml

open RuleGraph.Text

/-- A text between two quotes. -/
def inQuotes (quote : Char) (body : List Char) : List Char :=
  quote :: (body ++ [quote])

theorem length_inQuotes (quote : Char) (body : List Char) :
    (inQuotes quote body).length = body.length + 2 := by
  simp [inQuotes]

theorem inQuotes_append (quote : Char) (body rest : List Char) :
    inQuotes quote body ++ rest = quote :: (body ++ quote :: rest) := by
  simp [inQuotes]

/-- The text is a scalar in front of what ends it. It may be a plain one. -/
inductive ScalarText : List Char → Bool → String → Prop where
  | single {body : List Char} (h : ∀ c ∈ body, isBodyChar c = true) :
      ScalarText (inQuotes '\'' body) false (String.ofList body)
  | double {body text : List Char} (h : DoubleBody body text) :
      ScalarText (inQuotes '"' body) false (String.ofList text)
  | plain {text : List Char} (h : PlainText text) : ScalarText text true (String.ofList text)

/-- A scalar starts with a character that starts a token. -/
theorem ScalarText.starts {text : List Char} {plain : Bool} {value : String}
    (h : ScalarText text plain value) : ∃ c r, text = c :: r ∧ startsToken c = true := by
  cases h with
  | single => exact ⟨_, _, rfl, rfl⟩
  | double => exact ⟨_, _, rfl, rfl⟩
  | plain h => exact h.startsToken

/-- A scalar of one of these kinds stands on one line. -/
theorem ScalarText.isBreak_of_mem {text : List Char} {plain : Bool} {value : String}
    (h : ScalarText text plain value) : ∀ c ∈ text, isBreak c = false := by
  have hquoted : ∀ {quote : Char} {body : List Char}, isBreak quote = false →
      (∀ c ∈ body, isBreak c = false) → ∀ c ∈ inQuotes quote body, isBreak c = false := by
    intro quote body hquote hbody c hc
    simp only [inQuotes, List.mem_cons, List.mem_append, List.not_mem_nil, or_false] at hc
    obtain rfl | hc | rfl := hc
    · exact hquote
    · exact hbody c hc
    · exact hquote
  cases h with
  | single h => exact hquoted rfl fun c hc => (isBodyChar_iff.1 (h c hc)).2.1
  | double h => exact hquoted rfl h.isBreak_of_mem
  | plain h => exact fun c hc => (isPlainBody_iff.1 (h.body c hc)).2.1

/-- A value ends in front of this text. -/
def EndsValue (context : PlainContext) (rest : List Char) : Prop :=
  ∃ gap tail, IsGap gap ∧ rest = gap ++ tail ∧ EndsPlain context gap tail

/-- A scalar ends in front of this text. Only a plain one goes on where no value ends. -/
def EndsScalar (context : PlainContext) (plain : Bool) (rest : List Char) : Prop :=
  NoQuote rest ∧ (plain = true → EndsValue context rest)

/-- What ends a value ends each kind of scalar. -/
theorem EndsValue.endsScalar {context : PlainContext} {rest : List Char}
    (h : EndsValue context rest) (plain : Bool) : EndsScalar context plain rest := by
  refine ⟨?_, fun _ => h⟩
  obtain ⟨gap, tail, hgap, rfl, hends⟩ := h
  exact hends.noQuote hgap

/-- A key ends in front of its colon, a plain one only if a blank follows the colon. -/
theorem endsScalar_key {context : PlainContext} {plain : Bool} {pad r : List Char}
    (hpad : ∀ c ∈ pad, c = ' ') (hspace : plain = true → atSpace r = true) :
    EndsScalar context plain (pad ++ ':' :: r) := by
  have hgap : IsGap pad := fun c hc => .inl (hpad c hc)
  exact ⟨hgap.noQuote.append (by simp [NoQuote]),
    fun hplain => ⟨pad, _, hgap, rfl, .colon (hspace hplain) pad⟩⟩

namespace Scanner

theorem fetch?_openBracket (s : Scanner) (r : List Char) :
    s.fetch? '[' r = s.fetchFlowStart? .flowSequenceStart := by
  simp [fetch?, atDocumentStart, atDocumentEnd]

theorem fetch?_openBrace (s : Scanner) (r : List Char) :
    s.fetch? '\x7b' r = s.fetchFlowStart? .flowMappingStart := by
  simp [fetch?, atDocumentStart, atDocumentEnd]

theorem fetch?_closeBracket (s : Scanner) (r : List Char) :
    s.fetch? ']' r = s.fetchFlowEnd? .flowSequenceEnd := by
  simp [fetch?, atDocumentStart, atDocumentEnd]

theorem fetch?_closeBrace (s : Scanner) (r : List Char) :
    s.fetch? '\x7d' r = s.fetchFlowEnd? .flowMappingEnd := by
  simp [fetch?, atDocumentStart, atDocumentEnd]

theorem fetch?_comma (s : Scanner) (r : List Char) : s.fetch? ',' r = s.fetchFlowEntry? := by
  simp [fetch?, atDocumentStart, atDocumentEnd]

theorem fetch?_quote (s : Scanner) (r : List Char) :
    s.fetch? '\'' r = s.fetchQuoted? (singleQuoted? r) := by
  simp [fetch?, atDocumentStart, atDocumentEnd]

/-- Inside brackets a colon is always one, elsewhere if a blank follows. -/
theorem fetch?_colon {s : Scanner} {r : List Char} (h : s.inFlow = true ∨ atSpace r = true) :
    s.fetch? ':' r = s.fetchValue? := by
  simp [fetch?, atDocumentStart, atDocumentEnd, h]

/-- Where plain scalars end inside the blocks and brackets of a view. -/
def View.context (view : View) : PlainContext :=
  ⟨0 < view.depth, view.indent + 1⟩

/-- A plain scalar ends by the brackets and blocks that the scanner is in. -/
theorem context_view (s : Scanner) : s.view.context = ⟨s.inFlow, s.indent + 1⟩ := by
  cases h : s.outerKeys <;> simp [View.context, view, inFlow, h]

theorem fetch?_doubleQuote (s : Scanner) (r : List Char) :
    s.fetch? '"' r = s.fetchQuoted? (doubleQuoted? r) := by
  simp [fetch?, atDocumentStart, atDocumentEnd]

/-- Nothing but a plain scalar starts like one. -/
theorem fetch?_plain {text rest r : List Char} {c : Char} (h : PlainText text)
    (hcons : text ++ rest = c :: r) (s : Scanner) : s.fetch? c r = s.fetchPlain? := by
  obtain ⟨sign, d, t, rfl, hsign, hindicator, hdot, -⟩ := h.starts
  obtain ⟨hblank, hbreak, hcolon, -⟩ := isPlainBody_iff.1 (h.body d (by simp))
  have hne : ∀ x, isIndicator x = true → d ≠ x := by
    rintro x hx rfl
    rw [hindicator] at hx
    contradiction
  have hdash := hne '-' rfl
  obtain rfl | rfl := hsign
  · obtain ⟨rfl, rfl⟩ := List.cons.inj hcons
    have hstart : atDocumentStart (d :: (t ++ rest)) = false := by
      unfold atDocumentStart
      split <;> simp_all
    have hend : atDocumentEnd (d :: (t ++ rest)) = false := by
      unfold atDocumentEnd
      split <;> simp_all
    simp [fetch?, hstart, hend, hdash, hcolon, startsPlain, hblank, hbreak, hindicator,
      hne '%' rfl, hne '[' rfl, hne '\x7b' rfl, hne ']' rfl, hne '\x7d' rfl, hne ',' rfl,
      hne '?' rfl, hne '*' rfl, hne '&' rfl, hne '!' rfl, hne '|' rfl, hne '>' rfl,
      hne '\'' rfl, hne '"' rfl]
  · obtain ⟨rfl, rfl⟩ := List.cons.inj hcons
    have hspace : atSpace (d :: (t ++ rest)) = false := by simp [atSpace, hblank, hbreak]
    have hstart : atDocumentStart ('-' :: d :: (t ++ rest)) = false := by
      unfold atDocumentStart
      split <;> simp_all
    simp [fetch?, hstart, hspace, atDocumentEnd, startsPlain, hblank]

/-- The key that may start where the scanner stands. -/
def ownKey (s : Scanner) : PossibleKey :=
  ⟨!s.inFlow && s.indent = s.cursor.column, s.count, s.cursor.line, s.cursor.column,
    s.cursor.offset⟩

/-- Where a key is allowed, the place of the next token is kept as the place of one. -/
theorem saveKey?_of_allowed {s : Scanner} (h : s.Quiet) (hallowed : s.keyAllowed = true) :
    s.saveKey? = some { s with key := some s.ownKey } := by
  simp [saveKey?, hallowed, dropKey?_of_quiet h, ownKey]

/-- What starts here may turn out to be a key later. -/
theorem exists_saveKey? {s : Scanner} (h : s.Quiet)
    (hfree : s.keyAllowed = true → s.inFlow = false → s.indent ≠ s.cursor.column) :
    ∃ key, s.saveKey? = some { s with key := key } ∧ ∀ k ∈ key, k.required = false := by
  by_cases hallowed : s.keyAllowed = true
  · refine ⟨some s.ownKey, saveKey?_of_allowed h hallowed, ?_⟩
    intro k hk
    obtain rfl := Option.some.inj hk
    cases hflow : s.inFlow with
    | true => simp [ownKey, hflow]
    | false => simp [ownKey, hfree hallowed hflow]
  · exact ⟨s.key, by rw [saveKey?, if_neg hallowed], h.key⟩

/-- A bracket or brace opens. -/
theorem Arrives.exists_opened {s next : Scanner} {place : Cursor} (h : s.Arrives next place)
    {c : Char} {r : List Char} {token : Token} (hrest : place.rest = c :: r)
    (hfetch : next.fetch? c r = next.fetchFlowStart? token) :
    ∃ s' : Scanner, s.tokens? = s'.tokens? ∧ s'.view = (s.view.read [token]).deeper ∧ s'.Quiet ∧
      s'.keyAllowed = true ∧ s'.cursor = place.skip 1 := by
  obtain ⟨key, hsave, hkey⟩ := exists_saveKey? h.quiet h.free
  have hfetched : next.fetch? c r = some (({ next with
      key := none
      outerKeys := key :: next.outerKeys
      keyAllowed := true }.skip 1).emit token) := by
    rw [hfetch, fetchFlowStart?, hsave]
    rfl
  have hbehind : (next.cursor.skip 1).rest = r := by simp [h.cursor, hrest]
  have hview := h.view
  refine ⟨_, h.tokens?_eq hrest hfetched (Nat.le_of_eq (congrArg List.length hbehind)), ?_, ?_, rfl,
    congrArg (·.skip 1) h.cursor⟩
  · rw [← hview]
    rfl
  · refine ⟨by simp [emit, skip], ?_⟩
    intro o ho k hk
    obtain rfl | ho := List.mem_cons.1 ho
    · exact hkey k hk
    · exact h.quiet.outerKeys o ho k hk

/-- A bracket or brace closes, and the scanner is again where it was before the opening one. -/
theorem Arrives.exists_closed {s next : Scanner} {place : Cursor} (h : s.Arrives next place)
    {c : Char} {r : List Char} {token : Token} {outside : View} (hrest : place.rest = c :: r)
    (hfetch : next.fetch? c r = next.fetchFlowEnd? token) (hinside : s.view = outside.deeper) :
    ∃ s' : Scanner, s.tokens? = s'.tokens? ∧ s'.view = outside.read [token] ∧ s'.Quiet ∧
      s'.cursor = place.skip 1 := by
  have hview := h.view.trans hinside
  cases houter : next.outerKeys with
  | nil =>
    have hdepth := congrArg View.depth hview
    simp [Scanner.view, houter] at hdepth
  | cons key outerKeys =>
    have hfetched : next.fetch? c r = some (({ next with
        key := key, outerKeys := outerKeys, keyAllowed := false }.skip 1).emit token) := by
      rw [hfetch, fetchFlowEnd?, dropKey?_of_quiet h.quiet]
      simp [houter]
    have hbehind : (next.cursor.skip 1).rest = r := by simp [h.cursor, hrest]
    refine ⟨_, h.tokens?_eq hrest hfetched (Nat.le_of_eq (congrArg List.length hbehind)), ?_, ?_,
      congrArg (·.skip 1) h.cursor⟩
    · simp only [Scanner.view, houter, List.length_cons, View.deeper, View.mk.injEq] at hview
      obtain ⟨hreversed, hindent, houters, hdepth⟩ := hview
      simp [Scanner.view, emit, skip, View.read, hreversed, hindent, houters, Nat.succ.inj hdepth]
    · have hmem : ∀ o, o = key ∨ o ∈ outerKeys → ∀ k ∈ o, k.required = false := by
        intro o ho
        apply h.quiet.outerKeys
        rw [houter]
        exact List.mem_cons.2 ho
      exact ⟨hmem key (.inl rfl), fun o ho => hmem o (.inr ho)⟩

/-- Behind a comma a key may start. -/
theorem Arrives.exists_comma {s next : Scanner} {place : Cursor} (h : s.Arrives next place)
    {r : List Char} (hrest : place.rest = ',' :: r) :
    ∃ s', s.Reads s' [.flowEntry] ∧ s'.keyAllowed = true ∧ s'.cursor = place.skip 1 := by
  have hfetched : next.fetch? ',' r =
      some (({ next with key := none, keyAllowed := true }.skip 1).emit .flowEntry) := by
    rw [fetch?_comma, fetchFlowEntry?, dropKey?_of_quiet h.quiet]
    rfl
  have hbehind : (next.cursor.skip 1).rest = r := by simp [h.cursor, hrest]
  refine ⟨_, ⟨h.tokens?_eq hrest hfetched (Nat.le_of_eq (congrArg List.length hbehind)), ?_, ?_⟩,
    rfl, congrArg (·.skip 1) h.cursor⟩
  · rw [← h.view]
    rfl
  · exact ⟨by simp [emit, skip], h.quiet.outerKeys⟩

/-- The scanner behind a scalar and a part of the gap there, with the possible key that was saved in
    front of it. -/
def behindScalar (s : Scanner) (key : Option PossibleKey) (text taken : List Char) (token : Token) :
    Scanner :=
  ({ s with key := key, keyAllowed := taken.contains '\n' }.skip (text ++ taken).length).emit token

/-- Behind a scalar stands what was not taken with it. -/
theorem rest_behindScalar {s : Scanner} {text taken left : List Char}
    (hrest : s.cursor.rest = text ++ (taken ++ left)) (key : Option PossibleKey) (token : Token) :
    (s.behindScalar key text taken token).cursor.rest = left := by
  rw [← List.append_assoc] at hrest
  exact Cursor.rest_skip_of_append hrest

/-- Behind a scalar the rest is shorter. -/
theorem length_rest_behindScalar_lt {s : Scanner} {text taken left : List Char} {plain : Bool}
    {value : String} (htext : ScalarText text plain value)
    (hrest : s.cursor.rest = text ++ (taken ++ left)) (key : Option PossibleKey) (token : Token) :
    (s.behindScalar key text taken token).cursor.rest.length < s.cursor.rest.length := by
  obtain ⟨c, r, rfl, -⟩ := htext.starts
  rw [rest_behindScalar hrest, hrest]
  simp only [List.length_append, List.length_cons]
  omega

/-- Behind a scalar the scanner has reached the place behind its text, whether or not the gap there
    was taken along. -/
theorem reaches_behindScalar {s : Scanner} {text taken left : List Char} (htaken : IsGap taken)
    (hrest : s.cursor.rest = text ++ (taken ++ left)) (key : Option PossibleKey) (token : Token) :
    (s.behindScalar key text taken token).Reaches (s.cursor.skip text.length) := by
  refine reaches_of_taken htaken (Cursor.rest_skip_of_append hrest) ?_ ?_
  · show s.cursor.skip (text ++ taken).length = _
    rw [List.length_append, Cursor.skip_add]
  · intro hmem
    exact List.contains_iff_mem.2 hmem

/-- In front of what ends it a scalar is taken, and a plain one takes the gap behind it. -/
theorem exists_fetched {next : Scanner} {text rest : List Char} {plain : Bool} {value : String}
    (h : ScalarText text plain value) (hends : EndsScalar next.view.context plain rest)
    (hrest : next.cursor.rest = text ++ rest) :
    ∃ taken left c r, IsGap taken ∧ rest = taken ++ left ∧ text ++ rest = c :: r ∧
      ∀ key, next.saveKey? = some { next with key := key } →
        next.fetch? c r = some (next.behindScalar key text taken (.scalar plain value)) := by
  cases h with
  | @single body hbody =>
    refine ⟨[], rest, _, _, isGap_nil, rfl, inQuotes_append _ _ _, fun key hsave => ?_⟩
    rw [fetch?_quote, singleQuoted?_body hbody hends.1, fetchQuoted?, hsave, behindScalar,
      List.append_nil, length_inQuotes]
    rfl
  | @double body text hbody =>
    refine ⟨[], rest, _, _, isGap_nil, rfl, inQuotes_append _ _ _, fun key hsave => ?_⟩
    rw [fetch?_doubleQuote, hbody.doubleQuoted?_eq, fetchQuoted?, hsave, behindScalar,
      List.append_nil, length_inQuotes]
    rfl
  | plain h =>
    obtain ⟨gap, tail, hgap, rfl, hstops⟩ := hends.2 rfl
    obtain ⟨c, r, hcons⟩ := List.exists_cons_of_ne_nil (show text ++ (gap ++ tail) ≠ [] by
      obtain ⟨d, t, rfl, -⟩ := h.startsToken
      simp)
    refine ⟨gap, tail, c, r, hgap, rfl, hcons, fun key hsave => ?_⟩
    have hscalar := plainScalar?_eq h.body hgap hstops next.cursor.column
    rw [← hrest, context_view] at hscalar
    rw [fetch?_plain h hcons, fetchPlain?, hsave, Option.bind_eq_bind, Option.bind_some,
      Option.bind_eq_bind]
    exact congrArg (Option.bind · _) hscalar

/-- A scalar is one token. -/
theorem Arrives.exists_scalar {s next : Scanner} {place : Cursor} (h : s.Arrives next place)
    {text rest : List Char} {plain : Bool} {value : String} (htext : ScalarText text plain value)
    (hends : EndsScalar s.view.context plain rest) (hrest : place.rest = text ++ rest) :
    ∃ s', s.Reads s' [.scalar plain value] ∧ s'.Reaches (place.skip text.length) := by
  have hplace := h.cursor
  subst hplace
  rw [← h.view] at hends
  obtain ⟨key, hsave, hkey⟩ := exists_saveKey? h.quiet h.free
  obtain ⟨taken, left, c, r, htaken, rfl, hcons, hfetch⟩ := exists_fetched htext hends hrest
  have hshorter := length_rest_behindScalar_lt htext hrest key (.scalar plain value)
  refine ⟨_, ⟨tokens?_eq_of_fetch h.eq (hrest.trans hcons) (hfetch key hsave)
    (Nat.lt_of_lt_of_le hshorter h.length_le), ?_, hkey, h.quiet.outerKeys⟩,
    reaches_behindScalar htaken hrest key _⟩
  rw [← h.view]
  rfl

/-- The scanner stands at the colon behind a key that started where the first scanner stands. -/
structure AtColon (next colon : Scanner) (text : List Char) (token : Token) : Prop where
  cursor : colon.cursor = next.cursor.skip text.length
  key : ∃ k : PossibleKey, colon.key = some k ∧ k.index = next.count ∧ k.column = next.cursor.column
  count : colon.count = next.count + 1
  view : colon.view = next.view.read [token]
  outerKeys : ∀ o ∈ colon.outerKeys, ∀ k ∈ o, k.required = false

section PossibleKey

variable {s next : Scanner} {text pad r : List Char} {plain : Bool} {value : String}

/-- A key stands on one line. -/
theorem isBreak_of_mem_key (htext : ScalarText text plain value) (hpad : ∀ c ∈ pad, c = ' ') :
    ∀ c ∈ text ++ pad, isBreak c = false := by
  intro c hc
  obtain hc | hc := List.mem_append.1 hc
  · exact htext.isBreak_of_mem c hc
  · rw [hpad c hc]
    rfl

/-- The key and the pad end no line, so the place of the colon is known. -/
theorem skip_key (htext : ScalarText text plain value) (hpad : ∀ c ∈ pad, c = ' ')
    {cursor : Cursor} (hrest : cursor.rest = text ++ (pad ++ r)) :
    cursor.skip (text ++ pad).length = ⟨r, cursor.line, cursor.column + (text ++ pad).length,
      cursor.offset + byteLength (text ++ pad)⟩ :=
  Cursor.skip_within_line (isBreak_of_mem_key htext hpad) (by rw [hrest, List.append_assoc])

/-- From behind a possible key the scanner goes on to the colon and does not give the key up, if it
    is short enough. -/
theorem exists_atColon {taken left : List Char} (hquiet : next.Quiet)
    (htext : ScalarText text plain value) (hpad : ∀ c ∈ pad, c = ' ')
    (hshort : byteLength (text ++ pad) ≤ maxKeyLength)
    (hopen : 0 < next.view.depth ∨ next.indent ≤ next.cursor.column)
    (hrest : next.cursor.rest = text ++ (pad ++ ':' :: r)) (htaken : IsGap taken)
    (hsplit : pad ++ ':' :: r = taken ++ left) (token : Token) :
    ∃ colon, (next.behindScalar (some next.ownKey) text taken token).toNextToken? = some colon ∧
      colon.cursor.rest.length ≤
        (next.behindScalar (some next.ownKey) text taken token).cursor.rest.length ∧
      next.AtColon colon (text ++ pad) token := by
  have hplace := skip_key htext hpad hrest
  have hreach := reaches_behindScalar htaken (hsplit ▸ hrest) (some next.ownKey) token
  have hcolon := hreach.behind_gap (fun x hx => .inl (hpad x hx)) (Cursor.rest_skip_of_append hrest)
  rw [← Cursor.skip_add, ← List.length_append] at hcolon
  have hstarts : ∀ x ∈ (next.cursor.skip (text ++ pad).length).rest.head?,
      startsToken x = true := by
    rw [hplace]
    exact fun _ heq => Option.some.inj heq ▸ rfl
  -- The key is neither on an earlier line nor too far back, so it is not given up at the colon.
  have hlasts : next.ownKey.lasts (next.cursor.skip (text ++ pad).length) = true := by
    rw [PossibleKey.lasts_iff, hplace]
    exact ⟨Nat.le_refl _, Nat.add_le_add_left hshort _⟩
  generalize hscalar : next.behindScalar (some next.ownKey) text taken token = scalar at hcolon ⊢
  have hkey : scalar.key = some next.ownKey := hscalar ▸ rfl
  have houter : ∀ o ∈ scalar.outerKeys, ∀ k ∈ o, k.required = false := hscalar ▸ hquiet.outerKeys
  obtain ⟨hfound, hcursor, hshorter⟩ := hcolon.toNextToken?_eq hstarts
    (fun k hk => .inr (Option.some.inj (hkey.symm.trans hk) ▸ hlasts)) houter
  have hview : (scalar.past scalar.cursor.gap).refreshed.view = next.view.read [token] := by
    rw [view_refreshed, view_past, ← hscalar]
    rfl
  -- The colon stands deeper than the key, so no block is closed between them.
  have hdeeper : 0 < (scalar.past scalar.cursor.gap).refreshed.view.depth ∨
      (scalar.past scalar.cursor.gap).refreshed.indent ≤
        (next.cursor.skip (text ++ pad).length).column := by
    show _ ∨ (scalar.past scalar.cursor.gap).refreshed.view.indent ≤ _
    rw [hview, hplace]
    exact hopen.imp_right fun hle => Int.le_trans hle (Int.ofNat_le.2 (Nat.le_add_right _ _))
  rw [unrollIndent_of_open hdeeper] at hfound
  refine ⟨_, hfound, ?_, ⟨hcursor, ⟨next.ownKey, ?_, rfl, rfl⟩, hscalar ▸ rfl, hview, ?_⟩⟩
  · show (scalar.past scalar.cursor.gap).cursor.rest.length ≤ _
    rw [hcursor]
    exact hshorter
  · show scalar.key.filter (·.lasts (scalar.past scalar.cursor.gap).cursor) = some next.ownKey
    rw [hkey, hcursor, Option.filter, hlasts]
    rfl
  · intro o ho k hk
    obtain ⟨o', ho', rfl⟩ := List.mem_map.1 ho
    exact houter o' ho' k (Option.mem_filter_iff.1 hk).1

/-- A scalar where a key may start is a possible key, and still is one at its colon. -/
theorem exists_possibleKey (hnext : s.toNextToken? = some next)
    (hle : next.cursor.rest.length ≤ s.cursor.rest.length) (hquiet : next.Quiet)
    (hallowed : next.keyAllowed = true) (htext : ScalarText text plain value)
    (hpad : ∀ c ∈ pad, c = ' ') (hshort : byteLength (text ++ pad) ≤ maxKeyLength)
    (hspace : plain = true → atSpace r = true)
    (hopen : 0 < next.view.depth ∨ next.indent ≤ next.cursor.column)
    (hrest : next.cursor.rest = text ++ (pad ++ ':' :: r)) :
    ∃ scalar colon : Scanner, s.tokens? = scalar.tokens? ∧ scalar.toNextToken? = some colon ∧
      colon.cursor.rest.length ≤ scalar.cursor.rest.length ∧
      next.AtColon colon (text ++ pad) (.scalar plain value) := by
  obtain ⟨taken, left, c, t, htaken, hsplit, hcons, hfetch⟩ :=
    exists_fetched htext (endsScalar_key hpad hspace) hrest
  have hstart := saveKey?_of_allowed hquiet hallowed
  have hshorter := length_rest_behindScalar_lt htext (hsplit ▸ hrest) (some next.ownKey)
    (.scalar plain value)
  obtain ⟨colon, hcolon⟩ := exists_atColon hquiet htext hpad hshort hopen hrest htaken hsplit
    (.scalar plain value)
  exact ⟨_, colon, tokens?_eq_of_fetch hnext (hrest.trans hcons) (hfetch _ hstart)
    (Nat.lt_of_lt_of_le hshorter hle), hcolon⟩

end PossibleKey

/-- A block of fields opens in the given column. -/
def View.enter (column : Nat) (view : View) : View :=
  { view with
    reversed := .blockMappingStart :: view.reversed
    indent := column
    outerIndents := view.indent :: view.outerIndents }

/-- The view in which a field starts in the given column: outside of brackets and braces a block
    opens for it, unless it goes on with one. -/
def View.atField (column : Nat) (view : View) : View :=
  if view.depth = 0 ∧ view.indent < column then view.enter column else view

/-- A key that stands deeper than the blocks around it opens one, in front of the tokens of the key.
    -/
theorem fetchValue?_of_opens {s : Scanner} {key : PossibleKey} (hkey : s.key = some key)
    (h : (!s.inFlow && s.indent < key.column : Bool) = true) :
    s.fetchValue? = some (({ (s.insertAt key.index [.blockMappingStart, .key]).openBlock key.column
      with key := none, keyAllowed := false }.skip 1).emit .value) := by
  simp only [fetchValue?, hkey, h, ↓reduceIte]

/-- A key in the column of its block is only marked as one. -/
theorem fetchValue?_of_not_opens {s : Scanner} {key : PossibleKey} (hkey : s.key = some key)
    (h : (!s.inFlow && s.indent < key.column : Bool) = false) :
    s.fetchValue? = some (({ s.insertAt key.index [.key]
      with key := none, keyAllowed := false }.skip 1).emit .value) := by
  simp only [fetchValue?, hkey, h, Bool.false_eq_true, ↓reduceIte]

/-- The colon turns the possible key into one. -/
theorem AtColon.exists_fetched {next colon : Scanner} {text r : List Char} {token : Token}
    (h : next.AtColon colon text token) (hvalue : colon.inFlow = true ∨ atSpace r = true) :
    ∃ s', colon.fetch? ':' r = some s' ∧
      s'.view = (next.view.atField next.cursor.column).read [.key, token, .value] ∧
      s'.Quiet ∧ s'.keyAllowed = false ∧ s'.cursor = next.cursor.skip (text.length + 1) := by
  obtain ⟨k, hkey, hindex, hcolumn⟩ := h.key
  obtain ⟨hreversed, hindent, houter, hdepth⟩ := View.mk.inj h.view
  have hlater : colon.count - k.index = 1 := by
    rw [h.count, hindex]
    omega
  have hcursor : colon.cursor.skip 1 = next.cursor.skip (text.length + 1) := by
    rw [h.cursor, Cursor.skip_add]
  have hopens : (!colon.inFlow && colon.indent < k.column : Bool) = true ↔
      next.view.depth = 0 ∧ next.view.indent < next.cursor.column := by
    rw [Bool.and_eq_true, Bool.not_eq_true', inFlow_eq_false_iff, h.view, decide_eq_true_iff,
      hindent, hcolumn]
    rfl
  rw [fetch?_colon hvalue]
  -- A key outside of brackets that stands deeper than its block opens one of its own.
  by_cases hopen : next.view.depth = 0 ∧ next.view.indent < next.cursor.column
  · refine ⟨_, fetchValue?_of_opens hkey (hopens.2 hopen), ?_, ⟨by simp [emit, skip], h.outerKeys⟩,
      rfl, hcursor⟩
    rw [View.atField, if_pos hopen]
    simp [Scanner.view, View.enter, View.read, emit, skip, openBlock, insertAt, hlater, hreversed,
      hindent, houter, hdepth, hcolumn]
  · have hstays := Bool.not_eq_true _ ▸ mt hopens.1 hopen
    refine ⟨_, fetchValue?_of_not_opens hkey hstays, ?_, ⟨by simp [emit, skip], h.outerKeys⟩,
      rfl, hcursor⟩
    rw [View.atField, if_neg hopen]
    simp [Scanner.view, View.read, emit, skip, insertAt, hlater, hreversed,
      hindent, houter, hdepth]

/-- A key with its colon, where a key may start: inside brackets and braces, or in the column of the
    block around it or a deeper one with a blank behind the colon. Behind a plain key a blank follows
    the colon everywhere. -/
theorem exists_key {s next : Scanner} (hnext : s.toNextToken? = some next)
    (hle : next.cursor.rest.length ≤ s.cursor.rest.length) (hquiet : next.Quiet)
    (hallowed : next.keyAllowed = true) {text pad r : List Char} {plain : Bool} {value : String}
    (htext : ScalarText text plain value) (hpad : ∀ c ∈ pad, c = ' ')
    (hshort : byteLength (text ++ pad) ≤ maxKeyLength) (hspace : plain = true → atSpace r = true)
    (hopen : 0 < next.view.depth ∨ next.indent ≤ next.cursor.column ∧ atSpace r = true)
    (hrest : next.cursor.rest = text ++ (pad ++ ':' :: r)) :
    ∃ s' : Scanner, s.tokens? = s'.tokens? ∧
      s'.view = (next.view.atField next.cursor.column).read
        [.key, .scalar plain value, .value] ∧
      s'.Quiet ∧ s'.keyAllowed = false ∧
      s'.cursor = next.cursor.skip ((text ++ pad).length + 1) ∧ s'.cursor.rest = r ∧
      s'.cursor.column = next.cursor.column + (text ++ pad).length + 1 := by
  obtain ⟨scalar, colon, htokens, hcolon, hshorter, hat⟩ := exists_possibleKey hnext hle hquiet
    hallowed htext hpad hshort hspace (hopen.imp_right And.left) hrest
  have hplace : colon.cursor = ⟨':' :: r, next.cursor.line,
      next.cursor.column + (text ++ pad).length, next.cursor.offset + byteLength (text ++ pad)⟩ := by
    rw [hat.cursor, skip_key htext hpad hrest]
  have hstart : colon.cursor.rest = ':' :: r := by rw [hplace]
  have hvalue : colon.inFlow = true ∨ atSpace r = true := by
    rw [inFlow_iff, hat.view, View.depth_read]
    exact hopen.imp_right And.right
  obtain ⟨s', hfetched, hview, hquiet', hkey, hcursor⟩ := hat.exists_fetched hvalue
  have hbehind : s'.cursor = colon.cursor.behind ':' r := by
    rw [hcursor, Cursor.skip_add, ← hat.cursor]
    simp [Cursor.skip, Cursor.next, hstart, isBreak, isKeptBreak]
  refine ⟨s', htokens.trans (tokens?_eq_of_fetch hcolon hstart hfetched ?_), hview, hquiet', hkey,
    hcursor, ?_, ?_⟩
  · rw [hstart, List.length_cons] at hshorter
    rw [hbehind]
    exact hshorter
  · rw [hbehind]
    rfl
  · rw [hbehind, hplace]
    rfl

end Scanner

section Field

variable {key pad gap value rest : List Char}

/-- The parts of a field with what follows it. -/
theorem field_append : key ++ pad ++ ':' :: (gap ++ value) ++ rest =
    key ++ (pad ++ ':' :: (gap ++ (value ++ rest))) := by
  simp

/-- Going over the parts of a field leads behind the field. -/
theorem skip_field (place : Cursor) :
    ((place.skip ((key ++ pad).length + 1)).skip gap.length).skip value.length =
      place.skip (key ++ pad ++ ':' :: (gap ++ value)).length := by
  rw [← Cursor.skip_add, ← Cursor.skip_add]
  congr 1
  simp only [List.length_append, List.length_cons]
  omega

end Field

end RuleGraph.Yaml
