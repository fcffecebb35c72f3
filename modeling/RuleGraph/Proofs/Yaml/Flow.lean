import RuleGraph.Proofs.Yaml.Marks

namespace RuleGraph.Yaml

open Scanner

/-- Inside brackets and braces a value ends in front of this text: at its end or at a sign. -/
def EndsInFlow (rest : List Char) : Prop :=
  ∃ gap tail, IsGap gap ∧ rest = gap ++ tail ∧ ∀ c ∈ tail.head?, endsInFlow c = true

/-- Put together, such texts end values as well. -/
theorem EndsInFlow.append {s t : List Char} (hs : EndsInFlow s) (ht : EndsInFlow t) :
    EndsInFlow (s ++ t) := by
  obtain ⟨gap, tail, hgap, rfl, hend⟩ := hs
  cases tail with
  | nil =>
    obtain ⟨gap', tail', hgap', rfl, hend'⟩ := ht
    exact ⟨gap ++ gap', tail', hgap.append hgap', by simp, hend'⟩
  | cons c tail => exact ⟨gap, c :: (tail ++ t), hgap, by simp, hend⟩

/-- A gap up to the end of the text ends a value. -/
theorem IsGap.endsInFlow {gap : List Char} (h : IsGap gap) : EndsInFlow gap :=
  ⟨gap, [], h, (List.append_nil gap).symm, by simp⟩

theorem endsInFlow_cons {c : Char} (hc : endsInFlow c = true) (s : List Char) :
    EndsInFlow (c :: s) :=
  ⟨[], c :: s, isGap_nil, rfl, fun _ heq => Option.some.inj heq ▸ hc⟩

/-- Inside brackets such a text ends every value. -/
theorem EndsInFlow.endsValue {rest : List Char} (h : EndsInFlow rest) {context : PlainContext}
    (hflow : context.flow = true) : EndsValue context rest := by
  obtain ⟨gap, tail, hgap, rfl, hend⟩ := h
  refine ⟨gap, tail, hgap, rfl, ?_⟩
  cases tail with
  | nil => exact .source gap
  | cons c r => exact .sign hflow (hend c rfl) gap r

/-- Wherever the scanner arrives at the text without closing a block, and a value ends behind the
    text, it reads these tokens and comes to the end of the text. -/
structure ScansValue (text : List Char) (ts : List Token) : Prop where
  starts : ∃ c r, text = c :: r ∧ startsToken c = true
  scans {s next : Scanner} {place : Cursor} {rest : List Char} : s.Arrives next place →
    EndsValue s.view.context rest → place.rest = text ++ rest →
    ∃ s', s.Reads s' ts ∧ s'.Reaches (place.skip text.length)

/-- Inside brackets and braces the scanner reads these tokens from the text, if a key may start
    there where the text needs it. Behind the text a key may start if the text gives that. -/
def Scans (needs gives : Bool) (text : List Char) (ts : List Token) : Prop :=
  ∀ ⦃s : Scanner⦄ ⦃place : Cursor⦄ ⦃rest : List Char⦄, s.Quiet → 0 < s.view.depth →
    (needs = true → s.keyAllowed = true) → s.Reaches place → EndsInFlow rest →
    place.rest = text ++ rest →
    ∃ s', s.Reads s' ts ∧ (gives = true → s'.keyAllowed = true) ∧
      s'.Reaches (place.skip text.length)

theorem Scanner.Reads.depth {s s' : Scanner} {ts : List Token} (h : s.Reads s' ts) :
    s'.view.depth = s.view.depth := by
  rw [h.view, Scanner.View.depth_read]

/-- Texts that are scanned inside brackets can be put together where the second one lets the first
    one end. -/
theorem Scans.append {a b c : Bool} {s t : List Char} {ss ts : List Token} (hs : Scans a b s ss)
    (hends : EndsInFlow t) (ht : Scans b c t ts) : Scans a c (s ++ t) (ss ++ ts) := by
  intro _ place rest hquiet hdepth hneeds hreach hrest hat
  rw [List.append_assoc] at hat
  obtain ⟨middle, hreads, hgives, hbehind⟩ :=
    hs hquiet hdepth hneeds hreach (hends.append hrest) hat
  obtain ⟨last, hreads', hgives', hend⟩ := ht hreads.quiet (hreads.depth ▸ hdepth) hgives hbehind
    hrest (Cursor.rest_skip_of_append hat)
  rw [← Cursor.skip_add, ← List.length_append] at hend
  exact ⟨last, hreads.trans hreads', hgives', hend⟩

/-- A gap makes no tokens. -/
theorem IsGap.scans {text : List Char} (h : IsGap text) (a : Bool) : Scans a a text [] :=
  fun s _ _ hquiet _ hneeds hreach _ hat => ⟨s, ⟨rfl, rfl, hquiet⟩, hneeds, hreach.behind_gap h hat⟩

/-- A gap in front makes no tokens. -/
theorem Scans.behind_gap {a b : Bool} {gap text : List Char} {ts : List Token}
    (h : Scans a b text ts) (hgap : IsGap gap) : Scans a b (gap ++ text) ts := by
  intro s place rest hquiet hdepth hneeds hreach hends hat
  rw [List.append_assoc] at hat
  have hbehind := h hquiet hdepth hneeds (hreach.behind_gap hgap hat) hends
    (Cursor.rest_skip_of_append hat)
  rwa [← Cursor.skip_add, ← List.length_append] at hbehind

/-- Gaps on both sides make no tokens. -/
theorem Scans.between_gaps {a b : Bool} {lead text last : List Char} {ts : List Token}
    (h : Scans a b text ts) (hlead : IsGap lead) (hlast : IsGap last) :
    Scans a b (lead ++ text ++ last) ts := by
  have hall := (h.behind_gap hlead).append hlast.endsInFlow (hlast.scans b)
  rwa [List.append_nil] at hall

/-- Behind a comma a key may start. -/
theorem Scans.behind_comma {b : Bool} {text : List Char} {ts : List Token}
    (h : Scans true b text ts) (a : Bool) : Scans a b (',' :: text) (.flowEntry :: ts) := by
  intro s place rest hquiet hdepth _ hreach hends hat
  obtain ⟨next, harrives⟩ := hquiet.exists_arrives hreach hat rfl (.inl hdepth)
  obtain ⟨middle, hreads, hallowed, hcursor⟩ := harrives.exists_comma hat
  have hrest : (place.skip 1).rest = text ++ rest := by simp [hat]
  have hreach' : middle.Reaches (place.skip 1) := hcursor ▸ reaches_cursor middle
  obtain ⟨last, hreads', hgives, hend⟩ := h hreads.quiet (hreads.depth ▸ hdepth)
    (fun _ => hallowed) hreach' hends hrest
  rw [← Cursor.skip_add, Nat.add_comm] at hend
  exact ⟨last, hreads.trans hreads', hgives, hend⟩

/-- A value can stand everywhere inside brackets and braces. -/
theorem ScansValue.toScans {text : List Char} {ts : List Token} (h : ScansValue text ts)
    (a : Bool) : Scans a false text ts := by
  intro s place rest hquiet hdepth _ hreach hends hat
  obtain ⟨c, r, rfl, hc⟩ := h.starts
  obtain ⟨next, harrives⟩ := hquiet.exists_arrives hreach hat hc (.inl hdepth)
  have hflow : s.view.context.flow = true := decide_eq_true hdepth
  obtain ⟨s', hreads, hend⟩ := h.scans harrives (hends.endsValue hflow) hat
  exact ⟨s', hreads, by simp, hend⟩

/-- A scalar is scanned as one token. -/
theorem scansValue_scalar {text : List Char} {plain : Bool} {value : String}
    (h : ScalarText text plain value) : ScansValue text [.scalar plain value] where
  starts := h.starts
  scans harrives hends hat := harrives.exists_scalar h (hends.endsScalar plain) hat

/-- Brackets or braces around a text that leaves the scanner in them are a value. -/
theorem scansValue_enclosed {opening closing : Char} {opened closed : Token}
    (hopening : startsToken opening = true) (hclosing : endsInFlow closing = true)
    (hopen : ∀ (s : Scanner) r, s.fetch? opening r = s.fetchFlowStart? opened)
    (hclose : ∀ (s : Scanner) r, s.fetch? closing r = s.fetchFlowEnd? closed)
    {text : List Char} {ts : List Token} {a : Bool} (htext : Scans true a text ts) :
    ScansValue (opening :: (text ++ [closing])) (opened :: (ts ++ [closed])) where
  starts := ⟨opening, _, rfl, hopening⟩
  scans := by
    intro s next place rest harrives _ hat
    rw [List.cons_append, List.append_assoc] at hat
    obtain ⟨inside, htokens, hview, hquiet, hallowed, hcursor⟩ :=
      harrives.exists_opened hat (hopen next _)
    have hdepth : 0 < inside.view.depth := by
      rw [hview, Scanner.View.depth_deeper]
      omega
    have hinside : (place.skip 1).rest = text ++ (closing :: rest) := by simp [hat]
    have hreach : inside.Reaches (place.skip 1) := hcursor ▸ reaches_cursor inside
    obtain ⟨last, hreads, -, hreach'⟩ := htext hquiet hdepth (fun _ => hallowed) hreach
      (endsInFlow_cons hclosing rest) hinside
    have hbehind := Cursor.rest_skip_of_append hinside
    obtain ⟨next', harrives'⟩ := hreads.quiet.exists_arrives hreach' hbehind
      (startsToken_of_endsInFlow hclosing) (.inl (hreads.depth ▸ hdepth))
    have hlast : last.view = ((s.view.read [opened]).read ts).deeper := by
      rw [hreads.view, hview, Scanner.View.read_deeper]
    obtain ⟨s', htokens', hview', hquiet', hcursor'⟩ :=
      harrives'.exists_closed hbehind (hclose next' _) hlast
    refine ⟨s', ⟨htokens.trans (hreads.tokens.trans htokens'), ?_, hquiet'⟩, ?_⟩
    · rw [hview', Scanner.View.read_read, Scanner.View.read_read]
      rfl
    · have hlength : (opening :: (text ++ [closing])).length = 1 + text.length + 1 := by
        simp [Nat.add_comm]
      rw [hlength, Cursor.skip_add, Cursor.skip_add, ← hcursor']
      exact reaches_cursor s'

/-- Brackets around a text that is scanned make a sequence of it. -/
theorem scansValue_brackets {text : List Char} {ts : List Token} {a : Bool}
    (h : Scans true a text ts) :
    ScansValue ('[' :: (text ++ [']'])) (.flowSequenceStart :: (ts ++ [.flowSequenceEnd])) :=
  scansValue_enclosed rfl rfl Scanner.fetch?_openBracket Scanner.fetch?_closeBracket h

/-- Braces around a text that is scanned make a mapping of it. -/
theorem scansValue_braces {text : List Char} {ts : List Token} {a : Bool}
    (h : Scans true a text ts) :
    ScansValue ('\x7b' :: (text ++ ['\x7d'])) (.flowMappingStart :: (ts ++ [.flowMappingEnd])) :=
  scansValue_enclosed rfl rfl Scanner.fetch?_openBrace Scanner.fetch?_closeBrace h

/-- A key, its colon and its value. A blank follows the colon of a plain key. -/
theorem scans_field {key pad gap value : List Char} {plain : Bool} {name : String}
    {ts : List Token} (hkey : ScalarText key plain name) (hpad : ∀ c ∈ pad, c = ' ')
    (hshort : Text.byteLength (key ++ pad) ≤ maxKeyLength) (hgap : IsGap gap)
    (hspace : plain = true → gap ≠ []) (hvalue : ScansValue value ts) :
    Scans true false (key ++ pad ++ ':' :: (gap ++ value))
      (.key :: .scalar plain name :: .value :: ts) := by
  intro s place rest hquiet hdepth hallowed hreach hends hat
  rw [field_append] at hat
  obtain ⟨c, r, hcons, hc⟩ := hkey.starts
  have hstart : place.rest = c :: (r ++ (pad ++ ':' :: (gap ++ (value ++ rest)))) := by
    rw [hat, hcons]
    rfl
  obtain ⟨next, harrives⟩ := hquiet.exists_arrives hreach hstart hc (.inl hdepth)
  have hplace := harrives.cursor
  subst hplace
  rw [← harrives.view] at hdepth
  obtain ⟨keyed, htokens, hview, hquiet', -, hcursor, hrest, -⟩ := exists_key harrives.eq
    harrives.length_le harrives.quiet (harrives.keyAllowed (hallowed rfl)) hkey hpad hshort
    (fun hplain => atSpace_of_isGap hgap (hspace hplain) _) (.inl hdepth) hat
  -- Inside brackets and braces a key opens no block.
  have hsame : next.view.atField next.cursor.column = s.view := by
    rw [View.atField, if_neg (by omega), harrives.view]
  rw [hsame] at hview
  have hreads : s.Reads keyed [.key, .scalar plain name, .value] := ⟨htokens, hview, hquiet'⟩
  rw [harrives.view, ← hreads.depth] at hdepth
  obtain ⟨last, hlast, hgives, hend⟩ := ((hvalue.toScans false).behind_gap hgap) hquiet' hdepth
    (by simp) (reaches_cursor keyed) hends (by rw [hrest, List.append_assoc])
  rw [List.length_append, Cursor.skip_add, hcursor, skip_field] at hend
  exact ⟨last, hreads.trans hlast, hgives, hend⟩

end RuleGraph.Yaml
