import RuleGraph.Proofs.Format.Scalars
import RuleGraph.Proofs.Yaml.Sources

namespace RuleGraph.Cson

open RuleGraph.Text

/-- A character that YAML neither refuses nor takes for the end of a line. -/
def isSharedChar (c : Char) : Bool :=
  Yaml.isPlainChar c && !Yaml.isKeptBreak c

/-- The column of a document that is written as an implied object. -/
def impliedColumn? (layout : Layout) (setting : Setting) : Document → Option Nat
  | .object fields => setting.implies? layout.style fields
  | _ => none

/-- Whether YAML takes the text between its quotes: a single quote in it would end the text there. -/
def Style.fits (style : Style) (text : String) : Bool :=
  style.quote = .double || !text.toList.contains '\''

/-- Whether YAML takes the name for a key, which has to be short enough for one line. -/
def keyFits (style : Style) (name : String) : Bool :=
  (style.isBare name || style.fits name) &&
    byteLength (keyText style name ++ spaces style.afterKey) ≤ Yaml.maxKeyLength

/-- Whether a comma follows a child that is not the last one. -/
def separates (form : Form) (style : Style) (last : Bool) : Bool :=
  form = .line || last || style.comma

mutual

/-- Whether YAML takes the text of a document as well: it is nested at most as deep as there is room,
    with commas between what stands in brackets and braces, with no implied object inside of these,
    and with room behind the colons outside and behind those of bare keys. -/
def overlaps (layout : Layout) (setting : Setting) (braced : Bool) (room : Nat) : Document → Bool
  | .null | .bool _ | .int _ => true
  | .float _ => false
  | .string text => layout.style.fits text
  | .array items =>
    match room with
    | 0 => false
    | room + 1 => itemsOverlap layout (setting.bracketForm layout.style.form) room 0 items
  | .object fields =>
    match room with
    | 0 => false
    | room + 1 =>
      match setting.implies? layout.style fields with
      | some column => !braced && fieldsOverlap layout .implied column room 0 fields
      | none =>
        fieldsOverlap layout (setting.bracketForm layout.style.form) layout.style.indent room 0
          fields

/-- Whether YAML takes the texts of the items from number `i` on. -/
def itemsOverlap (layout : Layout) (form : Form) (room i : Nat) : List Document → Bool
  | [] => true
  | d :: rest =>
    overlaps (layout.child i) form.itemSetting true room d &&
      separates form (layout.child i).style rest.isEmpty &&
      itemsOverlap layout form room (i + 1) rest

/-- Whether YAML takes the texts of the entries from number `i` on. -/
def fieldsOverlap (layout : Layout) (form : Form) (column room i : Nat) :
    List (String × Document) → Bool
  | [] => true
  | (name, d) :: rest =>
    let style := (layout.child i).style
    keyFits style name &&
      overlaps (layout.child i) (form.valueSetting column) (form ≠ .implied) room d &&
      (if form = .implied then
        0 < style.afterColon ||
          (impliedColumn? (layout.child i) (form.valueSetting column) d).isSome
      else (!style.isBare name || 0 < style.afterColon) && separates form style rest.isEmpty) &&
      fieldsOverlap layout form column room (i + 1) rest

end

theorem quoted_eq_inQuotes (quote : Quote) (letters : Char → Bool) (text : String) :
    quoted quote letters text = Yaml.inQuotes quote.char (spelledText quote letters text) :=
  rfl

/-- A text without single quotes is spelled without them. -/
theorem quote_not_mem_spelledText {letters : Char → Bool} {text : String}
    (h : '\'' ∉ text.toList) : '\'' ∉ spelledText .single letters text := by
  rw [spelledText, List.mem_flatMap]
  rintro ⟨c, hc, hmem⟩
  have hquote : c ≠ '\'' := by
    rintro rfl
    exact h hc
  obtain ⟨hself, -, -, -⟩ | ⟨x, hself, hchar, -, -⟩ := spelled_cases .single letters c
  · rw [hself, List.mem_singleton] at hmem
    exact hquote hmem.symm
  · rw [hself] at hmem
    simp only [List.mem_cons, List.not_mem_nil, or_false] at hmem
    obtain hback | rfl := hmem
    · contradiction
    · exact hquote hchar.symm

/-- In a source that both formats can hold, the spelling of a text without single quotes stands for
    itself between them. -/
theorem isBodyChar_of_mem_spelledText {letters : Char → Bool} {text : String}
    (hquote : '\'' ∉ text.toList)
    (hshared : ∀ c ∈ spelledText .single letters text, isSharedChar c = true) :
    ∀ c ∈ spelledText .single letters text, Yaml.isBodyChar c = true := by
  intro c hc
  have hchar := hshared c hc
  simp only [isSharedChar, Yaml.isPlainChar, Bool.and_eq_true, decide_eq_true_eq,
    Bool.not_eq_true'] at hchar
  obtain ⟨⟨⟨hallowed, hreturn⟩, hnext⟩, hkept⟩ := hchar
  have hline : c ≠ '\n' := by
    rintro rfl
    exact not_mem_spelled (spelled_cases .single letters) text.toList hc
  have hquote' : c ≠ '\'' := by
    rintro rfl
    exact quote_not_mem_spelledText hquote hc
  have hbreak : Yaml.isBreak c = false := by simp [Yaml.isBreak, hline, hkept]
  exact Yaml.isBodyChar_iff.2 ⟨hallowed, hbreak, hreturn, hnext, hquote'⟩

/-- A text between quotes is a scalar in YAML, with its escapes as they stand between single
    quotes. -/
theorem scalarText_quoted {style : Style} {text : String} (h : style.fits text = true)
    (hshared : ∀ c ∈ quoted style.quote style.letters text, isSharedChar c = true) :
    Yaml.ScalarText (quoted style.quote style.letters text) false (style.written text) := by
  rw [quoted_eq_inQuotes] at hshared ⊢
  have hspelled : ∀ c ∈ spelledText style.quote style.letters text, isSharedChar c = true :=
    fun c hc => hshared c (by simp [Yaml.inQuotes, hc])
  unfold Style.written
  cases hquote : style.quote with
  | single =>
    rw [hquote] at hspelled
    have hfree : '\'' ∉ text.toList := by simpa [Style.fits, hquote] using h
    exact .single (isBodyChar_of_mem_spelledText hfree hspelled)
  | double =>
    rw [hquote] at hspelled
    have hbody : Yaml.DoubleBody (spelledText .double style.letters text) text.toList := by
      refine doubleBody_spelledText fun c hc => ?_
      have hchar := hspelled c hc
      simp only [isSharedChar, Bool.and_eq_true, Bool.not_eq_true'] at hchar
      exact hchar.2
    have hscalar := Yaml.ScalarText.double hbody
    rwa [String.ofList_toList] at hscalar

/-- A key is a scalar in YAML, and a plain one if it stands without quotes. -/
theorem scalarText_keyText {style : Style} {name : String} (h : keyFits style name = true)
    (hshared : ∀ c ∈ keyText style name, isSharedChar c = true) :
    Yaml.ScalarText (keyText style name) (style.isBare name) (style.writtenName name) := by
  rw [keyFits, Bool.and_eq_true, Bool.or_eq_true] at h
  unfold keyText Style.writtenName at *
  cases hbare : style.isBare name with
  | false =>
    rw [hbare] at h hshared
    exact scalarText_quoted (h.1.resolve_left (by simp)) hshared
  | true =>
    rw [Style.isBare, Bool.and_eq_true] at hbare
    cases hname : name.toList with
    | nil => simp [hname] at hbare
    | cons c s =>
      simp only [hname, Bool.and_eq_true, List.all_eq_true] at hbare
      have hvalue : String.ofList (c :: s) = name := by rw [← hname, String.ofList_toList]
      rw [if_pos rfl, if_pos rfl, ← hvalue]
      exact .plain (plainText_word hbare.2.1 hbare.2.2)

theorem mem_of_mem_spaces {n : Nat} : ∀ c ∈ spaces n, c = ' ' :=
  fun _ hc => List.eq_of_mem_replicate hc

theorem isGap_spaces (n : Nat) : Yaml.IsGap (spaces n) :=
  fun c hc => .inl (mem_of_mem_spaces c hc)

/-- A line end and an indentation are nothing to YAML but a gap. -/
theorem isGap_lineStart (n : Nat) : Yaml.IsGap (lineStart n) :=
  Yaml.isGap_lineStart n

theorem isGap_inset (form : Form) (n : Nat) : Yaml.IsGap (form.inset n) := by
  cases form with
  | line => exact isGap_spaces n
  | block => simp [Form.inset, Yaml.IsGap]
  | implied => simp [Form.inset, Yaml.IsGap]

theorem isGap_opening (column : Nat) (form : Form) : Yaml.IsGap (form.opening column) := by
  cases form with
  | line => simp [Form.opening, Yaml.IsGap]
  | block => exact isGap_lineStart column
  | implied => exact isGap_lineStart column

theorem isGap_closing (n : Nat) (form : Form) : Yaml.IsGap (form.closing n) := by
  cases form with
  | line => exact isGap_spaces n
  | block => exact isGap_lineStart n
  | implied => exact isGap_lineStart n

/-- No implied object stands in brackets. -/
theorem Setting.bracketForm_ne_implied (setting : Setting) (form : Form) :
    setting.bracketForm form ≠ .implied := by
  cases setting <;> cases form <;> simp [Setting.bracketForm]

/-- Only a child on a line of its own has a comma of its own. -/
theorem trailing_eq_nil {form : Form} {comma : Bool} (h : ¬(form = .block ∧ comma = true)) :
    form.trailing comma = [] := by
  cases form <;> cases comma <;> simp_all [Form.trailing]

/-- Behind a child and the room there, nothing goes on with the child. -/
theorem endsInFlow_trailing {s : List Char} (hs : Yaml.EndsInFlow s) (n : Nat) (form : Form)
    (comma : Bool) : Yaml.EndsInFlow (spaces n ++ (form.trailing comma ++ s)) := by
  refine (isGap_spaces n).endsInFlow.append (Yaml.EndsInFlow.append ?_ hs)
  by_cases hwritten : form = .block ∧ comma = true
  · obtain ⟨rfl, rfl⟩ := hwritten
    exact Yaml.endsInFlow_cons rfl []
  · rw [trailing_eq_nil hwritten]
    exact Yaml.isGap_nil.endsInFlow

/-- Behind the last child there is a comma at most. -/
theorem exists_scans_last {child : List Char} {ts : List Yaml.Token}
    (hchild : Yaml.Scans true false child ts) (n : Nat) (form : Form) (comma : Bool) :
    ∃ a us, Yaml.Scans true a (child ++ (spaces n ++ (form.trailing comma ++ []))) (ts ++ us) ∧
      (us = [] ∨ us = [.flowEntry]) := by
  have hends := endsInFlow_trailing Yaml.isGap_nil.endsInFlow n form comma
  by_cases hwritten : form = .block ∧ comma = true
  · obtain ⟨rfl, rfl⟩ := hwritten
    have hcomma := (Yaml.isGap_nil.scans true).behind_comma false
    exact ⟨true, _, hchild.append hends (hcomma.behind_gap (isGap_spaces n)), .inr rfl⟩
  · have hgap := (Yaml.isGap_nil.scans false).behind_gap (isGap_spaces n)
    rw [trailing_eq_nil hwritten] at hends ⊢
    exact ⟨false, _, hchild.append hends hgap, .inl rfl⟩

/-- Between two children there is a comma. -/
theorem scans_more {child : List Char} {ts : List Yaml.Token}
    (hchild : Yaml.Scans true false child ts) {form : Form} (hform : form ≠ .implied)
    {style : Style} (hcomma : separates form style false = true) (n column : Nat) {a : Bool}
    {later : List Char} {us : List Yaml.Token} (hlater : Yaml.Scans true a later us) :
    Yaml.Scans true a
      (child ++ (spaces n ++ (form.trailing style.comma ++ (form.between column ++ later))))
      (ts ++ .flowEntry :: us) := by
  have hspaces := (isGap_spaces n).endsInFlow
  cases form with
  | line =>
    exact hchild.append (hspaces.append (Yaml.endsInFlow_cons rfl later))
      ((hlater.behind_comma false).behind_gap (isGap_spaces n))
  | block =>
    have hwritten : style.comma = true := by simpa [separates] using hcomma
    rw [hwritten]
    exact hchild.append (hspaces.append (Yaml.endsInFlow_cons rfl _))
      (((hlater.behind_gap (isGap_lineStart column)).behind_comma false).behind_gap
        (isGap_spaces n))
  | implied => contradiction

end RuleGraph.Cson
