import RuleGraph.Proofs.Cson.Layout.RoundTrip

namespace RuleGraph.Cson

/-- What is written for a text between quotes. -/
def spelledText (quote : Quote) (letters : Char → Bool) (text : String) : List Char :=
  text.toList.flatMap (spelled quote letters)

/-- A text as it stands between single quotes. Between double quotes its escapes are resolved. -/
def Style.written (style : Style) (text : String) : String :=
  match style.quote with
  | .single => String.ofList (spelledText .single style.letters text)
  | .double => text

/-- A name as it is written, which is the name itself if it stands without quotes. -/
def Style.writtenName (style : Style) (name : String) : String :=
  if style.isBare name then name else style.written name

mutual

/-- The document with its names and texts as they are written between single quotes. -/
def asWritten (layout : Layout) : Document → Document
  | .string text => .string (layout.style.written text)
  | .array items => .array (itemsAsWritten layout 0 items)
  | .object fields => .ofFields (fieldsAsWritten layout 0 fields)
  | d => d

/-- The items from number `i` on as they are written. -/
def itemsAsWritten (layout : Layout) (i : Nat) : List Document → List Document
  | [] => []
  | d :: rest => asWritten (layout.child i) d :: itemsAsWritten layout (i + 1) rest

/-- The entries from number `i` on as they are written. -/
def fieldsAsWritten (layout : Layout) (i : Nat) :
    List (String × Document) → List (String × Document)
  | [] => []
  | (name, d) :: rest =>
    ((layout.child i).style.writtenName name, asWritten (layout.child i) d) ::
      fieldsAsWritten layout (i + 1) rest

end

/-- What is written for a text between quotes of the given kind. -/
def Style.between (style : Style) (quote : Quote) (text : String) : List Char :=
  if style.quote = quote then spelledText quote style.letters text else []

/-- What is written for a name between quotes of the given kind. -/
def Style.nameBetween (style : Style) (quote : Quote) (name : String) : List Char :=
  if style.isBare name then [] else style.between quote name

mutual

/-- All that is written between quotes of the given kind. -/
def betweenQuotes (quote : Quote) (layout : Layout) : Document → List Char
  | .string text => layout.style.between quote text
  | .array items => itemsBetween quote layout 0 items
  | .object fields => fieldsBetween quote layout 0 fields
  | _ => []

/-- What is written between quotes in the items from number `i` on. -/
def itemsBetween (quote : Quote) (layout : Layout) (i : Nat) : List Document → List Char
  | [] => []
  | d :: rest =>
    betweenQuotes quote (layout.child i) d ++ itemsBetween quote layout (i + 1) rest

/-- What is written between quotes in the entries from number `i` on. -/
def fieldsBetween (quote : Quote) (layout : Layout) (i : Nat) :
    List (String × Document) → List Char
  | [] => []
  | (name, d) :: rest =>
    (layout.child i).style.nameBetween quote name ++ betweenQuotes quote (layout.child i) d ++
      fieldsBetween quote layout (i + 1) rest

end

theorem length_spelled_pos (quote : Quote) (letters : Char → Bool) (c : Char) :
    0 < (spelled quote letters c).length := by
  obtain ⟨hself, -⟩ | ⟨x, hself, -⟩ := spelled_cases quote letters c <;> simp [hself]

theorem length_le_flatMap_spelled (quote : Quote) (letters : Char → Bool) (s : List Char) :
    s.length ≤ (s.flatMap (spelled quote letters)).length := by
  induction s with
  | nil => simp
  | cons c s ih =>
    have hpos := length_spelled_pos quote letters c
    rw [List.flatMap_cons, List.length_append, List.length_cons]
    omega

/-- What is written for a text is the text itself if there is no backslash in it, and longer
    otherwise. -/
theorem flatMap_spelled_eq_self_iff (quote : Quote) (letters : Char → Bool) (s : List Char) :
    s.flatMap (spelled quote letters) = s ↔ '\\' ∉ s.flatMap (spelled quote letters) := by
  induction s with
  | nil => simp
  | cons c s ih =>
    rw [List.flatMap_cons]
    obtain ⟨hself, hback, -⟩ | ⟨x, hself, -⟩ := spelled_cases quote letters c
    · rw [hself]
      simp [ih, Ne.symm hback]
    · rw [hself]
      have hle := length_le_flatMap_spelled quote letters s
      refine ⟨fun heq => ?_, fun hnot => absurd (by simp) hnot⟩
      have hlength := congrArg List.length heq
      simp only [List.length_append, List.length_cons, List.length_nil] at hlength
      omega

/-- A spelled text is the text itself exactly if no backslash is written. -/
theorem spelledText_eq_self_iff (quote : Quote) (letters : Char → Bool) (text : String) :
    String.ofList (spelledText quote letters text) = text ↔
      '\\' ∉ spelledText quote letters text := by
  rw [spelledText, ← flatMap_spelled_eq_self_iff]
  refine ⟨fun heq => ?_, fun heq => ?_⟩
  · have hlist := congrArg String.toList heq
    rwa [String.toList_ofList] at hlist
  · rw [heq, String.ofList_toList]

/-- A text is written as it is exactly if no backslash is written for it between single quotes. -/
theorem Style.written_eq_self_iff (style : Style) (text : String) :
    style.written text = text ↔ '\\' ∉ style.between .single text := by
  cases hquote : style.quote with
  | single =>
    simp only [Style.written, Style.between, hquote, if_true]
    exact spelledText_eq_self_iff _ _ _
  | double => simp [Style.written, Style.between, hquote]

/-- A name is written as it is exactly if single quotes hold no backslash of it. -/
theorem Style.writtenName_eq_self_iff (style : Style) (name : String) :
    style.writtenName name = name ↔ '\\' ∉ style.nameBetween .single name := by
  unfold Style.writtenName Style.nameBetween
  cases style.isBare name with
  | true => simp
  | false => exact style.written_eq_self_iff name

theorem length_fieldsAsWritten (layout : Layout) (fields : List (String × Document)) (i : Nat) :
    (fieldsAsWritten layout i fields).length = fields.length := by
  induction fields generalizing i with
  | nil => rfl
  | cons field fields ih => rw [fieldsAsWritten, List.length_cons, List.length_cons, ih]

/-- A document is written as it is exactly if there is no backslash between its single quotes. -/
def WrittenAsIs (d : Document) : Prop :=
  ∀ layout, asWritten layout d = d ↔ '\\' ∉ betweenQuotes .single layout d

/-- An array is written as it is exactly if all of its items are. -/
theorem itemsAsWritten_eq_self_iff {items : List Document} (h : ∀ d ∈ items, WrittenAsIs d)
    (layout : Layout) (i : Nat) :
    itemsAsWritten layout i items = items ↔ '\\' ∉ itemsBetween .single layout i items := by
  induction items generalizing i with
  | nil => simp [itemsAsWritten, itemsBetween]
  | cons d items ih =>
    have hfirst := h d List.mem_cons_self (layout.child i)
    have hrest := ih (fun x hx => h x (List.mem_cons_of_mem d hx)) (i + 1)
    simp [itemsAsWritten, itemsBetween, hfirst, hrest]

/-- Fields are written as they are exactly if their names and values are. -/
theorem fieldsAsWritten_eq_self_iff {fields : List (String × Document)}
    (h : ∀ f ∈ fields, WrittenAsIs f.2) (layout : Layout) (i : Nat) :
    fieldsAsWritten layout i fields = fields ↔ '\\' ∉ fieldsBetween .single layout i fields := by
  induction fields generalizing i with
  | nil => simp [fieldsAsWritten, fieldsBetween]
  | cons field fields ih =>
    obtain ⟨name, d⟩ := field
    have hfirst := h (name, d) List.mem_cons_self (layout.child i)
    have hrest := ih (fun f hf => h f (List.mem_cons_of_mem _ hf)) (i + 1)
    have hname := (layout.child i).style.writtenName_eq_self_iff name
    simp [fieldsAsWritten, fieldsBetween, hfirst, hrest, hname, and_assoc]

/-- Entries that are set one after the other are kept as they are, or fewer of them are left. -/
theorem ofFields_eq_object_iff {entries fields : List (String × Document)}
    (hlength : entries.length = fields.length) (hnames : (entryNames fields).Nodup) :
    Document.ofFields entries = .object fields ↔ entries = fields := by
  refine ⟨fun heq => ?_, ?_⟩
  · have hset : setEntries [] entries = fields := Document.object.inj heq
    have hkept : setEntries [] entries = [] ++ entries :=
      setEntries_of_length (by rw [hset, hlength, List.length_nil, Nat.zero_add])
    exact hkept.symm.trans hset
  · rintro rfl
    exact ofFields_of_nodup hnames

/-- A reader that takes the text between single quotes as it stands finds the document that was
    printed only where nothing had to be escaped between them. -/
theorem Plain.writtenAsIs {d : Document} (h : Plain d) : WrittenAsIs d := by
  induction h with
  | null => intro layout; simp [asWritten, betweenQuotes]
  | bool value => intro layout; simp [asWritten, betweenQuotes]
  | int hn => intro layout; simp [asWritten, betweenQuotes]
  | string text =>
    intro layout
    rw [asWritten, betweenQuotes, Document.string.injEq]
    exact layout.style.written_eq_self_iff text
  | array _ ih =>
    intro layout
    rw [asWritten, betweenQuotes, Document.array.injEq]
    exact itemsAsWritten_eq_self_iff ih layout 0
  | @object fields hnames _ ih =>
    intro layout
    rw [asWritten, betweenQuotes, ofFields_eq_object_iff (length_fieldsAsWritten layout fields 0) hnames]
    exact fieldsAsWritten_eq_self_iff ih layout 0

theorem not_mem_spaces (n : Nat) : '\\' ∉ spaces n := by
  simp [spaces]

/-- No backslash stands around what is printed for texts and names. -/
theorem Form.not_mem (form : Form) (n : Nat) (comma : Bool) :
    '\\' ∉ form.opening n ∧ '\\' ∉ form.between n ∧ '\\' ∉ form.closing n ∧
      '\\' ∉ form.trailing comma ∧ '\\' ∉ form.inset n := by
  cases form <;> cases comma <;>
    simp [opening, between, closing, trailing, inset, lineStart, spaces]

/-- Backslashes are written between quotes only. -/
def EscapedInQuotes (d : Document) : Prop :=
  ∀ layout setting, '\\' ∈ valueText layout setting d ↔
    ∃ quote, '\\' ∈ betweenQuotes quote layout d

theorem mem_quoted_iff (style : Style) (text : String) :
    '\\' ∈ quoted style.quote style.letters text ↔ ∃ quote, '\\' ∈ style.between quote text := by
  have hquote : '\\' ≠ style.quote.char := by cases style.quote <;> decide
  simp [quoted, Style.between, spelledText, hquote]

theorem mem_keyText_iff (style : Style) (name : String) :
    '\\' ∈ keyText style name ↔ ∃ quote, '\\' ∈ style.nameBetween quote name := by
  unfold keyText Style.nameBetween
  cases hbare : style.isBare name with
  | false => exact mem_quoted_iff style name
  | true =>
    have hword : '\\' ∉ name.toList := by
      rw [Style.isBare, Bool.and_eq_true] at hbare
      cases hname : name.toList with
      | nil => simp
      | cons c s =>
        simp only [hname, Bool.and_eq_true, List.all_eq_true] at hbare
        intro hmem
        obtain heq | hmem := List.mem_cons.1 hmem
        · exact absurd hbare.2.1 (heq ▸ by decide)
        · exact absurd (hbare.2.2 _ hmem) (by decide)
    simp [hword]

/-- Backslashes of an array are those of its items, since brackets and blanks have none. -/
theorem mem_itemsText_iff {items : List Document} (h : ∀ d ∈ items, EscapedInQuotes d)
    (layout : Layout) (form : Form) {lead : List Char} (hlead : '\\' ∉ lead) (i : Nat) :
    '\\' ∈ itemsText layout form lead i items ↔
      ∃ quote, '\\' ∈ itemsBetween quote layout i items := by
  induction items generalizing lead i with
  | nil => simp [itemsText, itemsBetween]
  | cons d items ih =>
    have hfirst := h d List.mem_cons_self (layout.child i) form.itemSetting
    have hrest := ih (fun x hx => h x (List.mem_cons_of_mem d hx))
      (form.not_mem 0 false).2.1 (i + 1)
    have hcomma := (form.not_mem 0 (layout.child i).style.comma).2.2.2.1
    simp [itemsText, itemsBetween, hfirst, hrest, hlead, hcomma, not_mem_spaces, exists_or]

/-- Backslashes of an object are those of its names and values. -/
theorem mem_fieldsText_iff {fields : List (String × Document)}
    (h : ∀ f ∈ fields, EscapedInQuotes f.2) (layout : Layout) (form : Form) (column : Nat)
    {lead : List Char} (hlead : '\\' ∉ lead) (i : Nat) :
    '\\' ∈ fieldsText layout form column lead i fields ↔
      ∃ quote, '\\' ∈ fieldsBetween quote layout i fields := by
  induction fields generalizing lead i with
  | nil => simp [fieldsText, fieldsBetween]
  | cons field fields ih =>
    obtain ⟨name, d⟩ := field
    have hfirst := h (name, d) List.mem_cons_self (layout.child i) (form.valueSetting column)
    have hrest := ih (fun f hf => h f (List.mem_cons_of_mem _ hf))
      (form.not_mem column false).2.1 (i + 1)
    have hname := mem_keyText_iff (layout.child i).style name
    have hcomma := (form.not_mem 0 (layout.child i).style.comma).2.2.2.1
    have hinset := (form.not_mem (layout.child i).style.before false).2.2.2.2
    simp [fieldsText, fieldsBetween, entryText, hfirst, hrest, hname, hlead, hcomma, hinset,
      not_mem_spaces, exists_or]

theorem not_mem_intText (n : Int) : '\\' ∉ intText n := by
  have hdigits : '\\' ∉ decimalDigits n.natAbs := fun hmem =>
    absurd (isDigit_of_mem_decimalDigits hmem) (by decide)
  rw [intText]
  split
  · simp [hdigits]
  · exact hdigits

/-- Backslashes are written between quotes only, whatever the layout. -/
theorem Plain.escapedInQuotes {d : Document} (h : Plain d) : EscapedInQuotes d := by
  induction h with
  | null => intro layout setting; simp [valueText, betweenQuotes]
  | bool value => intro layout setting; cases value <;> simp [valueText, betweenQuotes]
  | int hn => intro layout setting; simp [valueText, betweenQuotes, not_mem_intText]
  | string text =>
    intro layout setting
    rw [valueText]
    exact mem_quoted_iff layout.style text
  | array _ ih =>
    intro layout setting
    let form := setting.bracketForm layout.style.form
    have hitems := mem_itemsText_iff ih layout form (form.not_mem 0 false).1 0
    have hclosing := (form.not_mem layout.style.closing false).2.2.1
    rw [valueText]
    simp [form, hclosing, betweenQuotes, hitems]
  | @object fields hnames _ ih =>
    intro layout setting
    have hfields := mem_fieldsText_iff ih layout
    rw [valueText]
    cases himplies : setting.implies? layout.style fields with
    | some column =>
      refine hfields .implied column ?_ 0
      cases setting <;> simp [Setting.beforeImplied, lineStart, spaces]
    | none =>
      let form := setting.bracketForm layout.style.form
      have hclosing := (form.not_mem layout.style.closing false).2.2.1
      simp [form, hclosing, betweenQuotes,
        hfields form layout.style.indent (form.not_mem layout.style.indent false).1 0]

end RuleGraph.Cson
