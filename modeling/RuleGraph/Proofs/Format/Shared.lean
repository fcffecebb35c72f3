import RuleGraph.Proofs.Format.Overlap

namespace RuleGraph.Cson

open RuleGraph.Text

variable {source : List Char}

/-- YAML reads the text of a value as the document. -/
def SharesValue (room : Nat) (text : List Char) (d : Document) : Prop :=
  ∃ ts, Yaml.ScansValue text ts ∧ ∀ context, Yaml.Makes context room ts d

/-- YAML reads the entries of an implied object in the given column as the document. -/
def SharesBlock (room column : Nat) (text : List Char) (d : Document) : Prop :=
  ∃ ts, Yaml.ScansFields column text ts ∧ ∀ context, context.block = true →
    Yaml.Makes context room (.blockMappingStart :: (ts ++ [.blockEnd])) d

/-- However the document is laid out in the source, YAML reads it as it is written if it takes the
    layout. -/
def Shares (source : List Char) (d : Document) : Prop :=
  ∀ layout setting braced room, overlaps layout setting braced room d = true →
    (∀ c ∈ valueText layout setting d, c ∈ source) →
    (impliedColumn? layout setting d = none →
      SharesValue room (valueText layout setting d) (asWritten layout d)) ∧
    ∀ column, impliedColumn? layout setting d = some column →
      ∃ text, valueText layout setting d = setting.beforeImplied column ++ text ∧
        SharesBlock room column text (asWritten layout d)

/-- The column of an implied object comes from where the object stands. -/
theorem impliedColumn?_eq_some {layout : Layout} {setting : Setting} {d : Document} {column : Nat}
    (h : impliedColumn? layout setting d = some column) :
    setting.impliedColumn? layout.style = some column := by
  cases d with
  | object fields => exact (Option.ite_none_right_eq_some.1 h).2
  | _ => contradiction

/-- Within brackets an object that YAML takes is not implied. -/
theorem impliedColumn?_of_braced {layout : Layout} {setting : Setting} {room : Nat} {d : Document}
    (h : overlaps layout setting true room d = true) : impliedColumn? layout setting d = none := by
  cases d with
  | object fields =>
    cases room with
    | zero => simp [overlaps] at h
    | succ room =>
      rw [impliedColumn?]
      cases himplies : setting.implies? layout.style fields with
      | none => rfl
      | some column => simp [overlaps, himplies] at h
  | _ => rfl

theorem itemsText_eq (layout : Layout) (form : Form) (lead : List Char) (i : Nat) (d : Document)
    (items : List Document) : itemsText layout form lead i (d :: items) =
      lead ++ itemsText layout form [] i (d :: items) := by
  simp [itemsText]

/-- An item, what trails it, and the other items. -/
theorem itemsText_cons (layout : Layout) (form : Form) (i : Nat) (d : Document)
    (items : List Document) : itemsText layout form [] i (d :: items) =
      (spaces (layout.child i).style.before ++ valueText (layout.child i) form.itemSetting d) ++
        (spaces (layout.child i).style.after ++ (form.trailing (layout.child i).style.comma ++
          itemsText layout form (form.between 0) (i + 1) items)) := by
  simp [itemsText]

theorem fieldsText_eq (layout : Layout) (form : Form) (column : Nat) (lead : List Char) (i : Nat)
    (field : String × Document) (fields : List (String × Document)) :
    fieldsText layout form column lead i (field :: fields) =
      lead ++ fieldsText layout form column [] i (field :: fields) := by
  simp [fieldsText]

theorem fieldsText_cons (layout : Layout) (form : Form) (column i : Nat) (name : String)
    (d : Document) (fields : List (String × Document)) :
    fieldsText layout form column [] i ((name, d) :: fields) =
      (form.inset (layout.child i).style.before ++ entryText (layout.child i).style name
        (valueText (layout.child i) (form.valueSetting column) d)) ++
        (spaces (layout.child i).style.after ++ (form.trailing (layout.child i).style.comma ++
          fieldsText layout form column (form.between column) (i + 1) fields)) := by
  simp [fieldsText]

/-- The first of some items, with the room before it. -/
theorem itemText_shares {layout : Layout} {form : Form} {room i : Nat} {d : Document}
    {items : List Document} (hshares : Shares source d)
    (h : itemsOverlap layout form room i (d :: items) = true)
    (hmem : ∀ c ∈ itemsText layout form [] i (d :: items), c ∈ source) :
    separates form (layout.child i).style items.isEmpty = true ∧
      itemsOverlap layout form room (i + 1) items = true ∧
      ∃ ts, Yaml.Scans true false (spaces (layout.child i).style.before ++
          valueText (layout.child i) form.itemSetting d) ts ∧
        Yaml.Makes .flow room ts (asWritten (layout.child i) d) := by
  rw [itemsOverlap, Bool.and_eq_true, Bool.and_eq_true] at h
  rw [itemsText_cons] at hmem
  obtain ⟨ts, hscans, hmakes⟩ := (hshares _ _ _ _ h.1.1
    fun c hc => hmem c (by simp [hc])).1 (impliedColumn?_of_braced h.1.1)
  exact ⟨h.1.2, h.2, ts, (hscans.toScans true).behind_gap (isGap_spaces _), hmakes .flow⟩

/-- The items of an array. -/
theorem itemsText_shares {layout : Layout} {form : Form} (hform : form ≠ .implied) {room : Nat}
    {d : Document} {items : List Document} (hshares : ∀ x ∈ d :: items, Shares source x) (i : Nat)
    (h : itemsOverlap layout form room i (d :: items) = true)
    (hmem : ∀ c ∈ itemsText layout form [] i (d :: items), c ∈ source) :
    ∃ a ts, Yaml.Scans true a (itemsText layout form [] i (d :: items)) ts ∧
      Yaml.MakesItems (Yaml.flowItems? Yaml.coreNamespaces) room ts
        (itemsAsWritten layout i (d :: items)) := by
  induction items generalizing d i with
  | nil =>
    obtain ⟨-, -, ts, hscans, hmakes⟩ := itemText_shares (hshares d (by simp)) h hmem
    obtain ⟨a, us, hlast, hus⟩ := exists_scans_last hscans (layout.child i).style.after form
      (layout.child i).style.comma
    have hrest : itemsText layout form (form.between 0) (i + 1) [] = [] := by rw [itemsText]
    rw [itemsText_cons, hrest, itemsAsWritten, itemsAsWritten]
    refine ⟨a, ts ++ us, hlast, hmakes.cons_items ?_⟩
    obtain rfl | rfl := hus
    · exact Yaml.makesItemsEnd_nil
    · exact Yaml.makesItems_nil.behind_comma
  | cons next items ih =>
    obtain ⟨hcomma, hothers, ts, hscans, hmakes⟩ := itemText_shares (hshares d (by simp)) h hmem
    rw [itemsText_cons, itemsText_eq layout form (form.between 0)] at hmem ⊢
    obtain ⟨a, us, hlater, hitems⟩ := ih (fun x hx => hshares x (List.mem_cons_of_mem d hx)) (i + 1)
      hothers fun c hc => hmem c (by simp [hc])
    rw [itemsAsWritten]
    exact ⟨a, ts ++ .flowEntry :: us, scans_more hscans hform hcomma _ 0 hlater,
      hmakes.cons_items hitems.behind_comma⟩

/-- What a key needs for YAML to read it. -/
theorem keyText_shares (hsource : ∀ c ∈ source, isSharedChar c = true) {style : Style}
    {name : String} (hkey : keyFits style name = true) (hmem : ∀ c ∈ keyText style name, c ∈ source) :
    Yaml.ScalarText (keyText style name) (style.isBare name) (style.writtenName name) ∧
      byteLength (keyText style name ++ spaces style.afterKey) ≤ Yaml.maxKeyLength := by
  refine ⟨scalarText_keyText hkey fun c hc => hsource c (hmem c hc), ?_⟩
  rw [keyFits, Bool.and_eq_true, decide_eq_true_iff] at hkey
  exact hkey.2

theorem spaces_ne_nil {n : Nat} (h : 0 < n) : spaces n ≠ [] := by
  rw [spaces, ne_eq, List.replicate_eq_nil_iff]
  omega

/-- An entry in braces. -/
theorem entryText_shares (hsource : ∀ c ∈ source, isSharedChar c = true) {layout : Layout}
    {setting : Setting} {room : Nat} {style : Style} {name : String} {d : Document}
    (hshares : Shares source d) (hkey : keyFits style name = true)
    (h : overlaps layout setting true room d = true)
    (hspace : style.isBare name = true → 0 < style.afterColon)
    (hmem : ∀ c ∈ entryText style name (valueText layout setting d), c ∈ source) :
    ∃ ts, Yaml.Scans true false (entryText style name (valueText layout setting d))
        (.key :: .scalar (style.isBare name) (style.writtenName name) :: .value :: ts) ∧
      Yaml.Makes .flow room ts (asWritten layout d) := by
  obtain ⟨ts, hscans, hmakes⟩ := (hshares _ _ _ _ h
    fun c hc => hmem c (by simp [entryText, hc])).1 (impliedColumn?_of_braced h)
  obtain ⟨hscalar, hshort⟩ := keyText_shares hsource hkey fun c hc => hmem c (by simp [entryText, hc])
  exact ⟨ts, Yaml.scans_field hscalar mem_of_mem_spaces hshort (isGap_spaces _)
    (fun hbare => spaces_ne_nil (hspace hbare)) hscans, hmakes .flow⟩

/-- The first of some entries in braces, with the room before it. -/
theorem fieldText_shares (hsource : ∀ c ∈ source, isSharedChar c = true) {layout : Layout}
    {form : Form} (hform : form ≠ .implied) {column room i : Nat} {name : String} {d : Document}
    {fields : List (String × Document)} (hshares : Shares source d)
    (h : fieldsOverlap layout form column room i ((name, d) :: fields) = true)
    (hmem : ∀ c ∈ fieldsText layout form column [] i ((name, d) :: fields), c ∈ source) :
    separates form (layout.child i).style fields.isEmpty = true ∧
      fieldsOverlap layout form column room (i + 1) fields = true ∧
      ∃ ts, Yaml.Scans true false (form.inset (layout.child i).style.before ++
          entryText (layout.child i).style name
            (valueText (layout.child i) (form.valueSetting column) d))
          (.key :: .scalar ((layout.child i).style.isBare name)
            ((layout.child i).style.writtenName name) :: .value :: ts) ∧
        Yaml.Makes .flow room ts (asWritten (layout.child i) d) := by
  rw [fieldsText_cons] at hmem
  simp only [fieldsOverlap, if_neg hform, Bool.and_eq_true, decide_not] at h
  obtain ⟨⟨⟨hkey, hvalue⟩, hspace, hcomma⟩, hothers⟩ := h
  obtain ⟨ts, hscans, hmakes⟩ := entryText_shares hsource hshares hkey
    (by simpa [hform] using hvalue) (fun hbare => by simpa [hbare] using hspace)
    fun c hc => hmem c (by simp [hc])
  exact ⟨hcomma, hothers, ts, hscans.behind_gap (isGap_inset form _), hmakes⟩

/-- The entries of an object in braces. -/
theorem fieldsText_shares (hsource : ∀ c ∈ source, isSharedChar c = true) {layout : Layout}
    {form : Form} (hform : form ≠ .implied) {column room : Nat} {field : String × Document}
    {fields : List (String × Document)} (hshares : ∀ f ∈ field :: fields, Shares source f.2)
    (i : Nat) (h : fieldsOverlap layout form column room i (field :: fields) = true)
    (hmem : ∀ c ∈ fieldsText layout form column [] i (field :: fields), c ∈ source) :
    ∃ a ts, Yaml.Scans true a (fieldsText layout form column [] i (field :: fields)) ts ∧
      Yaml.MakesFields .flowMappingEnd (Yaml.flowFields? Yaml.coreNamespaces) room ts
        (fieldsAsWritten layout i (field :: fields)) := by
  induction fields generalizing field i with
  | nil =>
    obtain ⟨name, d⟩ := field
    obtain ⟨-, -, ts, hscans, hmakes⟩ := fieldText_shares hsource hform
      (hshares (name, d) (by simp)) h hmem
    obtain ⟨a, us, hlast, hus⟩ := exists_scans_last hscans (layout.child i).style.after form
      (layout.child i).style.comma
    have hrest : fieldsText layout form column (form.between column) (i + 1) [] = [] := by
      rw [fieldsText]
    rw [fieldsText_cons, hrest, fieldsAsWritten, fieldsAsWritten]
    refine ⟨a, _, hlast, hmakes.cons_fields Yaml.found?_flowFields?_key _ _ ?_⟩
    obtain rfl | rfl := hus
    · exact Yaml.makesFieldsEnd_nil
    · exact Yaml.makesFields_nil.behind_comma
  | cons next fields ih =>
    obtain ⟨name, d⟩ := field
    obtain ⟨hcomma, hothers, ts, hscans, hmakes⟩ := fieldText_shares hsource hform
      (hshares (name, d) (by simp)) h hmem
    rw [fieldsText_cons, fieldsText_eq layout form column (form.between column)] at hmem ⊢
    obtain ⟨a, us, hlater, hfields⟩ := ih (fun f hf => hshares f (List.mem_cons_of_mem _ hf))
      (i + 1) hothers fun c hc => hmem c (by simp [hc])
    rw [fieldsAsWritten]
    exact ⟨a, _, scans_more hscans hform hcomma _ column hlater,
      hmakes.cons_fields Yaml.found?_flowFields?_key _ _ hfields.behind_comma⟩

/-- An entry of an implied object. -/
theorem entryText_sharesBlock (hsource : ∀ c ∈ source, isSharedChar c = true) {layout : Layout}
    {column room : Nat} {style : Style} {name : String} {d : Document} (hshares : Shares source d)
    (hkey : keyFits style name = true) (h : overlaps layout (.value column) false room d = true)
    (hspace : 0 < style.afterColon ∨ (impliedColumn? layout (.value column) d).isSome = true)
    (hmem : ∀ c ∈ entryText style name (valueText layout (.value column) d), c ∈ source) :
    ∃ ts, Yaml.ScansFields column (entryText style name (valueText layout (.value column) d))
        (.key :: .scalar (style.isBare name) (style.writtenName name) :: .value :: ts) ∧
      Yaml.Makes .field room ts (asWritten layout d) := by
  have hvalue := hshares _ _ _ _ h fun c hc => hmem c (by simp [entryText, hc])
  obtain ⟨hscalar, hshort⟩ := keyText_shares hsource hkey fun c hc => hmem c (by simp [entryText, hc])
  rw [entryText]
  -- An implied object stands on the lines below its key, every other value on the line of the key.
  cases himplied : impliedColumn? layout (.value column) d with
  | none =>
    obtain ⟨ts, hscans, hmakes⟩ := hvalue.1 himplied
    have hsome := spaces_ne_nil (hspace.resolve_right (by simp [himplied]))
    exact ⟨ts, Yaml.scansFields_value hscalar mem_of_mem_spaces hshort mem_of_mem_spaces hsome
      hscans, hmakes .field⟩
  | some deeper =>
    obtain ⟨text, htext, ts, hscans, hmakes⟩ := hvalue.2 deeper himplied
    have hlt : column < deeper := by
      obtain rfl := Option.some.inj (impliedColumn?_eq_some himplied)
      omega
    have hlines : spaces style.afterColon ++ valueText layout (.value column) d =
        spaces style.afterColon ++ '\n' :: List.replicate deeper ' ' ++ text := by
      rw [htext, List.append_assoc]
      rfl
    rw [hlines]
    exact ⟨_, Yaml.scansFields_block hscalar mem_of_mem_spaces hshort (isGap_spaces _) hlt hscans,
      hmakes .field rfl⟩

theorem impliedText_cons (layout : Layout) (column i : Nat) (name : String) (d : Document)
    (fields : List (String × Document)) :
    fieldsText layout .implied column [] i ((name, d) :: fields) =
      entryText (layout.child i).style name (valueText (layout.child i) (.value column) d) ++
        spaces (layout.child i).style.after ++
        fieldsText layout .implied column (lineStart column) (i + 1) fields := by
  simp [fieldsText, Form.inset, Form.trailing, Form.valueSetting, Form.between]

/-- The first entry of an implied object, with the blanks behind it. -/
theorem impliedFieldText_shares (hsource : ∀ c ∈ source, isSharedChar c = true) {layout : Layout}
    {column room i : Nat} {name : String} {d : Document} {fields : List (String × Document)}
    (hshares : Shares source d)
    (h : fieldsOverlap layout .implied column room i ((name, d) :: fields) = true)
    (hmem : ∀ c ∈ fieldsText layout .implied column [] i ((name, d) :: fields), c ∈ source) :
    fieldsOverlap layout .implied column room (i + 1) fields = true ∧
      ∃ ts, Yaml.ScansFields column (entryText (layout.child i).style name
          (valueText (layout.child i) (.value column) d) ++ spaces (layout.child i).style.after)
          (.key :: .scalar ((layout.child i).style.isBare name)
            ((layout.child i).style.writtenName name) :: .value :: ts) ∧
        Yaml.Makes .field room ts (asWritten (layout.child i) d) := by
  rw [impliedText_cons] at hmem
  simp only [fieldsOverlap, Form.valueSetting, ne_eq, not_true_eq_false, decide_false, if_true,
    Bool.and_eq_true, Bool.or_eq_true, decide_eq_true_eq] at h
  obtain ⟨⟨⟨hkey, hvalue⟩, hspace⟩, hothers⟩ := h
  obtain ⟨ts, hscans, hmakes⟩ := entryText_sharesBlock hsource hshares hkey hvalue hspace
    fun c hc => hmem c (by simp [hc])
  exact ⟨hothers, ts, hscans.before_gap (isGap_spaces _), hmakes⟩

/-- The entries of an implied object. -/
theorem impliedText_shares (hsource : ∀ c ∈ source, isSharedChar c = true) {layout : Layout}
    {column room : Nat} {field : String × Document} {fields : List (String × Document)}
    (hshares : ∀ f ∈ field :: fields, Shares source f.2) (i : Nat)
    (h : fieldsOverlap layout .implied column room i (field :: fields) = true)
    (hmem : ∀ c ∈ fieldsText layout .implied column [] i (field :: fields), c ∈ source) :
    ∃ ts, Yaml.ScansFields column (fieldsText layout .implied column [] i (field :: fields)) ts ∧
      Yaml.MakesFields .blockEnd (Yaml.blockFields? Yaml.coreNamespaces) room ts
        (fieldsAsWritten layout i (field :: fields)) := by
  induction fields generalizing field i with
  | nil =>
    obtain ⟨name, d⟩ := field
    obtain ⟨-, ts, hscans, hmakes⟩ := impliedFieldText_shares hsource (hshares (name, d) (by simp))
      h hmem
    have hrest : fieldsText layout .implied column (lineStart column) (i + 1) [] = [] := by
      rw [fieldsText]
    have hfields := hmakes.cons_fields Yaml.found?_blockFields?_key
      ((layout.child i).style.isBare name) ((layout.child i).style.writtenName name)
      Yaml.makesBlock_nil
    rw [List.append_nil] at hfields
    rw [impliedText_cons, hrest, List.append_nil, fieldsAsWritten, fieldsAsWritten]
    exact ⟨_, hscans, hfields⟩
  | cons next fields ih =>
    obtain ⟨name, d⟩ := field
    obtain ⟨hothers, ts, hscans, hmakes⟩ := impliedFieldText_shares hsource
      (hshares (name, d) (by simp)) h hmem
    rw [impliedText_cons, fieldsText_eq layout .implied column (lineStart column)] at hmem ⊢
    obtain ⟨us, hlater, hfields⟩ := ih (fun f hf => hshares f (List.mem_cons_of_mem _ hf)) (i + 1)
      hothers fun c hc => hmem c (by simp [hc])
    rw [fieldsAsWritten]
    exact ⟨_, hscans.append hlater, hmakes.cons_fields Yaml.found?_blockFields?_key _ _ hfields⟩

/-- A scalar is read wherever it stands. -/
theorem sharesValue_scalar {text : List Char} {plain : Bool} {value : String} {d : Document}
    (htext : Yaml.ScalarText text plain value)
    (hvalue : Yaml.scalarValue? none plain value = some d) (room : Nat) :
    SharesValue room text d :=
  ⟨_, Yaml.scansValue_scalar htext, fun _ => Yaml.makes_scalar hvalue⟩

/-- A text in quotes is read by YAML as it stands between them, up to the escapes of double quotes.
    -/
theorem shares_string (hsource : ∀ c ∈ source, isSharedChar c = true) (text : String) :
    Shares source (.string text) := by
  intro layout setting braced room h hmem
  refine ⟨fun _ => ?_, fun column himplied => by contradiction⟩
  rw [overlaps] at h
  rw [valueText] at hmem ⊢
  rw [asWritten]
  exact sharesValue_scalar (scalarText_quoted h fun c hc => hsource c (hmem c hc)) rfl room

/-- A word that YAML knows has the value that YAML gives it. -/
theorem sharesValue_word {word : String} {c : Char} {s : List Char} {d : Document}
    (hword : word.toList = c :: s) (hstart : isWordStart c = true) (hchars : s.all isWordChar = true)
    (hvalue : Yaml.plainValue? word = some d) (room : Nat) : SharesValue room word.toList d := by
  have htext : Yaml.PlainText word.toList :=
    hword ▸ plainText_word hstart (List.all_eq_true.1 hchars)
  refine sharesValue_scalar (.plain htext) ?_ room
  rw [String.ofList_toList]
  exact hvalue

theorem shares_null : Shares source .null := by
  intro layout setting braced room h hmem
  refine ⟨fun _ => ?_, fun column himplied => by contradiction⟩
  rw [valueText, asWritten]
  · exact sharesValue_word rfl rfl rfl rfl room
  all_goals simp

theorem shares_bool (value : Bool) : Shares source (.bool value) := by
  intro layout setting braced room h hmem
  refine ⟨fun _ => ?_, fun column himplied => by contradiction⟩
  cases value with
  | true =>
    rw [valueText, asWritten]
    · exact sharesValue_word rfl rfl rfl rfl room
    all_goals simp
  | false =>
    rw [valueText, asWritten]
    · exact sharesValue_word rfl rfl rfl rfl room
    all_goals simp

/-- Whole numbers within 64 bits mean the same in both formats. -/
theorem shares_int {n : Int} (hn : fitsSigned n = true) : Shares source (.int n) := by
  intro layout setting braced room h hmem
  refine ⟨fun _ => ?_, fun column himplied => by contradiction⟩
  rw [valueText, asWritten]
  · exact sharesValue_scalar (.plain (plainText_intText n)) (plainValue?_intText hn) room
  all_goals simp

/-- An array in brackets. -/
theorem bracketed_shares {items : List Document} (hitems : ∀ d ∈ items, Shares source d)
    {layout : Layout} {form : Form} (hform : form ≠ .implied) {room closing : Nat}
    (h : itemsOverlap layout form room 0 items = true)
    (hmem : ∀ c ∈ itemsText layout form (form.opening 0) 0 items, c ∈ source) :
    SharesValue (room + 1)
      ('[' :: (itemsText layout form (form.opening 0) 0 items ++ form.closing closing ++ [']']))
      (.array (itemsAsWritten layout 0 items)) := by
  have hclosing := isGap_closing closing form
  have hinner : ∃ a ts, Yaml.Scans true a
      (itemsText layout form (form.opening 0) 0 items ++ form.closing closing) ts ∧
      Yaml.MakesItems (Yaml.flowItems? Yaml.coreNamespaces) room ts
        (itemsAsWritten layout 0 items) := by
    cases items with
    | nil =>
      rw [itemsText, List.nil_append, itemsAsWritten]
      exact ⟨true, [], hclosing.scans true, Yaml.makesItems_nil⟩
    | cons d items =>
      rw [itemsText_eq] at hmem ⊢
      obtain ⟨a, ts, hscans, hmakes⟩ := itemsText_shares hform hitems 0 h
        fun c hc => hmem c (by simp [hc])
      exact ⟨a, ts, hscans.between_gaps (isGap_opening 0 form) hclosing, hmakes⟩
  obtain ⟨a, ts, hscans, hmakes⟩ := hinner
  exact ⟨_, Yaml.scansValue_brackets hscans, fun context => Yaml.makes_array hmakes⟩

/-- An array is read by YAML if its items are. -/
theorem shares_array {items : List Document} (hitems : ∀ d ∈ items, Shares source d) :
    Shares source (.array items) := by
  intro layout setting braced room h hmem
  refine ⟨fun _ => ?_, fun column himplied => by contradiction⟩
  cases room with
  | zero => simp [overlaps] at h
  | succ room =>
    rw [overlaps] at h
    rw [valueText] at hmem ⊢
    rw [asWritten]
    exact bracketed_shares hitems (setting.bracketForm_ne_implied _) h
      fun c hc => hmem c (by simp [hc])

/-- An object in braces. -/
theorem braced_shares (hsource : ∀ c ∈ source, isSharedChar c = true)
    {fields : List (String × Document)} (hfields : ∀ f ∈ fields, Shares source f.2)
    {layout : Layout} {form : Form} (hform : form ≠ .implied) {column room closing : Nat}
    (h : fieldsOverlap layout form column room 0 fields = true)
    (hmem : ∀ c ∈ fieldsText layout form column (form.opening column) 0 fields, c ∈ source) :
    SharesValue (room + 1) ('\x7b' ::
      (fieldsText layout form column (form.opening column) 0 fields ++ form.closing closing ++
        ['\x7d'])) (.ofFields (fieldsAsWritten layout 0 fields)) := by
  have hclosing := isGap_closing closing form
  have hinner : ∃ a ts, Yaml.Scans true a
      (fieldsText layout form column (form.opening column) 0 fields ++ form.closing closing) ts ∧
      Yaml.MakesFields .flowMappingEnd (Yaml.flowFields? Yaml.coreNamespaces) room ts
        (fieldsAsWritten layout 0 fields) := by
    cases fields with
    | nil =>
      rw [fieldsText, List.nil_append, fieldsAsWritten]
      exact ⟨true, [], hclosing.scans true, Yaml.makesFields_nil⟩
    | cons field fields =>
      rw [fieldsText_eq] at hmem ⊢
      obtain ⟨a, ts, hscans, hmakes⟩ := fieldsText_shares hsource hform hfields 0 h
        fun c hc => hmem c (by simp [hc])
      exact ⟨a, ts, hscans.between_gaps (isGap_opening column form) hclosing, hmakes⟩
  obtain ⟨a, ts, hscans, hmakes⟩ := hinner
  exact ⟨_, Yaml.scansValue_braces hscans, fun context => Yaml.makes_braces hmakes⟩

/-- An object is read by YAML if its values are: in braces, or as a block of fields in one column.
    -/
theorem shares_object (hsource : ∀ c ∈ source, isSharedChar c = true)
    {fields : List (String × Document)} (hfields : ∀ f ∈ fields, Shares source f.2) :
    Shares source (.object fields) := by
  intro layout setting braced room h hmem
  rw [asWritten]
  cases room with
  | zero => simp [overlaps] at h
  | succ room =>
    rw [overlaps] at h
    rw [impliedColumn?]
    cases himplies : setting.implies? layout.style fields with
    | none =>
      simp only [valueText, himplies] at h hmem ⊢
      refine ⟨fun _ => ?_, fun column himplied => by contradiction⟩
      exact braced_shares hsource hfields (setting.bracketForm_ne_implied _) h
        fun c hc => hmem c (by simp [hc])
    | some column =>
      simp only [valueText, himplies, Bool.and_eq_true] at h hmem ⊢
      refine ⟨fun himplied => by contradiction, fun column' himplied => ?_⟩
      obtain rfl := Option.some.inj himplied
      cases fields with
      | nil => simp [Setting.implies?] at himplies
      | cons field fields =>
        rw [fieldsText_eq] at hmem ⊢
        obtain ⟨ts, hscans, hmakes⟩ := impliedText_shares hsource hfields 0 h.2
          fun c hc => hmem c (by simp [hc])
        exact ⟨_, rfl, ts, hscans, fun context hblock => Yaml.makes_block hblock hmakes⟩

/-- However a document is laid out, YAML reads it where it takes the layout. -/
theorem Plain.shares {d : Document} (h : Plain d) (hsource : ∀ c ∈ source, isSharedChar c = true) :
    Shares source d := by
  induction h with
  | string text => exact shares_string hsource text
  | array _ ih => exact shares_array ih
  | object _ _ ih => exact shares_object hsource ih
  | null => exact shares_null
  | bool value => exact shares_bool value
  | int hn => exact shares_int hn

/-- A printed document is the text of its value with blanks and line ends around it. -/
theorem documentText_eq (layout : Layout) (lineEnds : Nat) (d : Document) :
    documentText layout lineEnds d = String.ofList (spaces layout.style.before ++
      (valueText layout .document d ++
        (spaces layout.style.after ++ List.replicate lineEnds '\n'))) := by
  rw [documentText, List.append_assoc, List.append_assoc]

/-- CSON reads what is printed, as it does in every layout. -/
theorem Readable.documentText_reads {d : Document} (h : Readable d) (layout : Layout)
    (lineEnds : Nat) : parse (documentText layout lineEnds d) = .ok d := by
  let start := Place.advance {} (spaces layout.style.before)
  obtain ⟨ts, htext, hitem⟩ := (h layout .document start fun _ => by
    rw [Place.column_advance_spaces]
    exact Nat.zero_add _).exists_item (by simp)
  obtain ⟨ends, hends, hnewlines⟩ := exists_closed_lineEnds lineEnds
    ((start.advance (valueText layout .document d)).advance (spaces layout.style.after))
  have hboundary : Boundary (spaces layout.style.after ++ List.replicate lineEnds '\n') :=
    (boundary_spaces _).append (by cases lineEnds <;> simp [Boundary, List.replicate_succ]; decide)
  have hlexes := (closed_spaces {} layout.style.before).append_lexes
    (htext.append hboundary ((closed_spaces _ _).append_lexes hends.lexes))
  have hadmits : Setting.document.Admits ends :=
    ⟨fun x hx => by simp [hnewlines x (List.mem_of_head? hx)], hnewlines.not_continues⟩
  have hderives : Derives ([] ++ ts ++ ends) d :=
    .intro (by simp [Newlines]) (hitem ends hadmits) hnewlines
  rw [documentText_eq, parse, String.toList_ofList, tokens, hlexes.tokensFrom_eq]
  exact hderives.read _

/-- YAML reads a printed document as it is written if it takes the layout: it finds the same arrays
    and objects, with what stands between single quotes taken as it stands. -/
theorem yaml_parse?_documentText {d : Document} (hplain : Plain d) {layout : Layout}
    {lineEnds : Nat} (hchars : ∀ c ∈ (documentText layout lineEnds d).toList, isSharedChar c = true)
    (h : overlaps layout .document false Yaml.maxDepth d = true) :
    Yaml.parse? (documentText layout lineEnds d) = some (asWritten layout d) := by
  have hgap : Yaml.IsGap (spaces layout.style.after ++ List.replicate lineEnds '\n') :=
    (isGap_spaces _).append fun c hc => .inr (List.eq_of_mem_replicate hc)
  rw [documentText_eq] at hchars ⊢
  rw [String.toList_ofList] at hchars
  have hyaml := fun c hc => (Bool.and_eq_true _ _ ▸ hchars c hc).1
  obtain ⟨hvalue, himplied⟩ := hplain.shares hchars layout .document false Yaml.maxDepth h
    fun c hc => by simp [hc]
  cases hcolumn : impliedColumn? layout .document d with
  | none =>
    obtain ⟨ts, hscans, hmakes⟩ := hvalue hcolumn
    exact Yaml.parse?_value (isGap_spaces _) hgap hyaml hscans (hmakes .item)
  | some column =>
    obtain ⟨text, htext', ts, hscans, hmakes⟩ := himplied column hcolumn
    have hplace : column = (spaces layout.style.before).length := by
      obtain rfl := Option.some.inj (impliedColumn?_eq_some hcolumn)
      exact List.length_replicate.symm
    have hbody : text = valueText layout .document d := htext'.symm
    rw [hbody, hplace] at hscans
    exact Yaml.parse?_fields mem_of_mem_spaces hgap hyaml hscans (hmakes .item rfl)

end RuleGraph.Cson
