import RuleGraph.Proofs.Cson.Layout.Phrases

namespace RuleGraph.Cson

/-- What stands before a child separates it from the one before. Where the child starts a line, only
    line ends do, and the line starts with the child in the given column. -/
structure Leads (form : Form) (column : Nat) (place : Place) (lead : List Char)
    (leads : List Lexeme) : Prop where
  closed : Closed place lead leads
  separators : Separators leads
  newlines : form ≠ .line → Newlines leads
  column_eq : form ≠ .line → (place.advance lead).column = column

/-- A line end with an indentation leads to the column of the indentation. -/
theorem leads_lineStart (form : Form) (column : Nat) (place : Place) :
    Leads form column place (lineStart column) [⟨.newline, place⟩] where
  closed := closed_lineStart place column
  separators := by simp [Separators]
  newlines _ := by simp [Newlines]
  column_eq _ := place.column_advance_lineStart column

/-- What stands behind the opening mark leads to the first child. -/
theorem exists_leads_opening (form : Form) (column : Nat) (place : Place) :
    ∃ leads, Leads form column place (form.opening column) leads := by
  cases form with
  | line =>
    refine ⟨[], closed_nil place, ?_, ?_, ?_⟩
    all_goals simp [Separators]
  | block => exact ⟨_, leads_lineStart .block column place⟩
  | implied => exact ⟨_, leads_lineStart .implied column place⟩

/-- What stands between two children separates them and leads to the second one. -/
theorem exists_leads_between (form : Form) (column : Nat) (place : Place) :
    ∃ leads, Leads form column place (form.between column) leads ∧ leads ≠ [] := by
  cases form with
  | line =>
    refine ⟨[⟨.comma, place⟩], ⟨closed_punctuation rfl place, ?_, ?_, ?_⟩, by simp⟩
    all_goals simp [Separators]
  | block => exact ⟨_, leads_lineStart .block column place, by simp⟩
  | implied => exact ⟨_, leads_lineStart .implied column place, by simp⟩

theorem Form.between_ne_nil (form : Form) (column : Nat) : form.between column ≠ [] := by
  cases form <;> simp [Form.between, lineStart]

theorem boundary_between (form : Form) (column : Nat) : Boundary (form.between column) := by
  cases form with
  | line => exact .cons _ (by decide)
  | block => exact boundary_lineStart column
  | implied => exact boundary_lineStart column

/-- Behind a child there is a comma at most, and only in a block. -/
def Trails (form : Form) (commas : List Lexeme) : Prop :=
  commas = [] ∨ form = .block ∧ ∃ p, commas = [⟨.comma, p⟩]

/-- Whatever trails the last child separates and does nothing else. -/
theorem Trails.separators {form : Form} {commas : List Lexeme} (h : Trails form commas) :
    Separators commas := by
  obtain rfl | ⟨-, p, rfl⟩ := h <;> simp [Separators]

/-- What trails the last child is read as a comma at most, and in a block only. -/
theorem exists_closed_trailing (form : Form) (comma : Bool) (place : Place) :
    ∃ commas, Closed place (form.trailing comma) commas ∧ Trails form commas := by
  by_cases hwritten : form = .block ∧ comma = true
  · obtain ⟨rfl, rfl⟩ := hwritten
    exact ⟨[⟨.comma, place⟩], closed_punctuation rfl place, .inr ⟨rfl, place, rfl⟩⟩
  · have hnone : form.trailing comma = [] := by
      cases form <;> cases comma <;> simp_all [Form.trailing]
    rw [hnone]
    exact ⟨[], closed_nil place, .inl rfl⟩

theorem boundary_trailing (form : Form) (comma : Bool) : Boundary (form.trailing comma) := by
  cases form with
  | line => exact .nil
  | block =>
    cases comma with
    | true => exact .cons _ (by decide)
    | false => exact .nil
  | implied => exact .nil

theorem closed_inset (form : Form) (n : Nat) (place : Place) : Closed place (form.inset n) [] := by
  cases form with
  | line => exact closed_spaces place n
  | block => exact closed_nil place
  | implied => exact closed_nil place

/-- A child is read with what stands around it, in front of the later children. -/
theorem exists_lexes_child {place : Place} {lead room s rest : List Char} {leads ts : List Lexeme}
    {P : List Lexeme → Prop} (hlead : Closed place lead leads)
    (hroom : Closed (place.advance lead) room [])
    (hs : Lexes ((place.advance lead).advance room) s ts) (n : Nat) (form : Form) (comma : Bool)
    (hrest : ∀ p, ∃ later, Lexes p rest later ∧ P later) (hboundary : Boundary rest) :
    ∃ commas later, Lexes place (lead ++ room ++ s ++ spaces n ++ form.trailing comma ++ rest)
        (leads ++ ts ++ (commas ++ later)) ∧ Trails form commas ∧ P later := by
  let after := (((place.advance lead).advance room).advance s).advance (spaces n)
  obtain ⟨commas, hcommas, htrails⟩ := exists_closed_trailing form comma after
  obtain ⟨later, hlater, hP⟩ := hrest (after.advance (form.trailing comma))
  have hafter := (closed_spaces _ n).append_lexes (hcommas.append_lexes hlater)
  have hbehind := (boundary_spaces n).append ((boundary_trailing form comma).append hboundary)
  have hall := hlead.append_lexes (hroom.append_lexes (hs.append hbehind hafter))
  refine ⟨commas, later, ?_, htrails, hP⟩
  simpa only [List.append_assoc, List.nil_append] using hall

/-- Line ends behind the children stand behind the last of them. -/
theorem append_breaks (leads ts commas later breaks : List Lexeme) :
    leads ++ ts ++ (commas ++ later) ++ breaks = leads ++ ts ++ (commas ++ (later ++ breaks)) := by
  simp only [List.append_assoc]

/-- No child goes on with the text of the one before it. -/
theorem boundary_itemsText (layout : Layout) (form : Form) {lead : List Char} (hlead : Boundary lead)
    (hsome : lead ≠ []) (i : Nat) (items : List Document) :
    Boundary (itemsText layout form lead i items) := by
  cases items with
  | nil =>
    rw [itemsText]
    exact .nil
  | cons d items =>
    simp only [itemsText, List.append_assoc]
    exact hlead.append_of_ne_nil hsome _

/-- No entry goes on with the text of the one before it. -/
theorem boundary_fieldsText (layout : Layout) (form : Form) (column : Nat) {lead : List Char}
    (hlead : Boundary lead) (hsome : lead ≠ []) (i : Nat) (fields : List (String × Document)) :
    Boundary (fieldsText layout form column lead i fields) := by
  cases fields with
  | nil =>
    rw [fieldsText]
    exact .nil
  | cons field fields =>
    simp only [fieldsText, List.append_assoc]
    exact hlead.append_of_ne_nil hsome _

/-- The text of readable items is read as the items, with more line ends behind the last of them. -/
theorem itemsText_reads {items : List Document} (hitems : ∀ d ∈ items, Readable d) (layout : Layout)
    (form : Form) {lead : List Char} {leads : List Lexeme} {place : Place} (i : Nat)
    (hlead : Leads form 0 place lead leads) :
    ∃ ts, Lexes place (itemsText layout form lead i items) ts ∧
      ∀ breaks follow, Newlines breaks → NoColon follow → Items (ts ++ breaks) follow items := by
  induction items generalizing lead leads place i with
  | nil =>
    refine ⟨[], ?_, fun breaks follow hbreaks _ => .nil hbreaks.separators⟩
    rw [itemsText]
    exact (closed_nil place).lexes
  | cons d items ih =>
    rw [itemsText]
    have hsetting : form.itemSetting ≠ .document ∧ ∀ column, form.itemSetting ≠ .value column := by
      cases form <;> simp [Form.itemSetting]
    obtain ⟨ts, hts, hitem⟩ := (hitems d (by simp) (layout.child i) form.itemSetting _
      fun heq => absurd heq hsetting.1).exists_item hsetting.2
    obtain ⟨commas, later, hlexes, htrails, hothers⟩ := exists_lexes_child hlead.closed
      (closed_spaces _ _) hts (layout.child i).style.after form (layout.child i).style.comma
      (fun p => by
        obtain ⟨next, hnext, -⟩ := exists_leads_between form 0 p
        exact ih (fun x hx => hitems x (by simp [hx])) (i + 1) hnext)
      (boundary_itemsText layout form (boundary_between form 0) (form.between_ne_nil 0) _ _)
    refine ⟨leads ++ ts ++ (commas ++ later), hlexes, ?_⟩
    intro breaks follow hbreaks hfollow
    have hrest : Items (commas ++ (later ++ breaks)) follow items :=
      (hothers breaks follow hbreaks hfollow).prepend htrails.separators
    have hadmits : form.itemSetting.Admits (commas ++ (later ++ breaks) ++ follow) := by
      refine ⟨hrest.noColon hfollow, ?_⟩
      cases form <;> trivial
    rw [append_breaks]
    exact .cons hlead.separators (hitem _ hadmits) hrest

/-- The text of an entry is read as the entry, given that of its value. -/
theorem entryText_reads (style : Style) (name : String) {setting : Setting} {place : Place}
    {s : List Char} {d : Document}
    (hcolumn : ∀ column, setting = .value column → place.column = column)
    (h : ∀ p, ReadsAs setting p s d) :
    ∃ ts, Lexes place (entryText style name s) ts ∧
      ∀ follow, setting.Admits follow → Entry place.column ts follow (name, d) := by
  let afterKey := (place.advance (keyText style name)).advance (spaces style.afterKey)
  let afterColon := (afterKey.advance [':']).advance (spaces style.afterColon)
  obtain ⟨breaks, ts, hs, hbreaks, hdeeper, hitem⟩ := h afterColon
  have hvalue := (closed_spaces (afterKey.advance [':']) style.afterColon).append_lexes hs
  have hcolon := (closed_punctuation (c := ':') rfl afterKey).append_lexes hvalue
  have hkey := (closed_spaces _ style.afterKey).append_lexes hcolon
  have hboundary : Boundary (spaces style.afterKey ++ ([':'] ++ (spaces style.afterColon ++ s))) :=
    (boundary_spaces _).append (.cons _ (by decide))
  obtain ⟨token, hlexes, hname⟩ := exists_lexes_keyText style name place
  refine ⟨⟨token, place⟩ :: ⟨.colon, afterKey⟩ :: (breaks ++ ts), ?_, ?_⟩
  · rw [entryText, List.append_assoc]
    exact hlexes.append hboundary hkey
  · intro follow hfollow
    refine Entry.intro (x := ⟨token, place⟩) hname rfl hbreaks ?_ (hitem follow hfollow)
    intro hsome
    obtain ⟨column, hsetting, hstarts⟩ := hdeeper hsome
    rw [hcolumn column hsetting]
    exact hstarts

/-- The text of entries starts with that of the first entry, which is read as the entry. -/
theorem fieldsText_cons_reads (name : String) {d : Document} (hd : Readable d)
    {fields : List (String × Document)} {layout : Layout} {form : Form} {column : Nat}
    {lead : List Char} {leads : List Lexeme} {place : Place} {i : Nat} {P : List Lexeme → Prop}
    (hlead : Leads form column place lead leads)
    (hfields : ∀ p, ∃ later,
      Lexes p (fieldsText layout form column (form.between column) (i + 1) fields) later ∧
        P later) :
    ∃ c ts commas later, Lexes place (fieldsText layout form column lead i ((name, d) :: fields))
        (leads ++ ts ++ (commas ++ later)) ∧ (form ≠ .line → c = column) ∧ Trails form commas ∧
      P later ∧ ∀ follow, (form.valueSetting column).Admits follow → Entry c ts follow (name, d) := by
  let style := (layout.child i).style
  let start := (place.advance lead).advance (form.inset style.before)
  have hstart : form ≠ .line → start.column = column := by
    intro hform
    rw [← hlead.column_eq hform]
    cases form with
    | line => contradiction
    | block => rfl
    | implied => rfl
  have hvalue : ∀ p, ReadsAs (form.valueSetting column) p
      (valueText (layout.child i) (form.valueSetting column) d) d := by
    intro p
    apply hd
    cases form <;> simp [Form.valueSetting]
  have hcolumn : ∀ c, form.valueSetting column = .value c → start.column = c := by
    intro c hc
    cases form with
    | line => contradiction
    | block => exact (hstart (by simp)).trans (Setting.value.inj hc)
    | implied => exact (hstart (by simp)).trans (Setting.value.inj hc)
  obtain ⟨ts, hts, hentry⟩ := entryText_reads style name hcolumn hvalue
  obtain ⟨commas, later, hlexes, htrails, hP⟩ := exists_lexes_child hlead.closed
    (closed_inset form style.before _) hts style.after form style.comma hfields
    (boundary_fieldsText layout form column (boundary_between form column)
      (form.between_ne_nil column) _ _)
  refine ⟨start.column, ts, commas, later, ?_, hstart, htrails, hP, hentry⟩
  rw [fieldsText]
  exact hlexes

/-- The text of readable entries in braces is read as the entries, with more line ends behind the
    last of them. Where the entries start lines, only an entry in the same column follows. -/
theorem fieldsText_reads {fields : List (String × Document)} (hfields : ∀ f ∈ fields, Readable f.2)
    (layout : Layout) (form : Form) (column : Nat) {lead : List Char} {leads : List Lexeme}
    {place : Place} (i : Nat) (hlead : Leads form column place lead leads) :
    ∃ ts, Lexes place (fieldsText layout form column lead i fields) ts ∧
      ∀ breaks close follow, Newlines breaks → close.token = .closeBrace →
        Fields (ts ++ breaks) (close :: follow) fields ∧
          (form ≠ .line → ∀ c, column ≠ c → ¬Continues c (ts ++ breaks ++ close :: follow)) := by
  induction fields generalizing lead leads place i with
  | nil =>
    refine ⟨[], ?_, fun breaks close follow hbreaks hclose => ⟨.nil hbreaks.separators, ?_⟩⟩
    · rw [fieldsText]
      exact (closed_nil place).lexes
    · intro _ c _
      exact not_continues_close hbreaks hclose c follow
  | cons field fields ih =>
    obtain ⟨name, d⟩ := field
    obtain ⟨c, ts, commas, later, hlexes, hc, htrails, hothers, hentry⟩ :=
      fieldsText_cons_reads name (hfields (name, d) (by simp)) hlead fun p => by
        obtain ⟨next, hnext, -⟩ := exists_leads_between form column p
        exact ih (fun x hx => hfields x (by simp [hx])) (i + 1) hnext
    refine ⟨leads ++ ts ++ (commas ++ later), hlexes, ?_⟩
    intro breaks close follow hbreaks hclose
    obtain ⟨hlater, hcontinues⟩ := hothers breaks close follow hbreaks hclose
    have hrest : Fields (commas ++ (later ++ breaks)) (close :: follow) fields :=
      hlater.prepend htrails.separators
    -- Behind the value stands a comma, the next entry in the same column, or the end.
    have hend : form ≠ .line → ∀ c', column < c' →
        ¬Continues c' (commas ++ (later ++ breaks) ++ close :: follow) := by
      intro hform c' hlt
      obtain rfl | ⟨-, p, rfl⟩ := htrails
      · exact hcontinues hform c' (by omega)
      · exact not_continues_cons (by simp) c' _
    have hadmits : (form.valueSetting column).Admits
        (commas ++ (later ++ breaks) ++ close :: follow) := by
      refine ⟨hrest.noColon (.cons (by simp [hclose]) follow), ?_⟩
      cases form with
      | line => trivial
      | block => exact hend (by simp)
      | implied => exact hend (by simp)
    rw [append_breaks]
    refine ⟨.cons hlead.separators (hentry _ hadmits) hrest, ?_⟩
    intro hform c' hne
    have hstart := (hentry _ hadmits).startsEntry
      (commas ++ (later ++ breaks) ++ close :: follow)
    rw [hc hform] at hstart
    have hother := hstart.not_continues (hlead.newlines hform) hne
    simpa only [List.append_assoc] using hother

end RuleGraph.Cson
