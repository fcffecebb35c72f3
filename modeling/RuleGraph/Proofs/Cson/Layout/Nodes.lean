import RuleGraph.Cson.Parser
import RuleGraph.Proofs.Cson.Layout.Children
import RuleGraph.Proofs.Entries

namespace RuleGraph.Cson

/-- In front of everything that does not go on with them, the tokens are the entries of an implied
    object in the given column. -/
def ReadsAsImplied (column : Nat) (ts : List Lexeme) (fields : List (String × Document)) : Prop :=
  ∀ follow, NoColon follow → (∀ c, column ≤ c → ¬Continues c follow) →
    Implied column ts follow fields

theorem ReadsAsImplied.last {column : Nat} {ts : List Lexeme} {e : String × Document}
    (hentry : ∀ follow, (Setting.value column).Admits follow → Entry column ts follow e) :
    ReadsAsImplied column ts [e] := by
  intro follow hfollow hend
  have hadmits : (Setting.value column).Admits follow :=
    ⟨hfollow, fun c hlt => hend c (by omega)⟩
  exact .last (hentry follow hadmits) (hend column (by omega))

/-- An entry, line ends and an implied object in the same column make an implied object. -/
theorem ReadsAsImplied.more {column : Nat} {ts breaks others : List Lexeme}
    {e : String × Document} {fields : List (String × Document)}
    (hentry : ∀ follow, (Setting.value column).Admits follow → Entry column ts follow e)
    (hsome : breaks ≠ []) (hbreaks : Newlines breaks)
    (hothers : ReadsAsImplied column others fields) :
    ReadsAsImplied column (ts ++ breaks ++ others) (e :: fields) := by
  intro follow hfollow hend
  have himplied := hothers follow hfollow hend
  have hnext := himplied.startsEntry follow
  -- The next entry stands in the column of its object, too far left to go on with the value.
  have hadmits : (Setting.value column).Admits (breaks ++ others ++ follow) := by
    rw [List.append_assoc]
    refine ⟨.append hbreaks.separators.ne_colon hnext.startsItem.noColon, ?_⟩
    intro c hlt
    exact hnext.not_continues hbreaks (by omega)
  exact .more (hentry _ hadmits) hsome hbreaks himplied

/-- The text of the entries of an implied object is read as the entries in their column. -/
theorem impliedText_reads {field : String × Document} {fields : List (String × Document)}
    (hfields : ∀ f ∈ field :: fields, Readable f.2) (layout : Layout) (column : Nat)
    {lead : List Char} {leads : List Lexeme} {place : Place} (i : Nat)
    (hlead : Leads .implied column place lead leads) :
    ∃ ts, Lexes place (fieldsText layout .implied column lead i (field :: fields)) (leads ++ ts) ∧
      ReadsAsImplied column ts (field :: fields) := by
  induction fields generalizing field lead leads place i with
  | nil =>
    obtain ⟨c, ts, commas, later, hlexes, hc, htrails, rfl, hentry⟩ :=
      fieldsText_cons_reads field.1 (P := (· = [])) (hfields field (by simp)) hlead
        fun p => ⟨[], by rw [fieldsText]; exact (closed_nil p).lexes, rfl⟩
    obtain rfl := hc (by simp)
    obtain rfl | ⟨hform, -⟩ := htrails
    · exact ⟨ts, by simpa using hlexes, .last hentry⟩
    · contradiction
  | cons next fields ih =>
    have hnext : ∀ f ∈ next :: fields, Readable f.2 :=
      fun f hf => hfields f (List.mem_cons_of_mem field hf)
    obtain ⟨c, ts, commas, later, hlexes, hc, htrails, hlater, hentry⟩ :=
      fieldsText_cons_reads field.1
        (P := fun later => ∃ breaks others, later = breaks ++ others ∧ breaks ≠ [] ∧
          Newlines breaks ∧ ReadsAsImplied column others (next :: fields))
        (hfields field (by simp)) hlead fun p => by
          obtain ⟨breaks, hbreaks, hsome⟩ := exists_leads_between .implied column p
          obtain ⟨others, hothers, himplied⟩ := ih hnext (i + 1) hbreaks
          exact ⟨_, hothers, breaks, others, rfl, hsome, hbreaks.newlines (by simp), himplied⟩
    obtain ⟨breaks, others, rfl, hsome, hbreaks, himplied⟩ := hlater
    obtain rfl := hc (by simp)
    obtain rfl | ⟨hform, -⟩ := htrails
    · exact ⟨ts ++ breaks ++ others, by simpa using hlexes, .more hentry hsome hbreaks himplied⟩
    · contradiction

/-- What stands before an implied object, in settings where there can be one. -/
theorem exists_leads_implied {setting : Setting} {style : Style} {column : Nat} {place : Place}
    (hcolumn : setting.impliedColumn? style = some column)
    (hplace : setting = .document → place.column = style.before) :
    ∃ leads, Leads .implied column place (setting.beforeImplied column) leads ∧
      (leads ≠ [] → ∃ owner, setting = .value owner ∧ owner < column) ∧
      ∀ follow, setting.Admits follow → ∀ c, column ≤ c → ¬Continues c follow := by
  cases setting with
  | document =>
    obtain rfl := Option.some.inj hcolumn
    refine ⟨[], ⟨closed_nil place, by simp [Separators], by simp [Newlines], ?_⟩, by simp, ?_⟩
    · exact fun _ => hplace rfl
    · exact fun follow hfollow c _ => hfollow.2 c
  | value owner =>
    obtain rfl := Option.some.inj hcolumn
    refine ⟨_, leads_lineStart .implied _ place, fun _ => ⟨owner, rfl, by omega⟩, ?_⟩
    exact fun follow hfollow c hle => hfollow.2 c (by omega)
  | line => contradiction
  | item => contradiction

theorem StartsEntry.startsDeeper {column owner : Nat} {ts : List Lexeme}
    (h : StartsEntry column ts) (hlt : owner < column) : StartsDeeper owner ts := by
  obtain ⟨-, -⟩ := h
  exact ⟨_, _, rfl, hlt⟩

/-- Fields with distinct names make an object of just these fields. -/
theorem ofFields_of_nodup {fields : List (String × Document)}
    (hnames : (entryNames fields).Nodup) : Document.ofFields fields = .object fields := by
  have hset : setEntries [] fields = [] ++ fields := setEntries_of_nodup hnames
  rw [Document.ofFields, hset, List.nil_append]

/-- An object is read back where it is written as an implied one. -/
theorem impliedObject_reads {fields : List (String × Document)}
    (hnames : (entryNames fields).Nodup) (hfields : ∀ f ∈ fields, Readable f.2) (layout : Layout)
    {setting : Setting} {place : Place} {column : Nat}
    (himplies : setting.implies? layout.style fields = some column)
    (hplace : setting = .document → place.column = layout.style.before) :
    ReadsAs setting place
      (fieldsText layout .implied column (setting.beforeImplied column) 0 fields)
      (.object fields) := by
  have hchosen : fields ≠ [] ∧ setting.impliedColumn? layout.style = some column := by
    rw [Setting.implies?] at himplies
    split at himplies
    · rename_i hform
      exact ⟨hform.2, himplies⟩
    · contradiction
  obtain ⟨leads, hleads, howner, hend⟩ := exists_leads_implied hchosen.2 hplace
  cases fields with
  | nil => exact absurd rfl hchosen.1
  | cons field fields =>
    obtain ⟨ts, hlexes, himplied⟩ := impliedText_reads hfields layout column 0 hleads
    refine ⟨leads, ts, hlexes, hleads.newlines (by simp), ?_, ?_⟩
    · intro hsome
      obtain ⟨owner, hsetting, hlt⟩ := howner hsome
      have hstart := (himplied [] (by simp [NoColon])
        fun c _ => Newlines.not_continues (by simp [Newlines]) c).startsEntry []
      rw [List.append_nil] at hstart
      exact ⟨owner, hsetting, hstart.startsDeeper hlt⟩
    · intro follow hfollow
      have hobject := himplied follow hfollow.1 (hend follow hfollow)
      have hitem := Item.implied (hobject.startsEntry follow) hobject
      rw [ofFields_of_nodup hnames] at hitem
      exact hitem

/-- Brackets are read around what stands between them, with the line end in front of the closing
    one. -/
theorem exists_lexes_bracketed (opening closing : Char) {opened closed : Token}
    (hopening : punctuation opening = some opened) (hclosing : punctuation closing = some closed)
    (hboundary : Boundary [closing]) {s : List Char} {P : List Lexeme → Prop}
    (hs : ∀ p, ∃ ts, Lexes p s ts ∧ P ts) (form : Form) (n : Nat) (place : Place) :
    ∃ ts breaks p, Lexes place (opening :: (s ++ form.closing n ++ [closing]))
        (⟨opened, place⟩ :: (ts ++ breaks ++ [⟨closed, p⟩])) ∧ Newlines breaks ∧ P ts := by
  obtain ⟨ts, hts, hP⟩ := hs (place.advance [opening])
  let behind := (place.advance [opening]).advance s
  have hbreaks : ∃ breaks, Closed behind (form.closing n) breaks ∧ Newlines breaks := by
    cases form with
    | line => exact ⟨[], closed_spaces behind n, by simp [Newlines]⟩
    | block => exact ⟨_, closed_lineStart behind n, by simp [Newlines]⟩
    | implied => exact ⟨_, closed_lineStart behind n, by simp [Newlines]⟩
  have hclosingBoundary : Boundary (form.closing n) := by
    cases form with
    | line => exact boundary_spaces n
    | block => exact boundary_lineStart n
    | implied => exact boundary_lineStart n
  obtain ⟨breaks, hclosed, hnewlines⟩ := hbreaks
  let last := behind.advance (form.closing n)
  have hlast := hclosed.append_lexes (closed_punctuation hclosing last).lexes
  have hinner := hts.append (hclosingBoundary.append hboundary) hlast
  have hall := (closed_punctuation hopening place).append_lexes hinner
  refine ⟨ts, breaks, last, ?_, hnewlines, hP⟩
  simpa only [List.append_assoc, List.cons_append, List.nil_append] using hall

/-- An array is read back in every layout if its items are. -/
theorem readable_array {items : List Document} (hitems : ∀ d ∈ items, Readable d) :
    Readable (.array items) := by
  intro layout setting place _
  rw [valueText]
  let form := setting.bracketForm layout.style.form
  obtain ⟨ts, breaks, p, hlexes, hbreaks, hread⟩ := exists_lexes_bracketed '[' ']' rfl rfl
    (.cons _ (by decide)) (fun p => by
      obtain ⟨leads, hleads⟩ := exists_leads_opening form 0 p
      exact itemsText_reads hitems layout form 0 hleads) form layout.style.closing place
  refine readsAs_of_item hlexes ?_
  intro follow hfollow
  exact .value (fun column => not_startsEntry_of_keyText? rfl column _)
    (.array rfl (hread breaks _ hbreaks (.cons (by simp) follow)) rfl)

/-- An object is read back in every layout if its values are. In brackets the entries end where the
    closing one stands; an implied object ends where no entry in its column follows. -/
theorem readable_object {fields : List (String × Document)} (hnames : (entryNames fields).Nodup)
    (hfields : ∀ f ∈ fields, Readable f.2) : Readable (.object fields) := by
  intro layout setting place hplace
  rw [valueText]
  cases himplies : setting.implies? layout.style fields with
  | some column => exact impliedObject_reads hnames hfields layout himplies hplace
  | none =>
    let form := setting.bracketForm layout.style.form
    let column := layout.style.indent
    obtain ⟨ts, breaks, p, hlexes, hbreaks, hread⟩ := exists_lexes_bracketed '\x7b' '\x7d' rfl rfl
      (.cons _ (by decide)) (fun p => by
        obtain ⟨leads, hleads⟩ := exists_leads_opening form column p
        exact fieldsText_reads hfields layout form column 0 hleads) form layout.style.closing place
    refine readsAs_of_item hlexes ?_
    intro follow _
    have hobject := (hread breaks ⟨.closeBrace, p⟩ follow hbreaks rfl).1
    rw [← ofFields_of_nodup hnames]
    exact .value (fun column => not_startsEntry_of_keyText? rfl column _)
      (.object rfl hobject rfl)

end RuleGraph.Cson
