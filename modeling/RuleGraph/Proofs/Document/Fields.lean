import Mathlib.Data.List.Perm.Basic
import RuleGraph.Document.Basic
import RuleGraph.Proofs.Entries

namespace RuleGraph

namespace Document

/-- The parts that a document consists of. -/
def parts : Document → List Document
  | .array items => items
  | .object fields => fields.map Prod.snd
  | _ => []

/-- No object in the document has two fields of one name. -/
inductive DistinctNames : Document → Prop where
  | null : DistinctNames .null
  | bool (value : Bool) : DistinctNames (.bool value)
  | int (value : Int) : DistinctNames (.int value)
  | float (value : Binary64) : DistinctNames (.float value)
  | string (text : String) : DistinctNames (.string text)
  | array {items : List Document} (h : ∀ d ∈ items, DistinctNames d) : DistinctNames (.array items)
  | object {fields : List (String × Document)} (hnames : (entryNames fields).Nodup)
      (h : ∀ f ∈ fields, DistinctNames f.2) : DistinctNames (.object fields)

theorem distinctNames_array_iff {items : List Document} :
    (array items).DistinctNames ↔ ∀ d ∈ items, d.DistinctNames := by
  constructor
  · rintro ⟨⟩
    assumption
  · exact .array

/-- An object has distinct names if its own are distinct and its values have distinct names. -/
theorem distinctNames_object_iff {fields : List (String × Document)} :
    (object fields).DistinctNames ↔
      (entryNames fields).Nodup ∧ ∀ f ∈ fields, f.2.DistinctNames := by
  constructor
  · rintro ⟨⟩
    exact ⟨‹_›, ‹_›⟩
  · rintro ⟨hnames, h⟩
    exact .object hnames h

/-- Documents that are read have objects of this kind: a name that comes again gives no second
    field. -/
theorem distinctNames_ofFields {fields : List (String × Document)}
    (h : ∀ f ∈ fields, f.2.DistinctNames) : (ofFields fields).DistinctNames := by
  refine .object (nodup_setEntries fields List.nodup_nil) fun f hf => ?_
  exact h f ((mem_or_mem_of_mem_setEntries hf).resolve_left List.not_mem_nil)

/-- The document has no parts. -/
def isSingle : Document → Bool
  | .array _ | .object _ => false
  | _ => true

theorem distinctNames_of_isSingle {d : Document} (h : d.isSingle = true) : d.DistinctNames := by
  cases d with
  | array items => cases h
  | object fields => cases h
  | _ => constructor

theorem isSingle_ofFloat (x : Binary64) : (ofFloat x).isSingle = true := by
  unfold ofFloat
  split <;> rfl

namespace DistinctNames

/-- Parts of a document have distinct names if the document has. -/
theorem of_mem_parts {d part : Document} (h : d.DistinctNames) (hpart : part ∈ d.parts) :
    part.DistinctNames := by
  cases h with
  | array h => exact h part hpart
  | object hnames h =>
    obtain ⟨field, hfield, rfl⟩ := List.mem_map.1 hpart
    exact h field hfield
  | _ => cases hpart

/-- Induction that steps from a document to the lists among its parts, and on to what is in
    them. -/
theorem list_induction {P : Document → Prop}
    (step : ∀ d, d.DistinctNames →
      (∀ items, Document.array items ∈ d.parts → ∀ item ∈ items, P item) → P d)
    {d : Document} (h : d.DistinctNames) : P d := by
  -- what is in a list two steps down is reached by carrying along what holds of all parts
  suffices hboth : P d ∧ ∀ part ∈ d.parts, P part from hboth.1
  induction h with
  | array h ih =>
    refine ⟨step _ (.array h) fun items hitems => (ih _ hitems).2, fun part hpart => ?_⟩
    exact (ih part hpart).1
  | object hnames h ih =>
    refine ⟨step _ (.object hnames h) fun items hitems => ?_, fun part hpart => ?_⟩
    · obtain ⟨field, hfield, heq⟩ := List.mem_map.1 hitems
      have hparts := (ih field hfield).2
      rwa [heq] at hparts
    · obtain ⟨field, hfield, rfl⟩ := List.mem_map.1 hpart
      exact (ih field hfield).1
  | _ =>
    -- what has no parts
    refine ⟨step _ (by constructor) fun _ hitems => ?_, fun _ hpart => ?_⟩
    · cases hitems
    · cases hpart

end DistinctNames

end Document

/-- The same known fields, in whatever order and among whatever unknown ones. -/
structure SameKnown (known : List String) (fields fields' : List (String × Document)) : Prop where
  nodup : (entryNames fields).Nodup
  nodup' : (entryNames fields').Nodup
  perm : (fields.filter fun f => f.1 ∈ known).Perm (fields'.filter fun f => f.1 ∈ known)

/-- A known name finds the same value in fields that are the same as far as they are known. -/
theorem SameKnown.lookup_eq {known : List String} {fields fields' : List (String × Document)}
    (h : SameKnown known fields fields') {name : String} (hname : name ∈ known) :
    fields.lookup name = fields'.lookup name := by
  obtain ⟨hnodup, hnodup', hperm⟩ := h
  have hmem : ∀ value, (name, value) ∈ fields ↔ (name, value) ∈ fields' := fun value => by
    simpa [hname] using hperm.mem_iff (a := (name, value))
  refine Option.ext fun value => ⟨fun hvalue => ?_, fun hvalue => ?_⟩
  · exact lookup_of_mem hnodup' ((hmem value).1 (mem_of_lookup hvalue))
  · exact lookup_of_mem hnodup ((hmem value).2 (mem_of_lookup hvalue))

section

variable {ε α : Type} {read : Document → Except ε α} {unset : α} {name : String}

theorem toOption_eq_some_iff {x : Except ε α} {a : α} : x.toOption = some a ↔ x = .ok a := by
  cases x <;> simp [Except.toOption]

theorem except_map_eq_ok_iff {β : Type} {f : α → β} {x : Except ε α} {b : β} :
    x.map f = .ok b ↔ ∃ a, x = .ok a ∧ f a = b := by
  cases x <;> simp [Except.map]

/-- What is read from the field of a name, and `unset` if there is no such field. -/
def fieldValue? (read : Document → Except ε α) (unset : α) (name : String)
    (fields : List (String × Document)) : Option α :=
  match fields.lookup name with
  | none => some unset
  | some value => (read value).toOption

theorem fieldValue?_nil : fieldValue? read unset name [] = some unset := rfl

/-- A field that is not there leaves the value unset. -/
theorem fieldValue?_of_not_mem {fields : List (String × Document)}
    (h : name ∉ entryNames fields) : fieldValue? read unset name fields = some unset := by
  rw [fieldValue?, lookup_of_not_mem h]

/-- The first field of a name is the one that is read. -/
theorem fieldValue?_cons (n : String) (value : Document) (fields : List (String × Document)) :
    fieldValue? read unset name ((n, value) :: fields) =
      if name = n then (read value).toOption else fieldValue? read unset name fields := by
  rw [fieldValue?, lookup_cons_eq_ite]
  by_cases h : name = n
  · rw [if_pos h, if_pos h]
  · rw [if_neg h, if_neg h, fieldValue?]

/-- What is read from a field is what stands at its place, if that is so of every value. -/
theorem fieldValue?_eq_some_iff {fields : List (String × Document)}
    {At : Option Document → α → Prop} (hnone : ∀ a, At none a ↔ unset = a)
    (hsome : ∀ value, fields.lookup name = some value → ∀ a, read value = .ok a ↔ At (some value) a)
    {a : α} : fieldValue? read unset name fields = some a ↔ At (fields.lookup name) a := by
  unfold fieldValue?
  cases hlookup : fields.lookup name with
  | none => rw [Option.some.injEq, hnone]
  | some value => rw [toOption_eq_some_iff, hsome value hlookup]

/-- Fields may be read one after the other, each time with what is known already. -/
theorem fieldValue?_cons_eq_some_iff {n : String} {value : Document}
    {fields : List (String × Document)} (hnew : n ∉ entryNames fields) {last : α} :
    fieldValue? read unset name ((n, value) :: fields) = some last ↔
      ∃ first, fieldValue? read unset name [(n, value)] = some first ∧
        fieldValue? read first name fields = some last := by
  simp only [fieldValue?_cons]
  by_cases h : name = n
  · subst h
    simp only [if_true, fieldValue?_of_not_mem hnew, Option.some.injEq, exists_eq_right]
  · simp only [if_neg h, fieldValue?_nil, Option.some.injEq, exists_eq_left']

end

section

variable {σ ε : Type} {set : σ → String → Document → Except ε σ} {first last : σ}

/-- Reads fields one after the other into what is known already. -/
def readFields (set : σ → String → Document → Except ε σ) (known : σ) :
    List (String × Document) → Except ε σ
  | [] => .ok known
  | (name, value) :: fields =>
    match set known name value with
    | .ok known => readFields set known fields
    | .error e => .error e

/-- Whatever goes on field by field reads fields. -/
theorem eq_readFields {f : σ → List (String × Document) → Except ε σ}
    (hnil : ∀ known, f known [] = .ok known)
    (hcons : ∀ known name value fields, f known ((name, value) :: fields) =
      (set known name value).bind fun next => f next fields)
    (known : σ) (fields : List (String × Document)) :
    f known fields = readFields set known fields := by
  induction fields generalizing known with
  | nil => exact hnil known
  | cons field fields ih =>
    obtain ⟨name, value⟩ := field
    rw [hcons, readFields]
    cases set known name value with
    | error e => rfl
    | ok next => exact ih next

/-- Fields are read one after the other, each on what the ones before have made. -/
theorem readFields_cons_eq_ok_iff {name : String} {value : Document}
    {fields : List (String × Document)} :
    readFields set first ((name, value) :: fields) = .ok last ↔
      ∃ next, set first name value = .ok next ∧ readFields set next fields = .ok last := by
  rw [readFields]
  cases set first name value <;> simp

/-- If each field is read as `Reads` says, so are all of them together. -/
theorem readFields_eq_ok_iff {Reads : σ → List (String × Document) → σ → Prop}
    (hnil : ∀ first last, Reads first [] last ↔ first = last)
    (hcons : ∀ first name value fields last, name ∉ entryNames fields →
      (Reads first ((name, value) :: fields) last ↔
        ∃ next, Reads first [(name, value)] next ∧ Reads next fields last))
    (hset : ∀ first name value last,
      set first name value = .ok last ↔ Reads first [(name, value)] last)
    {fields : List (String × Document)} (hnodup : (entryNames fields).Nodup) :
    readFields set first fields = .ok last ↔ Reads first fields last := by
  induction fields generalizing first with
  | nil => rw [readFields, Except.ok.injEq, hnil]
  | cons field fields ih =>
    obtain ⟨name, value⟩ := field
    obtain ⟨hnew, hrest⟩ := List.nodup_cons.1 hnodup
    simp only [readFields_cons_eq_ok_iff, hcons _ _ _ _ _ hnew, hset, ih hrest]

/-- A value may be replaced by one that is read alike. -/
theorem readFields_replaced {name : String} {value value' : Document}
    (h : ∀ first last, set first name value = .ok last ↔ set first name value' = .ok last)
    (before after : List (String × Document)) :
    readFields set first (before ++ (name, value) :: after) = .ok last ↔
      readFields set first (before ++ (name, value') :: after) = .ok last := by
  induction before generalizing first with
  | nil => simp only [List.nil_append, readFields_cons_eq_ok_iff, h]
  | cons field before ih =>
    obtain ⟨n, v⟩ := field
    simp only [List.cons_append, readFields_cons_eq_ok_iff, ih]

end

end RuleGraph
