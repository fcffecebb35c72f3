import Mathlib.Data.List.Basic
import RuleGraph.Proofs.Document.Fields
import RuleGraph.PropertyList.Document

namespace RuleGraph.PropertyList

/-- Values that stand in the events of a property list have no parts: those come from the events
    around them. -/
def Leaves (events : List Event) : Prop :=
  ∀ d, .value d ∈ events → d.isSingle = true

theorem Leaves.tail {e : Event} {events : List Event} (h : Leaves (e :: events)) : Leaves events :=
  fun d hd => h d (List.mem_cons_of_mem e hd)

theorem Leaves.append {events later : List Event} (h : Leaves events) (hlater : Leaves later) :
    Leaves (events ++ later) :=
  fun d hd => (List.mem_append.1 hd).elim (h d) (hlater d)

mutual

/-- A value has distinct names wherever events are read as one, and what is left over is events of
    the same kind. -/
theorem value?_distinctNames {events : List Event} (hleaves : Leaves events)
    {p : Parsed Document events} (h : value? events = some p) :
    p.value.DistinctNames ∧ Leaves p.rest := by
  unfold value? at h
  split at h
  · cases h
  · cases h
  · rename_i d rest
    obtain rfl := Option.some.inj h
    exact ⟨Document.distinctNames_of_isSingle (hleaves d List.mem_cons_self), hleaves.tail⟩
  · obtain ⟨items, hitems, rfl⟩ := Option.map_eq_some_iff.1 h
    obtain ⟨hnames, hrest⟩ := items?_distinctNames hleaves.tail hitems
    exact ⟨.array hnames, hrest⟩
  · obtain ⟨fields, hfields, rfl⟩ := Option.map_eq_some_iff.1 h
    obtain ⟨hnames, hrest⟩ := fields?_distinctNames hleaves.tail hfields
    exact ⟨Document.distinctNames_ofFields hnames, hrest⟩
termination_by (events.length, 0)

/-- The items of an array have distinct names, and what follows the array has values without parts
    only. -/
theorem items?_distinctNames {events : List Event} (hleaves : Leaves events)
    {p : Parsed (List Document) events} (h : items? events = some p) :
    (∀ d ∈ p.value, d.DistinctNames) ∧ Leaves p.rest := by
  unfold items? at h
  split at h
  · obtain rfl := Option.some.inj h
    exact ⟨List.forall_mem_nil _, hleaves.tail⟩
  · split at h
    · cases h
    · rename_i item hitem
      have hshorter := item.shorter
      obtain ⟨hfirst, hbehind⟩ := value?_distinctNames hleaves hitem
      obtain ⟨items, hitems, rfl⟩ := Option.map_eq_some_iff.1 h
      obtain ⟨hothers, hrest⟩ := items?_distinctNames hbehind hitems
      exact ⟨List.forall_mem_cons.2 ⟨hfirst, hothers⟩, hrest⟩
termination_by (events.length, 1)

/-- The values of a dictionary have distinct names. -/
theorem fields?_distinctNames {events : List Event} (hleaves : Leaves events)
    {p : Parsed (List (String × Document)) events} (h : fields? events = some p) :
    (∀ f ∈ p.value, f.2.DistinctNames) ∧ Leaves p.rest := by
  unfold fields? at h
  split at h
  · obtain rfl := Option.some.inj h
    exact ⟨List.forall_mem_nil _, hleaves.tail⟩
  · split at h
    · cases h
    · rename_i name behind _ item hitem
      have hshorter : item.rest.length < (Event.value (.string name) :: behind).length :=
        Nat.lt_succ_of_lt item.shorter
      obtain ⟨hfirst, hbehind⟩ := value?_distinctNames hleaves.tail hitem
      obtain ⟨fields, hfields, rfl⟩ := Option.map_eq_some_iff.1 h
      obtain ⟨hothers, hrest⟩ := fields?_distinctNames hbehind hfields
      exact ⟨List.forall_mem_cons.2 ⟨hfirst, hothers⟩, hrest⟩
  · cases h
termination_by (events.length, 0)

end

/-- A document of events whose values have no parts has distinct names, since its fields are set one
    after the other. -/
theorem documentOfEvents?_distinctNames {events : List Event} (hleaves : Leaves events)
    {d : Document} (h : documentOfEvents? events = some d) : d.DistinctNames := by
  unfold documentOfEvents? at h
  split at h
  · rename_i p hp
    obtain ⟨-, heq⟩ := Option.ite_none_right_eq_some.1 h
    obtain rfl := Option.some.inj heq
    exact (value?_distinctNames hleaves hp).1
  · cases h

namespace Xml

/-- An element that holds a text is a value without parts. -/
theorem Leaf.isSingle_of_value? {leaf : Leaf} {text : String} {d : Document}
    (h : leaf.value? text = some d) : d.isSingle = true := by
  cases leaf with
  | string =>
    obtain rfl := Option.some.inj h
    rfl
  | integer =>
    obtain ⟨n, -, rfl⟩ := Option.map_eq_some_iff.1 h
    rfl
  | real =>
    rw [value?, real?] at h
    split at h
    · obtain rfl := Option.some.inj h
      rfl
    · obtain ⟨x, -, rfl⟩ := Option.map_eq_some_iff.1 h
      exact Document.isSingle_ofFloat _
  | date | data =>
    obtain ⟨-, heq⟩ := Option.ite_none_right_eq_some.1 h
    obtain rfl := Option.some.inj heq
    rfl

/-- The values among the steps through a file have no parts. -/
def LeafSteps (steps : List Step) : Prop :=
  ∀ d, .event (.value d) ∈ steps → d.isSingle = true

theorem LeafSteps.cons {step : Step} {rest : List Step}
    (hstep : ∀ d, step = .event (.value d) → d.isSingle = true) (h : LeafSteps rest) :
    LeafSteps (step :: rest) :=
  fun d hd => (List.mem_cons.1 hd).elim (fun heq => hstep d heq.symm) (h d)

theorem leafSteps_broken : LeafSteps [.broken] := by
  simp [LeafSteps]

mutual

/-- The steps through the pieces of a file make values without parts only. The recursion follows the
    two readers of pieces, inside a text and outside of one. -/
theorem leafSteps_steps (outer : List (List Char)) (pieces : List Piece) :
    LeafSteps (steps outer pieces) := by
  match pieces with
  | [] => simp [steps, LeafSteps]
  | .broken :: _ | .reference _ :: _ => exact leafSteps_broken
  | .declaration :: rest => exact .cons (by simp) (leafSteps_steps outer rest)
  | .text content :: rest =>
    rw [steps]
    split
    · exact leafSteps_steps outer rest
    · exact leafSteps_broken
  | .closing name :: rest =>
    cases outer with
    | nil => exact leafSteps_broken
    | cons inner outer =>
      rw [steps]
      split
      · unfold closingSteps
        split
        · exact .cons (by simp) (leafSteps_steps outer rest)
        · exact .cons (by simp) (leafSteps_steps outer rest)
        · exact leafSteps_steps outer rest
      · exact leafSteps_broken
  | .opening name :: rest =>
    rw [steps]
    split
    · exact leafSteps_broken
    · exact leafSteps_steps _ rest
    · exact .cons (by simp) (leafSteps_steps _ rest)
    · exact .cons (by simp) (leafSteps_steps _ rest)
    · exact .cons (by rintro _ ⟨⟩; rfl) (leafSteps_steps _ rest)
    · exact leafSteps_leafSteps outer name _ "" rest

theorem leafSteps_leafSteps (outer : List (List Char)) (name : List Char) (leaf : Leaf)
    (text : String) (pieces : List Piece) : LeafSteps (leafSteps outer name leaf text pieces) := by
  match pieces with
  | [] | .broken :: _ | .opening _ :: _ => exact leafSteps_broken
  | .declaration :: rest => exact leafSteps_leafSteps outer name leaf text rest
  | .text content :: rest => exact leafSteps_leafSteps outer name leaf _ rest
  | .reference reference :: rest =>
    rw [leafSteps]
    split
    · exact leafSteps_leafSteps outer name leaf _ rest
    · exact leafSteps_broken
  | .closing closed :: rest =>
    rw [leafSteps]
    split
    · split
      · rename_i value hvalue
        refine .cons ?_ (leafSteps_steps outer rest)
        rintro _ ⟨⟩
        exact leaf.isSingle_of_value? hvalue
      · exact leafSteps_broken
    · exact leafSteps_broken

end

/-- The events of such steps have values without parts. -/
theorem leaves_of_eventsOfSteps? {steps : List Step} {events : List Event}
    (hsteps : LeafSteps steps) (h : eventsOfSteps? steps = some events) : Leaves events := by
  induction steps generalizing events with
  | nil =>
    obtain rfl := Option.some.inj h
    simp [Leaves]
  | cons step steps ih =>
    have htail : LeafSteps steps := fun d hd => hsteps d (List.mem_cons_of_mem _ hd)
    cases step with
    | declaration => exact ih htail h
    | broken => cases h
    | event e =>
      obtain ⟨later, hlater, rfl⟩ := Option.map_eq_some_iff.1 h
      intro d hd
      obtain rfl | hd := List.mem_cons.1 hd
      · exact hsteps d List.mem_cons_self
      · exact ih htail hlater d hd

theorem leafSteps_stepsOfFile (input : ByteArray) : LeafSteps (stepsOfFile input) := by
  unfold stepsOfFile
  split
  · exact leafSteps_steps _ _
  · exact leafSteps_broken

end Xml

namespace OldStyle

theorem leaves_of_bare? {first c : Char} {r : List Char} {found : Found (c :: r)}
    (h : bare? first r c = some found) : Leaves found.value := by
  obtain ⟨value, hvalue, rfl⟩ := Option.map_eq_some_iff.1 h
  intro d hd
  obtain ⟨⟩ : d = value := by simpa using hd
  obtain ⟨text, -, rfl⟩ := Option.map_eq_some_iff.1 hvalue
  split <;> rfl

theorem leaves_of_quoted? {quote : Char} {r : List Char} {found : Found (quote :: r)}
    (h : quoted? quote r = some found) : Leaves found.value := by
  unfold quoted? at h
  split at h
  · cases h
  · obtain ⟨text, -, rfl⟩ := Option.map_eq_some_iff.1 h
    intro d hd
    obtain ⟨⟩ : d = .string text := by simpa [Parsed.map, Parsed.widen] using hd
    rfl

theorem leaves_of_slash? {slash : Char} {r : List Char} {found : Found (slash :: r)}
    (h : slash? slash r = some found) : Leaves found.value := by
  unfold slash? at h
  split at h
  · cases h
  · obtain rfl := Option.some.inj h
    simp [Leaves]
  · split at h
    · cases h
    · obtain rfl := Option.some.inj h
      simp [Leaves]
  · exact leaves_of_bare? h

theorem leaves_of_eventsOfMark? {c : Char} {events : List Event}
    (h : eventsOfMark? c = some events) : Leaves events := by
  unfold eventsOfMark? at h
  split at h <;> simp only [Option.some.injEq, reduceCtorEq] at h <;> subst h <;> simp [Leaves]

/-- Each mark of the old style makes values without parts, if it makes any. -/
theorem leaves_of_next? {c : Char} {r : List Char} {found : Found (c :: r)}
    (h : next? c r = some found) : Leaves found.value := by
  unfold next? at h
  split at h
  · rename_i events hevents
    obtain rfl := Option.some.inj h
    exact leaves_of_eventsOfMark? hevents
  · split at h
    · exact leaves_of_quoted? h
    · split at h
      · exact leaves_of_slash? h
      · exact leaves_of_bare? h

/-- The events of a file in the old style have values without parts. -/
theorem leaves_of_events? {s : List Char} {events : List Event} (h : events? s = some events) :
    Leaves events := by
  fun_induction events? s generalizing events with
  | case1 =>
    obtain rfl := Option.some.inj h
    simp [Leaves]
  | case2 => cases h
  | case3 c r found hfound ih =>
    obtain ⟨later, hlater, rfl⟩ := Option.map_eq_some_iff.1 h
    exact (leaves_of_next? hfound).append (ih hlater)

end OldStyle

namespace Binary

theorem isSingle_of_integer? {input : ByteArray} {start low : Nat} {d : Document}
    (h : integer? input start low = some d) : d.isSingle = true := by
  unfold integer? at h
  split at h
  any_goals
    obtain ⟨n, -, rfl⟩ := Option.map_eq_some_iff.1 h
    rfl
  · split at h
    · obtain ⟨-, heq⟩ := Option.ite_none_right_eq_some.1 h
      obtain rfl := Option.some.inj heq
      rfl
    · cases h
  · cases h

/-- What a binary property list holds outside of arrays and dictionaries is a value without parts.
    -/
theorem isSingle_of_leaf? {input : ByteArray} {start high low : Nat} {d : Document}
    (h : leaf? input start high low = some d) : d.isSingle = true := by
  unfold leaf? at h
  split at h
  · split at h
    · obtain rfl := Option.some.inj h
      rfl
    · obtain ⟨-, heq⟩ := Option.ite_none_right_eq_some.1 h
      obtain rfl := Option.some.inj heq
      rfl
  · exact isSingle_of_integer? h
  · obtain ⟨x, -, rfl⟩ := Option.map_eq_some_iff.1 h
    exact Document.isSingle_ofFloat x
  · obtain ⟨-, hdate⟩ := Option.ite_none_right_eq_some.1 h
    split at hdate
    · obtain ⟨-, heq⟩ := Option.ite_none_right_eq_some.1 hdate
      obtain rfl := Option.some.inj heq
      rfl
    · cases hdate
  · obtain ⟨place, -, hbytes⟩ := Option.bind_eq_some_iff.1 h
    obtain ⟨bytes, -, hnull⟩ := Option.bind_eq_some_iff.1 hbytes
    obtain rfl := Option.some.inj hnull
    rfl
  · obtain ⟨place, -, htext⟩ := Option.bind_eq_some_iff.1 h
    obtain ⟨text, -, rfl⟩ := Option.map_eq_some_iff.1 htext
    rfl
  · obtain ⟨place, -, htext⟩ := Option.bind_eq_some_iff.1 h
    obtain ⟨text, -, rfl⟩ := Option.map_eq_some_iff.1 htext
    rfl
  · obtain ⟨-, hnull⟩ := Option.ite_none_right_eq_some.1 h
    obtain ⟨n, -, rfl⟩ := Option.map_eq_some_iff.1 hnull
    rfl
  · cases h

/-- What holds of every object that is found holds of all of them. -/
theorem forall_of_mapM {α β : Type} {f : α → Option β} {p : β → Prop}
    (hf : ∀ {x y}, f x = some y → p y) {xs : List α} {ys : List β} (h : xs.mapM f = some ys) :
    ∀ y ∈ ys, p y := by
  induction xs generalizing ys with
  | nil =>
    obtain rfl := Option.some.inj h
    exact List.forall_mem_nil _
  | cons x xs ih =>
    rw [List.mapM_cons] at h
    obtain ⟨first, hfirst, h⟩ := Option.bind_eq_some_iff.1 h
    obtain ⟨others, hothers, h⟩ := Option.bind_eq_some_iff.1 h
    obtain rfl := Option.some.inj h
    exact List.forall_mem_cons.2 ⟨hf hfirst, ih hothers⟩

/-- An object has distinct names, however deep it nests. -/
theorem distinctNames_of_object? {file : File} {depth reference : Nat} {d : Document}
    (h : object? file depth reference = some d) : d.DistinctNames := by
  induction depth generalizing reference d with
  | zero => cases h
  | succ depth ih =>
    rw [object?] at h
    obtain ⟨place, -, h⟩ := Option.bind_eq_some_iff.1 h
    split at h
    · cases h
    obtain ⟨mark, -, h⟩ := Option.bind_eq_some_iff.1 h
    dsimp only at h
    split at h
    · obtain ⟨found, -, h⟩ := Option.bind_eq_some_iff.1 h
      obtain ⟨references, -, h⟩ := Option.bind_eq_some_iff.1 h
      obtain ⟨items, hitems, h⟩ := Option.bind_eq_some_iff.1 h
      obtain rfl := Option.some.inj h
      exact .array (forall_of_mapM ih hitems)
    · split at h
      · obtain ⟨found, -, h⟩ := Option.bind_eq_some_iff.1 h
        obtain ⟨names, -, h⟩ := Option.bind_eq_some_iff.1 h
        obtain ⟨references, -, h⟩ := Option.bind_eq_some_iff.1 h
        obtain ⟨names, -, h⟩ := Option.bind_eq_some_iff.1 h
        obtain ⟨values, hvalues, h⟩ := Option.bind_eq_some_iff.1 h
        obtain rfl := Option.some.inj h
        refine Document.distinctNames_ofFields fun f hf => ?_
        exact forall_of_mapM ih hvalues _ (List.of_mem_zip hf).2
      · exact Document.distinctNames_of_isSingle (isSingle_of_leaf? h)

end Binary

/-- In a property list of any kind no dictionary has a name twice. -/
theorem distinctNames_of_parse? {input : ByteArray} {d : Document} (h : parse? input = some d) :
    d.DistinctNames := by
  unfold parse? at h
  split at h
  · cases h
  · split at h
    · obtain ⟨file, -, hobject⟩ := Option.bind_eq_some_iff.1 h
      exact Binary.distinctNames_of_object? hobject
    · unfold parseText? at h
      split at h
      · obtain ⟨events, hevents, hd⟩ := Option.bind_eq_some_iff.1 h
        exact documentOfEvents?_distinctNames (OldStyle.leaves_of_events? hevents) hd
      · obtain ⟨events, hevents, hd⟩ := Option.bind_eq_some_iff.1 h
        exact documentOfEvents?_distinctNames
          (Xml.leaves_of_eventsOfSteps? (Xml.leafSteps_stepsOfFile input) hevents) hd

end RuleGraph.PropertyList
