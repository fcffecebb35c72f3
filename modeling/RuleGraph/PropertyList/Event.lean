import RuleGraph.Document.Basic
import RuleGraph.Parsed

namespace RuleGraph.PropertyList

/-- One step through a property list. The textual forms differ in how they write events, and agree
    in what the events mean. -/
inductive Event where
  /-- An array begins. -/
  | startArray
  /-- A dictionary begins. Its names and values take turns. -/
  | startDictionary
  /-- The array or dictionary that began last ends. -/
  | finish
  /-- A value that holds no others, or the name of one. -/
  | value (document : Document)
  deriving Repr

mutual

/-- One value, with everything in it. -/
def value? (events : List Event) : Option (Parsed Document events) :=
  match events with
  | [] => none
  | .finish :: _ => none
  | .value document :: rest => some ⟨document, rest, by simp⟩
  | .startArray :: rest =>
    (items? rest).map fun p => (p.map Document.array).widen (by simp)
  | .startDictionary :: rest =>
    (fields? rest).map fun p => (p.map Document.ofFields).widen (by simp)
termination_by (events.length, 0)

/-- The values of an array, from behind its beginning. -/
def items? (events : List Event) : Option (Parsed (List Document) events) :=
  match events with
  | .finish :: rest => some ⟨[], rest, by simp⟩
  | events =>
    match value? events with
    | none => none
    | some item =>
      have := item.shorter
      (items? item.rest).map fun items => item.andThen items List.cons
termination_by (events.length, 1)

/-- The names and values of a dictionary, from behind its beginning. Names are strings. -/
def fields? (events : List Event) : Option (Parsed (List (String × Document)) events) :=
  match events with
  | .finish :: rest => some ⟨[], rest, by simp⟩
  | .value (.string name) :: events =>
    match value? events with
    | none => none
    | some item =>
      have := item.shorter
      (fields? item.rest).map fun fields =>
        (item.andThen fields fun value fields => (name, value) :: fields).widen (by simp)
  | _ => none
termination_by (events.length, 0)

end

/-- The document that consists of all events. -/
def documentOfEvents? (events : List Event) : Option Document :=
  match value? events with
  | some document => if document.rest.isEmpty then some document.value else none
  | none => none

end RuleGraph.PropertyList
