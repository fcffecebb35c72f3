import RuleGraph.Entries
import RuleGraph.Toml.Value

namespace RuleGraph.Toml

/-- How a table came to be. Headers and keys with points may name the same table several times, as
    long as each of its parts is defined once. -/
inductive Origin where
  /-- Its own header was read. -/
  | header
  /-- A header named it on the way to another table. -/
  | passed
  /-- A key with points named it. -/
  | dotted
  deriving Repr, DecidableEq

/-- A part of a document that is being read. -/
inductive Node where
  /-- A value that is complete. -/
  | value (value : Value)
  /-- A table that may get further fields. -/
  | table (origin : Origin) (fields : List (String × Node))
  /-- A list of tables, of which the last one may get further fields. -/
  | tables (earlier : List (List (String × Node))) (last : List (String × Node))

/-- The fields of a table that is being read. -/
abbrev Fields := List (String × Node)

/-- Whether a key with points may go through a table: not if the table has a header of its own. -/
def Origin.isOpen : Origin → Bool
  | .header => false
  | .passed | .dotted => true

/-- Sets the value of a key with points, whose parts come after one another in `path`. Nothing is
    set twice. A key with points goes through tables without a header of their own and through the
    last table of a list, but sets nothing in that table itself. -/
def assign (value : Value) : List String → Fields → Option Fields
  | [], _ => none
  | [key], fields =>
    match fields.lookup key with
    | none => some (setEntry key (.value value) fields)
    | some _ => none
  | key :: path, fields =>
    match fields.lookup key with
    | none =>
      (assign value path []).map fun inner => setEntry key (.table .dotted inner) fields
    | some (.table origin inner) =>
      if origin.isOpen then
        (assign value path inner).map fun inner => setEntry key (.table origin inner) fields
      else none
    | some (.tables earlier last) =>
      if path.length = 1 then none
      else (assign value path last).map fun last => setEntry key (.tables earlier last) fields
    | some (.value _) => none

/-- Changes the fields of the table that a header names. Tables on the way are made if they are
    missing; on the way through a list of tables it is the last one that counts. -/
def changeAt (change : Fields → Option Fields) : List String → Fields → Option Fields
  | [], fields => change fields
  | key :: path, fields =>
    match fields.lookup key with
    | none =>
      (changeAt change path []).map fun inner => setEntry key (.table .passed inner) fields
    | some (.table origin inner) =>
      (changeAt change path inner).map fun inner => setEntry key (.table origin inner) fields
    | some (.tables earlier last) =>
      (changeAt change path last).map fun last => setEntry key (.tables earlier last) fields
    | some (.value _) => none

/-- Begins the table of a header: a new one, or one that was only passed through before. -/
def beginTable (key : String) (fields : Fields) : Option Fields :=
  match fields.lookup key with
  | none => some (setEntry key (.table .header []) fields)
  | some (.table .passed inner) => some (setEntry key (.table .header inner) fields)
  | some _ => none

/-- Begins a further table of a list of tables. -/
def beginListed (key : String) (fields : Fields) : Option Fields :=
  match fields.lookup key with
  | none => some (setEntry key (.tables [] []) fields)
  | some (.tables earlier last) => some (setEntry key (.tables (earlier ++ [last]) []) fields)
  | some _ => none

mutual

/-- The value that has been read. -/
def Node.finished : Node → Value
  | .value value => value
  | .table _ fields => .table (finishedFields fields)
  | .tables earlier last => .array (finishedTables earlier ++ [.table (finishedFields last)])

/-- The fields of a table that has been read, in increasing order of their names. -/
def finishedFields : List (String × Node) → List (String × Value)
  | [] => []
  | (name, node) :: fields => insertByName name node.finished (finishedFields fields)

/-- The tables of a list that has been read. -/
def finishedTables : List (List (String × Node)) → List Value
  | [] => []
  | fields :: tables => .table (finishedFields fields) :: finishedTables tables

end

end RuleGraph.Toml
