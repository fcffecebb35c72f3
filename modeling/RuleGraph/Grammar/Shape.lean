import RuleGraph.Decimal.Shortest
import RuleGraph.Document.Basic
import RuleGraph.Grammar
import RuleGraph.Text.Quoted

namespace RuleGraph

/-- The kinds of values that fields of a grammar have. -/
inductive Kind where
  | string
  | sequence
  | mapping
  | rule
  deriving Repr, DecidableEq

/-- How messages name a kind. -/
def Kind.describe : Kind → String
  | .string => "a string"
  | .sequence => "a sequence"
  | .mapping => "a map"
  | .rule => "struct Rule"

/-- How messages show floating-point numbers: with a power of ten from `10 ^ 16` on and below
    `10 ^ (-5)`. -/
def messageLayout : Binary64.Layout where
  tie := .even
  plain := some (-5, 15)

/-- How messages name what a document is. -/
def Document.describe : Document → String
  | .null => "null"
  | .bool value => "boolean `" ++ (if value then "true" else "false") ++ "`"
  | .int value => "integer `" ++ toString value ++ "`"
  | .float value => "floating point `" ++ value.text messageLayout ++ "`"
  | .string text => "string " ++ Text.quoted text
  | .array _ => "sequence"
  | .object _ => "map"

/-- Why a document is no grammar. -/
inductive ShapeError where
  /-- A value has another kind than its place asks for. -/
  | wrongKind (found : Document) (wanted : Kind)
  /-- The list of top-level rules is missing. -/
  | missingPatterns
  /-- A rule written as a list has more values than a rule has fields. -/
  | tooManyValues (count : Nat)
  deriving Repr

/-- The text of the error. -/
def ShapeError.message : ShapeError → String
  | .wrongKind found wanted =>
    "invalid type: " ++ found.describe ++ ", expected " ++ wanted.describe
  | .missingPatterns => "missing field `patterns`"
  | .tooManyValues count =>
    "invalid length " ++ toString count ++ ", expected fewer elements in array"

/-- A text that may be absent. -/
def shapeText : Document → Except ShapeError (Option String)
  | .null => .ok none
  | .string text => .ok (some text)
  | found => .error (.wrongKind found .string)

/-- The names of a rule's fields. A rule may also be written as a list, with the values of these
    fields in this order. -/
def ruleFieldNames : List String :=
  ["include", "patterns", "match", "begin", "end"]

mutual

/-- The rule in a document. -/
def shapeRule : Document → Except ShapeError Rule
  | .object fields => shapeFields {} fields
  | .array items => shapeValues items.length {} ruleFieldNames items
  | found => .error (.wrongKind found .rule)

/-- Reads the fields of a rule into what is known of it already. -/
def shapeFields (rule : Rule) : List (String × Document) → Except ShapeError Rule
  | [] => .ok rule
  | (name, value) :: fields =>
    match shapeField rule name value with
    | .ok rule => shapeFields rule fields
    | .error e => .error e

/-- Reads the values of a rule that is written as a list of `count` values. -/
def shapeValues (count : Nat) (rule : Rule) :
    List String → List Document → Except ShapeError Rule
  | _, [] => .ok rule
  | [], _ :: _ => .error (.tooManyValues count)
  | name :: names, value :: values =>
    match shapeField rule name value with
    | .ok rule => shapeValues count rule names values
    | .error e => .error e

/-- Reads one field of a rule. -/
def shapeField (rule : Rule) (name : String) (value : Document) : Except ShapeError Rule :=
  if name = "include" then (shapeText value).map fun t => { rule with inclusion := t }
  else if name = "match" then (shapeText value).map fun t => { rule with regex := t }
  else if name = "begin" then (shapeText value).map fun t => { rule with opening := t }
  else if name = "end" then (shapeText value).map fun t => { rule with closing := t }
  else if name = "patterns" then
    match value with
    | .null => .ok { rule with patterns := none }
    | .array items => (shapeRules items).map fun rules => { rule with patterns := some rules }
    | found => .error (.wrongKind found .sequence)
  else .ok rule

/-- The rules in a list of documents. -/
def shapeRules : List Document → Except ShapeError (List Rule)
  | [] => .ok []
  | value :: values =>
    match shapeRule value with
    | .error e => .error e
    | .ok rule => (shapeRules values).map fun rules => rule :: rules

end

/-- The named rules in the fields of an object. -/
def shapeRepository (repository : Repository) :
    List (String × Document) → Except ShapeError Repository
  | [] => .ok repository
  | (name, value) :: fields =>
    match shapeRule value with
    | .error e => .error e
    | .ok rule => shapeRepository (repository.set name rule) fields

/-- What is known of a grammar while its fields are read: the list of rules may come last. -/
structure Draft where
  scopeName : Option String := none
  name : Option String := none
  patterns : Option (List Rule) := none
  repository : Option Repository := none

/-- Reads one field of a grammar. -/
def Draft.setField (draft : Draft) (name : String) (value : Document) :
    Except ShapeError Draft :=
  if name = "scopeName" then (shapeText value).map fun t => { draft with scopeName := t }
  else if name = "name" then (shapeText value).map fun t => { draft with name := t }
  else if name = "patterns" then
    match value with
    | .array items => (shapeRules items).map fun rules => { draft with patterns := some rules }
    | found => .error (.wrongKind found .sequence)
  else if name = "repository" then
    match value with
    | .null => .ok { draft with repository := none }
    | .object fields =>
      (shapeRepository .empty fields).map fun rules => { draft with repository := some rules }
    | found => .error (.wrongKind found .mapping)
  else .ok draft

/-- Reads the fields of a grammar in order. -/
def Draft.setFields (draft : Draft) : List (String × Document) → Except ShapeError Draft
  | [] => .ok draft
  | (name, value) :: fields =>
    match draft.setField name value with
    | .ok draft => draft.setFields fields
    | .error e => .error e

/-- The grammar made of the fields of an object. Known fields are checked in the order of the
    document, and unknown ones are skipped whatever they hold. Absent fields and fields without a
    value are the same, except for the list of top-level rules, which has to be there. -/
def shapeGrammar (fields : List (String × Document)) : Except ShapeError Grammar :=
  match ({} : Draft).setFields fields with
  | .error e => .error e
  | .ok draft =>
    match draft.patterns with
    | none => .error .missingPatterns
    | some patterns => .ok ⟨draft.scopeName, draft.name, patterns, draft.repository⟩

end RuleGraph
