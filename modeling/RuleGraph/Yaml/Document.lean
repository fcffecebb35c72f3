import RuleGraph.Yaml.Anchor
import RuleGraph.Yaml.Scalar.Value
import RuleGraph.Yaml.Scanner

namespace RuleGraph.Yaml

/-- The anchored nodes of a source, and how many aliases may be followed. -/
structure Aliases where
  /-- The nodes with their numbers, in the order of the source. -/
  table : List (Nat × Node Nat)
  /-- How many aliases may be followed. -/
  limit : Nat

/-- The last node with the given number. -/
def Aliases.find? (aliases : Aliases) (number : Nat) : Option (Node Nat) :=
  aliases.table.reverse.lookup number

/-- Follows an alias, with `followed` ones followed before. Other nodes stay. -/
def Aliases.follow? (aliases : Aliases) (followed : Nat) (node : Node Nat) :
    Option (Node Nat × Nat) :=
  match node with
  | .alias number =>
    if followed < aliases.limit then
      (aliases.find? number).map fun node => (node, followed + 1)
    else none
  | node => some (node, followed)

/-- Applies a function to all elements, with a number that goes from one to the next. -/
def threadList {α β : Type} (f : Nat → α → Option (β × Nat)) (n : Nat) :
    List α → Option (List β × Nat)
  | [] => some ([], n)
  | x :: xs =>
    match f n x with
    | none => none
    | some (y, n) => (threadList f n xs).map fun (ys, n) => (y :: ys, n)

/-- The name of a field: the text of a scalar, whatever it looks like. -/
def fieldName? (aliases : Aliases) (followed : Nat) (node : Node Nat) :
    Option (String × Nat) :=
  match aliases.follow? followed node with
  | some (.scalar _ _ text, followed) => some (text, followed)
  | _ => none

/-- Whether a collection may have this tag. -/
def allowsTag (properties : Properties Nat) : Bool :=
  match properties.tag with
  | some tag => !isLocalTag tag
  | none => true

/-- The document of a node, with room for `room` levels of collections, and the number of aliases
    followed. -/
def documentOf? (aliases : Aliases) (room : Nat) (followed : Nat) (node : Node Nat) :
    Option (Document × Nat) :=
  match aliases.follow? followed node with
  | none => none
  | some (.alias _, _) => none
  | some (.scalar properties plain text, followed) =>
    (scalarValue? properties.tag plain text).map fun value => (value, followed)
  | some (.sequence properties items, followed) =>
    match room with
    | 0 => none
    | room + 1 =>
      if allowsTag properties then
        (threadList (documentOf? aliases room) followed items).map fun (items, followed) =>
          (.array items, followed)
      else none
  | some (.mapping properties entries, followed) =>
    match room with
    | 0 => none
    | room + 1 =>
      let entry? (followed : Nat) (entry : Node Nat × Node Nat) :
          Option ((String × Document) × Nat) :=
        match fieldName? aliases followed entry.1 with
        | none => none
        | some (name, followed) =>
          (documentOf? aliases room followed entry.2).map fun (value, followed) =>
            ((name, value), followed)
      if allowsTag properties then
        (threadList entry? followed entries).map fun (fields, followed) =>
          (Document.ofFields fields, followed)
      else none

/-- The deepest nesting of collections. -/
def maxDepth : Nat := 128

/-- How many aliases may be followed for each part of a source. -/
def aliasFactor : Nat := 100

/-- The document of a source. A source without any node has no value. Aliases are followed where
    they stand; their number and the depth of nesting are limited, so a small source cannot make a
    huge document. -/
def parse? (source : String) : Option Document :=
  match (tokensOf? source.toList).bind singleDocument? with
  | none => none
  | some none => some .null
  | some (some node) =>
    match numberAnchors? [] node with
    | none => none
    | some (node, _) =>
      (documentOf? ⟨anchorTable node, aliasFactor * node.size⟩ maxDepth 0 node).map Prod.fst

end RuleGraph.Yaml
