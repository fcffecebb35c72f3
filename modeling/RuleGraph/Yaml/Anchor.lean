import RuleGraph.Yaml.Node

namespace RuleGraph.Yaml

/-- The numbers of the names so far, each name once. A node with an anchor takes the count of names
    so far as its number. A name that is used again thus takes a number that the next new name takes
    as well; of several nodes with one number the last one counts. -/
abbrev AnchorNumbers := List (String × Nat)

/-- Gives the next number to a name. -/
def AnchorNumbers.assign (numbers : AnchorNumbers) (name : String) : AnchorNumbers :=
  let number := numbers.length
  if (numbers.lookup name).isSome then
    numbers.map fun (n, old) => if n = name then (n, number) else (n, old)
  else numbers ++ [(name, number)]

/-- Numbers the anchor of a node, if it has one. -/
def numberProperties (numbers : AnchorNumbers) (properties : Properties String) :
    AnchorNumbers × Properties Nat :=
  match properties.anchor with
  | some name => (numbers.assign name, ⟨some numbers.length, properties.tag⟩)
  | none => (numbers, ⟨none, properties.tag⟩)

mutual

/-- Numbers the anchors and aliases of a node in the order of the source. An alias of a name that
    has not come yet is refused. -/
def numberAnchors? (numbers : AnchorNumbers) :
    Node String → Option (Node Nat × AnchorNumbers)
  | .alias name => (numbers.lookup name).map fun number => (.alias number, numbers)
  | .scalar properties plain text =>
    let (numbers, properties) := numberProperties numbers properties
    some (.scalar properties plain text, numbers)
  | .sequence properties items =>
    let (numbers, properties) := numberProperties numbers properties
    (numberItems? numbers items).map fun (items, numbers) => (.sequence properties items, numbers)
  | .mapping properties entries =>
    let (numbers, properties) := numberProperties numbers properties
    (numberEntries? numbers entries).map fun (entries, numbers) =>
      (.mapping properties entries, numbers)

/-- Numbers the anchors of several nodes. -/
def numberItems? (numbers : AnchorNumbers) :
    List (Node String) → Option (List (Node Nat) × AnchorNumbers)
  | [] => some ([], numbers)
  | node :: nodes =>
    match numberAnchors? numbers node with
    | none => none
    | some (node, numbers) =>
      (numberItems? numbers nodes).map fun (nodes, numbers) => (node :: nodes, numbers)

/-- Numbers the anchors of keys and values. -/
def numberEntries? (numbers : AnchorNumbers) :
    List (Node String × Node String) → Option (List (Node Nat × Node Nat) × AnchorNumbers)
  | [] => some ([], numbers)
  | (key, value) :: entries =>
    match numberAnchors? numbers key with
    | none => none
    | some (key, numbers) =>
      match numberAnchors? numbers value with
      | none => none
      | some (value, numbers) =>
        (numberEntries? numbers entries).map fun (entries, numbers) =>
          ((key, value) :: entries, numbers)

end

/-- The number of a node's anchor with the node itself, if it has one. -/
def anchored (node : Node Nat) (properties : Properties Nat) : List (Nat × Node Nat) :=
  (properties.anchor.map fun number => (number, node)).toList

mutual

/-- The nodes that have anchors, in the order of the source. -/
def anchorTable : Node Nat → List (Nat × Node Nat)
  | .alias _ => []
  | .scalar properties plain text => anchored (.scalar properties plain text) properties
  | .sequence properties items =>
    anchored (.sequence properties items) properties ++ anchorTableItems items
  | .mapping properties entries =>
    anchored (.mapping properties entries) properties ++ anchorTableEntries entries

/-- The nodes with anchors among several nodes. -/
def anchorTableItems : List (Node Nat) → List (Nat × Node Nat)
  | [] => []
  | node :: nodes => anchorTable node ++ anchorTableItems nodes

/-- The nodes with anchors among keys and values. -/
def anchorTableEntries : List (Node Nat × Node Nat) → List (Nat × Node Nat)
  | [] => []
  | (key, value) :: entries =>
    anchorTable key ++ anchorTable value ++ anchorTableEntries entries

end

mutual

/-- The size of a node: one for a scalar and an alias, two for the ends of a collection. -/
def Node.size {α : Type} : Node α → Nat
  | .alias _ | .scalar _ _ _ => 1
  | .sequence _ items => 2 + Node.sizeItems items
  | .mapping _ entries => 2 + Node.sizeEntries entries

/-- The size of several nodes. -/
def Node.sizeItems {α : Type} : List (Node α) → Nat
  | [] => 0
  | node :: nodes => node.size + Node.sizeItems nodes

/-- The size of keys and values. -/
def Node.sizeEntries {α : Type} : List (Node α × Node α) → Nat
  | [] => 0
  | (key, value) :: entries => key.size + value.size + Node.sizeEntries entries

end

end RuleGraph.Yaml
