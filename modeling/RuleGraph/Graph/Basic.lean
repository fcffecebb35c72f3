import RuleGraph.Reference.Basic

namespace RuleGraph

/-- An edge between two nodes. -/
structure Edge where
  /-- The node that the edge leaves. -/
  source : String
  /-- The node that the edge enters. -/
  target : String
  /-- The relation shown on the edge, if edges are labelled. -/
  label : Option Relation
  deriving Repr, DecidableEq

/-- One statement of a graph. -/
inductive Statement where
  /-- A node without text of its own. -/
  | node (name : String)
  /-- An edge. -/
  | edge (edge : Edge)
  deriving Repr, DecidableEq

/-- A graph as an ordered list of statements. The names in a statement are escaped already, so that
    they can stand between double quotes as they are. -/
structure Graph where
  /-- The statements. -/
  statements : List Statement := []
  deriving Repr, DecidableEq

namespace Graph

/-- The edges in order. -/
def edges (graph : Graph) : List Edge :=
  graph.statements.filterMap fun
    | .edge edge => some edge
    | .node _ => none

/-- The names of the declared nodes in order. -/
def nodes (graph : Graph) : List String :=
  graph.statements.filterMap fun
    | .node name => some name
    | .edge _ => none

/-- Whether there is no statement. -/
def isEmpty (graph : Graph) : Bool :=
  graph.statements.isEmpty

end Graph

end RuleGraph
