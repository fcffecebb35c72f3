import RuleGraph.Graph.Basic

namespace RuleGraph.Dot

/-- Text between double quotes. Names in a graph are escaped already. -/
def quoted (text : String) : String :=
  "\"" ++ text ++ "\""

/-- An attribute list with the label of a node or an edge. -/
def labelled (text : String) : String :=
  "[label=" ++ quoted text ++ "]"

/-- The text of one statement. A declared node has an empty label and so shows as a bare point. -/
def statement : Statement → String
  | .node name => quoted name ++ labelled ""
  | .edge edge =>
    quoted edge.source ++ " -> " ++ quoted edge.target ++
      match edge.label with
      | some relation => labelled relation.label
      | none => ""

/-- The first line of every graph. -/
def header : String := "digraph TextMate \x7b\n"

/-- The last line of every graph. -/
def footer : String := "\x7d\n"

/-- The text of a graph in the DOT language: a header, one indented line for each statement, and a
    closing brace. -/
def render (graph : Graph) : String :=
  header ++ String.join (graph.statements.map fun s => "  " ++ statement s ++ ";\n") ++ footer

end RuleGraph.Dot
