import RuleGraph.Graph.Basic
import RuleGraph.Options
import RuleGraph.Reference.Extract
import RuleGraph.Text.Comment
import RuleGraph.Text.Escape

namespace RuleGraph

/-- The name under which the top-level rules stand in the graph. -/
def selfName : String := "$self"

/-- The name of a node in the graph. Comments are taken out after escaping, and only from regular
    expressions. -/
def nodeName (options : Options) (isRegex : Bool) (name : String) : String :=
  if isRegex && options.uncomment then Text.stripComments (Text.escape name) else Text.escape name

/-- An edge that is labelled if the options say so. -/
def labelledEdge (options : Options) (source target : String) (relation : Relation) : Statement :=
  .edge ⟨source, target, if options.labels then some relation else none⟩

/-- The statements of one reference: its edge, and for a surround node also the node and the edges
    to its two ends. -/
def block (options : Options) (source : String) (reference : Reference) : List Statement :=
  if options.excludes reference.referenced then []
  else
    let target := nodeName options reference.fromRegex reference.referenced
    let first := labelledEdge options (Text.escape source) target reference.relation
    match reference.ends with
    | [] => [first]
    | ends => first :: .node target :: ends.map fun (relation, regex) =>
        labelledEdge options target (nodeName options true regex) relation

/-- The rules of a grammar with the names under which they refer to others. Repository rules that
    are left out are missing here, so they take no numbers for nodes. -/
def sources (options : Options) (grammar : Grammar) : List (String × Rule) :=
  grammar.patterns.map (fun rule => (selfName, rule)) ++
    grammar.namedRules.filter (fun (name, _) => !options.excludes name)

/-- The references of several named rules, each with the name of its rule, with `n` surround nodes
    numbered before. -/
def namedReferences (withRegex : Bool) (n : Nat) :
    List (String × Rule) → List (String × Reference)
  | [] => []
  | (name, rule) :: rules =>
    let (references, n) := extract withRegex n rule
    references.map (fun reference => (name, reference)) ++ namedReferences withRegex n rules

/-- The dependency graph of a grammar. The top-level rules together are one source, named `$self`;
    every repository rule that is not left out is a source under its own name. Each reference of a
    source gives one block of statements, unless what it refers to is left out. -/
def build (options : Options) (grammar : Grammar) : Graph where
  statements := (namedReferences options.regex 0 (sources options grammar)).flatMap
    fun (source, reference) => block options source reference

end RuleGraph
