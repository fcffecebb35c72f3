import Mathlib.Data.List.Flatten
import RuleGraph.Proofs.Graph.NamedReferences
import RuleGraph.Proofs.Graph.Views

namespace RuleGraph

/-- The name of a surround node is escaped already. -/
theorem escape_surroundName (n : Nat) : Text.escape (surroundName n) = surroundName n := by
  have hname := nodeName_surroundName {} false n
  simpa [nodeName] using hname

namespace Reference

/-- The statements that show a reference: one edge, or for a surround node the edge to it, its
    declaration, and the edges from it to its two ends. -/
def statements (options : Options) (source : String) : Reference → List Statement
  | .inclusion name => [labelledEdge options (Text.escape source) (Text.escape name) .inclusion]
  | .matching regex =>
    [labelledEdge options (Text.escape source) (nodeName options true regex) .matching]
  | .surround node opening closing =>
    [labelledEdge options (Text.escape source) node .surround,
      .node node,
      labelledEdge options node (nodeName options true opening) .opening,
      labelledEdge options node (nodeName options true closing) .closing]

end Reference

/-- The block of a reference is empty if the reference is left out, and all its statements
otherwise. -/
theorem block_eq_ite (options : Options) (source : String) {reference : Reference}
    (hnumbered : reference.Numbered) :
    block options source reference =
      if options.excludes reference.referenced then []
      else reference.statements options source := by
  unfold block
  split
  · rfl
  · cases reference with
    | inclusion name => rfl
    | matching regex => rfl
    | surround node opening closing =>
      obtain ⟨n, rfl⟩ := hnumbered node opening closing rfl
      simp only [Reference.ends, Reference.referenced, nodeName_surroundName, List.map_cons,
        List.map_nil]
      rfl

/-- The references that a graph shows, each with the name of its source. -/
def shownReferences (options : Options) (grammar : Grammar) : List (String × Reference) :=
  (namedReferences options.regex 0 (sources options grammar)).filter
    fun x => !options.excludes x.2.referenced

/-- A graph shows the references of its sources that are not left out, each by a block of statements
    of its own. -/
theorem statements_build (options : Options) (grammar : Grammar) :
    (build options grammar).statements =
      (shownReferences options grammar).flatMap fun x => x.2.statements options x.1 := by
  rw [shownReferences, flatMap_filter]
  refine List.flatMap_congr fun x hx => ?_
  obtain ⟨source, reference⟩ := x
  have hblock := block_eq_ite options source (numbered_of_mem_namedReferences hx)
  dsimp only at hblock ⊢
  rw [hblock]
  cases options.excludes reference.referenced <;> rfl

/-- A reference is shown if what it refers to is not left out. -/
theorem mem_shownReferences {options : Options} {grammar : Grammar} {x : String × Reference} :
    x ∈ shownReferences options grammar ↔
      x ∈ namedReferences options.regex 0 (sources options grammar) ∧
        options.excludes x.2.referenced = false := by
  rw [shownReferences, List.mem_filter, Bool.not_eq_true']

/-- A source is the top level or a named rule that is not left out. -/
theorem source_of_mem_shownReferences {options : Options} {grammar : Grammar}
    {x : String × Reference} (h : x ∈ shownReferences options grammar) :
    x.1 = selfName ∨ x.1 ∈ entryNames grammar.namedRules ∧ options.excludes x.1 = false := by
  obtain ⟨rule, m, hrule, -⟩ :=
    exists_mem_extract_of_mem_namedReferences (mem_shownReferences.1 h).1
  rcases List.mem_append.1 hrule with htop | hnamed
  · obtain ⟨top, -, heq⟩ := List.mem_map.1 htop
    exact .inl (Prod.mk.inj heq).1.symm
  · obtain ⟨hmem, hkept⟩ := List.mem_filter.1 hnamed
    exact .inr ⟨List.mem_map_of_mem hmem, by simpa using hkept⟩

/-- Nodes are declared by references with a pair of regular expressions only. -/
theorem nodes_build (options : Options) (grammar : Grammar) :
    (build options grammar).nodes =
      (shownReferences options grammar).filterMap fun x => x.2.node? := by
  rw [Graph.nodes, statements_build, List.filterMap_flatMap, List.filterMap_eq_flatMap_toList]
  refine List.flatMap_congr fun x _ => ?_
  cases x.2 <;> rfl

/-- An edge with the relation that it stands for, whether or not the relation shows. -/
structure Arrow where
  relation : Relation
  source : String
  target : String

def Arrow.edge (options : Options) (a : Arrow) : Edge :=
  ⟨a.source, a.target, if options.labels then some a.relation else none⟩

def Reference.arrows (options : Options) (source : String) : Reference → List Arrow
  | .inclusion name => [⟨.inclusion, Text.escape source, Text.escape name⟩]
  | .matching regex => [⟨.matching, Text.escape source, nodeName options true regex⟩]
  | .surround node opening closing =>
    [⟨.surround, Text.escape source, node⟩, ⟨.opening, node, nodeName options true opening⟩,
      ⟨.closing, node, nodeName options true closing⟩]

/-- The edges of a graph in order, with the relations they stand for. -/
def arrows (options : Options) (grammar : Grammar) : List Arrow :=
  (shownReferences options grammar).flatMap fun x => x.2.arrows options x.1

/-- Every edge stands for one relation, whether or not it is labelled with it. -/
theorem edges_build (options : Options) (grammar : Grammar) :
    (build options grammar).edges = (arrows options grammar).map (Arrow.edge options) := by
  rw [Graph.edges, statements_build, List.filterMap_flatMap, arrows, List.map_flatMap]
  refine List.flatMap_congr fun x _ => ?_
  cases x.2 <;> rfl

/-- The edges of a graph in order, each with the relation that it is labelled with where edges are
    labelled. -/
def relatedEdges (options : Options) (grammar : Grammar) : List (Relation × Edge) :=
  ((build { options with labels := true } grammar).edges.filterMap Edge.label).zip
    (build options grammar).edges

/-- Labels or not, the edges and their relations are the same. -/
theorem relatedEdges_eq (options : Options) (grammar : Grammar) :
    relatedEdges options grammar =
      (arrows options grammar).map fun a => (a.relation, a.edge options) := by
  have hlabels : (build { options with labels := true } grammar).edges.filterMap Edge.label =
      (arrows options grammar).map Arrow.relation := by
    have hsame : arrows { options with labels := true } grammar = arrows options grammar := rfl
    have hlabel : Edge.label ∘ Arrow.edge { options with labels := true } =
        some ∘ Arrow.relation := rfl
    rw [edges_build, hsame, List.filterMap_map, hlabel, List.filterMap_eq_map]
  rw [relatedEdges, hlabels, edges_build, List.zip_map']

theorem map_snd_relatedEdges (options : Options) (grammar : Grammar) :
    (relatedEdges options grammar).map Prod.snd = (build options grammar).edges := by
  rw [relatedEdges_eq, edges_build, List.map_map]
  rfl

end RuleGraph
