import Mathlib.Data.List.Basic
import RuleGraph.Graph.Build
import RuleGraph.Proofs.Reference.Extract
import RuleGraph.Proofs.Reference.Numbering
import RuleGraph.Proofs.Text.Comment

namespace RuleGraph

namespace Relation

/-- Whether an edge of the relation enters a regular expression. -/
def entersRegex : Relation → Bool
  | .matching | .opening | .closing => true
  | .inclusion | .surround => false

end Relation

namespace Statement

/-- The relation shown on an edge. A declared node shows none. -/
def relation? : Statement → Option Relation
  | .node _ => none
  | .edge e => e.label

/-- The statement without a label. -/
def eraseLabel : Statement → Statement
  | .node name => .node name
  | .edge e => .edge { e with label := none }

/-- The statement with comments taken out of its target, if it is an edge that stands for a
    relation that enters a regular expression. -/
def uncommentAs (relation : Option Relation) : Statement → Statement
  | .node name => .node name
  | .edge e =>
    if relation.any Relation.entersRegex then
      .edge { e with target := Text.stripComments e.target }
    else .edge e

/-- How a statement with a label and with its comments shows under the given options. -/
def shown (options : Options) (s : Statement) : Statement :=
  let s' := if options.labels then s else s.eraseLabel
  if options.uncomment then s'.uncommentAs s.relation? else s'

end Statement

/-- The name of a surround node shows as it is, whether or not comments are taken out. -/
theorem nodeName_surroundName (options : Options) (isRegex : Bool) (n : Nat) :
    nodeName options isRegex (surroundName n) = surroundName n := by
  have hplain := toList_surroundName_plain n
  have hescape : Text.escape (surroundName n) = surroundName n := by
    rw [Text.escape, Text.escapeChars_of_plain fun c hc => ⟨(hplain c hc).1, (hplain c hc).2.1⟩,
      String.ofList_toList]
  have hstrip : Text.stripComments (surroundName n) = surroundName n := by
    rw [Text.stripComments, Text.stripFrom_of_not_mem fun h => (hplain '#' h).2.2 rfl]
    exact String.ofList_toList
  simp only [nodeName, hescape, hstrip, ite_self]

/-- The edge of a relation shows as the edge with a label and with its comments, seen under the
options. -/
theorem labelledEdge_shown (options : Options) (source name : String) (relation : Relation) :
    labelledEdge options source (nodeName options relation.entersRegex name) relation =
      (labelledEdge { options with labels := true, uncomment := false } source
        (nodeName { options with labels := true, uncomment := false } relation.entersRegex name)
        relation).shown options := by
  cases relation <;> cases hl : options.labels <;> cases hu : options.uncomment <;>
    simp [labelledEdge, nodeName, Statement.shown, Statement.eraseLabel, Statement.uncommentAs,
      Statement.relation?, Relation.entersRegex, hl, hu]

/-- Each block of a graph shows as the block with labels and with comments, seen statement by
statement under the options. -/
theorem block_shown (options : Options) (source : String) {reference : Reference}
    (hnumbered : reference.Numbered) :
    block options source reference =
      (block { options with labels := true, uncomment := false } source reference).map
        (·.shown options) := by
  by_cases hexcluded : options.excludes reference.referenced = true
  · have hexcluded' : ({ options with labels := true, uncomment := false } : Options).excludes
        reference.referenced = true := hexcluded
    simp only [block, hexcluded, hexcluded', if_true, List.map_nil]
  · have hexcluded' : ¬({ options with labels := true, uncomment := false } : Options).excludes
        reference.referenced = true := hexcluded
    rw [block, block, if_neg hexcluded, if_neg hexcluded']
    cases reference with
    | inclusion name =>
      exact congrArg (· :: []) (labelledEdge_shown options (Text.escape source) name .inclusion)
    | matching regex =>
      exact congrArg (· :: []) (labelledEdge_shown options (Text.escape source) regex .matching)
    | surround node opening closing =>
      obtain ⟨n, rfl⟩ := hnumbered node opening closing rfl
      have hfirst := labelledEdge_shown options (Text.escape source) (surroundName n) .surround
      have hopening := labelledEdge_shown options (surroundName n) opening .opening
      have hclosing := labelledEdge_shown options (surroundName n) closing .closing
      have hnode : Statement.node (surroundName n) =
          (Statement.node (surroundName n)).shown options := by
        simp [Statement.shown, Statement.eraseLabel, Statement.uncommentAs]
      simp only [nodeName_surroundName] at hfirst
      simp only [Relation.entersRegex] at hopening hclosing
      simp only [Reference.ends, Reference.referenced, Reference.relation, nodeName_surroundName,
        List.map_cons, List.map_nil, ← hfirst, ← hopening, ← hclosing, ← hnode]

/-- Surround nodes have the names of their numbers. -/
theorem numbered_of_mem_namedReferences {withRegex : Bool} {n : Nat}
    {rules : List (String × Rule)} {x : String × Reference}
    (h : x ∈ namedReferences withRegex n rules) : x.2.Numbered := by
  induction rules generalizing n with
  | nil => cases h
  | cons rule rules ih =>
    simp only [namedReferences, List.mem_append, List.mem_map] at h
    rcases h with ⟨reference, hmem, rfl⟩ | h
    · exact numbered_of_mem_extract hmem
    · exact ih h

/-- Every graph is the one with labels and with comments, seen under its options. -/
theorem statements_build_shown (options : Options) (grammar : Grammar) :
    (build options grammar).statements =
      (build { options with labels := true, uncomment := false } grammar).statements.map
        (·.shown options) := by
  simp only [build, List.map_flatMap]
  refine List.flatMap_congr fun x hx => ?_
  exact block_shown options x.1 (numbered_of_mem_namedReferences hx)

/-- Without regular expressions the references are the inclusions among those with them. -/
theorem namedReferences_without_regex (n m : Nat) (rules : List (String × Rule)) :
    namedReferences false n rules =
      (namedReferences true m rules).filter (fun x => !x.2.fromRegex) := by
  induction rules generalizing n m with
  | nil => rfl
  | cons rule rules ih =>
    obtain ⟨name, rule⟩ := rule
    have hfirst := extract_without_regex n m rule
    have hothers := ih n (extract true m rule).2
    simp only [namedReferences, hfirst, hothers, List.filter_append, List.filter_map]
    rfl

/-- With labels, the edges labelled as inclusions are the whole block of an inclusion and nothing of
any other block. -/
theorem filter_block (options : Options) (hlabels : options.labels = true) (source : String)
    (reference : Reference) :
    (block options source reference).filter (·.relation? = some .inclusion) =
      if reference.fromRegex then [] else block options source reference := by
  by_cases hexcluded : options.excludes reference.referenced = true
  · simp only [block, hexcluded, if_true, List.filter_nil, ite_self]
  · rw [block, if_neg hexcluded]
    cases reference <;>
      simp [labelledEdge, hlabels, Statement.relation?, Reference.ends, Reference.relation,
        Reference.fromRegex, Relation.fromRegex]

theorem flatMap_filter {α β : Type} (p : α → Bool) (f : α → List β) (l : List α) :
    (l.filter p).flatMap f = l.flatMap fun a => if p a then f a else [] := by
  induction l with
  | nil => rfl
  | cons a l ih => cases h : p a <;> simp [h, ih]

/-- Taking comments out of a target leaves the label alone. -/
theorem Statement.eraseLabel_uncommentAs (relation : Option Relation) (s : Statement) :
    (s.uncommentAs relation).eraseLabel = s.eraseLabel.uncommentAs relation := by
  cases s with
  | node name => rfl
  | edge e =>
    simp only [uncommentAs, eraseLabel]
    cases relation.any Relation.entersRegex <;> rfl

/-- A statement seen without its label is the labelled one with the label erased. -/
theorem Statement.eraseLabel_shown (options : Options) (s : Statement) :
    (s.shown { options with labels := true }).eraseLabel =
      s.shown { options with labels := false } := by
  simp only [shown, if_true, Bool.false_eq_true, if_false]
  cases options.uncomment with
  | false => rfl
  | true => exact s.eraseLabel_uncommentAs s.relation?

/-- The three switches of a graph are independent views of it. Without regular expressions just the
edges labelled as inclusions remain; without labels every label is erased; and taking comments out
changes nothing but the targets of edges that enter a regular expression, which are the edges that
carry such a relation when they are labelled. -/
theorem statements_build_views (options : Options) (grammar : Grammar) :
    (build { options with regex := false, labels := true } grammar).statements =
        (build { options with regex := true, labels := true } grammar).statements.filter
          (·.relation? = some .inclusion) ∧
      (build { options with labels := false } grammar).statements =
        (build { options with labels := true } grammar).statements.map Statement.eraseLabel ∧
      (build { options with uncomment := true } grammar).statements =
        List.zipWith Statement.uncommentAs
          ((build { options with labels := true, uncomment := false } grammar).statements.map
            Statement.relation?)
          (build { options with uncomment := false } grammar).statements := by
  refine ⟨?_, ?_, ?_⟩
  · simp only [build, List.filter_flatMap]
    rw [namedReferences_without_regex 0 0, flatMap_filter]
    refine List.flatMap_congr fun x _ => ?_
    rw [filter_block { options with regex := true, labels := true } rfl]
    cases x.2.fromRegex <;> rfl
  · rw [statements_build_shown, statements_build_shown { options with labels := true },
      List.map_map]
    refine List.map_congr_left fun s _ => ?_
    exact (s.eraseLabel_shown options).symm
  · rw [statements_build_shown { options with uncomment := true },
      statements_build_shown { options with uncomment := false }, List.zipWith_map,
      List.zipWith_self]
    rfl

end RuleGraph
