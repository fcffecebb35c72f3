import Mathlib.Data.List.Forall2
import RuleGraph.Proofs.Grammar.NamedRules
import RuleGraph.Proofs.Graph.Blocks

namespace RuleGraph

/-- What a graph shows of one source: references in order. -/
structure Group where
  source : String
  references : List Reference

def Group.statements (options : Options) (group : Group) : List Statement :=
  group.references.flatMap (Reference.statements options group.source)

/-- The group stands for the rules under their name: all it shows is made in their trees. -/
def Group.Shows (options : Options) (rules : String × List Rule) (group : Group) : Prop :=
  group.source = rules.1 ∧ ∀ reference ∈ group.references, ∃ rule ∈ rules.2, ∃ inner,
    Rule.Within inner rule ∧ reference.MadeBy options.regex inner

/-- The rules of each source: the top-level rules, then each named rule that is not left out. -/
def sourceRules (options : Options) (grammar : Grammar) : List (String × List Rule) :=
  (selfName, grammar.patterns) ::
    (grammar.namedRules.filter fun rule => !options.excludes rule.1).map
      fun rule => (rule.1, [rule.2])

def named (source : String × List Rule) : List (String × Rule) :=
  source.2.map fun rule => (source.1, rule)

/-- The top-level rules come first, and the named rules follow in the order of the grammar. -/
theorem sources_eq_flatMap (options : Options) (grammar : Grammar) :
    sources options grammar = (sourceRules options grammar).flatMap named := by
  have hnamed (rules : List (String × Rule)) :
      (rules.map fun rule => (rule.1, [rule.2])).flatMap named = rules := by
    rw [List.flatMap_map]
    exact List.flatMap_singleton' rules
  rw [sources, sourceRules, List.flatMap_cons, hnamed]
  rfl

/-- The references of one source make a group. -/
theorem exists_group (options : Options) (n : Nat) (source : String × List Rule) :
    ∃ group : Group, group.Shows options source ∧
      (namedReferences options.regex n (named source)).filter
          (fun x => !options.excludes x.2.referenced) =
        group.references.map fun reference => (group.source, reference) := by
  obtain ⟨name, rules⟩ := source
  let shown := (namedReferences options.regex n (named (name, rules))).filter
    fun x => !options.excludes x.2.referenced
  have horigin : ∀ x ∈ shown, x.1 = name ∧ ∃ rule ∈ rules, ∃ inner, Rule.Within inner rule ∧
      x.2.MadeBy options.regex inner := by
    intro x hx
    obtain ⟨rule, m, hrule, hmem⟩ :=
      exists_mem_extract_of_mem_namedReferences (List.mem_of_mem_filter hx)
    obtain ⟨rule', hmem', heq⟩ := List.mem_map.1 hrule
    obtain ⟨hname, rfl⟩ := Prod.mk.inj heq
    exact ⟨hname.symm, rule', hmem', exists_madeBy_of_mem_extract hmem⟩
  refine ⟨⟨name, shown.map Prod.snd⟩, ⟨rfl, ?_⟩, ?_⟩
  · intro reference hreference
    obtain ⟨x, hx, rfl⟩ := List.mem_map.1 hreference
    exact (horigin x hx).2
  · have hpair : ∀ x ∈ shown, ((fun reference => (name, reference)) ∘ Prod.snd) x = id x :=
      fun x hx => Prod.ext (horigin x hx).1.symm rfl
    rw [List.map_map, List.map_congr_left hpair, List.map_id]

theorem exists_groups (options : Options) (n : Nat) (sources : List (String × List Rule)) :
    ∃ groups : List Group, List.Forall₂ (Group.Shows options) sources groups ∧
      (namedReferences options.regex n (sources.flatMap named)).filter
          (fun x => !options.excludes x.2.referenced) =
        groups.flatMap fun group =>
          group.references.map fun reference => (group.source, reference) := by
  induction sources generalizing n with
  | nil => exact ⟨[], .nil, rfl⟩
  | cons source sources ih =>
    obtain ⟨group, hshows, hgroup⟩ := exists_group options n source
    obtain ⟨groups, hall, hgroups⟩ := ih (numberAfter options.regex n (named source))
    refine ⟨group :: groups, .cons hshows hall, ?_⟩
    rw [List.flatMap_cons, List.flatMap_cons, namedReferences_append, List.filter_append, hgroup,
      hgroups]

/-- The numbers of the declared nodes increase, and leave no gap unless nodes are left out. -/
theorem exists_numbers_build (options : Options) (grammar : Grammar) :
    ∃ numbers : List Nat, numbers.Pairwise (· < ·) ∧
      (build options grammar).nodes = numbers.map surroundName ∧
      ((∀ n, options.excludes (surroundName n) = false) →
        numbers = List.range numbers.length) := by
  obtain ⟨k, -, hall⟩ :=
    numberedFrom_namedReferences options.regex 0 (sources options grammar)
  rw [List.filterMap_map, ← List.range_eq_range'] at hall
  -- All the nodes are numbered without a gap, and the declared ones are some of them in order.
  have hsome : (build options grammar).nodes.Sublist ((List.range k).map surroundName) := by
    rw [nodes_build, ← hall]
    exact List.filter_sublist.filterMap _
  obtain ⟨numbers, hnumbers, hnodes⟩ := List.sublist_map_iff.1 hsome
  refine ⟨numbers, List.pairwise_lt_range.sublist hnumbers, hnodes, fun hkept => ?_⟩
  have hevery : (build options grammar).nodes = (List.range k).map surroundName := by
    rw [nodes_build, ← hall, shownReferences, List.filterMap_filter]
    refine List.filterMap_congr fun x hx => ?_
    obtain ⟨source, reference⟩ := x
    cases reference with
    | inclusion name => exact ite_self none
    | matching regex => exact ite_self none
    | surround node opening closing =>
      obtain ⟨m, rfl⟩ := numbered_of_mem_namedReferences hx node opening closing rfl
      simp only [Reference.referenced, hkept m]
      rfl
  have heq : numbers = List.range k :=
    (List.map_inj_right fun _ _ => surroundName_inj.1).1 (hnodes.symm.trans hevery)
  rw [heq, List.length_range]

/-- No node is declared twice. -/
theorem nodup_nodes_build (options : Options) (grammar : Grammar) :
    (build options grammar).nodes.Nodup := by
  obtain ⟨numbers, hincreasing, hnodes, -⟩ := exists_numbers_build options grammar
  rw [hnodes, List.Nodup, List.pairwise_map]
  exact hincreasing.imp fun hless heq => Nat.ne_of_lt hless (surroundName_inj.1 heq)

/-- An edge of a block leaves the source of the block or the node that the block declares. -/
theorem source_of_mem_statements {options : Options} {source : String} {reference : Reference}
    {e : Edge} (h : .edge e ∈ reference.statements options source) :
    e.source = Text.escape source ∨ .node e.source ∈ reference.statements options source := by
  cases reference with
  | inclusion name =>
    obtain ⟨⟩ := List.mem_singleton.1 h
    exact .inl rfl
  | matching regex =>
    obtain ⟨⟩ := List.mem_singleton.1 h
    exact .inl rfl
  | surround node opening closing =>
    simp only [Reference.statements, labelledEdge, List.mem_cons, Statement.edge.injEq,
      reduceCtorEq, List.not_mem_nil, or_false, false_or] at h ⊢
    rcases h with rfl | rfl | rfl
    · exact .inl rfl
    · exact .inr rfl
    · exact .inr rfl

theorem label_of_mem_edges_build {options : Options} (hlabels : options.labels = false)
    {grammar : Grammar} {e : Edge} (h : e ∈ (build options grammar).edges) : e.label = none := by
  rw [edges_build] at h
  obtain ⟨a, -, rfl⟩ := List.mem_map.1 h
  simp only [Arrow.edge, hlabels, Bool.false_eq_true, if_false]

/-- With the switch the node of a pair is labelled as such, and so are the edges to both ends. -/
theorem filterMap_relation?_statements {options : Options} (hlabels : options.labels = true)
    (source : String) {reference : Reference} (hsurround : reference.relation = .surround) :
    (reference.statements options source).filterMap Statement.relation? =
      [.surround, .opening, .closing] := by
  cases reference with
  | inclusion name => cases hsurround
  | matching regex => cases hsurround
  | surround node opening closing =>
    simp only [Reference.statements, labelledEdge, hlabels, if_true, Statement.relation?,
      List.filterMap_cons, List.filterMap_nil]

/-- The shape of every graph. It falls into groups, one for the top-level rules and one for each
named rule that is not left out, in the order in which the names were given first, each with the
rule given last. A group falls into the blocks of references that rules in its trees make. The
numbers of the declared nodes increase through the whole graph, without a gap if no node is left
out, so the nodes are distinct, and every edge leaves the source of its group or the node of its own
block. -/
theorem exists_groups_build (options : Options) (grammar : Grammar) :
    (∃ groups : List Group,
        List.Forall₂ (Group.Shows options) (sourceRules options grammar) groups ∧
        (build options grammar).statements = groups.flatMap (Group.statements options) ∧
        ∀ group ∈ groups, ∀ reference ∈ group.references,
          (∀ e : Edge, .edge e ∈ reference.statements options group.source →
            e.source = Text.escape selfName ∨
              (∃ name ∈ entryNames grammar.namedRules,
                options.excludes name = false ∧ e.source = Text.escape name) ∨
              .node e.source ∈ reference.statements options group.source) ∧
          (options.labels = true → reference.relation = .surround →
            (reference.statements options group.source).filterMap Statement.relation? =
              [.surround, .opening, .closing])) ∧
      (∃ numbers : List Nat, numbers.Pairwise (· < ·) ∧
        (build options grammar).nodes = numbers.map surroundName ∧
        ((∀ n, options.excludes (surroundName n) = false) →
          numbers = List.range numbers.length)) ∧
      (build options grammar).nodes.Nodup ∧
      (options.labels = false → ∀ e ∈ (build options grammar).edges, e.label = none) ∧
      ∀ given : List (String × Rule),
        entryNames (grammar.withRules given).namedRules =
            (entryNames (grammar.namedRules ++ given)).eraseDups ∧
          ∀ name, (grammar.withRules given).namedRules.lookup name =
            (given.reverse.lookup name).or (grammar.namedRules.lookup name) := by
  refine ⟨?_, exists_numbers_build options grammar, nodup_nodes_build options grammar,
    fun hlabels e => label_of_mem_edges_build hlabels, fun given =>
    ⟨grammar.entryNames_namedRules_withRules given, grammar.lookup_namedRules_withRules given⟩⟩
  obtain ⟨groups, hshows, hgroups⟩ := exists_groups options 0 (sourceRules options grammar)
  have hshown : shownReferences options grammar = groups.flatMap fun group =>
      group.references.map fun reference => (group.source, reference) := by
    rw [shownReferences, sources_eq_flatMap, hgroups]
  refine ⟨groups, hshows, ?_, fun group hgroup reference hreference => ⟨fun e he => ?_,
    fun hlabels => filterMap_relation?_statements hlabels group.source⟩⟩
  · rw [statements_build, hshown, List.flatMap_assoc]
    refine List.flatMap_congr fun group _ => ?_
    exact List.flatMap_map ..
  · rcases source_of_mem_statements he with hsource | hnode
    · have hmem : (group.source, reference) ∈ shownReferences options grammar := by
        rw [hshown]
        exact List.mem_flatMap.2 ⟨group, hgroup, List.mem_map_of_mem hreference⟩
      rcases source_of_mem_shownReferences hmem with hself | ⟨hname, hkept⟩
      · exact .inl (hself ▸ hsource)
      · exact .inr (.inl ⟨group.source, hname, hkept, hsource⟩)
    · exact .inr (.inr hnode)

end RuleGraph
