import RuleGraph.Proofs.Graph.Blocks
import RuleGraph.Proofs.Options

namespace RuleGraph

variable {options : Options} {grammar : Grammar}

/-- Every declared node is a surround node that is not left out. -/
theorem exists_number_of_mem_nodes {node : String} (h : node ∈ (build options grammar).nodes) :
    ∃ n, node = surroundName n ∧ options.excludes node = false := by
  rw [nodes_build] at h
  obtain ⟨⟨source, reference⟩, hx, hnode⟩ := List.mem_filterMap.1 h
  obtain ⟨hmem, hkept⟩ := mem_shownReferences.1 hx
  cases reference with
  | inclusion name => cases hnode
  | matching regex => cases hnode
  | surround node' opening closing =>
    obtain rfl := Option.some.inj hnode
    obtain ⟨n, hn⟩ := numbered_of_mem_namedReferences hmem node' opening closing rfl
    exact ⟨n, hn, hkept⟩

/-- The name is the one of the top-level rules or of a named rule that is not left out. -/
def IsSource (options : Options) (grammar : Grammar) (name : String) : Prop :=
  name = selfName ∨ name ∈ entryNames grammar.namedRules ∧ options.excludes name = false

/-- The edges that a graph can have, by the relations they stand for. -/
inductive Arrow.Shown (options : Options) (grammar : Grammar) : Arrow → Prop where
  | inclusion {source name : String} (hsource : IsSource options grammar source)
      (hkept : options.excludes name = false) :
      Shown options grammar ⟨.inclusion, Text.escape source, Text.escape name⟩
  | matching {source regex : String} (hsource : IsSource options grammar source)
      (hkept : options.excludes regex = false) :
      Shown options grammar ⟨.matching, Text.escape source, nodeName options true regex⟩
  | surround {source node : String} (hsource : IsSource options grammar source)
      (hnode : node ∈ (build options grammar).nodes) :
      Shown options grammar ⟨.surround, Text.escape source, node⟩
  | opening {node target : String} (hnode : node ∈ (build options grammar).nodes) :
      Shown options grammar ⟨.opening, node, target⟩
  | closing {node target : String} (hnode : node ∈ (build options grammar).nodes) :
      Shown options grammar ⟨.closing, node, target⟩

theorem Arrow.shown_of_mem {a : Arrow} (h : a ∈ arrows options grammar) :
    a.Shown options grammar := by
  obtain ⟨⟨source, reference⟩, hx, ha⟩ := List.mem_flatMap.1 h
  have hsource : IsSource options grammar source := source_of_mem_shownReferences hx
  have hkept := (mem_shownReferences.1 hx).2
  cases reference with
  | inclusion name =>
    obtain rfl := List.mem_singleton.1 ha
    exact .inclusion hsource hkept
  | matching regex =>
    obtain rfl := List.mem_singleton.1 ha
    exact .matching hsource hkept
  | surround node opening closing =>
    have hnode : node ∈ (build options grammar).nodes := by
      rw [nodes_build]
      exact List.mem_filterMap.2 ⟨_, hx, rfl⟩
    simp only [Reference.arrows, List.mem_cons, List.not_mem_nil, or_false] at ha
    rcases ha with rfl | rfl | rfl
    · exact .surround hsource hnode
    · exact .opening hnode
    · exact .closing hnode

/-- Every edge stands for a shown reference. -/
theorem exists_shown_of_mem_relatedEdges {x : Relation × Edge}
    (h : x ∈ relatedEdges options grammar) :
    ∃ a : Arrow, a.Shown options grammar ∧ x = (a.relation, a.edge options) := by
  rw [relatedEdges_eq] at h
  obtain ⟨a, ha, rfl⟩ := List.mem_map.1 h
  exact ⟨a, a.shown_of_mem ha, rfl⟩

/-- No name that is left out comes back as another one. -/
theorem escape_ne_of_excludes {name other : String} (hname : options.excludes name = true)
    (hother : options.excludes other = false) : Text.escape other ≠ Text.escape name := by
  intro h
  rw [Text.escape_inj.1 h, hname] at hother
  cases hother

/-- No declared node has a name that is left out. -/
theorem node_ne_escape_of_excludes {name node : String} (hname : options.excludes name = true)
    (hnode : node ∈ (build options grammar).nodes) : node ≠ Text.escape name := by
  obtain ⟨n, rfl, hkept⟩ := exists_number_of_mem_nodes hnode
  have hne := escape_ne_of_excludes hname hkept
  rwa [escape_surroundName] at hne

/-- No edge starts at a name that is left out, except for the one of the top-level rules. -/
theorem Arrow.Shown.source_ne {a : Arrow} (h : a.Shown options grammar) {name : String}
    (hname : options.excludes name = true) (hself : name ≠ selfName) :
    a.source ≠ Text.escape name := by
  have hrule : ∀ source, IsSource options grammar source →
      Text.escape source ≠ Text.escape name := by
    rintro source (rfl | ⟨-, hkept⟩)
    · exact fun heq => hself (Text.escape_inj.1 heq).symm
    · exact escape_ne_of_excludes hname hkept
  cases h with
  | inclusion hsource _ => exact hrule _ hsource
  | matching hsource _ => exact hrule _ hsource
  | surround hsource _ => exact hrule _ hsource
  | opening hnode => exact node_ne_escape_of_excludes hname hnode
  | closing hnode => exact node_ne_escape_of_excludes hname hnode

/-- Edges to the ends of a pair start at its node. -/
theorem Arrow.Shown.source_mem_nodes {a : Arrow} (h : a.Shown options grammar)
    (hend : a.relation = .opening ∨ a.relation = .closing) :
    a.source ∈ (build options grammar).nodes := by
  cases h with
  | opening hnode => exact hnode
  | closing hnode => exact hnode
  | inclusion _ _ => rcases hend with hend | hend <;> cases hend
  | matching _ _ => rcases hend with hend | hend <;> cases hend
  | surround _ _ => rcases hend with hend | hend <;> cases hend

/-- An edge to a name that is left out goes to an end of a surround node, or stands for a regular
expression that had comments. -/
theorem Arrow.Shown.relation_of_target_eq {a : Arrow} (h : a.Shown options grammar)
    {name : String} (hname : options.excludes name = true)
    (htarget : a.target = Text.escape name) :
    (a.relation = .opening ∨ a.relation = .closing) ∨
      a.relation = .matching ∧ options.uncomment = true := by
  cases h with
  | inclusion _ hkept => exact absurd htarget (escape_ne_of_excludes hname hkept)
  | matching _ hkept =>
    cases hcomments : options.uncomment with
    | true => exact .inr ⟨rfl, rfl⟩
    | false =>
      simp only [nodeName, hcomments, Bool.and_false, Bool.false_eq_true, if_false] at htarget
      exact absurd htarget (escape_ne_of_excludes hname hkept)
  | surround _ hnode => exact absurd htarget (node_ne_escape_of_excludes hname hnode)
  | opening hnode => exact .inl (.inl rfl)
  | closing hnode => exact .inl (.inr rfl)

/-- Leaving out a name does not leak. No edge leaves the name, unless it is the name of the
top-level rules; no edge of an inclusion or to a surround node enters it, and as long as comments
stay none of a matching either; and a surround node of that name is neither declared nor left by an
edge. With comments left in, only the ends of other surround nodes can lead to it. -/
theorem edges_build_of_excludes (options : Options) (grammar : Grammar) {name : String}
    (hname : options.excludes name = true) :
    (relatedEdges options grammar).map Prod.snd = (build options grammar).edges ∧
      (∀ e ∈ (build options grammar).edges, e.source = Text.escape name → name = selfName) ∧
      (∀ x ∈ relatedEdges options grammar, x.2.target = Text.escape name →
        x.1 ≠ .inclusion ∧ x.1 ≠ .surround ∧ (options.uncomment = false → x.1 ≠ .matching)) ∧
      (∀ n, name = surroundName n → name ∉ (build options grammar).nodes ∧
        ∀ x ∈ relatedEdges options grammar, x.1 = .opening ∨ x.1 = .closing →
          x.2.source ≠ name) ∧
      (options.uncomment = false →
        ∀ x ∈ relatedEdges options grammar, x.2.target = Text.escape name →
          (x.1 = .opening ∨ x.1 = .closing) ∧ x.2.source ∈ (build options grammar).nodes ∧
            ∃ n, x.2.source = surroundName n ∧ options.excludes (surroundName n) = false) := by
  refine ⟨map_snd_relatedEdges options grammar, ?_, ?_, ?_, ?_⟩
  · intro e he hsource
    rw [edges_build] at he
    obtain ⟨a, ha, rfl⟩ := List.mem_map.1 he
    by_contra hself
    exact a.shown_of_mem ha |>.source_ne hname hself hsource
  · intro x hx htarget
    obtain ⟨a, ha, rfl⟩ := exists_shown_of_mem_relatedEdges hx
    rcases ha.relation_of_target_eq hname htarget with (hend | hend) | ⟨hend, hcomments⟩
    · simp [hend]
    · simp [hend]
    · simp [hend, hcomments]
  · rintro n rfl
    have hnode : surroundName n ∉ (build options grammar).nodes := by
      intro hmem
      exact node_ne_escape_of_excludes hname hmem (escape_surroundName n).symm
    refine ⟨hnode, fun x hx hend hsource => ?_⟩
    obtain ⟨a, ha, rfl⟩ := exists_shown_of_mem_relatedEdges hx
    exact hnode (hsource ▸ ha.source_mem_nodes hend)
  · intro hcomments x hx htarget
    obtain ⟨a, ha, rfl⟩ := exists_shown_of_mem_relatedEdges hx
    rcases ha.relation_of_target_eq hname htarget with hend | ⟨-, hno⟩
    · have hsource := ha.source_mem_nodes hend
      obtain ⟨n, hn, hkept⟩ := exists_number_of_mem_nodes hsource
      exact ⟨hend, hsource, n, hn, hn ▸ hkept⟩
    · rw [hcomments] at hno
      cases hno

/-- A grammar in which names are included, matched and begun with. -/
def greeting : Grammar where
  patterns := [.including "#hello", .including "source.css", .surrounding "a" "b",
    .container [.surrounding "hello" "c", .matching "hello"]]
  repository := some (.ofList [("hello", .including "#world"), ("world", .including "#hello")])

/-- Regular expressions with labels, but not `hello` and not the first surround node. -/
def quiet : Options :=
  ({ regex := true, labels := true } : Options).excluding ["hello", "__surround0"]

theorem edges_build_of_excludes_hello :
    quiet.excludes "hello" = true ∧
      (.opening, ⟨"__surround1", "hello", some .opening⟩) ∈ relatedEdges quiet greeting ∧
      "__surround1" ∈ (build quiet greeting).nodes ∧
      ∀ e ∈ (build quiet greeting).edges, e.source ≠ Text.escape "hello" := by
  have hname : quiet.excludes "hello" = true := by decide
  obtain ⟨-, hsource, -, -, htarget⟩ := edges_build_of_excludes quiet greeting hname
  have hopening : (.opening, ⟨"__surround1", "hello", some .opening⟩) ∈
      relatedEdges quiet greeting := by decide
  refine ⟨hname, hopening, (htarget rfl _ hopening (by decide)).2.1, fun e he heq => ?_⟩
  exact absurd (hsource e he heq) (by decide)

/-- Leaving out further names skips the named rules among them. The top-level rules stay. -/
theorem sources_excluding (options : Options) (grammar : Grammar) (names : List String) :
    sources (options.excluding names) grammar =
      grammar.patterns.map (fun rule => (selfName, rule)) ++
        (grammar.namedRules.filter fun rule => !options.excludes rule.1).filter
          fun rule => !names.contains rule.1 := by
  rw [sources, List.filter_filter]
  congr 1
  refine List.filter_congr fun rule _ => ?_
  have hname := options.excludes_excluding names rule.1
  dsimp only at hname ⊢
  rw [hname, Bool.not_or]

/-- Names that are no rules take no sources away. -/
theorem sources_excluding_of_not_mem (options : Options) {grammar : Grammar} {names : List String}
    (hnames : ∀ name ∈ names, name ∉ entryNames grammar.namedRules) :
    sources (options.excluding names) grammar = sources options grammar := by
  rw [sources_excluding, List.filter_eq_self.2]
  · rfl
  · intro rule hrule
    have hnew : rule.1 ∉ names := by
      intro hmem
      exact hnames rule.1 hmem (List.mem_map_of_mem (List.mem_of_mem_filter hrule))
    simpa using hnew

/-- Such names take away just the references to them. -/
theorem shownReferences_excluding (options : Options) {grammar : Grammar} {names : List String}
    (hnames : ∀ name ∈ names, name ∉ entryNames grammar.namedRules) :
    shownReferences (options.excluding names) grammar =
      (shownReferences options grammar).filter fun x => !names.contains x.2.referenced := by
  have hregex : (options.excluding names).regex = options.regex := rfl
  rw [shownReferences, shownReferences, sources_excluding_of_not_mem options hnames, hregex,
    List.filter_filter]
  refine List.filter_congr fun x _ => ?_
  rw [options.excludes_excluding, Bool.not_or]

/-- Leaving out names that are no rules is an exact filter: of the references that a graph shows
just those to the names go, each with its one edge or with its node and the three edges there, and
all other statements stay as they are, with the same numbers. -/
theorem statements_build_excluding (options : Options) {grammar : Grammar} {names : List String}
    (hnames : ∀ name ∈ names, name ∉ entryNames grammar.namedRules) :
    (build options grammar).statements =
        (shownReferences options grammar).flatMap (fun x => x.2.statements options x.1) ∧
      (build (options.excluding names) grammar).statements =
        ((shownReferences options grammar).filter
          fun x => !names.contains x.2.referenced).flatMap
            (fun x => x.2.statements options x.1) := by
  refine ⟨statements_build options grammar, ?_⟩
  rw [statements_build, shownReferences_excluding options hnames]
  rfl

theorem statements_build_excluding_greeting :
    (∀ name ∈ ["source.css", "__surround0"], name ∉ entryNames greeting.namedRules) ∧
      (build (({ regex := true } : Options).excluding ["source.css", "__surround0"])
          greeting).statements =
        [.edge ⟨"$self", "hello", none⟩, .edge ⟨"$self", "__surround1", none⟩,
          .node "__surround1", .edge ⟨"__surround1", "hello", none⟩,
          .edge ⟨"__surround1", "c", none⟩, .edge ⟨"$self", "hello", none⟩,
          .edge ⟨"hello", "world", none⟩, .edge ⟨"world", "hello", none⟩] := by
  have hnames : ∀ name ∈ ["source.css", "__surround0"],
      name ∉ entryNames greeting.namedRules := by decide
  refine ⟨hnames, (statements_build_excluding { regex := true } hnames).2.trans ?_⟩
  decide

end RuleGraph
