import RuleGraph.Proofs.Graph.Exclusion

namespace RuleGraph

/-- Where an edge can end: at a name, or at a surround node, which is known by the source that it
    hangs on and by the targets at its two ends. -/
inductive Terminal where
  | named (name : String)
  | surround (source opening closing : String)
  deriving Repr, DecidableEq

/-- An edge without the numbers of surround nodes. -/
structure Link where
  source : Terminal
  target : Terminal
  label : Option Relation
  deriving Repr, DecidableEq

/-- The links of statements in order. The declaration of a surround node stands right behind the
    edge to it, and is followed by the edges to its ends. -/
def linksOf : List Statement → List Link
  | [] => []
  | .edge e :: .node _ :: .edge opening :: .edge closing :: rest =>
    let node := .surround e.source opening.target closing.target
    ⟨.named e.source, node, e.label⟩ :: ⟨node, .named opening.target, opening.label⟩ ::
      ⟨node, .named closing.target, closing.label⟩ :: linksOf rest
  | .edge e :: rest => ⟨.named e.source, .named e.target, e.label⟩ :: linksOf rest
  | .node _ :: rest => linksOf rest

def Graph.links (graph : Graph) : List Link :=
  linksOf graph.statements

def Reference.links (options : Options) (source : String) (reference : Reference) : List Link :=
  linksOf (reference.statements options source)

/-- A single edge is a link of its own, unless a declaration follows it. -/
theorem linksOf_edge_cons (e : Edge) {rest : List Statement}
    (h : ∀ node later, rest ≠ .node node :: later) :
    linksOf (.edge e :: rest) = ⟨.named e.source, .named e.target, e.label⟩ :: linksOf rest := by
  cases rest with
  | nil => rfl
  | cons s later =>
    cases s with
    | node node => exact absurd rfl (h node later)
    | edge e' => rfl

/-- The links of a block can be told without the blocks behind it, which never start with a node. -/
theorem linksOf_statements_append (options : Options) (source : String) (reference : Reference)
    {rest : List Statement} (h : ∀ node later, rest ≠ .node node :: later) :
    linksOf (reference.statements options source ++ rest) =
      reference.links options source ++ linksOf rest := by
  cases reference with
  | inclusion name => exact linksOf_edge_cons _ h
  | matching regex => exact linksOf_edge_cons _ h
  | surround node opening closing => rfl

theorem flatMap_statements_ne (options : Options) (l : List (String × Reference)) (node : String)
    (later : List Statement) :
    l.flatMap (fun x => x.2.statements options x.1) ≠ .node node :: later := by
  cases l with
  | nil => exact nofun
  | cons x l =>
    obtain ⟨source, reference⟩ := x
    cases reference <;> exact nofun

/-- The links of a graph are those of its shown references. -/
theorem links_build (options : Options) (grammar : Grammar) :
    (build options grammar).links =
      (shownReferences options grammar).flatMap fun x => x.2.links options x.1 := by
  rw [Graph.links, statements_build]
  induction shownReferences options grammar with
  | nil => rfl
  | cons x l ih =>
    rw [List.flatMap_cons, List.flatMap_cons,
      linksOf_statements_append options x.1 x.2 (flatMap_statements_ne options l), ih]

/-- A link is there if some reference of the sources shows it. -/
theorem mem_links_build_iff {options : Options} {grammar : Grammar} {link : Link} :
    link ∈ (build options grammar).links ↔ ∃ source reference,
      (source, reference) ∈ namedReferences options.regex 0 (sources options grammar) ∧
        options.excludes reference.referenced = false ∧ link ∈ reference.links options source := by
  rw [links_build, List.mem_flatMap]
  constructor
  · rintro ⟨⟨source, reference⟩, hx, hlink⟩
    obtain ⟨hfound, hkept⟩ := mem_shownReferences.1 hx
    exact ⟨source, reference, hfound, hkept, hlink⟩
  · rintro ⟨source, reference, hfound, hkept, hlink⟩
    exact ⟨(source, reference), mem_shownReferences.2 ⟨hfound, hkept⟩, hlink⟩

/-- Links do not tell the numbers of surround nodes. -/
theorem links_eq_of_unnumbered_eq {reference reference' : Reference}
    (h : reference.unnumbered = reference'.unnumbered) (options : Options) (source : String) :
    reference.links options source = reference'.links options source := by
  have hlinks (r : Reference) : r.links options source = r.unnumbered.links options source := by
    cases r <;> rfl
  rw [hlinks reference, h, ← hlinks reference']

/-- A reference that is left out under one number only belongs to a surround node. -/
theorem relation_eq_surround {reference before : Reference} {options : Options}
    (h : before.unnumbered = reference.unnumbered)
    (hkept : options.excludes reference.referenced = false)
    (hout : options.excludes before.referenced = true) : before.relation = .surround := by
  cases before with
  | surround node opening closing => rfl
  | _ =>
    obtain rfl := Reference.eq_of_unnumbered_eq h rfl
    rw [hkept] at hout
    contradiction

/-- Two rules with a surround node each. -/
def twoPairs : Grammar where
  patterns := []
  repository := some (.ofList [("a", .surrounding "p" "q"), ("b", .surrounding "x" "y")])

/-- Regular expressions, but not the second surround node. -/
def withoutSecond : Options :=
  ({ regex := true } : Options).excluding ["__surround1"]

/-- Leaving out more can show something new: without the rule of the first surround node the second
one is renumbered, and shows where it was left out by its number. -/
theorem not_forall_links_build_excluding :
    ¬∀ (options : Options) (grammar : Grammar) (names : List String),
      ∀ link ∈ (build (options.excluding names) grammar).links,
        link ∈ (build options grammar).links := by
  intro h
  have hnew := h withoutSecond twoPairs ["a"] ⟨.named "b", .surround "b" "x" "y", none⟩ (by decide)
  revert hnew
  decide

/-- Leaving out more shows nothing new but what renumbering brings to light: every edge of a graph
    with more names left out, surround nodes being known by what hangs on them, is an edge of the
    graph without them; unless it belongs to a surround node of a rule that stays, behind a further
    rule that is left out and holds a pair, and the node was left out by the number it draws there. -/
theorem links_build_excluding (options : Options) (grammar : Grammar) (names : List String)
    {link : Link} (hlink : link ∈ (build (options.excluding names) grammar).links) :
    link ∈ (build options grammar).links ∨
      ∃ x, BehindPair options.regex
          (numberAfter options.regex 0 (grammar.patterns.map fun rule => (selfName, rule)))
          (grammar.namedRules.filter fun rule => !options.excludes rule.1) names x ∧
        x.1 ∉ names ∧ x.2.relation = .surround ∧ options.excludes x.2.referenced = true ∧
          link ∈ x.2.links options x.1 := by
  obtain ⟨source, reference, hfound, hkept, hmem⟩ := mem_links_build_iff.1 hlink
  rw [options.excludes_excluding, Bool.or_eq_false_iff] at hkept
  have hsame (h : (source, reference) ∈
      namedReferences options.regex 0 (sources options grammar)) :
      link ∈ (build options grammar).links :=
    mem_links_build_iff.2 ⟨source, reference, h, hkept.2, hmem⟩
  have hregex : (options.excluding names).regex = options.regex := rfl
  rw [hregex, sources_excluding, namedReferences_append, List.mem_append] at hfound
  rw [sources, namedReferences_append] at hsame
  obtain htop | hrule := hfound
  · exact .inl (hsame (List.mem_append_left _ htop))
  obtain hbefore | ⟨before, heq, hbehind⟩ := mem_or_exists_behindPair hrule
  · exact .inl (hsame (List.mem_append_right _ hbefore))
  -- The reference was there before, but its node may have had another number.
  have hlinks : link ∈ before.links options source := by
    rw [links_eq_of_unnumbered_eq heq]
    exact hmem
  have hall : (source, before) ∈ namedReferences options.regex 0 (sources options grammar) := by
    rw [sources, namedReferences_append]
    exact List.mem_append_right _ hbehind.mem
  cases hout : options.excludes before.referenced with
  | false => exact .inl (mem_links_build_iff.2 ⟨source, before, hall, hout, hlinks⟩)
  | true =>
    have hstays : source ∉ names := by
      obtain ⟨rule, -, hmem, -⟩ := exists_mem_extract_of_mem_namedReferences hrule
      simpa using (List.mem_filter.1 hmem).2
    have hnode := relation_eq_surround heq hkept.2 hout
    exact .inr ⟨(source, before), hbehind, hstays, hnode, hout, hlinks⟩

theorem links_build_excluding_twoPairs :
    ⟨.named "b", .surround "b" "x" "y", none⟩ ∈
        (build (withoutSecond.excluding ["a"]) twoPairs).links ∧
      ∃ x, BehindPair true 0 twoPairs.namedRules ["a"] x ∧ x.1 ∉ ["a"] ∧
        x.2.relation = .surround ∧ withoutSecond.excludes x.2.referenced = true ∧
          ⟨.named "b", .surround "b" "x" "y", none⟩ ∈ x.2.links withoutSecond x.1 := by
  have hlink : ⟨.named "b", .surround "b" "x" "y", none⟩ ∈
      (build (withoutSecond.excluding ["a"]) twoPairs).links := by decide
  refine ⟨hlink, ?_⟩
  rcases links_build_excluding withoutSecond twoPairs ["a"] hlink with hbefore | hout
  · exact absurd hbefore (by decide)
  · exact hout

end RuleGraph
