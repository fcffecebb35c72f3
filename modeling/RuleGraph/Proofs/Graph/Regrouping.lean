import Mathlib.Logic.Relation
import RuleGraph.Proofs.Graph.NamedReferences
import RuleGraph.Proofs.Reference.Regrouping

namespace RuleGraph

/-- One regrouping of a grammar, among its top-level rules or in one of its named rules. -/
inductive Grammar.Regroups (grammar : Grammar) : Grammar → Prop where
  | patterns {patterns' : List Rule} (h : Rule.ListRegroups grammar.patterns patterns') :
      Regroups grammar { grammar with patterns := patterns' }
  | named {repository : Repository} {name : String} {rule rule' : Rule}
      (hrepository : grammar.repository = some repository) (hrule : (name, rule) ∈ repository.rules)
      (h : rule.Regroups rule') :
      Regroups grammar { grammar with repository := some (repository.set name rule') }

/-- The rules of one source draw numbers as a list of rules does. -/
theorem numberAfter_eq (withRegex : Bool) (n : Nat) (name : String) (rules : List Rule) :
    numberAfter withRegex n (rules.map fun rule => (name, rule)) =
      (extractList withRegex n rules).2 := by
  induction rules generalizing n with
  | nil => rfl
  | cons rule rules ih => exact ih (extract withRegex n rule).2

/-- Rules under one name have the references of the rules one after the other. -/
theorem namedReferences_eq (withRegex : Bool) (n : Nat) (name : String) (rules : List Rule) :
    namedReferences withRegex n (rules.map fun rule => (name, rule)) =
      (extractList withRegex n rules).1.map fun reference => (name, reference) := by
  induction rules generalizing n with
  | nil => rfl
  | cons rule rules ih =>
    simp only [List.map_cons, namedReferences, ih, extractList, List.map_append]

/-- A name that is there already is set in its place. -/
theorem exists_setEntry_eq {α : Type} {name : String} {value : α} {entries : List (String × α)}
    (hnodup : (entryNames entries).Nodup) (hmem : (name, value) ∈ entries) (value' : α) :
    ∃ before after, entries = before ++ [(name, value)] ++ after ∧
      setEntry name value' entries = before ++ [(name, value')] ++ after := by
  induction entries with
  | nil => cases hmem
  | cons entry entries ih =>
    obtain ⟨n, v⟩ := entry
    obtain ⟨hnew, hrest⟩ := List.nodup_cons.1 hnodup
    rcases List.mem_cons.1 hmem with heq | hmem
    · obtain ⟨rfl, rfl⟩ := Prod.mk.inj heq
      exact ⟨[], entries, rfl, if_pos rfl⟩
    · have hother : n ≠ name := by
        rintro rfl
        exact hnew (List.mem_map.2 ⟨_, hmem, rfl⟩)
      obtain ⟨before, after, hentries, hset⟩ := ih hrest hmem
      refine ⟨(n, v) :: before, after, congrArg _ hentries, ?_⟩
      rw [setEntry, if_neg hother, hset]
      rfl

/-- A rule may be replaced under its name by one with the same references. -/
theorem namedReferences_replaced {withRegex : Bool} {rule rule' : Rule}
    (hsame : ∀ n, extract withRegex n rule' = extract withRegex n rule) (n : Nat) (name : String)
    (before after : List (String × Rule)) :
    namedReferences withRegex n (before ++ [(name, rule')] ++ after) =
      namedReferences withRegex n (before ++ [(name, rule)] ++ after) := by
  simp only [namedReferences_append, namedReferences, numberAfter, List.foldl_append,
    List.foldl_cons, List.foldl_nil, hsame]

/-- One regrouping leaves the references of the sources as they are. -/
theorem Grammar.Regroups.namedReferences_sources {grammar grammar' : Grammar}
    (h : grammar.Regroups grammar') (options : Options) :
    namedReferences options.regex 0 (sources options grammar') =
      namedReferences options.regex 0 (sources options grammar) := by
  cases h with
  | patterns h =>
    have hsame := extractList_regrouped options.regex h 0
    simp only [sources, namedReferences_append, namedReferences_eq, numberAfter_eq, hsame]
    rfl
  | named hrepository hrule h =>
    rename_i repository name rule rule'
    obtain ⟨before, after, hbefore, hafter⟩ := exists_setEntry_eq repository.nodup hrule rule'
    have hsame := extract_regrouped options.regex h
    simp only [sources, Grammar.namedRules, hrepository, Repository.set]
    rw [hafter, hbefore]
    simp only [List.filter_append, List.filter_cons, List.filter_nil]
    cases options.excludes name with
    | true => rfl
    | false =>
      simp only [Bool.not_false, if_true, ← List.append_assoc]
      exact namedReferences_replaced hsame ..

/-- However a grammar is regrouped, its graph stays as it is, statement for statement and with the
same numbers. -/
theorem build_regrouped (options : Options) {grammar grammar' : Grammar}
    (h : Relation.EqvGen Grammar.Regroups grammar grammar') :
    build options grammar' = build options grammar := by
  induction h with
  | rel grammar grammar' h => simp only [build, h.namedReferences_sources options]
  | refl grammar => rfl
  | symm grammar grammar' _ ih => exact ih.symm
  | trans grammar between grammar' _ _ first second => exact second.trans first

/-- A rule with all facets at once. -/
def markupTag : Rule where
  inclusion := some "#name"
  patterns := some [.surrounding "'" "'"]
  regex := some "="
  opening := some "<"
  closing := some ">"

/-- A named rule that holds a rule with all facets, and rules at the top level. -/
def markup : Grammar where
  patterns := [.including "#element", .surrounding "<!--" "-->", .matching "&\\w+;"]
  repository := some (.ofList [("element", .container [markupTag])])

/-- The same with the rule split into its facets, and with two of the top-level rules wrapped. -/
def regroupedMarkup : Grammar where
  patterns := [.including "#element", .container [.surrounding "<!--" "-->", .matching "&\\w+;"]]
  repository := some (.ofList [("element", .container [.container [.including "#name",
    .container [.surrounding "'" "'"], .matching "=", .surrounding "<" ">"]])])

theorem build_regrouped_markup :
    Relation.EqvGen Grammar.Regroups markup regroupedMarkup ∧
      (build { regex := true } regroupedMarkup).nodes =
        ["__surround0", "__surround1", "__surround2"] ∧
      build { regex := true } regroupedMarkup = build { regex := true } markup := by
  have hwrap : markup.Regroups { markup with patterns := regroupedMarkup.patterns } :=
    .patterns (.wrap [.including "#element"] [.surrounding "<!--" "-->", .matching "&\\w+;"] [])
  have hnested : (Rule.container [markupTag]).Regroups (.container [.container markupTag.facets]) :=
    .nested rfl (.rule [] [] (.split markupTag))
  have hrule : ("element", Rule.container [markupTag]) ∈
      (Repository.ofList [("element", .container [markupTag])]).rules := List.mem_singleton.2 rfl
  have hsplit : Grammar.Regroups { markup with patterns := regroupedMarkup.patterns } _ :=
    .named rfl hrule hnested
  have h : Relation.EqvGen Grammar.Regroups markup regroupedMarkup :=
    .trans _ _ _ (.rel _ _ hwrap) (.rel _ _ hsplit)
  exact ⟨h, by decide, build_regrouped { regex := true } h⟩

end RuleGraph
