import RuleGraph.Reference.Extract

namespace RuleGraph

namespace Rule

/-- Each facet of a rule as a rule of its own, in the order of extraction. Of the regular
    expressions at the ends, one without the other is no facet. -/
def facets (rule : Rule) : List Rule :=
  (rule.inclusion.map including).toList ++ (rule.patterns.map container).toList ++
    (rule.regex.map matching).toList ++
    (rule.surround?.map fun ends => surrounding ends.1 ends.2).toList

mutual

/-- One regrouping of a rule: it is split into its facets, or the rules nested in it are
    regrouped. -/
inductive Regroups : Rule → Rule → Prop where
  | split (rule : Rule) : Regroups rule (container rule.facets)
  | nested {rule : Rule} {rules rules' : List Rule} (hpatterns : rule.patterns = some rules)
      (h : ListRegroups rules rules') : Regroups rule { rule with patterns := some rules' }

/-- One regrouping in a list of rules: some that follow each other are wrapped, or one of them is
    regrouped. -/
inductive ListRegroups : List Rule → List Rule → Prop where
  | wrap (before wrapped after : List Rule) :
      ListRegroups (before ++ wrapped ++ after) (before ++ [container wrapped] ++ after)
  | rule (before : List Rule) {rule rule' : Rule} (after : List Rule) (h : Regroups rule rule') :
      ListRegroups (before ++ [rule] ++ after) (before ++ [rule'] ++ after)

end

end Rule

variable (withRegex : Bool) (n : Nat)

/-- The rules behind others go on with the numbers that these leave. -/
theorem extractList_append (rules others : List Rule) :
    extractList withRegex n (rules ++ others) =
      ((extractList withRegex n rules).1 ++
          (extractList withRegex (extractList withRegex n rules).2 others).1,
        (extractList withRegex (extractList withRegex n rules).2 others).2) := by
  induction rules generalizing n with
  | nil => rfl
  | cons rule rules ih => simp only [List.cons_append, extractList, ih, List.append_assoc]

theorem extractList_singleton (rule : Rule) :
    extractList withRegex n [rule] = extract withRegex n rule := by
  simp only [extractList, List.append_nil]

/-- A container has no references but those of the rules in it. -/
theorem extract_container (rules : List Rule) :
    extract withRegex n (.container rules) = extractList withRegex n rules := by
  simp only [Rule.container, extract, extractNested, regexReferences, Rule.surround?,
    Option.map_none, Option.toList_none, List.nil_append, ite_self, List.append_nil]

/-- A rule that only includes another one makes just that reference. -/
theorem extractList_including (inclusion : Option String) :
    extractList withRegex n (inclusion.map Rule.including).toList =
      ((inclusion.map Reference.ofInclusion).toList, n) := by
  cases inclusion with
  | none => rfl
  | some target => cases withRegex <;> rfl

/-- A container of rules makes just the references of these rules. -/
theorem extractList_container (patterns : Option (List Rule)) :
    extractList withRegex n (patterns.map Rule.container).toList =
      extractNested withRegex n patterns := by
  cases patterns with
  | none => rfl
  | some rules => exact (extractList_singleton ..).trans (extract_container ..)

/-- The regular expressions of a rule are its last two facets. -/
theorem extractList_regexes (rule : Rule) :
    extractList withRegex n ((rule.regex.map Rule.matching).toList ++
        (rule.surround?.map fun ends => Rule.surrounding ends.1 ends.2).toList) =
      if withRegex then regexReferences rule n else ([], n) := by
  obtain ⟨inclusion, patterns, regex, opening, closing⟩ := rule
  cases withRegex <;> cases regex <;> cases opening <;> cases closing <;> rfl

/-- A rule is as good as its facets, each as a rule of its own. -/
theorem extractList_facets (rule : Rule) :
    extractList withRegex n rule.facets = extract withRegex n rule := by
  obtain ⟨inclusion, patterns, regex, opening, closing⟩ := rule
  rw [Rule.facets, List.append_assoc, extractList_append, extractList_append, extractList_including,
    extractList_container, extractList_regexes]
  rfl

mutual

/-- A rule that is regrouped has the same references as before, wherever the numbering starts. -/
theorem extract_regrouped {rule rule' : Rule} (h : rule.Regroups rule') (n : Nat) :
    extract withRegex n rule' = extract withRegex n rule := by
  match h with
  | .split rule => exact (extract_container ..).trans (extractList_facets ..)
  | .nested hpatterns h =>
    obtain ⟨inclusion, patterns, regex, opening, closing⟩ := rule
    obtain rfl : patterns = some _ := hpatterns
    simp only [extract, extractNested, extractList_regrouped h n]

/-- Rules that are grouped in another way make the same references, in the same order and with the
    same numbers. -/
theorem extractList_regrouped {rules rules' : List Rule} (h : Rule.ListRegroups rules rules')
    (n : Nat) : extractList withRegex n rules' = extractList withRegex n rules := by
  match h with
  | .wrap before wrapped after =>
    simp only [extractList_append, extractList_singleton, extract_container]
  | .rule before after h =>
    simp only [extractList_append, extractList_singleton, extract_regrouped h]

end

end RuleGraph
