import RuleGraph.Proofs.Reference.Numbering

namespace RuleGraph

def Reference.unnumbered : Reference → Reference
  | .surround _ opening closing => .surround "" opening closing
  | reference => reference

/-- References without a node of their own have nothing to lose. -/
theorem Reference.eq_of_unnumbered_eq {reference reference' : Reference}
    (h : reference.unnumbered = reference'.unnumbered) (hnode : reference.node? = none) :
    reference' = reference := by
  cases reference with
  | surround node opening closing => cases hnode
  | inclusion name =>
    cases reference' with
    | inclusion name' => exact h.symm
    | matching regex => cases h
    | surround node opening closing => cases h
  | matching regex =>
    cases reference' with
    | inclusion name => cases h
    | matching regex' => exact h.symm
    | surround node opening closing => cases h

/-- Only the numbers of nodes depend on where the numbering starts. -/
theorem regexReferences_renumbered (rule : Rule) (n m : Nat) :
    (regexReferences rule n).1.map Reference.unnumbered =
      (regexReferences rule m).1.map Reference.unnumbered := by
  simp only [regexReferences]
  split
  · simp only [List.map_append, List.map_cons, List.map_nil, Reference.unnumbered]
  · rfl

mutual

/-- Extraction finds the same, wherever the numbering starts. -/
theorem extract_renumbered (withRegex : Bool) (n m : Nat) (rule : Rule) :
    (extract withRegex n rule).1.map Reference.unnumbered =
      (extract withRegex m rule).1.map Reference.unnumbered := by
  match rule with
  | ⟨inclusion, patterns, regex, opening, closing⟩ =>
    have hnested := extractNested_renumbered withRegex n m patterns
    simp only [extract, List.map_append, hnested]
    congr 1
    split
    · exact regexReferences_renumbered _ _ _
    · rfl

theorem extractNested_renumbered (withRegex : Bool) (n m : Nat) (patterns : Option (List Rule)) :
    (extractNested withRegex n patterns).1.map Reference.unnumbered =
      (extractNested withRegex m patterns).1.map Reference.unnumbered := by
  match patterns with
  | none => rfl
  | some rules => exact extractList_renumbered withRegex n m rules

theorem extractList_renumbered (withRegex : Bool) (n m : Nat) (rules : List Rule) :
    (extractList withRegex n rules).1.map Reference.unnumbered =
      (extractList withRegex m rules).1.map Reference.unnumbered := by
  match rules with
  | [] => rfl
  | rule :: rules =>
    have hfirst := extract_renumbered withRegex n m rule
    have hothers := extractList_renumbered withRegex (extract withRegex n rule).2
      (extract withRegex m rule).2 rules
    simp only [extractList, List.map_append, hfirst, hothers]

end

/-- The rule or one nested in it has both a regular expression to begin and one to end with. -/
def Rule.HoldsPair (rule : Rule) : Prop :=
  ∃ inner, Rule.Within inner rule ∧ inner.surround?.isSome = true

/-- A surround node needs a pair of regular expressions. -/
theorem Reference.MadeBy.node?_eq_none {withRegex : Bool} {rule : Rule} {reference : Reference}
    (h : reference.MadeBy withRegex rule) (hpair : rule.surround? = none) :
    reference.node? = none := by
  cases h with
  | inclusion h => exact node?_ofInclusion _
  | matching hregex h => rfl
  | surround n hregex h =>
    rw [hpair] at h
    cases h

/-- A rule without pairs of regular expressions takes no number, so nothing behind it is renumbered
    when it is left out. -/
theorem extract_snd_of_not_holdsPair {rule : Rule} (h : ¬rule.HoldsPair) (withRegex : Bool)
    (n : Nat) : (extract withRegex n rule).2 = n := by
  -- As many numbers are taken as there are nodes, and there are none.
  obtain ⟨k, hnext, hnodes⟩ := numberedFrom_extract withRegex n rule
  have hnone : (extract withRegex n rule).1.filterMap Reference.node? = [] := by
    refine List.filterMap_eq_nil_iff.2 fun reference hmem => ?_
    obtain ⟨inner, hinner, hmade⟩ := exists_madeBy_of_mem_extract hmem
    cases hpair : inner.surround? with
    | none => exact hmade.node?_eq_none hpair
    | some pair => exact absurd ⟨inner, hinner, by rw [hpair]; rfl⟩ h
  have hlength := congrArg List.length hnodes
  rw [hnone, List.length_map, List.length_range', List.length_nil] at hlength
  rw [hnext, ← hlength, Nat.add_zero]

end RuleGraph
