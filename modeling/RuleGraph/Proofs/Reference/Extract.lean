import RuleGraph.Reference.Extract

namespace RuleGraph

theorem fromRegex_ofInclusion (target : String) :
    (Reference.ofInclusion target).fromRegex = false := by
  unfold Reference.ofInclusion
  split <;> rfl

/-- What a regular expression refers to comes from a regular expression. -/
theorem fromRegex_of_mem_regexReferences {rule : Rule} {n : Nat} {reference : Reference}
    (h : reference ∈ (regexReferences rule n).1) : reference.fromRegex = true := by
  simp only [regexReferences] at h
  split at h
  · simp only [List.mem_append, Option.mem_toList, Option.map_eq_some_iff,
      List.mem_singleton] at h
    rcases h with ⟨regex, -, rfl⟩ | rfl <;> rfl
  · simp only [Option.mem_toList, Option.map_eq_some_iff] at h
    obtain ⟨regex, -, rfl⟩ := h
    rfl

/-- Of the references of a rule's own regular expressions, none is an inclusion. -/
theorem filter_regexReferences (rule : Rule) (n : Nat) :
    (regexReferences rule n).1.filter (!·.fromRegex) = [] :=
  List.filter_eq_nil_iff.2 fun reference h => by simp [fromRegex_of_mem_regexReferences h]

/-- The reference of an inclusion is one, whether or not there is an inclusion. -/
theorem filter_ofInclusion (inclusion : Option String) :
    (inclusion.map Reference.ofInclusion).toList.filter (!·.fromRegex) =
      (inclusion.map Reference.ofInclusion).toList := by
  refine List.filter_eq_self.2 fun reference h => ?_
  obtain ⟨target, -, rfl⟩ := Option.map_eq_some_iff.1 (Option.mem_toList.1 h)
  simp [fromRegex_ofInclusion]

mutual

/-- Without regular expressions, extraction finds the inclusions among the references that it finds
with them, wherever the numbering starts, and it leaves the number of nodes as it was. -/
theorem extract_without_regex (n m : Nat) (rule : Rule) :
    extract false n rule = ((extract true m rule).1.filter (!·.fromRegex), n) := by
  match rule with
  | ⟨inclusion, patterns, regex, opening, closing⟩ =>
    have hnested := extractNested_without_regex n m patterns
    simp only [extract, hnested, Bool.false_eq_true, ↓reduceIte, List.append_nil,
      List.filter_append, filter_ofInclusion, filter_regexReferences]

theorem extractNested_without_regex (n m : Nat) (patterns : Option (List Rule)) :
    extractNested false n patterns =
      ((extractNested true m patterns).1.filter (!·.fromRegex), n) := by
  match patterns with
  | none => rfl
  | some rules => exact extractList_without_regex n m rules

theorem extractList_without_regex (n m : Nat) (rules : List Rule) :
    extractList false n rules = ((extractList true m rules).1.filter (!·.fromRegex), n) := by
  match rules with
  | [] => rfl
  | rule :: rules =>
    have hfirst := extract_without_regex n m rule
    have hothers := extractList_without_regex n (extract true m rule).2 rules
    simp only [extractList, hfirst, hothers, List.filter_append]

end

end RuleGraph
