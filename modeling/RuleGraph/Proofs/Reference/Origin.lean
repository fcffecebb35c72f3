import RuleGraph.Reference.Extract

namespace RuleGraph

/-- `inner` is the rule itself or nested in it, at any depth. -/
inductive Rule.Within : Rule → Rule → Prop where
  | refl (rule : Rule) : Within rule rule
  | nested {inner rule outer : Rule} {rules : List Rule} (hrules : outer.patterns = some rules)
      (hmem : rule ∈ rules) (h : Within inner rule) : Within inner outer

/-- The reference is made by the rule itself, from its inclusion or, where regular expressions
count, from them. -/
inductive Reference.MadeBy (withRegex : Bool) (rule : Rule) : Reference → Prop where
  | inclusion {target : String} (h : rule.inclusion = some target) :
      MadeBy withRegex rule (.ofInclusion target)
  | matching {regex : String} (hregex : withRegex = true) (h : rule.regex = some regex) :
      MadeBy withRegex rule (.matching regex)
  | surround (n : Nat) {opening closing : String} (hregex : withRegex = true)
      (h : rule.surround? = some (opening, closing)) :
      MadeBy withRegex rule (.surround (surroundName n) opening closing)

/-- A rule makes references of its own regular expressions. -/
theorem madeBy_of_mem_regexReferences {rule : Rule} {n : Nat} {reference : Reference}
    (h : reference ∈ (regexReferences rule n).1) : reference.MadeBy true rule := by
  simp only [regexReferences] at h
  split at h
  · rename_i opening closing hsurround
    simp only [List.mem_append, Option.mem_toList, Option.map_eq_some_iff,
      List.mem_singleton] at h
    rcases h with ⟨regex, hregex, rfl⟩ | rfl
    · exact .matching rfl hregex
    · exact .surround n rfl hsurround
  · simp only [Option.mem_toList, Option.map_eq_some_iff] at h
    obtain ⟨regex, hregex, rfl⟩ := h
    exact .matching rfl hregex

/-- What a rule makes itself does not depend on the rules nested in it. -/
theorem Reference.MadeBy.of_same {withRegex : Bool} {rule rule' : Rule} {reference : Reference}
    (h : reference.MadeBy withRegex rule) (hinclusion : rule'.inclusion = rule.inclusion)
    (hregex : rule'.regex = rule.regex) (hsurround : rule'.surround? = rule.surround?) :
    reference.MadeBy withRegex rule' := by
  cases h with
  | inclusion h => exact .inclusion (hinclusion.trans h)
  | matching hw h => exact .matching hw (hregex.trans h)
  | surround n hw h => exact .surround n hw (hsurround.trans h)

mutual

/-- Every reference of a rule is made by the rule or by one nested in it. -/
theorem exists_madeBy_of_mem_extract {withRegex : Bool} {n : Nat} {rule : Rule}
    {reference : Reference} (h : reference ∈ (extract withRegex n rule).1) :
    ∃ inner, Rule.Within inner rule ∧ reference.MadeBy withRegex inner := by
  match rule, h with
  | ⟨inclusion, patterns, regex, opening, closing⟩, h =>
    simp only [extract, List.mem_append] at h
    rcases h with (h | h) | h
    · obtain ⟨target, htarget, rfl⟩ := Option.map_eq_some_iff.1 (Option.mem_toList.1 h)
      exact ⟨_, .refl _, .inclusion htarget⟩
    · obtain ⟨rules, hrules, rule, hmem, inner, hinner, hmade⟩ :=
        exists_madeBy_of_mem_extractNested h
      exact ⟨inner, .nested hrules hmem hinner, hmade⟩
    · split at h
      · rename_i hregex
        subst hregex
        exact ⟨_, .refl _, (madeBy_of_mem_regexReferences h).of_same rfl rfl rfl⟩
      · cases h

/-- The references of nested rules are made by these, or by rules inside them. -/
theorem exists_madeBy_of_mem_extractNested {withRegex : Bool} {n : Nat}
    {patterns : Option (List Rule)} {reference : Reference}
    (h : reference ∈ (extractNested withRegex n patterns).1) :
    ∃ rules, patterns = some rules ∧ ∃ rule ∈ rules, ∃ inner, Rule.Within inner rule ∧
      reference.MadeBy withRegex inner := by
  match patterns, h with
  | some rules, h => exact ⟨rules, rfl, exists_madeBy_of_mem_extractList h⟩

/-- The references of several rules are made by one of them, or by a rule inside it. -/
theorem exists_madeBy_of_mem_extractList {withRegex : Bool} {n : Nat} {rules : List Rule}
    {reference : Reference} (h : reference ∈ (extractList withRegex n rules).1) :
    ∃ rule ∈ rules, ∃ inner, Rule.Within inner rule ∧ reference.MadeBy withRegex inner := by
  match rules, h with
  | rule :: rules, h =>
    simp only [extractList, List.mem_append] at h
    rcases h with h | h
    · exact ⟨rule, List.mem_cons_self, exists_madeBy_of_mem_extract h⟩
    · obtain ⟨later, hmem, hmade⟩ := exists_madeBy_of_mem_extractList h
      exact ⟨later, List.mem_cons_of_mem rule hmem, hmade⟩

end

end RuleGraph
