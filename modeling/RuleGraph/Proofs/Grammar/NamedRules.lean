import RuleGraph.Grammar
import RuleGraph.Proofs.Entries

namespace RuleGraph.Grammar

/-- The names of the rules are distinct. -/
theorem nodup_entryNames_namedRules (grammar : Grammar) :
    (entryNames grammar.namedRules).Nodup := by
  unfold namedRules
  split
  · rename_i repository _
    exact repository.nodup
  · exact List.nodup_nil

/-- The grammar with further named rules, given one after the other. -/
def withRules (grammar : Grammar) (given : List (String × Rule)) : Grammar :=
  given.foldl (fun grammar (name, rule) => grammar.withRule name rule) grammar

theorem namedRules_withRule (grammar : Grammar) (name : String) (rule : Rule) :
    (grammar.withRule name rule).namedRules = setEntry name rule grammar.namedRules := by
  simp only [withRule, namedRules]
  cases grammar.repository <;> rfl

/-- Rules are given one after the other, each under its name. -/
theorem namedRules_withRules (grammar : Grammar) (given : List (String × Rule)) :
    (grammar.withRules given).namedRules = setEntries grammar.namedRules given := by
  induction given generalizing grammar with
  | nil => rfl
  | cons entry given ih =>
    obtain ⟨name, rule⟩ := entry
    have hrest := ih (grammar.withRule name rule)
    rw [namedRules_withRule] at hrest
    exact hrest

/-- The names stand in the order in which they were given first. -/
theorem entryNames_namedRules_withRules (grammar : Grammar) (given : List (String × Rule)) :
    entryNames (grammar.withRules given).namedRules =
      (entryNames (grammar.namedRules ++ given)).eraseDups := by
  rw [namedRules_withRules, entryNames_setEntries given grammar.nodup_entryNames_namedRules]

/-- Each name has the rule that was given last. -/
theorem lookup_namedRules_withRules (grammar : Grammar) (given : List (String × Rule))
    (name : String) :
    (grammar.withRules given).namedRules.lookup name =
      (given.reverse.lookup name).or (grammar.namedRules.lookup name) := by
  rw [namedRules_withRules, lookup_setEntries]

end RuleGraph.Grammar
