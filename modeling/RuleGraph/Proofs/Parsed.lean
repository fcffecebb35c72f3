import RuleGraph.Parsed

namespace RuleGraph

variable {α β τ : Type} {input : List τ}

/-- What a reader found, and what it left over. -/
def found? (p? : Option (Parsed α input)) : Option (α × List τ) :=
  p?.map fun p => (p.value, p.rest)

@[simp] theorem found?_none : found? (none : Option (Parsed α input)) = none := rfl

@[simp] theorem found?_some (p : Parsed α input) : found? (some p) = some (p.value, p.rest) := rfl

/-- Making something of a value leaves the rest as it is. -/
theorem found?_map (p? : Option (Parsed α input)) (f : α → β) :
    found? (p?.map fun p => p.map f) = (found? p?).map (Prod.map f id) := by
  cases p? <;> rfl

/-- The first reader that finds something counts. -/
theorem found?_or (p? q? : Option (Parsed α input)) :
    found? (p? <|> q?) = (found? p?).or (found? q?) := by
  cases p? <;> rfl

/-- Whatever is found, something was taken away. -/
theorem length_lt_of_found? {rest : List τ} {a : α} {p? : Option (Parsed α input)}
    (h : found? p? = some (a, rest)) : rest.length < input.length := by
  obtain ⟨p, -, heq⟩ := Option.map_eq_some_iff.1 h
  obtain ⟨rfl, rfl⟩ := Prod.mk.inj heq
  exact p.shorter

end RuleGraph
