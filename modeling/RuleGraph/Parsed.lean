namespace RuleGraph

/-- A value read from the front of `input`, and the rest of it. The rest is shorter than what was
    there, so a reader that goes on with it comes to an end. -/
structure Parsed (α : Type) {τ : Type} (input : List τ) where
  /-- What was read. -/
  value : α
  /-- What is left over. -/
  rest : List τ
  /-- Something was taken away. -/
  shorter : rest.length < input.length

namespace Parsed

/-- The same rest with another value. -/
def map {α β τ : Type} {input : List τ} (f : α → β) (p : Parsed α input) : Parsed β input :=
  ⟨f p.value, p.rest, p.shorter⟩

/-- The same result, seen as read from a longer list that begins with something else. -/
def widen {α τ : Type} {input longer : List τ} (h : input.length ≤ longer.length)
    (p : Parsed α input) : Parsed α longer :=
  ⟨p.value, p.rest, Nat.lt_of_lt_of_le p.shorter h⟩

/-- The same result, seen as read from behind one more element. -/
def behind {α τ : Type} {x : τ} {input : List τ} (p : Parsed α input) : Parsed α (x :: input) :=
  p.widen (Nat.le_succ input.length)

/-- A result read from the rest of another one, with a value made of both. -/
def andThen {α β γ τ : Type} {input : List τ} (p : Parsed α input) (q : Parsed β p.rest)
    (f : α → β → γ) : Parsed γ input :=
  ⟨f p.value q.value, q.rest, Nat.lt_trans q.shorter p.shorter⟩

/-- The same value with less left over. -/
def goOn {α τ : Type} {input : List τ} (p : Parsed α input) (rest : List τ)
    (h : rest.length ≤ p.rest.length) : Parsed α input :=
  ⟨p.value, rest, Nat.lt_of_le_of_lt h p.shorter⟩

end Parsed

/-- What stands behind the first two elements is shorter than the whole. -/
theorem length_lt_cons_cons {α : Type} (x y : α) (s : List α) :
    s.length < (x :: y :: s).length := by
  simp only [List.length_cons]
  omega

end RuleGraph
