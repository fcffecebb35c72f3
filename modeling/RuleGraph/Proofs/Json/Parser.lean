import RuleGraph.Json.Parser
import RuleGraph.Proofs.Parsed

namespace RuleGraph.Json

theorem found?_sign? (c : Char) (s : List Char) :
    found? (sign? c s) =
      if (skipSpaces s).head? = some c then some ((), (skipSpaces s).tail) else none := by
  unfold sign?
  split
  · rename_i d rest hskip
    by_cases hd : d = c <;> simp [hskip, hd]
  · rename_i hskip
    simp [hskip]

theorem found?_string? (s : List Char) :
    found? (string? s) =
      if s.head? = some '"' then
        (stringBody s.tail).map fun (text, rest) => (String.ofList text, rest)
      else none := by
  unfold string?
  split
  · rename_i r
    split <;> simp_all
  · rename_i hquote
    rw [if_neg]
    · rfl
    · intro hhead
      obtain ⟨r, rfl⟩ := List.head?_eq_some_iff.1 hhead
      exact hquote r rfl

/-- A value as a plain result: its first character decides what it is, and the room for nesting
    shrinks with each bracket. -/
theorem found?_value? (room : Nat) (s : List Char) :
    found? (value? room s) =
      match skipSpaces s with
      | [] => none
      | c :: r =>
        if c = '\x7b' then
          match room with
          | 0 => none
          | room + 1 =>
            match found? (sign? '\x7d' r) with
            | some (_, rest) => some (.object [], rest)
            | none => (found? (members? room r)).map fun (fields, rest) => (.ofFields fields, rest)
        else if c = '[' then
          match room with
          | 0 => none
          | room + 1 =>
            match found? (sign? ']' r) with
            | some (_, rest) => some (.array [], rest)
            | none => (found? (items? room r)).map fun (items, rest) => (.array items, rest)
        else found? (scalar? (c :: r)) := by
  rw [value?]
  split
  · rename_i hskip
    simp only [hskip]
    rfl
  · rename_i c r hskip
    simp only [hskip]
    split
    · cases room with
      | zero => rfl
      | succ room =>
        dsimp only
        cases sign? '\x7d' r with
        | some p => rfl
        | none => cases members? room r <;> rfl
    · split
      · cases room with
        | zero => rfl
        | succ room =>
          dsimp only
          cases sign? ']' r with
          | some p => rfl
          | none => cases items? room r <;> rfl
      · cases scalar? (c :: r) <;> rfl

/-- The fields of an object as a plain result: one field, and behind a comma the others. -/
theorem found?_members? (room : Nat) (s : List Char) :
    found? (members? room s) = (do
      let (name, rest) ← found? (string? (skipSpaces s))
      let (_, rest) ← found? (sign? ':' rest)
      let (d, rest) ← found? (value? room rest)
      match found? (sign? ',' rest) with
      | some (_, rest) =>
        let (others, rest) ← found? (members? room rest)
        some ((name, d) :: others, rest)
      | none =>
        let (_, rest) ← found? (sign? '\x7d' rest)
        some ([(name, d)], rest)) := by
  rw [members?]
  cases string? (skipSpaces s) with
  | none => rfl
  | some name =>
    simp only [found?_some, Option.bind_eq_bind, Option.bind_some, Parsed.widen]
    cases sign? ':' name.rest with
    | none => rfl
    | some colon =>
      simp only [found?_some, Option.bind_some, Parsed.andThen]
      cases value? room colon.rest with
      | none => rfl
      | some value =>
        simp only [found?_some, Option.bind_some]
        cases sign? ',' value.rest with
        | some comma =>
          simp only [found?_some]
          cases members? room comma.rest <;> rfl
        | none =>
          simp only [found?_none]
          cases sign? '\x7d' value.rest <;> rfl

theorem found?_items? (room : Nat) (s : List Char) :
    found? (items? room s) = (do
      let (d, rest) ← found? (value? room s)
      match found? (sign? ',' rest) with
      | some (_, rest) =>
        let (others, rest) ← found? (items? room rest)
        some (d :: others, rest)
      | none =>
        let (_, rest) ← found? (sign? ']' rest)
        some ([d], rest)) := by
  rw [items?]
  cases value? room s with
  | none => rfl
  | some value =>
    simp only [found?_some, Option.bind_eq_bind, Option.bind_some, Parsed.andThen]
    cases sign? ',' value.rest with
    | some comma =>
      simp only [found?_some]
      cases items? room comma.rest <;> rfl
    | none =>
      simp only [found?_none]
      cases sign? ']' value.rest <;> rfl

/-- An object with fields is read up to its closing brace. -/
theorem found?_value?_object {room : Nat} {s r rest : List Char}
    {fields : List (String × Document)} (hopen : skipSpaces s = '\x7b' :: r)
    (hsome : found? (sign? '\x7d' r) = none)
    (hfields : found? (members? room r) = some (fields, rest)) :
    found? (value? (room + 1) s) = some (.ofFields fields, rest) := by
  rw [found?_value?, hopen]
  simp only [↓reduceIte, hsome, hfields, Option.map_some]

/-- The last member of an object, with the brace behind it. -/
theorem found?_members?_last {room : Nat} {s rest₁ rest₂ rest₃ rest : List Char} {name : String}
    {d : Document} (hname : found? (string? (skipSpaces s)) = some (name, rest₁))
    (hcolon : found? (sign? ':' rest₁) = some ((), rest₂))
    (hvalue : found? (value? room rest₂) = some (d, rest₃))
    (hcomma : found? (sign? ',' rest₃) = none)
    (hclose : found? (sign? '\x7d' rest₃) = some ((), rest)) :
    found? (members? room s) = some ([(name, d)], rest) := by
  rw [found?_members?, hname]
  simp only [Option.bind_eq_bind, Option.bind_some, hcolon, hvalue, hcomma, hclose]

/-- A document is a value with nothing but blanks behind it. -/
theorem parse?_eq (source : String) :
    parse? source =
      (found? (value? maxDepth source.toList)).bind fun (d, rest) =>
        if skipSpaces rest = [] then some d else none := by
  unfold parse?
  cases value? maxDepth source.toList with
  | none => rfl
  | some p => simp

end RuleGraph.Json
