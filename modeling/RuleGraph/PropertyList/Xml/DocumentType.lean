namespace RuleGraph.PropertyList.Xml

/-- A place inside a declaration of a document type. -/
inductive TypePlace where
  /-- Before the brackets, and inside a quote if one is given. -/
  | head (quote : Option Char)
  /-- Inside the brackets, between declarations. -/
  | brackets
  /-- In a declaration inside the brackets, and inside a quote if one is given. -/
  | declaration (quote : Option Char)
  /-- In the declaration of an element, which has no quotes. -/
  | element
  /-- In a comment inside the brackets. -/
  | comment
  /-- In an instruction inside the brackets. -/
  | instruction
  /-- Behind the brackets. -/
  | tail
  deriving Repr, DecidableEq

/-- The quote that is open behind a character, by the one that was open before it. -/
def quoteBehind (quote : Option Char) (c : Char) : Option Char :=
  match quote with
  | none => if c = '"' ∨ c = '\'' then some c else none
  | some opened => if c = opened then none else some opened

/-- What begins inside the brackets, from behind `<`. What is no declaration is passed over like any
    other character. -/
def declarationPlace (s : List Char) : TypePlace :=
  if "!ELEMENT".toList <+: s then .element
  else if "!ATTLIST".toList <+: s ∨ "!ENTITY".toList <+: s ∨ "!NOTATION".toList <+: s then
    .declaration none
  else .brackets

/-- What follows the end of a declaration of a document type, if it has an end. That is not the
    first end mark: marks inside quotes do not count, and neither do those inside the square
    brackets that may hold further declarations. -/
def typeRest? : TypePlace → List Char → Option (List Char)
  | _, [] => none
  | .head none, '>' :: s => some s
  | .head none, '[' :: s => typeRest? .brackets s
  | .head quote, c :: s => typeRest? (.head (quoteBehind quote c)) s
  | .brackets, ']' :: s => typeRest? .tail s
  | .brackets, '<' :: '!' :: '-' :: '-' :: s => typeRest? .comment s
  | .brackets, '<' :: '?' :: s => typeRest? .instruction s
  | .brackets, '<' :: s => typeRest? (declarationPlace s) s
  | .brackets, _ :: s => typeRest? .brackets s
  | .declaration none, '>' :: s => typeRest? .brackets s
  | .declaration quote, c :: s => typeRest? (.declaration (quoteBehind quote c)) s
  | .element, '>' :: s => typeRest? .brackets s
  | .element, _ :: s => typeRest? .element s
  | .comment, '-' :: '-' :: '>' :: s => typeRest? .brackets s
  | .comment, _ :: s => typeRest? .comment s
  | .instruction, '?' :: '>' :: s => typeRest? .brackets s
  | .instruction, _ :: s => typeRest? .instruction s
  | .tail, '>' :: s => some s
  | .tail, _ :: s => typeRest? .tail s

/-- The end mark itself is taken away. -/
theorem length_lt_of_typeRest? {place : TypePlace} {s rest : List Char}
    (h : typeRest? place s = some rest) : rest.length < s.length := by
  fun_induction typeRest? place s with
  | case1 => simp at h
  | case2 | case18 =>
    obtain rfl := Option.some.inj h
    simp
  | _ =>
    rename_i ih
    have := ih h
    simp only [List.length_cons]
    omega

end RuleGraph.PropertyList.Xml
