import RuleGraph.Json.Number
import RuleGraph.Json.Text

namespace RuleGraph.Json

/-- A blank between the parts of a document. -/
def isSpace (c : Char) : Bool :=
  c = ' ' || c = '\n' || c = '\t' || c = '\r'

/-- The text behind leading blanks. -/
def skipSpaces (s : List Char) : List Char :=
  s.dropWhile isSpace

theorem length_skipSpaces_le (s : List Char) : (skipSpaces s).length ≤ s.length :=
  (List.dropWhile_sublist isSpace (l := s)).length_le

/-- One given character, after blanks. -/
def sign? (c : Char) (s : List Char) : Option (Parsed Unit s) :=
  match h : skipSpaces s with
  | d :: rest =>
    if d = c then
      some ⟨(), rest, by
        have := length_skipSpaces_le s
        rw [h, List.length_cons] at this
        omega⟩
    else none
  | [] => none

/-- A value that is a word. -/
def word? (word : List Char) (value : Document) (s : List Char) : Option (Parsed Document s) :=
  if h : word ≠ [] ∧ word <+: s then
    some ⟨value, s.drop word.length, by
      have := List.length_pos_iff.2 h.1
      have := h.2.length_le
      simp only [List.length_drop]
      omega⟩
  else none

/-- A string, a word, or a number. -/
def scalar? (s : List Char) : Option (Parsed Document s) :=
  ((string? s).map fun p => p.map Document.string) <|>
    word? ['t', 'r', 'u', 'e'] (.bool true) s <|>
    word? ['f', 'a', 'l', 's', 'e'] (.bool false) s <|>
    word? ['n', 'u', 'l', 'l'] .null s <|>
    number? s

mutual

/-- A value, with room for `room` levels of objects and arrays. -/
def value? (room : Nat) (s : List Char) : Option (Parsed Document s) :=
  match h : skipSpaces s with
  | [] => none
  | c :: r =>
    have hle : (c :: r).length ≤ s.length := h ▸ length_skipSpaces_le s
    if c = '\x7b' then
      match room with
      | 0 => none
      | room + 1 =>
        match sign? '\x7d' r with
        | some p => some ⟨.object [], p.rest, Nat.lt_of_lt_of_le (Nat.lt_succ_of_lt p.shorter) hle⟩
        | none =>
          (members? room r).map fun p =>
            (p.map Document.ofFields).widen (by simp at hle; omega)
    else if c = '[' then
      match room with
      | 0 => none
      | room + 1 =>
        match sign? ']' r with
        | some p => some ⟨.array [], p.rest, Nat.lt_of_lt_of_le (Nat.lt_succ_of_lt p.shorter) hle⟩
        | none => (items? room r).map fun p => (p.map Document.array).widen (by simp at hle; omega)
    else (scalar? (c :: r)).map fun p => p.widen hle
termination_by (s.length, 1)
decreasing_by
  all_goals
    apply Prod.Lex.left
    simp at hle
    omega

/-- The fields of an object, at least one, and the closing brace. -/
def members? (room : Nat) (s : List Char) : Option (Parsed (List (String × Document)) s) :=
  match string? (skipSpaces s) with
  | none => none
  | some name =>
    let name := name.widen (length_skipSpaces_le s)
    match sign? ':' name.rest with
    | none => none
    | some colon =>
      let name := name.andThen colon fun text _ => text
      match value? room name.rest with
      | none => none
      | some value =>
        let field := name.andThen value fun name value => (name, value)
        match sign? ',' field.rest with
        | some comma =>
          let field := field.andThen comma fun field _ => field
          (members? room field.rest).map fun others => field.andThen others List.cons
        | none => (sign? '\x7d' field.rest).map fun p => field.andThen p fun field _ => [field]
termination_by (s.length, 2)
decreasing_by
  · exact Prod.Lex.left _ _ name.shorter
  · exact Prod.Lex.left _ _ field.shorter

/-- The items of an array, at least one, and the closing bracket. -/
def items? (room : Nat) (s : List Char) : Option (Parsed (List Document) s) :=
  match value? room s with
  | none => none
  | some value =>
    match sign? ',' value.rest with
    | some comma =>
      let value := value.andThen comma fun value _ => value
      (items? room value.rest).map fun others => value.andThen others List.cons
    | none => (sign? ']' value.rest).map fun p => value.andThen p fun value _ => [value]
termination_by (s.length, 2)
decreasing_by
  · exact Prod.Lex.right _ (by decide)
  · exact Prod.Lex.left _ _ value.shorter

end

/-- The deepest nesting of objects and arrays. -/
def maxDepth : Nat := 127

/-- The document of a source, with nothing but blanks around it. -/
def parse? (source : String) : Option Document :=
  match value? maxDepth source.toList with
  | some p => if (skipSpaces p.rest).isEmpty then some p.value else none
  | none => none

end RuleGraph.Json
