import RuleGraph.Graph.Basic
import RuleGraph.Parsed

namespace RuleGraph

namespace Relation

/-- The relation with the given text on its edges. -/
def ofLabel? (text : String) : Option Relation :=
  [inclusion, matching, surround, opening, closing].find? (·.label = text)

theorem ofLabel?_label (relation : Relation) : ofLabel? relation.label = some relation := by
  cases relation <;> decide

end Relation

namespace Dot

/-- A token of the language. -/
inductive Token where
  | openBrace
  | closeBrace
  | openBracket
  | closeBracket
  | equals
  | semicolon
  | arrow
  /-- A bare word. -/
  | word (text : List Char)
  /-- Text between double quotes, as written between them. -/
  | quoted (text : List Char)
  deriving Repr, DecidableEq

/-- The text before the first quote that is not escaped, and what follows that quote. A backslash
    and the character behind it are one unit. -/
def untilQuote : List Char → Option (List Char × List Char)
  | [] => none
  | '"' :: s => some ([], s)
  | '\\' :: c :: s => (untilQuote s).map fun (body, rest) => ('\\' :: c :: body, rest)
  | c :: s => (untilQuote s).map fun (body, rest) => (c :: body, rest)

theorem length_lt_of_untilQuote {s body rest : List Char}
    (h : untilQuote s = some (body, rest)) : rest.length < s.length := by
  fun_induction untilQuote s generalizing body with
  | case1 => cases h
  | case2 s =>
    obtain ⟨-, rfl⟩ := Prod.mk.inj (Option.some.inj h)
    exact Nat.lt_succ_self _
  | case3 c s ih =>
    obtain ⟨⟨b, r⟩, hb, heq⟩ := Option.map_eq_some_iff.1 h
    obtain ⟨-, rfl⟩ := Prod.mk.inj heq
    have := ih hb
    simp only [List.length_cons]
    omega
  | case4 c s _ _ ih =>
    obtain ⟨⟨b, r⟩, hb, heq⟩ := Option.map_eq_some_iff.1 h
    obtain ⟨-, rfl⟩ := Prod.mk.inj heq
    have := ih hb
    simp only [List.length_cons]
    omega

/-- The token of a single character. -/
def mark? : Char → Option Token
  | '\x7b' => some .openBrace
  | '\x7d' => some .closeBrace
  | '[' => some .openBracket
  | ']' => some .closeBracket
  | '=' => some .equals
  | ';' => some .semicolon
  | _ => none

/-- The tokens of a text, if it is made of tokens. -/
def tokens? (s : List Char) : Option (List Token) :=
  match s with
  | [] => some []
  | '-' :: '>' :: r => (tokens? r).map (.arrow :: ·)
  | '"' :: r =>
    match _h : untilQuote r with
    | none => none
    | some (body, rest) => (tokens? rest).map (.quoted body :: ·)
  | c :: r =>
    if c.isWhitespace then tokens? r
    else if c.isAlpha then
      (tokens? (r.dropWhile Char.isAlpha)).map (.word (c :: r.takeWhile Char.isAlpha) :: ·)
    else
      match mark? c with
      | some token => (tokens? r).map (token :: ·)
      | none => none
termination_by s.length
decreasing_by
  · simp only [List.length_cons]
    omega
  · have := length_lt_of_untilQuote _h
    simp only [List.length_cons]
    omega
  · simp
  · have := (List.dropWhile_sublist Char.isAlpha (l := r)).length_le
    simp only [List.length_cons]
    omega
  · simp

theorem tokens?_nil : tokens? [] = some [] := by
  rw [tokens?]

theorem tokens?_arrow (r : List Char) :
    tokens? ('-' :: '>' :: r) = (tokens? r).map (.arrow :: ·) := by
  rw [tokens?]

/-- Quoted text is a token up to the first quote that no backslash escapes. -/
theorem tokens?_quoted {r body rest : List Char} (h : untilQuote r = some (body, rest)) :
    tokens? ('"' :: r) = (tokens? rest).map (.quoted body :: ·) := by
  rw [tokens?]
  split
  · rename_i hnone
    rw [h] at hnone
    cases hnone
  · rename_i body' rest' hsome
    rw [h] at hsome
    obtain ⟨rfl, rfl⟩ := Prod.mk.inj (Option.some.inj hsome)
    rfl

/-- A character that begins neither an arrow nor a quoted text. -/
theorem tokens?_cons {c : Char} (harrow : c ≠ '-') (hquote : c ≠ '"') (r : List Char) :
    tokens? (c :: r) =
      if c.isWhitespace then tokens? r
      else if c.isAlpha then
        (tokens? (r.dropWhile Char.isAlpha)).map (.word (c :: r.takeWhile Char.isAlpha) :: ·)
      else (mark? c).bind fun token => (tokens? r).map (token :: ·) := by
  rw [tokens?]
  · cases mark? c <;> rfl
  · intro r heq
    exact absurd heq harrow
  · exact hquote

/-- Whether a bare word is the name of the one attribute that graphs have. -/
def isLabel (name : List Char) : Bool :=
  name = "label".toList

/-- The statements up to the brace that ends the graph. A node has an empty label, and an edge has
    the label of a relation or none. -/
def statements? : List Token → Option (List Statement)
  | [.closeBrace] => some []
  | .quoted source :: .arrow :: .quoted target :: .semicolon :: rest =>
    (statements? rest).map (.edge ⟨String.ofList source, String.ofList target, none⟩ :: ·)
  | .quoted source :: .arrow :: .quoted target :: .openBracket :: .word name :: .equals ::
      .quoted text :: .closeBracket :: .semicolon :: rest =>
    match Relation.ofLabel? (String.ofList text) with
    | some relation =>
      if isLabel name then
        (statements? rest).map
          (.edge ⟨String.ofList source, String.ofList target, some relation⟩ :: ·)
      else none
    | none => none
  | .quoted node :: .openBracket :: .word name :: .equals :: .quoted text :: .closeBracket ::
      .semicolon :: rest =>
    if isLabel name ∧ text = [] then
      (statements? rest).map (.node (String.ofList node) :: ·)
    else none
  | _ => none

/-- The statements of a graph, in order, if the text is a graph of the name that all graphs have. -/
def read? (text : String) : Option (List Statement) :=
  match tokens? text.toList with
  | some (.word kind :: .word name :: .openBrace :: rest) =>
    if kind = "digraph".toList ∧ name = "TextMate".toList then statements? rest else none
  | _ => none

end Dot

end RuleGraph
