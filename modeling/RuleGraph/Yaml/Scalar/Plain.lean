import RuleGraph.Yaml.Scalar.Gap
import RuleGraph.Yaml.Source

namespace RuleGraph.Yaml

/-- A plain scalar that was read. -/
structure PlainScalar where
  /-- Its text. -/
  text : String
  /-- The number of characters taken, with the gap behind the text. -/
  length : Nat
  /-- Whether the gap behind the text goes over the end of a line. -/
  crossesLine : Bool

/-- A sign that ends a plain scalar inside brackets and braces. -/
def endsInFlow (c : Char) : Bool :=
  c = ',' || c = '[' || c = ']' || c = '\x7b' || c = '\x7d'

/-- A sign that cannot stand behind a colon in a plain scalar inside brackets and braces. -/
def clashesInFlow (c : Char) : Bool :=
  endsInFlow c || c = '?'

/-- Where a plain scalar stands. -/
structure PlainContext where
  /-- Whether it is inside brackets or braces. -/
  flow : Bool
  /-- The least column for its further lines. -/
  indent : Int

/-- What has been read of a plain scalar. -/
structure PlainState where
  /-- The column of the next character. -/
  column : Nat
  /-- The number of characters taken. -/
  taken : Nat := 0
  /-- The gap behind the text. -/
  gap : Gap := .empty
  /-- The text, the last character first. -/
  reversed : List Char := []

/-- The scalar that ends here. -/
def PlainState.finish (state : PlainState) : PlainScalar :=
  ⟨String.ofList state.reversed.reverse, state.taken, state.gap.crossesLine⟩

/-- Whether the text behind a gap does not belong to the scalar. -/
def endsAfterGap (context : PlainContext) (state : PlainState) (s : List Char) : Bool :=
  !state.gap.isEmpty &&
    ((!context.flow && state.column < context.indent) ||
      (state.column = 0 && atDocumentMark s) || s.head? = some '#')

/-- Reads on with a plain scalar. -/
def plainFrom (context : PlainContext) (state : PlainState) : List Char → Option PlainScalar
  | [] => some state.finish
  | c :: s =>
    if isSpaceOrTab c then
      if state.gap.crossesLine && state.column < context.indent && c = '\t' then none
      else
        plainFrom context
          { state with
            column := state.column + 1, taken := state.taken + 1, gap := state.gap.addBlank c } s
    else if isBreak c then
      plainFrom context
        { state with column := 0, taken := state.taken + 1, gap := state.gap.addBreak c } s
    else if endsAfterGap context state (c :: s) then some state.finish
    else if context.flow && c = ':' && (s.head?.map clashesInFlow).getD false then none
    else if (c = ':' && atSpace s) || (context.flow && endsInFlow c) then some state.finish
    else
      plainFrom context
        { column := state.column + 1, taken := state.taken + 1, gap := .empty,
          reversed := c :: (state.gap.folded.reverse ++ state.reversed) } s

/-- The plain scalar that starts in the given column. It ends before a comment, before a colon with
    a blank behind it, at a mark of the document, and where a line stands less deep than it should.
    Inside brackets and braces it also ends before signs that have a meaning there. -/
def plainScalar? (context : PlainContext) (column : Nat) (s : List Char) : Option PlainScalar :=
  plainFrom context { column := column } s

end RuleGraph.Yaml
