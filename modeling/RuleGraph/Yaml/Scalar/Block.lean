import RuleGraph.Yaml.Source

namespace RuleGraph.Yaml

/-- What happens to the line ends at the end of a block. -/
inductive Chomping where
  /-- None of them stays. -/
  | strip
  /-- The first of them stays. -/
  | clip
  /-- All of them stay. -/
  | keep
  deriving DecidableEq

/-- What stands behind the sign of a block: an indentation if one is given, and what happens to the
    last line ends. -/
structure BlockHeader where
  /-- The indentation beyond that of the block around. -/
  increment : Option Nat := none
  /-- What happens to the last line ends. -/
  chomping : Chomping := .clip

/-- The sign for what happens to the last line ends. -/
def chomping? : Char → Option Chomping
  | '-' => some .strip
  | '+' => some .keep
  | _ => none

/-- A digit for the indentation. -/
def indentDigit? (c : Char) : Option Nat :=
  if '0' ≤ c ∧ c ≤ '9' then some (c.toNat - '0'.toNat) else none

/-- The signs behind the sign of a block, in either order, and their number. An indentation of zero
    is refused. -/
def blockHeader? (s : List Char) : Option (BlockHeader × Nat) :=
  match s with
  | [] => some ({}, 0)
  | c :: s =>
    match chomping? c, indentDigit? c with
    | some chomping, _ =>
      match s.head?.bind indentDigit? with
      | some 0 => none
      | some n => some (⟨some n, chomping⟩, 2)
      | none => some (⟨none, chomping⟩, 1)
    | none, some 0 => none
    | none, some n =>
      match s.head?.bind chomping? with
      | some chomping => some (⟨some n, chomping⟩, 2)
      | none => some (⟨some n, .clip⟩, 1)
    | none, none => some ({}, 0)

/-- The deepest column that the spaces of the first lines reach, up to the first line with text. A
    tab must not stand behind these spaces. -/
def deepestColumn? (column deepest : Nat) : List Char → Option Nat
  | [] => some (max deepest column)
  | c :: s =>
    if c = ' ' then deepestColumn? (column + 1) deepest s
    else if c = '\t' then none
    else if isBreak c then deepestColumn? 0 (max deepest column) s
    else some (max deepest column)

/-- What has been read of a block. -/
structure BlockState where
  /-- The column of the next character, as long as no text has come on its line. -/
  column : Nat := 0
  /-- The number of characters taken. -/
  taken : Nat := 0
  /-- The line end behind the text. -/
  lineEnd : Option Char := none
  /-- The further line ends, the last one first. -/
  reversedLater : List Char := []
  /-- Whether the line read last starts with a blank, which keeps its line end from folding. -/
  startsBlank : Bool := false
  /-- The text, the last character first. -/
  reversed : List Char := []

namespace BlockState

/-- What the line ends before a line add to the text, given whether that line starts with a
    blank. -/
def between (state : BlockState) (folds nextBlank : Bool) : List Char :=
  let first :=
    if folds && state.lineEnd = some '\n' && !state.startsBlank && !nextBlank then
      if state.reversedLater.isEmpty then [' '] else []
    else state.lineEnd.toList
  first ++ state.reversedLater.reverse

/-- The text of the block, after what happens to the last line ends. -/
def finish (state : BlockState) (chomping : Chomping) : String × Nat :=
  let last :=
    match chomping with
    | .strip => []
    | .clip => state.lineEnd.toList
    | .keep => state.lineEnd.toList ++ state.reversedLater.reverse
  (String.ofList (state.reversed.reverse ++ last), state.taken)

end BlockState

mutual

/-- Reads at the start of a line, where spaces up to `indent` do not belong to the text. -/
def blockLine (folds : Bool) (chomping : Chomping) (indent : Nat) (state : BlockState) :
    List Char → Option (String × Nat)
  | [] => some (state.finish chomping)
  | c :: s =>
    if c = ' ' && state.column < indent then
      blockLine folds chomping indent
        { state with column := state.column + 1, taken := state.taken + 1 } s
    else if isBreak c then
      blockLine folds chomping indent
        { state with
          column := 0, taken := state.taken + 1, reversedLater := c :: state.reversedLater } s
    else if state.column < indent then
      if c = '\t' then none else some (state.finish chomping)
    else
      let blank := isSpaceOrTab c
      blockText folds chomping indent
        { taken := state.taken + 1, startsBlank := blank,
          reversed := c :: ((state.between folds blank).reverse ++ state.reversed) } s

/-- Reads inside a line with text. -/
def blockText (folds : Bool) (chomping : Chomping) (indent : Nat) (state : BlockState) :
    List Char → Option (String × Nat)
  | [] => some (state.finish chomping)
  | c :: s =>
    if isBreak c then
      blockLine folds chomping indent
        { state with column := 0, taken := state.taken + 1, lineEnd := some c } s
    else
      blockText folds chomping indent
        { state with taken := state.taken + 1, reversed := c :: state.reversed } s

end

/-- The block behind its sign, inside a block of the indentation `parent`: its text and the number
    of characters taken, without the sign. A literal block keeps its line ends, a folded one joins
    lines. -/
def blockScalar? (folds : Bool) (parent : Int) (s : List Char) : Option (String × Nat) :=
  match blockHeader? s with
  | none => none
  | some (header, headerLength) =>
    match restOfLine? (s.drop headerLength) with
    | none => none
    | some more =>
      let taken := headerLength + more
      let body := s.drop taken
      let indent? :=
        match header.increment with
        | some n => some ((max parent 0).toNat + n)
        | none => (deepestColumn? 0 0 body).map fun n => max (max n (parent + 1).toNat) 1
      match indent? with
      | none => none
      | some indent => blockLine folds header.chomping indent { taken := taken } body

end RuleGraph.Yaml
