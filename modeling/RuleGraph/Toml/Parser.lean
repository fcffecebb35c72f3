import RuleGraph.Toml.Scalar
import RuleGraph.Toml.Table
import RuleGraph.Toml.Text

namespace RuleGraph.Toml

/-- Whether a character may stand somewhere in a document. -/
def isAllowed (c : Char) : Bool :=
  c = '\t' || c = '\n' || c = '\r' || (0x20 ≤ c.toNat && c.toNat ≠ 0x7F)

/-- Whether all characters may stand in a document, and carriage returns only before line feeds. -/
def isClean : List Char → Bool
  | [] => true
  | '\r' :: '\n' :: s => isClean s
  | c :: s => c ≠ '\r' && isAllowed c && isClean s

/-- What follows blanks, comments and ends of lines. -/
def skipLines (inComment : Bool) : List Char → List Char
  | [] => []
  | c :: s =>
    if inComment then skipLines (c ≠ '\n') s
    else if c = '#' then skipLines true s
    else if isSpaceOrNewline c then skipLines false s
    else c :: s

theorem length_skipLines_le (inComment : Bool) (s : List Char) :
    (skipLines inComment s).length ≤ s.length := by
  fun_induction skipLines inComment s with
  | case1 => simp
  | case2 | case3 | case4 => simp only [List.length_cons]; omega
  | case5 => simp

/-- The result without blanks, comments and ends of lines behind it. -/
def thenLines {α : Type} {s : List Char} (p : Parsed α s) : Parsed α s :=
  p.goOn (skipLines false p.rest) (length_skipLines_le false p.rest)

/-- A value without quotes and brackets that starts with `c`. A time behind a date may have a blank
    before it. -/
def bareValue? (c : Char) (r : List Char) : Option (Parsed Value (c :: r)) :=
  let more := r.takeWhile isScalarChar
  let time :=
    match r.dropWhile isScalarChar with
    | ' ' :: d :: t => if isDigit d then ' ' :: d :: t.takeWhile isScalarChar else []
    | _ => []
  let text := if isDay (c :: more) then more ++ time else more
  if isScalarChar c then
    (scalar? (c :: text)).map fun value =>
      ⟨value, r.drop text.length, by
        simp only [List.length_drop, List.length_cons]
        omega⟩
  else none

/-- The table within one pair of braces. -/
def inlineTable? (pairs : List (List String × Value)) : Option Value :=
  (pairs.foldlM (fun fields (path, value) => assign value path fields) []).map fun fields =>
    .table (finishedFields fields)

/-- The most levels of arrays and inline tables inside one another. -/
def maxDepth : Nat := 80

mutual

/-- A value, with room for `room` levels of arrays and inline tables. -/
def value? (room : Nat) (s : List Char) : Option (Parsed Value s) :=
  match s with
  | [] => none
  | '[' :: r =>
    have hle := length_skipLines_le false r
    if room = 0 then none
    else
      (items? (room - 1) (skipLines false r)).map fun items =>
        (items.map Value.array).widen (by simp only [List.length_cons]; omega)
  | '\x7b' :: r =>
    have hle := length_skipLines_le false r
    if room = 0 then none
    else
      match pairs? (room - 1) (skipLines false r) with
      | none => none
      | some pairs =>
        (inlineTable? pairs.value).map fun value =>
          (pairs.map fun _ => value).widen (by simp only [List.length_cons]; omega)
  | c :: r =>
    if c = '"' ∨ c = '\'' then (string? (c :: r)).map fun text => text.map Value.string
    else bareValue? c r
termination_by (s.length, 0)

/-- The values of an array, up to behind its closing bracket. A comma may follow the last one. -/
def items? (room : Nat) (s : List Char) : Option (Parsed (List Value) s) :=
  match s with
  | ']' :: r => some ⟨[], r, by simp⟩
  | s =>
    match value? room s with
    | none => none
    | some item =>
      let item := thenLines item
      match hrest : item.rest with
      | ']' :: r =>
        some ((item.map fun value => [value]).goOn r (by simp [Parsed.map, hrest]))
      | ',' :: r =>
        have hlt : (skipLines false r).length < s.length := by
          have hitem := item.shorter
          have hle := length_skipLines_le false r
          rw [hrest, List.length_cons] at hitem
          omega
        (items? room (skipLines false r)).map fun items =>
          (items.map (item.value :: ·)).widen (Nat.le_of_lt hlt)
      | _ => none
termination_by (s.length, 1)

/-- The keys and values of an inline table, up to behind its closing brace. Lines may end around
    each sign, and a comma may follow the last value. -/
def pairs? (room : Nat) (s : List Char) : Option (Parsed (List (List String × Value)) s) :=
  match s with
  | '\x7d' :: r => some ⟨[], r, by simp⟩
  | s =>
    match (path? s).map thenLines with
    | none => none
    | some path =>
      match hpath : path.rest with
      | '=' :: t =>
        have hvalue : (skipLines false t).length < s.length := by
          have hs := path.shorter
          have hle := length_skipLines_le false t
          rw [hpath, List.length_cons] at hs
          omega
        match value? room (skipLines false t) with
        | none => none
        | some item =>
          let item := thenLines item
          match hrest : item.rest with
          | '\x7d' :: r =>
            some ⟨[(path.value, item.value)], r, by
              have hitem := item.shorter
              rw [hrest, List.length_cons] at hitem
              omega⟩
          | ',' :: r =>
            have hlt : (skipLines false r).length < s.length := by
              have hitem := item.shorter
              have hle := length_skipLines_le false r
              rw [hrest, List.length_cons] at hitem
              omega
            (pairs? room (skipLines false r)).map fun pairs =>
              (pairs.map ((path.value, item.value) :: ·)).widen (Nat.le_of_lt hlt)
          | _ => none
      | _ => none
termination_by (s.length, 1)

end

/-- A line of a document. -/
inductive Statement where
  /-- Begins a table. -/
  | table (path : List String)
  /-- Begins a further table of a list of tables. -/
  | listed (path : List String)
  /-- Sets a value in the table that began last. -/
  | assignment (path : List String) (value : Value)

/-- The path of a header from behind its opening brackets, if `closing` follows it. -/
def headerPath? (closing : List Char) (s : List Char) : Option (Parsed (List String) s) :=
  match path? (s.dropWhile isSpace) with
  | none => none
  | some path =>
    if closing <+: path.rest then
      some ((path.widen (List.dropWhile_sublist isSpace).length_le).goOn
        (path.rest.drop closing.length) (by simp [Parsed.widen]))
    else none

/-- A key and its value. -/
def assignment? (s : List Char) : Option (Parsed Statement s) :=
  match path? s with
  | none => none
  | some path =>
    match hpath : path.rest with
    | '=' :: t =>
      (value? maxDepth (t.dropWhile isSpace)).map fun item =>
        (item.map (Statement.assignment path.value)).widen (by
          have hs := path.shorter
          have hle := (List.dropWhile_sublist isSpace (l := t)).length_le
          rw [hpath, List.length_cons] at hs
          omega)
    | _ => none

/-- One line of a document, without its end. -/
def statement? (s : List Char) : Option (Parsed Statement s) :=
  match s with
  | '[' :: '[' :: r =>
    (headerPath? [']', ']'] r).map fun path =>
      (path.map Statement.listed).behind.behind
  | '[' :: r => (headerPath? [']'] r).map fun path => (path.map Statement.table).behind
  | s => assignment? s

/-- Whether only blanks and a comment stand before the end of the line. -/
def endsLine (s : List Char) : Bool :=
  match s.dropWhile isSpace with
  | [] => true
  | c :: _ => c = '\n' || c = '#'

/-- The lines of a document that has no blanks, comments and ends of lines at its front. -/
def statements? (s : List Char) : Option (List Statement) :=
  match s with
  | [] => some []
  | s =>
    match statement? s with
    | none => none
    | some found =>
      have := (thenLines found).shorter
      if endsLine found.rest then
        (statements? (thenLines found).rest).map (found.value :: ·)
      else none
termination_by s.length

/-- The path of the table that began last, and all fields read so far. -/
structure Draft where
  path : List String := []
  fields : Fields := []

/-- Begins a table inside the one that the other keys of a path name. -/
def Draft.begin (draft : Draft) (path : List String) (change : String → Fields → Option Fields) :
    Option Draft :=
  match path.getLast? with
  | none => none
  | some key => (changeAt (change key) path.dropLast draft.fields).map fun fields => ⟨path, fields⟩

/-- Adds a line to what is read. -/
def Draft.add (draft : Draft) : Statement → Option Draft
  | .table path => draft.begin path beginTable
  | .listed path => draft.begin path beginListed
  | .assignment path value =>
    (changeAt (assign value path) draft.path draft.fields).map fun fields =>
      { draft with fields := fields }

/-- The text without the mark of its encoding. -/
def dropEncodingMark : List Char → List Char
  | '\ufeff' :: s => s
  | s => s

/-- The fields of the table that a text writes, in increasing order of their names. -/
def parse? (text : String) : Option (List (String × Value)) :=
  let s := dropEncodingMark text.toList
  if isClean s then
    match statements? (skipLines false s) with
    | some statements =>
      (statements.foldlM Draft.add {}).map fun draft => finishedFields draft.fields
    | none => none
  else none

end RuleGraph.Toml
