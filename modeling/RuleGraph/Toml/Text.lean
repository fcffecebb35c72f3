import RuleGraph.Decimal.Digits
import RuleGraph.Parsed

namespace RuleGraph.Toml

/-- A blank within a line. The carriage return of a line end counts as one. -/
def isSpace (c : Char) : Bool :=
  c = ' ' || c = '\t' || c = '\r'

/-- A blank within or between lines. -/
def isSpaceOrNewline (c : Char) : Bool :=
  isSpace c || c = '\n'

/-- The letters that stand for one character behind a backslash. -/
def escapedChar? : Char → Option Char
  | '"' => some '"'
  | '\\' => some '\\'
  | 'b' => some '\x08'
  | 'e' => some '\x1b'
  | 'f' => some '\x0c'
  | 'n' => some '\n'
  | 'r' => some '\r'
  | 't' => some '\t'
  | _ => none

/-- The number of hexadecimal digits behind a letter that starts a code point. -/
def codeLength? : Char → Option Nat
  | 'x' => some 2
  | 'u' => some 4
  | 'U' => some 8
  | _ => none

/-- The character whose code point is written by hexadecimal digits. -/
def charOfCode? (digits : List Char) : Option Char :=
  match natOfDigits? 16 digits with
  | some n => if n.isValidChar then some (Char.ofNat n) else none
  | none => none

theorem length_drop_lt_cons (n : Nat) (c : Char) (s : List Char) :
    (s.drop n).length < (c :: s).length := by
  simp only [List.length_drop, List.length_cons]
  omega

/-- The character that stands behind a backslash. -/
def escape? (s : List Char) : Option (Parsed Char s) :=
  match s with
  | [] => none
  | c :: r =>
    match codeLength? c with
    | some length =>
      if (r.take length).length = length then
        (charOfCode? (r.take length)).map fun x =>
          ⟨x, r.drop length, length_drop_lt_cons length c r⟩
      else none
    | none => (escapedChar? c).map fun x => ⟨x, r, Nat.lt_succ_self r.length⟩

/-- The inside of a string with escapes, from behind its quote up to behind the closing one. -/
def basicBody? (s : List Char) : Option (Parsed (List Char) s) :=
  match s with
  | [] => none
  | '\n' :: _ => none
  | '"' :: r => some ⟨[], r, by simp⟩
  | '\\' :: r =>
    match escape? r with
    | none => none
    | some c =>
      have := c.shorter
      (basicBody? c.rest).map fun body =>
        (c.andThen body List.cons).widen (by simp)
  | c :: r =>
    (basicBody? r).map fun body => (body.map (c :: ·)).widen (by simp)
termination_by s.length

/-- The inside of a string without escapes, from behind its quote up to behind the closing one. -/
def literalBody? : (s : List Char) → Option (Parsed (List Char) s)
  | [] => none
  | '\n' :: _ => none
  | '\'' :: r => some ⟨[], r, by simp⟩
  | c :: r => (literalBody? r).map fun body => (body.map (c :: ·)).widen (by simp)

/-- The end of a string over several lines: three quotes, and before them up to two that belong to
    the string. -/
def closingQuotes? (quote : Char) (s : List Char) : Option (Parsed (List Char) s) :=
  let count := min 5 (s.takeWhile (· = quote)).length
  if h : 3 ≤ count then
    some ⟨List.replicate (count - 3) quote, s.drop count, by
      have := (List.takeWhile_sublist (l := s) (· = quote)).length_le
      simp only [List.length_drop]
      omega⟩
  else none

/-- What follows the blanks and ends of lines behind a backslash at the end of a line, if it stands
    there. -/
def joinedLine? (s : List Char) : Option (List Char) :=
  match s.dropWhile isSpace with
  | '\n' :: r => some (r.dropWhile isSpaceOrNewline)
  | _ => none

theorem length_le_of_joinedLine? {s r : List Char} (h : joinedLine? s = some r) :
    r.length ≤ s.length := by
  unfold joinedLine? at h
  split at h
  · rename_i t ht
    obtain rfl := Option.some.inj h
    have hspace := (List.dropWhile_sublist isSpace (l := s)).length_le
    have hlines := (List.dropWhile_sublist isSpaceOrNewline (l := t)).length_le
    rw [ht, List.length_cons] at hspace
    omega
  · simp at h

/-- The inside of a string over several lines with escapes, up to behind its closing quotes. -/
def linesBody? (s : List Char) : Option (Parsed (List Char) s) :=
  match closingQuotes? '"' s with
  | some body => some body
  | none =>
    match s with
    | [] => none
    | '\\' :: r =>
      match h : joinedLine? r with
      | some rest =>
        have := length_le_of_joinedLine? h
        (linesBody? rest).map fun body => body.widen (by simp only [List.length_cons]; omega)
      | none =>
        match escape? r with
        | none => none
        | some c =>
          have := c.shorter
          (linesBody? c.rest).map fun body => (c.andThen body List.cons).widen (by simp)
    | c :: r => (linesBody? r).map fun body => (body.map (c :: ·)).widen (by simp)
termination_by s.length
decreasing_by all_goals (simp only [List.length_cons]; omega)

/-- The inside of a string over several lines without escapes, up to behind its closing quotes. -/
def literalLinesBody? (s : List Char) : Option (Parsed (List Char) s) :=
  match closingQuotes? '\'' s with
  | some body => some body
  | none =>
    match s with
    | [] => none
    | c :: r => (literalLinesBody? r).map fun body => (body.map (c :: ·)).widen (by simp)

/-- The first end of a line in a string over several lines does not count. -/
def dropFirstNewline : List Char → List Char
  | '\n' :: s => s
  | '\r' :: '\n' :: s => s
  | s => s

theorem length_dropFirstNewline_le (s : List Char) :
    (dropFirstNewline s).length ≤ s.length := by
  unfold dropFirstNewline
  split <;> simp +arith

/-- A string within one line. -/
def lineString? (s : List Char) : Option (Parsed String s) :=
  match s with
  | '"' :: r => (basicBody? r).map fun body => (body.map String.ofList).widen (by simp)
  | '\'' :: r => (literalBody? r).map fun body => (body.map String.ofList).widen (by simp)
  | _ => none

/-- A string of any kind. -/
def string? (s : List Char) : Option (Parsed String s) :=
  match s with
  | '"' :: '"' :: '"' :: r =>
    (linesBody? (dropFirstNewline r)).map fun body =>
      (body.map String.ofList).widen (by
        have := length_dropFirstNewline_le r
        simp only [List.length_cons]
        omega)
  | '\'' :: '\'' :: '\'' :: r =>
    (literalLinesBody? (dropFirstNewline r)).map fun body =>
      (body.map String.ofList).widen (by
        have := length_dropFirstNewline_le r
        simp only [List.length_cons]
        omega)
  | s => lineString? s

/-- A character of a key without quotes. -/
def isKeyChar (c : Char) : Bool :=
  c.isAlphanum || c = '_' || c = '-'

/-- A key without quotes. -/
def bareKey? (s : List Char) : Option (Parsed String s) :=
  match s with
  | [] => none
  | c :: r =>
    if isKeyChar c then
      some ⟨String.ofList (c :: r.takeWhile isKeyChar), r.dropWhile isKeyChar, by
        have := (List.dropWhile_sublist isKeyChar (l := r)).length_le
        simp only [List.length_cons]
        omega⟩
    else none

/-- One key, with or without quotes, and the blanks behind it. -/
def key? (s : List Char) : Option (Parsed String s) :=
  (lineString? s <|> bareKey? s).map fun key =>
    key.goOn (key.rest.dropWhile isSpace) (List.dropWhile_sublist isSpace).length_le

/-- The most keys with points between them. -/
def maxPathLength : Nat := 80

/-- Keys with points between them, of which there may be `room`, and the blanks behind them. -/
def pathWithin? (room : Nat) (s : List Char) : Option (Parsed (List String) s) :=
  match room with
  | 0 => none
  | room + 1 =>
    match key? s with
    | none => none
    | some key =>
      match h : key.rest with
      | '.' :: r =>
        have hlt : (r.dropWhile isSpace).length < s.length := by
          have hkey := key.shorter
          have hle := (List.dropWhile_sublist isSpace (l := r)).length_le
          rw [h, List.length_cons] at hkey
          omega
        (pathWithin? room (r.dropWhile isSpace)).map fun path =>
          (path.map (key.value :: ·)).widen (Nat.le_of_lt hlt)
      | _ => some (key.map fun key => [key])

/-- Keys with points between them, and the blanks behind them. -/
def path? (s : List Char) : Option (Parsed (List String) s) :=
  pathWithin? maxPathLength s

end RuleGraph.Toml
