import RuleGraph.Cson.Lexer
import RuleGraph.Cson.Number
import RuleGraph.Parsed

namespace RuleGraph.Cson

/-- The error of a place where something is wanted: at the next token, or at the end of a source of
    `size` bytes. -/
def wantedAt (wanted : Wanted) (size : Nat) : List Lexeme → Error
  | [] => ⟨.unmet wanted none, size⟩
  | x :: _ => ⟨.unmet wanted (some x.token), x.place.offset⟩

/-- The column of a key that is directly followed by a colon. -/
def keyColumn? : List Lexeme → Option Nat
  | key :: next :: _ =>
    if key.token.keyText?.isSome ∧ next.token = .colon then some key.place.column else none
  | _ => none

/-- Whether a token ends a line. -/
def isNewline (x : Lexeme) : Bool :=
  x.token = .newline

/-- Whether a token may stand between entries. -/
def isSeparator (x : Lexeme) : Bool :=
  x.token = .newline || x.token = .comma

/-- A key and the colon behind it. -/
def key (size : Nat) (ts : List Lexeme) : Except Error (Parsed String ts) :=
  match ts with
  | [] => .error (wantedAt .key size [])
  | x :: rest =>
    match x.token.keyText? with
    | none => .error (wantedAt .key size (x :: rest))
    | some text =>
      match rest with
      | [] => .error (wantedAt .colon size [])
      | y :: rest =>
        if y.token = .colon then .ok ⟨text, rest, length_lt_cons_cons x y rest⟩
        else .error (wantedAt .colon size (y :: rest))

/-- Whether a value may start at the given tokens after a line end: only deeper than its key. -/
def isDeeper (column : Nat) : List Lexeme → Bool
  | [] => false
  | x :: _ => column < x.place.column

/-- A string, a number or a bare word that denotes a value. -/
def scalar (size : Nat) (ts : List Lexeme) : Except Error (Parsed Document ts) :=
  match ts with
  | [] => .error (wantedAt .value size [])
  | x :: rest =>
    match x.token with
    | .string text => .ok ⟨.string text, rest, by simp⟩
    | .number text =>
      match numberValue? text.toList with
      | some value => .ok ⟨value, rest, by simp⟩
      | none => .error (wantedAt .number size (x :: rest))
    | .word word =>
      match keywordValue? word with
      | some value => .ok ⟨value, rest, by simp⟩
      | none => .error (wantedAt .value size (x :: rest))
    | _ => .error (wantedAt .value size (x :: rest))

mutual

/-- An implied object, or a value of any other kind. -/
def item (size : Nat) (ts : List Lexeme) : Except Error (Parsed Document ts) :=
  match keyColumn? ts with
  | some column =>
    match impliedFields size column ts with
    | .ok p => .ok (p.map Document.ofFields)
    | .error e => .error e
  | none => value size ts
termination_by (ts.length, 4)

/-- The value of an entry whose key stands in the given column. -/
def entryValue (size column : Nat) (ts : List Lexeme) : Except Error (Parsed Document ts) :=
  let later := ts.dropWhile isNewline
  if later.length < ts.length ∧ isDeeper column later = false then
    .error (wantedAt .indentedValue size later)
  else
    match item size later with
    | .ok p => .ok (p.widen (List.dropWhile_sublist isNewline (l := ts)).length_le)
    | .error e => .error e
termination_by (ts.length, 5)
decreasing_by
  have := (List.dropWhile_sublist isNewline (l := ts)).length_le
  rcases Nat.lt_or_eq_of_le this with h | h
  · exact Prod.Lex.left _ _ h
  · rw [h]
    exact Prod.Lex.right _ (by decide)

/-- The entries of an implied object in the given column, at least one. -/
def impliedFields (size column : Nat) (ts : List Lexeme) :
    Except Error (Parsed (List (String × Document)) ts) :=
  match key size ts with
  | .error e => .error e
  | .ok name =>
    match entryValue size column name.rest with
    | .error e => .error e
    | .ok first =>
      let entry := name.andThen first fun name value => (name, value)
      let later := entry.rest.dropWhile isNewline
      if later.length < entry.rest.length ∧ keyColumn? later = some column then
        match impliedFields size column later with
        | .error e => .error e
        | .ok others =>
          .ok ⟨entry.value :: others.value, others.rest,
            Nat.lt_trans others.shorter
              (Nat.lt_of_le_of_lt (List.dropWhile_sublist isNewline).length_le entry.shorter)⟩
      else .ok (entry.map fun entry => [entry])
termination_by (ts.length, 3)
decreasing_by
  · exact Prod.Lex.left _ _ name.shorter
  · exact Prod.Lex.left _ _
      (Nat.lt_of_le_of_lt (List.dropWhile_sublist isNewline).length_le entry.shorter)

/-- The entries of an object in braces and the closing brace. -/
def bracedFields (size : Nat) (ts : List Lexeme) :
    Except Error (Parsed (List (String × Document)) ts) :=
  match hlater : ts.dropWhile isSeparator with
  | [] => .error (wantedAt .key size [])
  | x :: rest =>
    have hle : (x :: rest).length ≤ ts.length := hlater ▸ (List.dropWhile_sublist _).length_le
    if x.token = .closeBrace then .ok ⟨[], rest, by simp at hle; omega⟩
    else
      match key size (x :: rest) with
      | .error e => .error e
      | .ok name =>
        match entryValue size x.place.column name.rest with
        | .error e => .error e
        | .ok first =>
          let entry := (name.andThen first fun name value => (name, value)).widen hle
          match bracedFields size entry.rest with
          | .error e => .error e
          | .ok others => .ok (entry.andThen others List.cons)
termination_by (ts.length, 2)
decreasing_by
  · exact Prod.Lex.left _ _ (Nat.lt_of_lt_of_le name.shorter hle)
  · exact Prod.Lex.left _ _ entry.shorter

/-- The items of an array and the closing bracket. -/
def arrayItems (size : Nat) (ts : List Lexeme) :
    Except Error (Parsed (List Document) ts) :=
  match hlater : ts.dropWhile isSeparator with
  | [] => .error (wantedAt .value size [])
  | x :: rest =>
    have hle : (x :: rest).length ≤ ts.length := hlater ▸ (List.dropWhile_sublist _).length_le
    if x.token = .closeBracket then .ok ⟨[], rest, by simp at hle; omega⟩
    else
      match item size (x :: rest) with
      | .error e => .error e
      | .ok first =>
        let first := first.widen hle
        match arrayItems size first.rest with
        | .error e => .error e
        | .ok others => .ok (first.andThen others List.cons)
termination_by (ts.length, 5)
decreasing_by
  · rcases Nat.lt_or_eq_of_le hle with h | h
    · exact Prod.Lex.left _ _ h
    · rw [h]
      exact Prod.Lex.right _ (by decide)
  · exact Prod.Lex.left _ _ first.shorter

/-- An object in braces, an array, or a scalar. -/
def value (size : Nat) (ts : List Lexeme) : Except Error (Parsed Document ts) :=
  match ts with
  | [] => .error (wantedAt .value size [])
  | x :: rest =>
    if x.token = .openBrace then
      match bracedFields size rest with
      | .ok p => .ok ((p.map Document.ofFields).widen (by simp))
      | .error e => .error e
    else if x.token = .openBracket then
      match arrayItems size rest with
      | .ok p => .ok ((p.map Document.array).widen (by simp))
      | .error e => .error e
    else scalar size (x :: rest)
termination_by (ts.length, 3)

end

/-- The document that a list of tokens denotes; `size` is the number of bytes of their source.
    Nothing but line ends may stand around it. -/
def documentOfTokens (size : Nat) (ts : List Lexeme) : Except Error Document :=
  match item size (ts.dropWhile isNewline) with
  | .error e => .error e
  | .ok p =>
    match p.rest.dropWhile isNewline with
    | [] => .ok p.value
    | x :: _ => .error ⟨.afterDocument x.token, x.place.offset⟩

/-- The document of a source. An object stands in braces, or it is implied: it starts where a key is
    directly followed by a colon, and goes on with each later line whose key stands in the same
    column. A value on a line after its key stands deeper than the key. -/
def parse (source : String) : Except Error Document :=
  match tokens source.toList with
  | .error e => .error e
  | .ok ts => documentOfTokens source.utf8ByteSize ts

end RuleGraph.Cson
