import RuleGraph.Cson.Error
import RuleGraph.Cson.Literal
import RuleGraph.Text.Split

namespace RuleGraph.Cson

/-- One step through the source `s`: what is taken from its front, and the token it makes, if it
    makes one. -/
structure Lexed (s : List Char) where
  /-- The token; blanks and comments make none. -/
  token? : Option Token
  /-- The text taken. -/
  taken : List Char
  /-- The text left over. -/
  rest : List Char
  /-- Nothing is lost. -/
  taken_append_rest : taken ++ rest = s
  /-- Something is taken. -/
  taken_ne_nil : taken ≠ []

theorem Lexed.length_rest_lt {s : List Char} (x : Lexed s) : x.rest.length < s.length := by
  have h := congrArg List.length x.taken_append_rest
  have hpos := List.length_pos_iff.2 x.taken_ne_nil
  simp only [List.length_append] at h
  omega

/-- What stands between the quotes of a literal, from behind the opening ones, and what follows
    the closing ones. A character behind a backslash never closes the literal. -/
def literalBody (quotes : List Char) : List Char → Option (List Char × List Char)
  | [] => none
  | '\\' :: c :: s =>
    (literalBody quotes s).map fun (body, rest) => ('\\' :: c :: body, rest)
  | c :: s =>
    if quotes <+: c :: s then some ([], (c :: s).drop quotes.length)
    else (literalBody quotes s).map fun (body, rest) => (c :: body, rest)

/-- The body, its closing quotes and the rest make up the source, so nothing is lost between them.
    -/
theorem append_of_literalBody {quotes s body rest : List Char}
    (h : literalBody quotes s = some (body, rest)) : body ++ quotes ++ rest = s := by
  fun_induction literalBody quotes s generalizing body with
  | case1 => simp at h
  | case2 c s ih =>
    obtain ⟨⟨b, r⟩, hb, he⟩ := Option.map_eq_some_iff.1 h
    obtain ⟨rfl, rfl⟩ := Prod.mk.injEq .. ▸ he
    simpa using ih hb
  | case3 c s _ hquotes =>
    obtain ⟨rfl, rfl⟩ := Prod.mk.injEq .. ▸ Option.some.inj h
    obtain ⟨t, ht⟩ := hquotes
    simp [← ht]
  | case4 c s _ _ ih =>
    obtain ⟨⟨b, r⟩, hb, he⟩ := Option.map_eq_some_iff.1 h
    obtain ⟨rfl, rfl⟩ := Prod.mk.injEq .. ▸ he
    simpa using ih hb

/-- A comment between two marks of three `#`, which may hold line feeds. A fourth `#` right behind
    the first mark makes it an ordinary comment. -/
def blockComment? (s : List Char) : Option (Lexed s) :=
  match s with
  | '#' :: '#' :: '#' :: r =>
    if r.head? = some '#' then none
    else
      match h : Text.splitAtMark ['#', '#', '#'] r with
      | some (body, rest) =>
        some ⟨none, ['#', '#', '#'] ++ body ++ ['#', '#', '#'], rest,
          by simpa using Text.append_of_splitAtMark h, by simp⟩
      | none => none
  | _ => none

/-- A comment up to the end of the line, without the line feed. -/
def lineComment? (s : List Char) : Option (Lexed s) :=
  match s with
  | '#' :: r =>
    some ⟨none, '#' :: r.takeWhile (· ≠ '\n'), r.dropWhile (· ≠ '\n'), by simp, by simp⟩
  | _ => none

/-- A blank that does not end the line. -/
def isSpace (c : Char) : Bool :=
  c = ' ' || c = '\t' || c = '\r'

/-- A run of blanks that do not end the line. -/
def spaces? (s : List Char) : Option (Lexed s) :=
  match s with
  | c :: r =>
    if isSpace c then some ⟨none, c :: r.takeWhile isSpace, r.dropWhile isSpace, by simp, by simp⟩
    else none
  | [] => none

/-- The quotes that open a literal, three of them before one of them. -/
def openingQuotes? : List Char → Option (Delimiter × List Char)
  | '\'' :: '\'' :: '\'' :: r => some (.tripleSingle, r)
  | '"' :: '"' :: '"' :: r => some (.tripleDouble, r)
  | '\'' :: r => some (.single, r)
  | '"' :: r => some (.double, r)
  | _ => none

/-- The opening quotes are the characters of the delimiter itself. -/
theorem append_of_openingQuotes? {s r : List Char} {delimiter : Delimiter}
    (h : openingQuotes? s = some (delimiter, r)) : delimiter.text ++ r = s := by
  unfold openingQuotes? at h
  split at h <;> simp only [Option.some.injEq, Prod.mk.injEq, reduceCtorEq] at h
  all_goals
    obtain ⟨rfl, rfl⟩ := h
    rfl

theorem Delimiter.text_ne_nil (delimiter : Delimiter) : delimiter.text ≠ [] := by
  cases delimiter <;> simp [Delimiter.text]

/-- A literal in quotes. -/
def literal? (s : List Char) : Option (Lexed s) :=
  match hopen : openingQuotes? s with
  | none => none
  | some (delimiter, r) =>
    match hbody : literalBody delimiter.text r with
    | none => none
    | some (raw, rest) =>
      some ⟨some (.string (literalText delimiter raw)), delimiter.text ++ raw ++ delimiter.text,
        rest,
        by
          have h := append_of_literalBody hbody
          rw [← append_of_openingQuotes? hopen, ← h]
          simp,
        by simp [Delimiter.text_ne_nil]⟩

/-- A character inside a number, after its first digits. -/
def isNumberChar (c : Char) : Bool :=
  c.isAlphanum || c = '.'

/-- The sign that a number may start with. -/
def minusSign : List Char → List Char
  | '-' :: _ => ['-']
  | _ => []

theorem minusSign_append_drop (s : List Char) :
    minusSign s ++ s.drop (minusSign s).length = s := by
  unfold minusSign
  split <;> simp

/-- A number: a sign or none, at least one digit, then digits, letters and points. Whether it
    denotes anything is settled later. -/
def number? (s : List Char) : Option (Lexed s) :=
  let r := s.drop (minusSign s).length
  let digits := r.takeWhile isDigit
  let later := r.dropWhile isDigit
  if h : digits = [] then none
  else
    let text := minusSign s ++ digits ++ later.takeWhile isNumberChar
    some ⟨some (.number (String.ofList text)), text, later.dropWhile isNumberChar,
      by
        simp only [text, digits, later, List.append_assoc, List.takeWhile_append_dropWhile]
        exact minusSign_append_drop s,
      by simp [text, h]⟩

/-- A character that may start a bare word. -/
def isWordStart (c : Char) : Bool :=
  c.isAlpha || c = '_' || c = '$'

/-- A character inside a bare word. -/
def isWordChar (c : Char) : Bool :=
  c.isAlphanum || c = '_' || c = '$'

/-- A bare word. -/
def word? (s : List Char) : Option (Lexed s) :=
  match s with
  | c :: r =>
    if isWordStart c then
      let text := c :: r.takeWhile isWordChar
      some ⟨some (.word (String.ofList text)), text, r.dropWhile isWordChar, by simp [text],
        by simp [text]⟩
    else none
  | [] => none

/-- The token of a single character. -/
def punctuation : Char → Option Token
  | '\x7b' => some .openBrace
  | '\x7d' => some .closeBrace
  | '[' => some .openBracket
  | ']' => some .closeBracket
  | ':' => some .colon
  | ',' => some .comma
  | '\n' => some .newline
  | _ => none

/-- A token of one character. -/
def punctuation? (s : List Char) : Option (Lexed s) :=
  match s with
  | c :: r =>
    match punctuation c with
    | some token => some ⟨some token, [c], r, by simp, by simp⟩
    | none => none
  | [] => none

/-- One step through a source. Comments come first, and numbers come before words. -/
def lex? (s : List Char) : Option (Lexed s) :=
  blockComment? s <|> lineComment? s <|> spaces? s <|> literal? s <|> number? s <|> word? s <|>
    punctuation? s

/-- Why no token starts with the character `c`. -/
def causeAt (c : Char) : Cause :=
  if c = '\'' ∨ c = '"' then .unterminatedString else .unexpectedCharacter

/-- The tokens of the source `s`, which starts at `place`, up to the first error. -/
def tokensFrom (place : Place) (s : List Char) : Except Error (List Lexeme) :=
  match s with
  | [] => .ok []
  | c :: r =>
    match lex? (c :: r) with
    | none => .error ⟨causeAt c, place.offset⟩
    | some x =>
      match tokensFrom (place.advance x.taken) x.rest with
      | .error e => .error e
      | .ok later =>
        match x.token? with
        | some token => .ok (⟨token, place⟩ :: later)
        | none => .ok later
termination_by s.length
decreasing_by exact x.length_rest_lt

/-- The tokens of a source. Blanks within a line and comments are skipped; everything that is taken
    is accounted for, so that the place of each token follows from the text before it. -/
def tokens (source : List Char) : Except Error (List Lexeme) :=
  tokensFrom {} source

end RuleGraph.Cson
