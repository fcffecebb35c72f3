import RuleGraph.Cson.Parser

namespace RuleGraph.Cson

/-- Only line ends. -/
def Newlines (ts : List Lexeme) : Prop :=
  ∀ x ∈ ts, x.token = .newline

/-- Only line ends and commas. -/
def Separators (ts : List Lexeme) : Prop :=
  ∀ x ∈ ts, x.token = .newline ∨ x.token = .comma

theorem Newlines.separators {ts : List Lexeme} (h : Newlines ts) : Separators ts :=
  fun x hx => .inl (h x hx)

theorem Separators.append {ss ts : List Lexeme} (hs : Separators ss) (ht : Separators ts) :
    Separators (ss ++ ts) := by
  intro x hx
  exact (List.mem_append.1 hx).elim (hs x) (ht x)

/-- An entry starts here: a key in the given column, directly followed by a colon. -/
inductive StartsEntry : Nat → List Lexeme → Prop where
  | intro {x colon : Lexeme} {name : String} {rest : List Lexeme}
      (hkey : x.token.keyText? = some name) (hcolon : colon.token = .colon) :
      StartsEntry x.place.column (x :: colon :: rest)

/-- A later line starts with an entry in the given column. -/
def Continues (column : Nat) (ts : List Lexeme) : Prop :=
  ∃ breaks rest, breaks ≠ [] ∧ Newlines breaks ∧ ts = breaks ++ rest ∧ StartsEntry column rest

/-- The first token stands deeper than the given column. -/
def StartsDeeper (column : Nat) (ts : List Lexeme) : Prop :=
  ∃ x rest, ts = x :: rest ∧ column < x.place.column

/-- A token that denotes a value by itself. -/
inductive Scalar : Token → Document → Prop where
  | string (text : String) : Scalar (.string text) (.string text)
  | number {text : String} {v : Document} (h : numberValue? text.toList = some v) :
      Scalar (.number text) v
  | yes {word : String} (h : word ∈ ["true", "yes", "on"]) : Scalar (.word word) (.bool true)
  | no {word : String} (h : word ∈ ["false", "no", "off"]) : Scalar (.word word) (.bool false)
  | null {word : String} (h : word ∈ ["null", "undefined"]) : Scalar (.word word) .null

mutual

/-- An implied object where an entry starts, and a value everywhere else. -/
inductive Item : List Lexeme → List Lexeme → Document → Prop where
  | implied {column : Nat} {ts follow : List Lexeme} {fields : List (String × Document)}
      (hstart : StartsEntry column (ts ++ follow)) (hfields : Implied column ts follow fields) :
      Item ts follow (.ofFields fields)
  | value {ts follow : List Lexeme} {v : Document}
      (hstart : ∀ column, ¬StartsEntry column (ts ++ follow)) (hvalue : Value ts follow v) :
      Item ts follow v

/-- A scalar, an object in braces, or an array in brackets. -/
inductive Value : List Lexeme → List Lexeme → Document → Prop where
  | scalar {x : Lexeme} {follow : List Lexeme} {v : Document} (h : Scalar x.token v) :
      Value [x] follow v
  | object {open' close : Lexeme} {ts follow : List Lexeme} {fields : List (String × Document)}
      (hopen : open'.token = .openBrace) (hfields : Fields ts (close :: follow) fields)
      (hclose : close.token = .closeBrace) :
      Value (open' :: (ts ++ [close])) follow (.ofFields fields)
  | array {open' close : Lexeme} {ts follow : List Lexeme} {items : List Document}
      (hopen : open'.token = .openBracket) (hitems : Items ts (close :: follow) items)
      (hclose : close.token = .closeBracket) :
      Value (open' :: (ts ++ [close])) follow (.array items)

/-- A key in the given column, a colon, line ends or none, and an item. Behind a line end the item
    stands deeper than the key. -/
inductive Entry : Nat → List Lexeme → List Lexeme → String × Document → Prop where
  | intro {x colon : Lexeme} {name : String} {breaks ts follow : List Lexeme} {v : Document}
      (hkey : x.token.keyText? = some name) (hcolon : colon.token = .colon)
      (hbreaks : Newlines breaks) (hdeeper : breaks ≠ [] → StartsDeeper x.place.column ts)
      (hitem : Item ts follow v) :
      Entry x.place.column (x :: colon :: (breaks ++ ts)) follow (name, v)

/-- One or more entries in the same column with line ends between them. The last one is not
    followed by a line that starts with another entry in that column. -/
inductive Implied : Nat → List Lexeme → List Lexeme → List (String × Document) → Prop where
  | last {column : Nat} {ts follow : List Lexeme} {e : String × Document}
      (hentry : Entry column ts follow e) (hend : ¬Continues column follow) :
      Implied column ts follow [e]
  | more {column : Nat} {first breaks later follow : List Lexeme} {e : String × Document}
      {others : List (String × Document)}
      (hentry : Entry column first (breaks ++ later ++ follow) e)
      (hsome : breaks ≠ []) (hbreaks : Newlines breaks)
      (hothers : Implied column later follow others) :
      Implied column (first ++ breaks ++ later) follow (e :: others)

/-- Entries with any number of line ends and commas before, between and after them. -/
inductive Fields : List Lexeme → List Lexeme → List (String × Document) → Prop where
  | nil {separators follow : List Lexeme} (hseparators : Separators separators) :
      Fields separators follow []
  | cons {column : Nat} {separators first later follow : List Lexeme} {e : String × Document}
      {others : List (String × Document)} (hseparators : Separators separators)
      (hentry : Entry column first (later ++ follow) e) (hothers : Fields later follow others) :
      Fields (separators ++ first ++ later) follow (e :: others)

/-- Items with any number of line ends and commas before, between and after them. -/
inductive Items : List Lexeme → List Lexeme → List Document → Prop where
  | nil {separators follow : List Lexeme} (hseparators : Separators separators) :
      Items separators follow []
  | cons {separators first later follow : List Lexeme} {v : Document} {others : List Document}
      (hseparators : Separators separators) (hitem : Item first (later ++ follow) v)
      (hothers : Items later follow others) :
      Items (separators ++ first ++ later) follow (v :: others)

end

/-- A whole document: an item with nothing but line ends before and after it. -/
inductive Derives : List Lexeme → Document → Prop where
  | intro {before ts after : List Lexeme} {v : Document} (hbefore : Newlines before)
      (hitem : Item ts after v) (hafter : Newlines after) :
      Derives (before ++ ts ++ after) v

end RuleGraph.Cson
