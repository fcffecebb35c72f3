import RuleGraph.Cson.Token

namespace RuleGraph.Cson

/-- What would have been right at the place of an error. -/
inductive Wanted where
  | key
  | colon
  | value
  /-- A value on a later line, which stands deeper than its key. -/
  | indentedValue
  /-- A number whose text denotes one. -/
  | number
  deriving Repr, DecidableEq

/-- The first half of the message of an unmet want. -/
def Wanted.describe : Wanted → String
  | .key => "expected key"
  | .colon => "expected " ++ Token.colon.describe
  | .value => "expected value"
  | .indentedValue => "expected indented value"
  | .number => "invalid number"

/-- What is wrong. -/
inductive Cause where
  /-- A quote opens a text that never ends. -/
  | unterminatedString
  /-- No token starts here. -/
  | unexpectedCharacter
  /-- Something other was wanted than the token that was found, or than the end. -/
  | unmet (wanted : Wanted) (found : Option Token)
  /-- A token follows the document. -/
  | afterDocument (found : Token)
  deriving Repr, DecidableEq

/-- An error: what is wrong, and the bytes before it. -/
structure Error where
  /-- What is wrong. -/
  cause : Cause
  /-- The bytes before the place of the error. -/
  offset : Nat
  deriving Repr, DecidableEq

/-- How messages name what was found, or the end of the input. -/
def describeFound : Option Token → String
  | some token => token.describe
  | none => "end of input"

/-- The text of what is wrong. -/
def Cause.message : Cause → String
  | .unterminatedString => "unterminated string"
  | .unexpectedCharacter => "unexpected character"
  | .unmet wanted found => wanted.describe ++ ", found " ++ describeFound found
  | .afterDocument found => "unexpected " ++ found.describe ++ " after document"

/-- The text of the error without its place. -/
def Error.message (error : Error) : String :=
  error.cause.message

/-- The text of the error with its place. -/
def Error.display (error : Error) : String :=
  error.message ++ " at byte " ++ toString error.offset

end RuleGraph.Cson
