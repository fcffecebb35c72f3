import RuleGraph.Format
import RuleGraph.Grammar.Shape

namespace RuleGraph

/-- What came of reading an input in one format. -/
inductive Verdict where
  /-- The input is an object. -/
  | recognized
  /-- The input is a document, but no object. -/
  | notMapping
  /-- The input is no document of the format. -/
  | rejected (refusal : Refusal)
  deriving Repr, DecidableEq

/-- One format and what came of it. -/
structure Attempt where
  format : Format
  verdict : Verdict
  deriving Repr, DecidableEq

/-- Why an input is no grammar. -/
inductive DecodeError where
  /-- No format finds an object in the input. -/
  | unrecognized
  /-- The object that was found is no grammar. -/
  | malformed (format : Format) (reason : String)
  deriving Repr, DecidableEq

/-- The text of the error. -/
def DecodeError.message : DecodeError → String
  | .unrecognized => "Could not recognize file format"
  | .malformed format reason =>
    "Malformed grammar in " ++ format.name ++ " document: " ++ reason

/-- The fields of the first object that one of the formats finds, with that format, and what came
    of each format up to it. -/
def recognize (input : ByteArray) :
    List Format → List Attempt × Option (Format × List (String × Document))
  | [] => ([], none)
  | format :: formats =>
    match format.read input with
    | .ok (.object fields) => ([⟨format, .recognized⟩], some (format, fields))
    | .ok _ =>
      let (attempts, found) := recognize input formats
      (⟨format, .notMapping⟩ :: attempts, found)
    | .error refusal =>
      let (attempts, found) := recognize input formats
      (⟨format, .rejected refusal⟩ :: attempts, found)

/-- The formats that are tried on an input, and what comes of them. -/
def attempts (input : ByteArray) : List Attempt :=
  (recognize input Format.all).1

/-- The grammar in the bytes of a file. The formats are tried in order, and the first one that finds
    an object in the input settles what the grammar is: if that object is no grammar, no further
    format is tried. -/
def decode (input : ByteArray) : Except DecodeError Grammar :=
  match (recognize input Format.all).2 with
  | none => .error .unrecognized
  | some (format, fields) =>
    (shapeGrammar fields).mapError fun e => .malformed format e.message

end RuleGraph
