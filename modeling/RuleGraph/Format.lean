import RuleGraph.Cson.Parser
import RuleGraph.Json.Parser
import RuleGraph.PropertyList.Document
import RuleGraph.Yaml.Document

namespace RuleGraph

/-- A format in which grammars are written. All of them give the same kind of document. -/
inductive Format where
  | yaml
  | cson
  | json
  | propertyList
  deriving Repr, DecidableEq

/-- Why a format refuses an input. -/
inductive Refusal where
  /-- The format is one for texts, and the bytes are no UTF-8 text. -/
  | notText
  /-- The text is no CSON. -/
  | cson (error : Cson.Error)
  /-- The input does not follow the rules of the format. -/
  | unreadable
  deriving Repr, DecidableEq

namespace Format

/-- All formats, in the order in which they are tried. -/
def all : List Format :=
  [yaml, cson, json, propertyList]

/-- The name of the format. -/
def name : Format → String
  | yaml => "YAML"
  | cson => "CSON"
  | json => "JSON"
  | propertyList => "property list"

/-- What a reader makes of an input that it may refuse without saying why. -/
def orUnreadable (document : Option Document) : Except Refusal Document :=
  document.elim (.error .unreadable) .ok

/-- Reads an input that has to be a text. -/
def readText (input : ByteArray) (reader : String → Except Refusal Document) :
    Except Refusal Document :=
  (String.fromUTF8? input).elim (.error .notText) reader

/-- The document in an input. Only property lists may be something other than text. -/
def read (format : Format) (input : ByteArray) : Except Refusal Document :=
  match format with
  | yaml => readText input fun text => orUnreadable (Yaml.parse? text)
  | cson => readText input fun text => (Cson.parse text).mapError .cson
  | json => readText input fun text => orUnreadable (Json.parse? text)
  | propertyList => orUnreadable (PropertyList.parse? input)

end Format

end RuleGraph
