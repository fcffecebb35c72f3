import RuleGraph.Options
import RuleGraph.Toml.Parser

namespace RuleGraph.Config

/-- The kinds of values that fields of a configuration have. -/
inductive Kind where
  /-- The options of a graph. -/
  | graph
  | sequence
  | string
  | boolean
  deriving Repr, DecidableEq

/-- How messages name a kind. -/
def Kind.describe : Kind → String
  | graph => "struct GraphConfig"
  | sequence => "a sequence"
  | string => "a string"
  | boolean => "a boolean"

/-- Why a table is no configuration. -/
inductive Issue where
  /-- A value has another kind than its field asks for. -/
  | wrongKind (found : Toml.Value) (wanted : Kind)
  /-- A field is there that is none of the known ones. -/
  | unknownField (name : String) (known : List String)
  deriving Repr

/-- A name as messages show it. -/
def mark (name : String) : String :=
  "`" ++ name ++ "`"

/-- How messages name a choice between several names. -/
def describeChoice : List String → String
  | [name] => mark name
  | names => "one of " ++ ", ".intercalate (names.map mark)

/-- The text of what is wrong. -/
def Issue.message : Issue → String
  | wrongKind found wanted =>
    "invalid type: " ++ found.describe ++ ", expected " ++ wanted.describe
  | unknownField name known =>
    "unknown field " ++ mark name ++ ", expected " ++ describeChoice known

/-- The names of the options of a graph. The options may also be written as a list, with values in
    this order. -/
def optionNames : List String :=
  ["exclude", "enable-regex", "label-arrows", "uncomment-regex"]

/-- The fields of a configuration. -/
def sectionNames : List String :=
  ["graph"]

/-- The name of the one field that a date consists of where a table is wanted. -/
def dateField : String :=
  "$__toml_private_datetime"

/-- A text. -/
def readString : Toml.Value → Except Issue String
  | .string text => .ok text
  | found => .error (.wrongKind found .string)

/-- A list of texts. -/
def readStrings : Toml.Value → Except Issue (List String)
  | .array items => items.mapM readString
  | found => .error (.wrongKind found .sequence)

/-- A truth value. -/
def readBool : Toml.Value → Except Issue Bool
  | .bool value => .ok value
  | found => .error (.wrongKind found .boolean)

/-- Reads one option into the others. -/
def readOption (options : Options) (field : String × Toml.Value) : Except Issue Options :=
  let (name, value) := field
  if name = "exclude" then (readStrings value).map options.excluding
  else if name = "enable-regex" then (readBool value).map fun b => { options with regex := b }
  else if name = "label-arrows" then (readBool value).map fun b => { options with labels := b }
  else if name = "uncomment-regex" then
    (readBool value).map fun b => { options with uncomment := b }
  else .error (.unknownField name optionNames)

/-- The options of a graph. The fields are read in the order of their names, and the message is
    about the first one that is wrong. In a list of options, what comes after the last one is
    skipped. -/
def readOptions : Toml.Value → Except Issue Options
  | .table fields => fields.foldlM readOption {}
  | .array items => (optionNames.zip items).foldlM readOption {}
  | .date _ => .error (.unknownField dateField optionNames)
  | found => .error (.wrongKind found .graph)

/-- The options in the fields of a configuration. There is one field at most that may be there. -/
def read : List (String × Toml.Value) → Except Issue Options
  | [] => .ok {}
  | (name, value) :: fields =>
    if name = "graph" then
      match readOptions value, fields with
      | .ok options, [] => .ok options
      | .ok _, (other, _) :: _ => .error (.unknownField other sectionNames)
      | .error issue, _ => .error issue
    else .error (.unknownField name sectionNames)

/-- Why a text is no configuration. -/
inductive Error where
  /-- The text does not follow the rules of the format. -/
  | unreadable
  /-- The table in the text is no configuration. -/
  | issue (issue : Issue)
  deriving Repr

/-- The text of the error. -/
def Error.message : Error → String
  | .unreadable => "the text does not follow the rules of TOML"
  | .issue i => i.message

/-- The options in the text of a configuration file, under the name `graph` and spelled like the
    flags of the command line. Every field may be left out, and no others may be there. A number
    without a value does no harm where it is not looked at; if the options cannot be read, it is
    what makes the text unreadable. -/
def parse (text : String) : Except Error Options :=
  match Toml.parse? text with
  | none => .error .unreadable
  | some fields =>
    match read fields with
    | .ok options => .ok options
    | .error issue =>
      .error (if Toml.fieldsReadable fields then .issue issue else .unreadable)

end RuleGraph.Config
