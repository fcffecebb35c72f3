import RuleGraph.CommandLine.Arguments
import RuleGraph.CommandLine.Failure
import RuleGraph.CommandLine.Location
import RuleGraph.Config
import RuleGraph.Graph.Build
import RuleGraph.Graph.Dot

namespace RuleGraph.CommandLine

/-- What a run needs from the machine that it runs on. Reasons are texts for people. -/
structure Machine (m : Type → Type) where
  /-- Whether a path leads to anything. -/
  hasPath : String → m Bool
  /-- The content of a file. -/
  readFile : String → m (Except String ByteArray)
  /-- Writes a file, over an old one with the same name. -/
  writeFile : String → String → m (Except String Unit)
  /-- Prints a text. -/
  print : String → m Unit
  /-- The content of a web page. -/
  fetch : String → m (Except String ByteArray)
  /-- The path of the configuration file for all directories, if there can be one. -/
  sharedConfig? : Option String

/-- The configuration file of a directory. -/
def localConfig : String := "tmgraph/config.toml"

section

variable {m : Type → Type} [Monad m]

/-- Goes on with a result, or fails with its reason. -/
def orFail {α : Type} (failure : String → Failure) (result : m (Except String α)) :
    ExceptT Failure m α := do
  match ← result with
  | .ok value => return value
  | .error reason => throw (failure reason)

/-- The configuration file that counts: the one that was asked for, even if it is missing; else the
    one of the directory, if it is there; else the one for all directories, if it is there. -/
def configPath? (machine : Machine m) (asked : Option String) : m (Option String) :=
  match asked with
  | some path => return some path
  | none => do
    if ← machine.hasPath localConfig then return some localConfig
    match machine.sharedConfig? with
    | none => return none
    | some path => if ← machine.hasPath path then return some path else return none

/-- The options in a configuration file. -/
def readConfig (machine : Machine m) (path : String) : ExceptT Failure m Options := do
  if !(← machine.hasPath path) then throw (.config (.missing path))
  let content ← orFail .io (machine.readFile path)
  match String.fromUTF8? content with
  | none => throw (.io "stream did not contain valid UTF-8")
  | some text =>
    match Config.parse text with
    | .ok options => return options
    | .error e => throw (.config (.unreadable e.message))

/-- The options of the configuration file that counts, if there is one. -/
def loadConfig (machine : Machine m) (asked : Option String) : ExceptT Failure m Options := do
  match ← (configPath? machine asked : m (Option String)) with
  | some path => readConfig machine path
  | none => return {}

/-- Options together with those of the command line, which can only add to them. -/
def resolveOptions (options : Options) (arguments : Arguments) : Options where
  exclude := options.exclude.insertAll arguments.exclude
  regex := options.regex || arguments.regex
  labels := options.labels || arguments.labels
  uncomment := options.uncomment || arguments.uncomment

/-- The bytes of the grammar at a location. -/
def loadSource (machine : Machine m) (location : String) : ExceptT Failure m ByteArray :=
  orFail (.source location)
    (if isRemote location then machine.fetch location else machine.readFile location)

/-- The text of the graph of a grammar. -/
def graphText (options : Options) (input : ByteArray) : Except DecodeError String :=
  (decode input).map fun grammar => Dot.render (build options grammar)

/-- Puts the text of a graph where it belongs. -/
def deliver (machine : Machine m) (output : Option String) (text : String) :
    ExceptT Failure m Unit :=
  match output with
  | some path => orFail .io (machine.writeFile path text)
  | none => machine.print text

/-- One run: configuration, grammar, graph. Everything that can fail comes before anything is
    printed or written, and one thing is printed or written at the end. -/
def runOn (machine : Machine m) (arguments : Arguments) : ExceptT Failure m Unit := do
  let config ← loadConfig machine arguments.config
  let input ← loadSource machine arguments.source
  match graphText (resolveOptions config arguments) input with
  | .ok text => deliver machine arguments.output text
  | .error e => throw (.decode e)

end

end RuleGraph.CommandLine
