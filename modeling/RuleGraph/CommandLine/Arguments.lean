namespace RuleGraph.CommandLine

/-- The arguments of a run. -/
structure Arguments where
  /-- Where the grammar is. -/
  source : String
  /-- Names to leave out of the graph. -/
  exclude : List String := []
  /-- Whether regular expressions become nodes. -/
  regex : Bool := false
  /-- Whether edges carry the relation they stand for. -/
  labels : Bool := false
  /-- Whether comments are taken out of the names of regular expressions. -/
  uncomment : Bool := false
  /-- The file that the graph is written to. -/
  output : Option String := none
  /-- The configuration file. -/
  config : Option String := none
  /-- How much is logged. -/
  logLevel : String := "warn"
  deriving Repr, DecidableEq

/-- Why arguments give no run. -/
inductive UsageProblem where
  /-- There is no source. -/
  | missingSource
  /-- An option is unknown, or there is a second source. -/
  | unknownArgument
  /-- An option has no value. -/
  | missingValue
  /-- An option that may be given once is given twice. -/
  | givenTwice
  /-- A flag has a value. -/
  | valueOfFlag
  /-- The user asked for help. -/
  | help
  /-- The user asked for the version. -/
  | version
  deriving Repr, DecidableEq

/-- A flag. -/
inductive Switch where
  | regex
  | labels
  | uncomment
  deriving Repr, DecidableEq

/-- An option with a value. -/
inductive Valued where
  | exclude
  | output
  | config
  | logLevel
  deriving Repr, DecidableEq

/-- What an option is. -/
inductive OptionKind where
  | switch (switch : Switch)
  | valued (valued : Valued)
  | help
  | version
  deriving Repr, DecidableEq

/-- The option behind one hyphen. -/
def optionOfLetter? : Char → Option OptionKind
  | 'e' => some (.valued .exclude)
  | 'r' => some (.switch .regex)
  | 'l' => some (.switch .labels)
  | 'u' => some (.switch .uncomment)
  | 'o' => some (.valued .output)
  | 'c' => some (.valued .config)
  | 'h' => some .help
  | 'V' => some .version
  | _ => none

/-- The option behind two hyphens. Names are never shortened. -/
def optionOfName? : String → Option OptionKind
  | "exclude" => some (.valued .exclude)
  | "enable-regex" => some (.switch .regex)
  | "label-arrows" => some (.switch .labels)
  | "uncomment-regex" => some (.switch .uncomment)
  | "output" => some (.valued .output)
  | "config" => some (.valued .config)
  | "log-level" => some (.valued .logLevel)
  | "help" => some .help
  | "version" => some .version
  | _ => none

/-- What is known of the arguments while they are read. -/
structure Reading where
  source : Option String := none
  exclude : List String := []
  regex : Bool := false
  labels : Bool := false
  uncomment : Bool := false
  output : Option String := none
  config : Option String := none
  logLevel : Option String := none
  /-- The option that was read last, if it takes values, and the values read for it. -/
  pending : Option (Valued × List String) := none

/-- What comes of reading arguments. -/
abbrev Usage := Except UsageProblem

namespace Reading

/-- Sets a value that may be given once. -/
def once {α : Type} (old : Option α) (value : α) : Usage (Option α) :=
  match old with
  | none => .ok (some value)
  | some _ => .error .givenTwice

/-- Sets the values of an option. -/
def store (reading : Reading) (valued : Valued) (values : List String) : Usage Reading :=
  match valued, values with
  | _, [] => .error .missingValue
  | .exclude, values => .ok { reading with exclude := reading.exclude ++ values }
  | .output, value :: _ => (once reading.output value).map fun v => { reading with output := v }
  | .config, value :: _ => (once reading.config value).map fun v => { reading with config := v }
  | .logLevel, value :: _ =>
    (once reading.logLevel value).map fun v => { reading with logLevel := v }

/-- Sets the values of the option that was read last. -/
def settle (reading : Reading) : Usage Reading :=
  match reading.pending with
  | none => .ok reading
  | some (valued, values) => { reading with pending := none }.store valued values

/-- Sets a flag. -/
def turnOn (reading : Reading) : Switch → Usage Reading
  | .regex => if reading.regex then .error .givenTwice else .ok { reading with regex := true }
  | .labels => if reading.labels then .error .givenTwice else .ok { reading with labels := true }
  | .uncomment =>
    if reading.uncomment then .error .givenTwice else .ok { reading with uncomment := true }

/-- Reads an option with what is attached to it, if anything is. -/
def option (reading : Reading) (kind : OptionKind) (attached : Option String) : Usage Reading :=
  match kind, attached with
  | .valued valued, some value => reading.settle.bind fun reading => reading.store valued [value]
  | .valued valued, none =>
    reading.settle.map fun reading => { reading with pending := some (valued, []) }
  | .switch switch, none => reading.settle.bind fun reading => reading.turnOn switch
  | .help, none => reading.settle.bind fun _ => .error .help
  | .version, none => reading.settle.bind fun _ => .error .version
  | _, some _ => .error .valueOfFlag

/-- Reads options behind one hyphen. What follows an option with a value is its value, with or
    without an equals sign in between. -/
def letters (reading : Reading) : List Char → Usage Reading
  | [] => .ok reading
  | c :: s =>
    match optionOfLetter? c, s with
    | none, _ => .error .unknownArgument
    | some (.valued valued), [] => reading.option (.valued valued) none
    | some (.valued valued), '=' :: value =>
      reading.option (.valued valued) (some (String.ofList value))
    | some (.valued valued), value =>
      reading.option (.valued valued) (some (String.ofList value))
    | some kind, s => (reading.option kind none).bind fun reading => reading.letters s

/-- Reads an option behind two hyphens. An equals sign comes before its value. -/
def name (reading : Reading) (s : List Char) : Usage Reading :=
  match optionOfName? (String.ofList (s.takeWhile (· ≠ '='))) with
  | none => .error .unknownArgument
  | some kind =>
    match s.dropWhile (· ≠ '=') with
    | [] => reading.option kind none
    | _ :: value => reading.option kind (some (String.ofList value))

/-- Reads an argument that is neither an option nor the value of one. -/
def positional (reading : Reading) (argument : String) : Usage Reading :=
  match reading.source with
  | some _ => .error .unknownArgument
  | none => reading.settle.map fun reading => { reading with source := some argument }

/-- Reads an argument that is no option: a value of the option before it, if that takes one. -/
def plain (reading : Reading) (argument : String) : Usage Reading :=
  match reading.pending with
  | some (.exclude, values) =>
    .ok { reading with pending := some (.exclude, values ++ [argument]) }
  | some (valued, []) => .ok { reading with pending := some (valued, [argument]) }
  | _ => reading.positional argument

/-- Reads one argument. A hyphen alone is no option. -/
def argument (reading : Reading) (argument : String) : Usage Reading :=
  match argument.toList with
  | '-' :: '-' :: s => reading.name s
  | '-' :: c :: s => reading.letters (c :: s)
  | _ => reading.plain argument

/-- Reads all arguments. Behind two hyphens alone there are no options. -/
def arguments (reading : Reading) : List String → Usage Reading
  | [] => .ok reading
  | "--" :: arguments => arguments.foldlM positional reading
  | argument :: arguments =>
    (reading.argument argument).bind fun reading => reading.arguments arguments

/-- The arguments of a run, once all are read. -/
def finish (reading : Reading) : Usage Arguments :=
  reading.settle.bind fun reading =>
    match reading.source with
    | none => .error .missingSource
    | some source =>
      .ok
        { source, exclude := reading.exclude, regex := reading.regex, labels := reading.labels,
          uncomment := reading.uncomment, output := reading.output, config := reading.config,
          logLevel := reading.logLevel.getD "warn" }

end Reading

/-- Reads the arguments of the command line. A flag or a single value may be given once, and
    excluded names many times and many at once. The first problem from the left is the one that
    counts, with one exception: a value is only looked at when the next option or the source comes,
    or the end. -/
def parseArguments (arguments : List String) : Usage Arguments :=
  (({} : Reading).arguments arguments).bind Reading.finish

end RuleGraph.CommandLine
