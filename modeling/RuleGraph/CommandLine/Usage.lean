import RuleGraph.CommandLine.Arguments

namespace RuleGraph.CommandLine

/-- The name of the program. -/
def programName : String := "graph-tmgrammar"

/-- The version of the program. -/
def programVersion : String := "0.1.0"

/-- The answer to a question for the version. -/
def versionText : String :=
  programName ++ " " ++ programVersion ++ "\n"

/-- The lines of the answer to a question for help. -/
def helpLines : List String :=
  ["Command-line interface that graphs TextMate grammar interdependencies",
    "",
    "Usage: " ++ programName ++ " [OPTIONS] <SOURCE>",
    "",
    "Arguments:",
    "  <SOURCE>  The source path or URL for the TextMate grammar",
    "",
    "Options:",
    "  -e, --exclude <NAMES>...     A list of node names to exclude from the output",
    "  -r, --enable-regex           Include `match` and `begin`/`end` regexes as graph nodes",
    "  -l, --label-arrows           Label edges with the kind of reference they represent",
    "  -u, --uncomment-regex        Strip free-spacing `#` comments from regex nodes",
    "  -o, --output <OUTPUT>        Write the graph to this file instead of standard output",
    "  -c, --config <CONFIG>        Path to configuration file (TOML)",
    "      --log-level <LOG_LEVEL>  Log level (off, error, warn, info, debug, trace) " ++
      "[default: warn]",
    "  -h, --help                   Print help",
    "  -V, --version                Print version"]

/-- The answer to a question for help. -/
def helpText : String :=
  String.join (helpLines.map (· ++ "\n"))

/-- The text that the user asked for, if it was asked for. -/
def UsageProblem.answer? : UsageProblem → Option String
  | .help => some helpText
  | .version => some versionText
  | _ => none

/-- What is wrong with the arguments. -/
def UsageProblem.message : UsageProblem → String
  | .missingSource => "the source is missing"
  | .unknownArgument => "there is an unknown argument"
  | .missingValue => "an option has no value"
  | .givenTwice => "an option is given twice"
  | .valueOfFlag => "a flag has a value"
  | .help | .version => ""

end RuleGraph.CommandLine
