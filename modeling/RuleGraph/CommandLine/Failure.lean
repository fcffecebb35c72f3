import RuleGraph.Decode

namespace RuleGraph.CommandLine

/-- What is wrong with a configuration file. -/
inductive ConfigFailure where
  /-- The file is no configuration. -/
  | unreadable (reason : String)
  /-- The file that was asked for is not there. -/
  | missing (path : String)
  deriving Repr, DecidableEq

/-- The text of what is wrong. -/
def ConfigFailure.message : ConfigFailure → String
  | unreadable reason => "Failed to parse TOML configuration: " ++ reason
  | missing path => "Missing configuration file: " ++ path

/-- Why a run ends without a graph. Nothing is printed or written then. -/
inductive Failure where
  /-- A file cannot be read or written. -/
  | io (reason : String)
  /-- The grammar cannot be got at. -/
  | source (location reason : String)
  /-- What was read is no grammar. -/
  | decode (error : DecodeError)
  /-- The configuration is missing or wrong. -/
  | config (failure : ConfigFailure)
  deriving Repr, DecidableEq

namespace Failure

/-- The text of the failure. -/
def message : Failure → String
  | io reason => "I/O error: " ++ reason
  | source location reason =>
    "Could not load source from path or url " ++ location ++ ": " ++ reason
  | decode error => error.message
  | config failure => "Configuration error: " ++ failure.message

/-- The text of what lies behind the failure, where that is told apart. -/
def cause? : Failure → Option String
  | io reason => some reason
  | config failure => some failure.message
  | source _ _ | decode _ => none

/-- The name of the kind of failure. -/
def code : Failure → String
  | io _ => "tmgraph::io"
  | source _ _ => "tmgraph::source"
  | decode .unrecognized => "tmgraph::format"
  | decode (.malformed _ _) => "tmgraph::grammar"
  | config _ => "tmgraph::config"

/-- What the user can do. -/
def help? : Failure → Option String
  | decode .unrecognized => some "grammars must be YAML, CSON, JSON, or property list documents"
  | decode (.malformed _ _) => some "a grammar needs a top-level `patterns` list"
  | io _ | source _ _ | config _ => none

end Failure

end RuleGraph.CommandLine
