import RuleGraph.CommandLine.Report
import RuleGraph.CommandLine.Run
import RuleGraph.CommandLine.Usage

namespace RuleGraph.CommandLine

/-- How much is logged. -/
inductive LogLevel where
  | off
  | error
  | warn
  | info
  | debug
  | trace
  deriving Repr, DecidableEq

/-- The level of a name, in any case. -/
def LogLevel.ofName? (name : String) : Option LogLevel :=
  match String.ofList (name.toList.map Char.toLower) with
  | "off" => some .off
  | "error" => some .error
  | "warn" => some .warn
  | "info" => some .info
  | "debug" => some .debug
  | "trace" => some .trace
  | _ => none

/-- The level of a run, and what is said about its name if there is no such level. -/
def logLevel (name : String) : LogLevel × String :=
  match LogLevel.ofName? name with
  | some level => (level, "")
  | none => (.warn, "Invalid log level: " ++ name ++ ". Using 'warn' instead.\n")

/-- The name under which the program logs. -/
def logName : String := "graph_tmgrammar"

/-- An entry of the log. All lines but the first are indented. -/
def logEntry (level text : String) : String :=
  "[" ++ level ++ " " ++ logName ++ "] " ++ "\n    ".intercalate (text.splitOn "\n") ++ "\n"

/-- What is said about a failure, also where nothing is logged. -/
def failureText (level : LogLevel) (failure : Failure) : String :=
  match level with
  | .off => report failure ++ "\n"
  | _ => logEntry "ERROR" (report failure)

/-- How the program ends. -/
structure Ending where
  /-- The number it gives back: 0 for success, 1 for a failure, 2 for wrong arguments. -/
  code : Nat
  /-- What it says besides its result. -/
  said : String

/-- What the program does with its arguments: one run, or what the arguments ask to be told, and
    what is said about a failure. -/
def program {m : Type → Type} [Monad m] (machine : Machine m) (arguments : List String) :
    m Ending := do
  match parseArguments arguments with
  | .error problem =>
    match problem.answer? with
    | some text =>
      machine.print text
      return ⟨0, ""⟩
    | none => return ⟨2, "error: " ++ problem.message ++ "\n"⟩
  | .ok arguments =>
    let (level, said) := logLevel arguments.logLevel
    match ← (runOn machine arguments).run with
    | .ok () => return ⟨0, said⟩
    | .error failure => return ⟨1, said ++ failureText level failure⟩

end RuleGraph.CommandLine
