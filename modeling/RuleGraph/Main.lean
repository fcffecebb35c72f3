import RuleGraph.CommandLine.Program

namespace RuleGraph.CommandLine

/-- The text of an error of the operating system. -/
def reasonOf : IO.Error → String
  | .noFileOrDirectory _ code details
  | .inappropriateType (some _) code details
  | .permissionDenied (some _) code details =>
    details ++ " (os error " ++ toString code ++ ")"
  | e => toString e

/-- The result of an action, or the reason why there is none. -/
def attempt {α : Type} (action : IO α) : IO (Except String α) :=
  try return .ok (← action) catch e => return .error (reasonOf e)

/-- Whether a path leads to anything, even if it cannot be read. -/
def leadsSomewhere (path : String) : IO Bool :=
  try
    let _ ← IO.FS.readBinFile path
    return true
  catch
    | .noFileOrDirectory _ _ _ => return false
    | .inappropriateType _ code _ => return code ≠ 20
    | _ => return true

/-- The configuration file for all directories, by the environment. -/
def sharedConfigOf (configHome home : Option String) : Option String :=
  match configHome, home with
  | some directory, some home =>
    if directory.startsWith "/" then some (directory ++ "/" ++ localConfig)
    else some (home ++ "/.config/" ++ localConfig)
  | some directory, none =>
    if directory.startsWith "/" then some (directory ++ "/" ++ localConfig) else none
  | none, some home => some (home ++ "/.config/" ++ localConfig)
  | none, none => none

/-- The machine that the program runs on, without its network. -/
def realMachine (sharedConfig? : Option String) : Machine IO where
  hasPath := leadsSomewhere
  readFile path := attempt (IO.FS.readBinFile path)
  writeFile path text := attempt (IO.FS.writeFile path text)
  print text := do
    let output ← IO.getStdout
    output.putStr text
    output.flush
  fetch _ := return .error "grammars on other machines are out of reach"
  sharedConfig? := sharedConfig?

end RuleGraph.CommandLine

open RuleGraph.CommandLine in
/-- Runs the program on a real machine and gives back its number. Everything the program decides is
    decided in `CommandLine.program`; only the files, the output and the environment are real here.
    -/
def main (arguments : List String) : IO UInt32 := do
  let shared := sharedConfigOf (← IO.getEnv "XDG_CONFIG_HOME") (← IO.getEnv "HOME")
  let ending ← program (realMachine shared) arguments
  IO.eprint ending.said
  return UInt32.ofNat ending.code
