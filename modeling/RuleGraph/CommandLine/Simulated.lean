import RuleGraph.CommandLine.Run
import RuleGraph.FileSystem

namespace RuleGraph.CommandLine

/-- What a run can see and change. -/
structure World extends FileSystem where
  /-- What has been printed. -/
  printed : String := ""

/-- The configuration file for all directories. -/
def sharedConfig : String := "xdg/tmgraph/config.toml"

/-- A machine without a network, whose files are those of a world. -/
def simulated : Machine (StateM World) where
  hasPath path := return (← get).hasPath path
  readFile path := return ((← get).read path).mapError FileError.message
  writeFile path text := do
    let world ← get
    match world.write path text.toUTF8 with
    | .ok system =>
      set { world with toFileSystem := system }
      return .ok ()
    | .error e => return .error e.message
  print text := modify fun world => { world with printed := world.printed ++ text }
  fetch _ := return .error "there is no network"
  sharedConfig? := some sharedConfig

/-- A world whose working directory has the given files in it, with no other files around. -/
def World.around (tree : FileTree) : World where
  tree := .directory [("tmp", .directory [("work", tree)])]
  workingDirectory := ["tmp", "work"]

/-- What a run leaves behind. -/
structure Remains where
  /-- The working directory. -/
  tree : FileTree
  /-- What has been printed. -/
  printed : String

/-- What is left of a world. -/
def World.remains (world : World) : Remains where
  tree := (world.tree.descend? world.workingDirectory).getD (.directory [])
  printed := world.printed

/-- A run in a working directory with the given files: what came of it, and what is left. -/
def run (tree : FileTree) (arguments : Arguments) : Except Failure Unit × Remains :=
  let (result, world) := (runOn simulated arguments).run.run (.around tree)
  (result, world.remains)

end RuleGraph.CommandLine
