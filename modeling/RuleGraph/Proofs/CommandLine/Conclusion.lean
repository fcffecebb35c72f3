import RuleGraph.CommandLine.Simulated
import RuleGraph.Proofs.FileSystem

namespace RuleGraph.CommandLine

/-- A machine with the files of a world, with the given path of the configuration for all
    directories and with any network. -/
def machineWith (shared? : Option String)
    (fetch : String → StateM World (Except String ByteArray)) : Machine (StateM World) :=
  { simulated with sharedConfig? := shared?, fetch := fetch }

/-- What an action comes to in a world, and the world afterwards. -/
def runIn {α : Type} (world : World) (action : ExceptT Failure (StateM World) α) :
    Except Failure α × World :=
  action.run.run world

/-- The path of the configuration file that counts: the one that was asked for, whatever is there;
    else the one of the directory or the one for all directories, whichever is there first. -/
def chosenConfig? (shared? : Option String) (system : FileSystem) (asked : Option String) :
    Option String :=
  match asked with
  | some path => some path
  | none => if system.hasPath localConfig then some localConfig else shared?.filter system.hasPath

/-- The options in the configuration file at a path. -/
def configAt (system : FileSystem) (path : String) : Except Failure Options :=
  if system.hasPath path then
    match system.read path with
    | .error e => .error (.io e.message)
    | .ok content =>
      match String.fromUTF8? content with
      | none => .error (.io "stream did not contain valid UTF-8")
      | some text =>
        (Config.parse text).mapError fun e => .config (.unreadable e.message)
  else .error (.config (.missing path))

/-- The options of the configuration file that counts. -/
def configOf (shared? : Option String) (system : FileSystem) (asked : Option String) :
    Except Failure Options :=
  match chosenConfig? shared? system asked with
  | some path => configAt system path
  | none => .ok {}

/-- What a run changes. -/
inductive Effect where
  | nothing
  | prints (text : String)
  | writes (place : Place) (content : ByteArray)

/-- The world after an effect. -/
def Effect.on (world : World) : Effect → World
  | nothing => world
  | prints text => { world with printed := world.printed ++ text }
  | writes place content => { world with toFileSystem := world.set place content }

/-- What comes of the text of a graph, and what is changed. -/
def delivery (system : FileSystem) (output : Option String) (text : String) :
    Except Failure Unit × Effect :=
  match output with
  | none => (.ok (), .prints text)
  | some path =>
    match system.destination path with
    | .ok place => (.ok (), .writes place text.toUTF8)
    | .error e => (.error (.io e.message), .nothing)

/-- What comes of a run with the given options, and what is changed. Nothing is, unless the text of
    a graph is delivered. -/
def conclusion (config : Except Failure Options) (system : FileSystem) (arguments : Arguments) :
    Except Failure Unit × Effect :=
  match config with
  | .error failure => (.error failure, .nothing)
  | .ok options =>
    match system.read arguments.source with
    | .error e => (.error (.source arguments.source e.message), .nothing)
    | .ok input =>
      match graphText (resolveOptions options arguments) input with
      | .error e => (.error (.decode e), .nothing)
      | .ok text => delivery system arguments.output text

section

variable {α β : Type} {world after : World}

/-- A run goes on in the world that its first action leaves behind, unless that action fails. -/
theorem runIn_bind (world : World) (action : ExceptT Failure (StateM World) α)
    (next : α → ExceptT Failure (StateM World) β) :
    runIn world (action >>= next) =
      match runIn world action with
      | (.ok value, after) => runIn after (next value)
      | (.error failure, after) => (.error failure, after) := by
  simp only [runIn, ExceptT.run_bind, StateT.run_bind]
  rcases action.run.run world with ⟨_ | _, after⟩ <;> rfl

theorem runIn_bind_of_ok {action : ExceptT Failure (StateM World) α} {value : α}
    (h : runIn world action = (.ok value, after)) (next : α → ExceptT Failure (StateM World) β) :
    runIn world (action >>= next) = runIn after (next value) := by
  rw [runIn_bind, h]

/-- Wrapping the reason of a failure changes neither the outcome nor the world. -/
theorem runIn_orFail (world : World) (failure : String → Failure)
    (result : StateM World (Except String α)) :
    runIn world (orFail failure result) =
      ((result.run world).1.mapError failure, (result.run world).2) := by
  have hlift : runIn world (liftM result : ExceptT Failure (StateM World) _) =
      (.ok (result.run world).1, (result.run world).2) := rfl
  rw [orFail, runIn_bind, hlift]
  dsimp only
  cases (result.run world).1 <;> rfl

end

section

variable (shared? : Option String) (fetch : String → StateM World (Except String ByteArray))

/-- Looking for the configuration file changes nothing. -/
theorem run_configPath? (asked : Option String) (world : World) :
    (configPath? (machineWith shared? fetch) asked).run world =
      (chosenConfig? shared? world.toFileSystem asked, world) := by
  cases asked with
  | some path => rfl
  | none =>
    have hfound : ∀ {α : Type} (path : String) (next : Bool → StateM World α),
        ((machineWith shared? fetch).hasPath path >>= next).run world =
          (next (world.hasPath path)).run world := fun _ _ => rfl
    rw [configPath?, hfound, chosenConfig?]
    cases world.hasPath localConfig with
    | true => rfl
    | false =>
      cases shared? with
      | none => rfl
      | some path =>
        simp only [Bool.false_eq_true, if_false, Option.filter]
        refine (hfound path _).trans ?_
        cases world.hasPath path <;> rfl

/-- A configuration file is read without changing anything. -/
theorem runIn_readConfig (path : String) (world : World) :
    runIn world (readConfig (machineWith shared? fetch) path) =
      (configAt world.toFileSystem path, world) := by
  have hfound : runIn world (liftM ((machineWith shared? fetch).hasPath path)) =
      (.ok (world.hasPath path), world) := rfl
  have hread : ((machineWith shared? fetch).readFile path).run world =
      ((world.read path).mapError FileError.message, world) := rfl
  rw [readConfig, runIn_bind_of_ok hfound, configAt]
  cases world.hasPath path with
  | false => rfl
  | true =>
    simp only [Bool.not_true, Bool.false_eq_true, if_false, if_true]
    rw [runIn_bind, runIn_orFail, hread]
    cases world.read path with
    | error e => rfl
    | ok content =>
      simp only [Except.mapError]
      cases String.fromUTF8? content with
      | none => rfl
      | some text =>
        simp only
        cases Config.parse text <;> rfl

/-- Loading the configuration only reads, whether it fails or not. -/
theorem runIn_loadConfig (asked : Option String) (world : World) :
    runIn world (loadConfig (machineWith shared? fetch) asked) =
      (configOf shared? world.toFileSystem asked, world) := by
  have hchosen : runIn world (liftM (configPath? (machineWith shared? fetch) asked)) =
      (.ok (chosenConfig? shared? world.toFileSystem asked), world) :=
    congrArg (fun result => (Except.ok result.1, result.2))
      (run_configPath? shared? fetch asked world)
  rw [loadConfig, runIn_bind_of_ok hchosen, configOf]
  cases chosenConfig? shared? world.toFileSystem asked with
  | none => rfl
  | some path => exact runIn_readConfig shared? fetch path world

/-- A source that is no web page is read from the files. -/
theorem runIn_loadSource {location : String} (hlocal : isRemote location = false) (world : World) :
    runIn world (loadSource (machineWith shared? fetch) location) =
      ((world.read location).mapError fun e => .source location e.message, world) := by
  have hread : ((machineWith shared? fetch).readFile location).run world =
      ((world.read location).mapError FileError.message, world) := rfl
  rw [loadSource, hlocal, runIn_orFail, if_neg Bool.false_ne_true, hread]
  cases world.read location <;> rfl

/-- A write that fails leaves the world as it is. -/
theorem run_writeFile (path text : String) (world : World) :
    ((machineWith shared? fetch).writeFile path text).run world =
      match world.write path text.toUTF8 with
      | .ok system => (.ok (), { world with toFileSystem := system })
      | .error e => (.error e.message, world) := by
  simp only [machineWith, simulated, StateT.run_bind, StateT.run_get, pure_bind]
  cases world.write path text.toUTF8 <;> rfl

/-- Delivering a text does what `delivery` says with the files, and prints what it says. -/
theorem runIn_deliver (output : Option String) (text : String) (world : World) :
    let result := delivery world.toFileSystem output text
    runIn world (deliver (machineWith shared? fetch) output text) =
      (result.1, result.2.on world) := by
  cases output with
  | none => rfl
  | some path =>
    rw [deliver, runIn_orFail, run_writeFile, FileSystem.write, delivery]
    cases world.destination path <;> rfl

/-- A run comes to its conclusion, and the world is changed as the conclusion says. All that is known
    of runs follows from what a conclusion can be. -/
theorem runIn_runOn {arguments : Arguments} (hlocal : isRemote arguments.source = false)
    (world : World) :
    let config := configOf shared? world.toFileSystem arguments.config
    let result := conclusion config world.toFileSystem arguments
    runIn world (runOn (machineWith shared? fetch) arguments) = (result.1, result.2.on world) := by
  rw [runOn, runIn_bind, runIn_loadConfig]
  cases configOf shared? world.toFileSystem arguments.config with
  | error failure => rfl
  | ok options =>
    simp only [conclusion]
    rw [runIn_bind, runIn_loadSource shared? fetch hlocal]
    cases world.read arguments.source with
    | error e => rfl
    | ok input =>
      simp only [Except.mapError]
      cases graphText (resolveOptions options arguments) input with
      | error e => rfl
      | ok text => exact runIn_deliver shared? fetch arguments.output text world

end

end RuleGraph.CommandLine
