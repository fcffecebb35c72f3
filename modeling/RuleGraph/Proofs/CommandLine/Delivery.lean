import Mathlib
import RuleGraph.Proofs.CommandLine.Conclusion
import RuleGraph.Proofs.Decode.Precedence

namespace RuleGraph.CommandLine

/-- The text went to the output that was asked for, and nowhere else. -/
def Delivered (output : Option String) (text : String) (before after : World) : Prop :=
  match output with
  | none => after = { before with printed := before.printed ++ text }
  | some path => after.printed = before.printed ∧
      ∃ place, before.WritesOnly after.toFileSystem path text.toUTF8 place

/-- A delivery fails and changes nothing, or it is complete. -/
theorem delivery_cases (world : World) (output : Option String) (text : String) :
    (∃ failure, delivery world.toFileSystem output text = (.error failure, .nothing)) ∨
      ∃ effect, delivery world.toFileSystem output text = (.ok (), effect) ∧
        Delivered output text world (effect.on world) := by
  cases output with
  | none => exact .inr ⟨_, rfl, rfl⟩
  | some path =>
    rw [delivery]
    cases hplace : world.destination path with
    | error e => exact .inl ⟨_, rfl⟩
    | ok place =>
      have hwrite : world.write path text.toUTF8 = .ok (world.set place text.toUTF8) := by
        rw [FileSystem.write, hplace]
        rfl
      exact .inr ⟨_, rfl, rfl, FileSystem.writesOnly_of_write hwrite⟩

/-- A run fails and changes nothing, or there were a configuration and a grammar to be read, and the
    graph of the grammar is delivered. -/
theorem conclusion_cases (config : Except Failure Options) (world : World) (arguments : Arguments) :
    (∃ failure, conclusion config world.toFileSystem arguments = (.error failure, .nothing)) ∨
      ∃ effect options input grammar,
        conclusion config world.toFileSystem arguments = (.ok (), effect) ∧
        config = .ok options ∧ world.read arguments.source = .ok input ∧
        decode input = .ok grammar ∧
        Delivered arguments.output
          (Dot.render (build (resolveOptions options arguments) grammar)) world
          (effect.on world) := by
  cases config with
  | error failure => exact .inl ⟨_, rfl⟩
  | ok options =>
    rw [conclusion]
    cases hinput : world.read arguments.source with
    | error e => exact .inl ⟨_, rfl⟩
    | ok input =>
      cases hdecode : decode input with
      | error e => exact .inl ⟨.decode e, by simp only [graphText, hdecode, Except.map]⟩
      | ok grammar =>
        simp only [graphText, hdecode, Except.map]
        obtain ⟨failure, hfailure⟩ | ⟨effect, hdelivery, hdelivered⟩ := delivery_cases world
          arguments.output (Dot.render (build (resolveOptions options arguments) grammar))
        · exact .inl ⟨failure, hfailure⟩
        · exact .inr ⟨effect, options, input, grammar, hdelivery, rfl, rfl, hdecode, hdelivered⟩

/-- A run on local files either fails and changes nothing, or puts the whole text of the graph in one
    place. The configuration and the grammar are those of the files before the run, also where the
    text goes over one of them. -/
theorem runOn_delivers (shared? : Option String)
    (fetch : String → StateM World (Except String ByteArray)) (arguments : Arguments)
    (hlocal : isRemote arguments.source = false) (world : World) :
    let machine := machineWith shared? fetch
    (∀ failure after, runIn world (runOn machine arguments) = (.error failure, after) →
      after = world) ∧
    ∀ after, runIn world (runOn machine arguments) = (.ok (), after) →
      ∃ config input grammar,
        runIn world (loadConfig machine arguments.config) = (.ok config, world) ∧
        world.read arguments.source = .ok input ∧ decode input = .ok grammar ∧
        Delivered arguments.output
          (Dot.render (build (resolveOptions config arguments) grammar)) world after := by
  intro machine
  rw [runIn_runOn shared? fetch hlocal world]
  obtain ⟨failure, hfailed⟩ | ⟨effect, config, input, grammar, hdone, hconfig, hinput, hdecode,
    hdelivered⟩ := conclusion_cases (configOf shared? world.toFileSystem arguments.config) world
      arguments
  · rw [hfailed]
    refine ⟨fun _ _ h => (Prod.mk.inj h).2.symm, fun _ h => ?_⟩
    cases h
  · rw [hdone]
    refine ⟨fun _ _ h => ?_, fun _ h => ?_⟩
    · cases h
    · obtain rfl := (Prod.mk.inj h).2
      refine ⟨config, input, grammar, ?_, hinput, hdecode, hdelivered⟩
      rw [runIn_loadConfig, hconfig]

/-- Rules that include two others and match a regular expression with a comment in it. -/
def commentedRules : List (String × Document) :=
  [("patterns", .array [.object [("include", .string "#a")], .object [("include", .string "#b")],
    .object [("match", .string "x # y")]])]

/-- The source of the rules, all on one line. -/
def commentedSource : String :=
  "\x7b'patterns': [\x7b'include': '#a'\x7d,\x7b'include': '#b'\x7d,\x7b'match': 'x # y'\x7d]\x7d\n"

/-- The grammar in the source. -/
def commentedGrammar : Grammar where
  patterns := [{ inclusion := "#a" }, { inclusion := "#b" }, { regex := "x # y" }]

theorem decode_commentedSource : decode commentedSource.toUTF8 = .ok commentedGrammar := by
  let layout : Cson.Layout := fun _ => { afterColon := 1 }
  have htext : Cson.documentText layout 1 (.object commentedRules) = commentedSource := by
    decide +kernel
  have hplain : Cson.Plain (.object commentedRules) := by
    have hrule : ∀ name text, Cson.Plain (.object [(name, .string text)]) := fun name text =>
      .object (by simp [entryNames]) (List.forall_mem_singleton.2 (.string _))
    refine .object (by decide) (List.forall_mem_singleton.2 (.array ?_))
    simp [hrule]
  have hchars : ∀ c ∈ (Cson.documentText layout 1 (.object commentedRules)).toList,
      Cson.isSharedChar c = true := by
    rw [htext, ← List.all_eq_true]
    decide +kernel
  have hyaml := Cson.yaml_parse?_documentText hplain hchars (by decide +kernel)
  rw [htext] at hyaml
  have hrules : Cson.asWritten layout (.object commentedRules) = .object commentedRules := rfl
  rw [hrules] at hyaml
  rw [decode, Format.all, recognize_yaml_of_parse? hyaml]
  rfl

/-- A configuration that leaves one name out and switches everything on. -/
def allOptionsText : String :=
  "[graph]\nexclude = ['b']\nenable-regex = true\nlabel-arrows = true\nuncomment-regex = true\n"

/-- The options in the configuration. -/
def allOptions : Options :=
  { ({} : Options).excluding ["b"] with regex := true, labels := true, uncomment := true }

/-- The configuration turns every switch on and leaves out a name. -/
theorem parse_allOptionsText : Config.parse allOptionsText = .ok allOptions := by
  cbv

/-- Rules and options in the working directory, and other options far from it. -/
def scattered (options nearby rules : String) : World where
  tree := .directory
    [("etc", .directory [("graph.toml", .file options.toUTF8)]),
      ("home", .directory
        [("me", .directory
          [("rules", .file rules.toUTF8),
            ("tmgraph", .directory [("config.toml", .file nearby.toUTF8)])])])]
  workingDirectory := ["home", "me"]

theorem read_scattered (options nearby rules : String) :
    let world := scattered options nearby rules
    world.read "rules" = .ok rules.toUTF8 ∧ world.read "/rules" = .error .notFound :=
  ⟨rfl, rfl⟩

/-- A path that goes up and an absolute one lead to files in different directories. -/
theorem destination_scattered (options nearby rules : String) :
    let world := scattered options nearby rules
    world.destination "../drawing" = .ok ["home", "drawing"] ∧
      world.destination "/home/me/rules" = .ok ["home", "me", "rules"] :=
  ⟨rfl, rfl⟩

theorem configOf_scattered {options : String} {parsed : Options}
    (h : Config.parse options = .ok parsed) (nearby rules : String) :
    configOf none (scattered options nearby rules).toFileSystem "../../etc/graph.toml" =
      .ok parsed := by
  have hread : (scattered options nearby rules).read "../../etc/graph.toml" = .ok options.toUTF8 :=
    rfl
  have hthere : (scattered options nearby rules).hasPath "../../etc/graph.toml" = true := rfl
  simp only [configOf, chosenConfig?, configAt, hthere, hread, fromUTF8?_toUTF8, h, if_true,
    Except.mapError]

/-- The graph of the grammar with all options. -/
def commentedDrawing : String :=
  "digraph TextMate \x7b\n  \"$self\" -> \"a\"[label=\"include\"];\n" ++
    "  \"$self\" -> \"x\"[label=\"match\"];\n\x7d\n"

/-- The drawing shows every option: the comment is stripped, the edges have labels, and the name
    that is left out does not occur. -/
theorem render_commentedGrammar (arguments : Arguments) (h : arguments.exclude = []) :
    Dot.render (build (resolveOptions allOptions arguments) commentedGrammar) =
      commentedDrawing := by
  have hsame : resolveOptions allOptions arguments = allOptions := by
    rw [resolveOptions, h]
    rfl
  rw [hsame]
  cbv

/-- A run that finds no rules, and runs that put the graph beside the working directory and over the
    rules. -/
theorem runOn_delivers_scattered :
    let world := scattered allOptionsText "[" commentedSource
    let machine := machineWith none fun _ => return .error "there is no network"
    let config := "../../etc/graph.toml"
    runIn world (runOn machine { source := "/rules", config := config }) =
        (.error (.source "/rules" FileError.notFound.message), world) ∧
      ∀ output ∈ ["../drawing", "/home/me/rules"], ∃ after,
        runIn world (runOn machine { source := "rules", config := config, output := some output }) =
          (.ok (), after) ∧ Delivered output commentedDrawing world after := by
  intro world machine config
  have hconfig : configOf none world.toFileSystem config = .ok allOptions :=
    configOf_scattered parse_allOptionsText "[" commentedSource
  obtain ⟨hread, hnothing⟩ : world.read "rules" = .ok commentedSource.toUTF8 ∧
      world.read "/rules" = .error .notFound := read_scattered allOptionsText "[" commentedSource
  have hmissing : isRemote "/rules" = false := by cbv
  have hlocal : isRemote "rules" = false := by cbv
  have hfailed : (runIn world (runOn machine { source := "/rules", config := config })).1 =
      .error (.source "/rules" FileError.notFound.message) := by
    rw [runIn_runOn none _ hmissing, hconfig]
    simp only [conclusion, hnothing]
  refine ⟨Prod.ext hfailed ((runOn_delivers none _ _ hmissing world).1 _ _ (Prod.ext hfailed rfl)),
    fun output houtput => ?_⟩
  let arguments : Arguments := { source := "rules", config := config, output := some output }
  have hplace : ∃ place, world.destination output = .ok place := by
    simp only [List.mem_cons, List.not_mem_nil, or_false] at houtput
    obtain ⟨hbeside, hover⟩ := destination_scattered allOptionsText "[" commentedSource
    obtain rfl | rfl := houtput
    · exact ⟨_, hbeside⟩
    · exact ⟨_, hover⟩
  have hdone : (runIn world (runOn machine arguments)).1 = .ok () := by
    obtain ⟨place, hplace⟩ := hplace
    rw [runIn_runOn none _ hlocal, hconfig]
    simp only [conclusion, hread, graphText, decode_commentedSource, Except.map, delivery,
      arguments, hplace]
  obtain ⟨options, input, grammar, hload, hinput, hdecode, hdelivered⟩ :=
    (runOn_delivers none _ arguments hlocal world).2 _ (Prod.ext hdone rfl)
  rw [runIn_loadConfig, hconfig] at hload
  obtain rfl := Except.ok.inj (Prod.mk.inj hload).1
  obtain rfl := Except.ok.inj (hread.symm.trans hinput)
  obtain rfl := Except.ok.inj (decode_commentedSource.symm.trans hdecode)
  rw [render_commentedGrammar arguments rfl] at hdelivered
  exact ⟨_, Prod.ext hdone rfl, hdelivered⟩

end RuleGraph.CommandLine
