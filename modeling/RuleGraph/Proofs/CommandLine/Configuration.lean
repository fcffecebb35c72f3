import Mathlib
import RuleGraph.Proofs.CommandLine.Delivery
import RuleGraph.Proofs.FileSystem.Agreement
import RuleGraph.Proofs.Options

namespace RuleGraph.CommandLine

/-- The same configuration file counts in both file systems, and both agree on it: it is missing in
    both, or what is there is the same. -/
structure SameConfig (shared? : Option String) (system system' : FileSystem)
    (asked : Option String) : Prop where
  chosen : chosenConfig? shared? system asked = chosenConfig? shared? system' asked
  there : ∀ path, chosenConfig? shared? system asked = some path →
    system.hasPath path = system'.hasPath path
  content : ∀ path, chosenConfig? shared? system asked = some path → system.hasPath path = true →
    system.read path = system'.read path

/-- The configuration file that counts can be read and has these options. -/
def Configures (shared? : Option String) (system : FileSystem) (asked : Option String)
    (options : Options) : Prop :=
  ∃ path content text, chosenConfig? shared? system asked = some path ∧
    system.read path = .ok content ∧ String.fromUTF8? content = some text ∧
    Config.parse text = .ok options

/-- Options together with the flags: the names of both are left out, and what either switches on is
    on. -/
structure Merged (options : Options) (arguments : Arguments) (merged : Options) : Prop where
  names : ∀ name, merged.excludes name = (options.excludes name || arguments.exclude.contains name)
  regex : merged.regex = (options.regex || arguments.regex)
  labels : merged.labels = (options.labels || arguments.labels)
  uncomment : merged.uncomment = (options.uncomment || arguments.uncomment)

/-- Some names and switches of the options are given by flags instead, and nothing else is changed
    that a run looks at but for the place of the configuration. -/
structure MovedToFlags (options : Options) (arguments : Arguments) (options' : Options)
    (arguments' : Arguments) : Prop where
  source : arguments'.source = arguments.source
  output : arguments'.output = arguments.output
  names : ∃ names : List String,
    (∀ name, options.excludes name = (options'.excludes name || names.contains name)) ∧
    ∀ name, name ∈ arguments'.exclude ↔ name ∈ arguments.exclude ∨ name ∈ names
  regex : ∃ moved : Bool, options.regex = (options'.regex || moved) ∧
    arguments'.regex = (arguments.regex || moved)
  labels : ∃ moved : Bool, options.labels = (options'.labels || moved) ∧
    arguments'.labels = (arguments.labels || moved)
  uncomment : ∃ moved : Bool, options.uncomment = (options'.uncomment || moved) ∧
    arguments'.uncomment = (arguments.uncomment || moved)

/-- Two runs, each in its own world, end alike and have the same effect there. -/
def SameResult (world world' : World) (first second : Except Failure Unit × World) : Prop :=
  ∃ (outcome : Except Failure Unit) (effect : Effect),
    first = (outcome, effect.on world) ∧ second = (outcome, effect.on world')

theorem hasPath_of_read {system : FileSystem} {path : String} {content : ByteArray}
    (h : system.read path = .ok content) : system.hasPath path = true := by
  unfold FileSystem.read at h
  split at h
  · cases h
  · rename_i place hplace
    rw [FileSystem.hasPath, hplace]

section

variable {shared? asked : Option String} {system system' : FileSystem}

/-- The options of a run depend on nothing but the configuration file that is chosen. -/
theorem SameConfig.configOf_eq (h : SameConfig shared? system system' asked) :
    configOf shared? system asked = configOf shared? system' asked := by
  rw [configOf, configOf, ← h.chosen]
  cases hchosen : chosenConfig? shared? system asked with
  | none => rfl
  | some path =>
    have hthere := h.there path hchosen
    dsimp only
    rw [configAt, configAt, ← hthere]
    cases hfound : system.hasPath path with
    | false => rfl
    | true => rw [h.content path hchosen hfound]

/-- A configuration that is chosen, found and readable gives the options of the run. -/
theorem Configures.configOf_eq {options : Options} (h : Configures shared? system asked options) :
    configOf shared? system asked = .ok options := by
  obtain ⟨path, content, text, hchosen, hread, htext, hparse⟩ := h
  rw [configOf, hchosen]
  simp only [configAt, hasPath_of_read hread, hread, htext, hparse, if_true, Except.mapError]

/-- Exclusions of the file and of the arguments come together, and a switch is on if either turns it
    on. -/
theorem merged_resolveOptions (options : Options) (arguments : Arguments) :
    Merged options arguments (resolveOptions options arguments) := by
  refine ⟨fun name => ?_, rfl, rfl, rfl⟩
  rw [Options.excludes, Options.excludes, resolveOptions, NameSet.contains_insertAll, Bool.or_comm]

/-- What options and flags come to together is settled by the two. -/
theorem Merged.eq_resolveOptions {options merged : Options} {arguments : Arguments}
    (h : Merged options arguments merged) : merged = resolveOptions options arguments := by
  have hexclude : merged.exclude = (resolveOptions options arguments).exclude :=
    NameSet.eq_of_contains fun name =>
      (h.names name).trans ((merged_resolveOptions options arguments).names name).symm
  have hregex : merged.regex = (resolveOptions options arguments).regex := h.regex
  have hlabels : merged.labels = (resolveOptions options arguments).labels := h.labels
  have huncomment : merged.uncomment = (resolveOptions options arguments).uncomment := h.uncomment
  cases merged
  cases hexclude
  cases hregex
  cases hlabels
  cases huncomment
  rfl

/-- Names and switches count the same whether the file or the flags give them. -/
theorem MovedToFlags.resolveOptions_eq {options options' : Options} {arguments arguments' : Arguments}
    (h : MovedToFlags options arguments options' arguments') :
    resolveOptions options' arguments' = resolveOptions options arguments := by
  obtain ⟨names, hnames, hgiven⟩ := h.names
  obtain ⟨regex, hregex, hregex'⟩ := h.regex
  obtain ⟨labels, hlabels, hlabels'⟩ := h.labels
  obtain ⟨uncomment, huncomment, huncomment'⟩ := h.uncomment
  have hexclude : options'.exclude.insertAll arguments'.exclude =
      options.exclude.insertAll arguments.exclude := by
    refine NameSet.eq_of_contains fun name => ?_
    have hname : options.exclude.contains name = (options'.exclude.contains name ||
      names.contains name) := hnames name
    rw [NameSet.contains_insertAll, NameSet.contains_insertAll, hname, Bool.eq_iff_iff]
    simp only [Bool.or_eq_true, List.contains_iff_mem, hgiven]
    tauto
  have hor : ∀ a b c : Bool, (a || (b || c)) = (a || c || b) := by decide
  simp only [resolveOptions, hexclude, hregex, hregex', hlabels, hlabels', huncomment, huncomment',
    hor]

/-- File systems that agree along the path of the output take a text alike. -/
theorem delivery_eq {output : Option String}
    (h : ∀ path, output = some path → system.AgreeAlong system' path) (text : String) :
    delivery system output text = delivery system' output text := by
  cases output with
  | none => rfl
  | some path => rw [delivery, delivery, (h path rfl).destination_eq]

end

/-- Configuration comes from one file and is merged with the flags. Where two file systems agree on
    that file, on the source and along the output path, runs with the same arguments have the same
    result. And what the options of the file exclude and switch on may be given by flags instead. -/
theorem runOn_configured (shared? : Option String)
    (fetch : String → StateM World (Except String ByteArray)) {arguments : Arguments}
    (hlocal : isRemote arguments.source = false) {world world' : World}
    (hsource : world.read arguments.source = world'.read arguments.source)
    (houtput : ∀ path, arguments.output = some path →
      world.AgreeAlong world'.toFileSystem path) :
    let machine := machineWith shared? fetch
    (∀ options input grammar, Configures shared? world.toFileSystem arguments.config options →
      world.read arguments.source = .ok input → decode input = .ok grammar →
      ∃ merged, Merged options arguments merged ∧ runIn world (runOn machine arguments) =
        runIn world (deliver machine arguments.output (Dot.render (build merged grammar)))) ∧
    (SameConfig shared? world.toFileSystem world'.toFileSystem arguments.config →
      SameResult world world' (runIn world (runOn machine arguments))
        (runIn world' (runOn machine arguments))) ∧
    ∀ options options' arguments', Configures shared? world.toFileSystem arguments.config options →
      Configures shared? world'.toFileSystem arguments'.config options' →
      MovedToFlags options arguments options' arguments' →
      SameResult world world' (runIn world (runOn machine arguments))
        (runIn world' (runOn machine arguments')) := by
  intro machine
  refine ⟨fun options input grammar hoptions hinput hdecode => ?_, fun hconfig => ?_,
    fun options options' arguments' hoptions hoptions' hmoved => ?_⟩
  · refine ⟨_, merged_resolveOptions options arguments, ?_⟩
    rw [runIn_runOn shared? fetch hlocal world, runIn_deliver, hoptions.configOf_eq]
    simp only [conclusion, hinput, graphText, hdecode, Except.map]
  · refine ⟨_, _, runIn_runOn shared? fetch hlocal world, ?_⟩
    rw [runIn_runOn shared? fetch hlocal world', ← hconfig.configOf_eq]
    simp only [conclusion, hsource, delivery_eq houtput]
  · have hlocal' : isRemote arguments'.source = false := by rw [hmoved.source, hlocal]
    refine ⟨_, _, runIn_runOn shared? fetch hlocal world, ?_⟩
    rw [runIn_runOn shared? fetch hlocal' world', hoptions.configOf_eq, hoptions'.configOf_eq]
    simp only [conclusion, hmoved.source, hmoved.output, hmoved.resolveOptions_eq, hsource,
      delivery_eq houtput]

/-- The configuration that the arguments name is the one above the working directory, whatever
    stands next to the run. -/
theorem configures_scattered {options : String} {parsed : Options}
    (h : Config.parse options = .ok parsed) (nearby rules : String) :
    Configures none (scattered options nearby rules).toFileSystem "../../etc/graph.toml" parsed :=
  ⟨_, _, options, rfl, rfl, fromUTF8?_toUTF8 options, h⟩

theorem sameConfig_scattered (options nearby nearby' rules : String) :
    SameConfig none (scattered options nearby rules).toFileSystem
      (scattered options nearby' rules).toFileSystem "../../etc/graph.toml" where
  chosen := rfl
  there := by
    rintro _ ⟨⟩
    rfl
  content := by
    rintro _ ⟨⟩ _
    rfl

theorem agreeAlong_scattered (options options' nearby nearby' rules : String) :
    (scattered options nearby rules).AgreeAlong (scattered options' nearby' rules).toFileSystem
      "../drawing" := by
  have hfronts : ∀ front, front <+: FileTree.pathSteps "../drawing" →
      front = [] ∨ front = [".."] ∨ front = ["..", "drawing"] := by
    intro front hfront
    have hsteps : FileTree.pathSteps "../drawing" = ["..", "drawing"] := rfl
    rw [hsteps, ← List.mem_inits] at hfront
    simpa [List.inits] using hfront
  refine ⟨fun front hfront => ?_, fun front place hfront hplace => ?_, fun _ _ _ _ _ => rfl⟩
  · obtain rfl | rfl | rfl := hfronts front hfront <;> rfl
  · obtain rfl | rfl | rfl := hfronts front hfront
    · obtain rfl : ["home", "me"] = place := Except.ok.inj hplace
      exact ⟨rfl, iff_of_true ⟨_, rfl⟩ ⟨_, rfl⟩, rfl⟩
    · obtain rfl : ["home"] = place := Except.ok.inj hplace
      exact ⟨rfl, iff_of_true ⟨_, rfl⟩ ⟨_, rfl⟩, rfl⟩
    · exact nomatch (hplace : Except.error FileError.notFound = Except.ok place)

/-- A configuration that only switches regular expressions on. -/
def regexText : String :=
  "graph.enable-regex = true"

/-- Options in the working directory that are none do no harm where another file is asked for, and
    all but one of the options may be given by flags. -/
theorem runOn_configured_scattered :
    let world := scattered allOptionsText "" commentedSource
    let unread := scattered allOptionsText "[" commentedSource
    let flagged := scattered regexText "[" commentedSource
    let machine := machineWith none fun _ => return .error "there is no network"
    let arguments : Arguments :=
      { source := "rules", config := "../../etc/graph.toml", output := "../drawing" }
    let flags := { arguments with exclude := ["b"], labels := true, uncomment := true }
    let result := runIn world (runOn machine arguments)
    Config.parse "[" = .error .unreadable ∧
      result = runIn world (deliver machine "../drawing" commentedDrawing) ∧
      SameResult world unread result (runIn unread (runOn machine arguments)) ∧
      SameResult world flagged result (runIn flagged (runOn machine flags)) := by
  intro world unread flagged machine arguments flags result
  have hlocal : isRemote arguments.source = false := by cbv
  have hparse : Config.parse regexText = .ok { regex := true } := by cbv
  have hread : world.read arguments.source = .ok commentedSource.toUTF8 :=
    (read_scattered allOptionsText "" commentedSource).1
  have hoptions : Configures none world.toFileSystem arguments.config allOptions :=
    configures_scattered parse_allOptionsText "" commentedSource
  have hmoved : MovedToFlags allOptions arguments { regex := true } flags :=
    { source := rfl
      output := rfl
      names := ⟨["b"],
        fun name => (Options.excludes_excluding {} ["b"] name).trans (Bool.or_comm ..),
        by simp [arguments, flags]⟩
      regex := ⟨false, rfl, rfl⟩
      labels := ⟨true, rfl, rfl⟩
      uncomment := ⟨true, rfl, rfl⟩ }
  have houtput : ∀ options nearby path, arguments.output = some path →
      world.AgreeAlong (scattered options nearby commentedSource).toFileSystem path := by
    rintro options nearby _ ⟨⟩
    exact agreeAlong_scattered _ _ _ _ _
  obtain ⟨hmerged, hsame, -⟩ := @runOn_configured none _ arguments hlocal world unread
    (hread.trans (read_scattered ..).1.symm) (houtput allOptionsText "[")
  obtain ⟨-, -, hflags⟩ := @runOn_configured none _ arguments hlocal world flagged
    (hread.trans (read_scattered ..).1.symm) (houtput regexText "[")
  obtain ⟨merged, hboth, hresult⟩ := hmerged _ _ _ hoptions hread decode_commentedSource
  rw [hboth.eq_resolveOptions, render_commentedGrammar arguments rfl] at hresult
  exact ⟨by cbv, hresult, hsame (sameConfig_scattered ..),
    hflags _ _ _ hoptions (configures_scattered hparse ..) hmoved⟩

end RuleGraph.CommandLine
