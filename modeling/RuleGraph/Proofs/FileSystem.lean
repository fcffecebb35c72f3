import RuleGraph.FileSystem
import RuleGraph.Proofs.FileTree

namespace RuleGraph.FileSystem

open FileTree

/-- One file is written, and nothing else is changed: the path leads to it afterwards, and to
    nothing else if it led anywhere before. -/
structure WritesOnly (before after : FileSystem) (path : String) (content : ByteArray)
    (place : Place) : Prop where
  resolved : after.resolve path = .ok place
  same : ∀ old, before.resolve path = .ok old → old = place
  written : after.tree.fileAt? place = some content
  others : ∀ other, other ≠ place → after.tree.fileAt? other = before.tree.fileAt? other
  directories : ∀ other, after.tree.HasDirectory other ↔ before.tree.HasDirectory other
  surroundings : after.workingDirectory = before.workingDirectory ∧ after.rights = before.rights

/-- A step that was possible stays so where more names are there. -/
theorem step_of_mono {rights : Rights} {place next : Place}
    {entries entries' : List (String × FileTree)}
    (hmono : ∀ name, (entries.lookup name).isSome → (entries'.lookup name).isSome) {name : String}
    (h : step rights place entries name = .ok next) : step rights place entries' name = .ok next := by
  have hname := hmono name
  unfold step at h ⊢
  split_ifs at h ⊢ <;> simp_all

/-- A way through the files is still there if all directories are. -/
theorem walk_of_keeps {before after : FileSystem} (hkeeps : Keeps before.tree after.tree)
    (hrights : after.rights = before.rights) {place last : Place} {names : List String}
    (h : before.walk place names = .ok last) : after.walk place names = .ok last := by
  induction names generalizing place with
  | nil => exact h
  | cons name names ih =>
    rw [walk] at h ⊢
    split at h
    · rename_i entries hentries
      obtain ⟨entries', hentries', hmono⟩ := hkeeps place entries hentries
      rw [hentries', hrights]
      dsimp only
      split at h
      · rename_i next hstep
        rw [step_of_mono hmono hstep]
        exact ih h
      · cases h
    · cases h
    · cases h

theorem walk_append (system : FileSystem) (place : Place) (names later : List String) :
    system.walk place (names ++ later) =
      (system.walk place names).bind fun next => system.walk next later := by
  induction names generalizing place with
  | nil => rfl
  | cons name names ih =>
    rw [List.cons_append, walk, walk]
    split
    · split
      · exact ih _
      · rfl
    · rfl
    · rfl

/-- A file is put into a directory that may be entered, under a name that is no directory. -/
theorem exists_of_target {system : FileSystem} {outer place : Place} {name : String}
    (h : system.target outer name = .ok place) :
    ∃ inner, place = outer ++ [name] ∧ system.tree.descend? outer = some (directory inner) ∧
      (∀ deeper, inner.lookup name ≠ some (directory deeper)) ∧
      system.rights.enter outer = true ∧ name ∉ ["", ".", ".."] ∧ ¬255 < name.utf8ByteSize := by
  unfold target at h
  split at h
  · rename_i inner hinner
    split_ifs at h with henter hdots hlong hwrite
    · split at h <;> cases h
    · split at h
      · cases h
      · rename_i hfile
        obtain rfl := Except.ok.inj h
        exact ⟨inner, rfl, hinner, hfile, by simpa using henter, hdots, hlong⟩
  · cases h
  · cases h

/-- A write goes to the last name of its path, in the directory that the names before it lead to. -/
theorem exists_of_destination {system : FileSystem} {path : String} {place : Place}
    (h : system.destination path = .ok place) :
    pathError? path = none ∧ ∃ steps name outer, pathSteps path = steps ++ [name] ∧
      system.walk (system.pathStart path) steps = .ok outer ∧
      system.target outer name = .ok place := by
  unfold destination at h
  split at h
  · cases h
  · rename_i hpath
    refine ⟨hpath, ?_⟩
    dsimp only at h
    cases hwalk : system.walk _ _ with
    | error e =>
      rw [hwalk] at h
      cases h
    | ok outer =>
      rw [hwalk] at h
      have htarget : system.target outer ((pathSteps path).getLast?.getD "") = .ok place := h
      obtain ⟨-, -, -, -, -, hdots, -⟩ := exists_of_target htarget
      have hname : (pathSteps path).getLast?.getD "" ≠ "" := fun hempty => by
        simp [hempty] at hdots
      have hsome : pathSteps path ≠ [] := fun hnil => by simp [hnil] at hname
      obtain ⟨steps, last, hsteps⟩ : ∃ steps last, pathSteps path = steps ++ [last] :=
        ⟨_, _, (List.dropLast_concat_getLast hsome).symm⟩
      rw [if_neg hname] at hwalk
      simp only [hsteps, List.dropLast_concat, List.getLast?_concat, Option.getD_some] at hwalk htarget
      exact ⟨steps, last, outer, hsteps, hwalk, htarget⟩

/-- In a directory that may be entered a plain name leads to what is there under it. -/
theorem step_eq_ite {rights : Rights} {place : Place} {entries : List (String × FileTree)}
    {name : String} (henter : rights.enter place = true) (hdots : name ∉ ["", ".", ".."])
    (hlong : ¬255 < name.utf8ByteSize) :
    step rights place entries name =
      if (entries.lookup name).isSome then .ok (place ++ [name]) else .error .notFound := by
  simp only [List.mem_cons, List.not_mem_nil, or_false, not_or] at hdots
  simp [step, hdots, henter, hlong]

/-- The last step of a path leads to what is there under that name. -/
theorem resolve_eq {system : FileSystem} {path : String} (hpath : pathError? path = none)
    {steps : List String} {name : String} (hsteps : pathSteps path = steps ++ [name])
    {outer : Place} (hwalk : system.walk (system.pathStart path) steps = .ok outer)
    {inner : List (String × FileTree)} (hinner : system.tree.descend? outer = some (directory inner))
    (henter : system.rights.enter outer = true) (hdots : name ∉ ["", ".", ".."])
    (hlong : ¬255 < name.utf8ByteSize) :
    system.resolve path =
      if (inner.lookup name).isSome then .ok (outer ++ [name]) else .error .notFound := by
  rw [resolve, hpath, hsteps]
  simp only [walk_append, hwalk, Except.bind, walk, hinner, step_eq_ite henter hdots hlong]
  cases (inner.lookup name).isSome <;> rfl

/-- A write that succeeds changes one file, and its path leads to it. -/
theorem writesOnly_of_write {before after : FileSystem} {path : String} {content : ByteArray}
    (h : before.write path content = .ok after) :
    ∃ place, before.WritesOnly after path content place := by
  rw [write] at h
  cases hplace : before.destination path with
  | error e =>
    rw [hplace] at h
    cases h
  | ok place =>
    rw [hplace] at h
    obtain rfl := Except.ok.inj h
    obtain ⟨hpath, steps, name, outer, hsteps, hwalk, htarget⟩ := exists_of_destination hplace
    obtain ⟨inner, rfl, houter, hname, henter, hdots, hlong⟩ := exists_of_target htarget
    have hself : (before.set (outer ++ [name]) content).tree.descend? (outer ++ [name]) =
        some (file content) := descend?_setFile_self houter hname content
    have hkeeps : Keeps before.tree (before.set (outer ++ [name]) content).tree :=
      keeps_setFile houter hname content
    obtain ⟨inner', hinner', -⟩ := hkeeps outer inner houter
    have hlookup : inner'.lookup name = some (file content) := by
      rw [descend?_append, hinner', Option.bind_some, descend?_directory_cons] at hself
      simpa [descend?_nil] using hself
    have hwalk' : (before.set (outer ++ [name]) content).walk (before.pathStart path) steps =
        .ok outer := walk_of_keeps hkeeps rfl hwalk
    refine ⟨outer ++ [name], ?_, fun old hold => ?_, by rw [fileAt?, hself],
      fun other hother => fileAt?_setFile_of_ne houter hname content hother,
      hasDirectory_setFile_iff houter hname content, rfl, rfl⟩
    · rw [resolve_eq hpath hsteps hwalk' hinner' henter hdots hlong, hlookup]
      rfl
    · rw [resolve_eq hpath hsteps hwalk houter henter hdots hlong] at hold
      split at hold
      · exact (Except.ok.inj hold).symm
      · cases hold

end RuleGraph.FileSystem
