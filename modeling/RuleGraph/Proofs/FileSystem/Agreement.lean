import Mathlib.Data.List.Infix
import RuleGraph.Proofs.FileSystem

namespace RuleGraph.FileSystem

open FileTree

/-- The systems agree on a path with the directories on its way: each step fails in both or leads to
    the same place in both, and there is the same in both as far as a write to the path can tell: a
    directory, a file or nothing, with the same rights. -/
structure AgreeAlong (system system' : FileSystem) (path : String) : Prop where
  ways : ∀ front, front <+: pathSteps path →
    system.walk (system.pathStart path) front = system'.walk (system'.pathStart path) front
  places : ∀ front place, front <+: pathSteps path →
    system.walk (system.pathStart path) front = .ok place →
      (system.tree.descend? place).isSome = (system'.tree.descend? place).isSome ∧
        (system.tree.HasDirectory place ↔ system'.tree.HasDirectory place) ∧
        system.rights.enter place = system'.rights.enter place
  writes : ∀ front name place, pathSteps path = front ++ [name] →
    system.walk (system.pathStart path) front = .ok place →
      system.rights.write (place ++ [name]) = system'.rights.write (place ++ [name])

theorem AgreeAlong.symm {system system' : FileSystem} {path : String}
    (h : AgreeAlong system system' path) : AgreeAlong system' system path where
  ways front hfront := (h.ways front hfront).symm
  places front place hfront hplace :=
    have ⟨hthere, hdirectory, henter⟩ :=
      h.places front place hfront ((h.ways front hfront).trans hplace)
    ⟨hthere.symm, hdirectory.symm, henter.symm⟩
  writes front name place hsteps hplace :=
    (h.writes front name place hsteps ((h.ways front ⟨_, hsteps.symm⟩).trans hplace)).symm

section

variable {system system' : FileSystem} {place : Place} {name path : String} {front : List String}
  {entries entries' : List (String × FileTree)}

theorem hasDirectory_child_iff {tree : FileTree}
    (h : tree.descend? place = some (directory entries)) :
    tree.HasDirectory (place ++ [name]) ↔
      ∃ deeper, entries.lookup name = some (directory deeper) := by
  have hchild : tree.descend? (place ++ [name]) = entries.lookup name := by
    rw [descend?_append, h, Option.bind_some, descend?_directory_cons]
    cases entries.lookup name with
    | none => rfl
    | some entry => exact descend?_nil entry
  rw [HasDirectory, hchild]

/-- A walk from a directory that may be entered finds each plain name in it. -/
theorem walk_child (h : system.tree.descend? place = some (directory entries))
    (henter : system.rights.enter place = true) (hdots : name ∉ ["", ".", ".."])
    (hlong : ¬255 < name.utf8ByteSize) (hname : (entries.lookup name).isSome) :
    system.walk place [name] = .ok (place ++ [name]) := by
  simp only [walk, h, step_eq_ite henter hdots hlong, if_pos hname]

/-- A directory in the way of a file that is to be written is found by the last step of the path, so
    it is in the way in both systems. -/
theorem AgreeAlong.exists_directory (h : AgreeAlong system system' path)
    (hsteps : pathSteps path = front ++ [name])
    (hwalk : system.walk (system.pathStart path) front = .ok place)
    (henter : system.rights.enter place = true) (hdots : name ∉ ["", ".", ".."])
    (hlong : ¬255 < name.utf8ByteSize)
    (hentries : system.tree.descend? place = some (directory entries))
    (hentries' : system'.tree.descend? place = some (directory entries'))
    (hdirectory : ∃ deeper, entries.lookup name = some (directory deeper)) :
    ∃ deeper, entries'.lookup name = some (directory deeper) := by
  have hsome : (entries.lookup name).isSome := by
    obtain ⟨deeper, hdeeper⟩ := hdirectory
    rw [hdeeper, Option.isSome_some]
  have hplace : system.walk (system.pathStart path) (front ++ [name]) = .ok (place ++ [name]) := by
    rw [walk_append, hwalk]
    exact walk_child hentries henter hdots hlong hsome
  obtain ⟨-, hboth, -⟩ := h.places _ _ (hsteps ▸ List.prefix_refl _) hplace
  rwa [hasDirectory_child_iff hentries, hasDirectory_child_iff hentries', iff_true_left hdirectory]
    at hboth

/-- Without a directory there is no place for a file, and the reason tells a file in its place from
    nothing. -/
theorem target_of_not_hasDirectory (h : ¬system.tree.HasDirectory place) :
    system.target place name =
      .error (if (system.tree.descend? place).isSome then .notDirectory else .notFound) := by
  unfold target
  split
  · exact absurd ⟨_, ‹_›⟩ h
  · rename_i hfile
    rw [hfile]
    rfl
  · rename_i hnothing
    rw [hnothing]
    rfl

/-- In a directory that may be entered a file may stand under each name that is no directory, if it
    may be written there. -/
theorem target_of_not_directory (h : system.tree.descend? place = some (directory entries))
    (henter : system.rights.enter place = true) (hdots : name ∉ ["", ".", ".."])
    (hlong : ¬255 < name.utf8ByteSize)
    (hfile : ¬∃ deeper, entries.lookup name = some (directory deeper)) :
    system.target place name =
      if !system.rights.write (place ++ [name]) then .error .permissionDenied
      else .ok (place ++ [name]) := by
  simp only [target, h, henter, Bool.not_true, Bool.false_eq_true, if_false, if_neg hdots,
    if_neg hlong]
  split
  · exact absurd ⟨_, ‹_›⟩ hfile
  · rfl

/-- Where the directory is the same, so is the place of the file in it. -/
theorem AgreeAlong.target_eq (h : AgreeAlong system system' path) (hfront : front <+: pathSteps path)
    (hsteps : name ≠ "" → pathSteps path = front ++ [name])
    (hwalk : system.walk (system.pathStart path) front = .ok place) :
    system.target place name = system'.target place name := by
  have hwalk' : system'.walk (system'.pathStart path) front = .ok place :=
    (h.ways front hfront).symm.trans hwalk
  obtain ⟨hthere, hdirectory, henters⟩ := h.places front place hfront hwalk
  by_cases hplace : system.tree.HasDirectory place
  · obtain ⟨entries', hentries'⟩ := hdirectory.1 hplace
    obtain ⟨entries, hentries⟩ := hplace
    by_cases henter : system.rights.enter place = true
    · have henter' : system'.rights.enter place = true := henters ▸ henter
      by_cases hdots : name ∈ ["", ".", ".."]
      · simp only [target, hentries, hentries', henter, henter', if_pos hdots]
      by_cases hlong : 255 < name.utf8ByteSize
      · simp only [target, hentries, hentries', henter, henter', if_pos hlong]
      have hsteps := hsteps fun hempty => hdots (by simp [hempty])
      have hboth : (∃ deeper, entries.lookup name = some (directory deeper)) ↔
          ∃ deeper, entries'.lookup name = some (directory deeper) :=
        ⟨h.exists_directory hsteps hwalk henter hdots hlong hentries hentries',
          h.symm.exists_directory hsteps hwalk' henter' hdots hlong hentries' hentries⟩
      by_cases hdeeper : ∃ deeper, entries.lookup name = some (directory deeper)
      · obtain ⟨deeper', hdeeper'⟩ := hboth.1 hdeeper
        obtain ⟨deeper, hdeeper⟩ := hdeeper
        simp only [target, hentries, hentries', henter, henter', hdeeper, hdeeper']
      · rw [target_of_not_directory hentries henter hdots hlong hdeeper,
          target_of_not_directory hentries' henter' hdots hlong (hdeeper ∘ hboth.2),
          h.writes front name place hsteps hwalk]
    · have hclosed : (!system.rights.enter place) = true := by simpa using henter
      have hclosed' : (!system'.rights.enter place) = true := henters ▸ hclosed
      simp only [target, hentries, hentries', if_pos hclosed, if_pos hclosed']
  · rw [target_of_not_hasDirectory hplace, target_of_not_hasDirectory (hplace ∘ hdirectory.2), hthere]

/-- Without the slashes at its end, the way to the directory is an initial part of the path. -/
theorem prefix_outer (steps : List String) (name : String) :
    (if name = "" then (steps.reverse.dropWhile (· = "")).reverse else steps).dropLast <+: steps := by
  refine (List.dropLast_prefix _).trans ?_
  split
  · rw [← List.reverse_suffix, List.reverse_reverse]
    exact List.dropWhile_suffix _
  · exact List.prefix_refl _

/-- Where file systems agree along a path, a write to it goes to the same file in both. What else
    there is in them does not matter. -/
theorem AgreeAlong.destination_eq (h : AgreeAlong system system' path) :
    system.destination path = system'.destination path := by
  unfold destination
  cases pathError? path with
  | some e => rfl
  | none =>
    dsimp only
    generalize hname : (pathSteps path).getLast?.getD "" = name
    have houter := prefix_outer (pathSteps path) name
    rw [← h.ways _ houter]
    cases hplace : system.walk _ _ with
    | error e => rfl
    | ok place =>
      refine h.target_eq houter (fun hsome => ?_) hplace
      rw [if_neg hsome]
      cases hlast : (pathSteps path).getLast? with
      | none =>
        rw [hlast] at hname
        exact absurd hname.symm hsome
      | some last =>
        rw [hlast] at hname
        obtain rfl : last = name := hname
        exact (List.dropLast_append_getLast? _ hlast).symm

end

end RuleGraph.FileSystem
