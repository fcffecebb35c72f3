import Mathlib.Tactic.SplitIfs
import RuleGraph.FileTree
import RuleGraph.Proofs.Entries

namespace RuleGraph.FileTree

/-- The content of the file that names lead to, if they lead to a file. -/
def fileAt? (tree : FileTree) (names : List String) : Option ByteArray :=
  match tree.descend? names with
  | some (file content) => some content
  | _ => none

/-- There is a directory at the place. -/
def HasDirectory (tree : FileTree) (place : Place) : Prop :=
  ∃ entries, tree.descend? place = some (directory entries)

/-- All directories of the first tree are in the second one, with entries under the same names at
    least. -/
def Keeps (before after : FileTree) : Prop :=
  ∀ place entries, before.descend? place = some (directory entries) →
    ∃ entries', after.descend? place = some (directory entries') ∧
      ∀ name, (entries.lookup name).isSome → (entries'.lookup name).isSome

theorem descend?_directory_cons (entries : List (String × FileTree)) (name : String)
    (names : List String) :
    (directory entries).descend? (name :: names) =
      (entries.lookup name).bind fun entry => entry.descend? names := by
  rw [descend?]
  cases entries.lookup name <;> rfl

theorem descend?_file_cons (content : ByteArray) (name : String) (names : List String) :
    (file content).descend? (name :: names) = none := by
  rw [descend?]

theorem descend?_nil (tree : FileTree) : tree.descend? [] = some tree := by
  rw [descend?]

theorem descend?_append (tree : FileTree) (names later : List String) :
    tree.descend? (names ++ later) = (tree.descend? names).bind fun entry => entry.descend? later := by
  induction names generalizing tree with
  | nil => rw [List.nil_append, descend?_nil, Option.bind_some]
  | cons name names ih =>
    cases tree with
    | file content => rw [List.cons_append, descend?_file_cons, descend?_file_cons, Option.bind_none]
    | directory entries =>
      rw [List.cons_append, descend?_directory_cons, descend?_directory_cons, Option.bind_assoc]
      simp only [ih]

/-- Only a directory leads to a directory. -/
theorem exists_directory_of_descend? {tree : FileTree} {names : List String}
    {inner : List (String × FileTree)} (h : tree.descend? names = some (directory inner)) :
    ∃ entries, tree = directory entries := by
  cases tree with
  | directory entries => exact ⟨entries, rfl⟩
  | file content => cases names <;> simp [descend?] at h

/-- Setting an entry takes no name away. -/
theorem isSome_lookup_setEntry {name a : String} {entry : FileTree}
    {entries : List (String × FileTree)} (h : (entries.lookup a).isSome) :
    ((setEntry name entry entries).lookup a).isSome := by
  rw [lookup_setEntry]
  split
  · rfl
  · exact h

/-- A file is set in the directory that its path leads through. -/
theorem setFile_cons {names : List String} (hsome : names ≠ []) (content : ByteArray)
    (name : String) (entries : List (String × FileTree)) :
    setFile content (name :: names) entries =
      setEntry name (directory (setFile content names (entriesOf (entries.lookup name)))) entries := by
  rw [setFile]
  exact hsome

/-- The name of an entry that was set leads to that entry. -/
theorem descend?_setEntry_self (name : String) (entry : FileTree)
    (entries : List (String × FileTree)) (names : List String) :
    (directory (setEntry name entry entries)).descend? (name :: names) = entry.descend? names := by
  rw [descend?_directory_cons, lookup_setEntry, if_pos rfl, Option.bind_some]

/-- Other names lead to the same thing as before an entry was set. -/
theorem descend?_setEntry_of_ne {name other : String} (h : other ≠ name) (entry : FileTree)
    (entries : List (String × FileTree)) (names : List String) :
    (directory (setEntry name entry entries)).descend? (other :: names) =
      (directory entries).descend? (other :: names) := by
  rw [descend?_directory_cons, descend?_directory_cons, lookup_setEntry, if_neg h]

/-- Nothing is inside of what is no directory. -/
theorem descend?_eq_none_of_not_directory {name : String} {entries : List (String × FileTree)}
    (h : ∀ deeper, entries.lookup name ≠ some (directory deeper)) (inside : String)
    (names : List String) : (directory entries).descend? (name :: inside :: names) = none := by
  rw [descend?_directory_cons]
  cases hentry : entries.lookup name with
  | none => rfl
  | some entry =>
    cases entry with
    | file content => exact descend?_file_cons content inside names
    | directory deeper => exact absurd hentry (h deeper)

/-- What names lead to after a file was set: to the file, to a directory as before, or to the same
    thing as before. The induction is on the names of the directory in which the file is set. -/
theorem descend?_setFile (content : ByteArray) {outer : List String} {name : String}
    {tree : FileTree} {inner : List (String × FileTree)}
    (houter : tree.descend? outer = some (directory inner))
    (hname : ∀ deeper, inner.lookup name ≠ some (directory deeper)) (other : List String) :
    let old := tree.descend? other
    let new := (directory (setFile content (outer ++ [name]) (entriesOf (some tree)))).descend? other
    other = outer ++ [name] ∧ new = some (file content) ∨
      (∃ es es', old = some (directory es) ∧ new = some (directory es') ∧
        ∀ a, (es.lookup a).isSome → (es'.lookup a).isSome) ∨
      other ≠ outer ++ [name] ∧ new = old := by
  obtain ⟨entries, rfl⟩ := exists_directory_of_descend? houter
  induction outer generalizing entries other with
  | nil =>
    obtain rfl : entries = inner := by simpa [descend?_nil] using houter
    cases other with
    | nil => exact .inr (.inl ⟨_, _, rfl, rfl, fun a h => isSome_lookup_setEntry h⟩)
    | cons a rest =>
      by_cases ha : a = name
      · subst ha
        cases rest with
        | nil => exact .inl ⟨rfl, descend?_setEntry_self a (file content) entries []⟩
        | cons b rest =>
          refine .inr (.inr ⟨by simp, ?_⟩)
          rw [descend?_eq_none_of_not_directory hname]
          exact descend?_setEntry_self a (file content) entries (b :: rest)
      · exact .inr (.inr ⟨by simp [ha], descend?_setEntry_of_ne ha (file content) entries rest⟩)
  | cons n outer ih =>
    rw [List.cons_append, setFile_cons (by simp), entriesOf]
    cases other with
    | nil => exact .inr (.inl ⟨_, _, rfl, rfl, fun a h => isSome_lookup_setEntry h⟩)
    | cons a rest =>
      by_cases ha : a = n
      · subst ha
        rw [descend?_directory_cons, Option.bind_eq_some_iff] at houter
        obtain ⟨entry, hentry, hdeeper⟩ := houter
        obtain ⟨deeper, rfl⟩ := exists_directory_of_descend? hdeeper
        rw [descend?_setEntry_self, descend?_directory_cons, hentry, Option.bind_some]
        simpa using ih rest deeper hdeeper
      · exact .inr (.inr ⟨by simp [ha], descend?_setEntry_of_ne ha _ entries rest⟩)

section SetFile

variable {tree : FileTree} {outer : List String} {name : String} {inner : List (String × FileTree)}
  (houter : tree.descend? outer = some (directory inner))
  (hname : ∀ deeper, inner.lookup name ≠ some (directory deeper))
include houter hname

/-- A place for a file holds no directory. -/
theorem not_directory_at_target (deeper : List (String × FileTree)) :
    tree.descend? (outer ++ [name]) ≠ some (directory deeper) := by
  rw [descend?_append, houter, Option.bind_some, descend?_directory_cons]
  simpa [descend?_nil] using hname deeper

/-- A file that was set is found at its place. -/
theorem descend?_setFile_self (content : ByteArray) :
    (directory (setFile content (outer ++ [name]) (entriesOf (some tree)))).descend?
      (outer ++ [name]) = some (file content) := by
  obtain ⟨-, hnew⟩ | ⟨es, -, hold, -⟩ | ⟨hne, -⟩ :=
    descend?_setFile content houter hname (outer ++ [name])
  · exact hnew
  · exact absurd hold (not_directory_at_target houter hname es)
  · exact absurd rfl hne

/-- Setting a file changes no other file. -/
theorem fileAt?_setFile_of_ne (content : ByteArray) {other : List String}
    (hother : other ≠ outer ++ [name]) :
    (directory (setFile content (outer ++ [name]) (entriesOf (some tree)))).fileAt? other =
      tree.fileAt? other := by
  rw [fileAt?, fileAt?]
  obtain ⟨heq, -⟩ | ⟨es, es', hold, hnew, -⟩ | ⟨-, hsame⟩ :=
    descend?_setFile content houter hname other
  · exact absurd heq hother
  · rw [hold, hnew]
  · rw [hsame]

/-- Setting a file keeps all directories with the names in them. -/
theorem keeps_setFile (content : ByteArray) :
    Keeps tree (directory (setFile content (outer ++ [name]) (entriesOf (some tree)))) := by
  intro place es hes
  obtain ⟨heq, -⟩ | ⟨found, es', hold, hnew, hmono⟩ | ⟨-, hsame⟩ :=
    descend?_setFile content houter hname place
  · subst heq
    exact absurd hes (not_directory_at_target houter hname es)
  · obtain rfl : es = found := by simpa [hold] using hes.symm
    exact ⟨es', hnew, hmono⟩
  · exact ⟨es, hsame.trans hes, fun _ h => h⟩

/-- No directory is made and none goes away. -/
theorem hasDirectory_setFile_iff (content : ByteArray) (place : Place) :
    HasDirectory (directory (setFile content (outer ++ [name]) (entriesOf (some tree)))) place ↔
      HasDirectory tree place := by
  obtain ⟨rfl, hnew⟩ | ⟨es, es', hold, hnew, -⟩ | ⟨-, hsame⟩ :=
    descend?_setFile content houter hname place
  · refine iff_of_false ?_ fun ⟨es, hes⟩ => not_directory_at_target houter hname es hes
    rintro ⟨es, hes⟩
    rw [hnew] at hes
    cases hes
  · exact iff_of_true ⟨es', hnew⟩ ⟨es, hold⟩
  · rw [HasDirectory, HasDirectory, hsame]

end SetFile

end RuleGraph.FileTree
