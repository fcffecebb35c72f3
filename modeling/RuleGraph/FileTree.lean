import RuleGraph.Entries

namespace RuleGraph

/-- A file or a directory. -/
inductive FileTree where
  | file (content : ByteArray)
  | directory (entries : List (String × FileTree))

/-- Where a file or a directory is: the names that lead to it from the root directory, one inside
    the other. -/
abbrev Place := List String

namespace FileTree

/-- What is in a directory, nothing if there is none. -/
def entriesOf : Option FileTree → List (String × FileTree)
  | some (directory entries) => entries
  | _ => []

/-- What names lead to, one after the other. -/
def descend? : FileTree → Place → Option FileTree
  | tree, [] => some tree
  | file _, _ :: _ => none
  | directory entries, name :: names =>
    match entries.lookup name with
    | some entry => entry.descend? names
    | none => none

/-- Puts a file where names lead to, one after the other. Directories that are missing are made. -/
def setFile (content : ByteArray) :
    Place → List (String × FileTree) → List (String × FileTree)
  | [], entries => entries
  | [name], entries => setEntry name (file content) entries
  | name :: names, entries =>
    setEntry name (directory (setFile content names (entriesOf (entries.lookup name)))) entries

/-- The steps of a path: what stands between its slashes. -/
def pathSteps (path : String) : List String :=
  (path.toList.splitOn '/').map String.ofList

/-- A directory with the given files in it, each with its path. -/
def ofFiles (files : List (String × ByteArray)) : FileTree :=
  directory (files.foldl (fun entries (path, content) =>
    setFile content (pathSteps path) entries) [])

mutual

/-- All files behind a path that leads to `tree`. -/
def filesFrom (path : Place) : FileTree → List (String × ByteArray)
  | file content => [("/".intercalate path, content)]
  | directory entries => filesIn path entries

/-- All files in a directory that a path leads to. -/
def filesIn (path : Place) : List (String × FileTree) → List (String × ByteArray)
  | [] => []
  | (name, tree) :: entries => tree.filesFrom (path ++ [name]) ++ filesIn path entries

end

/-- All files with their paths, in the order of the paths. -/
def files (tree : FileTree) : List (String × ByteArray) :=
  sortEntries (tree.filesFrom [])

/-- The files of `after` that `before` does not have, or has with another content. -/
def changes (before after : FileTree) : List (String × ByteArray) :=
  after.files.filter fun entry => !before.files.contains entry

end FileTree

end RuleGraph
