import RuleGraph.FileTree

namespace RuleGraph

/-- Why a file cannot be read or written. -/
inductive FileError where
  | notFound
  | notDirectory
  | isDirectory
  | permissionDenied
  | nameTooLong
  /-- No name of a file has a character zero in it. -/
  | zeroInName
  deriving Repr, DecidableEq

/-- The text of the error. -/
def FileError.message : FileError → String
  | notFound => "No such file or directory (os error 2)"
  | notDirectory => "Not a directory (os error 20)"
  | isDirectory => "Is a directory (os error 21)"
  | permissionDenied => "Permission denied (os error 13)"
  | nameTooLong => "File name too long (os error 36)"
  | zeroInName => "file name contained an unexpected NUL byte"

/-- What a program may do at which places. -/
structure Rights where
  /-- Where it may go on through a directory. -/
  enter : Place → Bool := fun _ => true
  /-- Where it may read what is there. -/
  read : Place → Bool := fun _ => true
  /-- Where it may write a file, over an old one or a new one in its directory. -/
  write : Place → Bool := fun _ => true

/-- Files and directories as a program sees them. -/
structure FileSystem where
  /-- The root directory. -/
  tree : FileTree
  /-- The directory that paths begin in unless they begin with a slash. -/
  workingDirectory : Place := []
  /-- What the program may do. -/
  rights : Rights := {}

namespace FileSystem

open FileTree

/-- The place one step from a directory with the given entries. Something has to be there. The root
    directory is its own parent. -/
def step (rights : Rights) (place : Place) (entries : List (String × FileTree)) (name : String) :
    Except FileError Place :=
  if name = "" then .ok place
  else if !rights.enter place then .error .permissionDenied
  else if name = "." then .ok place
  else if name = ".." then .ok place.dropLast
  else if 255 < name.utf8ByteSize then .error .nameTooLong
  else if (entries.lookup name).isSome then .ok (place ++ [name])
  else .error .notFound

/-- The place that steps lead to. Each of them starts from a directory. -/
def walk (system : FileSystem) (place : Place) : List String → Except FileError Place
  | [] => .ok place
  | name :: names =>
    match system.tree.descend? place with
    | some (directory entries) =>
      match step system.rights place entries name with
      | .ok place => system.walk place names
      | .error e => .error e
    | some (file _) => .error .notDirectory
    | none => .error .notFound

/-- Where a path begins. -/
def pathStart (system : FileSystem) (path : String) : Place :=
  if path.toList.head? = some '/' then [] else system.workingDirectory

/-- What is wrong with a path whatever there is. -/
def pathError? (path : String) : Option FileError :=
  if '\x00' ∈ path.toList then some .zeroInName
  else if path = "" then some .notFound
  else if 4096 ≤ path.utf8ByteSize then some .nameTooLong
  else none

/-- The place that a path leads to. -/
def resolve (system : FileSystem) (path : String) : Except FileError Place :=
  match pathError? path with
  | some e => .error e
  | none => system.walk (system.pathStart path) (pathSteps path)

/-- Whether a path leads to anything. -/
def hasPath (system : FileSystem) (path : String) : Bool :=
  match system.resolve path with
  | .ok _ => true
  | .error _ => false

/-- The content of the file that a path leads to. -/
def read (system : FileSystem) (path : String) : Except FileError ByteArray :=
  match system.resolve path with
  | .error e => .error e
  | .ok place =>
    if !system.rights.read place then .error .permissionDenied
    else
      match system.tree.descend? place with
      | some (file content) => .ok content
      | some (directory _) => .error .isDirectory
      | none => .error .notFound

/-- The place of the file that a write to `name` goes to, in the directory at `place`. -/
def target (system : FileSystem) (place : Place) (name : String) : Except FileError Place :=
  match system.tree.descend? place with
  | some (directory entries) =>
    if !system.rights.enter place then .error .permissionDenied
    else if name ∈ ["", ".", ".."] then .error .isDirectory
    else if 255 < name.utf8ByteSize then .error .nameTooLong
    else
      match entries.lookup name with
      | some (directory _) => .error .isDirectory
      | _ =>
        if !system.rights.write (place ++ [name]) then .error .permissionDenied
        else .ok (place ++ [name])
  | some (file _) => .error .notDirectory
  | none => .error .notFound

/-- The place of the file that a write to a path goes to. A path that ends in a slash asks for a
    directory, even one that is not there. -/
def destination (system : FileSystem) (path : String) : Except FileError Place :=
  match pathError? path with
  | some e => .error e
  | none =>
    let steps := pathSteps path
    let name := steps.getLast?.getD ""
    let outer := if name = "" then (steps.reverse.dropWhile (· = "")).reverse else steps
    (system.walk (system.pathStart path) outer.dropLast).bind fun place => system.target place name

/-- The files after one of them was set, over the old content if there was a file. -/
def set (system : FileSystem) (place : Place) (content : ByteArray) : FileSystem :=
  { system with tree := directory (setFile content place (entriesOf (some system.tree))) }

/-- The files after a content was written to a path. -/
def write (system : FileSystem) (path : String) (content : ByteArray) :
    Except FileError FileSystem :=
  (system.destination path).map fun place => system.set place content

end FileSystem

end RuleGraph
