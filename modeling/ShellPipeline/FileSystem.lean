import ShellPipeline.FileTree

/-!
# Files as a process finds them

A process finds a tree of files and works in one of its directories, where the paths begin that do
not begin at the root. Some of the files and directories it may not write to.

* `FileSystem.read?`: the text of the file at a path;
* `FileSystem.openLog`: the place at which a log file may be written, or why it cannot be opened,
  and the tree with the directories that are made for it.
-/

namespace ShellPipeline

/-- What a process finds on its system. -/
structure FileSystem where
  tree : FileTree
  /-- The working directory. -/
  directory : Place
  /-- The files and directories that may not be written to. -/
  readOnly : List Place
  /-- The home directory that is on record for the user. -/
  home? : Option String
  deriving DecidableEq, Repr

/-- A tree whose root is the working directory, and in which everything may be written. -/
instance : Coe FileTree FileSystem := ⟨fun tree => ⟨tree, [], [], none⟩⟩

instance : Coe FileSystem FileTree := ⟨FileSystem.tree⟩

/-- Where the names of a path begin to lead. -/
def Path.origin (p : Path) (directory : Place) : Place := if p.absolute then [] else directory

namespace FileSystem

/-- The text of the file at a path. -/
def read? (system : FileSystem) (path : String) : Option String :=
  let p := Path.ofString path
  match Path.refusal? path, p.names.getLast? with
  | none, some name =>
    match p.names.dropLast.foldlM system.tree.enter (p.origin system.directory) with
    | .ok here =>
      match system.tree.at? (here ++ [name]) with
      | some (.file text) => if p.trailingSlash then none else some text
      | _ => none
    | .error _ => none
  | _, _ => none

/-- The directory that names lead to from another one, in the tree with those that were missing.
Where it cannot be reached, what was made before is kept. -/
def makeAll (readOnly : List Place) (tree : FileTree) (here : Place) :
    List String → FileTree × Except OpenError Place
  | [] => (tree, .ok here)
  | name :: names =>
    match tree.enter here name with
    | .ok there => makeAll readOnly tree there names
    | .error .notFound =>
      if readOnly.contains here then (tree, .error .notFound)
      else makeAll readOnly (tree.add (here ++ [name]) .directory) (here ++ [name]) names
    | .error e => (tree, .error e)

/-- Why the last name of a path, in the directory before it, is not opened for writing. It must not
be one of a directory. -/
def refusal? (readOnly : List Place) (tree : FileTree) (here : Place) (p : Path)
    (name : String) : Option OpenError :=
  if name = ".." then some .isDirectory
  else if p.ownNames.length < p.names.length then
    match tree.enter here name with
    | .ok _ => some .isDirectory
    | .error e => some e
  else if p.trailingSlash then some .isDirectory
  else if Path.isTooLong name then some .nameTooLong
  else
    match tree.at? (here ++ [name]) with
    | some .directory => some .isDirectory
    | some (.file _) => if readOnly.contains (here ++ [name]) then some .permissionDenied else none
    | none => if readOnly.contains here then some .permissionDenied else none

/-- The place of the log file at a path, in the tree with the directories before it. -/
def openLog (system : FileSystem) (path : String) : FileTree × Except OpenError Place :=
  let p := Path.ofString path
  match Path.refusal? path, p.ownNames.getLast? with
  | some e, _ => (system.tree, .error e)
  | none, none => (system.tree, .error .isDirectory)
  | none, some name =>
    match makeAll system.readOnly system.tree (p.origin system.directory) p.ownNames.dropLast with
    | (tree, .error e) => (tree, .error e)
    | (tree, .ok here) =>
      match refusal? system.readOnly tree here p name with
      | some e => (tree, .error e)
      | none => (tree, .ok (here ++ [name]))

end FileSystem

end ShellPipeline
