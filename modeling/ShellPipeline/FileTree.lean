import ShellPipeline.Path

/-!
# File trees

A file tree holds what lies below the root: regular files with their texts, and directories.

* `FileTree.at?`: what lies at a place;
* `FileTree.enter`: the directory that a name leads to from another one;
* `FileTree.append`: the tree with a text added to a file;
* `FileTree.changesSince`: the regular files that are new or have another text.
-/

namespace ShellPipeline

/-- What lies at a place. -/
inductive Entry
  | file (text : String)
  | directory
  deriving DecidableEq, Repr

/-- A place, by the names that lead there from the root. -/
abbrev Place := List String

/-- What lies below the root. -/
structure FileTree where
  entries : List (Place × Entry)
  deriving DecidableEq, Repr

namespace FileTree

/-- What lies at a place. A directory need not be listed if something lies below it. -/
def at? (tree : FileTree) (place : Place) : Option Entry :=
  match tree.entries.lookup place with
  | some e => some e
  | none =>
    if place = [] || tree.entries.any fun e => place.isPrefixOf e.1 then some .directory else none

/-- The directory that a name in a directory leads to. The root is its own upper directory. -/
def enter (tree : FileTree) (here : Place) (name : String) : Except OpenError Place :=
  if name = "." then .ok here
  else if name = ".." then .ok here.dropLast
  else if Path.isTooLong name then .error .nameTooLong
  else
    match tree.at? (here ++ [name]) with
    | some .directory => .ok (here ++ [name])
    | some (.file _) => .error .notDirectory
    | none => .error .notFound

/-- The regular files of a tree, with their places. -/
def files (tree : FileTree) : List (Place × String) :=
  tree.entries.filterMap fun
    | (place, .file text) => some (place, text)
    | (_, .directory) => none

/-- The regular files that are new or have another text than in an earlier tree. -/
def changesSince (tree earlier : FileTree) : List (Place × String) :=
  tree.files.filter fun f => !(earlier.files.contains f)

def add (tree : FileTree) (place : Place) (entry : Entry) : FileTree :=
  ⟨tree.entries ++ [(place, entry)]⟩

/-- The tree with a text added at the end of the file at a place, which is made if it is
missing. -/
def append (tree : FileTree) (place : Place) (text : String) : FileTree :=
  match tree.at? place with
  | some (.file old) =>
    ⟨tree.entries.map fun e => if e.1 == place then (place, .file (old ++ text)) else e⟩
  | some .directory => tree
  | none => tree.add place (.file text)

end FileTree

end ShellPipeline
