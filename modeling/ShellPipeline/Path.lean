import ShellPipeline.Text.Bytes

/-!
# Paths

A path is a list of names between slashes. It may begin at the root, and it may end with a slash;
then it names a directory.
-/

namespace ShellPipeline

/-- Why a file cannot be opened. -/
inductive OpenError
  | notFound
  | notDirectory
  | isDirectory
  | permissionDenied
  | nameTooLong
  | nulInPath
  deriving DecidableEq, Repr

def OpenError.message : OpenError → String
  | .notFound => "No such file or directory (os error 2)"
  | .notDirectory => "Not a directory (os error 20)"
  | .isDirectory => "Is a directory (os error 21)"
  | .permissionDenied => "Permission denied (os error 13)"
  | .nameTooLong => "File name too long (os error 36)"
  | .nulInPath => "file name contained an unexpected NUL byte"

/-- A path as it is walked. -/
structure Path where
  absolute : Bool
  /-- The names in it, those for the same and the upper directory included. -/
  names : List String
  trailingSlash : Bool
  deriving DecidableEq, Repr

namespace Path

def maxNameBytes : Nat := 255

/-- The number of bytes that a path stays below. -/
def maxBytes : Nat := 4096

def ofString (path : String) : Path :=
  ⟨path.toList.head? == some '/',
    ((path.toList.splitOn '/').filter (· ≠ [])).map String.ofList,
    path.toList.getLast? == some '/'⟩

/-- Why a path is refused before it is walked. -/
def refusal? (path : String) : Option OpenError :=
  if path.toList.contains '\x00' then some .nulInPath
  else if path.isEmpty then some .notFound
  else if maxBytes ≤ Text.byteLength path.toList then some .nameTooLong
  else none

def isTooLong (name : String) : Bool := maxNameBytes < Text.byteLength name.toList

/-- The names without those at the end that stand for the directory before them. -/
def ownNames (p : Path) : List String := (p.names.reverse.dropWhile (· == ".")).reverse

/-- The path of the directory that holds what a path names; empty for the working directory. -/
def parent (p : Path) : String :=
  (if p.absolute then "/" else "") ++ "/".intercalate p.ownNames.dropLast

end Path

end ShellPipeline
