import ShellPipeline.Operator

/-!
# Redirections

A redirection reroutes one stream of a process. Its operator says which stream and how: doubled,
an operator for output or error appends to the file, and the one for input takes what follows in
place, up to the line that holds the keyword.
-/

namespace ShellPipeline

/-- Where a stream is sent to, or taken from. -/
structure Target where
  /-- Whether the angle of the operator is doubled. -/
  doubled : Bool
  /-- The file, or the keyword that ends a here-document. -/
  filespec : String
  deriving DecidableEq, Repr

/-- One rerouting of a stream. -/
structure Redirection extends Target where
  stream : Stream
  deriving DecidableEq, Repr

namespace Redirection

def operator (r : Redirection) : Operator := .redirect r.stream r.doubled

def isAppend (r : Redirection) : Bool := r.doubled && r.stream != .input

def isHere (r : Redirection) : Bool := r.doubled && r.stream == .input

/-- The redirection as a part of a line. -/
def toLine (r : Redirection) : String := r.operator.symbol ++ " " ++ r.filespec

def describe (r : Redirection) : String :=
  let flag := if r.isAppend then ",append=true" else if r.isHere then ",here=true" else ""
  r.stream.title ++ "(" ++ r.filespec ++ flag ++ ")"

end Redirection

end ShellPipeline
