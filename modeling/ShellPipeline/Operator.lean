/-!
# Operators

The operators of a line: the pipe between two stages, and the six that redirect a stream.

`Operator.split?` reads the operator at the start of a text. It reads what is written
(`split?_eq_some`), and of two operators that fit it takes the longer one, as its patterns name
every operator before the operators that begin it.
-/

namespace ShellPipeline

/-- A standard stream of a process, in the order in which redirections are listed. -/
inductive Stream
  | output
  | error
  | input
  deriving DecidableEq, Repr

namespace Stream

def all : List Stream := [.output, .error, .input]

theorem mem_all (s : Stream) : s ∈ all := by cases s <;> decide

def key : Stream → String
  | .output => "output"
  | .error => "error"
  | .input => "input"

def title : Stream → String
  | .output => "Output"
  | .error => "Error"
  | .input => "Input"

def label : Stream → String
  | .output => "OUTPUT"
  | .error => "ERROR"
  | .input => "INPUT"

end Stream

/-- An operator of a line. -/
inductive Operator
  /-- `|` sends the output of one stage to the next. -/
  | pipe
  /-- An angle that redirects a stream; it may be doubled. -/
  | redirect (stream : Stream) (doubled : Bool)
  deriving DecidableEq, Repr

namespace Operator

def symbol : Operator → String
  | .pipe => "|"
  | .redirect .output false => ">"
  | .redirect .output true => ">>"
  | .redirect .error false => "2>"
  | .redirect .error true => "2>>"
  | .redirect .input false => "<"
  | .redirect .input true => "<<"

/-- The operator at the start of a text, the longest that fits, and what follows it. -/
def split? : List Char → Option (Operator × List Char)
  | '2' :: '>' :: '>' :: s => some (.redirect .error true, s)
  | '2' :: '>' :: s => some (.redirect .error false, s)
  | '<' :: '<' :: s => some (.redirect .input true, s)
  | '<' :: s => some (.redirect .input false, s)
  | '>' :: '>' :: s => some (.redirect .output true, s)
  | '>' :: s => some (.redirect .output false, s)
  | '|' :: s => some (.pipe, s)
  | _ => none

theorem split?_eq_some {s r : List Char} {op : Operator} (h : split? s = some (op, r)) :
    s = op.symbol.toList ++ r := by
  unfold split? at h
  split at h <;> cases h <;> rfl

theorem symbol_toList_ne_nil (op : Operator) : op.symbol.toList ≠ [] := by
  rcases op with _ | ⟨_ | _ | _, _ | _⟩ <;> decide

end Operator

end ShellPipeline
