import ShellPipeline.Redirection.Set

/-!
# Pipelines

A command is a program with its arguments, a stage is a command with its redirections, run by one
process, and a pipeline holds the stages of a line from left to right, of which there is at least
one.

Words are kept as they are written, quotes included. `Command.argv` gives them without the quotes,
and `Pipeline.toLine` writes a pipeline as a line again.
-/

namespace ShellPipeline

structure Command where
  program : String
  arguments : List String
  deriving DecidableEq, Repr

namespace Command

/-- A word without its double quotes. -/
def unquote (word : String) : String := String.ofList (word.toList.filter (· != '"'))

/-- The program as it is written, and the arguments without their quotes. -/
def argv (c : Command) : List String := c.program :: c.arguments.map unquote

def describe (c : Command) : String :=
  c.program ++ " [" ++ " ".intercalate c.arguments ++ "]"

end Command

structure Stage where
  command : Command
  redirections : RedirectionSet
  deriving DecidableEq, Repr

namespace Stage

/-- The stage as a part of a line, its words set apart by single spaces. -/
def toLine (p : Stage) : String :=
  " ".intercalate
    (p.command.program :: p.command.arguments ++ p.redirections.toList.map (·.toLine))

/-- The stage as the text view shows it. -/
def describe (p : Stage) : String :=
  "Proc(cmd=" ++ p.command.describe ++ ", redirs=[" ++ p.redirections.describe ++ "])"

end Stage

/-- The stages of a line from left to right. -/
structure Pipeline where
  stages : List Stage
  ne_nil : stages ≠ []
  deriving DecidableEq, Repr

namespace Pipeline

def size (p : Pipeline) : Nat := p.stages.length

def first (p : Pipeline) : Stage := p.stages.head p.ne_nil

def last (p : Pipeline) : Stage := p.stages.getLast p.ne_nil

/-- The line that spells out the pipeline with single spaces. -/
def toLine (p : Pipeline) : String := " | ".intercalate (p.stages.map (·.toLine))

@[ext] theorem ext {p q : Pipeline} (h : p.stages = q.stages) : p = q := by
  cases p
  cases q
  cases h
  rfl

end Pipeline

end ShellPipeline
