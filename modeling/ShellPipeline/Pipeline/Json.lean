import ShellPipeline.Json
import ShellPipeline.Pipeline

/-!
# Pipelines as JSON

A pipeline is an object with the list of its stages; a redirection names its stream, its
target, and the flag that its operator gives it.
-/

namespace ShellPipeline

/-- The flag of a redirection: whether it appends, or for input whether it is a here-document. -/
def Redirection.flagKey (r : Redirection) : String :=
  match r.stream with
  | .output => "append"
  | .error => "append"
  | .input => "here"

def Redirection.toJson (r : Redirection) : Json :=
  .object [("kind", .string r.stream.key), ("filespec", .string r.filespec),
    (r.flagKey, .bool r.doubled)]

def RedirectionSet.toJson (set : RedirectionSet) : Json :=
  .array (set.toList.map (·.toJson))

def Command.toJson (c : Command) : Json :=
  .object [("program", .string c.program), ("args", .array (c.arguments.map .string))]

def Stage.toJson (p : Stage) : Json :=
  .object [("command", p.command.toJson), ("redirections", p.redirections.toJson)]

def Pipeline.toJson (p : Pipeline) : Json :=
  .object [("processes", .array (p.stages.map (·.toJson)))]

end ShellPipeline
