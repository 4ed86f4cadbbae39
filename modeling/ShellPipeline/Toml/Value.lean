/-!
# Values of a TOML document

A value is a string, a truth value, a number or a time, an array, or a table. A table remembers
how it was made, as that decides what may still be added to it, and tables that were added one by
one under the same name are kept apart from arrays.

Numbers and times are kept as they are written.
-/

namespace ShellPipeline.Toml

inductive Origin
  /-- Between braces: nothing may be added. -/
  | closed
  /-- By a header of its own, or it is the document. -/
  | header
  /-- On the way to the table of a header; its own header may follow. -/
  | implied
  /-- On the way to the value of a dotted key. -/
  | dotted
  deriving DecidableEq, Repr

inductive Value where
  | string (s : String)
  | boolean (b : Bool)
  | integer (literal : String)
  | float (literal : String)
  | dateTime (literal : String)
  | array (items : List Value)
  | table (origin : Origin) (entries : List (String × Value))
  /-- Tables under one name, each added by a header. -/
  | tables (elements : List (List (String × Value)))

/-- The values of a table by their names. -/
abbrev Entries := List (String × Value)

/-- The entries with a new value for a name that is there. -/
def Entries.replace (entries : Entries) (name : String) (v : Value) : Entries :=
  entries.map fun e => if e.1 == name then (name, v) else e

end ShellPipeline.Toml
