import ShellPipeline.Toml.Key
import ShellPipeline.Toml.Value

/-!
# Tables of a TOML document

A document is one table, filled by its statements in order. A name is given a value once, a table
has one header, and a table between braces is complete; `Entries.assign?`, `Entries.openTable?`
and `Entries.appendTable?` refuse what breaks these rules.
-/

namespace ShellPipeline.Toml

/-- Whether a table made on the way to another may be passed through a table of the origin: none
is completed from outside that was made between braces, and a dotted key does not add to a table
that has a header. -/
def Origin.admits (passed made : Origin) : Bool :=
  passed != .closed && !(made == .dotted && passed == .header)

/-- Changes the table that the names lead to; tables missing on the way are made, and of tables
under one name the last one is taken. The change is told the origin of its table. -/
def Entries.update? (made : Origin) (change : Origin → Entries → Option Entries) :
    List String → Origin → Entries → Option Entries
  | [], origin, entries => change origin entries
  | name :: names, _, entries =>
    match entries.lookup name with
    | none =>
      (update? made change names made []).map fun inner => entries ++ [(name, .table made inner)]
    | some (.table origin inner) =>
      if origin.admits made then
        (update? made change names origin inner).map fun inner' =>
          entries.replace name (.table origin inner')
      else none
    | some (.tables elements) =>
      match elements.getLast? with
      | none => none
      | some inner =>
        (update? made change names .header inner).map fun inner' =>
          entries.replace name (.tables (elements.dropLast ++ [inner']))
    | some _ => none

/-- The entries with a value for a name that has none. -/
def Entries.put? (entries : Entries) (name : String) (v : Value) : Option Entries :=
  match entries.lookup name with
  | none => some (entries ++ [(name, v)])
  | some _ => none

/-- Gives a key its value. The tables that a dotted key leads through are its own kind. -/
def Entries.assign? (key : Key) (v : Value) (origin : Origin) (entries : Entries) :
    Option Entries :=
  entries.update? .dotted
    (fun origin inner =>
      if key.parents = [] || origin == .dotted then inner.put? key.name v else none)
    key.parents origin

/-- Makes the table of a header, which may have been implied by the header of another. -/
def Entries.openTable? (key : Key) (entries : Entries) : Option Entries :=
  entries.update? .implied
    (fun _ inner =>
      match inner.lookup key.name with
      | none => some (inner ++ [(key.name, .table .header [])])
      | some (.table .implied own) => some (inner.replace key.name (.table .header own))
      | some _ => none)
    key.parents .header

/-- Makes one more table under the name of a header. -/
def Entries.appendTable? (key : Key) (entries : Entries) : Option Entries :=
  entries.update? .implied
    (fun _ inner =>
      match inner.lookup key.name with
      | none => some (inner ++ [(key.name, .tables [[]])])
      | some (.tables elements) => some (inner.replace key.name (.tables (elements ++ [[]])))
      | some _ => none)
    key.parents .header

/-- The entries of a table between braces. -/
def Entries.ofPairs? (pairs : List (Key × Value)) : Option Entries :=
  pairs.foldlM (fun entries (key, v) => Entries.assign? key v .header entries) []

inductive Statement
  /-- A key and its value, in the table of the header above. -/
  | pair (key : Key) (value : Value)
  | table (key : Key)
  /-- The header of one more table under a name. -/
  | tables (key : Key)

/-- A document as far as its statements have been carried out. -/
structure Progress where
  /-- The names that lead to the table of the last header. -/
  current : List String
  entries : Entries

def Progress.step? (p : Progress) : Statement → Option Progress
  | .pair key v =>
    (p.entries.update? .implied (Entries.assign? key v) p.current .header).map
      fun entries => { p with entries }
  | .table key => (p.entries.openTable? key).map fun entries => ⟨key.names, entries⟩
  | .tables key => (p.entries.appendTable? key).map fun entries => ⟨key.names, entries⟩

def Entries.ofStatements? (statements : List Statement) : Option Entries :=
  (statements.foldlM Progress.step? ⟨[], []⟩).map (·.entries)

end ShellPipeline.Toml
