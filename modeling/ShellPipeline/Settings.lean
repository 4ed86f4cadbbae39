import ShellPipeline.Toml.Document

/-!
# Settings

How lines are shown and what is logged. The settings are those of a document of defaults, changed
by an overlay: a TOML document with the sections `output` and `logging`, of which every part may
be missing.

* `Settings.parse?`: a document read as complete settings, with a value for each missing field;
* `Overlay.parse?`: a document read as what it changes;
* `Settings.default`: the settings of the document of defaults;
* `Settings.apply`: settings changed by an overlay;
* `Settings.toToml`: settings as a document.

Names that are not known are passed over, with whatever values they have.
-/

namespace ShellPipeline

/-- How a pipeline is shown. -/
inductive Format
  /-- One line for each stage and each redirection. -/
  | text
  | json
  deriving DecidableEq, Repr

def Format.name : Format → String
  | .text => "text"
  | .json => "json"

def Format.ofName? : String → Option Format
  | "text" => some .text
  | "json" => some .json
  | _ => none

theorem Format.ofName?_name (f : Format) : ofName? f.name = some f := by cases f <;> rfl

/-- How lines are shown and what is logged. -/
structure Settings where
  format : Format
  /-- Whether JSON is written with one item a line. -/
  pretty : Bool
  /-- The name of the least grave level that is logged. -/
  level : String
  /-- The path of the log file as it is set; none is written if it is blank. -/
  file : String
  deriving DecidableEq, Repr

/-- What each field is where a document does not give it. -/
def Settings.unset : Settings := ⟨.text, false, "warn", ""⟩

structure Overlay where
  format : Option Format
  pretty : Option Bool
  level : Option String
  file : Option String
  deriving DecidableEq, Repr

def Overlay.empty : Overlay := ⟨none, none, none, none⟩

def Settings.apply (s : Settings) (o : Overlay) : Settings :=
  ⟨o.format.getD s.format, o.pretty.getD s.pretty, o.level.getD s.level, o.file.getD s.file⟩

/-! ## Values of settings -/

/-- Whether a value holds nothing: a table or an array without entries. -/
def isEmptyValue : Toml.Value → Bool
  | .table _ [] => true
  | .array [] => true
  | .tables [] => true
  | _ => false

/-- The format that a value names: by a string, or by the one name of a table, which holds
nothing. -/
def Format.ofValue? : Toml.Value → Option Format
  | .string s => ofName? s
  | .table _ [(name, v)] => if isEmptyValue v then ofName? name else none
  | _ => none

def boolean? : Toml.Value → Option Bool
  | .boolean b => some b
  | _ => none

def string? : Toml.Value → Option String
  | .string s => some s
  | _ => none

/-- A section of a document: fields by name, or fields in their order. -/
inductive Fields
  | named (entries : Toml.Entries)
  | listed (items : List Toml.Value)

/-- The section that a value is. A time is a section in which no known field is named. -/
def Fields.ofValue? : Toml.Value → Option Fields
  | .table _ entries => some (.named entries)
  | .dateTime _ => some (.named [])
  | .array items => some (.listed items)
  | .tables elements => some (.listed (elements.map (.table .header)))
  | _ => none

/-- The value of a field, by its name or by its place. -/
def Fields.get? (fields : Fields) (place : Nat) (name : String) : Option Toml.Value :=
  match fields with
  | .named entries => entries.lookup name
  | .listed items => items[place]?

/-- Whether as many fields are listed as there are. -/
def Fields.isFull (count : Nat) : Fields → Bool
  | .named _ => true
  | .listed items => count ≤ items.length

/-- The section of a document with a name; one that is missing names no field. -/
def section? (document : Toml.Entries) (name : String) : Option Fields :=
  match document.lookup name with
  | none => some (.named [])
  | some v => Fields.ofValue? v

/-- A field read as what it has to be, with a value for a missing one. -/
def readFieldOr? {α : Type} (read? : Toml.Value → Option α) (missing : α) (fields : Fields)
    (place : Nat) (name : String) : Option α :=
  match fields.get? place name with
  | none => some missing
  | some v => read? v

/-- A field read as what it has to be; none if it is missing. -/
def readField? {α : Type} (read? : Toml.Value → Option α) (fields : Fields) (place : Nat)
    (name : String) : Option (Option α) :=
  match fields.get? place name with
  | none => some none
  | some v => (read? v).map some

def Settings.ofFields? (output logging : Fields) : Option Settings := do
  let format ← readFieldOr? Format.ofValue? unset.format output 0 "format"
  let pretty ← readFieldOr? boolean? unset.pretty output 1 "pretty"
  let level ← readFieldOr? string? unset.level logging 0 "level"
  let file ← readFieldOr? string? unset.file logging 1 "file"
  return ⟨format, pretty, level, file⟩

def Overlay.ofFields? (output logging : Fields) : Option Overlay := do
  let format ← readField? Format.ofValue? output 0 "format"
  let pretty ← readField? boolean? output 1 "pretty"
  let level ← readField? string? logging 0 "level"
  let file ← readField? string? logging 1 "file"
  return ⟨format, pretty, level, file⟩

/-! ## Documents -/

/-- A document read as what it changes. A section whose fields are listed lists all of them. -/
def Overlay.ofToml? (document : Toml.Entries) : Option Overlay := do
  let output ← section? document "output"
  let logging ← section? document "logging"
  if output.isFull 2 && logging.isFull 2 then Overlay.ofFields? output logging else none

/-- A document read as complete settings. -/
def Settings.ofToml? (document : Toml.Entries) : Option Settings := do
  let output ← section? document "output"
  let logging ← section? document "logging"
  Settings.ofFields? output logging

/-- What a document changes; none if it is no document or a field is not what it has to be. -/
def Overlay.parse? (document : String) : Option Overlay :=
  (Toml.parse? document).bind Overlay.ofToml?

def Settings.parse? (document : String) : Option Settings :=
  (Toml.parse? document).bind Settings.ofToml?

/-- The document of the defaults. -/
def Settings.defaultDocument : String :=
  "# shpipe default configuration.\n" ++
  "# Override any value in ~/.config/shpipe/config.toml (or $SHPIPE_CONFIG).\n\n" ++
  "[output]\n" ++
  "# \"text\" prints the Proc(...) view, \"json\" prints the parsed pipeline.\n" ++
  "format = \"text\"\n" ++
  "pretty = false\n\n" ++
  "[logging]\n" ++
  "# off, error, warn, info, debug, trace\n" ++
  "level = \"warn\"\n" ++
  "# Empty disables the log file. `~` is expanded.\n" ++
  "file = \"\"\n"

/-- The settings before any overlay. -/
def Settings.default : Settings := (parse? defaultDocument).getD unset

/-- The settings with the overlay of a document, or the defaults if it is faulty. -/
def Settings.load (document : String) : Settings :=
  match Overlay.parse? document with
  | some o => Settings.default.apply o
  | none => Settings.default

def Settings.toToml (s : Settings) : String :=
  "[output]\nformat = " ++ Toml.quote s.format.name ++
    "\npretty = " ++ (if s.pretty then "true" else "false") ++
    "\n\n[logging]\nlevel = " ++ Toml.quote s.level ++
    "\nfile = " ++ Toml.quote s.file ++ "\n"

end ShellPipeline
