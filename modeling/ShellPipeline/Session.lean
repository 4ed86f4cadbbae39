import ShellPipeline.Environment
import ShellPipeline.FileSystem
import ShellPipeline.InputLines
import ShellPipeline.Log
import ShellPipeline.Options
import ShellPipeline.Pipeline.Json
import ShellPipeline.Text.Quoted

/-!
# A run of the program

A run reads settings, opens the log, and shows one line after the other. Each line is read for
itself: its pipeline goes to standard output, its records to the log and to standard error, and
what is wrong with it to standard error.

* `showPipeline`: a pipeline as the settings want it;
* `LineReport.ofLine`: what one line gives;
* `LogPlan.ofSettings`: what is logged, and to which path;
* `run`: what a whole run gives.
-/

namespace ShellPipeline

/-! ## One line -/

/-- A stage in the text view, with a line for each redirection. -/
def Stage.textView (stage : Stage) : String :=
  stage.describe ++ "\n" ++ String.join (stage.redirections.toList.map fun r =>
    "\t" ++ r.describe ++ " is:" ++ r.stream.label ++ "\n")

/-- A pipeline as the settings want it. -/
def showPipeline (s : Settings) (p : Pipeline) : String :=
  match s.format with
  | .text => String.join (p.stages.map (·.textView))
  | .json => (if s.pretty then p.toJson.pretty else p.toJson.compact) ++ "\n"

def complaint (message : String) : String := "shpipe: " ++ message ++ "\n"

structure LineReport where
  stdout : String
  records : List Log.Record
  diagnostic : String
  accepted : Bool
  deriving DecidableEq, Repr

def LineReport.ofLine (s : Settings) (line : String) : LineReport :=
  let records := Log.readingRecords line
  match Pipeline.parse line with
  | .ok p => ⟨showPipeline s p, records, "", true⟩
  | .error e => ⟨"", records, complaint (e.message ++ "\n" ++ e.pointer line), false⟩

/-- The records that pass a threshold, as lines of a log. -/
def logText (stamps : Log.Stamps) (threshold : Log.Threshold) (records : List Log.Record) :
    String :=
  String.join ((records.filter (·.passes threshold)).zipIdx.map fun (r, n) =>
    r.line (stamps.time n) stamps.place)

/-- What a line says on standard error: its records, and then what is wrong with it. -/
def LineReport.stderr (stamps : Log.Stamps) (threshold : Log.Threshold) (r : LineReport) :
    String :=
  logText stamps threshold r.records ++ r.diagnostic

/-! ## Settings and log -/

def overlayVariable : String := "SHPIPE_CONFIG"

/-- A path below a directory, set apart by one slash. -/
def joinPath (directory path : String) : String :=
  if directory.isEmpty || directory.toList.getLast? == some '/' then directory ++ path
  else directory ++ "/" ++ path

/-- The path of the overlay: the one that a variable names, or else one in the directory that the
variable of the home directory names, even if that is empty. -/
def overlayPath? (env : Environment) (home? : Option String) : Option String :=
  match env.get? overlayVariable with
  | some path => some (expandHome home? path)
  | none => (env.get? "HOME").map (joinPath · ".config/shpipe/config.toml")

/-- Settings, and what is said against where they come from. -/
structure LoadedSettings where
  settings : Settings
  complaints : String
  deriving DecidableEq, Repr

/-- The settings with the overlay at a path, if there is one. A faulty overlay counts for nothing,
and is complained of with the given reason. -/
def LoadedSettings.ofOverlay (reason : String) : Option (String × String) → LoadedSettings
  | none => ⟨Settings.default, ""⟩
  | some (path, document) =>
    match Overlay.parse? document with
    | some o => ⟨Settings.default.apply o, ""⟩
    | none => ⟨Settings.default, complaint ("config parse error in " ++ path ++ ": " ++ reason)⟩

/-- What is logged, and where to beside standard error. -/
structure LogPlan where
  threshold : Log.Threshold
  path : Option String
  complaints : String
  deriving DecidableEq, Repr

/-- The threshold that settings name, and what is said against the name. -/
def levelOf (s : Settings) : Log.Threshold × String :=
  match Log.threshold? s.level with
  | some threshold => (threshold, "")
  | none =>
    (some .warn, complaint ("unknown log level " ++ Text.quoted s.level ++ ", using warn"))

/-- The path of the log file as it is set, without the white space around it. -/
def rawLogPath (s : Settings) : List Char := Text.trim s.file.toList

/-- The path of the log file with the values of variables in place, if there is one, and what is
said against it. A tilde counts only if it is written in the path itself. -/
def logPathOf (s : Settings) (env : Environment) (home? : Option String) :
    Option String × String :=
  let raw := rawLogPath s
  if raw.isEmpty then (none, "")
  else
    match Template.fill env (Template.parse raw) with
    | .ok path => (some (if raw.head? == some '~' then expandHome home? path else path), "")
    | .error name =>
      (none, complaint ("cannot expand log file path " ++ Text.quoted (String.ofList raw) ++
        ": error looking key '" ++ name ++ "' up: environment variable not found"))

/-- The names of the variables that the path of the log file depends on. -/
def logPathVariables (s : Settings) : List String :=
  "HOME" :: Template.names (Template.parse (rawLogPath s))

/-- What settings ask to be logged. -/
def LogPlan.ofSettings (s : Settings) (env : Environment) (home? : Option String) : LogPlan :=
  match levelOf s with
  | (none, complaints) => ⟨none, none, complaints⟩
  | (threshold, complaints) =>
    let (path, more) := logPathOf s env home?
    ⟨threshold, path, complaints ++ more⟩

/-- What is said against a log file that cannot be opened. -/
def cannotOpen (path reason : String) : String :=
  complaint ("cannot open log file " ++ path ++ ": " ++ reason)

/-- The tree and the place of the log file in it, and what is said against the file. -/
def openLogFile (system : FileSystem) : Option String → FileTree × Option Place × String
  | none => (system.tree, none, "")
  | some path =>
    match system.openLog path with
    | (tree, .ok place) => (tree, some place, "")
    | (tree, .error e) => (tree, none, cannotOpen path e.message)

/-! ## A whole run -/

structure Invocation where
  arguments : List String
  environment : Environment
  input : List UInt8
  files : FileSystem

/-- What a run leaves behind. -/
structure Outcome where
  exitCode : Nat
  stdout : String
  stderr : String
  files : FileTree
  deriving DecidableEq, Repr

/-- What is said about an input that is not UTF-8. -/
def undecodable : String :=
  complaint "failed to read stdin: stream did not contain valid UTF-8"

/-- The lines of a run: its arguments, or if there are none those of its input. -/
def linesOf (o : Options) (input : List UInt8) : InputLines :=
  if o.lines.isEmpty then InputLines.ofBytes input else ⟨o.lines, true⟩

def Invocation.home? (i : Invocation) : Option String := i.environment.home? i.files.home?

/-- The settings of a run, as far as its environment and files say. -/
def Invocation.settings (i : Invocation) (reason : String) : LoadedSettings :=
  LoadedSettings.ofOverlay reason
    ((overlayPath? i.environment i.home?).bind fun path => (i.files.read? path).map (path, ·))

/-- What a run gives that shows lines. -/
def Invocation.showLines (i : Invocation) (sinks : Log.Sinks) (s : Settings)
    (lines : InputLines) : Outcome :=
  let plan := LogPlan.ofSettings s i.environment i.home?
  let (tree, place?, more) := openLogFile i.files plan.path
  let reports := lines.lines.map (LineReport.ofLine s)
  let log := String.join (reports.zipIdx.map fun (r, n) =>
    logText (sinks.file n) plan.threshold r.records)
  { exitCode := if lines.decoded && reports.all (·.accepted) then 0 else 1
    stdout := String.join (reports.map (·.stdout))
    stderr := plan.complaints ++ more ++
      String.join (reports.zipIdx.map fun (r, n) =>
        r.stderr (sinks.console n) plan.threshold) ++
      (if lines.decoded then "" else undecodable)
    files := match place? with
      | some place => tree.append place log
      | none => tree }

def refusal (e : OptionError) : String := complaint (e.message ++ "\n\n" ++ usage)

/-- What a run gives, where `sinks` is what is written beside its records, and `reason` what is said
against a faulty overlay. -/
def run (sinks : Log.Sinks) (reason : String) (i : Invocation) : Outcome :=
  match Options.ofArguments i.arguments with
  | .error e => ⟨2, "", refusal e, i.files.tree⟩
  | .ok o =>
    if o.help then ⟨0, usage ++ "\n", "", i.files.tree⟩
    else
      let loaded := i.settings reason
      let s := loaded.settings.withOptions o
      if o.dumpSettings then ⟨0, s.toToml, loaded.complaints, i.files.tree⟩
      else
        let shown := i.showLines sinks s (linesOf o i.input)
        { shown with stderr := loaded.complaints ++ shown.stderr }

end ShellPipeline
