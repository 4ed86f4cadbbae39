import Std.Time.DateTime.Timestamp
import ShellPipeline.Session

/-!
# The program

Carries out a run on the files, variables and streams of the system: what is read and said, and
when, is that of `ShellPipeline.run`.
-/

namespace ShellPipeline

/-- The variables with the given names that are set. -/
def lookUp (names : List String) : IO Environment :=
  names.filterMapM fun name => return (← IO.getEnv name).map (name, ·)

/-- The home directory that is on record for the user, where the system tells who that is. -/
def homeOnRecord : IO (Option String) := do
  try
    let status ← IO.FS.lines "/proc/self/status"
    let users ← IO.FS.lines "/etc/passwd"
    let user? := status.findSome? fun line =>
      match line.splitOn "\t" with
      | "Uid:" :: user :: _ => some user
      | _ => none
    return users.findSome? fun line =>
      match line.splitOn ":" with
      | [_, _, user, _, _, home, _] => if user? = some user then some home else none
      | _ => none
  catch _ =>
    return none

/-- The overlay and its path, if it can be read. -/
def readOverlay (env : Environment) (home? : Option String) : IO (Option (String × String)) := do
  match overlayPath? env home? with
  | none => return none
  | some path =>
    try
      return some (path, ← IO.FS.readFile path)
    catch _ =>
      return none

/-- Why the system does not open a file. -/
def openReason : IO.Error → String
  | .noFileOrDirectory _ code details => details ++ " (os error " ++ code.toNat.repr ++ ")"
  | .inappropriateType _ code details => details ++ " (os error " ++ code.toNat.repr ++ ")"
  | .invalidArgument _ code details => details ++ " (os error " ++ code.toNat.repr ++ ")"
  | .permissionDenied _ code details => details ++ " (os error " ++ code.toNat.repr ++ ")"
  | e => toString e

/-- Opens the log file, whose missing directories are made; what is said if that fails goes to
standard error. -/
def openLogHandle (path : String) : IO (Option IO.FS.Handle) := do
  match Path.refusal? path with
  | some e =>
    IO.eprint (cannotOpen path e.message)
    return none
  | none =>
    try
      IO.FS.createDirAll (Path.ofString path).parent
    catch _ =>
      pure ()
    try
      return some (← IO.FS.Handle.mk path .append)
    catch e =>
      IO.eprint (cannotOpen path (openReason e))
      return none

/-- The bytes of a stream up to its end. -/
partial def readToEnd (stream : IO.FS.Stream) (read : ByteArray) : IO ByteArray := do
  let more ← stream.read 65536
  if more.isEmpty then return read else readToEnd stream (read ++ more)

/-- The time of day, in universal time. -/
def currentTime : IO String := do
  let now ← Std.Time.Timestamp.now
  return Log.timeOfDay (now.toSecondsSinceUnixEpoch.val % 86400).toNat

/-- What records of tracing name, as they are all noted where a line is read. -/
def tracePlace : String := "[ShellPipeline.Reading] "

/-- The times at which so many records are written, each to standard error and then to the log
file. -/
def stampRecords (count : Nat) : IO (Log.Stamps × Log.Stamps) := do
  let times ← (List.replicate count ()).mapM fun _ =>
    return (← currentTime, ← currentTime)
  return (⟨fun n => (times.map Prod.fst).getD n "", tracePlace⟩,
    ⟨fun n => (times.map Prod.snd).getD n "", tracePlace⟩)

/-- Shows lines, and tells whether all of them are pipelines. -/
def showAll (s : Settings) (threshold : Log.Threshold) (log : Option IO.FS.Handle) :
    List String → IO Bool
  | [] => return true
  | line :: lines => do
    let report := LineReport.ofLine s line
    let (console, file) ← stampRecords report.records.length
    if let some handle := log then
      handle.putStr (logText file threshold report.records)
    IO.eprint (report.stderr console threshold)
    IO.print report.stdout
    let rest ← showAll s threshold log lines
    return report.accepted && rest

/-- Shows the lines that the options or the input give. -/
def showLines (s : Settings) (o : Options) (onRecord? : Option String) : IO UInt32 := do
  let env ← lookUp (logPathVariables s)
  let plan := LogPlan.ofSettings s env (env.home? onRecord?)
  IO.eprint plan.complaints
  let log ← plan.path.bindM openLogHandle
  let input ← if o.lines.isEmpty then readToEnd (← IO.getStdin) .empty else pure .empty
  let lines := linesOf o input.toList
  let accepted ← showAll s plan.threshold log lines.lines
  if lines.decoded then
    return if accepted then 0 else 1
  else
    IO.eprint undecodable
    return 1

/-- Carries out a run with arguments. -/
def runProgram (arguments : List String) : IO UInt32 := do
  match Options.ofArguments arguments with
  | .error e =>
    IO.eprint (refusal e)
    return 2
  | .ok o =>
    if o.help then
      IO.println usage
      return 0
    let onRecord? ← homeOnRecord
    let env ← lookUp [overlayVariable, "HOME"]
    let overlay ← readOverlay env (env.home? onRecord?)
    let loaded := LoadedSettings.ofOverlay "it is no TOML document with these sections" overlay
    IO.eprint loaded.complaints
    let s := loaded.settings.withOptions o
    if o.dumpSettings then
      IO.print s.toToml
      return 0
    showLines s o onRecord?

end ShellPipeline

/-- Shows the structure of the lines in the arguments or in standard input. -/
def main (arguments : List String) : IO UInt32 := ShellPipeline.runProgram arguments
