import ShellPipeline.Diagnostic
import ShellPipeline.Reading
import ShellPipeline.Text.Quoted

/-!
# Log records

What is noted while a line is read: at the level of tracing each token that is read, at the level
of debugging what is made of the tokens, and at the end one record that says whether the line was
read as a pipeline.

* `Log.readingRecords`: the records of a line, in order;
* `Log.Record.passes`: whether a record is written at a threshold;
* `Log.Record.line`: a record as it is written;
* `Log.Sinks`: what is written beside the records of a run in the two places that they go to;
* `Log.threshold?`: the thresholds by name, in letters of either case.
-/

namespace ShellPipeline.Log

/-- How grave a record is, the gravest first. -/
inductive Level
  | error
  | warn
  | info
  | debug
  | trace
  deriving DecidableEq, Repr

/-- The place of a level; graver levels come first. -/
def Level.rank : Level → Nat
  | .error => 1
  | .warn => 2
  | .info => 3
  | .debug => 4
  | .trace => 5

def Level.label : Level → String
  | .error => "ERROR"
  | .warn => "WARN"
  | .info => "INFO"
  | .debug => "DEBUG"
  | .trace => "TRACE"

/-- What is noted at one moment. -/
structure Record where
  level : Level
  /-- The part of the program that notes it. -/
  target : String
  message : String
  deriving DecidableEq, Repr

/-- The least grave level that is written; none if nothing is written. -/
abbrev Threshold := Option Level

/-- Whether a record is grave enough to be written. -/
def Record.passes (threshold : Threshold) (r : Record) : Bool :=
  match threshold with
  | none => false
  | some level => r.level.rank ≤ level.rank

/-- A number below one hundred in two digits. -/
def twoDigits (n : Nat) : String := if n < 10 then "0" ++ n.repr else n.repr

/-- The time of day at so many seconds of a day that began at midnight. -/
def timeOfDay (seconds : Nat) : String :=
  twoDigits (seconds / 3600 % 24) ++ ":" ++ twoDigits (seconds / 60 % 60) ++ ":" ++
    twoDigits (seconds % 60)

/-- A record as a line of a log, written at a time. A record of tracing also names a place in the
program. -/
def Record.line (time place : String) (r : Record) : String :=
  time ++ " [" ++ r.level.label ++ "] " ++ r.target ++ ": " ++
    (if r.level = .trace then place else "") ++ r.message ++ "\n"

/-- What is written beside the records of one line. -/
structure Stamps where
  /-- The time at which a record is written, by its number among the records that are. -/
  time : Nat → String
  /-- The place in the program at which tokens are noted. -/
  place : String

/-- What is written beside the records of a run, by the number of the line. Each record goes first
to standard error and then to the log file, and the time is taken for each of them. -/
structure Sinks where
  console : Nat → Stamps
  file : Nat → Stamps

/-- One time for all records. -/
instance : Coe String Stamps := ⟨fun time => ⟨fun _ => time, ""⟩⟩

instance : Coe String Sinks := ⟨fun time => ⟨fun _ => time, fun _ => time⟩⟩

/-- The threshold with a name, which may be written in letters of either case. -/
def threshold? (name : String) : Option Threshold :=
  match String.ofList (name.toList.map Char.toLower) with
  | "off" => some none
  | "error" => some (some .error)
  | "warn" => some (some .warn)
  | "info" => some (some .info)
  | "debug" => some (some .debug)
  | "trace" => some (some .trace)
  | _ => none

/-! ## The records of a line -/

/-- The number of characters of a line that a record shows at most. -/
def summaryLength : Nat := 200

/-- A character as a summary shows it: a line break becomes a space. -/
def flattenChar (c : Char) : Char := if c == '\n' || c == '\r' then ' ' else c

/-- A line as a record shows it: on one line, and cut if it is long. -/
def summary (line : String) : String :=
  let flat := line.toList.map flattenChar
  let tail := if summaryLength < flat.length then ['…'] else []
  String.ofList (flat.take summaryLength ++ tail)

/-- The name of a mode in the record of a token. -/
def modeName : Mode → String
  | .filespec => "Filespec"
  | .argument => "Arg"
  | .keyword => "Keyword"
  | .operator => "Operator"

/-- The name of what a token is in its record. -/
def tokenName : Token → String
  | .operator .pipe => "Pipe"
  | .operator (.redirect .output false) => "Gt"
  | .operator (.redirect .output true) => "GtGt"
  | .operator (.redirect .error false) => "ErrGt"
  | .operator (.redirect .error true) => "ErrGtGt"
  | .operator (.redirect .input false) => "Lt"
  | .operator (.redirect .input true) => "LtLt"
  | .word .filespec _ => "Filespec"
  | .word .argument _ => "Arg"
  | .word .keyword _ => "Keyword"
  | .endOfLine => "Eof"

def eventRecord : Event → Record
  | .read mode x => ⟨.trace, "shpipe::parse::lexer",
      modeName mode ++ ": " ++ tokenName x.token ++ " " ++ Text.quoted x.token.text ++ " at " ++
        x.start.repr⟩
  | .dropped stream offset => ⟨.debug, "shpipe::parse::parser",
      "dropping " ++ stream.title ++ " redirection at " ++ offset.repr ++ ": one is already set"⟩
  | .completed index p => ⟨.debug, "shpipe::parse::parser",
      "process " ++ index.repr ++ ": " ++ p.describe⟩

def outcomeRecord (line : String) (outcome : Except ParseError Pipeline) : Record :=
  match outcome with
  | .ok p => ⟨.info, "shpipe::logging",
      "parsed " ++ p.size.repr ++ " process(es)\t" ++ summary line⟩
  | .error e => ⟨.warn, "shpipe::logging", "rejected (" ++ e.message ++ ")\t" ++ summary line⟩

def readingRecords (line : String) : List Record :=
  let reading := Reading.ofLine line
  reading.events.map eventRecord ++ [outcomeRecord line reading.outcome]

theorem not_mem_summary_of_break (line : String) {c : Char} (h : c = '\n' ∨ c = '\r') :
    c ∉ (summary line).toList := by
  have hflat : c ∉ line.toList.map flattenChar := by
    intro hm
    obtain ⟨d, -, hd⟩ := List.mem_map.1 hm
    unfold flattenChar at hd
    split at hd
    · subst hd
      rcases h with h | h <;> revert h <;> decide
    · next hne =>
      subst hd
      rcases h with rfl | rfl <;> exact hne (by decide)
  rw [summary, String.toList_ofList, List.mem_append]
  rintro (hm | hm)
  · exact hflat (List.mem_of_mem_take hm)
  · split at hm
    · rw [List.mem_singleton] at hm
      subst hm
      rcases h with h | h <;> revert h <;> decide
    · cases hm

end ShellPipeline.Log
