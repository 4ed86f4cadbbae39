import ShellPipeline.Session

/-!
# One line after the other

A run that shows lines takes them one by one, and only ever adds to what it has written. A line
changes nothing but that, and whether all lines so far were read.

* `Progress.step`: what one line adds;
* `Progress.foldl_step`: what many lines add;
* `Invocation.run_eq_outcome`: a run is the progress of its lines.
-/

namespace ShellPipeline

/-! ## What a line gives -/

/-- What a line writes to standard output: its pipeline, if it is read as one. -/
def shownText (s : Settings) (line : String) : String :=
  match Pipeline.parse line with
  | .ok p => showPipeline s p
  | .error _ => ""

/-- What is wrong with a line, and where; empty if it is read. -/
def faultText (line : String) : String :=
  match Pipeline.parse line with
  | .ok _ => ""
  | .error e => "shpipe: " ++ e.message ++ "\n" ++ e.pointer line ++ "\n"

/-- The levels that are as grave as one, or graver. -/
def Log.Level.andGraver : Level → List Level
  | .error => [.error]
  | .warn => [.error, .warn]
  | .info => [.error, .warn, .info]
  | .debug => [.error, .warn, .info, .debug]
  | .trace => [.error, .warn, .info, .debug, .trace]

/-- What is noted of a line at a threshold: a line for each record that is grave enough, in their
order. -/
def notedText (stamps : Log.Stamps) (threshold : Log.Threshold) (line : String) : String :=
  match threshold with
  | none => ""
  | some level =>
    String.join (((Log.readingRecords line).filter (·.level ∈ level.andGraver)).zipIdx.map
      fun (r, n) => stamps.time n ++ " [" ++ r.level.label ++ "] " ++ r.target ++ ": " ++
        (if r.level = .trace then stamps.place else "") ++ r.message ++ "\n")

theorem complaint_append (message pointer : String) :
    complaint (message ++ "\n" ++ pointer) = "shpipe: " ++ message ++ "\n" ++ pointer ++ "\n" := by
  simp only [complaint, String.append_assoc]

theorem Log.Record.passes_some (level : Level) (r : Record) :
    r.passes (some level) = decide (r.level ∈ level.andGraver) := by
  obtain ⟨level', target, message⟩ := r
  cases level <;> cases level' <;> rfl

theorem logText_eq_notedText (stamps : Log.Stamps) (threshold : Log.Threshold)
    (line : String) : logText stamps threshold (Log.readingRecords line) =
      notedText stamps threshold line := by
  cases threshold with
  | none =>
    have hnone : (Log.readingRecords line).filter (·.passes none) = [] :=
      List.filter_eq_nil_iff.2 fun _ _ => Bool.false_ne_true
    rw [logText, hnone]
    rfl
  | some level =>
    simp only [logText, Log.Record.passes_some]
    rfl

/-- Settings that show pipelines in the same way, whatever they log. -/
def Settings.SameOutput (s t : Settings) : Prop := s.format = t.format ∧ s.pretty = t.pretty

theorem showPipeline_congr {s t : Settings} (h : s.SameOutput t) (p : Pipeline) :
    showPipeline s p = showPipeline t p := by
  rw [showPipeline, showPipeline, h.1, h.2]

theorem shownText_congr {s t : Settings} (h : s.SameOutput t) (line : String) :
    shownText s line = shownText t line := by
  unfold shownText
  cases Pipeline.parse line with
  | ok p => exact showPipeline_congr h p
  | error e => rfl

theorem LineReport.ofLine_eq (s : Settings) (line : String) : LineReport.ofLine s line =
    ⟨shownText s line, Log.readingRecords line, faultText line, (Pipeline.parse line).isOk⟩ := by
  unfold LineReport.ofLine shownText faultText
  cases Pipeline.parse line with
  | ok p => rfl
  | error e =>
    simp only [complaint_append]
    rfl

/-! ## Progress -/

/-- What a run has written so far, and whether all lines were read. -/
structure Progress where
  stdout : String
  stderr : String
  log : String
  accepted : Bool
  deriving DecidableEq, Repr

namespace Progress

/-- Nothing is written yet but complaints. -/
def start (complaints : String) : Progress := ⟨"", complaints, "", true⟩

/-- A line, given with its number, is noted, and then its pipeline is shown, or what is wrong with
it. -/
def step (s : Settings) (sinks : Log.Sinks) (threshold : Log.Threshold) (p : Progress)
    (numbered : String × Nat) : Progress :=
  let (line, n) := numbered
  let noted : Progress :=
    { p with
      stderr := p.stderr ++ logText (sinks.console n) threshold (Log.readingRecords line)
      log := p.log ++ logText (sinks.file n) threshold (Log.readingRecords line) }
  match Pipeline.parse line with
  | .ok q => { noted with stdout := p.stdout ++ showPipeline s q }
  | .error e =>
    { noted with
      stderr := noted.stderr ++ complaint (e.message ++ "\n" ++ e.pointer line)
      accepted := false }

theorem step_eq (s : Settings) (sinks : Log.Sinks) (threshold : Log.Threshold) (p : Progress)
    (line : String) (n : Nat) : p.step s sinks threshold (line, n) =
      ⟨p.stdout ++ shownText s line,
        p.stderr ++ (notedText (sinks.console n) threshold line ++ faultText line),
        p.log ++ notedText (sinks.file n) threshold line,
        p.accepted && (Pipeline.parse line).isOk⟩ := by
  unfold step shownText faultText
  simp only [logText_eq_notedText]
  cases Pipeline.parse line with
  | ok q => simp [Except.isOk, Except.toBool]
  | error e =>
    simp only [complaint_append]
    simp [Except.isOk, Except.toBool, String.append_assoc]

/-- Lines add to each text what each of them gives, in their order. -/
theorem foldl_step (s : Settings) (sinks : Log.Sinks) (threshold : Log.Threshold)
    (numbered : List (String × Nat)) (p : Progress) :
    numbered.foldl (step s sinks threshold) p =
      ⟨p.stdout ++ String.join ((numbered.map Prod.fst).map (shownText s)),
        p.stderr ++ String.join (numbered.map fun (line, n) =>
          notedText (sinks.console n) threshold line ++ faultText line),
        p.log ++ String.join (numbered.map fun (line, n) =>
          notedText (sinks.file n) threshold line),
        p.accepted && (numbered.map Prod.fst).all fun line => (Pipeline.parse line).isOk⟩ := by
  induction numbered generalizing p with
  | nil => simp
  | cons first numbered ih =>
    rw [List.foldl_cons, ih, step_eq]
    simp only [List.map_cons, String.join_cons, String.append_assoc, List.all_cons, Bool.and_assoc]

end Progress

/-! ## Runs -/

theorem LogPlan.threshold_ofSettings (s : Settings) (env : Environment)
    (home? : Option String) : (ofSettings s env home?).threshold = (levelOf s).1 := by
  unfold ofSettings
  obtain ⟨threshold, complaints⟩ := levelOf s
  cases threshold <;> rfl

/-- A run that shows lines, and neither the usage nor the settings. -/
structure Invocation.ShowsLines (i : Invocation) (o : Options) : Prop where
  options : Options.ofArguments i.arguments = .ok o
  help : o.help = false
  dumpSettings : o.dumpSettings = false

namespace Invocation

/-- The settings that a run shows lines with. -/
def shownSettings (i : Invocation) (reason : String) (o : Options) : Settings :=
  (i.settings reason).settings.withOptions o

/-- What a run logs that shows lines with the settings, and where to. -/
def logPlan (i : Invocation) (s : Settings) : LogPlan :=
  LogPlan.ofSettings s i.environment i.home?

/-- What is said before the first line: against the overlay, the level and the log file. -/
def openingComplaints (i : Invocation) (reason : String) (s : Settings) : String :=
  (i.settings reason).complaints ++ ((i.logPlan s).complaints ++
    (openLogFile i.files (i.logPlan s).path).2.2)

/-- The progress of a run that has taken lines. -/
def progress (i : Invocation) (sinks : Log.Sinks) (reason : String) (s : Settings)
    (lines : List String) : Progress :=
  lines.zipIdx.foldl (Progress.step s sinks (levelOf s).1)
    (.start (i.openingComplaints reason s))

theorem progress_eq (i : Invocation) (sinks : Log.Sinks) (reason : String) (s : Settings)
    (lines : List String) : i.progress sinks reason s lines =
      ⟨String.join (lines.map (shownText s)),
        i.openingComplaints reason s ++ String.join (lines.zipIdx.map fun (line, n) =>
          notedText (sinks.console n) (levelOf s).1 line ++ faultText line),
        String.join (lines.zipIdx.map fun (line, n) =>
          notedText (sinks.file n) (levelOf s).1 line),
        lines.all fun line => (Pipeline.parse line).isOk⟩ := by
  rw [progress, Progress.foldl_step, List.zipIdx_map_fst]
  simp [Progress.start]

/-- What a run gives that has come to the end of its lines. -/
def outcome (i : Invocation) (s : Settings) (decoded : Bool) (p : Progress) : Outcome :=
  let opened := openLogFile i.files (i.logPlan s).path
  { exitCode := if decoded && p.accepted then 0 else 1
    stdout := p.stdout
    stderr := p.stderr ++ (if decoded then "" else undecodable)
    files := match opened.2.1 with
      | some place => opened.1.append place p.log
      | none => opened.1 }

/-- A run that shows lines takes one after the other. -/
theorem run_eq_outcome {i : Invocation} {o : Options} (h : i.ShowsLines o)
    (sinks : Log.Sinks) (reason : String) : run sinks reason i =
      i.outcome (i.shownSettings reason o) (linesOf o i.input).decoded
        (i.progress sinks reason (i.shownSettings reason o) (linesOf o i.input).lines) := by
  rw [progress_eq, run, h.options]
  simp only [h.help, h.dumpSettings, Bool.false_eq_true, if_false]
  unfold outcome showLines openingComplaints logPlan shownSettings
  dsimp only
  generalize openLogFile i.files _ = opened
  obtain ⟨tree, place?, complaints⟩ := opened
  cases place? <;>
    simp only [LogPlan.threshold_ofSettings, LineReport.stderr, List.zipIdx_map, List.map_map,
      Function.comp_def, Prod.map, id, LineReport.ofLine_eq, List.all_map, logText_eq_notedText,
      String.append_assoc]

end Invocation

end ShellPipeline
