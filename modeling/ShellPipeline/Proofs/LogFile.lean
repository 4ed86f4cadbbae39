import ShellPipeline.Proofs.FileTrees
import ShellPipeline.Proofs.LineByLine

/-!
# What a run does to files

The only regular file that a run touches is its log file, to which it adds what it notes of its
lines. The directories that the path of the log file leads through are made, but no other file.

* `Log.NamesThreshold`: the names of thresholds;
* `Settings.LogsTo`: the path that the setting of the log file spells out;
* `LogTarget`: the place of the log file, if there is one that can be opened;
* `LogsLines`: what a run adds to that file;
* `run_extends_logFile`: a run adds that, and touches no other file.
-/

namespace ShellPipeline

open Text (isAllWhiteSpace)

/-! ## The level -/

namespace Log

/-- The thresholds with their names in small letters. -/
def thresholds : List (String × Threshold) :=
  [("off", none), ("error", some .error), ("warn", some .warn), ("info", some .info),
    ("debug", some .debug), ("trace", some .trace)]

/-- A name stands for a threshold, in letters of either case. One that is not known stands for that
of warnings. -/
inductive NamesThreshold (name : String) : Threshold → Prop
  | known {known : String} {threshold : Threshold} : (known, threshold) ∈ thresholds →
    name.toList.map Char.toLower = known.toList → NamesThreshold name threshold
  | unknown : (∀ k ∈ thresholds, name.toList.map Char.toLower ≠ k.1.toList) →
    NamesThreshold name (some .warn)

theorem threshold?_of_known {name known : String} {threshold : Threshold}
    (h : (known, threshold) ∈ thresholds) (hname : name.toList.map Char.toLower = known.toList) :
    threshold? name = some threshold := by
  rw [threshold?, hname, String.ofList_toList]
  simp only [thresholds, List.mem_cons, List.not_mem_nil, or_false, Prod.mk.injEq] at h
  rcases h with ⟨rfl, rfl⟩ | ⟨rfl, rfl⟩ | ⟨rfl, rfl⟩ | ⟨rfl, rfl⟩ | ⟨rfl, rfl⟩ | ⟨rfl, rfl⟩ <;> rfl

theorem threshold?_of_unknown {name : String}
    (h : ∀ k ∈ thresholds, name.toList.map Char.toLower ≠ k.1.toList) :
    threshold? name = none := by
  have hne : ∀ k ∈ thresholds, String.ofList (name.toList.map Char.toLower) ≠ k.1 := by
    intro k hk hname
    refine h k hk ?_
    rw [← hname, String.toList_ofList]
  simp only [thresholds, List.forall_mem_cons, List.not_mem_nil, false_implies, implies_true,
    and_true] at hne
  obtain ⟨hoff, herror, hwarn, hinfo, hdebug, htrace⟩ := hne
  unfold threshold?
  split
  · next hname => exact absurd hname hoff
  · next hname => exact absurd hname herror
  · next hname => exact absurd hname hwarn
  · next hname => exact absurd hname hinfo
  · next hname => exact absurd hname hdebug
  · next hname => exact absurd hname htrace
  · rfl

end Log

theorem namesThreshold_iff {s : Settings} {threshold : Log.Threshold} :
    Log.NamesThreshold s.level threshold ↔ (levelOf s).1 = threshold := by
  constructor
  · intro h
    cases h with
    | known hmem hname => rw [levelOf, Log.threshold?_of_known hmem hname]
    | unknown hunknown => rw [levelOf, Log.threshold?_of_unknown hunknown]
  · rintro rfl
    by_cases h : ∃ k ∈ Log.thresholds, s.level.toList.map Char.toLower = k.1.toList
    · obtain ⟨⟨known, threshold⟩, hmem, hname⟩ := h
      rw [levelOf, Log.threshold?_of_known hmem hname]
      exact .known hmem hname
    · have hunknown : ∀ k ∈ Log.thresholds, s.level.toList.map Char.toLower ≠ k.1.toList :=
        fun k hk hname => h ⟨k, hk, hname⟩
      rw [levelOf, Log.threshold?_of_unknown hunknown]
      exact .unknown hunknown

/-! ## The path -/

/-- The path that the setting of the log file spells out, if it is not blank: with the values of
variables in place, and the home directory for a tilde that the setting itself begins with. -/
structure Settings.LogsTo (s : Settings) (env : Environment) (home? : Option String)
    (path : String) : Prop where
  not_blank : isAllWhiteSpace s.file.toList = false
  expands : ∃ filled, Template.fill env (Template.parse (Text.trim s.file.toList)) = .ok filled ∧
    path = if (Text.trim s.file.toList).head? = some '~' then expandHome home? filled else filled

theorem rawLogPath_eq_nil_iff {s : Settings} :
    rawLogPath s = [] ↔ isAllWhiteSpace s.file.toList = true :=
  Text.isAllWhiteSpace_iff_trim_eq_nil.symm

/-- There is no path if none is set, or it cannot be expanded. -/
theorem logPathOf_eq_none_iff {s : Settings} {env : Environment} {home? : Option String} :
    (logPathOf s env home?).1 = none ↔ isAllWhiteSpace s.file.toList = true ∨
      ∃ name, Template.fill env (Template.parse (Text.trim s.file.toList)) = .error name := by
  rw [← rawLogPath_eq_nil_iff]
  unfold logPathOf
  dsimp only
  split
  · next hempty => simp [List.isEmpty_iff.1 hempty]
  · next hempty =>
    have hne : rawLogPath s ≠ [] := fun hnil => hempty (List.isEmpty_iff.2 hnil)
    change _ ↔ _ ∨ ∃ name, Template.fill env (Template.parse (rawLogPath s)) = .error name
    cases Template.fill env (Template.parse (rawLogPath s)) with
    | ok path => simp [hne]
    | error name => simp

theorem logPathOf_eq_some_iff {s : Settings} {env : Environment} {home? : Option String}
    {path : String} : (logPathOf s env home?).1 = some path ↔ s.LogsTo env home? path := by
  constructor
  · intro h
    have hsome : ¬(isAllWhiteSpace s.file.toList = true ∨
        ∃ name, Template.fill env (Template.parse (Text.trim s.file.toList)) = .error name) := by
      rw [← logPathOf_eq_none_iff, h]
      exact nofun
    obtain ⟨hblank, hfill⟩ := not_or.1 hsome
    refine ⟨Bool.eq_false_iff.2 hblank, ?_⟩
    have hraw : (rawLogPath s).isEmpty = false :=
      List.isEmpty_eq_false_iff.2 (mt rawLogPath_eq_nil_iff.1 hblank)
    unfold logPathOf at h
    simp only [hraw, Bool.false_eq_true, if_false] at h
    change ∃ filled, Template.fill env (Template.parse (rawLogPath s)) = .ok filled ∧
      path = if (rawLogPath s).head? = some '~' then expandHome home? filled else filled
    split at h
    · next filled hfilled =>
      refine ⟨filled, hfilled, ?_⟩
      rw [← Option.some.inj h]
      simp only [beq_iff_eq]
    · cases h
  · rintro ⟨hblank, filled, hfilled, rfl⟩
    have hraw : (rawLogPath s).isEmpty = false :=
      List.isEmpty_eq_false_iff.2 fun hnil =>
        Bool.eq_false_iff.1 hblank (rawLogPath_eq_nil_iff.1 hnil)
    change Template.fill env (Template.parse (rawLogPath s)) = .ok filled at hfilled
    unfold logPathOf
    simp only [hraw, hfilled, Bool.false_eq_true, if_false]
    simp [rawLogPath]

/-! ## The file of a log -/

/-- The place of the log file that settings ask for, if there is one that can be opened. -/
inductive LogTarget (i : Invocation) (s : Settings) : Option Place → Prop
  /-- Nothing is logged. -/
  | off : Log.NamesThreshold s.level none → LogTarget i s none
  /-- No file is set. -/
  | blank : isAllWhiteSpace s.file.toList = true → LogTarget i s none
  /-- The path names a variable without a value. -/
  | unexpandable {name : String} :
    Template.fill i.environment (Template.parse (Text.trim s.file.toList)) = .error name →
    LogTarget i s none
  | unopenable {path : String} {e : OpenError} : s.LogsTo i.environment i.home? path →
    (i.files.openLog path).2 = .error e → LogTarget i s none
  | opened {path : String} {place : Place} : ¬Log.NamesThreshold s.level none →
    s.LogsTo i.environment i.home? path → (i.files.openLog path).2 = .ok place →
    LogTarget i s (some ((Path.ofString path).place i.files.directory))

theorem LogPlan.path_ofSettings (s : Settings) (env : Environment) (home? : Option String) :
    (ofSettings s env home?).path =
      if (levelOf s).1 = none then none else (logPathOf s env home?).1 := by
  unfold ofSettings
  obtain ⟨threshold, complaints⟩ := levelOf s
  cases threshold <;> rfl

/-- A log file has its place, or it is said why it cannot be opened. -/
theorem openLogFile_cases (system : FileSystem) (path : String) :
    (∃ tree place, system.openLog path = (tree, .ok place) ∧
      openLogFile system (some path) = (tree, some place, "")) ∨
    ∃ tree e, system.openLog path = (tree, .error e) ∧
      openLogFile system (some path) = (tree, none, cannotOpen path e.message) := by
  unfold openLogFile
  dsimp only
  generalize system.openLog path = opened
  obtain ⟨tree, answer⟩ := opened
  cases answer with
  | ok place => exact .inl ⟨tree, place, rfl, rfl⟩
  | error e => exact .inr ⟨tree, e, rfl, rfl⟩

/-- A path leads to the place of its log file, if that can be opened. -/
theorem place_openLogFile (system : FileSystem) (path : String) :
    (openLogFile system (some path)).2.1 =
      match (system.openLog path).2 with
      | .ok _ => some ((Path.ofString path).place system.directory)
      | .error _ => none := by
  rcases openLogFile_cases system path with ⟨tree, place, hopen, hfile⟩ | ⟨tree, e, hopen, hfile⟩
  · have hplace := ((system.openLog_follows path).2 place (congrArg Prod.snd hopen)).1
    rw [hfile, hopen, hplace]
  · rw [hfile, hopen]

theorem logTarget_iff {i : Invocation} {s : Settings} {place? : Option Place} :
    LogTarget i s place? ↔ (openLogFile i.files (i.logPlan s).path).2.1 = place? := by
  rw [Invocation.logPlan, LogPlan.path_ofSettings]
  constructor
  · intro h
    cases h with
    | off hlevel => rw [if_pos (namesThreshold_iff.1 hlevel)]; rfl
    | blank hblank => rw [logPathOf_eq_none_iff.2 (.inl hblank), ite_self]; rfl
    | unexpandable hfill => rw [logPathOf_eq_none_iff.2 (.inr ⟨_, hfill⟩), ite_self]; rfl
    | unopenable hpath hopen =>
      split
      · rfl
      · rw [logPathOf_eq_some_iff.2 hpath, place_openLogFile, hopen]
    | opened hlevel hpath hopen =>
      rw [if_neg (mt namesThreshold_iff.2 hlevel), logPathOf_eq_some_iff.2 hpath,
        place_openLogFile, hopen]
  · rintro rfl
    by_cases hlevel : (levelOf s).1 = none
    · rw [if_pos hlevel]
      exact .off (namesThreshold_iff.2 hlevel)
    · rw [if_neg hlevel]
      cases hpath : (logPathOf s i.environment i.home?).1 with
      | none =>
        rcases logPathOf_eq_none_iff.1 hpath with hblank | ⟨name, hfill⟩
        · exact .blank hblank
        · exact .unexpandable hfill
      | some path =>
        rw [place_openLogFile]
        cases hopen : (i.files.openLog path).2 with
        | ok place =>
          exact .opened (mt namesThreshold_iff.1 hlevel) (logPathOf_eq_some_iff.1 hpath) hopen
        | error e => exact .unopenable (logPathOf_eq_some_iff.1 hpath) hopen

/-! ## Runs -/

/-- What a run logs that shows lines, at a threshold. -/
structure LogsLines (sinks : Log.Sinks) (reason : String) (i : Invocation) (o : Options)
    (threshold : Log.Threshold) (place? : Option Place) (lines : InputLines) : Prop where
  level : Log.NamesThreshold (i.shownSettings reason o).level threshold
  level_unique : ∀ other, Log.NamesThreshold (i.shownSettings reason o).level other →
    other = threshold
  target : LogTarget i (i.shownSettings reason o) place?
  target_unique : ∀ other?, LogTarget i (i.shownSettings reason o) other? → other? = place?
  processes : i.Processes o lines
  processes_unique : ∀ others, i.Processes o others → others = lines
  /-- What is noted of each line is added to the log file, and no other file changes. -/
  files : i.files.tree.Extends (run sinks reason i).files place?
    (String.join (lines.lines.zipIdx.map fun (line, n) =>
      notedText (sinks.file n) threshold line))
  /-- It comes to the same to write it line by line to the file that was opened. -/
  written : ∀ place, place? = some place → ∀ place', (run sinks reason i).files.text? place' =
    ((openLogFile i.files (i.logPlan (i.shownSettings reason o)).path).1.appendAll place
      (lines.lines.zipIdx.map fun (line, n) =>
        notedText (sinks.file n) threshold line)).text? place'
  /-- Without a log file all files are as they were. -/
  unchanged : place? = none →
    (∀ place, (run sinks reason i).files.text? place = i.files.tree.text? place) ∧
      (run sinks reason i).files.changesSince i.files.tree = []
  /-- The same records stand in standard error, in front of what is wrong with the line. -/
  stderr : (run sinks reason i).stderr =
    i.openingComplaints reason (i.shownSettings reason o) ++
      String.join (lines.lines.zipIdx.map fun (line, n) =>
        notedText (sinks.console n) threshold line ++ faultText line) ++
      if lines.decoded then ""
      else "shpipe: failed to read stdin: stream did not contain valid UTF-8\n"

theorem openLogFile_keeps (system : FileSystem) (path? : Option String) :
    system.tree.SameFiles (openLogFile system path?).1 ∧
      ∀ place, (openLogFile system path?).2.1 = some place →
        (openLogFile system path?).1.at? place ≠ some .directory := by
  cases path? with
  | none => exact ⟨.refl _, nofun⟩
  | some path =>
    obtain ⟨hsame, hplace⟩ := system.openLog_follows path
    rcases openLogFile_cases system path with ⟨tree, place, hopen, hfile⟩ | ⟨tree, e, hopen, hfile⟩
    · rw [hopen] at hsame hplace
      rw [hfile]
      refine ⟨hsame, ?_⟩
      rintro _ ⟨⟩
      exact (hplace place rfl).2
    · rw [hopen] at hsame
      rw [hfile]
      exact ⟨hsame, nofun⟩

/-- A run that takes lines adds to its log file what is noted of them. -/
theorem extends_files {i : Invocation} {o : Options} (h : i.ShowsLines o) (sinks : Log.Sinks)
    (reason : String) : i.files.tree.Extends (run sinks reason i).files
      (openLogFile i.files (i.logPlan (i.shownSettings reason o)).path).2.1
      (String.join ((linesOf o i.input).lines.zipIdx.map fun (line, n) =>
        notedText (sinks.file n) (levelOf (i.shownSettings reason o)).1 line)) := by
  obtain ⟨hsame, hplace⟩ := openLogFile_keeps i.files
    (i.logPlan (i.shownSettings reason o)).path
  rw [Invocation.run_eq_outcome h, Invocation.progress_eq, Invocation.outcome]
  dsimp only
  split
  · next place hopened =>
    rw [hopened]
    exact FileTree.extends_append hsame (hplace place hopened) _
  · next hopened =>
    rw [hopened]
    exact hsame.extends _

theorem logsLines_of_showsLines {i : Invocation} {o : Options} (h : i.ShowsLines o)
    (sinks : Log.Sinks) (reason : String) :
    ∃ threshold place? lines, LogsLines sinks reason i o threshold place? lines := by
  have hlines : i.Processes o (linesOf o i.input) := Invocation.processes_iff.2 rfl
  have hfiles := extends_files h sinks reason
  refine ⟨_, _, linesOf o i.input, {
    level := namesThreshold_iff.2 rfl
    level_unique := fun other hother => (namesThreshold_iff.1 hother).symm
    target := logTarget_iff.2 rfl
    target_unique := fun other? hother => (logTarget_iff.1 hother).symm
    processes := hlines
    processes_unique := fun others hothers => (Invocation.processes_iff.1 hothers).symm
    files := hfiles
    written := ?_
    unchanged := fun hnone => by
      rw [hnone] at hfiles
      exact hfiles.sameTexts
    stderr := stderr_of_processes h hlines sinks reason }⟩
  intro place hopened place'
  obtain ⟨hsame, hplace⟩ := openLogFile_keeps i.files
    (i.logPlan (i.shownSettings reason o)).path
  rw [hfiles.text?_eq place', hopened,
    FileTree.text?_appendAll (hplace place hopened),
    (FileTree.extends_append hsame (hplace place hopened) _).text?_eq place']

/-- A run that shows no lines leaves all files as they are, and one that shows lines adds what is
noted of them to its log file only. -/
theorem run_extends_logFile (sinks : Log.Sinks) (reason : String) (i : Invocation) :
    (∀ e, Options.ofArguments i.arguments = .error e →
      (run sinks reason i).files = i.files.tree) ∧
    (∀ o, Options.ofArguments i.arguments = .ok o → o.help = true ∨ o.dumpSettings = true →
      (run sinks reason i).files = i.files.tree) ∧
    ∀ o, i.ShowsLines o →
      ∃ threshold place? lines, LogsLines sinks reason i o threshold place? lines := by
  refine ⟨fun e he => ?_, fun o ho hasks => ?_, fun o h => ?_⟩
  · rw [run, he]
  · cases hhelp : o.help with
    | true =>
      rw [run, ho]
      simp only [hhelp, if_true]
    | false =>
      have hdump : o.dumpSettings = true := hasks.resolve_left (Bool.eq_false_iff.1 hhelp)
      rw [run_of_dumpSettings ho hhelp hdump]
  · exact logsLines_of_showsLines h sinks reason

/-- A line with a redirection that is dropped and one that is rejected, noted at the level of
debugging behind an earlier text of a log in the home directory; and the same at the level that is
off. -/
theorem run_extends_logFile_earlier :
    let s : Settings := ⟨.text, false, "Debug", "~/logs/x"⟩
    let t : Settings := ⟨.text, false, "OFF", "~/logs/x"⟩
    let tree (s : Settings) : FileTree :=
      ⟨[(["c"], .file s.toToml), (["h", "logs", "x"], .file "earlier\n")]⟩
    let i (s : Settings) : Invocation :=
      ⟨["a >x >y", "|"], [("SHPIPE_CONFIG", "/c"), ("HOME", "/h")], [], ⟨tree s, ["d"], [], none⟩⟩
    let sinks : Log.Sinks :=
      ⟨fun _ => "11:59:59", fun n => ⟨fun k => Log.timeOfDay (43200 + 10 * n + k), ""⟩⟩
    (run sinks "" (i s)).files.text? ["c"] = some s.toToml ∧
      (run sinks "" (i s)).files.text? ["h", "logs", "x"] = some ("earlier\n" ++
        ("12:00:00 [DEBUG] shpipe::parse::parser: dropping Output redirection at 5: " ++
          "one is already set\n" ++
        "12:00:01 [DEBUG] shpipe::parse::parser: process 0: " ++
          "Proc(cmd=a [], redirs=[Output(x)])\n" ++
        "12:00:02 [INFO] shpipe::logging: parsed 1 process(es)\ta >x >y\n" ++
        "12:00:10 [WARN] shpipe::logging: rejected (syntax error at offset 0: " ++
          "expected a program name, found `|`)\t|\n")) ∧
      (run sinks "" (i t)).files.text? ["h", "logs", "x"] = some "earlier\n" ∧
      (run sinks "" (i t)).files.changesSince (tree t) = [] := by
  intro s t tree i sinks
  let o : Options := ⟨none, false, false, false, ["a >x >y", "|"]⟩
  have hpath : ∀ s, overlayPath? (i s).environment (i s).home? = some "/c" := fun _ => rfl
  have hread : ∀ s : Settings, (i s).files.read? "/c" = some s.toToml := fun _ => rfl
  have hshown : ∀ s, (i s).shownSettings "" o = s := fun s =>
    congrArg (·.settings.withOptions o) (Invocation.settings_of_dump (hpath s) (hread s) "")
  obtain ⟨threshold, place?, lines, h⟩ :=
    (run_extends_logFile sinks "" (i s)).2.2 o ⟨rfl, rfl, rfl⟩
  obtain ⟨threshold', place'?, lines', h'⟩ :=
    (run_extends_logFile sinks "" (i t)).2.2 o ⟨rfl, rfl, rfl⟩
  have hlines : (⟨["a >x >y", "|"], true⟩ : InputLines) = lines :=
    h.processes_unique _ (.arguments (List.cons_ne_nil _ _))
  have hdebug : some .debug = threshold := by
    refine h.level_unique _ ?_
    rw [hshown]
    have hmem : ("debug", some .debug) ∈ Log.thresholds := by decide
    exact .known hmem (by decide)
  have htarget : some ["h", "logs", "x"] = place? := by
    refine h.target_unique _ ?_
    rw [hshown]
    have hnot : ¬Log.NamesThreshold s.level none := by
      rw [namesThreshold_iff]
      decide +kernel
    have hlogs : s.LogsTo (i s).environment (i s).home? "/h/logs/x" :=
      ⟨by decide +kernel, "~/logs/x", by decide +kernel, by decide +kernel⟩
    have hopen : ((i s).files.openLog "/h/logs/x").2 = .ok ["h", "logs", "x"] := rfl
    exact .opened hnot hlogs hopen
  have hoff : none = place'? := by
    refine h'.target_unique _ ?_
    rw [hshown]
    have hmem : ("off", none) ∈ Log.thresholds := by decide
    exact .off (.known hmem (by decide))
  have hfiles := h.files.text?_eq
  rw [← hlines, ← hdebug, ← htarget] at hfiles
  refine ⟨hfiles ["c"], (hfiles ["h", "logs", "x"]).trans ?_, ?_, (h'.unchanged hoff.symm).2⟩
  · rw [if_pos rfl]
    refine congrArg some (congrArg _ ?_)
    decide +kernel
  · exact (h'.unchanged hoff.symm).1 ["h", "logs", "x"]

end ShellPipeline
