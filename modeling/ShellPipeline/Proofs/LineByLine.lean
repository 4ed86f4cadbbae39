import ShellPipeline.Proofs.InputReading
import ShellPipeline.Proofs.Progress
import ShellPipeline.Proofs.SettingsDocument

/-!
# Every line for itself

A run takes the lines of its arguments, or if there are none those of its input up to the first
one that is not UTF-8. None is lost: what it writes is what each of its lines gives, one after the
other, whichever of them are rejected.

* `Invocation.Processes`: the lines that a run takes;
* `LineByLine`: what a run makes of lines;
* `run_lineByLine`: a run makes that of the lines that it takes, and of no others.
-/

namespace ShellPipeline

open InputLines (ReadsInput EndsLine lineFeed)

/-- The lines that a run takes: its arguments, or if there are none what its input holds. -/
inductive Invocation.Processes (i : Invocation) (o : Options) : InputLines → Prop
  | arguments : o.lines ≠ [] → Processes i o ⟨o.lines, true⟩
  | input {lines : InputLines} : o.lines = [] → ReadsInput i.input lines → Processes i o lines

theorem Invocation.processes_iff {i : Invocation} {o : Options} {lines : InputLines} :
    i.Processes o lines ↔ linesOf o i.input = lines := by
  cases ho : o.lines with
  | nil =>
    have hlines : linesOf o i.input = InputLines.ofBytes i.input := by rw [linesOf, ho]; rfl
    rw [hlines, ← InputLines.readsInput_iff]
    constructor
    · rintro (h | ⟨-, h⟩)
      · exact absurd ho h
      · exact h
    · exact .input ho
  | cons line lines' =>
    have hne : o.lines ≠ [] := ho ▸ List.cons_ne_nil line lines'
    have hlines : linesOf o i.input = ⟨o.lines, true⟩ := by rw [linesOf, ho]; rfl
    rw [hlines]
    constructor
    · rintro (h | ⟨h, -⟩)
      · rfl
      · exact absurd h hne
    · rintro rfl
      exact .arguments hne

/-- What a run makes of lines. -/
structure LineByLine (sinks : Log.Sinks) (reason : String) (i : Invocation) (o : Options)
    (lines : InputLines) : Prop where
  processes : i.Processes o lines
  unique : ∀ others, i.Processes o others → others = lines
  /-- Each line that is read is shown, and nothing else: as text, with a line for each stage and one
  for each of its redirections, or as JSON. -/
  stdout : (run sinks reason i).stdout =
    String.join (lines.lines.map fun line =>
      match Pipeline.parse line with
      | .ok p =>
        match (i.shownSettings reason o).format with
        | .text => String.join (p.stages.map fun stage =>
            stage.describe ++ "\n" ++ String.join (stage.redirections.toList.map fun r =>
              "\t" ++ r.describe ++ " is:" ++ r.stream.label ++ "\n"))
        | .json =>
          (if (i.shownSettings reason o).pretty then p.toJson.pretty else p.toJson.compact) ++ "\n"
      | .error _ => "")
  /-- Behind what is noted of a line that is rejected stand the message and, on lines of its own,
  the line with the place in it. An input that is not UTF-8 is complained of at the end. -/
  stderr : (run sinks reason i).stderr =
    i.openingComplaints reason (i.shownSettings reason o) ++
      String.join (lines.lines.zipIdx.map fun (line, n) =>
        notedText (sinks.console n) (levelOf (i.shownSettings reason o)).1 line ++
          match Pipeline.parse line with
          | .ok _ => ""
          | .error e => "shpipe: " ++ e.message ++ "\n" ++ e.pointer line ++ "\n") ++
      if lines.decoded then ""
      else "shpipe: failed to read stdin: stream did not contain valid UTF-8\n"
  exitCode_zero_iff : (run sinks reason i).exitCode = 0 ↔
    lines.decoded = true ∧ ∀ line ∈ lines.lines, ∃ p, Pipeline.parse line = .ok p
  exitCode_le : (run sinks reason i).exitCode ≤ 1
  /-- Lines behind others are shown behind what is shown of those. -/
  append : lines.decoded = true → ∀ (j k : Invocation) (oj ok : Options) (others : InputLines),
    j.ShowsLines oj → k.ShowsLines ok → j.Processes oj others →
    k.Processes ok (lines.append others) →
    (i.shownSettings reason o).SameOutput (j.shownSettings reason oj) →
    (i.shownSettings reason o).SameOutput (k.shownSettings reason ok) →
      (run sinks reason k).stdout = (run sinks reason i).stdout ++ (run sinks reason j).stdout ∧
      ((run sinks reason k).exitCode = 0 ↔
        (run sinks reason i).exitCode = 0 ∧ (run sinks reason j).exitCode = 0)
  /-- Of an input nothing counts behind a line that is not UTF-8. -/
  input_append : o.lines = [] → ∀ a b as bs, i.input = a ++ b → EndsLine a →
    ReadsInput a as → ReadsInput b bs →
      lines = as.append bs ∧
      (as.decoded = false → run sinks reason i = run sinks reason { i with input := a })

section Run

variable {i : Invocation} {o : Options}

theorem stdout_of_processes (h : i.ShowsLines o) {lines : InputLines}
    (hlines : i.Processes o lines) (sinks : Log.Sinks) (reason : String) :
    (run sinks reason i).stdout = String.join (lines.lines.map
      (shownText (i.shownSettings reason o))) := by
  obtain rfl := Invocation.processes_iff.1 hlines
  rw [Invocation.run_eq_outcome h, Invocation.progress_eq]
  rfl

theorem stderr_of_processes (h : i.ShowsLines o) {lines : InputLines}
    (hlines : i.Processes o lines) (sinks : Log.Sinks) (reason : String) :
    (run sinks reason i).stderr = i.openingComplaints reason (i.shownSettings reason o) ++
      String.join (lines.lines.zipIdx.map fun (line, n) =>
        notedText (sinks.console n) (levelOf (i.shownSettings reason o)).1 line ++
          faultText line) ++
      if lines.decoded then ""
      else "shpipe: failed to read stdin: stream did not contain valid UTF-8\n" := by
  obtain rfl := Invocation.processes_iff.1 hlines
  rw [Invocation.run_eq_outcome h, Invocation.progress_eq]
  rfl

theorem isOk_iff {line : String} :
    (Pipeline.parse line).isOk = true ↔ ∃ p, Pipeline.parse line = .ok p := by
  cases Pipeline.parse line <;> simp [Except.isOk, Except.toBool]

theorem exitCode_of_processes (h : i.ShowsLines o) {lines : InputLines}
    (hlines : i.Processes o lines) (sinks : Log.Sinks) (reason : String) :
    (run sinks reason i).exitCode =
      if lines.decoded && lines.lines.all fun line => (Pipeline.parse line).isOk then 0 else 1 := by
  obtain rfl := Invocation.processes_iff.1 hlines
  rw [Invocation.run_eq_outcome h, Invocation.progress_eq]
  rfl

theorem exitCode_eq_zero_iff (h : i.ShowsLines o) {lines : InputLines}
    (hlines : i.Processes o lines) (sinks : Log.Sinks) (reason : String) :
    (run sinks reason i).exitCode = 0 ↔
      lines.decoded = true ∧ ∀ line ∈ lines.lines, ∃ p, Pipeline.parse line = .ok p := by
  rw [exitCode_of_processes h hlines, ite_eq_left_iff]
  simp only [Nat.one_ne_zero, imp_false, Classical.not_not, Bool.and_eq_true, List.all_eq_true,
    isOk_iff]

theorem stdout_append (h : i.ShowsLines o) {lines others : InputLines}
    (hlines : i.Processes o lines) (hdecoded : lines.decoded = true) {j k : Invocation}
    {oj ok : Options} (hj : j.ShowsLines oj) (hk : k.ShowsLines ok)
    (hothers : j.Processes oj others) (happend : k.Processes ok (lines.append others))
    {reason : String} (hij : (i.shownSettings reason o).SameOutput (j.shownSettings reason oj))
    (hik : (i.shownSettings reason o).SameOutput (k.shownSettings reason ok)) (sinks : Log.Sinks) :
    (run sinks reason k).stdout = (run sinks reason i).stdout ++ (run sinks reason j).stdout := by
  rw [stdout_of_processes h hlines, stdout_of_processes hj hothers,
    stdout_of_processes hk happend, ← funext (shownText_congr hij), ← funext (shownText_congr hik),
    ← String.join_append, ← List.map_append, InputLines.append, if_pos hdecoded]

theorem exitCode_append (h : i.ShowsLines o) {lines others : InputLines}
    (hlines : i.Processes o lines) (hdecoded : lines.decoded = true) {j k : Invocation}
    {oj ok : Options} (hj : j.ShowsLines oj) (hk : k.ShowsLines ok)
    (hothers : j.Processes oj others) (happend : k.Processes ok (lines.append others))
    (sinks : Log.Sinks) (reason : String) : (run sinks reason k).exitCode = 0 ↔
      (run sinks reason i).exitCode = 0 ∧ (run sinks reason j).exitCode = 0 := by
  rw [exitCode_eq_zero_iff h hlines, exitCode_eq_zero_iff hj hothers,
    exitCode_eq_zero_iff hk happend, InputLines.append, if_pos hdecoded]
  simp only [hdecoded, true_and, List.forall_mem_append]
  exact and_left_comm

/-- A run does not depend on what comes behind a line that is not UTF-8. -/
theorem run_of_input_append (h : i.ShowsLines o) (ho : o.lines = []) {a b : List UInt8}
    {as bs : InputLines} (hinput : i.input = a ++ b) (hend : EndsLine a) (ha : ReadsInput a as)
    (hb : ReadsInput b bs) : i.Processes o (as.append bs) ∧
      (as.decoded = false →
        ∀ sinks reason, run sinks reason i = run sinks reason { i with input := a }) := by
  have hlines : i.Processes o (as.append bs) := .input ho (hinput ▸ ha.append hb hend)
  refine ⟨hlines, fun hdecoded sinks reason => ?_⟩
  have hshort : Invocation.ShowsLines { i with input := a } o := ⟨h.options, h.help, h.dumpSettings⟩
  have has : Invocation.Processes { i with input := a } o as := .input ho ha
  have happend : as.append bs = as := if_neg (Bool.eq_false_iff.1 hdecoded)
  rw [Invocation.run_eq_outcome h, Invocation.run_eq_outcome hshort,
    Invocation.processes_iff.1 hlines, Invocation.processes_iff.1 has, happend]
  rfl

/-- What a run writes is what its lines give, one after the other. -/
theorem run_lineByLine (h : i.ShowsLines o) (sinks : Log.Sinks) (reason : String) :
    ∃ lines, LineByLine sinks reason i o lines := by
  have hlines : i.Processes o (linesOf o i.input) := Invocation.processes_iff.2 rfl
  exact ⟨linesOf o i.input, {
    processes := hlines
    unique := fun others hothers => (Invocation.processes_iff.1 hothers).symm
    stdout := stdout_of_processes h hlines sinks reason
    stderr := stderr_of_processes h hlines sinks reason
    exitCode_zero_iff := exitCode_eq_zero_iff h hlines sinks reason
    exitCode_le := by
      rw [exitCode_of_processes h hlines]
      split <;> decide
    append := fun hdecoded j k oj ok others hj hk hothers happend hij hik =>
      ⟨stdout_append h hlines hdecoded hj hk hothers happend hij hik sinks,
        exitCode_append h hlines hdecoded hj hk hothers happend sinks reason⟩
    input_append := fun ho a b as bs hinput hend ha hb =>
      have hcut := run_of_input_append h ho hinput hend ha hb
      ⟨Invocation.processes_iff.1 hcut.1, fun hdecoded => hcut.2 hdecoded sinks reason⟩ }⟩

end Run

/-- A line that is rejected and one of white space between lines that are read, and then a byte
that is not UTF-8. -/
theorem run_lineByLine_mixed :
    let o : Options := ⟨some .text, false, false, false, []⟩
    let input := "a >x\r\n|\n \nb\n".toUTF8.data.toList ++ 0xFF :: "\nc\n".toUTF8.data.toList
    let i : Invocation := ⟨["--text"], [], input, FileTree.mk []⟩
    i.ShowsLines o ∧ LineByLine "12:00:00" "" i o ⟨["a >x", "|", "b"], false⟩ ∧
      (run "12:00:00" "" i).stdout =
        "Proc(cmd=a [], redirs=[Output(x)])\n" ++
        "\tOutput(x) is:OUTPUT\n" ++
        "Proc(cmd=b [], redirs=[])\n" ∧
      (run "12:00:00" "" i).stderr =
        "12:00:00 [WARN] shpipe::logging: rejected (syntax error at offset 0: " ++
          "expected a program name, found `|`)\t|\n" ++
        "shpipe: syntax error at offset 0: expected a program name, found `|`\n" ++
        "  | |\n" ++
        "  | ^\n" ++
        "shpipe: failed to read stdin: stream did not contain valid UTF-8\n" ∧
      (run "12:00:00" "" i).exitCode = 1 := by
  intro o input i
  have hshows : i.ShowsLines o := ⟨rfl, rfl, rfl⟩
  obtain ⟨lines, h⟩ := run_lineByLine hshows "12:00:00" ""
  have hundecodable : ReadsInput ([0xFF] ++ lineFeed :: Text.utf8 ['c', '\n']) ⟨[], false⟩ :=
    .undecodable (by decide) (InputLines.decode?_eq_none_iff.1 (by decide +kernel)) (.inr rfl)
  have hpad : ∀ c ≠ '\r', InputLines.Padded 2 [c] [c] := fun c hc =>
    ⟨0, by decide, rfl, .inr fun hlast => hc (Option.some.inj hlast)⟩
  have hb := ReadsInput.line (by decide) (by decide) (hpad 'b' (by decide)) hundecodable
  have hblank := ReadsInput.whiteLine (s := [' ']) (by decide) (by decide) hb
  have hbar := ReadsInput.line (by decide) (by decide) (hpad '|' (by decide)) hblank
  have hreturn : InputLines.Padded 2 "a >x".toList "a >x\r".toList :=
    ⟨1, by decide, rfl, .inr (by decide)⟩
  have hread := ReadsInput.line (by decide) (by decide) hreturn hbar
  have hinput : i.input = Text.utf8 "a >x\r".toList ++ lineFeed :: (Text.utf8 ['|'] ++ lineFeed ::
      (Text.utf8 [' '] ++ lineFeed :: (Text.utf8 ['b'] ++ lineFeed ::
        ([0xFF] ++ (lineFeed :: Text.utf8 ['c', '\n']))))) := by
    decide +kernel
  obtain rfl := h.unique _ (.input rfl (hinput ▸ hread))
  have hshown : i.shownSettings "" o = Settings.unset :=
    congrArg (·.withOptions o) Settings.default_eq_unset
  have hopening : i.openingComplaints "" Settings.unset = "" := by decide +kernel
  refine ⟨hshows, h, ?_, ?_, ?_⟩
  · rw [h.stdout, hshown]
    decide +kernel
  · rw [h.stderr, hshown, hopening]
    decide +kernel
  · have hzero : (run "12:00:00" "" i).exitCode ≠ 0 := fun hzero =>
      Bool.false_ne_true (h.exitCode_zero_iff.1 hzero).1
    have hle := h.exitCode_le
    omega

end ShellPipeline
