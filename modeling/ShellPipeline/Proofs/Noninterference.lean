import ShellPipeline.Proofs.Progress
import ShellPipeline.Proofs.SettingsDocument

/-!
# Logging has no influence on results

What a run shows and its exit code follow from its arguments, its input and how pipelines are
shown. They are the same whatever is logged, at which time and to which file, and whether that can
be opened or not.

* `Progress.Agrees`: progress that differs in what is logged only;
* `Progress.Agrees.foldl`: lines keep it so;
* `run_agrees_of_sameOutput`: runs that differ in what they log only.
-/

namespace ShellPipeline

/-- What is shown is the same, and so is whether all lines were read. -/
structure Progress.Agrees (p q : Progress) : Prop where
  stdout : p.stdout = q.stdout
  accepted : p.accepted = q.accepted

namespace Progress.Agrees

variable {p q : Progress} {s t : Settings}

theorem start (complaints complaints' : String) :
    (Progress.start complaints).Agrees (.start complaints') := ⟨rfl, rfl⟩

/-- A line is shown in the same way, whatever of it is noted. -/
theorem step (h : p.Agrees q) (hst : s.SameOutput t) (sinks sinks' : Log.Sinks)
    (threshold threshold' : Log.Threshold) (line : String) (n : Nat) :
    (p.step s sinks threshold (line, n)).Agrees (q.step t sinks' threshold' (line, n)) := by
  rw [step_eq, step_eq]
  exact {
    stdout := by rw [h.stdout, shownText_congr hst]
    accepted := by rw [h.accepted] }

theorem foldl (h : p.Agrees q) (hst : s.SameOutput t) (sinks sinks' : Log.Sinks)
    (threshold threshold' : Log.Threshold) (numbered : List (String × Nat)) :
    (numbered.foldl (Progress.step s sinks threshold) p).Agrees
      (numbered.foldl (Progress.step t sinks' threshold') q) := by
  induction numbered generalizing p q with
  | nil => exact h
  | cons first numbered ih =>
    rw [List.foldl_cons, List.foldl_cons]
    exact ih (h.step hst sinks sinks' threshold threshold' first.1 first.2)

end Progress.Agrees

section Runs

variable {i j : Invocation} {o : Options} {reason reason' : String}

theorem Invocation.progress_agrees {s t : Settings} (hst : s.SameOutput t)
    (sinks sinks' : Log.Sinks) (lines : List String) :
    (i.progress sinks reason s lines).Agrees (j.progress sinks' reason' t lines) :=
  (Progress.Agrees.start _ _).foldl hst sinks sinks' (levelOf s).1 (levelOf t).1 lines.zipIdx

theorem run_agrees_of_showsLines (hi : i.ShowsLines o) (hj : j.ShowsLines o)
    (hinput : i.input = j.input)
    (houtput : (i.shownSettings reason o).SameOutput (j.shownSettings reason' o))
    (sinks sinks' : Log.Sinks) : (run sinks reason i).stdout = (run sinks' reason' j).stdout ∧
      (run sinks reason i).exitCode = (run sinks' reason' j).exitCode := by
  have hagrees :
      (i.progress sinks reason (i.shownSettings reason o) (linesOf o i.input).lines).Agrees
        (j.progress sinks' reason' (j.shownSettings reason' o) (linesOf o i.input).lines) :=
    Invocation.progress_agrees houtput sinks sinks' _
  rw [Invocation.run_eq_outcome hi, Invocation.run_eq_outcome hj, ← hinput]
  refine ⟨hagrees.stdout, ?_⟩
  simp only [Invocation.outcome, hagrees.accepted]

/-- Runs with the same arguments and input that show pipelines in the same way give the same
results. Their environments, files, levels and log files may be any, and so may the times. -/
theorem run_agrees_of_sameOutput (harguments : i.arguments = j.arguments)
    (hinput : i.input = j.input)
    (hdump : ∀ o, Options.ofArguments i.arguments = .ok o → o.dumpSettings = false)
    (houtput : ∀ o, Options.ofArguments i.arguments = .ok o →
      (i.shownSettings reason o).SameOutput (j.shownSettings reason' o))
    (sinks sinks' : Log.Sinks) : (run sinks reason i).stdout = (run sinks' reason' j).stdout ∧
      (run sinks reason i).exitCode = (run sinks' reason' j).exitCode := by
  cases ho : Options.ofArguments i.arguments with
  | error e =>
    rw [run, run, ← harguments, ho]
    exact ⟨rfl, rfl⟩
  | ok o =>
    cases hhelp : o.help with
    | true =>
      rw [run, run, ← harguments, ho]
      simp only [hhelp, if_true, and_self]
    | false =>
      exact run_agrees_of_showsLines ⟨ho, hhelp, hdump o ho⟩
        ⟨harguments ▸ ho, hhelp, hdump o ho⟩ hinput (houtput o ho) sinks sinks'

end Runs

/-- An unknown level and a path that names a variable without a value, and debugging to a file in a
home directory that may not be written to. -/
theorem run_agrees_of_sameOutput_faults :
    let s : Settings := ⟨.text, false, "loud", "$LOGS/x"⟩
    let t : Settings := ⟨.text, false, "debug", "~/x"⟩
    let i : Invocation := ⟨["a | b", "|"], [("SHPIPE_CONFIG", "c")], [],
      FileTree.mk [(["c"], .file s.toToml)]⟩
    let j : Invocation := ⟨["a | b", "|"], [("SHPIPE_CONFIG", "c"), ("HOME", "/h")], [],
      ⟨⟨[(["c"], .file t.toToml), (["h"], .directory)]⟩, [], [["h"]], none⟩⟩
    (i.settings "").settings = s ∧ (j.settings "").settings = t ∧
      (run "" "" i).stdout = (run "12:00:00" "" j).stdout ∧
      (run "" "" i).exitCode = (run "12:00:00" "" j).exitCode := by
  intro s t i j
  have hi : i.settings "" = ⟨s, ""⟩ := @Invocation.settings_of_dump i "c" s rfl rfl ""
  have hj : j.settings "" = ⟨t, ""⟩ := @Invocation.settings_of_dump j "c" t rfl rfl ""
  have hdump : ∀ o, Options.ofArguments i.arguments = .ok o → o.dumpSettings = false := by
    intro o ho
    cases ho
    rfl
  have houtput : ∀ o, Options.ofArguments i.arguments = .ok o →
      (i.shownSettings "" o).SameOutput (j.shownSettings "" o) := by
    intro o _
    rw [Invocation.shownSettings, Invocation.shownSettings, hi, hj]
    exact ⟨rfl, rfl⟩
  have hrun := run_agrees_of_sameOutput (i := i) (j := j) rfl rfl hdump houtput "" "12:00:00"
  exact ⟨congrArg _ hi, congrArg _ hj, hrun⟩

end ShellPipeline
