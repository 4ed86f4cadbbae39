import ShellPipeline.Proofs.JsonText
import ShellPipeline.Proofs.Progress
import ShellPipeline.Proofs.Rendering
import ShellPipeline.Proofs.SettingsDocument

/-!
# Pipelines are read back from JSON

The text of several pipelines one after the other, all on one line each or all with one item a
line, is the text of no other pipelines. On one line each, they are the lines of what is written,
whatever their words hold.

* `Pipeline.toJson_injective`, from the same fact for each part of a pipeline;
* `InputLines.pipelines`: the pipelines of the lines that are read as such;
* `stdout_run`: what a run writes for its lines.
-/

namespace ShellPipeline

open Text (SelfDelimiting)

/-! ## Pipelines as values -/

theorem Stream.key_injective : Function.Injective Stream.key := by
  intro s t h
  cases s <;> cases t <;> first | rfl | exact absurd h (by decide)

theorem Redirection.toJson_injective : Function.Injective Redirection.toJson := by
  rintro ⟨⟨doubled, filespec⟩, stream⟩ ⟨⟨doubled', filespec'⟩, stream'⟩ h
  simp only [toJson, Json.object.injEq, List.cons.injEq, Prod.mk.injEq, Json.string.injEq,
    Json.bool.injEq, true_and, and_true] at h
  obtain ⟨hkey, rfl, -, rfl⟩ := h
  obtain rfl := Stream.key_injective hkey
  rfl

theorem RedirectionSet.toList_injective : Function.Injective RedirectionSet.toList := by
  intro set set' h
  ext1 s
  rw [← Reading.find?_toList, h, Reading.find?_toList]

theorem RedirectionSet.toJson_injective : Function.Injective RedirectionSet.toJson := by
  intro set set' h
  have hlist := (List.map_inj_right Redirection.toJson_injective).1 (Json.array.inj h)
  exact toList_injective hlist

theorem Command.toJson_injective : Function.Injective Command.toJson := by
  rintro ⟨program, arguments⟩ ⟨program', arguments'⟩ h
  simp only [toJson, Json.object.injEq, List.cons.injEq, Prod.mk.injEq, Json.string.injEq,
    Json.array.injEq, true_and, and_true] at h
  obtain ⟨rfl, harguments⟩ := h
  rw [(List.map_inj_right fun _ _ => Json.string.inj).1 harguments]

theorem Stage.toJson_injective : Function.Injective Stage.toJson := by
  rintro ⟨command, redirections⟩ ⟨command', redirections'⟩ h
  simp only [toJson, Json.object.injEq, List.cons.injEq, Prod.mk.injEq, true_and,
    and_true] at h
  rw [Command.toJson_injective h.1, RedirectionSet.toJson_injective h.2]

theorem Pipeline.toJson_injective : Function.Injective Pipeline.toJson := by
  intro p q h
  simp only [toJson, Json.object.injEq, List.cons.injEq, Prod.mk.injEq, Json.array.injEq,
    true_and, and_true] at h
  exact Pipeline.ext ((List.map_inj_right Stage.toJson_injective).1 h)

/-! ## Records -/

section Records

variable {s : Settings}

theorem showPipeline_compact (hs : s.format = .json) (hpretty : s.pretty = false) (p : Pipeline) :
    showPipeline s p = p.toJson.compact ++ "\n" := by
  simp only [showPipeline, hs, hpretty, Bool.false_eq_true, if_false]

theorem showPipeline_pretty (hs : s.format = .json) (hpretty : s.pretty = true) (p : Pipeline) :
    showPipeline s p = p.toJson.pretty ++ "\n" := by
  simp only [showPipeline, hs, hpretty, if_true]

theorem selfDelimiting_showPipeline (hs : s.format = .json) (p : Pipeline) :
    SelfDelimiting (fun p => (showPipeline s p).toList) p := by
  cases hpretty : s.pretty with
  | false =>
    simp only [showPipeline_compact hs hpretty, String.toList_append]
    exact ((Json.selfDelimiting_compact p.toJson).comp Pipeline.toJson_injective).append_right _
  | true =>
    simp only [showPipeline_pretty hs hpretty, String.toList_append]
    exact ((Json.selfDelimiting_pretty p.toJson).comp Pipeline.toJson_injective).append_right _

theorem showPipeline_ne_nil (hs : s.format = .json) (p : Pipeline) (t : List Char) :
    [] ≠ (showPipeline s p).toList ++ t := by
  cases hpretty : s.pretty with
  | false => simp [showPipeline_compact hs hpretty]
  | true => simp [showPipeline_pretty hs hpretty]

theorem eq_of_join_showPipeline (hs : s.format = .json) {ps qs : List Pipeline}
    (h : String.join (ps.map (showPipeline s)) = String.join (qs.map (showPipeline s))) :
    ps = qs := by
  have htext := congrArg String.toList h
  rw [String.toList_join, String.toList_join, List.flatMap_map, List.flatMap_map] at htext
  have hrow : (ps.flatMap fun p => (showPipeline s p).toList) ++ [] =
      (qs.flatMap fun p => (showPipeline s p).toList) ++ [] := by
    rw [htext]
  exact (SelfDelimiting.eq_of_flatMap (fun p _ => selfDelimiting_showPipeline hs p)
    (showPipeline_ne_nil hs) (showPipeline_ne_nil hs) hrow).1

theorem splitOn_join_showPipeline (hs : s.format = .json) (hpretty : s.pretty = false)
    (ps : List Pipeline) : (String.join (ps.map (showPipeline s))).toList.splitOn '\n' =
      ps.map (·.toJson.compact.toList) ++ [[]] := by
  induction ps with
  | nil => rfl
  | cons p ps ih =>
    have hnone := Json.lineFeed_not_mem_compact p.toJson
    rw [List.map_cons, String.join_cons, String.toList_append, showPipeline_compact hs hpretty,
      String.toList_append, List.append_assoc]
    exact (List.splitOn_append_cons_self_of_not_mem hnone _).trans (congrArg _ ih)

end Records

/-! ## Runs -/

/-- The pipelines of the lines that are read as such. -/
def InputLines.pipelines (lines : InputLines) : List Pipeline :=
  lines.lines.filterMap fun line => (Pipeline.parse line).toOption

theorem join_shownText (s : Settings) (lines : List String) :
    String.join (lines.map (shownText s)) =
      String.join ((lines.filterMap fun line => (Pipeline.parse line).toOption).map
        (showPipeline s)) := by
  induction lines with
  | nil => rfl
  | cons line lines ih =>
    rw [List.map_cons, String.join_cons, ih]
    cases h : Pipeline.parse line with
    | ok p => simp [shownText, h, Except.toOption]
    | error e => simp [shownText, h, Except.toOption]

/-- A run that shows lines writes the pipelines of those that are read, and nothing else. -/
theorem stdout_run {i : Invocation} {o : Options} (ho : Options.ofArguments i.arguments = .ok o)
    (hhelp : o.help = false) (hdump : o.dumpSettings = false) (sinks : Log.Sinks)
    (reason : String) : (run sinks reason i).stdout = String.join ((linesOf o i.input).pipelines.map
      (showPipeline ((i.settings reason).settings.withOptions o))) := by
  rw [Invocation.run_eq_outcome ⟨ho, hhelp, hdump⟩, Invocation.progress_eq]
  exact join_shownText _ _

/-- Pipelines are told apart by what is written for them one after the other. On one line each
they are the lines of what is written, in a run those of the lines that are read. -/
theorem Pipeline.json_records_decode {s : Settings} (hs : s.format = .json) :
    (∀ ps qs : List Pipeline,
      String.join (ps.map (showPipeline s)) = String.join (qs.map (showPipeline s)) → ps = qs) ∧
    (s.pretty = false →
      (∀ p, ∃ text, showPipeline s p = text ++ "\n" ∧ '\n' ∉ text.toList) ∧
      ∀ (sinks : Log.Sinks) (reason : String) (i : Invocation) (o : Options),
        Options.ofArguments i.arguments = .ok o → o.help = false → o.dumpSettings = false →
          (i.settings reason).settings.withOptions o = s →
            (run sinks reason i).stdout.toList.splitOn '\n' =
              (linesOf o i.input).pipelines.map (·.toJson.compact.toList) ++ [[]]) := by
  refine ⟨fun ps qs => eq_of_join_showPipeline hs, fun hpretty => ⟨fun p => ?_, ?_⟩⟩
  · exact ⟨_, showPipeline_compact hs hpretty p, Json.lineFeed_not_mem_compact p.toJson⟩
  · intro sinks reason i o ho hhelp hdump hsettings
    rw [stdout_run ho hhelp hdump, hsettings]
    exact splitOn_join_showPipeline hs hpretty _

/-- Words with a line break, quotes and backslashes, and a line between them that is rejected. -/
theorem Pipeline.json_records_decode_quotes :
    let lines := ["a \"\n\\\" <i", "|", "\\\\ \"\\n\" 2>>e"]
    let o : Options := ⟨some .json, false, false, false, lines⟩
    let s := Settings.unset.withOptions o
    let p : Pipeline := ⟨[⟨⟨"a", ["\"\n\\\""]⟩, ⟨none, none, some ⟨false, "i"⟩⟩⟩], by simp⟩
    let q : Pipeline := ⟨[⟨⟨"\\\\", ["\"\\n\""]⟩, ⟨none, some ⟨true, "e"⟩, none⟩⟩], by simp⟩
    (run "" "" ⟨"--json" :: lines, [], [], FileTree.mk []⟩).stdout.toList.splitOn '\n' =
        [p.toJson.compact.toList, q.toJson.compact.toList, []] ∧
      ∀ qs, String.join ([p, q].map (showPipeline s)) = String.join (qs.map (showPipeline s)) →
        [p, q] = qs := by
  intro lines o s p q
  have hpipelines : (linesOf o []).pipelines = [p, q] := by decide +kernel
  have hsettings : Settings.default.withOptions o = s :=
    congrArg (·.withOptions o) Settings.default_eq_unset
  have hdecode := json_records_decode (s := s) rfl
  have hrun := (hdecode.2 rfl).2 "" "" ⟨"--json" :: lines, [], [], FileTree.mk []⟩ o rfl rfl rfl
    hsettings
  rw [hpipelines] at hrun
  exact ⟨hrun, hdecode.1 [p, q]⟩

end ShellPipeline
