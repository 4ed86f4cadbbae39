import ShellPipeline.Proofs.Faults
import ShellPipeline.Proofs.Rendering

/-!
# One more word behind a line

A redirection behind a line that is read as a pipeline goes to the last stage, where it counts if
its stream is not rerouted yet. A word goes to the arguments of that stage if the stage has no
redirection, and is refused otherwise.

The phase in which the reading of the line ends is not seen in the line, but the last stage tells
it (`Reading.Finishes`).
-/

namespace ShellPipeline

/-- The stage with one more redirection. -/
def Stage.redirected (r : Redirection) (stage : Stage) : Stage :=
  { stage with redirections := stage.redirections.insert r }

/-- The stage with one more argument. -/
def Stage.given (w : String) (stage : Stage) : Stage :=
  { stage with command :=
    { stage.command with arguments := stage.command.arguments ++ [w] } }

/-- The pipeline with another stage in place of the last one. -/
def Pipeline.mapLast (f : Stage → Stage) (p : Pipeline) : Pipeline :=
  ⟨p.stages.dropLast ++ [f p.last], by simp⟩

/-- What becomes of a line that is read as `p` when a redirection or a word is written behind it.
By `WordClass.isWord_iff_split` a word of a class is a text that is not empty and that the class
takes in whole. -/
structure Pipeline.TakesMore (line : String) (p : Pipeline) : Prop where
  redirection : ∀ r : Redirection,
    WordClass.IsWord (if r.isHere then .keyword else .filespec) r.filespec.toList →
    Pipeline.parse (line ++ " " ++ r.operator.symbol ++ " " ++ r.filespec) =
      .ok (p.mapLast (·.redirected r))
  /-- A second redirection of a stream changes nothing. -/
  second : ∀ r : Redirection,
    WordClass.IsWord (if r.isHere then .keyword else .filespec) r.filespec.toList →
    p.last.redirections.contains r.stream = true →
    Pipeline.parse (line ++ " " ++ r.operator.symbol ++ " " ++ r.filespec) = .ok p
  argument : ∀ w : String, WordClass.IsWord .argument w.toList → w.toList.head? ≠ some '|' →
    p.last.redirections.isEmpty = true →
    Pipeline.parse (line ++ " " ++ w) = .ok (p.mapLast (·.given w))
  refused : ∀ w : String, WordClass.IsWord .argument w.toList → w.toList.head? ≠ some '|' →
    p.last.redirections.isEmpty = false → ∃ e, Pipeline.parse (line ++ " " ++ w) = .error e ∧
      e.diagnostic = ⟨.grammar, Text.byteLength line.toList + 1, "`" ++ w ++ "`",
        "a redirection, `|` or end of input"⟩

namespace Pipeline

theorem last_eq {p : Pipeline} {done : List Stage} {stage : Stage}
    (h : p.stages = done ++ [stage]) : p.last = stage := by
  simp [last, h]

theorem mapLast_eq (f : Stage → Stage) {p : Pipeline} {done : List Stage} {stage : Stage}
    (h : p.stages = done ++ [stage]) : (p.mapLast f).stages = done ++ [f stage] := by
  change p.stages.dropLast ++ [f p.last] = _
  rw [last_eq h, h, List.dropLast_concat]

theorem mapLast_redirected_of_contains {p : Pipeline} {r : Redirection}
    (h : p.last.redirections.contains r.stream = true) : p.mapLast (·.redirected r) = p := by
  ext1
  have hlast : p.last.redirected r = p.last := by
    rw [Stage.redirected, RedirectionSet.insert_of_contains h]
  change p.stages.dropLast ++ [p.last.redirected r] = p.stages
  rw [hlast]
  exact List.dropLast_concat_getLast p.ne_nil

end Pipeline

namespace Reading

/-! ## What a state takes behind blanks -/

theorem completes_redirection {st : State} {stage : Stage} {b : List Char} {r : Redirection}
    {p : Pipeline} (hstage : st.phase.stage? = some stage) (hb : ∀ c ∈ b, Text.isBlank c = true)
    (hr : WordClass.IsWord (targetClass r.stream r.doubled) r.filespec.toList)
    (hp : p.stages = st.done ++ [stage.redirected r]) :
    Completes st (b ++ (r.operator.symbol.toList ++ ' ' :: r.filespec.toList)) p := by
  have hop : Reads (b ++ (r.operator.symbol.toList ++ ' ' :: r.filespec.toList))
      (.operator r.operator) (' ' :: r.filespec.toList) := by
    refine Reads.of_symbol _ hb fun c hc => ?_
    cases hc
    rfl
  have hw := reads_spaced_word (r := []) hr (fun h => absurd h (targetClass_ne_argument _ _)) .nil
  rw [List.append_nil] at hw
  have hredirection := readsRedirection_iff.2 ⟨_, hop, hw⟩
  have htail : ReadsTail [] [] := .inl ⟨.endOfLine rfl, rfl⟩
  exact completes_of_stage? hstage ⟨[r], [], [], .cons hredirection .nil, htail, hp⟩

theorem completes_argument {done : List Stage} {command : Command} {b : List Char} {w : String}
    {p : Pipeline} (hb : ∀ c ∈ b, Text.isBlank c = true)
    (hw : WordClass.IsWord .argument w.toList) (hpipe : w.toList.head? ≠ some '|')
    (hp : p.stages = done ++ [Stage.given w ⟨command, .empty⟩]) :
    Completes ⟨done, .arguments command⟩ (b ++ w.toList) p := by
  have hread := Reads.of_isWord (r := []) hb hw (fun _ => hpipe) .nil
  rw [List.append_nil, String.ofList_toList] at hread
  have htail : ReadsTail [] [] := .inl ⟨.endOfLine rfl, rfl⟩
  exact ⟨[w], [], .cons hread .nil, [], [], [], .nil, htail, hp⟩

/-- A word is refused behind a redirection. -/
theorem fault_of_isWord {stage : Stage} {w : String} (hw : WordClass.IsWord .argument w.toList)
    (hpipe : w.toList.head? ≠ some '|') :
    Fault (.redirections stage) w.toList (.unexpected (.word .argument w) .redirection) := by
  have hop := Operator.split?_eq_none_of_isWord (r := []) hw (fun _ => hpipe) .nil
  rw [List.append_nil] at hop
  have hsplit := (WordClass.isWord_iff_split.1 hw).1
  have hscan := Token.scan_of_classes (m := .operator) rfl hop hsplit hw.ne_nil
  rw [String.ofList_toList] at hscan
  exact .unexpected hscan .redirections

namespace Finishes

variable {line : String} {p : Pipeline} {st : State} {stage : Stage} {front b : List Char}

theorem isBlank_append (h : Finishes line p st stage front b) :
    ∀ c ∈ b ++ [' '], Text.isBlank c = true := by
  intro c hc
  rcases List.mem_append.1 hc with hc | hc
  · exact h.blanks c hc
  · exact isBlank_of_mem_space hc

/-- Behind the line and a space the reading goes on as it ended. -/
theorem parse_append (h : Finishes line p st stage front b) (s : String) :
    Pipeline.parse (line ++ " " ++ s) =
      (resume st ⟨Text.byteLength front, (b ++ [' ']) ++ s.toList⟩).outcome := by
  refine h.parse_eq _ _ (by simp [h.toList_eq]) ?_
  refine admits_of_head_blank fun c hc => h.isBlank_append c (List.mem_of_head? ?_)
  cases b <;> exact hc

theorem parse_append_redirection (h : Finishes line p st stage front b) {r : Redirection}
    (hr : WordClass.IsWord (targetClass r.stream r.doubled) r.filespec.toList) :
    Pipeline.parse (line ++ " " ++ r.operator.symbol ++ " " ++ r.filespec) =
      .ok (p.mapLast (·.redirected r)) := by
  have hline : line ++ " " ++ r.operator.symbol ++ " " ++ r.filespec =
      line ++ " " ++ (r.operator.symbol ++ " " ++ r.filespec) := by
    simp only [String.append_assoc]
  rw [hline, h.parse_append]
  refine resume_of_completes ?_
  simpa using completes_redirection h.stage?_eq h.isBlank_append hr
    (Pipeline.mapLast_eq (·.redirected r) h.stages_eq)

theorem parse_append_argument (h : Finishes line p st stage front b) {w : String}
    (hw : WordClass.IsWord .argument w.toList) (hpipe : w.toList.head? ≠ some '|')
    (hset : stage.redirections = .empty) :
    Pipeline.parse (line ++ " " ++ w) = .ok (p.mapLast (·.given w)) := by
  have hphase := h.phase_eq
  rw [if_pos hset] at hphase
  have hstages := Pipeline.mapLast_eq (·.given w) h.stages_eq
  rw [h.parse_append]
  obtain ⟨done, phase⟩ := st
  obtain ⟨command, set⟩ := stage
  cases hphase
  cases hset
  exact resume_of_completes (completes_argument h.isBlank_append hw hpipe hstages)

theorem parse_append_refused (h : Finishes line p st stage front b) {w : String}
    (hw : WordClass.IsWord .argument w.toList) (hpipe : w.toList.head? ≠ some '|')
    (hset : stage.redirections ≠ .empty) :
    Pipeline.parse (line ++ " " ++ w) = .error
      ⟨Text.byteLength line.toList + 1, .unexpected (.word .argument w) .redirection⟩ := by
  have hphase := h.phase_eq
  rw [if_neg hset] at hphase
  have hhead : ∀ c ∈ w.toList.head?, Text.isBlank c = false := by
    intro c hc
    obtain ⟨v, hv⟩ := List.head?_eq_some_iff.1 hc
    rw [hv] at hw
    exact hw.head.1
  have hskip := Cursor.skipBlanks_append (n := Text.byteLength front) h.isBlank_append hhead
  have hspace : Char.utf8Size ' ' = 1 := rfl
  rw [h.parse_append, outcome_eq_error_iff, hskip, hphase]
  · exact fault_of_isWord hw hpipe
  · rw [hskip, h.toList_eq]
    simp [hspace, Nat.add_assoc]

end Finishes

end Reading

/-- A line that is read as a pipeline takes a redirection behind it, and a word if its last stage
has no redirection. -/
theorem Pipeline.takesMore_of_parse {line : String} {p : Pipeline}
    (h : Pipeline.parse line = .ok p) : TakesMore line p := by
  obtain ⟨st, stage, front, b, hfinishes⟩ := Reading.exists_finishes h
  have hlast := last_eq hfinishes.stages_eq
  exact {
    redirection := fun r hr => by
      rw [← Reading.targetClass_eq] at hr
      exact hfinishes.parse_append_redirection hr
    second := fun r hr hcontains => by
      rw [← Reading.targetClass_eq] at hr
      rw [hfinishes.parse_append_redirection hr, mapLast_redirected_of_contains hcontains]
    argument := fun w hw hpipe hset => by
      rw [hlast] at hset
      exact hfinishes.parse_append_argument hw hpipe (RedirectionSet.isEmpty_iff.1 hset)
    refused := fun w hw hpipe hset => by
      rw [hlast] at hset
      have hne : stage.redirections ≠ .empty := fun h =>
        Bool.false_ne_true (hset.symm.trans (RedirectionSet.isEmpty_iff.2 h))
      exact ⟨_, hfinishes.parse_append_refused hw hpipe hne, rfl⟩ }

/-- A quoted run, a backslash before a blank, a quote that delimits nothing, and a blank at the
end. -/
theorem Pipeline.takesMore_of_parse_blanks :
    Pipeline.parse "e \"x y\" | a b\\ >>\to 2> \"e " = .ok ⟨[⟨⟨"e", ["\"x y\""]⟩, .empty⟩,
      ⟨⟨"a", ["b\\"]⟩, ⟨some ⟨true, "o"⟩, some ⟨false, "\"e"⟩, none⟩⟩], by simp⟩ ∧
    TakesMore "e \"x y\" | a b\\ >>\to 2> \"e " ⟨[⟨⟨"e", ["\"x y\""]⟩, .empty⟩,
      ⟨⟨"a", ["b\\"]⟩, ⟨some ⟨true, "o"⟩, some ⟨false, "\"e"⟩, none⟩⟩], by simp⟩ :=
  have h : Pipeline.parse "e \"x y\" | a b\\ >>\to 2> \"e " = _ := by decide +kernel
  ⟨h, Pipeline.takesMore_of_parse h⟩

end ShellPipeline
