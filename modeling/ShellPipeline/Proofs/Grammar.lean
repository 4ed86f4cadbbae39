import ShellPipeline.Proofs.Steps
import ShellPipeline.Proofs.Tokens

/-!
# The grammar of a line

What a line spells out, without reference to the machine that reads it. `ReadsStages s stages`
holds when the whole of `s` is a pipeline of these stages: each stage is a program with its
arguments and its redirections, words are kept as they are written, and of the redirections of one
stream the first one counts.

`Completes st s p` is what a state of the machine demands of the text that is left, for the
pipeline to be `p`. It holds in front of a token exactly if it holds behind it
(`completes_of_step`, `advances_of_completes`), so that reading is sound (`readsStages_of_parse`)
and complete (`parse_of_readsStages`).
-/

namespace ShellPipeline

namespace RedirectionSet

/-- A set filled from a list holds what it held before, and the first of the list for each other
stream. -/
theorem get?_foldl_insert (rs : List Redirection) (set : RedirectionSet) (s : Stream) :
    (rs.foldl insert set).get? s = (set.get? s).or (rs.find? (·.stream == s)) := by
  induction rs generalizing set with
  | nil => simp
  | cons r rs ih =>
    rw [List.foldl_cons, ih, List.find?_cons]
    by_cases h : r.stream = s
    · subst h
      rw [get?_insert_self]
      cases set.get? r.stream <;> simp
    · rw [get?_insert_of_ne set h, beq_eq_false_iff_ne.2 h]

theorem get?_ofList (rs : List Redirection) (s : Stream) :
    (ofList rs).get? s = rs.find? (·.stream == s) := by
  rw [ofList, get?_foldl_insert, get?_empty, Option.none_or]

end RedirectionSet

/-! ## The grammar -/

/-- Any number of arguments. -/
inductive ReadsArguments : List Char → List String → List Char → Prop
  | nil {s : List Char} : ReadsArguments s [] s
  | cons {s t u : List Char} {w : String} {ws : List String} :
    Reads s (.word .argument w) t → ReadsArguments t ws u → ReadsArguments s (w :: ws) u

/-- An operator with its target, which is a keyword for a here-document and else a filespec. -/
inductive ReadsRedirection : List Char → Redirection → List Char → Prop
  | file {s t u : List Char} {stream : Stream} {doubled : Bool} {w : String} :
    ¬ (stream = .input ∧ doubled = true) →
    Reads s (.operator (.redirect stream doubled)) t → Reads t (.word .filespec w) u →
    ReadsRedirection s ⟨⟨doubled, w⟩, stream⟩ u
  | here {s t u : List Char} {w : String} :
    Reads s (.operator (.redirect .input true)) t → Reads t (.word .keyword w) u →
    ReadsRedirection s ⟨⟨true, w⟩, .input⟩ u

/-- Any number of redirections. -/
inductive ReadsRedirections : List Char → List Redirection → List Char → Prop
  | nil {s : List Char} : ReadsRedirections s [] s
  | cons {s t u : List Char} {r : Redirection} {rs : List Redirection} :
    ReadsRedirection s r t → ReadsRedirections t rs u → ReadsRedirections s (r :: rs) u

/-- A program with its arguments and redirections; the first redirection of each stream counts. -/
inductive ReadsStage : List Char → Stage → List Char → Prop
  | intro {s t u v : List Char} {program : String} {ws : List String} {rs : List Redirection}
    {set : RedirectionSet} :
    Reads s (.word .filespec program) t → ReadsArguments t ws u → ReadsRedirections u rs v →
    (∀ stream, set.get? stream = rs.find? (·.stream == stream)) →
    ReadsStage s ⟨⟨program, ws⟩, set⟩ v

/-- Stages between pipes, up to the end of the line. -/
inductive ReadsStages : List Char → List Stage → Prop
  | last {s t : List Char} {stage : Stage} :
    ReadsStage s stage t → Reads t .endOfLine [] → ReadsStages s [stage]
  | pipe {s t u : List Char} {stage : Stage} {stages : List Stage} :
    ReadsStage s stage t → Reads t (.operator .pipe) u → ReadsStages u stages →
    ReadsStages s (stage :: stages)

namespace Reading

theorem readsRedirection_iff {s u : List Char} {r : Redirection} :
    ReadsRedirection s r u ↔ ∃ t, Reads s (.operator r.operator) t ∧
      Reads t (.word (targetClass r.stream r.doubled) r.filespec) u := by
  constructor
  · intro h
    cases h with
    | file hfile hop hw => exact ⟨_, hop, by rwa [targetClass_eq_filespec hfile]⟩
    | here hop hw => exact ⟨_, hop, hw⟩
  · obtain ⟨⟨doubled, w⟩, stream⟩ := r
    rintro ⟨t, hop, hw⟩
    by_cases hhere : stream = .input ∧ doubled = true
    · obtain ⟨rfl, rfl⟩ := hhere
      exact .here hop hw
    · rw [targetClass_eq_filespec hhere] at hw
      exact .file hhere hop hw

/-! ## What is left to be read -/

/-- Behind a stage the line ends, or a pipe leads to more stages. -/
def ReadsTail (s : List Char) (stages : List Stage) : Prop :=
  (Reads s .endOfLine [] ∧ stages = []) ∨
    ∃ t, Reads s (.operator .pipe) t ∧ ReadsStages t stages

theorem readsStages_iff {s : List Char} {stages : List Stage} :
    ReadsStages s stages ↔ ∃ stage t tail, ReadsStage s stage t ∧ ReadsTail t tail ∧
      stages = stage :: tail := by
  constructor
  · rintro (⟨hstage, hend⟩ | ⟨hstage, hpipe, hstages⟩)
    · exact ⟨_, _, [], hstage, .inl ⟨hend, rfl⟩, rfl⟩
    · exact ⟨_, _, _, hstage, .inr ⟨_, hpipe, hstages⟩, rfl⟩
  · rintro ⟨stage, t, tail, hstage, ⟨hend, rfl⟩ | ⟨u, hpipe, hstages⟩, rfl⟩
    · exact .last hstage hend
    · exact .pipe hstage hpipe hstages

/-- The text goes on with redirections of the stage and then as the pipeline demands. -/
def CompletesStage (done : List Stage) (stage : Stage) (s : List Char) (p : Pipeline) : Prop :=
  ∃ rs t tail, ReadsRedirections s rs t ∧ ReadsTail t tail ∧
    p.stages = done ++ withRedirections stage rs :: tail

/-- What a state demands of the text that is left, for the pipeline to be `p`. -/
def Completes (st : State) (s : List Char) (p : Pipeline) : Prop :=
  match st.phase with
  | .program => ∃ stages, ReadsStages s stages ∧ p.stages = st.done ++ stages
  | .arguments command => ∃ ws t, ReadsArguments s ws t ∧
      CompletesStage st.done ⟨{ command with arguments := command.arguments ++ ws }, .empty⟩ t p
  | .target stage stream doubled _ => ∃ w t, Reads s (.word (targetClass stream doubled) w) t ∧
      CompletesStage st.done (withRedirections stage [⟨⟨doubled, w⟩, stream⟩]) t p
  | .redirections stage => CompletesStage st.done stage s p

/-! ## Soundness -/

theorem completes_of_stage? {st : State} {stage : Stage} {s : List Char} {p : Pipeline}
    (hstage : st.phase.stage? = some stage) (h : CompletesStage st.done stage s p) :
    Completes st s p := by
  obtain ⟨done, phase⟩ := st
  cases phase with
  | program | target => cases hstage
  | arguments command =>
    cases hstage
    exact ⟨[], s, .nil, by simpa using h⟩
  | redirections stage =>
    cases hstage
    exact h

/-- What is demanded behind a token is demanded in front of it. -/
theorem completes_of_step {st st' : State} {x : Lexeme} {events : List Event} {s r : List Char}
    {p : Pipeline} (h : st.step x = .more events st') (hr : Reads s x.token r)
    (hp : Completes st' r p) : Completes st s p := by
  obtain ⟨_, htakes, -⟩ := step_eq_more_iff.1 h
  cases htakes with
  | program =>
    obtain ⟨ws, t, hws, rs, u, tail, hrs, htail, hstages⟩ := hp
    refine ⟨_, readsStages_iff.2 ⟨_, u, tail, .intro hr hws hrs ?_, htail, rfl⟩, hstages⟩
    exact RedirectionSet.get?_ofList rs
  | argument =>
    obtain ⟨ws, t, hws, hstage⟩ := hp
    refine ⟨_ :: ws, t, .cons hr hws, ?_⟩
    simpa using hstage
  | redirect hstage =>
    obtain ⟨w, t, hw, rs, u, tail, hrs, htail, hstages⟩ := hp
    have hredirect : ReadsRedirection s ⟨⟨_, w⟩, _⟩ t := readsRedirection_iff.2 ⟨r, hr, hw⟩
    exact completes_of_stage? hstage ⟨_ :: rs, u, tail, .cons hredirect hrs, htail, hstages⟩
  | @target _ _ _ _ w => exact ⟨w, r, hr, hp⟩
  | pipe hstage =>
    obtain ⟨stages, hread, hstages⟩ := hp
    refine completes_of_stage? hstage ⟨[], s, stages, .nil, .inr ⟨r, hr, hread⟩, ?_⟩
    simpa [withRedirections] using hstages

theorem completes_of_stop {st : State} {x : Lexeme} {events : List Event} {s r : List Char}
    {p : Pipeline} (h : st.step x = .stop events (.ok p)) (hr : Reads s x.token r) :
    Completes st s p := by
  obtain ⟨hx, stage, hstage, -, hstages⟩ := step_eq_ok_iff.1 h
  rw [hx] at hr
  obtain ⟨-, rfl⟩ := Reads.endOfLine_iff.1 hr
  exact completes_of_stage? hstage ⟨[], s, [], .nil, .inl ⟨hr, rfl⟩, hstages⟩

theorem completes_of_resume {st : State} {c : Cursor} {p : Pipeline}
    (h : (resume st c).outcome = .ok p) : Completes st c.rest p := by
  fun_induction resume st c with
  | case1 st c x events st' c' hmove ih =>
    obtain ⟨hnext, hstep⟩ := move_eq_more hmove
    exact completes_of_step hstep (Cursor.reads_of_next hnext) (ih h)
  | case2 st c events outcome hmove =>
    obtain rfl : outcome = .ok p := h
    rcases move_eq_stop hmove with ⟨e, c', -, -, he⟩ | ⟨x, c', hnext, hstep⟩
    · cases he
    · exact completes_of_stop hstep (Cursor.reads_of_next hnext)

theorem readsStages_of_parse {line : String} {p : Pipeline} (h : Pipeline.parse line = .ok p) :
    ReadsStages line.toList p.stages := by
  obtain ⟨stages, hstages, hp⟩ := completes_of_resume h
  rwa [show p.stages = stages from hp]

/-! ## Completeness -/

theorem move_of_more {st st' : State} {c c' : Cursor} {x : Lexeme} {events : List Event}
    (hnext : c.next st.phase.mode = (.ok x, c')) (hstep : st.step x = .more events st') :
    st.move c = .more x events st' c' := by
  simp only [State.move, hnext, hstep]

theorem move_of_stop {st : State} {c c' : Cursor} {x : Lexeme} {events : List Event}
    {outcome : Except ParseError Pipeline} (hnext : c.next st.phase.mode = (.ok x, c'))
    (hstep : st.step x = .stop events outcome) : st.move c = .stop events outcome := by
  simp only [State.move, hnext, hstep]

/-- The text begins with a token of the mode of `st`, which leads to a state that demands `p` of
what follows, or which ends the reading with `p`. -/
def Advances (st : State) (s : List Char) (p : Pipeline) : Prop :=
  ∃ t r, Reads s t r ∧ t.ReadIn st.phase.mode ∧ ∀ n,
    (∃ events st', st.step ⟨t, n⟩ = .more events st' ∧ Completes st' r p) ∨
      ∃ events, st.step ⟨t, n⟩ = .stop events (.ok p)

theorem advances_of_completesStage {st : State} {stage : Stage} {s : List Char} {p : Pipeline}
    (hstage : st.phase.stage? = some stage) (h : CompletesStage st.done stage s p) :
    Advances st s p := by
  obtain ⟨rs, t, tail, hrs, htail, hp⟩ := h
  cases hrs with
  | nil =>
    rcases htail with ⟨hend, rfl⟩ | ⟨u, hpipe, hstages⟩
    · exact ⟨.endOfLine, [], hend, trivial, fun n =>
        .inr ⟨_, step_eq_ok_iff.2 ⟨rfl, stage, hstage, rfl, hp⟩⟩⟩
    · refine ⟨.operator .pipe, u, hpipe, trivial, fun n =>
        .inl ⟨_, _, step_of_takes (.pipe hstage), tail, hstages, ?_⟩⟩
      simpa [withRedirections] using hp
  | @cons _ _ _ r rs hr hrs =>
    obtain ⟨u, hop, hw⟩ := readsRedirection_iff.1 hr
    exact ⟨.operator r.operator, u, hop, trivial, fun n =>
      .inl ⟨_, _, step_of_takes (.redirect hstage), r.filespec, _, hw, rs, t, tail, hrs, htail,
        hp⟩⟩

/-- What is demanded in front of a token is demanded behind it, or it was the last one. -/
theorem advances_of_completes {st : State} {s : List Char} {p : Pipeline}
    (h : Completes st s p) : Advances st s p := by
  obtain ⟨done, phase⟩ := st
  cases phase with
  | program =>
    obtain ⟨stages, hstages, hp⟩ := h
    obtain ⟨stage, v, tail, hstage, htail, rfl⟩ := readsStages_iff.1 hstages
    obtain ⟨hprogram, hws, hrs, hset⟩ := hstage
    rename_i t u program ws rs set
    obtain rfl : set = RedirectionSet.ofList rs := by
      ext1 stream
      rw [hset, RedirectionSet.get?_ofList]
    exact ⟨_, t, hprogram, rfl, fun n =>
      .inl ⟨_, _, step_of_takes .program, ws, u, hws, rs, v, tail, hrs, htail, hp⟩⟩
  | arguments command =>
    obtain ⟨ws, t, hws, hstage⟩ := h
    cases hws with
    | nil => exact advances_of_completesStage rfl (by simpa using hstage)
    | @cons _ t' _ w ws hw hws =>
      refine ⟨_, t', hw, rfl, fun n => .inl ⟨_, _, step_of_takes .argument, ws, t, hws, ?_⟩⟩
      simpa using hstage
  | target stage stream doubled offset =>
    obtain ⟨w, t, hw, hstage⟩ := h
    exact ⟨_, t, hw, rfl, fun n => .inl ⟨_, _, step_of_takes .target, hstage⟩⟩
  | redirections stage => exact advances_of_completesStage rfl h

theorem move_of_completes {st : State} {c : Cursor} {p : Pipeline} (h : Completes st c.rest p) :
    (∃ x events st' c', st.move c = .more x events st' c' ∧ Completes st' c'.rest p) ∨
      ∃ events, st.move c = .stop events (.ok p) := by
  obtain ⟨t, r, hr, hm, hstep⟩ := advances_of_completes h
  have hnext := Cursor.next_of_reads hr hm
  rcases hstep c.skipBlanks.offset with ⟨events, st', hst, hp⟩ | ⟨events, hst⟩
  · exact .inl ⟨_, events, st', _, move_of_more hnext hst, hp⟩
  · exact .inr ⟨events, move_of_stop hnext hst⟩

theorem resume_of_completes {st : State} {c : Cursor} {p : Pipeline}
    (h : Completes st c.rest p) : (resume st c).outcome = .ok p := by
  fun_induction resume st c with
  | case1 st c x events st' c' hmove ih =>
    rcases move_of_completes h with ⟨_, _, _, _, hmove', hp⟩ | ⟨_, hmove'⟩
    · cases hmove.symm.trans hmove'
      exact ih hp
    · cases hmove.symm.trans hmove'
  | case2 st c events outcome hmove =>
    rcases move_of_completes h with ⟨_, _, _, _, hmove', -⟩ | ⟨_, hmove'⟩
    · cases hmove.symm.trans hmove'
    · cases hmove.symm.trans hmove'
      rfl

theorem parse_of_readsStages {line : String} {p : Pipeline} (h : ReadsStages line.toList p.stages) :
    Pipeline.parse line = .ok p := by
  have hcompletes : Completes .start line.toList p := ⟨p.stages, h, rfl⟩
  exact resume_of_completes hcompletes

end Reading

/-- A line is read as a pipeline exactly if it is, as a whole, that pipeline of the grammar. -/
theorem Pipeline.parse_eq_ok_iff_readsStages (line : String) (p : Pipeline) :
    Pipeline.parse line = .ok p ↔ ReadsStages line.toList p.stages :=
  ⟨Reading.readsStages_of_parse, Reading.parse_of_readsStages⟩

end ShellPipeline
