import ShellPipeline.Reading

/-!
# What a token does

`Takes st x events st'` lists the tokens that a state takes, what happens, and the state in which
reading goes on. `Refuses phase t expected` lists the tokens that end a reading, with what could
have come instead. Together with the end of the line they are all that a token makes of a state
(`act_eq_more_iff`, `act_eq_ok_iff`, `act_eq_error_iff`). `State.step` does the same, and notes
before it that the token was read (`step_eq_more_iff`, `step_eq_ok_iff`, `step_eq_error_iff`).
-/

namespace ShellPipeline.Reading

theorem targetClass_ne_argument (stream : Stream) (doubled : Bool) :
    targetClass stream doubled ≠ .argument := by
  cases stream <;> cases doubled <;> simp [targetClass]

theorem targetClass_eq_filespec {stream : Stream} {doubled : Bool}
    (h : ¬ (stream = .input ∧ doubled = true)) : targetClass stream doubled = .filespec := by
  cases stream with
  | output | error => rfl
  | input =>
    cases doubled with
    | false => rfl
    | true => exact absurd ⟨rfl, rfl⟩ h

/-- The stage that may be complete in a phase. -/
def Phase.stage? : Phase → Option Stage
  | .arguments command => some ⟨command, .empty⟩
  | .redirections stage => some stage
  | _ => none

/-- The stage with more redirections, of which those count whose stream is not rerouted yet. -/
def withRedirections (stage : Stage) (rs : List Redirection) : Stage :=
  { stage with redirections := rs.foldl .insert stage.redirections }

/-- The tokens that a state takes. -/
inductive Takes : State → Lexeme → List Event → State → Prop
  | program {done : List Stage} {w : String} {n : Nat} :
    Takes ⟨done, .program⟩ ⟨.word .filespec w, n⟩ [] ⟨done, .arguments ⟨w, []⟩⟩
  | argument {done : List Stage} {command : Command} {w : String} {n : Nat} :
    Takes ⟨done, .arguments command⟩ ⟨.word .argument w, n⟩ []
      ⟨done, .arguments { command with arguments := command.arguments ++ [w] }⟩
  | redirect {done : List Stage} {phase : Phase} {stage : Stage} {stream : Stream}
    {doubled : Bool} {n : Nat} : phase.stage? = some stage →
    Takes ⟨done, phase⟩ ⟨.operator (.redirect stream doubled), n⟩ []
      ⟨done, .target stage stream doubled n⟩
  | target {done : List Stage} {stage : Stage} {stream : Stream} {doubled : Bool} {w : String}
    {m n : Nat} :
    Takes ⟨done, .target stage stream doubled m⟩ ⟨.word (targetClass stream doubled) w, n⟩
      (addRedirection stage.redirections ⟨⟨doubled, w⟩, stream⟩ m).1
      ⟨done, .redirections (withRedirections stage [⟨⟨doubled, w⟩, stream⟩])⟩
  | pipe {done : List Stage} {phase : Phase} {stage : Stage} {n : Nat} :
    phase.stage? = some stage →
    Takes ⟨done, phase⟩ ⟨.operator .pipe, n⟩ [.completed done.length stage]
      ⟨done ++ [stage], .program⟩

/-- The tokens that a phase refuses, and what it asks for instead. A command refuses a word that
is not an argument, although its mode lets no such word be read. -/
inductive Refuses : Phase → Token → Expected → Prop
  | program {t : Token} : (∀ w, t ≠ .word .filespec w) → Refuses .program t .program
  | arguments {command : Command} {k : WordClass} {w : String} : k ≠ .argument →
    Refuses (.arguments command) (.word k w) .redirection
  | target {stage : Stage} {stream : Stream} {doubled : Bool} {n : Nat} {t : Token} :
    (∀ w, t ≠ .word (targetClass stream doubled) w) →
    Refuses (.target stage stream doubled n) t (targetClass stream doubled).mode.expected
  | redirections {stage : Stage} {k : WordClass} {w : String} :
    Refuses (.redirections stage) (.word k w) .redirection

theorem act_of_stage? {st : State} {x : Lexeme} {stage : Stage}
    (h : st.phase.stage? = some stage) (hx : ∀ w, x.token ≠ .word .argument w) :
    st.act x = stepBehind st.done stage x := by
  obtain ⟨done, phase⟩ := st
  cases phase with
  | program | target => cases h
  | arguments command =>
    cases h
    simp only [State.act]
  | redirections stage =>
    cases h
    rfl

theorem act_of_takes {st st' : State} {x : Lexeme} {events : List Event}
    (h : Takes st x events st') : st.act x = .more events st' := by
  cases h with
  | program | argument => rfl
  | redirect hstage | pipe hstage => exact act_of_stage? hstage (by simp)
  | target => simp only [State.act, if_pos, addRedirection, withRedirections, List.foldl]

theorem step_of_takes {st st' : State} {x : Lexeme} {events : List Event}
    (h : Takes st x events st') :
    st.step x = .more (.read st.phase.mode x :: events) st' :=
  congrArg (Step.after _) (act_of_takes h)

theorem token_ne_endOfLine_of_takes {st st' : State} {x : Lexeme} {events : List Event}
    (h : Takes st x events st') : x.token ≠ .endOfLine :=
  token_ne_endOfLine_of_step (step_of_takes h)

theorem takes_of_stepBehind {st st' : State} {x : Lexeme} {events : List Event} {stage : Stage}
    (hstage : st.phase.stage? = some stage) (h : stepBehind st.done stage x = .more events st') :
    Takes st x events st' := by
  obtain ⟨t, n⟩ := x
  unfold stepBehind at h
  split at h
  · next hx =>
    cases h
    obtain rfl := hx
    exact .redirect hstage
  · next hx =>
    cases h
    obtain rfl := hx
    exact .pipe hstage
  · cases h
  · cases h

theorem act_eq_more_iff {st st' : State} {x : Lexeme} {events : List Event} :
    st.act x = .more events st' ↔ Takes st x events st' := by
  refine ⟨fun h => ?_, act_of_takes⟩
  obtain ⟨done, phase⟩ := st
  obtain ⟨t, n⟩ := x
  cases phase with
  | program =>
    simp only [State.act] at h
    split at h
    · cases h
      exact .program
    · cases h
  | arguments command =>
    simp only [State.act] at h
    split at h
    · cases h
      exact .argument
    · exact takes_of_stepBehind rfl h
  | target stage stream doubled offset =>
    simp only [State.act] at h
    split at h
    · split at h
      · next hk =>
        cases h
        subst hk
        exact .target
      · cases h
    · cases h
  | redirections stage => exact takes_of_stepBehind rfl h

/-- A token is taken exactly as `Takes` says. -/
theorem step_eq_more_iff {st st' : State} {x : Lexeme} {events : List Event} :
    st.step x = .more events st' ↔
      ∃ acts, Takes st x acts st' ∧ events = .read st.phase.mode x :: acts := by
  simp only [State.step, Step.after_eq_more_iff, act_eq_more_iff]

theorem takes_of_move {st st' : State} {c c' : Cursor} {x : Lexeme} {events : List Event}
    (h : st.move c = .more x events st' c') :
    ∃ acts, Takes st x acts st' ∧ events = .read st.phase.mode x :: acts :=
  step_eq_more_iff.1 (move_eq_more h).2

theorem act_eq_ok_iff {st : State} {x : Lexeme} {events : List Event} {p : Pipeline} :
    st.act x = .stop events (.ok p) ↔ x.token = .endOfLine ∧ ∃ stage,
      st.phase.stage? = some stage ∧ events = [.completed st.done.length stage] ∧
        p.stages = st.done ++ [stage] := by
  have behind : ∀ {stage}, st.phase.stage? = some stage →
      (stepBehind st.done stage x = .stop events (.ok p) ↔ x.token = .endOfLine ∧
        events = [.completed st.done.length stage] ∧ p.stages = st.done ++ [stage]) := by
    intro stage hstage
    unfold stepBehind reject
    split <;> simp_all [Pipeline.ext_iff, eq_comm]
  obtain ⟨done, phase⟩ := st
  cases phase with
  | program =>
    simp only [State.act, reject, Phase.stage?]
    split <;> simp
  | arguments command =>
    simp only [State.act]
    split
    · next w hx => simp [hx]
    · simp [behind rfl, Phase.stage?]
  | target stage stream doubled offset =>
    simp only [State.act, reject, Phase.stage?]
    split
    · split <;> simp
    · simp
  | redirections stage => simp [State.act, behind rfl, Phase.stage?]

/-- The end of the line ends a reading well behind a stage, and nothing else does. -/
theorem step_eq_ok_iff {st : State} {x : Lexeme} {events : List Event} {p : Pipeline} :
    st.step x = .stop events (.ok p) ↔ x.token = .endOfLine ∧ ∃ stage,
      st.phase.stage? = some stage ∧
        events = [.read st.phase.mode x, .completed st.done.length stage] ∧
        p.stages = st.done ++ [stage] := by
  rw [State.step, Step.after_eq_stop_iff]
  simp only [act_eq_ok_iff]
  constructor
  · rintro ⟨acts, ⟨hx, stage, hstage, rfl, hp⟩, rfl⟩
    exact ⟨hx, stage, hstage, rfl, hp⟩
  · rintro ⟨hx, stage, hstage, rfl, hp⟩
    exact ⟨_, ⟨hx, stage, hstage, rfl, hp⟩, rfl⟩

/-- Behind a stage only a word is refused. -/
theorem word_of_stepBehind {done : List Stage} {stage : Stage} {x : Lexeme} {events : List Event}
    {e : ParseError} (h : stepBehind done stage x = .stop events (.error e)) :
    ∃ k w, x.token = .word k w := by
  unfold stepBehind at h
  split at h
  · cases h
  · cases h
  · cases h
  · next k w hx => exact ⟨k, w, hx⟩

theorem act_of_refuses {st : State} {t : Token} {n : Nat} {expected : Expected}
    (h : Refuses st.phase t expected) :
    st.act ⟨t, n⟩ = reject (st.phase.stage?.toList.map (.completed st.done.length)) ⟨t, n⟩
      expected := by
  obtain ⟨done, phase⟩ := st
  cases h with
  | program ht =>
    simp only [State.act]
    rfl
  | @arguments command k w hk =>
    have hstage : (Phase.arguments command).stage? = some ⟨command, .empty⟩ := rfl
    rw [act_of_stage? hstage (by simpa using hk)]
    rfl
  | target ht =>
    simp only [State.act]
    split
    · next k w => exact if_neg fun hk => ht w (by rw [hk])
    · rfl
  | redirections => rfl

theorem step_of_refuses {st : State} {t : Token} {n : Nat} {expected : Expected}
    (h : Refuses st.phase t expected) :
    st.step ⟨t, n⟩ = reject (.read st.phase.mode ⟨t, n⟩ ::
      st.phase.stage?.toList.map (.completed st.done.length)) ⟨t, n⟩ expected :=
  congrArg (Step.after _) (act_of_refuses h)

theorem act_eq_error_iff {st : State} {x : Lexeme} {events : List Event} {e : ParseError} :
    st.act x = .stop events (.error e) ↔
      events = st.phase.stage?.toList.map (.completed st.done.length) ∧ ∃ expected,
        Refuses st.phase x.token expected ∧ e = ⟨x.start, .unexpected x.token expected⟩ := by
  constructor
  · intro h
    suffices ∃ expected, Refuses st.phase x.token expected by
      obtain ⟨expected, hrefuses⟩ := this
      cases h.symm.trans (act_of_refuses hrefuses)
      exact ⟨rfl, expected, hrefuses, rfl⟩
    obtain ⟨done, phase⟩ := st
    obtain ⟨t, n⟩ := x
    cases phase with
    | program =>
      refine ⟨.program, .program fun w hx => ?_⟩
      obtain rfl : t = _ := hx
      cases h
    | arguments command =>
      by_cases hx : ∃ w, t = .word .argument w
      · obtain ⟨w, rfl⟩ := hx
        cases h
      · rw [act_of_stage? rfl (by simpa using hx)] at h
        obtain ⟨k, w, rfl⟩ := word_of_stepBehind h
        exact ⟨_, .arguments fun hk => hx ⟨w, by rw [hk]⟩⟩
    | target stage stream doubled offset =>
      refine ⟨_, .target fun w hx => ?_⟩
      obtain rfl : t = _ := hx
      cases h.symm.trans (act_of_takes .target)
    | redirections stage =>
      obtain ⟨k, w, rfl⟩ := word_of_stepBehind h
      exact ⟨_, .redirections⟩
  · rintro ⟨rfl, expected, hrefuses, rfl⟩
    exact act_of_refuses hrefuses

/-- A token that is refused ends a reading with an error at its start. -/
theorem step_eq_error_iff {st : State} {x : Lexeme} {events : List Event} {e : ParseError} :
    st.step x = .stop events (.error e) ↔
      events = .read st.phase.mode x :: st.phase.stage?.toList.map (.completed st.done.length) ∧
      ∃ expected, Refuses st.phase x.token expected ∧
        e = ⟨x.start, .unexpected x.token expected⟩ := by
  rw [State.step, Step.after_eq_stop_iff]
  simp only [act_eq_error_iff]
  constructor
  · rintro ⟨acts, ⟨rfl, hrefuses⟩, rfl⟩
    exact ⟨rfl, hrefuses⟩
  · rintro ⟨rfl, hrefuses⟩
    exact ⟨_, ⟨rfl, hrefuses⟩, rfl⟩

end ShellPipeline.Reading
