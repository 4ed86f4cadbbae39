import ShellPipeline.Cursor
import ShellPipeline.Pipeline

/-!
# Reading a line as a pipeline

The grammar of a line is

```text
pipeline    = stage { "|" stage }
stage       = filespec { argument } { redirection }
redirection = ( "<" | ">" | ">>" | "2>" | "2>>" ) filespec | "<<" keyword
```

Every token decides alone how reading goes on, so a line is read by a machine that takes one token
a step. Its state is the list of finished stages and what it has of the next one; the state
tells the mode of the next token. A reading keeps the tokens taken and what happened on the way,
beside the outcome, so that it also says how far a faulty line was read.

`Pipeline.parse` is the outcome alone.
-/

namespace ShellPipeline

instance instDecidableEqExcept {α β : Type} [DecidableEq α] [DecidableEq β] :
    DecidableEq (Except α β)
  | .ok a, .ok b => decidable_of_iff (a = b) (by simp)
  | .error a, .error b => decidable_of_iff (a = b) (by simp)
  | .ok _, .error _ => .isFalse (by simp)
  | .error _, .ok _ => .isFalse (by simp)

/-- What happens while a line is read. -/
inductive Event
  /-- A token was read in a mode, whether it is taken or not. -/
  | read (mode : Mode) (x : Lexeme)
  /-- A redirection did not count, as its stream is rerouted already; its operator starts at the
  offset. -/
  | dropped (stream : Stream) (offset : Nat)
  /-- A stage is complete, and so many were complete before it. -/
  | completed (index : Nat) (stage : Stage)
  deriving DecidableEq, Repr

namespace Reading

/-- What has been read of a stage. -/
inductive Phase
  /-- Nothing: a program name follows. -/
  | program
  /-- A command, to which arguments may be added. -/
  | arguments (command : Command)
  /-- The operator of a redirection, which starts at the offset: its target follows. -/
  | target (stage : Stage) (stream : Stream) (doubled : Bool) (offset : Nat)
  /-- A redirection: no argument may follow any more. -/
  | redirections (stage : Stage)
  deriving DecidableEq, Repr

/-- What the target of an operator is made of. -/
def targetClass : Stream → Bool → WordClass
  | .input, true => .keyword
  | _, _ => .filespec

/-- The mode in which the next token is read. -/
def Phase.mode : Phase → Mode
  | .program => .filespec
  | .arguments _ => .argument
  | .target _ stream doubled _ => (targetClass stream doubled).mode
  | .redirections _ => .operator

/-- The finished stages, and what has been read of the next one. -/
structure State where
  done : List Stage
  phase : Phase
  deriving DecidableEq, Repr

def State.start : State := ⟨[], .program⟩

/-- What a token does: reading goes on in a state, or it ends. -/
inductive Step
  | more (events : List Event) (next : State)
  | stop (events : List Event) (outcome : Except ParseError Pipeline)

/-- The end of a reading at a token that the grammar does not take. -/
def reject (events : List Event) (x : Lexeme) (expected : Expected) : Step :=
  .stop events (.error ⟨x.start, .unexpected x.token expected⟩)

/-- What a token does that may not be part of the command any more: it begins a redirection, or it
completes the stage. -/
def stepBehind (done : List Stage) (stage : Stage) (x : Lexeme) : Step :=
  let completed := Event.completed done.length stage
  match x.token with
  | .operator (.redirect stream doubled) => .more [] ⟨done, .target stage stream doubled x.start⟩
  | .operator .pipe => .more [completed] ⟨done ++ [stage], .program⟩
  | .endOfLine => .stop [completed] (.ok ⟨done ++ [stage], by simp⟩)
  | .word _ _ => reject [completed] x .redirection

/-- The redirections of a stage with one more, and the event if it does not count. -/
def addRedirection (set : RedirectionSet) (r : Redirection) (offset : Nat) :
    List Event × RedirectionSet :=
  (if set.contains r.stream then [.dropped r.stream offset] else [], set.insert r)

/-- What a token makes of a state. -/
def State.act (st : State) (x : Lexeme) : Step :=
  match st.phase with
  | .program =>
    match x.token with
    | .word .filespec program => .more [] ⟨st.done, .arguments ⟨program, []⟩⟩
    | _ => reject [] x .program
  | .arguments command =>
    match x.token with
    | .word .argument w =>
      .more [] ⟨st.done, .arguments { command with arguments := command.arguments ++ [w] }⟩
    | _ => stepBehind st.done ⟨command, .empty⟩ x
  | .target stage stream doubled offset =>
    let kind := targetClass stream doubled
    match x.token with
    | .word k w =>
      if k = kind then
        let (events, set) := addRedirection stage.redirections ⟨⟨doubled, w⟩, stream⟩ offset
        .more events ⟨st.done, .redirections { stage with redirections := set }⟩
      else reject [] x kind.mode.expected
    | _ => reject [] x kind.mode.expected
  | .redirections stage => stepBehind st.done stage x

/-- An event, and then those of a step. -/
def Step.after (event : Event) : Step → Step
  | .more events next => .more (event :: events) next
  | .stop events outcome => .stop (event :: events) outcome

/-- What a token does in a state, in whose mode it was read. -/
def State.step (st : State) (x : Lexeme) : Step := (st.act x).after (.read st.phase.mode x)

theorem Step.after_eq_more_iff {step : Step} {event : Event} {events : List Event}
    {next : State} : step.after event = .more events next ↔
      ∃ acts, step = .more acts next ∧ events = event :: acts := by
  constructor
  · intro h
    cases step with
    | more acts st =>
      cases h
      exact ⟨acts, rfl, rfl⟩
    | stop acts outcome => cases h
  · rintro ⟨acts, rfl, rfl⟩
    rfl

theorem Step.after_eq_stop_iff {step : Step} {event : Event} {events : List Event}
    {outcome : Except ParseError Pipeline} : step.after event = .stop events outcome ↔
      ∃ acts, step = .stop acts outcome ∧ events = event :: acts := by
  constructor
  · intro h
    cases step with
    | more acts st => cases h
    | stop acts result =>
      cases h
      exact ⟨acts, rfl, rfl⟩
  · rintro ⟨acts, rfl, rfl⟩
    rfl

theorem token_ne_endOfLine_of_step {st st' : State} {x : Lexeme} {events : List Event}
    (h : st.step x = .more events st') : x.token ≠ .endOfLine := by
  intro hx
  obtain ⟨acts, hact, -⟩ := Step.after_eq_more_iff.1 h
  unfold State.act at hact
  cases hp : st.phase <;> simp [hp, hx, stepBehind, reject] at hact

end Reading

/-- How a line was read. -/
structure Reading where
  /-- The tokens taken, without the end of the line and without a token that was not taken. -/
  lexemes : List Lexeme
  events : List Event
  /-- The pipeline, or the first place where the line cannot be read on. -/
  outcome : Except ParseError Pipeline

namespace Reading

/-- The reading that begins with a token and what it did. -/
def after (x : Lexeme) (events : List Event) (r : Reading) : Reading :=
  ⟨x :: r.lexemes, events ++ r.events, r.outcome⟩

/-- What the token at a place does: reading goes on in a state at a place behind it, or ends. -/
inductive Move
  | more (x : Lexeme) (events : List Event) (next : State) (place : Cursor)
  | stop (events : List Event) (outcome : Except ParseError Pipeline)

/-- What the token at a place does in a state. -/
def State.move (st : State) (c : Cursor) : Move :=
  match c.next st.phase.mode with
  | (.error e, _) => .stop [] (.error e)
  | (.ok x, c') =>
    match st.step x with
    | .more events st' => .more x events st' c'
    | .stop events outcome => .stop events outcome

theorem move_eq_more {st st' : State} {c c' : Cursor} {x : Lexeme} {events : List Event}
    (h : st.move c = .more x events st' c') :
    c.next st.phase.mode = (.ok x, c') ∧ st.step x = .more events st' := by
  unfold State.move at h
  split at h
  · cases h
  · next hnext =>
    split at h
    · next hstep =>
      cases h
      exact ⟨hnext, hstep⟩
    · cases h

theorem move_eq_stop {st : State} {c : Cursor} {events : List Event}
    {outcome : Except ParseError Pipeline} (h : st.move c = .stop events outcome) :
    (∃ e c', c.next st.phase.mode = (.error e, c') ∧ events = [] ∧ outcome = .error e) ∨
      ∃ x c', c.next st.phase.mode = (.ok x, c') ∧ st.step x = .stop events outcome := by
  unfold State.move at h
  split at h
  · next hnext =>
    cases h
    exact .inl ⟨_, _, hnext, rfl, rfl⟩
  · next hnext =>
    split at h
    · cases h
    · next hstep =>
      cases h
      exact .inr ⟨_, _, hnext, hstep⟩

theorem length_lt_of_move {st st' : State} {c c' : Cursor} {x : Lexeme} {events : List Event}
    (h : st.move c = .more x events st' c') : c'.rest.length < c.rest.length := by
  obtain ⟨hnext, hstep⟩ := move_eq_more h
  exact Cursor.length_rest_next_lt hnext (token_ne_endOfLine_of_step hstep)

/-- Reads on from a place in a state. -/
def resume (st : State) (c : Cursor) : Reading :=
  match _h : st.move c with
  | .more x events st' c' => (resume st' c').after x events
  | .stop events outcome => ⟨[], events, outcome⟩
termination_by c.rest.length
decreasing_by exact length_lt_of_move ‹_›

theorem resume_of_more {st st' : State} {c c' : Cursor} {x : Lexeme} {events : List Event}
    (h : st.move c = .more x events st' c') : resume st c = (resume st' c').after x events := by
  rw [resume]
  split
  · next h' =>
    rw [h] at h'
    cases h'
    rfl
  · next h' =>
    rw [h] at h'
    cases h'

theorem resume_of_stop {st : State} {c : Cursor} {events : List Event}
    {outcome : Except ParseError Pipeline} (h : st.move c = .stop events outcome) :
    resume st c = ⟨[], events, outcome⟩ := by
  rw [resume]
  split
  · next h' =>
    rw [h] at h'
    cases h'
  · next h' =>
    rw [h] at h'
    cases h'
    rfl

def ofLine (line : String) : Reading := resume .start (.start line)

end Reading

/-- The pipeline that a line spells out, or the first place where it cannot be read on. -/
def Pipeline.parse (line : String) : Except ParseError Pipeline := (Reading.ofLine line).outcome

end ShellPipeline
