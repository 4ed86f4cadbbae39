import ShellPipeline.Diagnostic
import ShellPipeline.Proofs.Runs

/-!
# Lines joined by a pipe

How a text is read does not depend on where it stands in a line, nor on the stages before it:
`Reading.behind` is a reading moved behind finished stages and a number of bytes, and
`resume_behind` says that this is what the moved state reads at the moved place.

Behind a line that is read as a pipeline a pipe is an operator. What follows it is therefore read
as a line of its own, moved behind the stages of the first one (`outcome_of_pipe`).
-/

namespace ShellPipeline

/-! ## Moving a reading -/

def Lexeme.shift (n : Nat) (x : Lexeme) : Lexeme := { x with start := x.start + n }

def Cursor.shift (n : Nat) (c : Cursor) : Cursor := { c with offset := c.offset + n }

def ParseError.shift (n : Nat) (e : ParseError) : ParseError := { e with offset := e.offset + n }

/-- The answer of a call, and the place behind it, so many bytes further. -/
def Cursor.answerShift (n : Nat) :
    Except ParseError Lexeme × Cursor → Except ParseError Lexeme × Cursor
  | (.ok x, c) => (.ok (x.shift n), c.shift n)
  | (.error e, c) => (.error (e.shift n), c.shift n)

/-- The stages of a pipeline behind others. -/
def Pipeline.behind (front : List Stage) (p : Pipeline) : Pipeline :=
  ⟨front ++ p.stages, List.append_ne_nil_of_right_ne_nil front p.ne_nil⟩

/-- The event behind so many stages and bytes. -/
def Event.behind (stages n : Nat) : Event → Event
  | .read mode x => .read mode (x.shift n)
  | .dropped stream offset => .dropped stream (offset + n)
  | .completed index stage => .completed (stages + index) stage

namespace Reading

/-- The operator in front of a target is as far behind as the rest. -/
def Phase.shift (n : Nat) : Phase → Phase
  | .target stage stream doubled offset => .target stage stream doubled (offset + n)
  | phase => phase

def State.behind (front : List Stage) (n : Nat) (st : State) : State :=
  ⟨front ++ st.done, st.phase.shift n⟩

def outcomeBehind (front : List Stage) (n : Nat) :
    Except ParseError Pipeline → Except ParseError Pipeline
  | .ok p => .ok (p.behind front)
  | .error e => .error (e.shift n)

def Step.behind (front : List Stage) (n : Nat) : Step → Step
  | .more events st => .more (events.map (.behind front.length n)) (st.behind front n)
  | .stop events outcome =>
    .stop (events.map (.behind front.length n)) (outcomeBehind front n outcome)

def Move.behind (front : List Stage) (n : Nat) : Move → Move
  | .more x events st c =>
    .more (x.shift n) (events.map (.behind front.length n)) (st.behind front n) (c.shift n)
  | .stop events outcome =>
    .stop (events.map (.behind front.length n)) (outcomeBehind front n outcome)

end Reading

/-- The reading of the same text behind other stages, and so many bytes further in the line. -/
def Reading.behind (front : List Stage) (n : Nat) (r : Reading) : Reading :=
  ⟨r.lexemes.map (.shift n), r.events.map (.behind front.length n),
    Reading.outcomeBehind front n r.outcome⟩

theorem Cursor.skipBlanks_shift (n : Nat) (c : Cursor) :
    (c.shift n).skipBlanks = c.skipBlanks.shift n := by
  simp only [skipBlanks, shift, Nat.add_right_comm]

theorem Cursor.next_shift (n : Nat) (c : Cursor) (m : Mode) :
    (c.shift n).next m = answerShift n (c.next m) := by
  simp only [next, skipBlanks_shift]
  cases hscan : Token.scan m c.skipBlanks.rest with
  | error found => simp [shift, hscan, answerShift, ParseError.shift]
  | ok tr =>
    obtain ⟨t, r⟩ := tr
    simp [shift, hscan, answerShift, Lexeme.shift, Lexeme.stop, Nat.add_right_comm]

namespace Reading

@[simp] theorem Phase.mode_shift (n : Nat) (phase : Phase) : (phase.shift n).mode = phase.mode := by
  cases phase <;> rfl

theorem stepBehind_behind (front done : List Stage) (n : Nat) (stage : Stage) (x : Lexeme) :
    stepBehind (front ++ done) stage (x.shift n) = (stepBehind done stage x).behind front n := by
  obtain ⟨t, start⟩ := x
  rcases t with (_ | ⟨stream, doubled⟩) | ⟨k, w⟩ | _ <;>
    simp [stepBehind, reject, Step.behind, State.behind, Phase.shift, Lexeme.shift,
      Event.behind, outcomeBehind, Pipeline.behind, ParseError.shift]

theorem act_behind (front : List Stage) (n : Nat) (st : State) (x : Lexeme) :
    (st.behind front n).act (x.shift n) = (st.act x).behind front n := by
  obtain ⟨done, phase⟩ := st
  obtain ⟨t, start⟩ := x
  cases phase with
  | program =>
    rcases t with op | ⟨_ | _ | _, w⟩ | _ <;> rfl
  | arguments command =>
    by_cases hx : ∃ w, t = .word .argument w
    · obtain ⟨w, rfl⟩ := hx
      rfl
    · have hx' : ∀ w, t ≠ .word .argument w := by simpa using hx
      rw [act_of_stage? rfl hx', act_of_stage? rfl hx']
      exact stepBehind_behind front done n _ _
  | target stage stream doubled offset =>
    rcases t with op | ⟨k, w⟩ | _
    case operator | endOfLine => rfl
    case word =>
      simp only [State.act, State.behind, Phase.shift, Lexeme.shift, addRedirection]
      split
      · split <;> rfl
      · rfl
  | redirections stage => exact stepBehind_behind front done n stage _

/-- A token does the same behind other stages. -/
theorem step_behind (front : List Stage) (n : Nat) (st : State) (x : Lexeme) :
    (st.behind front n).step (x.shift n) = (st.step x).behind front n := by
  have hmode : (st.behind front n).phase.mode = st.phase.mode := Phase.mode_shift n st.phase
  rw [State.step, State.step, act_behind, hmode]
  cases st.act x <;> rfl

theorem move_behind (front : List Stage) (n : Nat) (st : State) (c : Cursor) :
    (st.behind front n).move (c.shift n) = (st.move c).behind front n := by
  have hmode : (st.behind front n).phase.mode = st.phase.mode := Phase.mode_shift n st.phase
  unfold State.move
  rw [hmode, Cursor.next_shift]
  obtain ⟨answer, c'⟩ := c.next st.phase.mode
  cases answer with
  | error e => rfl
  | ok x =>
    simp only [Cursor.answerShift, step_behind]
    cases st.step x <;> rfl

/-- How a text is read does not depend on where it stands, nor on the stages before it. -/
theorem resume_behind (front : List Stage) (n : Nat) (st : State) (c : Cursor) :
    resume (st.behind front n) (c.shift n) = (resume st c).behind front n := by
  fun_induction resume st c with
  | case1 st c x events st' c' hmove ih =>
    have hmove' := move_behind front n st c
    rw [hmove] at hmove'
    rw [resume_of_more hmove', ih]
    simp [after, Reading.behind]
  | case2 st c events outcome hmove =>
    have hmove' := move_behind front n st c
    rw [hmove] at hmove'
    rw [resume_of_stop hmove']
    rfl

/-- What follows finished stages is read as a line of its own, moved behind them. -/
theorem resume_program (front : List Stage) (n : Nat) (s : List Char) :
    resume ⟨front, .program⟩ ⟨n, s⟩ = (resume .start ⟨0, s⟩).behind front n := by
  have hbehind := resume_behind front n .start ⟨0, s⟩
  simpa [State.behind, State.start, Phase.shift, Cursor.shift] using hbehind

/-! ## A pipe behind a line -/

/-- Blanks in front of a text do not change how it is read. -/
theorem resume_of_skipBlanks_eq (st : State) {c c' : Cursor} (h : c.skipBlanks = c'.skipBlanks) :
    resume st c = resume st c' := by
  have hmove : st.move c = st.move c' := by simp only [State.move, Cursor.next, h]
  cases hmove' : st.move c' with
  | more x events st' c₁ => rw [resume_of_more hmove', resume_of_more (hmove.trans hmove')]
  | stop events outcome => rw [resume_of_stop hmove', resume_of_stop (hmove.trans hmove')]

theorem resume_blank (st : State) {c : Char} (h : Text.isBlank c = true) (n : Nat)
    (s : List Char) : resume st ⟨n, c :: s⟩ = resume st ⟨n + c.utf8Size, s⟩ := by
  apply resume_of_skipBlanks_eq
  simp [Cursor.skipBlanks, Text.skipBlanks, h, Nat.add_assoc]

theorem move_of_pipe {st : State} {stage : Stage} {b : List Char} (n : Nat) (s : List Char)
    (hstage : st.phase.stage? = some stage) (hb : ∀ c ∈ b, Text.isBlank c = true) :
    st.move ⟨n, b ++ '|' :: s⟩ =
      .more ⟨.operator .pipe, n + Text.byteLength b⟩
        [.read st.phase.mode ⟨.operator .pipe, n + Text.byteLength b⟩,
          .completed st.done.length stage]
        ⟨st.done ++ [stage], .program⟩ ⟨n + Text.byteLength b + 1, s⟩ := by
  have hskip : Cursor.skipBlanks ⟨n, b ++ '|' :: s⟩ = ⟨n + Text.byteLength b, '|' :: s⟩ :=
    Cursor.skipBlanks_append hb (by rintro c ⟨⟩; rfl)
  have hreads : Reads (b ++ '|' :: s) (.operator .pipe) s := by
    rw [Reads.operator_iff, Text.skipBlanks_append hb]
    rfl
  have hnext := Cursor.next_of_reads (c := ⟨n, b ++ '|' :: s⟩) (m := st.phase.mode) hreads trivial
  have hsize : Char.utf8Size '|' = 1 := rfl
  have hmove := move_of_more hnext (step_of_takes (.pipe hstage))
  simpa [hskip, Lexeme.stop, Token.text, Operator.symbol, hsize] using hmove

/-- Behind a complete stage and blanks a pipe leads to what follows, read as a line of its own. -/
theorem outcome_of_pipe {st : State} {stage : Stage} {b : List Char} (n : Nat) (s : List Char)
    (hstage : st.phase.stage? = some stage) (hb : ∀ c ∈ b, Text.isBlank c = true) :
    (resume st ⟨n, b ++ '|' :: ' ' :: s⟩).outcome =
      outcomeBehind (st.done ++ [stage]) (n + Text.byteLength b + 2)
        (resume .start ⟨0, s⟩).outcome := by
  have hmove := move_of_pipe n (' ' :: s) hstage hb
  rw [resume_of_more hmove, after, resume_blank _ rfl, resume_program]
  rfl

/-- What stands behind a line and a pipe is read as a line of its own. -/
theorem parse_joined {l₁ : String} {p₁ : Pipeline} (h : Pipeline.parse l₁ = .ok p₁)
    (l₂ : String) : Pipeline.parse (l₁ ++ " | " ++ l₂) =
      outcomeBehind p₁.stages (Text.byteLength l₁.toList + 3) (Pipeline.parse l₂) := by
  obtain ⟨st, stage, front, b, hfinishes⟩ := exists_finishes h
  have hline := hfinishes.toList_eq
  have hblanks : ∀ c ∈ b ++ [' '], Text.isBlank c = true := by
    intro c hc
    rcases List.mem_append.1 hc with hc | hc
    · exact hfinishes.blanks c hc
    · rw [List.mem_singleton.1 hc]
      rfl
  have hadmits : st.phase.Admits b ((b ++ [' ']) ++ '|' :: ' ' :: l₂.toList) := by
    refine admits_of_head_blank fun c hc => hblanks c (List.mem_of_head? ?_)
    cases b <;> exact hc
  have hjoint : (l₁ ++ " | " ++ l₂).toList =
      front ++ ((b ++ [' ']) ++ '|' :: ' ' :: l₂.toList) := by
    simp [hline]
  have hplace : Text.byteLength front + Text.byteLength (b ++ [' ']) + 2 =
      Text.byteLength l₁.toList + 3 := by
    have hspace : Char.utf8Size ' ' = 1 := rfl
    rw [hline, Text.byteLength_append, Text.byteLength_append, Text.byteLength_cons, hspace,
      Text.byteLength_nil]
    omega
  rw [hfinishes.parse_eq _ _ hjoint hadmits, outcome_of_pipe _ _ hfinishes.stage?_eq hblanks,
    ← hfinishes.stages_eq, hplace]
  rfl

end Reading

theorem ParseError.diagnostic_shift (n : Nat) (e : ParseError) :
    (e.shift n).diagnostic = { e.diagnostic with offset := e.offset + n } := by
  obtain ⟨offset, _ | _⟩ := e <;> rfl

/-- Behind a line that is read as a pipeline and a pipe, a line is read as it is on its own. -/
theorem Pipeline.parse_append_pipe {l₁ l₂ : String} {p₁ : Pipeline}
    (h : Pipeline.parse l₁ = .ok p₁) :
    (∀ p₂, Pipeline.parse l₂ = .ok p₂ → ∃ p, Pipeline.parse (l₁ ++ " | " ++ l₂) = .ok p ∧
      p.stages = p₁.stages ++ p₂.stages) ∧
    ∀ e, Pipeline.parse l₂ = .error e → ∃ e', Pipeline.parse (l₁ ++ " | " ++ l₂) = .error e' ∧
      e'.diagnostic.kind = e.diagnostic.kind ∧ e'.diagnostic.found = e.diagnostic.found ∧
      e'.diagnostic.expected = e.diagnostic.expected ∧
      e'.offset = e.offset + Text.byteLength l₁.toList + 3 := by
  have hjoint := Reading.parse_joined h l₂
  constructor
  · intro p₂ h₂
    rw [h₂] at hjoint
    exact ⟨_, hjoint, rfl⟩
  · intro e he
    rw [he] at hjoint
    refine ⟨_, hjoint, ?_, ?_, ?_, (Nat.add_assoc _ _ _).symm⟩
    · rw [ParseError.diagnostic_shift]
    · rw [ParseError.diagnostic_shift]
    · rw [ParseError.diagnostic_shift]

/-- A literal pipe, a quote that delimits nothing and a backslash at the joint; behind it, two
stages or an open quote. -/
theorem Pipeline.parse_append_pipe_quotes :
    Pipeline.parse "\"é \"x | y\"z >o\\" =
      .ok ⟨[⟨⟨"\"é", ["\"x | y\"z"]⟩, ⟨some ⟨false, "o\\"⟩, none, none⟩⟩], by simp⟩ ∧
    Pipeline.parse "b<<E|c" = .ok ⟨[⟨⟨"b", []⟩, ⟨none, none, some ⟨true, "E"⟩⟩⟩,
      ⟨⟨"c", []⟩, .empty⟩], by simp⟩ ∧
    Pipeline.parse "d \"" = .error ⟨2, .unreadable '"' .argument⟩ ∧
    (∃ p, Pipeline.parse ("\"é \"x | y\"z >o\\" ++ " | " ++ "b<<E|c") = .ok p ∧
      p.stages = [⟨⟨"\"é", ["\"x | y\"z"]⟩, ⟨some ⟨false, "o\\"⟩, none, none⟩⟩] ++
        [⟨⟨"b", []⟩, ⟨none, none, some ⟨true, "E"⟩⟩⟩, ⟨⟨"c", []⟩, .empty⟩]) ∧
    ∃ e, Pipeline.parse ("\"é \"x | y\"z >o\\" ++ " | " ++ "d \"") = .error e ∧
      e.diagnostic.kind = .lex ∧ e.diagnostic.found = "`\"`" ∧
      e.diagnostic.expected = "an argument, a redirection, `|` or end of input" ∧
      e.offset = 2 + 16 + 3 :=
  have h : Pipeline.parse "\"é \"x | y\"z >o\\" = _ := by decide +kernel
  have h₂ : Pipeline.parse "b<<E|c" = _ := by decide +kernel
  have he : Pipeline.parse "d \"" = _ := by decide +kernel
  ⟨h, h₂, he, (Pipeline.parse_append_pipe h).1 _ h₂, (Pipeline.parse_append_pipe h).2 _ he⟩

end ShellPipeline
