import ShellPipeline.Proofs.Grammar

/-!
# Runs of tokens

`Run st c xs events st' c'`: from the state `st` at the place `c` the tokens `xs` are taken, which
leads to the state `st'` at the place `c'`. Every reading is such a run and then one move that
ends it (`exists_run`).

`Run.replace`: the tokens of a run do not depend on the text behind it, if that text cuts off the
last one alike. What this takes is told by the phase at the end (`Phase.Admits`).
-/

namespace ShellPipeline.Reading

/-! ## Runs -/

/-- Any number of tokens, each of which is taken. -/
inductive Run (st : State) (c : Cursor) : List Lexeme → List Event → State → Cursor → Prop
  | refl : Run st c [] [] st c
  | tail {xs : List Lexeme} {x : Lexeme} {events events' : List Event} {st₁ st₂ : State}
    {c₁ c₂ : Cursor} : Run st c xs events st₁ c₁ → st₁.move c₁ = .more x events' st₂ c₂ →
    Run st c (xs ++ [x]) (events ++ events') st₂ c₂

theorem Run.head {st st₁ st' : State} {c c₁ c' : Cursor} {x : Lexeme} {xs : List Lexeme}
    {events events' : List Event} (hmove : st.move c = .more x events st₁ c₁)
    (h : Run st₁ c₁ xs events' st' c') : Run st c (x :: xs) (events ++ events') st' c' := by
  induction h with
  | refl => simpa using Run.refl.tail hmove
  | tail _ hmove' ih => simpa using ih.tail hmove'

theorem Run.resume {st st' : State} {c c' : Cursor} {xs : List Lexeme} {events : List Event}
    (h : Run st c xs events st' c') :
    resume st c = ⟨xs ++ (resume st' c').lexemes, events ++ (resume st' c').events,
      (resume st' c').outcome⟩ := by
  induction h with
  | refl => rfl
  | tail _ hmove ih => simp [ih, resume_of_more hmove, after]

/-- A reading takes the tokens of a run, and then a move ends it. -/
theorem exists_run (st : State) (c : Cursor) :
    ∃ events events' st' c', Run st c (Reading.resume st c).lexemes events st' c' ∧
      st'.move c' = .stop events' (Reading.resume st c).outcome ∧
      (Reading.resume st c).events = events ++ events' := by
  fun_induction Reading.resume st c with
  | case1 st c x events st₁ c₁ hmove ih =>
    obtain ⟨events', events'', st', c', hrun, hstop, hevents⟩ := ih
    refine ⟨events ++ events', events'', st', c', hrun.head hmove, hstop, ?_⟩
    rw [List.append_assoc, ← hevents]
    rfl
  | case2 st c events outcome hmove => exact ⟨[], events, st, c, .refl, hmove, rfl⟩

/-! ## Another text behind a run -/

/-- The texts that may follow in place of another one without a change to the tokens before it. An
operator stays as it is before all but an angle, and a pipe before everything; a quote may not
take part in the argument before it. -/
def Phase.Admits (r r' : List Char) : Phase → Prop
  | .program => True
  | .arguments _ =>
    Text.FollowsLike r r' ∧ (r'.head? = some '"' → WordClass.unit? .argument r' = none)
  | .target .. => Text.FollowsLike r r' ∨ ∀ c ∈ r'.head?, isAngle c = false
  | .redirections _ => Text.FollowsLike r r'

/-- Behind the words of a command no quoted run follows at once. -/
def Phase.Separated (s : List Char) : Phase → Prop
  | .arguments _ => s.head? = some '"' → WordClass.unit? .argument s = none
  | _ => True

theorem separated_of_takes {st st' : State} {x : Lexeme} {events : List Event} {s r : List Char}
    (h : Takes st x events st') (hr : Reads s x.token r) : st'.phase.Separated r := by
  cases h with
  | program =>
    intro hq
    obtain ⟨t, rfl⟩ := List.head?_eq_some_iff.1 hq
    have hunit := WordClass.filespec_unit?_eq_none_iff.1 hr.unit?_eq_none
    exact absurd hunit (by decide)
  | argument => exact fun _ => hr.unit?_eq_none
  | redirect | target | pipe => trivial

/-- A command that is separated from a quote does not take it. -/
theorem head_ne_quote_of_takes {done : List Stage} {command : Command} {st' : State} {x : Lexeme}
    {events : List Event} {s r : List Char} (h : Takes ⟨done, .arguments command⟩ x events st')
    (hr : Reads s x.token r) (hsep : (Phase.arguments command).Separated s) :
    s.head? ≠ some '"' := by
  intro hq
  have hnone := hsep hq
  obtain ⟨t, rfl⟩ := List.head?_eq_some_iff.1 hq
  have hs : Text.skipBlanks ('"' :: t) = '"' :: t := rfl
  have hop : Operator.split? ('"' :: t) = none :=
    Operator.split?_eq_none_iff.2 (by simp [isOperatorChar, isAngle])
  cases h with
  | argument =>
    obtain ⟨-, hsplit, hne⟩ := Reads.word_iff.1 hr
    rw [hs, WordClass.split_of_unit?_eq_none hnone] at hsplit
    exact hne (congrArg Prod.fst hsplit).symm
  | redirect | pipe =>
    have hsome := Reads.operator_iff.1 hr
    rw [hs, hop] at hsome
    cases hsome

theorem admits_append {phase : Phase} {p r r' : List Char} (hp : p ≠ [])
    (hq : ∀ command, phase = .arguments command → p.head? ≠ some '"') :
    phase.Admits (p ++ r) (p ++ r') := by
  have hfollows : Text.FollowsLike (p ++ r) (p ++ r') := .append hp
  cases phase with
  | program => trivial
  | target => exact .inl hfollows
  | redirections => exact hfollows
  | arguments command =>
    refine ⟨hfollows, fun hquote => absurd ?_ (hq command rfl)⟩
    cases p with
    | nil => exact absurd rfl hp
    | cons c p => exact hquote

theorem admits_of_head_blank {phase : Phase} {r r' : List Char}
    (h : ∀ c ∈ r'.head?, Text.isBlank c = true) : phase.Admits r r' := by
  have hfollows : Text.FollowsLike r r' := .of_blank h
  cases phase with
  | program => trivial
  | target => exact .inl hfollows
  | redirections => exact hfollows
  | arguments command => exact ⟨hfollows, fun hq => absurd (h _ hq) (by decide)⟩

/-- In front of a token that is taken, the text behind that token does not matter. -/
theorem admits_of_takes {st st' : State} {x : Lexeme} {events : List Event} {p r : List Char}
    (h : Takes st x events st') (hr : Reads (p ++ r) x.token r)
    (hsep : st.phase.Separated (p ++ r)) (r' : List Char) :
    st.phase.Admits (p ++ r) (p ++ r') := by
  refine admits_append (hr.ne_nil_of_append (token_ne_endOfLine_of_takes h)) ?_
  obtain ⟨done, phase⟩ := st
  rintro command rfl hq
  obtain ⟨p, rfl⟩ := List.head?_eq_some_iff.1 hq
  exact head_ne_quote_of_takes h hr hsep rfl

theorem readIn_of_takes {st st' : State} {x : Lexeme} {events : List Event}
    (h : Takes st x events st') : x.token.ReadIn st.phase.mode := by
  cases h with
  | program | argument | target => rfl
  | redirect | pipe => trivial

theorem reads_of_admits {st st' : State} {x : Lexeme} {events : List Event} {p r r' : List Char}
    (h : Takes st x events st') (hr : Reads (p ++ r) x.token r)
    (hadmits : st'.phase.Admits r r') : Reads (p ++ r') x.token r' := by
  cases h with
  | program =>
    obtain ⟨hfollows, -⟩ := hadmits
    exact hr.replace_word hfollows
      (WordClass.unit?_eq_none_of_followsLike hr.unit?_eq_none (by simp) hfollows)
  | argument =>
    obtain ⟨hfollows, hquote⟩ := hadmits
    refine hr.replace_word hfollows ?_
    by_cases hq : r'.head? = some '"'
    · exact hquote hq
    · exact WordClass.unit?_eq_none_of_followsLike hr.unit?_eq_none (fun _ => hq) hfollows
  | redirect => exact hr.replace_operator hadmits
  | target =>
    exact hr.replace_word hadmits (WordClass.unit?_eq_none_of_followsLike hr.unit?_eq_none
      (fun hk => absurd hk (targetClass_ne_argument _ _)) hadmits)
  | pipe => exact hr.replace_pipe r'

/-- A token is taken before another text as well, if that text is admitted behind it. -/
theorem move_replace {st st' : State} {c c' : Cursor} {x : Lexeme} {events : List Event}
    {p r' : List Char} (h : st.move c = .more x events st' c') (hp : c.rest = p ++ c'.rest)
    (hadmits : st'.phase.Admits c'.rest r') :
    st.move ⟨c.offset, p ++ r'⟩ = .more x events st' ⟨c'.offset, r'⟩ := by
  obtain ⟨hnext, hstep⟩ := move_eq_more h
  obtain ⟨_, htakes, -⟩ := takes_of_move h
  have hreads := Cursor.reads_of_next hnext
  rw [hp] at hreads
  have hreads' := reads_of_admits htakes hreads hadmits
  exact move_of_more (Cursor.next_replace hnext (readIn_of_takes htakes) hp hreads') hstep

theorem Run.separated {st st' : State} {c c' : Cursor} {xs : List Lexeme} {events : List Event}
    (h : Run st c xs events st' c') (hsep : st.phase.Separated c.rest) :
    st'.phase.Separated c'.rest := by
  cases h with
  | refl => exact hsep
  | tail _ hmove =>
    obtain ⟨_, htakes, -⟩ := takes_of_move hmove
    exact separated_of_takes htakes (Cursor.reads_of_next (move_eq_more hmove).1)

theorem Run.consumes {st st' : State} {c c' : Cursor} {xs : List Lexeme} {events : List Event}
    (h : Run st c xs events st' c') :
    ∃ p, c.rest = p ++ c'.rest ∧ c'.offset = c.offset + Text.byteLength p := by
  induction h with
  | refl => exact ⟨[], rfl, rfl⟩
  | tail _ hmove ih =>
    obtain ⟨p, hp, hpoffset⟩ := ih
    obtain ⟨q, hq, hqoffset⟩ := Cursor.next_consumes (move_eq_more hmove).1
    refine ⟨p ++ q, ?_, ?_⟩
    · rw [hp, hq, List.append_assoc]
    · rw [hqoffset, hpoffset, Text.byteLength_append, Nat.add_assoc]

/-- The tokens of a run are taken before another text as well, if that text is admitted behind the
last one. -/
theorem Run.replace {st st' : State} {c c' : Cursor} {xs : List Lexeme} {events : List Event}
    {p r' : List Char} (h : Run st c xs events st' c') (hsep : st.phase.Separated c.rest)
    (hp : c.rest = p ++ c'.rest) (hadmits : st'.phase.Admits c'.rest r') :
    Run st ⟨c.offset, p ++ r'⟩ xs events st' ⟨c'.offset, r'⟩ := by
  induction h generalizing p r' with
  | refl =>
    obtain rfl : p = [] := List.self_eq_append_left.1 hp
    exact .refl
  | @tail xs x events events' st₁ st₂ c₁ c₂ hrun hmove ih =>
    obtain ⟨hnext, -⟩ := move_eq_more hmove
    obtain ⟨_, htakes, -⟩ := takes_of_move hmove
    obtain ⟨p₁, hp₁, -⟩ := hrun.consumes
    obtain ⟨q, hq, -⟩ := Cursor.next_consumes hnext
    obtain rfl : p = p₁ ++ q := by
      rw [hp₁, hq, ← List.append_assoc] at hp
      exact (List.append_cancel_right hp).symm
    have hreads := Cursor.reads_of_next hnext
    have hsep₁ := hrun.separated hsep
    rw [hq] at hreads hsep₁
    -- The text before the last token still begins with that token, so the tokens before it stay.
    have hadmits₁ := admits_of_takes htakes hreads hsep₁ r'
    rw [← hq] at hadmits₁
    rw [List.append_assoc]
    exact (ih hp₁ hadmits₁).tail (move_replace hmove hq hadmits)

theorem Run.parse_eq {line line' : String} {front r r' : List Char} {xs : List Lexeme}
    {events : List Event} {st : State}
    (h : Run .start (.start line) xs events st ⟨Text.byteLength front, r⟩)
    (hline : line.toList = front ++ r) (hline' : line'.toList = front ++ r')
    (hadmits : st.phase.Admits r r') :
    Pipeline.parse line' = (Reading.resume st ⟨Text.byteLength front, r'⟩).outcome := by
  have hrun := h.replace trivial hline hadmits
  have houtcome := congrArg Reading.outcome hrun.resume
  rw [Pipeline.parse, ofLine, Cursor.start, hline']
  exact houtcome

/-- The reading of a line is a run, and then a move ends it. -/
theorem exists_run_of_line (line : String) : ∃ xs events events' st front r,
    line.toList = front ++ r ∧
    Run .start (.start line) xs events st ⟨Text.byteLength front, r⟩ ∧
    State.move st ⟨Text.byteLength front, r⟩ = .stop events' (Pipeline.parse line) := by
  obtain ⟨events, events', st, c, hrun, hstop, -⟩ := exists_run .start (.start line)
  obtain ⟨front, hfront, hoffset⟩ := hrun.consumes
  obtain ⟨n, r⟩ := c
  obtain rfl : n = Text.byteLength front := by simpa [Cursor.start] using hoffset
  exact ⟨_, events, events', st, front, r, hfront, hrun, hstop⟩

/-- The reading of a line ends with a move in some state, and a text that may follow there instead
is read on in that state. -/
theorem exists_last_move (line : String) : ∃ st p r events, line.toList = p ++ r ∧
    State.move st ⟨Text.byteLength p, r⟩ = .stop events (Pipeline.parse line) ∧
    ∀ line' r', String.toList line' = p ++ r' → st.phase.Admits r r' →
      Pipeline.parse line' = (Reading.resume st ⟨Text.byteLength p, r'⟩).outcome := by
  obtain ⟨xs, events, events', st, p, r, hline, hrun, hstop⟩ := exists_run_of_line line
  exact ⟨st, p, r, events', hline, hstop, fun _ _ => hrun.parse_eq hline⟩

/-! ## Where a reading ends well -/

theorem redirections_ne_empty_of_takes {st st' : State} {x : Lexeme} {events : List Event}
    {stage : Stage} (h : Takes st x events st') (hphase : st'.phase = .redirections stage) :
    stage.redirections ≠ .empty := by
  cases h with
  | program | argument | redirect | pipe => cases hphase
  | target =>
    cases hphase
    exact RedirectionSet.insert_ne_empty _ _

theorem Run.redirections_ne_empty {c c' : Cursor} {st : State} {xs : List Lexeme}
    {events : List Event} {stage : Stage} (h : Run .start c xs events st c')
    (hphase : st.phase = .redirections stage) : stage.redirections ≠ .empty := by
  cases h with
  | refl => cases hphase
  | tail _ hmove =>
    obtain ⟨_, htakes, -⟩ := takes_of_move hmove
    exact redirections_ne_empty_of_takes htakes hphase

/-- Whether arguments may follow a stage is told by its redirections. -/
theorem Run.phase_eq {c c' : Cursor} {st : State} {xs : List Lexeme} {events : List Event}
    {stage : Stage} (h : Run .start c xs events st c') (hstage : st.phase.stage? = some stage) :
    st.phase = if stage.redirections = .empty then .arguments stage.command
      else .redirections stage := by
  cases hphase : st.phase with
  | program | target =>
    rw [hphase] at hstage
    cases hstage
  | arguments command =>
    rw [hphase] at hstage
    cases hstage
    rfl
  | redirections stage' =>
    rw [hphase] at hstage
    cases hstage
    rw [if_neg (h.redirections_ne_empty hphase)]

/-- The reading of `line` as `p` ends in the state `st` with the stage `stage`, behind `front` and
the blanks `b`. -/
structure Finishes (line : String) (p : Pipeline) (st : State) (stage : Stage)
    (front b : List Char) : Prop where
  toList_eq : line.toList = front ++ b
  blanks : ∀ c ∈ b, Text.isBlank c = true
  stages_eq : p.stages = st.done ++ [stage]
  phase_eq : st.phase = if stage.redirections = .empty then .arguments stage.command
    else .redirections stage
  stage?_eq : st.phase.stage? = some stage
  /-- What comes before the blanks is read as it was, if another text may follow there. -/
  parse_eq : ∀ line' r', String.toList line' = front ++ r' → st.phase.Admits b r' →
    Pipeline.parse line' = (resume st ⟨Text.byteLength front, r'⟩).outcome

theorem exists_finishes {line : String} {p : Pipeline} (h : Pipeline.parse line = .ok p) :
    ∃ st stage front b, Finishes line p st stage front b := by
  obtain ⟨xs, events, events', st, front, b, hline, hrun, hstop⟩ := exists_run_of_line line
  rw [h] at hstop
  rcases move_eq_stop hstop with ⟨e, c', -, -, he⟩ | ⟨x, c', hnext, hstep⟩
  · cases he
  obtain ⟨hx, stage, hstage, -, hstages⟩ := step_eq_ok_iff.1 hstep
  have hend := Cursor.reads_of_next hnext
  rw [hx] at hend
  have hnil := (Reads.endOfLine_iff.1 hend).1
  exact ⟨st, stage, front, b, {
    toList_eq := hline
    blanks := fun c => Text.isBlank_of_skipBlanks_eq_nil hnil
    stages_eq := hstages
    phase_eq := hrun.phase_eq hstage
    stage?_eq := hstage
    parse_eq := fun _ _ => hrun.parse_eq hline }⟩

end ShellPipeline.Reading
