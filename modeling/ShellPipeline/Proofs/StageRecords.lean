import Mathlib.Data.List.Basic
import Mathlib.Data.List.ModifyLast
import ShellPipeline.Log
import ShellPipeline.Proofs.Faults

/-!
# The records of the stages of a line

What is noted while a line is read accounts for every stage and every redirection: each stage that
is complete is noted once, under its number, and a redirection is noted before its stage if an
earlier one of the stage reroutes the same stream. So the operators of a stage are as many as the
redirections in its set and the records of dropped ones together.

* `StageAccount`: the tokens of a stage, the operators that were dropped, and the stage;
* `Reading.Tells`: what the tokens of a run and what was made of them amount to. `tells_of_takes`
  says that a token keeps it, and `Run.tells` that a run does;
* `Log.Account`: what the log holds of a line.
-/

namespace ShellPipeline

def Lexeme.isPipe (x : Lexeme) : Bool := x.token == .operator .pipe

/-- The stream that a token redirects, and the offset at which the token starts. -/
def Lexeme.redirect? (x : Lexeme) : Option (Stream × Nat) :=
  match x.token with
  | .operator (.redirect stream _) => some (stream, x.start)
  | _ => none

/-- The redirections among some tokens: their streams and offsets, in order. -/
def Lexeme.redirects (xs : List Lexeme) : List (Stream × Nat) := xs.filterMap redirect?

@[simp] theorem Lexeme.redirects_append (xs ys : List Lexeme) :
    redirects (xs ++ ys) = redirects xs ++ redirects ys := List.filterMap_append

@[simp] theorem Lexeme.redirects_operator (stream : Stream) (doubled : Bool) (n : Nat) :
    redirects [⟨.operator (.redirect stream doubled), n⟩] = [(stream, n)] := rfl

@[simp] theorem Lexeme.redirects_word (k : WordClass) (w : String) (n : Nat) :
    redirects [⟨.word k w, n⟩] = [] := rfl

theorem Lexeme.exists_of_mem_redirects {xs : List Lexeme} {d : Stream × Nat}
    (h : d ∈ redirects xs) : ∃ x ∈ xs, d.2 = x.start := by
  obtain ⟨⟨t, n⟩, hx, hd⟩ := List.mem_filterMap.1 h
  refine ⟨_, hx, ?_⟩
  unfold redirect? at hd
  split at hd
  · cases hd
    rfl
  · cases hd

/-- The tokens that spell a command with redirections. -/
def Command.spelling (command : Command) (rs : List Redirection) : List Token :=
  .word .filespec command.program :: (command.arguments.map (.word .argument) ++
    rs.flatMap fun r =>
      [.operator r.operator, .word (Reading.targetClass r.stream r.doubled) r.filespec])

/-- How the operators of a stage are divided between its set and those that were dropped. -/
structure RedirectionSet.Divides (set : RedirectionSet) (operators dropped : List (Stream × Nat)) :
    Prop where
  length_eq : operators.length = set.size + dropped.length
  contains_iff : ∀ s, set.contains s = true ↔ ∃ n, (s, n) ∈ operators
  /-- An operator is dropped if an earlier one has its stream. -/
  dropped_iff : ∀ s n, (s, n) ∈ dropped ↔ (s, n) ∈ operators ∧ ∃ m < n, (s, m) ∈ operators
  increasing : dropped.Pairwise fun d d' => d.2 < d'.2

/-- A stage with its tokens and with the operators of redirections that did not count. -/
structure StageAccount where
  lexemes : List Lexeme
  dropped : List (Stream × Nat)
  stage : Stage

namespace StageAccount

/-- The account is that of the stage which the tokens spell. -/
structure Balanced (a : StageAccount) : Prop where
  spelled : ∃ rs, a.lexemes.map Lexeme.token = a.stage.command.spelling rs ∧
    a.stage.redirections = .ofList rs
  divides : a.stage.redirections.Divides (Lexeme.redirects a.lexemes) a.dropped

def dropEvents (dropped : List (Stream × Nat)) : List Event :=
  dropped.map fun d => .dropped d.1 d.2

/-- What is made of the tokens of the stage, where so many stages are complete before it. -/
def events (a : StageAccount) (index : Nat) : List Event :=
  dropEvents a.dropped ++ [.completed index a.stage]

/-- What is made of the tokens of stages one after the other, from the first stage of a line. -/
def allEvents (accounts : List StageAccount) : List Event :=
  accounts.zipIdx.flatMap fun (a, i) => a.events i

theorem allEvents_concat (accounts : List StageAccount) (a : StageAccount) :
    allEvents (accounts ++ [a]) = allEvents accounts ++ a.events accounts.length := by
  simp [allEvents, List.zipIdx_append]

/-- What the log holds of operators that were dropped. -/
def droppings (dropped : List (Stream × Nat)) : List Log.Record :=
  dropped.map fun (stream, offset) => ⟨.debug, "shpipe::parse::parser",
    "dropping " ++ stream.title ++ " redirection at " ++ offset.repr ++ ": one is already set"⟩

/-- What the log holds of the stage, where so many stages are complete before it. -/
def records (a : StageAccount) (index : Nat) : List Log.Record :=
  droppings a.dropped ++ [⟨.debug, "shpipe::parse::parser",
    "process " ++ index.repr ++ ": " ++ a.stage.describe⟩]

/-- What the log holds of the stages of a line. -/
def allRecords (accounts : List StageAccount) : List Log.Record :=
  accounts.zipIdx.flatMap fun (a, i) => a.records i

theorem map_eventRecord_dropEvents (dropped : List (Stream × Nat)) :
    (dropEvents dropped).map Log.eventRecord = droppings dropped :=
  List.map_map ..

theorem map_eventRecord_events (a : StageAccount) (index : Nat) :
    (a.events index).map Log.eventRecord = a.records index := by
  rw [events, List.map_append, map_eventRecord_dropEvents]
  rfl

theorem map_eventRecord_allEvents (accounts : List StageAccount) :
    (allEvents accounts).map Log.eventRecord = allRecords accounts := by
  rw [allEvents, List.map_flatMap]
  exact congrArg (accounts.zipIdx.flatMap ·) (funext fun (a, i) => a.map_eventRecord_events i)

/-- The operators of a stage that is not complete are divided as well, but for the last one if its
target is missing. -/
def Unfinished (current : List Lexeme) (lost : List (Stream × Nat)) : Prop :=
  ∃ (set : RedirectionSet) (operators : List (Stream × Nat)), set.Divides operators lost ∧
    (Lexeme.redirects current = operators ∨ ∃ d, Lexeme.redirects current = operators ++ [d])

end StageAccount

/-- What the log holds of a line at the level of debugging: the complete stages under their numbers,
each behind the operators that were dropped in it, then the operators dropped in a stage that is not
complete, and then the outcome. -/
structure Log.Account (line : String) (accounts : List StageAccount) (lost : List (Stream × Nat)) :
    Prop where
  records : (readingRecords line).filter (·.passes (some .debug)) =
    StageAccount.allRecords accounts ++ StageAccount.droppings lost ++
      [outcomeRecord line (Pipeline.parse line)]
  /-- One record is graver than those of debugging, and it is the last one. -/
  outcome_level : (outcomeRecord line (Pipeline.parse line)).level =
    match Pipeline.parse line with | .ok _ => .info | .error _ => .warn
  balanced : ∀ a ∈ accounts, a.Balanced
  accepted : ∀ p, Pipeline.parse line = .ok p → accounts.map (·.stage) = p.stages ∧ lost = [] ∧
    accounts.map (·.lexemes) = (Reading.ofLine line).lexemes.splitOnP Lexeme.isPipe
  rejected : ∀ e, Pipeline.parse line = .error e → accounts.length =
    (Reading.ofLine line).lexemes.countP (fun x => x.isPipe && decide (x.start < e.offset)) +
      if e.diagnostic.expected = "a redirection, `|` or end of input" then 1 else 0
  /-- Either all the stages of a line that is rejected are complete, or all but the last one. -/
  unfinished : ∀ e, Pipeline.parse line = .error e →
    ((Reading.ofLine line).lexemes.splitOnP Lexeme.isPipe = accounts.map (·.lexemes) ∧
      lost = []) ∨
    ∃ current, (Reading.ofLine line).lexemes.splitOnP Lexeme.isPipe =
      accounts.map (·.lexemes) ++ [current] ∧ StageAccount.Unfinished current lost

/-! ## One more operator -/

namespace RedirectionSet

theorem size_insert (set : RedirectionSet) (r : Redirection) :
    (set.insert r).size = set.size + if set.contains r.stream then 0 else 1 := by
  obtain ⟨t, s⟩ := r
  obtain ⟨_ | _, _ | _, _ | _⟩ := set <;> cases s <;> rfl

theorem contains_insert (set : RedirectionSet) (r : Redirection) (s : Stream) :
    (set.insert r).contains s = true ↔ set.contains s = true ∨ r.stream = s := by
  rw [contains_eq_isSome_get?, contains_eq_isSome_get?]
  by_cases h : r.stream = s
  · subst h
    simp [get?_insert_self]
  · simp [get?_insert_of_ne set h, h]

theorem divides_empty : empty.Divides [] [] where
  length_eq := rfl
  contains_iff := fun s => by simp [contains_eq_isSome_get?]
  dropped_iff := by simp
  increasing := .nil

/-- A later operator is dropped or goes to the set. -/
theorem Divides.insert {set : RedirectionSet} {operators dropped : List (Stream × Nat)}
    (h : set.Divides operators dropped) {r : Redirection} {n : Nat}
    (hlast : ∀ d ∈ operators, d.2 < n) :
    (set.insert r).Divides (operators ++ [(r.stream, n)])
      (dropped ++ if set.contains r.stream then [(r.stream, n)] else []) where
  length_eq := by
    rw [List.length_append, List.length_append, h.length_eq, size_insert]
    split <;> simp <;> omega
  contains_iff := fun s => by
    rw [contains_insert, h.contains_iff]
    simp only [List.mem_append, List.mem_singleton, Prod.mk.injEq]
    constructor
    · rintro (⟨m, hm⟩ | rfl)
      · exact ⟨m, .inl hm⟩
      · exact ⟨n, .inr ⟨rfl, rfl⟩⟩
    · rintro ⟨m, hm | ⟨rfl, -⟩⟩
      · exact .inl ⟨m, hm⟩
      · exact .inr rfl
  dropped_iff := fun s m => by
    have hnew : (s, m) ∈ (if set.contains r.stream then [(r.stream, n)] else []) ↔
        (s = r.stream ∧ m = n) ∧ ∃ k, (r.stream, k) ∈ operators := by
      rw [← h.contains_iff]
      split <;> simp_all
    rw [List.mem_append, h.dropped_iff, hnew]
    simp only [List.mem_append, List.mem_singleton, Prod.mk.injEq]
    constructor
    · rintro (⟨hm, k, hk, hmem⟩ | ⟨⟨rfl, rfl⟩, k, hk⟩)
      · exact ⟨.inl hm, k, hk, .inl hmem⟩
      · exact ⟨.inr ⟨rfl, rfl⟩, k, hlast _ hk, .inl hk⟩
    · rintro ⟨hm, k, hk, hmem⟩
      rcases hmem with hmem | ⟨rfl, rfl⟩
      · rcases hm with hm | ⟨rfl, rfl⟩
        · exact .inl ⟨hm, k, hk, hmem⟩
        · exact .inr ⟨⟨rfl, rfl⟩, k, hmem⟩
      · -- No operator stands behind the new one.
        rcases hm with hm | ⟨-, rfl⟩
        · exact absurd (hlast _ hm) (Nat.lt_asymm hk)
        · exact absurd hk (Nat.lt_irrefl _)
  increasing := by
    refine List.pairwise_append.2 ⟨h.increasing, ?_, fun d hd d' hd' => ?_⟩
    · split <;> simp
    · have hmem := hlast d ((h.dropped_iff d.1 d.2).1 hd).1
      split at hd'
      · rw [List.mem_singleton.1 hd']
        exact hmem
      · cases hd'

end RedirectionSet

/-! ## One more token of a stage -/

namespace StageAccount

open Reading

theorem balanced_program (w : String) (n : Nat) :
    Balanced ⟨[⟨.word .filespec w, n⟩], [], ⟨⟨w, []⟩, .empty⟩⟩ where
  spelled := ⟨[], rfl, rfl⟩
  divides := RedirectionSet.divides_empty

theorem Balanced.argument {xs : List Lexeme} {dropped : List (Stream × Nat)} {command : Command}
    (h : Balanced ⟨xs, dropped, ⟨command, .empty⟩⟩) (w : String) (n : Nat) :
    Balanced ⟨xs ++ [⟨.word .argument w, n⟩], dropped,
      ⟨{ command with arguments := command.arguments ++ [w] }, .empty⟩⟩ where
  spelled := by
    obtain ⟨rs, hxs, hset⟩ := h.spelled
    obtain rfl := RedirectionSet.ofList_eq_empty_iff.1 hset.symm
    refine ⟨[], ?_, rfl⟩
    rw [List.map_append, hxs]
    simp [Command.spelling]
  divides := by simpa using h.divides

/-- The operator and the target of one more redirection. -/
theorem Balanced.redirection {xs : List Lexeme} {dropped : List (Stream × Nat)} {stage : Stage}
    (h : Balanced ⟨xs, dropped, stage⟩) (r : Redirection) {m : Nat}
    (hlast : ∀ d ∈ Lexeme.redirects xs, d.2 < m) (n : Nat) :
    Balanced ⟨xs ++ [⟨.operator r.operator, m⟩] ++ [⟨.word (targetClass r.stream r.doubled)
        r.filespec, n⟩],
      dropped ++ if stage.redirections.contains r.stream then [(r.stream, m)] else [],
      withRedirections stage [r]⟩ where
  spelled := by
    obtain ⟨rs, hxs, hset⟩ := h.spelled
    refine ⟨rs ++ [r], ?_, ?_⟩
    · rw [List.map_append, List.map_append, hxs]
      simp [Command.spelling, withRedirections]
    · rw [RedirectionSet.ofList_concat, ← hset]
      rfl
  divides := by
    rw [Lexeme.redirects_append, Lexeme.redirects_append, Redirection.operator,
      Lexeme.redirects_operator, Lexeme.redirects_word, List.append_nil]
    exact h.divides.insert hlast

theorem events_addRedirection (set : RedirectionSet) (r : Redirection) (m : Nat) :
    (addRedirection set r m).1 =
      dropEvents (if set.contains r.stream then [(r.stream, m)] else []) := by
  unfold addRedirection
  split <;> rfl

end StageAccount

/-! ## What a run amounts to -/

namespace Reading

/-- Whether an event says only that a token was read. -/
def isRead : Event → Bool
  | .read _ _ => true
  | .dropped _ _ => false
  | .completed _ _ => false

/-- What was made of the tokens that were read. -/
def acts (events : List Event) : List Event := events.filter (!isRead ·)

theorem acts_append (events events' : List Event) :
    acts (events ++ events') = acts events ++ acts events' := List.filter_append ..

@[simp] theorem acts_read_cons (mode : Mode) (x : Lexeme) (events : List Event) :
    acts (.read mode x :: events) = acts events := rfl

@[simp] theorem acts_completed (index : Nat) (stage : Stage) :
    acts [.completed index stage] = [.completed index stage] := rfl

theorem acts_of_takes {st st' : State} {x : Lexeme} {events : List Event}
    (h : Takes st x events st') : acts events = events := by
  cases h with
  | program | argument | redirect | pipe => rfl
  | target =>
    unfold addRedirection
    split <;> rfl

/-- What the tokens read of a stage, and the operators dropped in it, are to a phase. -/
def Phase.Tells (current : List Lexeme) (lost : List (Stream × Nat)) : Phase → Prop
  | .program => current = [] ∧ lost = []
  | .arguments command => StageAccount.Balanced ⟨current, lost, ⟨command, .empty⟩⟩
  | .target stage stream doubled n => ∃ before,
    current = before ++ [⟨.operator (.redirect stream doubled), n⟩] ∧
      (∀ d ∈ Lexeme.redirects before, d.2 < n) ∧ StageAccount.Balanced ⟨before, lost, stage⟩
  | .redirections stage => StageAccount.Balanced ⟨current, lost, stage⟩

theorem Phase.Tells.balanced {current : List Lexeme} {lost : List (Stream × Nat)} {phase : Phase}
    {stage : Stage} (h : phase.Tells current lost) (hstage : phase.stage? = some stage) :
    StageAccount.Balanced ⟨current, lost, stage⟩ := by
  cases phase with
  | program | target => cases hstage
  | arguments | redirections =>
    cases hstage
    exact h

theorem Phase.Tells.unfinished {current : List Lexeme} {lost : List (Stream × Nat)}
    {phase : Phase} (h : phase.Tells current lost) : StageAccount.Unfinished current lost := by
  cases phase with
  | program =>
    obtain ⟨rfl, rfl⟩ := h
    exact ⟨.empty, [], RedirectionSet.divides_empty, .inl rfl⟩
  | arguments | redirections => exact ⟨_, _, StageAccount.Balanced.divides h, .inl rfl⟩
  | target stage stream doubled n =>
    obtain ⟨before, rfl, -, hbalanced⟩ := h
    refine ⟨_, _, hbalanced.divides, .inr ⟨(stream, n), ?_⟩⟩
    rw [Lexeme.redirects_append, Lexeme.redirects_operator]

/-- What the tokens of a run and what was made of them amount to: the complete stages, and then what
has been read of the next one and dropped in it. -/
structure Tells (xs : List Lexeme) (events : List Event) (st : State)
    (accounts : List StageAccount) (current : List Lexeme) (lost : List (Stream × Nat)) :
    Prop where
  segments : xs.splitOnP Lexeme.isPipe = accounts.map (·.lexemes) ++ [current]
  pipes : xs.countP Lexeme.isPipe = accounts.length
  current_suffix : current <:+ xs
  events_eq : events = StageAccount.allEvents accounts ++ StageAccount.dropEvents lost
  done_eq : st.done = accounts.map (·.stage)
  balanced : ∀ a ∈ accounts, a.Balanced
  phase : st.phase.Tells current lost

/-- What follows the last separator is longer by an element that separates nothing. -/
theorem splitOnP_concat {α : Type} {p : α → Bool} {x : α} (hx : p x = false) (xs : List α) :
    (xs ++ [x]).splitOnP p = (xs.splitOnP p).modifyLast (· ++ [x]) := by
  induction xs with
  | nil => exact List.splitOnP_eq_singleton (by simpa using hx)
  | cons y ys ih =>
    have hys := List.splitOnP_ne_nil p ys
    rw [List.cons_append, List.splitOnP_cons_eq_if_modifyHead,
      List.splitOnP_cons_eq_if_modifyHead, ih]
    split
    · exact (List.modifyLast_append_of_right_ne_nil _ [[]] _ hys).symm
    · obtain ⟨front, last, h⟩ := (List.eq_nil_or_concat' _).resolve_left hys
      rw [h, List.modifyLast_concat]
      cases front with
      | nil => rfl
      | cons w front => exact (List.modifyLast_concat (· ++ [x]) last ((y :: w) :: front)).symm

namespace Tells

variable {xs current : List Lexeme} {events : List Event} {st : State}
  {accounts : List StageAccount} {lost : List (Stream × Nat)}

theorem start : Tells [] [] .start [] [] [] where
  segments := List.splitOnP_nil
  pipes := rfl
  current_suffix := List.suffix_refl []
  events_eq := rfl
  done_eq := rfl
  balanced := by simp
  phase := ⟨rfl, rfl⟩

/-- A token that is not a pipe belongs to the next stage. -/
theorem extend (h : Tells xs events st accounts current lost) (dropped : List (Stream × Nat))
    {x : Lexeme} {phase : Phase} (hx : x.isPipe = false)
    (hphase : phase.Tells (current ++ [x]) (lost ++ dropped)) :
    Tells (xs ++ [x]) (events ++ StageAccount.dropEvents dropped) ⟨st.done, phase⟩ accounts
      (current ++ [x]) (lost ++ dropped) where
  segments := by rw [splitOnP_concat hx, h.segments, List.modifyLast_concat]
  pipes := by simp [h.pipes, hx]
  current_suffix := by
    obtain ⟨before, rfl⟩ := h.current_suffix
    exact ⟨before, by simp⟩
  events_eq := by simp [h.events_eq, StageAccount.dropEvents]
  done_eq := h.done_eq
  balanced := h.balanced
  phase := hphase

theorem events_concat (h : Tells xs events st accounts current lost) (stage : Stage) :
    events ++ [.completed st.done.length stage] =
      StageAccount.allEvents (accounts ++ [⟨current, lost, stage⟩]) := by
  simp [h.events_eq, h.done_eq, StageAccount.allEvents_concat, StageAccount.events]

theorem balanced_concat (h : Tells xs events st accounts current lost) {stage : Stage}
    (hstage : st.phase.stage? = some stage) :
    ∀ a ∈ accounts ++ [⟨current, lost, stage⟩], a.Balanced := by
  simpa [or_imp, forall_and] using ⟨h.balanced, h.phase.balanced hstage⟩

/-- A pipe completes the stage before it. -/
theorem complete (h : Tells xs events st accounts current lost) {x : Lexeme} {stage : Stage}
    (hx : x.isPipe = true) (hstage : st.phase.stage? = some stage) :
    Tells (xs ++ [x]) (events ++ [.completed st.done.length stage]) ⟨st.done ++ [stage], .program⟩
      (accounts ++ [⟨current, lost, stage⟩]) [] [] where
  segments := by
    rw [List.splitOnP_append_cons xs [] hx, h.segments]
    simp
  pipes := by simp [h.pipes, hx]
  current_suffix := List.nil_suffix
  events_eq := by simp [h.events_concat, StageAccount.dropEvents]
  done_eq := by simp [h.done_eq]
  balanced := h.balanced_concat hstage
  phase := ⟨rfl, rfl⟩

end Tells

/-- One more token. -/
theorem tells_of_takes {xs current : List Lexeme} {events events' : List Event} {st st' : State}
    {accounts : List StageAccount} {lost : List (Stream × Nat)} {x : Lexeme}
    (h : Tells xs events st accounts current lost) (htakes : Takes st x events' st')
    (hlast : ∀ y ∈ xs, y.start < x.start) : ∃ accounts' current' lost',
      Tells (xs ++ [x]) (events ++ events') st' accounts' current' lost' := by
  have hphase := h.phase
  cases htakes with
  | @program _ w n =>
    obtain ⟨rfl, rfl⟩ := hphase
    exact ⟨_, _, _, h.extend [] rfl (StageAccount.balanced_program w n)⟩
  | @argument _ command w n =>
    refine ⟨_, _, _, h.extend [] rfl ?_⟩
    rw [List.append_nil]
    exact StageAccount.Balanced.argument hphase w n
  | @redirect _ _ stage stream doubled n hstage =>
    refine ⟨_, _, _, h.extend [] rfl ⟨current, rfl, fun d hd => ?_, ?_⟩⟩
    · obtain ⟨y, hy, hstart⟩ := Lexeme.exists_of_mem_redirects hd
      rw [hstart]
      exact hlast y (h.current_suffix.mem hy)
    · rw [List.append_nil]
      exact hphase.balanced hstage
  | @target _ stage stream doubled w m n =>
    obtain ⟨before, rfl, hbefore, hbalanced⟩ := hphase
    have hnext := hbalanced.redirection ⟨⟨doubled, w⟩, stream⟩ hbefore n
    rw [StageAccount.events_addRedirection]
    exact ⟨_, _, _, h.extend _ rfl hnext⟩
  | pipe hstage => exact ⟨_, _, _, h.complete rfl hstage⟩

theorem Run.start_lt {st st' : State} {c c' : Cursor} {xs : List Lexeme} {events : List Event}
    (h : Run st c xs events st' c') : ∀ x ∈ xs, x.start < c'.offset := by
  induction h with
  | refl => simp
  | @tail xs x events events' st₁ st₂ c₁ c₂ _ hmove ih =>
    obtain ⟨hnext, hstep⟩ := move_eq_more hmove
    obtain ⟨-, hstart, -⟩ := Cursor.next_eq_ok hnext
    have hlt := Cursor.offset_lt_of_next hnext (token_ne_endOfLine_of_step hstep)
    rintro y hy
    rcases List.mem_append.1 hy with hy | hy
    · exact Nat.lt_trans (Nat.lt_of_lt_of_le (ih y hy) c₁.offset_le_skipBlanks) hlt
    · obtain rfl := List.mem_singleton.1 hy
      rwa [hstart]

theorem Run.tells {c c' : Cursor} {st : State} {xs : List Lexeme} {events : List Event}
    (h : Run .start c xs events st c') :
    ∃ accounts current lost, Tells xs (acts events) st accounts current lost := by
  induction h with
  | refl => exact ⟨[], [], [], .start⟩
  | @tail xs x events events' st₁ st₂ c₁ c₂ hrun hmove ih =>
    obtain ⟨accounts, current, lost, htells⟩ := ih
    obtain ⟨-, hstart, -⟩ := Cursor.next_eq_ok (move_eq_more hmove).1
    obtain ⟨made, htakes, rfl⟩ := takes_of_move hmove
    rw [acts_append, acts_read_cons, acts_of_takes htakes]
    refine tells_of_takes htells htakes fun y hy => ?_
    rw [hstart]
    exact Nat.lt_of_lt_of_le (hrun.start_lt y hy) c₁.offset_le_skipBlanks

/-- What the tokens of a line amount to, and the move behind them that ends the reading. -/
theorem exists_tells (line : String) : ∃ events events' st c accounts current lost,
    Tells (ofLine line).lexemes events st accounts current lost ∧
    (∀ x ∈ (ofLine line).lexemes, x.start < c.offset) ∧
    State.move st c = .stop events' (Pipeline.parse line) ∧
    acts (ofLine line).events = events ++ acts events' := by
  obtain ⟨events, events', st, c, hrun, hstop, hevents⟩ := exists_run .start (.start line)
  obtain ⟨accounts, current, lost, htells⟩ := hrun.tells
  have hacts : acts (ofLine line).events = acts events ++ acts events' :=
    (congrArg acts hevents).trans (acts_append events events')
  exact ⟨_, _, st, c, accounts, current, lost, htells, hrun.start_lt, hstop, hacts⟩

/-! ## Where a reading ends -/

/-- Where a move fails, a stage is noted exactly if more redirections might have come. -/
theorem acts_of_move_error {st : State} {c : Cursor} {events : List Event} {e : ParseError}
    (h : st.move c = .stop events (.error e)) :
    (e.diagnostic.expected = Expected.redirection.text ∧ ∃ stage, st.phase.stage? = some stage ∧
        acts events = [.completed st.done.length stage]) ∨
      e.diagnostic.expected ≠ Expected.redirection.text ∧ acts events = [] := by
  rcases move_eq_stop h with ⟨e', c', hnext, rfl, he⟩ | ⟨x, c', hnext, hstep⟩
  · -- Only among arguments there are characters that cannot be read.
    cases he
    obtain ⟨-, found, hscan, rfl⟩ := Cursor.next_eq_error hnext
    obtain ⟨hmode, -⟩ := Token.mode_of_scan_eq_error (fun c => Text.head_skipBlanks) hscan
    refine .inr ⟨?_, rfl⟩
    simp [ParseError.diagnostic, hmode, Mode.expected, Expected.text]
  · obtain ⟨rfl, expected, hrefuses, rfl⟩ := step_eq_error_iff.1 hstep
    have hfault : Fault st.phase c.skipBlanks.rest (.unexpected x.token expected) :=
      .unexpected (Cursor.next_eq_ok hnext).1 hrefuses
    have hstage := stage?_of_fault (e := ⟨x.start, .unexpected x.token expected⟩) hfault
    have hkind : (ParseError.mk x.start (.unexpected x.token expected)).diagnostic.kind ≠ .lex := by
      simp [ParseError.diagnostic]
    rw [or_iff_right hkind] at hstage
    cases hphase : st.phase.stage? with
    | some stage => exact .inl ⟨hstage.2 ⟨stage, hphase⟩, stage, rfl, rfl⟩
    | none => exact .inr ⟨fun hexpected => by simpa [hphase] using hstage.1 hexpected, rfl⟩

end Reading

namespace Log

theorem level_outcomeRecord (line : String) (outcome : Except ParseError Pipeline) :
    (outcomeRecord line outcome).level =
      match outcome with | .ok _ => .info | .error _ => .warn := by
  cases outcome <;> rfl

/-- At the level of debugging every record of a line is written but those of the tokens. -/
theorem filter_readingRecords (line : String) :
    (readingRecords line).filter (·.passes (some .debug)) =
      (Reading.acts (Reading.ofLine line).events).map eventRecord ++
        [outcomeRecord line (Pipeline.parse line)] := by
  have hpasses : Record.passes (some .debug) ∘ eventRecord = (!Reading.isRead ·) := by
    funext event
    cases event <;> rfl
  have houtcome : [outcomeRecord line (Pipeline.parse line)].filter (·.passes (some .debug)) =
      [outcomeRecord line (Pipeline.parse line)] := by
    cases Pipeline.parse line <;> rfl
  rw [readingRecords, List.filter_append, List.filter_map]
  exact congr (congrArg _ (congrArg _ (congrArg (List.filter · _) hpasses))) houtcome

theorem records_eq {line : String} {accounts : List StageAccount} {lost : List (Stream × Nat)}
    (h : Reading.acts (Reading.ofLine line).events =
      StageAccount.allEvents accounts ++ StageAccount.dropEvents lost) :
    (readingRecords line).filter (·.passes (some .debug)) =
      StageAccount.allRecords accounts ++ StageAccount.droppings lost ++
        [outcomeRecord line (Pipeline.parse line)] := by
  rw [filter_readingRecords, h, List.map_append, StageAccount.map_eventRecord_allEvents,
    StageAccount.map_eventRecord_dropEvents]

theorem exists_account_of_ok {line : String} {p : Pipeline} (h : Pipeline.parse line = .ok p) :
    ∃ accounts, Account line accounts [] := by
  obtain ⟨_, _, st, c, accounts, current, lost, htells, -, hstop, hevents⟩ :=
    Reading.exists_tells line
  rw [h] at hstop
  rcases Reading.move_eq_stop hstop with ⟨e, c', -, -, he⟩ | ⟨x, c', -, hstep⟩
  · cases he
  obtain ⟨-, stage, hstage, rfl, hstages⟩ := Reading.step_eq_ok_iff.1 hstep
  refine ⟨accounts ++ [⟨current, lost, stage⟩], ?_⟩
  exact {
    records := records_eq (by
      rw [hevents, Reading.acts_read_cons, Reading.acts_completed, htells.events_concat]
      exact (List.append_nil _).symm)
    outcome_level := level_outcomeRecord line _
    balanced := htells.balanced_concat hstage
    accepted := fun q hq => by
      cases h.symm.trans hq
      rw [hstages, htells.done_eq, htells.segments]
      simp
    rejected := fun e he => by cases h.symm.trans he
    unfinished := fun e he => by cases h.symm.trans he }

theorem exists_account_of_error {line : String} {e : ParseError}
    (h : Pipeline.parse line = .error e) : ∃ accounts lost, Account line accounts lost := by
  obtain ⟨_, _, st, c, accounts, current, lost, htells, hlt, hstop, hevents⟩ :=
    Reading.exists_tells line
  rw [h] at hstop
  obtain ⟨hoffset, -⟩ := Reading.move_eq_error_iff.1 ⟨_, hstop⟩
  -- All the tokens taken stand before the place of the error.
  have hpipes : (Reading.ofLine line).lexemes.countP
      (fun x => x.isPipe && decide (x.start < e.offset)) = accounts.length := by
    rw [← htells.pipes]
    refine List.countP_congr fun x hx => ?_
    have hbefore := Nat.lt_of_lt_of_le (hlt x hx) c.offset_le_skipBlanks
    rw [← hoffset] at hbefore
    simp [hbefore]
  rcases Reading.acts_of_move_error hstop with
    ⟨hexpected, stage, hstage, hlast⟩ | ⟨hexpected, hlast⟩
  · refine ⟨accounts ++ [⟨current, lost, stage⟩], [], ?_⟩
    exact {
      records := records_eq (by
        rw [hevents, hlast, htells.events_concat]
        exact (List.append_nil _).symm)
      outcome_level := level_outcomeRecord line _
      balanced := htells.balanced_concat hstage
      accepted := fun p hp => by cases h.symm.trans hp
      rejected := fun e' he => by
        cases h.symm.trans he
        simp only [Expected.text] at hexpected
        rw [hpipes, if_pos hexpected, List.length_append, List.length_singleton]
      unfinished := fun _ _ => .inl ⟨by rw [htells.segments]; simp, rfl⟩ }
  · refine ⟨accounts, lost, ?_⟩
    exact {
      records := records_eq (by rw [hevents, hlast, List.append_nil, htells.events_eq])
      outcome_level := level_outcomeRecord line _
      balanced := htells.balanced
      accepted := fun p hp => by cases h.symm.trans hp
      rejected := fun e' he => by
        cases h.symm.trans he
        simp only [Expected.text] at hexpected
        rw [hpipes, if_neg hexpected, Nat.add_zero]
      unfinished := fun _ _ => .inr ⟨current, htells.segments, htells.phase.unfinished⟩ }

/-- The records of a line account for its stages and for the redirections that did not count. -/
theorem exists_account (line : String) : ∃ accounts lost, Account line accounts lost := by
  cases h : Pipeline.parse line with
  | ok p =>
    obtain ⟨accounts, haccount⟩ := exists_account_of_ok h
    exact ⟨accounts, [], haccount⟩
  | error e => exact exists_account_of_error h

/-- An operator that does not count, in a stage that is complete and in one that is not. -/
theorem exists_account_dropping : ∃ accounts lost,
    Account "a > x 2> y > z | b < i < j >" accounts lost ∧ accounts.length = 1 ∧
    StageAccount.allRecords accounts ++ StageAccount.droppings lost =
      [⟨.debug, "shpipe::parse::parser", "dropping Output redirection at 11: one is already set"⟩,
        ⟨.debug, "shpipe::parse::parser",
          "process 0: Proc(cmd=a [], redirs=[Output(x), Error(y)])"⟩,
        ⟨.debug, "shpipe::parse::parser",
          "dropping Input redirection at 23: one is already set"⟩] := by
  obtain ⟨accounts, lost, h⟩ := exists_account "a > x 2> y > z | b < i < j >"
  have hparse : Pipeline.parse "a > x 2> y > z | b < i < j >" =
      .error ⟨28, .unexpected .endOfLine .filespec⟩ := by decide +kernel
  refine ⟨accounts, lost, h, ?_, List.append_cancel_right (h.records.symm.trans ?_)⟩
  · rw [h.rejected _ hparse]
    decide +kernel
  · decide +kernel

end Log
end ShellPipeline
