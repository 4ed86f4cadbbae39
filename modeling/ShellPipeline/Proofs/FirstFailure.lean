import ShellPipeline.Proofs.Faults

/-!
# The first failure of a line

The error of a line names the first place where it cannot be read on: what stands before the place
is a pipeline, or is one after another word, and a token that is refused there is refused whatever
follows it.

A reading that fails has come to a halt in some state (`Halts`). The state tells what may follow
instead, and `Run.replace` that everything before it is read as it was.
-/

namespace ShellPipeline

/-- What the error of a line says about the part before its place. -/
structure ParseError.IsFirstFailure (e : ParseError) (line before : String) : Prop where
  /-- The place lies between two characters of the line. -/
  slice : Text.takeBytes? line.toList e.offset = some before.toList
  /-- The line might have ended there. -/
  complete : e.diagnostic.kind = .lex ∨ e.diagnostic.expected = Expected.redirection.text →
    ∃ p, Pipeline.parse before = .ok p
  /-- Otherwise a word is missing. -/
  completable : ¬ (e.diagnostic.kind = .lex ∨
      e.diagnostic.expected = Expected.redirection.text) →
    ∃ p, Pipeline.parse (before ++ "x") = .ok p
  /-- No text behind a token repairs it, but for the word that begins an operator. -/
  refused : ∀ t x, e.cause = .unexpected t x → t ≠ .endOfLine → ∀ s : String,
    (∃ e', Pipeline.parse (before ++ t.text ++ s) = .error e' ∧ e'.offset = e.offset ∧
      e'.diagnostic.kind = e.diagnostic.kind ∧
      e'.diagnostic.expected = e.diagnostic.expected) ↔
    ¬ (t.text = "2" ∧ s.toList.head? = some '>')
  /-- No text behind two quotes makes a quoted run of them. -/
  emptyQuotes : e.diagnostic.kind = .lex → before.toList ++ ['"', '"'] <+: line.toList →
    ∀ s : String, Pipeline.parse (before ++ "\"\"" ++ s) = .error e

namespace Reading

/-! ## What may stand before the place -/

theorem completes_blanks {st : State} {stage : Stage} {b : List Char}
    (hstage : st.phase.stage? = some stage) (hb : ∀ c ∈ b, Text.isBlank c = true) :
    Completes st b ⟨st.done ++ [stage], by simp⟩ := by
  have hend : Reads b .endOfLine [] := by
    have hskip := Text.skipBlanks_append (s := []) hb
    rw [List.append_nil] at hskip
    exact .endOfLine hskip
  refine completes_of_stage? hstage ⟨[], b, [], .nil, .inl ⟨hend, rfl⟩, ?_⟩
  simp [withRedirections]

theorem reads_x (k : WordClass) {b : List Char} (hb : ∀ c ∈ b, Text.isBlank c = true) :
    Reads (b ++ ['x']) (.word k "x") [] := by
  have hword : k.IsWord ['x'] := by
    cases k with
    | filespec => exact .unit (.plain rfl rfl)
    | argument => exact .unit (.bare (by simp) rfl rfl)
    | keyword => exact .unit (.letter rfl)
  exact Reads.of_isWord hb hword (by simp) .nil

theorem completes_x {st : State} {b : List Char} (hstage : st.phase.stage? = none)
    (hb : ∀ c ∈ b, Text.isBlank c = true) : ∃ p, Completes st (b ++ ['x']) p := by
  have hend : Reads [] .endOfLine [] := .endOfLine rfl
  have htail : ReadsTail [] [] := .inl ⟨hend, rfl⟩
  obtain ⟨done, phase⟩ := st
  cases phase with
  | arguments | redirections => cases hstage
  | program =>
    have hread : ReadsStages (b ++ ['x']) [⟨⟨"x", []⟩, .empty⟩] :=
      .last (.intro (reads_x .filespec hb) .nil .nil (by simp)) hend
    exact ⟨⟨done ++ [⟨⟨"x", []⟩, .empty⟩], by simp⟩, _, hread, rfl⟩
  | target stage stream doubled offset =>
    exact ⟨⟨done ++ [withRedirections stage [⟨⟨doubled, "x"⟩, stream⟩]], by simp⟩, "x", [],
      reads_x _ hb, [], [], [], .nil, htail, rfl⟩

theorem admits_x {phase : Phase} {r b : List Char} (hstage : phase.stage? = none)
    (hb : ∀ c ∈ b, Text.isBlank c = true) : phase.Admits r (b ++ ['x']) := by
  cases phase with
  | arguments | redirections => cases hstage
  | program => trivial
  | target =>
    refine .inr fun c hc => ?_
    cases b with
    | nil =>
      cases hc
      rfl
    | cons d b =>
      cases hc
      exact Text.not_isAngle_of_isBlank (hb c List.mem_cons_self)

/-! ## Where a reading fails -/

/-- The reading of `line` comes to a halt in the state `st`, behind `p` and the blanks `b`. -/
structure Halts (line : String) (e : ParseError) (st : State) (p b s : List Char) : Prop where
  toList_eq : line.toList = p ++ (b ++ s)
  blanks : ∀ c ∈ b, Text.isBlank c = true
  head : ∀ c ∈ s.head?, Text.isBlank c = false
  offset_eq : e.offset = Text.byteLength p + Text.byteLength b
  fault : Fault st.phase s e.cause
  /-- What comes before the blanks is read as it was, if another text may follow there. -/
  parse_eq : ∀ line' r', String.toList line' = p ++ r' → st.phase.Admits (b ++ s) r' →
    Pipeline.parse line' = (resume st ⟨Text.byteLength p, r'⟩).outcome

theorem exists_halts {line : String} {e : ParseError} (h : Pipeline.parse line = .error e) :
    ∃ st p b s, Halts line e st p b s := by
  obtain ⟨st, p, r, events, hline, hstop, hparse⟩ := exists_last_move line
  have hr : r.takeWhile Text.isBlank ++ Text.skipBlanks r = r := List.takeWhile_append_dropWhile
  rw [h] at hstop
  obtain ⟨hoffset, hfault⟩ := move_eq_error_iff.1 ⟨events, hstop⟩
  refine ⟨st, p, r.takeWhile Text.isBlank, Text.skipBlanks r, ?_⟩
  exact {
    toList_eq := by rw [hline, hr]
    blanks := fun c => Text.isBlank_of_mem_takeWhile
    head := fun c => Text.head_skipBlanks
    offset_eq := hoffset
    fault := hfault
    parse_eq := by rwa [hr] }

namespace Halts

variable {line : String} {e : ParseError} {st : State} {p b s : List Char}

theorem slice (h : Halts line e st p b s) :
    Text.takeBytes? line.toList e.offset = some (p ++ b) := by
  rw [h.toList_eq, h.offset_eq, ← List.append_assoc, ← Text.byteLength_append]
  exact Text.takeBytes?_append (p ++ b) s

theorem parse_of_completes (h : Halts line e st p b s) {r' : List Char} {q : Pipeline}
    (hadmits : st.phase.Admits (b ++ s) r') (hq : Completes st r' q) :
    Pipeline.parse (String.ofList (p ++ r')) = .ok q := by
  rw [h.parse_eq _ r' (by simp) hadmits]
  exact resume_of_completes hq

theorem complete (h : Halts line e st p b s) {stage : Stage}
    (hstage : st.phase.stage? = some stage) :
    ∃ q, Pipeline.parse (String.ofList (p ++ b)) = .ok q := by
  have hadmits : st.phase.Admits (b ++ s) b :=
    admits_of_head_blank fun c hc => h.blanks c (List.mem_of_head? hc)
  exact ⟨_, h.parse_of_completes hadmits (completes_blanks hstage h.blanks)⟩

theorem completable (h : Halts line e st p b s) (hstage : st.phase.stage? = none) :
    ∃ q, Pipeline.parse (String.ofList (p ++ b) ++ "x") = .ok q := by
  obtain ⟨q, hq⟩ := completes_x hstage h.blanks
  have hline : String.ofList (p ++ b) ++ "x" = String.ofList (p ++ (b ++ ['x'])) := by
    rw [← String.toList_inj]
    simp
  rw [hline]
  exact ⟨q, h.parse_of_completes (admits_x hstage h.blanks) hq⟩

/-- Before another text, that begins with no blank, the line is wrong at the same place exactly if
something is wrong there. -/
theorem parse_eq_error_iff (h : Halts line e st p b s) {s' : List Char} {e' : ParseError}
    (hs' : ∀ c ∈ s'.head?, Text.isBlank c = false) (hadmits : st.phase.Admits (b ++ s) (b ++ s'))
    (he' : e'.offset = e.offset) :
    Pipeline.parse (String.ofList (p ++ (b ++ s'))) = .error e' ↔ Fault st.phase s' e'.cause := by
  have hskip := Cursor.skipBlanks_append (n := Text.byteLength p) h.blanks hs'
  rw [h.parse_eq _ (b ++ s') (by simp) hadmits, outcome_eq_error_iff, hskip]
  rw [hskip, he', h.offset_eq]

theorem refused (h : Halts line e st p b s) {t : Token} {x : Expected}
    (hcause : e.cause = .unexpected t x) (ht : t ≠ .endOfLine) (s' : List Char) :
    (∃ e', Pipeline.parse (String.ofList (p ++ (b ++ (t.text.toList ++ s')))) = .error e' ∧
      e'.offset = e.offset ∧ e'.diagnostic.kind = e.diagnostic.kind ∧
      e'.diagnostic.expected = e.diagnostic.expected) ↔
    ¬ (t.text = "2" ∧ s'.head? = some '>') := by
  have hfault := h.fault
  rw [hcause] at hfault
  obtain ⟨⟨r, hscan⟩, -⟩ := fault_unexpected_iff.1 hfault
  obtain rfl := Token.scan_append hscan
  have htext := Token.text_ne_nil_of_scan hscan ht
  have hhead : ∀ c ∈ (t.text.toList ++ s').head?, Text.isBlank c = false := by
    intro c hc
    obtain ⟨d, w, hlist⟩ := List.exists_cons_of_ne_nil htext
    refine h.head c ?_
    simpa [hlist] using hc
  have hadmits : st.phase.Admits (b ++ (t.text.toList ++ r)) (b ++ (t.text.toList ++ s')) := by
    rw [← List.append_assoc, ← List.append_assoc]
    refine admits_append (List.append_ne_nil_of_right_ne_nil b htext) fun command hphase => ?_
    exact absurd hphase (ne_arguments_of_fault hfault command)
  constructor
  · rintro ⟨e', hparse, hoffset, -, -⟩ ⟨htwo, hangle⟩
    have hfault' := (h.parse_eq_error_iff hhead hadmits hoffset).1 hparse
    obtain ⟨u, rfl⟩ := List.head?_eq_some_iff.1 hangle
    rw [htwo] at hfault hfault'
    exact not_fault_of_two hfault htwo e'.cause hfault'
  · intro hs
    obtain ⟨t', hfault'⟩ := hfault.append ht hs
    have hparse : Pipeline.parse (String.ofList (p ++ (b ++ (t.text.toList ++ s')))) =
        .error ⟨e.offset, .unexpected t' x⟩ := by
      refine (h.parse_eq_error_iff hhead hadmits ?_).2 ?_
      · rfl
      · exact hfault'
    refine ⟨_, hparse, rfl, ?_, ?_⟩
    · simp [ParseError.diagnostic, hcause]
    · simp [ParseError.diagnostic, hcause]

theorem emptyQuotes (h : Halts line e st p b s) (hkind : e.diagnostic.kind = .lex)
    (hquotes : p ++ b ++ ['"', '"'] <+: line.toList) (s' : List Char) :
    Pipeline.parse (String.ofList (p ++ (b ++ ('"' :: '"' :: s')))) = .error e := by
  obtain ⟨u, hu⟩ := hquotes
  rw [h.toList_eq, List.append_assoc, List.append_assoc] at hu
  obtain rfl := List.append_cancel_left (List.append_cancel_left hu)
  have hunit : WordClass.unit? .argument ('"' :: '"' :: s') = none :=
    WordClass.argument_unit?_eq_none_iff.2 (.inl ⟨rfl, .inl rfl⟩)
  obtain ⟨command, hphase, hcause⟩ := arguments_of_fault h.fault hkind
  have hfollows : Text.FollowsLike (b ++ ['"', '"'] ++ u) (b ++ ['"', '"'] ++ s') :=
    .append (by simp)
  have hadmits : st.phase.Admits (b ++ ('"' :: '"' :: u)) (b ++ ('"' :: '"' :: s')) := by
    rw [hphase]
    refine ⟨by simpa using hfollows, fun hq => ?_⟩
    cases b with
    | nil => exact hunit
    | cons c b => exact WordClass.unit?_eq_none_of_blank _ (h.blanks c List.mem_cons_self)
  refine (h.parse_eq_error_iff (fun c hc => ?_) hadmits rfl).2 ?_
  · cases hc
    rfl
  · rw [hphase, hcause]
    exact .unreadable hunit

end Halts

end Reading

/-- The error of a line is its first failure. -/
theorem Pipeline.isFirstFailure_of_parse {line : String} {e : ParseError}
    (h : Pipeline.parse line = .error e) : ∃ before, e.IsFirstFailure line before := by
  obtain ⟨st, p, b, s, hhalts⟩ := Reading.exists_halts h
  have hstage := Reading.stage?_of_fault hhalts.fault
  refine ⟨String.ofList (p ++ b), ?_⟩
  exact {
    slice := by
      rw [String.toList_ofList]
      exact hhalts.slice
    complete := fun hend => by
      obtain ⟨stage, hstage⟩ := hstage.1 hend
      exact hhalts.complete hstage
    completable := fun hend => by
      refine hhalts.completable (Option.eq_none_iff_forall_ne_some.2 fun stage h => ?_)
      exact hend (hstage.2 ⟨stage, h⟩)
    refused := fun t x hcause ht s' => by
      have hline : String.ofList (p ++ b) ++ t.text ++ s' =
          String.ofList (p ++ (b ++ (t.text.toList ++ s'.toList))) := by
        rw [← String.toList_inj]
        simp
      rw [hline]
      exact hhalts.refused hcause ht s'.toList
    emptyQuotes := fun hkind hquotes s' => by
      have hline : String.ofList (p ++ b) ++ "\"\"" ++ s' =
          String.ofList (p ++ (b ++ ('"' :: '"' :: s'.toList))) := by
        rw [← String.toList_inj]
        simp
      rw [String.toList_ofList] at hquotes
      rw [hline]
      exact hhalts.emptyQuotes hkind hquotes s'.toList }

/-- The word `2` in place of a redirection. -/
theorem Pipeline.isFirstFailure_of_parse_two :
    Pipeline.parse "a > b 2" = .error ⟨6, .unexpected (.word .argument "2") .redirection⟩ ∧
    ∃ before, ParseError.IsFirstFailure
      ⟨6, .unexpected (.word .argument "2") .redirection⟩ "a > b 2" before :=
  have h : Pipeline.parse "a > b 2" = _ := by decide +kernel
  ⟨h, Pipeline.isFirstFailure_of_parse h⟩

end ShellPipeline
