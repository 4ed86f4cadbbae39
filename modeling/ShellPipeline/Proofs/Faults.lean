import ShellPipeline.Diagnostic
import ShellPipeline.Proofs.Runs

/-!
# What is wrong at a place

`Fault phase s cause`: in the phase the text `s` cannot be read on, for this cause. A move fails
exactly if there is a fault behind the blanks (`move_eq_error_iff`), and so does a reading, if its
error is there (`outcome_eq_error_iff`).

A fault at a token does not depend on the text behind that token, unless an operator arises
(`Fault.append`, `not_fault_of_two`).
-/

namespace ShellPipeline.Reading

/-- The causes for which a text cannot be read on. A character is unreadable only among the
arguments of a command, and it is a quote that opens no run. -/
inductive Fault : Phase → List Char → Cause → Prop
  | unreadable {command : Command} {s : List Char} :
    WordClass.unit? .argument ('"' :: s) = none →
    Fault (.arguments command) ('"' :: s) (.unreadable '"' .argument)
  | unexpected {phase : Phase} {s r : List Char} {t : Token} {x : Expected} :
    Token.scan phase.mode s = .ok (t, r) → Refuses phase t x → Fault phase s (.unexpected t x)

theorem fault_unexpected_iff {phase : Phase} {s : List Char} {t : Token} {x : Expected} :
    Fault phase s (.unexpected t x) ↔
      (∃ r, Token.scan phase.mode s = .ok (t, r)) ∧ Refuses phase t x := by
  constructor
  · intro h
    cases h with
    | unexpected hscan hrefuses => exact ⟨⟨_, hscan⟩, hrefuses⟩
  · rintro ⟨⟨r, hscan⟩, hrefuses⟩
    exact .unexpected hscan hrefuses

theorem exists_command_of_mode {phase : Phase} (h : phase.mode = .argument) :
    ∃ command, phase = .arguments command := by
  cases phase with
  | arguments command => exact ⟨command, rfl⟩
  | program | redirections => cases h
  | target _ stream doubled _ => cases stream <;> cases doubled <;> cases h

theorem fault_of_scan {phase : Phase} {s : List Char} {found : Char}
    (hs : ∀ c ∈ s.head?, Text.isBlank c = false) (h : Token.scan phase.mode s = .error found) :
    Fault phase s (.unreadable found phase.mode) := by
  obtain ⟨hmode, rfl⟩ := Token.mode_of_scan_eq_error hs h
  obtain ⟨hfound, -, hunits⟩ := Token.scan_eq_error_iff.1 h
  obtain ⟨command, rfl⟩ := exists_command_of_mode hmode
  obtain ⟨s, rfl⟩ := List.head?_eq_some_iff.1 hfound
  exact .unreadable (hunits .argument (by simp [Phase.mode, Mode.classes]))

theorem scan_of_unit?_eq_none {s : List Char} (h : WordClass.unit? .argument ('"' :: s) = none) :
    Token.scan .argument ('"' :: s) = .error '"' := by
  refine Token.scan_eq_error_iff.2 ⟨rfl, ?_, ?_⟩
  · exact Operator.split?_eq_none_iff.2 (by simp [isOperatorChar, isAngle])
  · simpa [Mode.classes] using h

/-- A move fails exactly if something is wrong behind the blanks. -/
theorem move_eq_error_iff {st : State} {c : Cursor} {e : ParseError} :
    (∃ events, st.move c = .stop events (.error e)) ↔
      e.offset = c.skipBlanks.offset ∧ Fault st.phase c.skipBlanks.rest e.cause := by
  constructor
  · rintro ⟨events, h⟩
    rcases move_eq_stop h with ⟨e', c', hnext, -, he⟩ | ⟨x, c', hnext, hstep⟩
    · cases he
      obtain ⟨-, found, hscan, rfl⟩ := Cursor.next_eq_error hnext
      exact ⟨rfl, fault_of_scan (fun c => Text.head_skipBlanks) hscan⟩
    · obtain ⟨hscan, hstart, -⟩ := Cursor.next_eq_ok hnext
      obtain ⟨-, expected, hrefuses, rfl⟩ := step_eq_error_iff.1 hstep
      exact ⟨hstart, .unexpected hscan hrefuses⟩
  · rintro ⟨hoffset, hfault⟩
    obtain ⟨n, cause⟩ := e
    obtain rfl : n = c.skipBlanks.offset := hoffset
    obtain ⟨done, phase⟩ := st
    generalize hs : c.skipBlanks.rest = s at hfault
    cases hfault with
    | unreadable hunit =>
      have hscan := scan_of_unit?_eq_none hunit
      rw [← hs] at hscan
      have hnext : c.next .argument = (.error ⟨c.skipBlanks.offset, .unreadable '"' .argument⟩,
          c.skipBlanks) := by
        simp only [Cursor.next, hscan]
      exact ⟨[], by simp only [State.move, Phase.mode, hnext]⟩
    | @unexpected _ _ r t x hscan hrefuses =>
      rw [← hs] at hscan
      have hnext : c.next phase.mode = (.ok ⟨t, c.skipBlanks.offset⟩,
          ⟨Lexeme.stop ⟨t, c.skipBlanks.offset⟩, r⟩) := by
        simp only [Cursor.next, hscan]
      exact ⟨_, move_of_stop hnext (step_of_refuses hrefuses)⟩

/-- Only a phase in which a stage may be complete asks for more redirections, or finds a character
unreadable. -/
theorem stage?_of_fault {phase : Phase} {s : List Char} {e : ParseError}
    (h : Fault phase s e.cause) :
    (e.diagnostic.kind = .lex ∨ e.diagnostic.expected = Expected.redirection.text) ↔
      ∃ stage, phase.stage? = some stage := by
  obtain ⟨n, cause⟩ := e
  dsimp only at h
  cases h with
  | unreadable => simp [ParseError.diagnostic, Phase.stage?]
  | unexpected hscan hrefuses =>
    cases hrefuses with
    | program => simp [ParseError.diagnostic, Phase.stage?, Expected.text]
    | arguments => simp [ParseError.diagnostic, Phase.stage?]
    | redirections => simp [ParseError.diagnostic, Phase.stage?]
    | @target _ stream doubled =>
      have hkind := targetClass_ne_argument stream doubled
      cases hclass : targetClass stream doubled with
      | argument => exact absurd hclass hkind
      | filespec | keyword =>
        simp [ParseError.diagnostic, Phase.stage?, Expected.text, WordClass.mode, Mode.expected]

theorem arguments_of_fault {phase : Phase} {s : List Char} {e : ParseError}
    (h : Fault phase s e.cause) (hkind : e.diagnostic.kind = .lex) :
    ∃ command, phase = .arguments command ∧ e.cause = .unreadable '"' .argument := by
  obtain ⟨n, cause⟩ := e
  dsimp only at h
  cases h with
  | unreadable => exact ⟨_, rfl, rfl⟩
  | unexpected => cases hkind

/-! ## Another text behind a token -/

/-- The program and the arguments of a command are read in modes that let no other word be read, so
that a refused word stands behind an operator or behind a target. -/
theorem phase_of_refused_word {phase : Phase} {s r : List Char} {k : WordClass} {w : String}
    {x : Expected} (hscan : Token.scan phase.mode s = .ok (.word k w, r))
    (h : Refuses phase (.word k w) x) :
    (∃ stage stream doubled n, phase = .target stage stream doubled n ∧
      k ≠ targetClass stream doubled ∧ x = (targetClass stream doubled).mode.expected) ∨
    ∃ stage, phase = .redirections stage ∧ x = .redirection := by
  obtain ⟨-, hk, -⟩ := Token.word_of_scan hscan
  cases h with
  | program hne =>
    obtain rfl : k = .filespec := by simpa [Phase.mode, Mode.classes] using hk
    exact absurd rfl (hne w)
  | arguments hne =>
    obtain rfl : k = .argument := by simpa [Phase.mode, Mode.classes] using hk
    exact absurd rfl hne
  | target hne => exact .inl ⟨_, _, _, _, rfl, fun hk => hne w (by rw [hk]), rfl⟩
  | redirections => exact .inr ⟨_, rfl, rfl⟩

theorem ne_arguments_of_fault {phase : Phase} {s : List Char} {t : Token} {x : Expected}
    (h : Fault phase s (.unexpected t x)) (command : Command) : phase ≠ .arguments command := by
  rintro rfl
  obtain ⟨⟨r, hscan⟩, hrefuses⟩ := fault_unexpected_iff.1 h
  cases hrefuses with
  | arguments hk =>
    obtain ⟨-, hmem, -⟩ := Token.word_of_scan hscan
    exact hk (by simpa [Phase.mode, Mode.classes] using hmem)

theorem Fault.append_word {phase : Phase} {k : WordClass} {w : String} {x : Expected}
    {r s : List Char} (h : Fault phase (w.toList ++ r) (.unexpected (.word k w) x))
    (hs : ¬ (w = "2" ∧ s.head? = some '>')) :
    ∃ t, Fault phase (w.toList ++ s) (.unexpected t x) := by
  obtain ⟨⟨r', hscan⟩, hrefuses⟩ := fault_unexpected_iff.1 h
  obtain ⟨hop, -, -, hw⟩ := Token.word_of_scan hscan
  have hop' : Operator.split? (w.toList ++ s) = none := by
    refine Operator.split?_append_eq_none hop hw.ne_nil ?_
    rintro ⟨htwo, hangle⟩
    exact hs ⟨String.toList_inj.1 htwo, hangle⟩
  rcases phase_of_refused_word hscan hrefuses with ⟨stage, stream, doubled, n, rfl, hk, rfl⟩ |
    ⟨stage, rfl, rfl⟩
  · have hkind := targetClass_ne_argument stream doubled
    -- Whether a word of the class that may come stands there is told by the first character.
    have hnone : WordClass.unit? (targetClass stream doubled) (w.toList ++ s) = none :=
      WordClass.unit?_eq_none_of_followsLike (Token.unit?_eq_none_of_scan hscan hk)
        (fun h => absurd h hkind) (.append hw.ne_nil)
    have hmode : (targetClass stream doubled).mode ≠ .argument := by
      cases hclass : targetClass stream doubled with
      | argument => exact absurd hclass hkind
      | filespec | keyword => simp [WordClass.mode]
    obtain ⟨k', w', r'', hscan'⟩ := Token.exists_word_of_isWord hmode hw hop'
    obtain ⟨-, -, hunit, -⟩ := Token.word_of_scan hscan'
    refine ⟨.word k' w', .unexpected hscan' (.target fun v hv => ?_)⟩
    cases hv
    exact hunit hnone
  · obtain ⟨k', w', r'', hscan'⟩ := Token.exists_word_of_isWord (m := .operator) (by simp) hw hop'
    exact ⟨.word k' w', .unexpected hscan' .redirections⟩

/-- A token that is refused stays refused before another text, unless an operator arises. -/
theorem Fault.append {phase : Phase} {t : Token} {x : Expected} {r s : List Char}
    (h : Fault phase (t.text.toList ++ r) (.unexpected t x)) (ht : t ≠ .endOfLine)
    (hs : ¬ (t.text = "2" ∧ s.head? = some '>')) :
    ∃ t', Fault phase (t.text.toList ++ s) (.unexpected t' x) := by
  cases t with
  | endOfLine => exact absurd rfl ht
  | word k w => exact h.append_word hs
  | operator op =>
    obtain ⟨-, hrefuses⟩ := fault_unexpected_iff.1 h
    have hop := Operator.split?_ne_none_of_symbol (List.prefix_append op.symbol.toList s)
    obtain ⟨⟨op', r'⟩, hop'⟩ := Option.ne_none_iff_exists'.1 hop
    refine ⟨.operator op', .unexpected (Token.scan_of_split? hop') ?_⟩
    cases hrefuses with
    | program => exact .program (by simp)
    | target => exact .target (by simp)

theorem unit?_two_ne_none {k : WordClass} (s : List Char) : k.unit? ('2' :: s) ≠ none := by
  cases k with
  | filespec => simp [WordClass.filespec_unit?_eq_none_iff, isOperatorChar, isAngle, Text.isBlank]
  | argument => simp [WordClass.argument_unit?_eq_none_iff, isAngle, Text.isBlank]
  | keyword =>
    rw [Ne, WordClass.keyword_unit?_eq_none_iff]
    decide

/-- Where the word `2` is refused, the operator that an angle makes of it is taken. -/
theorem not_fault_of_two {phase : Phase} {t : Token} {x : Expected} {r s : List Char}
    (h : Fault phase ('2' :: r) (.unexpected t x)) (ht : t.text = "2") (cause : Cause) :
    ¬ Fault phase ('2' :: '>' :: s) cause := by
  obtain ⟨⟨r', hscan⟩, hrefuses⟩ := fault_unexpected_iff.1 h
  cases t with
  | endOfLine => simp [Token.text] at ht
  | operator op => rcases op with _ | ⟨_ | _ | _, _ | _⟩ <;> exact absurd ht (by decide)
  | word k w =>
    rcases phase_of_refused_word hscan hrefuses with ⟨stage, stream, doubled, n, rfl, hk, -⟩ |
      ⟨stage, rfl, -⟩
    · exact absurd (Token.unit?_eq_none_of_scan hscan hk) (unit?_two_ne_none r)
    · have hsymbol : (Operator.redirect .error false).symbol.toList <+: '2' :: '>' :: s :=
        List.prefix_append ['2', '>'] s
      have hop := Operator.split?_ne_none_of_symbol hsymbol
      obtain ⟨⟨op, r''⟩, hop⟩ := Option.ne_none_iff_exists'.1 hop
      intro hfault
      cases hfault with
      | unexpected hscan' hrefuses' =>
        cases hscan'.symm.trans (Token.scan_of_split? hop)
        cases hrefuses'

/-! ## Readings that fail at a place -/

theorem offset_le_of_resume {st : State} {c : Cursor} {e : ParseError}
    (h : (resume st c).outcome = .error e) : c.offset ≤ e.offset := by
  obtain ⟨_, events, st', c', hrun, hstop, -⟩ := exists_run st c
  obtain ⟨p, -, hoffset⟩ := hrun.consumes
  rw [h] at hstop
  obtain ⟨he, -⟩ := move_eq_error_iff.1 ⟨events, hstop⟩
  rw [he, Cursor.skipBlanks, hoffset]
  simp only
  omega

/-- A reading fails at once exactly if something is wrong there. -/
theorem outcome_eq_error_iff {st : State} {c : Cursor} {e : ParseError}
    (he : e.offset = c.skipBlanks.offset) :
    (resume st c).outcome = .error e ↔ Fault st.phase c.skipBlanks.rest e.cause := by
  constructor
  · intro h
    cases hmove : st.move c with
    | stop events outcome =>
      rw [resume_of_stop hmove] at h
      obtain rfl : outcome = .error e := h
      exact (move_eq_error_iff.1 ⟨events, hmove⟩).2
    | more x events st' c' =>
      obtain ⟨hnext, hstep⟩ := move_eq_more hmove
      have hlt := Cursor.offset_lt_of_next hnext (token_ne_endOfLine_of_step hstep)
      rw [resume_of_more hmove] at h
      have hle := offset_le_of_resume h
      omega
  · intro h
    obtain ⟨events, hmove⟩ := move_eq_error_iff.2 ⟨he, h⟩
    rw [resume_of_stop hmove]

end ShellPipeline.Reading
