import Mathlib.Logic.ExistsUnique
import ShellPipeline.Proofs.Faults
import ShellPipeline.Proofs.Tiling

/-!
# The kinds of rejection

A line that is not read as a pipeline is rejected for one of five reasons, one for each thing that
the grammar may ask for. `Rejection` lists them, with what was found and what stands before it.

The tokens that were taken tell the phase of the reading (`Phase.Follows`), and the phase with the
fault in front of it tells the reason (`rejection_of_fault`).
-/

namespace ShellPipeline

/-- The token is no word. -/
def Token.IsOperatorOrEnd (t : Token) : Prop := t = .endOfLine ∨ ∃ op, t = .operator op

/-- The offset behind the last of some tokens, and the start of the line if there are none. -/
def Lexeme.lastStop (xs : List Lexeme) : Nat := (xs.getLast?.map Lexeme.stop).getD 0

/-- The place of an error, between two parts of a line. -/
structure ParseError.Divides (e : ParseError) (line : String) (before after : List Char) :
    Prop where
  slice : Text.takeBytes? line.toList e.offset = some before
  toList_eq : line.toList = before ++ after
  /-- Only blanks stand behind the last token that was taken. -/
  gap : ∃ b, Text.slice? line.toList (Lexeme.lastStop (Reading.ofLine line).lexemes) e.offset =
    some b ∧ ∀ c ∈ b, Text.isBlank c = true
  head : ∀ c ∈ after.head?, Text.isBlank c = false

/-- The error names the token at the start of a text, and what could stand there instead. -/
structure ParseError.Names (e : ParseError) (s : List Char) (t : Token) (expected : String) :
    Prop where
  kind : e.diagnostic.kind = .grammar
  expected : e.diagnostic.expected = expected
  found : e.diagnostic.found = t.describe
  reads : ∃ r, Reads s t r

/-- Why a line is rejected behind the tokens `ts`, where it goes on with the text `s`. -/
inductive Rejection (e : ParseError) (ts : List Token) (s : List Char) : Expected → Prop
  /-- A quote opens no run: it is the last one, or another one follows it at once. -/
  | argument {r : List Char} : s = '"' :: r → '"' ∉ r ∨ r.head? = some '"' →
    e.cause = .unreadable '"' .argument → e.diagnostic.kind = .lex →
    e.diagnostic.found = "`\"`" →
    e.diagnostic.expected = "an argument, a redirection, `|` or end of input" →
    Rejection e ts s .argument
  /-- A stage begins with no word. -/
  | program {t : Token} : e.Names s t "a program name" → t.IsOperatorOrEnd →
    ts = [] ∨ [.operator .pipe] <:+ ts → Rejection e ts s .program
  /-- No word follows the operator of a redirection that takes a file. -/
  | filespec {t : Token} {stream : Stream} {doubled : Bool} : e.Names s t "a filespec" →
    t.IsOperatorOrEnd → ¬ (stream = .input ∧ doubled = true) →
    [.operator (.redirect stream doubled)] <:+ ts → Rejection e ts s .filespec
  /-- No keyword follows the operator of a here-document. -/
  | keyword {t : Token} : e.Names s t "a here-document keyword" →
    t.IsOperatorOrEnd ∨ (∃ k w c, t = .word k w ∧ w.toList.head? = some c ∧
      Text.isAlphanumeric c = false ∧ c ≠ '_') →
    [.operator (.redirect .input true)] <:+ ts → Rejection e ts s .keyword
  /-- A word follows a redirection. -/
  | redirection {k : WordClass} {w target : String} {stream : Stream} {doubled : Bool} :
    e.Names s (.word k w) "a redirection, `|` or end of input" → w ≠ "" →
    [.operator (.redirect stream doubled), .word (Reading.targetClass stream doubled) target] <:+
      ts → Rejection e ts s .redirection

theorem ParseError.names_of_cause {e : ParseError} {s r : List Char} {t : Token} {x : Expected}
    (h : e.cause = .unexpected t x) (hr : Reads s t r) : e.Names s t x.text where
  kind := by rw [diagnostic, h]
  expected := by rw [diagnostic, h]
  found := by rw [diagnostic, h]
  reads := ⟨r, hr⟩

theorem Rejection.expected_eq {e : ParseError} {ts : List Token} {s : List Char} {x : Expected}
    (h : Rejection e ts s x) : e.diagnostic.expected = x.text := by
  cases h with
  | argument _ _ _ _ _ hexpected => exact hexpected
  | program hnames | filespec hnames | keyword hnames | redirection hnames => exact hnames.expected

theorem Expected.text_injective {x y : Expected} (h : x.text = y.text) : x = y := by
  cases x <;> cases y <;> first | rfl | exact absurd h (by decide)

namespace Reading

/-! ## The tokens before a phase -/

/-- What the tokens end with that lead to a phase. -/
inductive Phase.Follows (ts : List Token) : Phase → Prop
  | start : ts = [] → Follows ts .program
  | pipe : [.operator .pipe] <:+ ts → Follows ts .program
  | arguments {command : Command} : Follows ts (.arguments command)
  | target {stage : Stage} {stream : Stream} {doubled : Bool} {n : Nat} :
    [.operator (.redirect stream doubled)] <:+ ts → Follows ts (.target stage stream doubled n)
  | redirections {stage : Stage} {stream : Stream} {doubled : Bool} {w : String} :
    [.operator (.redirect stream doubled), .word (targetClass stream doubled) w] <:+ ts →
    Follows ts (.redirections stage)

theorem follows_of_takes {st st' : State} {x : Lexeme} {events : List Event} {ts : List Token}
    (h : Takes st x events st') (hts : st.phase.Follows ts) :
    st'.phase.Follows (ts ++ [x.token]) := by
  cases h with
  | program | argument => exact .arguments
  | redirect => exact .target (List.suffix_append _ _)
  | pipe => exact .pipe (List.suffix_append _ _)
  | @target _ _ stream doubled w =>
    cases hts with
    | target hsuffix =>
      obtain ⟨front, rfl⟩ := hsuffix
      have hlast : [.operator (.redirect stream doubled), .word (targetClass stream doubled) w] <:+
          front ++ [.operator (.redirect stream doubled)] ++
            [.word (targetClass stream doubled) w] :=
        ⟨front, by simp⟩
      exact .redirections hlast

theorem Run.follows {c c' : Cursor} {st : State} {xs : List Lexeme} {events : List Event}
    (h : Run .start c xs events st c') : st.phase.Follows (xs.map Lexeme.token) := by
  induction h with
  | refl => exact .start rfl
  | tail _ hmove ih =>
    obtain ⟨_, htakes, -⟩ := takes_of_move hmove
    rw [List.map_append]
    exact follows_of_takes htakes ih

theorem Run.offset_eq {line : String} {st : State} {xs : List Lexeme} {events : List Event}
    {c : Cursor} (h : Run .start (.start line) xs events st c) :
    c.offset = Lexeme.lastStop xs := by
  cases h with
  | refl => rfl
  | tail _ hmove =>
    rw [(Cursor.next_eq_ok (move_eq_more hmove).1).2.2, Lexeme.lastStop, List.getLast?_concat]
    rfl

/-! ## The reason for a fault -/

theorem isOperatorOrEnd_of_scan {s r : List Char} {t : Token}
    (hscan : Token.scan .filespec s = .ok (t, r)) (ht : ∀ w, t ≠ .word .filespec w) :
    t.IsOperatorOrEnd := by
  cases t with
  | endOfLine => exact .inl rfl
  | operator op => exact .inr ⟨op, rfl⟩
  | word k w =>
    obtain ⟨-, hk, -⟩ := Token.word_of_scan hscan
    obtain rfl : k = .filespec := by simpa [Mode.classes] using hk
    exact absurd rfl (ht w)

/-- Behind the operator of a here-document any other word begins with no character of a keyword. -/
theorem notKeyword_of_scan {s r : List Char} {t : Token}
    (hscan : Token.scan .keyword s = .ok (t, r)) (ht : ∀ w, t ≠ .word .keyword w) :
    t.IsOperatorOrEnd ∨ ∃ k w c, t = .word k w ∧ w.toList.head? = some c ∧
      Text.isAlphanumeric c = false ∧ c ≠ '_' := by
  cases t with
  | endOfLine => exact .inl (.inl rfl)
  | operator op => exact .inl (.inr ⟨op, rfl⟩)
  | word k w =>
    have hk : k ≠ .keyword := fun hk => ht w (by rw [hk])
    have hunit := Token.unit?_eq_none_of_scan (k := .keyword) hscan hk
    obtain ⟨-, -, -, hw⟩ := Token.word_of_scan hscan
    obtain ⟨c, v, hcons⟩ := List.exists_cons_of_ne_nil hw.ne_nil
    rw [Token.scan_append hscan, Token.text, hcons, List.cons_append,
      WordClass.keyword_unit?_eq_none_iff, Text.isWordChar, Bool.or_eq_false_iff,
      beq_eq_false_iff_ne] at hunit
    exact .inr ⟨k, w, c, rfl, by rw [hcons]; rfl, hunit⟩

theorem rejection_of_quote {e : ParseError} {ts : List Token} {r : List Char}
    (h : e.cause = .unreadable '"' .argument)
    (hunit : WordClass.unit? .argument ('"' :: r) = none) :
    Rejection e ts ('"' :: r) .argument := by
  have hdiagnostic : e.diagnostic = ⟨.lex, e.offset, "`\"`", Expected.argument.text⟩ := by
    rw [ParseError.diagnostic, h]
    rfl
  rcases WordClass.argument_unit?_eq_none_iff.1 hunit with ⟨-, hquote⟩ | hangle | hblank
  · refine .argument rfl hquote.symm h ?_ ?_ ?_
    · rw [hdiagnostic]
    · rw [hdiagnostic]
    · rw [hdiagnostic]
      rfl
  · cases hangle
  · cases hblank

theorem rejection_of_target {e : ParseError} {ts : List Token} {s r : List Char} {t : Token}
    {stream : Stream} {doubled : Bool}
    (h : e.cause = .unexpected t (targetClass stream doubled).mode.expected) (hreads : Reads s t r)
    (hscan : Token.scan (targetClass stream doubled).mode s = .ok (t, r))
    (ht : ∀ w, t ≠ .word (targetClass stream doubled) w)
    (hts : [.operator (.redirect stream doubled)] <:+ ts) : ∃ x, Rejection e ts s x := by
  have hnames := ParseError.names_of_cause h hreads
  by_cases hhere : stream = .input ∧ doubled = true
  · obtain ⟨rfl, rfl⟩ := hhere
    exact ⟨.keyword, .keyword hnames (notKeyword_of_scan hscan ht) hts⟩
  · rw [targetClass_eq_filespec hhere] at hnames hscan
    simp only [targetClass_eq_filespec hhere] at ht
    exact ⟨.filespec, .filespec hnames (isOperatorOrEnd_of_scan hscan ht) hhere hts⟩

/-- Whatever is wrong with a text has one of the five reasons. -/
theorem rejection_of_fault {phase : Phase} {s : List Char} {e : ParseError} {ts : List Token}
    (h : Fault phase s e.cause) (hs : ∀ c ∈ s.head?, Text.isBlank c = false)
    (hts : phase.Follows ts) : ∃ x, Rejection e ts s x := by
  generalize hcause : e.cause = cause at h
  cases h with
  | unreadable hunit => exact ⟨.argument, rejection_of_quote hcause hunit⟩
  | @unexpected _ _ r t x hscan hrefuses =>
    have hreads : Reads s t r := Token.reads_of_scan (by rwa [Text.skipBlanks_of_head hs])
    cases hrefuses with
    | program ht =>
      have hnames := ParseError.names_of_cause hcause hreads
      refine ⟨.program, .program hnames (isOperatorOrEnd_of_scan hscan ht) ?_⟩
      cases hts with
      | start hnil => exact .inl hnil
      | pipe hpipe => exact .inr hpipe
    | @arguments command k w hk =>
      exact absurd rfl (ne_arguments_of_fault (.unexpected hscan (.arguments hk)) command)
    | target ht =>
      cases hts with
      | target hsuffix => exact rejection_of_target hcause hreads hscan ht hsuffix
    | @redirections stage k w =>
      have hnames := ParseError.names_of_cause hcause hreads
      obtain ⟨-, -, -, hw⟩ := Token.word_of_scan hscan
      have hne : w ≠ "" := fun h => hw.ne_nil (String.toList_eq_nil_iff.2 h)
      cases hts with
      | redirections hsuffix => exact ⟨.redirection, .redirection hnames hne hsuffix⟩

end Reading

/-- A line that is rejected is rejected at a place between two characters, for exactly one of the
five reasons. -/
theorem Pipeline.existsUnique_rejection {line : String} {e : ParseError}
    (h : Pipeline.parse line = .error e) :
    e.offset ≤ Text.byteLength line.toList ∧ ∃ before after, e.Divides line before after ∧
      ∃! x, Rejection e ((Reading.ofLine line).lexemes.map Lexeme.token) after x := by
  obtain ⟨events, events', st, c, hrun, hstop, -⟩ := Reading.exists_run .start (.start line)
  change Reading.Run .start (.start line) (Reading.ofLine line).lexemes events st c at hrun
  change st.move c = .stop events' (Pipeline.parse line) at hstop
  rw [h] at hstop
  obtain ⟨p, hp, hoffset⟩ := hrun.consumes
  obtain ⟨he, hfault⟩ := Reading.move_eq_error_iff.1 ⟨events', hstop⟩
  have hwithin : c.Within line.toList p := ⟨hp, by simpa [Cursor.start] using hoffset⟩
  have hdivides : e.Divides line (p ++ c.blanks) c.skipBlanks.rest := {
    slice := by
      rw [he]
      exact hwithin.skipBlanks.takeBytes?_eq
    toList_eq := hwithin.skipBlanks.split
    gap := by
      rw [he, ← hrun.offset_eq]
      exact ⟨c.blanks, hwithin.slice?_blanks, fun _ => Cursor.isBlank_of_mem_blanks⟩
    head := Cursor.head_skipBlanks_rest }
  obtain ⟨x, hx⟩ := Reading.rejection_of_fault hfault Cursor.head_skipBlanks_rest hrun.follows
  refine ⟨?_, _, _, hdivides, x, hx, fun y hy => ?_⟩
  · rw [he]
    exact hwithin.skipBlanks.offset_le
  · exact Expected.text_injective (hy.expected_eq.symm.trans hx.expected_eq)

/-- A word that is no keyword, behind letters of two bytes. -/
theorem Pipeline.existsUnique_rejection_keyword :
    Pipeline.parse "é|c <<\t-É" = .error ⟨8, .unexpected (.word .argument "-É") .keyword⟩ ∧
    8 ≤ Text.byteLength "é|c <<\t-É".toList ∧ ∃ before after,
      ParseError.Divides ⟨8, .unexpected (.word .argument "-É") .keyword⟩ "é|c <<\t-É" before
        after ∧
      ∃! x, Rejection ⟨8, .unexpected (.word .argument "-É") .keyword⟩
        ((Reading.ofLine "é|c <<\t-É").lexemes.map Lexeme.token) after x :=
  have h : Pipeline.parse "é|c <<\t-É" = _ := by decide +kernel
  ⟨h, Pipeline.existsUnique_rejection h⟩

end ShellPipeline
