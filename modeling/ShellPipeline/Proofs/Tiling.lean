import ShellPipeline.Proofs.Tokens

/-!
# Tokens cover a text

A cursor that is asked for tokens in any modes, in any order, goes through its text without a gap:
what it has gone past is, piece by piece, the blanks that were skipped and the tokens that were
read (`Cursor.Within.readOn`). A call that finds no token skips blanks only, and another mode reads
on from there.

`Cursor.Tiling` lists what holds after any calls, and of the next one.
-/

namespace ShellPipeline

namespace Cursor

/-- The place where reading goes on after calls in the given modes. -/
def readOn (c : Cursor) (modes : List Mode) : Cursor := modes.foldl (fun c m => (c.next m).2) c

/-- The blanks that the next call skips. -/
def blanks (c : Cursor) : List Char := c.rest.takeWhile Text.isBlank

/-- The text of an answer. -/
def answerText : Except ParseError Lexeme → List Char
  | .ok x => x.token.text.toList
  | .error _ => []

/-- The blanks that calls in the given modes skip and the tokens that they read, in order. -/
def covered (c : Cursor) : List Mode → List Char
  | [] => []
  | m :: modes => c.blanks ++ answerText (c.next m).1 ++ (c.next m).2.covered modes

/-- The tokens among some answers, without the end of the line. -/
def tokensOf : List (Except ParseError Lexeme × Cursor) → List Lexeme
  | [] => []
  | (.ok x, _) :: answers =>
    if x.token = .endOfLine then tokensOf answers else x :: tokensOf answers
  | (.error _, _) :: answers => tokensOf answers

/-- The cursor is the place in a text behind `before`. -/
structure Within (c : Cursor) (src before : List Char) : Prop where
  split : src = before ++ c.rest
  offset_eq : c.offset = Text.byteLength before

/-- A token that was read between two places of a text. -/
structure ReadsToken (src : List Char) (c : Cursor) (x : Lexeme) (c' : Cursor) : Prop where
  /-- Between the place and the token stand the blanks that were skipped, and nothing else. -/
  gap : Text.slice? src c.offset x.start = some c.blanks
  blank : ∀ d ∈ c.blanks, Text.isBlank d = true
  text : Text.slice? src x.start x.stop = some x.token.text.toList
  stop : c'.offset = x.stop
  head : ∀ d ∈ x.token.text.toList.head?, Text.isBlank d = false
  empty_iff : x.token.text = "" ↔ x.token = .endOfLine ∧ x.start = Text.byteLength src

/-- A call that found no token between two places of a text. -/
structure FindsNone (src : List Char) (c : Cursor) (m : Mode) (e : ParseError) (c' : Cursor) :
    Prop where
  gap : Text.slice? src c.offset e.offset = some c.blanks
  blank : ∀ d ∈ c.blanks, Text.isBlank d = true
  stop : c'.offset = e.offset
  mode : m = .argument
  again : c'.next .argument = (.error e, c')
  other : ∀ m', m' ≠ .argument → ∃ x c'', c'.next m' = (.ok x, c'') ∧ x.token.text ≠ ""

/-- What holds after calls in the given modes, which lead to the place `c` with these answers. -/
structure Tiling (src : String) (modes : List Mode) (c : Cursor)
    (answers : List (Except ParseError Lexeme × Cursor)) : Prop where
  next : ∀ m, (Cursor.start src).readAll (modes ++ [m]) = answers ++ [c.next m]
  covered : Text.takeBytes? src.toList c.offset = some ((Cursor.start src).covered modes)
  offset_le : c.offset ≤ Text.byteLength src.toList
  offset_le_next : ∀ m, c.offset ≤ (c.next m).2.offset
  tokens_le : (tokensOf answers).length ≤ Text.byteLength src.toList
  token : ∀ m x c', c.next m = (.ok x, c') → ReadsToken src.toList c x c'
  failure : ∀ m e c', c.next m = (.error e, c') → FindsNone src.toList c m e c'
  ended : ∀ x c', (.ok x, c') ∈ answers → x.token = .endOfLine →
    ∀ m, ∃ y, c.next m = (.ok y, c) ∧ y.token = .endOfLine

/-! ## One call -/

theorem isBlank_of_mem_blanks {c : Cursor} {d : Char} (h : d ∈ c.blanks) :
    Text.isBlank d = true :=
  Text.isBlank_of_mem_takeWhile h

theorem blanks_append_skipBlanks (c : Cursor) : c.blanks ++ c.skipBlanks.rest = c.rest :=
  List.takeWhile_append_dropWhile

theorem head_skipBlanks_rest {c : Cursor} : ∀ d ∈ c.skipBlanks.rest.head?, Text.isBlank d = false :=
  fun _ => Text.head_skipBlanks

theorem skipBlanks_skipBlanks (c : Cursor) : c.skipBlanks.skipBlanks = c.skipBlanks := by
  have hskip := skipBlanks_append (n := c.skipBlanks.offset) (b := []) (s := c.skipBlanks.rest)
    (by simp) head_skipBlanks_rest
  simpa using hskip

theorem next_skipBlanks (c : Cursor) (m : Mode) : c.skipBlanks.next m = c.next m := by
  simp only [next, skipBlanks_skipBlanks]

/-- A call moves the cursor behind the blanks and the text of its answer. -/
theorem next_covers (c : Cursor) (m : Mode) :
    c.rest = c.blanks ++ answerText (c.next m).1 ++ (c.next m).2.rest ∧
      (c.next m).2.offset =
        c.offset + Text.byteLength (c.blanks ++ answerText (c.next m).1) := by
  cases hnext : c.next m with
  | mk answer c' =>
    cases answer with
    | error e =>
      obtain ⟨rfl, -⟩ := next_eq_error hnext
      simp only [answerText, List.append_nil]
      exact ⟨(blanks_append_skipBlanks c).symm, rfl⟩
    | ok x =>
      obtain ⟨hscan, hstart, hstop⟩ := next_eq_ok hnext
      simp only [answerText]
      constructor
      · rw [List.append_assoc, ← Token.scan_append hscan, blanks_append_skipBlanks]
      · rw [hstop, Lexeme.stop, hstart, Text.byteLength_append, ← Nat.add_assoc]
        rfl

theorem rest_of_endOfLine {c c' : Cursor} {m : Mode} {x : Lexeme} (h : c.next m = (.ok x, c'))
    (hx : x.token = .endOfLine) : c.skipBlanks.rest = [] ∧ c'.rest = [] := by
  have hreads := reads_of_next h
  rw [hx] at hreads
  exact Reads.endOfLine_iff.1 hreads

theorem next_of_rest_eq_nil {c : Cursor} (h : c.rest = []) (m : Mode) :
    c.next m = (.ok ⟨.endOfLine, c.offset⟩, c) := by
  obtain ⟨n, s⟩ := c
  obtain rfl : s = [] := h
  rfl

theorem text_eq_empty_iff {c c' : Cursor} {m : Mode} {x : Lexeme} (h : c.next m = (.ok x, c')) :
    x.token.text = "" ↔ x.token = .endOfLine := by
  constructor
  · intro htext
    refine Decidable.byContradiction fun hx => ?_
    exact Token.text_ne_nil_of_scan (next_eq_ok h).1 hx (by simp [htext])
  · intro hx
    rw [hx]
    rfl

variable {src before : List Char} {c c' : Cursor}

theorem Within.takeBytes?_eq (h : c.Within src before) :
    Text.takeBytes? src c.offset = some before := by
  rw [h.offset_eq, h.split]
  exact Text.takeBytes?_append before c.rest

theorem Within.offset_le (h : c.Within src before) : c.offset ≤ Text.byteLength src := by
  rw [h.offset_eq, h.split, Text.byteLength_append]
  exact Nat.le_add_right _ _

theorem Within.skipBlanks (h : c.Within src before) :
    c.skipBlanks.Within src (before ++ c.blanks) where
  split := by rw [List.append_assoc, blanks_append_skipBlanks, h.split]
  offset_eq := by
    rw [Text.byteLength_append, ← h.offset_eq]
    rfl

theorem Within.next (h : c.Within src before) (m : Mode) :
    (c.next m).2.Within src (before ++ (c.blanks ++ answerText (c.next m).1)) where
  split := by rw [List.append_assoc, ← (next_covers c m).1, h.split]
  offset_eq := by rw [(next_covers c m).2, h.offset_eq, Text.byteLength_append before]

theorem Within.slice?_blanks (h : c.Within src before) :
    Text.slice? src c.offset c.skipBlanks.offset = some c.blanks := by
  rw [h.skipBlanks.offset_eq, h.offset_eq, h.split, ← blanks_append_skipBlanks]
  exact Text.slice?_append before c.blanks _

theorem readsToken_of_next {m : Mode} {x : Lexeme} (hc : c.Within src before)
    (h : c.next m = (.ok x, c')) : ReadsToken src c x c' := by
  obtain ⟨hscan, hstart, hstop⟩ := next_eq_ok h
  have hsplit : src = before ++ c.blanks ++ (x.token.text.toList ++ c'.rest) := by
    rw [← Token.scan_append hscan, ← hc.skipBlanks.split]
  have hplace : x.start = Text.byteLength (before ++ c.blanks) := by
    rw [hstart, hc.skipBlanks.offset_eq]
  exact {
    gap := by
      rw [hstart]
      exact hc.slice?_blanks
    blank := fun d => isBlank_of_mem_blanks
    text := by
      rw [Lexeme.stop, hplace, ← Text.byteLength_append, hsplit]
      exact Text.slice?_append _ _ _
    stop := hstop
    head := (reads_of_next h).not_isBlank_head
    empty_iff := by
      rw [text_eq_empty_iff h]
      refine ⟨fun hx => ⟨hx, ?_⟩, And.left⟩
      rw [hplace, hsplit, hx, (rest_of_endOfLine h hx).2]
      simp [Token.text] }

/-- A call that finds no token stands at a quote among arguments, where every other mode finds a
word. -/
theorem findsNone_of_next {m : Mode} {e : ParseError} (hc : c.Within src before)
    (h : c.next m = (.error e, c')) : FindsNone src c m e c' := by
  obtain ⟨rfl, found, hscan, rfl⟩ := next_eq_error h
  obtain ⟨rfl, rfl⟩ := Token.mode_of_scan_eq_error head_skipBlanks_rest hscan
  exact {
    gap := hc.slice?_blanks
    blank := fun d => isBlank_of_mem_blanks
    stop := rfl
    mode := rfl
    again := by rw [next_skipBlanks, h]
    other := fun m' hm' => by
      rw [next_skipBlanks]
      cases hnext : c.next m' with
      | mk answer c'' =>
        cases answer with
        | error e =>
          obtain ⟨-, found, hscan', -⟩ := next_eq_error hnext
          exact absurd (Token.mode_of_scan_eq_error head_skipBlanks_rest hscan').1 hm'
        | ok x =>
          refine ⟨x, c'', rfl, fun htext => ?_⟩
          have hend := (rest_of_endOfLine hnext ((text_eq_empty_iff hnext).1 htext)).1
          obtain ⟨hfound, -⟩ := Token.scan_eq_error_iff.1 hscan
          rw [hend] at hfound
          cases hfound }

/-! ## Any number of calls -/

theorem readAll_append (c : Cursor) (modes modes' : List Mode) :
    c.readAll (modes ++ modes') = c.readAll modes ++ (c.readOn modes).readAll modes' := by
  induction modes generalizing c with
  | nil => rfl
  | cons m modes ih => exact congrArg (c.next m :: ·) (ih (c.next m).2)

theorem Within.readOn (h : c.Within src before) (modes : List Mode) :
    (c.readOn modes).Within src (before ++ c.covered modes) := by
  induction modes generalizing c before with
  | nil => simpa [covered, Cursor.readOn] using h
  | cons m modes ih =>
    have hrest := ih (h.next m)
    rwa [List.append_assoc] at hrest

theorem offset_le_next (c : Cursor) (m : Mode) : c.offset ≤ (c.next m).2.offset := by
  rw [(next_covers c m).2]
  exact Nat.le_add_right _ _

/-- Every token that is not the end of the line takes a byte at least. -/
theorem length_tokensOf_next_le (c : Cursor) (m : Mode)
    (answers : List (Except ParseError Lexeme × Cursor)) :
    c.offset + (tokensOf (c.next m :: answers)).length ≤
      (c.next m).2.offset + (tokensOf answers).length := by
  have hle := offset_le_next c m
  cases hnext : c.next m with
  | mk answer c' =>
    rw [hnext] at hle
    cases answer with
    | error e => exact Nat.add_le_add_right hle _
    | ok x =>
      by_cases hx : x.token = .endOfLine
      · rw [tokensOf, if_pos hx]
        exact Nat.add_le_add_right hle _
      · have hskip := c.offset_le_skipBlanks
        have hlt := offset_lt_of_next hnext hx
        rw [tokensOf, if_neg hx, List.length_cons]
        dsimp only
        omega

theorem length_tokensOf_readAll_le (c : Cursor) (modes : List Mode) :
    c.offset + (tokensOf (c.readAll modes)).length ≤ (c.readOn modes).offset := by
  induction modes generalizing c with
  | nil => exact Nat.le_refl _
  | cons m modes ih => exact Nat.le_trans (length_tokensOf_next_le c m _) (ih (c.next m).2)

theorem readOn_of_rest_eq_nil (h : c.rest = []) (modes : List Mode) : c.readOn modes = c := by
  induction modes with
  | nil => rfl
  | cons m modes ih =>
    change (c.next m).2.readOn modes = c
    rw [next_of_rest_eq_nil h m, ih]

/-- Behind the end of the line there is nothing left. -/
theorem rest_readOn_of_endOfLine {modes : List Mode} {x : Lexeme}
    (h : (.ok x, c') ∈ c.readAll modes) (hx : x.token = .endOfLine) :
    (c.readOn modes).rest = [] := by
  induction modes generalizing c with
  | nil => cases h
  | cons m modes ih =>
    rcases List.mem_cons.1 h with hnext | h
    · have hend := (rest_of_endOfLine hnext.symm hx).2
      change ((c.next m).2.readOn modes).rest = []
      rw [← hnext, readOn_of_rest_eq_nil hend, hend]
    · exact ih h

/-- Calls in any modes go through a text without a gap. -/
theorem tiling_readAll (src : String) (modes : List Mode) :
    Tiling src modes ((Cursor.start src).readOn modes) ((Cursor.start src).readAll modes) := by
  have hstart : (Cursor.start src).Within src.toList [] := ⟨rfl, rfl⟩
  have hwithin := hstart.readOn modes
  rw [List.nil_append] at hwithin
  exact {
    next := fun m => readAll_append _ modes [m]
    covered := hwithin.takeBytes?_eq
    offset_le := hwithin.offset_le
    offset_le_next := offset_le_next _
    tokens_le := by
      have htokens := length_tokensOf_readAll_le (Cursor.start src) modes
      exact Nat.le_trans (Nat.le_add_left _ _) (Nat.le_trans htokens hwithin.offset_le)
    token := fun m x c' => readsToken_of_next hwithin
    failure := fun m e c' => findsNone_of_next hwithin
    ended := fun x c' hmem hx m =>
      ⟨_, next_of_rest_eq_nil (rest_readOn_of_endOfLine hmem hx) m, rfl⟩ }

end Cursor

end ShellPipeline
