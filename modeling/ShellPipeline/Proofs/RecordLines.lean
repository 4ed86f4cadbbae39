import ShellPipeline.Proofs.FirstFailure
import ShellPipeline.Session

/-!
# Line breaks in the records of a log

The outcome of a line is noted in one record. Its message shows the line without breaks, but names
the word for which the line is rejected as it stands there. So the breaks of the record are those of
that word, which may be anything where a keyword of a here-document is wanted, or behind a
redirection.

* `Log.refusedWord`: the word for which a line is rejected;
* `Log.NotesOutcome`: what a log says of the outcome of a line;
* `Log.isOneLine_outcome_iff`: when that is a single line.
-/

namespace ShellPipeline

namespace Log

/-- A character behind which another line begins. -/
def isBreak (c : Char) : Bool := c == '\n' || c == '\r'

/-- The line breaks in a text, in order. -/
def breaks (s : List Char) : List Char := s.filter isBreak

/-- The word for which a line is rejected; empty if there is none. -/
def refusedWord : Except ParseError Pipeline → List Char
  | .error ⟨_, .unexpected (.word _ w) _⟩ => w.toList
  | _ => []

/-- What a log says of the outcome of a line, which is noted at a time. -/
structure NotesOutcome (line time : String) : Prop where
  /-- One record is graver than those of debugging. -/
  single : (readingRecords line).filter (·.passes (some .info)) =
    [outcomeRecord line (Pipeline.parse line)]
  info_iff : (outcomeRecord line (Pipeline.parse line)).level = .info ↔
    ∃ p, Pipeline.parse line = .ok p
  warn_iff : (outcomeRecord line (Pipeline.parse line)).level = .warn ↔
    ∃ e, Pipeline.parse line = .error e
  /-- The breaks of the message are those of the word that is refused. -/
  message : breaks (outcomeRecord line (Pipeline.parse line)).message.toList =
    breaks (refusedWord (Pipeline.parse line))
  /-- In the log a line feed comes after them. -/
  logLine : ∀ place, breaks ((outcomeRecord line (Pipeline.parse line)).line time place).toList =
    breaks (refusedWord (Pipeline.parse line)) ++ ['\n']
  /-- The log of a threshold for information holds the record and nothing else. -/
  infoLog : ∀ stamps : Stamps, logText stamps (some .info) (readingRecords line) =
    (outcomeRecord line (Pipeline.parse line)).line (stamps.time 0) stamps.place
  /-- The log of a threshold for warnings holds it if the line is rejected. -/
  warnLog : ∀ stamps : Stamps, logText stamps (some .warn) (readingRecords line) =
    match Pipeline.parse line with
    | .ok _ => ""
    | .error _ => (outcomeRecord line (Pipeline.parse line)).line (stamps.time 0) stamps.place
  /-- A word is refused in place of a keyword, or behind a redirection. -/
  place : ∀ n k w x, Pipeline.parse line = .error ⟨n, .unexpected (.word k w) x⟩ →
    x = .keyword ∨ x = .redirection

/-! ## Breaks in the parts of a message -/

theorem breaks_append (s t : List Char) : breaks (s ++ t) = breaks s ++ breaks t :=
  List.filter_append ..

theorem breaks_eq_nil_iff {s : List Char} : breaks s = [] ↔ '\n' ∉ s ∧ '\r' ∉ s := by
  simp only [breaks, List.filter_eq_nil_iff, isBreak, Bool.or_eq_true, beq_iff_eq, not_or]
  exact ⟨fun h => ⟨fun hn => (h _ hn).1 rfl, fun hr => (h _ hr).2 rfl⟩,
    fun h c hc => ⟨fun hn => h.1 (hn ▸ hc), fun hr => h.2 (hr ▸ hc)⟩⟩

theorem breaks_repr (n : Nat) : breaks n.repr.toList = [] := by
  refine List.filter_eq_nil_iff.2 fun c hc hbreak => ?_
  rw [Nat.toList_repr] at hc
  have hdigit := Nat.isDigit_of_mem_toDigits (by decide) (by decide) hc
  simp only [isBreak, Bool.or_eq_true, beq_iff_eq] at hbreak
  rcases hbreak with rfl | rfl <;> cases hdigit

theorem breaks_summary (line : String) : breaks (summary line).toList = [] :=
  breaks_eq_nil_iff.2
    ⟨not_mem_summary_of_break line (.inl rfl), not_mem_summary_of_break line (.inr rfl)⟩

theorem breaks_twoDigits (n : Nat) : breaks (twoDigits n).toList = [] := by
  unfold twoDigits
  split
  · rw [String.toList_append, breaks_append, breaks_repr]
    rfl
  · exact breaks_repr n

theorem breaks_timeOfDay (seconds : Nat) : breaks (timeOfDay seconds).toList = [] := by
  simp only [timeOfDay, String.toList_append, breaks_append, breaks_twoDigits]
  rfl

theorem breaks_expected (x : Expected) : breaks x.text.toList = [] := by cases x <;> rfl

theorem breaks_symbol (op : Operator) : breaks op.symbol.toList = [] := by
  rcases op with _ | ⟨_ | _ | _, _ | _⟩ <;> rfl

theorem breaks_diagnostic_message (d : Diagnostic) :
    breaks d.message.toList = breaks d.expected.toList ++ breaks d.found.toList := by
  have hkind : breaks d.kind.text.toList = [] := by cases d.kind <;> rfl
  have hoffset : breaks " at offset ".toList = [] := rfl
  have hexpected : breaks ": expected ".toList = [] := rfl
  have hfound : breaks ", found ".toList = [] := rfl
  simp only [Diagnostic.message, String.toList_append, breaks_append, hkind, hoffset, breaks_repr,
    hexpected, hfound, List.nil_append, List.append_nil]

/-- Of the tokens only words hold breaks. -/
theorem breaks_message_of_unexpected (n : Nat) (t : Token) (x : Expected) :
    breaks (ParseError.message ⟨n, .unexpected t x⟩).toList =
      breaks (refusedWord (.error ⟨n, .unexpected t x⟩)) := by
  rw [ParseError.message, breaks_diagnostic_message]
  simp only [ParseError.diagnostic, breaks_expected, List.nil_append]
  cases t with
  | endOfLine => rfl
  | operator op =>
    simp only [Token.describe, Token.text, String.toList_append, breaks_append, breaks_symbol]
    rfl
  | word k w =>
    simp only [Token.describe, Token.text, String.toList_append, breaks_append, refusedWord]
    exact List.append_nil _

/-! ## The record of a line -/

/-- A character at which a line cannot be read is a quote, and no break. -/
theorem breaks_message_of_parse {line : String} {e : ParseError}
    (h : Pipeline.parse line = .error e) :
    breaks e.message.toList = breaks (refusedWord (.error e)) := by
  obtain ⟨st, p, b, s, hhalts⟩ := Reading.exists_halts h
  have hfault := hhalts.fault
  generalize st.phase = phase at hfault
  obtain ⟨n, cause⟩ := e
  dsimp only at hfault
  cases hfault with
  | unreadable =>
    rw [ParseError.message, breaks_diagnostic_message]
    simp only [ParseError.diagnostic, breaks_expected, List.nil_append]
    rfl
  | unexpected => exact breaks_message_of_unexpected n _ _

theorem breaks_outcomeRecord (line : String) :
    breaks (outcomeRecord line (Pipeline.parse line)).message.toList =
      breaks (refusedWord (Pipeline.parse line)) := by
  cases h : Pipeline.parse line with
  | ok p =>
    simp only [outcomeRecord, String.toList_append, breaks_append, breaks_summary, Pipeline.size,
      breaks_repr]
    rfl
  | error e =>
    simp only [outcomeRecord, String.toList_append, breaks_append, breaks_summary,
      breaks_message_of_parse h]
    exact (List.append_nil _).trans (List.append_nil _)

theorem expected_of_refusedWord {line w : String} {n : Nat} {k : WordClass} {x : Expected}
    (h : Pipeline.parse line = .error ⟨n, .unexpected (.word k w) x⟩) :
    x = .keyword ∨ x = .redirection := by
  obtain ⟨st, p, b, s, hhalts⟩ := Reading.exists_halts h
  obtain ⟨⟨r, hscan⟩, hrefuses⟩ := Reading.fault_unexpected_iff.1 hhalts.fault
  rcases Reading.phase_of_refused_word hscan hrefuses with
    ⟨stage, stream, doubled, m, hphase, hk, rfl⟩ | ⟨stage, -, rfl⟩
  · left
    rw [hphase] at hscan
    obtain ⟨-, hmem, -⟩ := Token.word_of_scan hscan
    -- The mode of a file lets no other word be read.
    cases hclass : Reading.targetClass stream doubled with
    | keyword => rfl
    | argument => exact absurd hclass (Reading.targetClass_ne_argument stream doubled)
    | filespec =>
      rw [hclass] at hk
      simp [Reading.Phase.mode, hclass, WordClass.mode, Mode.classes, hk] at hmem
  · exact .inr rfl

theorem breaks_line (time place : String) {r : Record} (h : r.level ≠ .trace) :
    breaks (r.line time place).toList =
      breaks time.toList ++ breaks r.target.toList ++ breaks r.message.toList ++ ['\n'] := by
  have hlabel : breaks r.level.label.toList = [] := by cases r.level <;> rfl
  have hopen : breaks " [".toList = [] := rfl
  have hclose : breaks "] ".toList = [] := rfl
  have hcolon : breaks ": ".toList = [] := rfl
  have hplace : breaks "".toList = [] := rfl
  have hend : breaks "\n".toList = ['\n'] := rfl
  simp only [Record.line, if_neg h, String.toList_append, breaks_append, hlabel, hopen, hclose,
    hcolon, hplace, hend, List.append_nil]

theorem target_outcomeRecord (line : String) (outcome : Except ParseError Pipeline) :
    (outcomeRecord line outcome).target = "shpipe::logging" := by cases outcome <;> rfl

theorem level_outcomeRecord_ne_trace (line : String) (outcome : Except ParseError Pipeline) :
    (outcomeRecord line outcome).level ≠ .trace := by cases outcome <;> exact nofun

/-- What happens on the way is noted at the levels of debugging and tracing only. -/
theorem filter_passes_readingRecords (line : String) {level : Level} (h : level.rank ≤ 3) :
    (readingRecords line).filter (·.passes (some level)) =
      [outcomeRecord line (Pipeline.parse line)].filter (·.passes (some level)) := by
  have hevents : ((Reading.ofLine line).events.map eventRecord).filter
      (·.passes (some level)) = [] := by
    refine List.filter_eq_nil_iff.2 fun r hr hpasses => ?_
    obtain ⟨event, -, rfl⟩ := List.mem_map.1 hr
    have hrank : (eventRecord event).level.rank ≤ level.rank := of_decide_eq_true hpasses
    have hevent : 4 ≤ (eventRecord event).level.rank := by
      cases event <;> simp [eventRecord, Level.rank]
    omega
  rw [readingRecords, List.filter_append, hevents]
  rfl

theorem logText_readingRecords (stamps : Stamps) (line : String) {level : Level}
    (h : level.rank ≤ 3) : logText stamps (some level) (readingRecords line) =
      if (outcomeRecord line (Pipeline.parse line)).passes (some level) then
        (outcomeRecord line (Pipeline.parse line)).line (stamps.time 0) stamps.place
      else "" := by
  rw [logText, filter_passes_readingRecords line h, List.filter_cons]
  split
  · rw [List.filter_nil, List.zipIdx_singleton, List.map_singleton, String.join_cons,
      String.join_nil, String.append_empty]
  · rfl

theorem passes_info_outcomeRecord (line : String) (outcome : Except ParseError Pipeline) :
    (outcomeRecord line outcome).passes (some .info) = true := by cases outcome <;> rfl

/-- The outcome of a line is one line of the log exactly if no break is in the word for which the
line is rejected. -/
theorem isOneLine_outcome_iff (line : String) (seconds : Nat) :
    (('\n' ∉ (outcomeRecord line (Pipeline.parse line)).message.toList ∧
        '\r' ∉ (outcomeRecord line (Pipeline.parse line)).message.toList) ↔
      '\n' ∉ refusedWord (Pipeline.parse line) ∧ '\r' ∉ refusedWord (Pipeline.parse line)) ∧
    NotesOutcome line (timeOfDay seconds) := by
  refine ⟨?_, ?_⟩
  · rw [← breaks_eq_nil_iff, breaks_outcomeRecord, breaks_eq_nil_iff]
  · have hrank : Level.info.rank ≤ 3 := Nat.le_refl 3
    exact {
      single := by
        rw [filter_passes_readingRecords line hrank, List.filter_cons,
          if_pos (passes_info_outcomeRecord line _), List.filter_nil]
      info_iff := by cases Pipeline.parse line <;> simp [outcomeRecord]
      warn_iff := by cases Pipeline.parse line <;> simp [outcomeRecord]
      message := breaks_outcomeRecord line
      logLine := fun place => by
        rw [breaks_line _ place (level_outcomeRecord_ne_trace line _), breaks_timeOfDay,
          target_outcomeRecord, breaks_outcomeRecord]
        rfl
      infoLog := fun stamps => by
        rw [logText_readingRecords stamps line hrank, if_pos (passes_info_outcomeRecord line _)]
      warnLog := fun stamps => by
        rw [logText_readingRecords stamps line (by decide)]
        cases Pipeline.parse line <;> rfl
      place := fun n k w x => expected_of_refusedWord }

/-- A line feed in a word behind a redirection is one in the record as well. -/
theorem not_forall_isOneLine_outcome :
    ¬∀ line, '\n' ∉ (outcomeRecord line (Pipeline.parse line)).message.toList ∧
      '\r' ∉ (outcomeRecord line (Pipeline.parse line)).message.toList := by
  intro h
  have hmem : '\n' ∈ (outcomeRecord "a > x y\nz" (Pipeline.parse "a > x y\nz")).message.toList := by
    decide +kernel
  exact (h "a > x y\nz").1 hmem

end Log

end ShellPipeline
