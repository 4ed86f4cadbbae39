import ShellPipeline.Proofs.Rendering

/-!
# Blanks between the tokens of a line

The tokens of a line that is read as a pipeline may be set apart by other blanks, and tokens that
touch may be set apart at all: the pipeline stays the same. A token that was read is read in front
of a blank as well, whatever stood behind it (`Reads.spaced`), so that what a state demands of the
text that is left holds of the new line (`completes_spaced`).
-/

namespace ShellPipeline

/-- The line of some tokens, each with what separates it from the next one. -/
def Token.spaced : List (Token × String) → String
  | [] => ""
  | (t, gap) :: ts => t.text ++ gap ++ spaced ts

/-- Only blanks stand between tokens, and between two tokens there is one at least. -/
structure Token.Separated (ts : List (Token × String)) : Prop where
  blank : ∀ gap ∈ ts.map Prod.snd, ∀ c ∈ gap.toList, Text.isBlank c = true
  ne_empty : ∀ gap ∈ (ts.map Prod.snd).dropLast, gap ≠ ""

namespace Token.Separated

variable {t : Token} {gap : String} {ts : List (Token × String)}

theorem gap_blank (h : Separated ((t, gap) :: ts)) : ∀ c ∈ gap.toList, Text.isBlank c = true :=
  h.blank gap List.mem_cons_self

theorem tail (h : Separated ((t, gap) :: ts)) : Separated ts where
  blank := fun g hg => h.blank g (List.mem_cons_of_mem gap hg)
  ne_empty := fun g hg => by
    refine h.ne_empty g ?_
    cases ts with
    | nil => cases hg
    | cons t' ts => exact List.mem_cons_of_mem gap hg

/-- Behind a token stands nothing or a blank. -/
theorem followsLike (h : Separated ((t, gap) :: ts)) :
    Text.FollowsLike [] (gap.toList ++ (Token.spaced ts).toList) := by
  cases hgap : gap.toList with
  | cons c s => exact .blank (h.gap_blank c (by simp [hgap]))
  | nil =>
    cases ts with
    | nil => exact .nil
    | cons t' ts => exact absurd (String.toList_eq_nil_iff.1 hgap) (h.ne_empty gap (by simp))

end Token.Separated

theorem Reads.spaced {s r b r' : List Char} {t : Token} (h : Reads s t r) (ht : t ≠ .endOfLine)
    (hb : ∀ c ∈ b, Text.isBlank c = true) (hr : Text.FollowsLike [] r') :
    Reads (b ++ (t.text.toList ++ r')) t r' := by
  cases t with
  | endOfLine => exact absurd rfl ht
  | operator op =>
    refine Reads.of_symbol op hb fun c hc => ?_
    rcases hr c hc with hblank | hhead
    · exact Text.not_isAngle_of_isBlank hblank
    · cases hhead
  | word k w =>
    obtain ⟨hw, hpipe⟩ := Reading.isWord_of_reads h
    have hreads := Reads.of_isWord hb hw (fun _ => hpipe) hr
    rwa [String.ofList_toList] at hreads

namespace Reading

/-- A state that reads a text as a pipeline demands of the same tokens between other blanks that
they be that pipeline. -/
theorem completes_spaced {st : State} {c : Cursor} {p : Pipeline} {b : List Char}
    {ts : List (Token × String)} (h : (resume st c).outcome = .ok p)
    (htokens : ts.map Prod.fst = (resume st c).lexemes.map Lexeme.token)
    (hb : ∀ c ∈ b, Text.isBlank c = true) (hts : Token.Separated ts) :
    Completes st (b ++ (Token.spaced ts).toList) p := by
  fun_induction resume st c generalizing b ts with
  | case1 st c x events st' c' hmove ih =>
    obtain ⟨hnext, hstep⟩ := move_eq_more hmove
    obtain ⟨⟨t, gap⟩, ts', rfl, rfl, htokens'⟩ := List.map_eq_cons_iff.1 htokens
    have hrest := ih h htokens' hts.gap_blank hts.tail
    have hreads := (Cursor.reads_of_next hnext).spaced (token_ne_endOfLine_of_step hstep) hb
      hts.followsLike
    have hcompletes := completes_of_step hstep hreads hrest
    simpa [Token.spaced] using hcompletes
  | case2 st c events outcome hmove =>
    obtain rfl : ts = [] := List.map_eq_nil_iff.1 htokens
    obtain rfl : outcome = .ok p := h
    rcases move_eq_stop hmove with ⟨e, c', -, -, he⟩ | ⟨x, c', hnext, hstep⟩
    · cases he
    · obtain ⟨hx, -⟩ := step_eq_ok_iff.1 hstep
      have hskip := Text.skipBlanks_append (s := []) hb
      have hreads : Reads (b ++ (Token.spaced []).toList) x.token [] := by
        rw [hx]
        exact .endOfLine hskip
      exact completes_of_stop hstep hreads

end Reading

/-- A line is read as the same pipeline with any blanks in front of its tokens, between them and
behind them. -/
theorem Pipeline.parse_spaced {line gap : String} {p : Pipeline} {ts : List (Token × String)}
    (h : Pipeline.parse line = .ok p)
    (htokens : ts.map Prod.fst = (Reading.ofLine line).lexemes.map Lexeme.token)
    (hgap : ∀ c ∈ gap.toList, Text.isBlank c = true) (hts : Token.Separated ts) :
    Pipeline.parse (gap ++ Token.spaced ts) = .ok p := by
  have hcompletes := Reading.completes_spaced h htokens hgap hts
  rw [← String.toList_append] at hcompletes
  exact Reading.resume_of_completes (c := .start (gap ++ Token.spaced ts)) hcompletes

/-- Tokens that touch, set apart by spaces and tabs. -/
theorem Pipeline.parse_spaced_touching :
    Pipeline.parse "a\\<b c\"d e\"|f>x<<E|g" = .ok ⟨[
      ⟨⟨"a\\<b", ["c\"d e\"|f"]⟩, ⟨some ⟨false, "x"⟩, none, some ⟨true, "E"⟩⟩⟩,
      ⟨⟨"g", []⟩, .empty⟩], by simp⟩ ∧
    Pipeline.parse ("\t" ++ Token.spaced [(.word .filespec "a\\<b", "\t "),
      (.word .argument "c\"d e\"|f", "  "), (.operator (.redirect .output false), " "),
      (.word .filespec "x", "\t"), (.operator (.redirect .input true), " "),
      (.word .keyword "E", " "), (.operator .pipe, " "), (.word .filespec "g", " \t")]) = .ok ⟨[
      ⟨⟨"a\\<b", ["c\"d e\"|f"]⟩, ⟨some ⟨false, "x"⟩, none, some ⟨true, "E"⟩⟩⟩,
      ⟨⟨"g", []⟩, .empty⟩], by simp⟩ :=
  have h : Pipeline.parse "a\\<b c\"d e\"|f>x<<E|g" = _ := by decide +kernel
  ⟨h, Pipeline.parse_spaced h (by decide +kernel) (by simp [Text.isBlank])
    ⟨by simp [Text.isBlank], by simp⟩⟩

end ShellPipeline
