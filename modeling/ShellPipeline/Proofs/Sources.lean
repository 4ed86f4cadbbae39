import ShellPipeline.Proofs.Arguments
import ShellPipeline.Session

/-!
# Lines as arguments and as input

The lines of a run are its arguments, or if there are none what its input holds. An input holds a
line in several ways, with or without carriage returns before its line feed, and may hold lines of
white space besides; for the run they are all the same.

* `InputLines.Holds`: the ways in which a text holds lines, and `InputLines.Proper`: the lines that
  are found in it again;
* `InputLines.ofBytes_of_holds`: which lines the bytes of such a text are read as;
* `Options.ofArguments_append`: the options of flags and of lines behind them;
* `run_eq_of_holds`: a run with lines as its arguments is one with the lines as its input.
-/

namespace ShellPipeline

/-! ## Bytes -/

/-- The bytes of a text in UTF-8. -/
def Text.utf8 (s : List Char) : List UInt8 := s.flatMap String.utf8EncodeChar

theorem Text.toList_data_toUTF8 (s : String) : s.toUTF8.data.toList = utf8 s.toList := by
  have hbytes : s.toUTF8 = s.toList.utf8Encode := by
    rw [← String.toByteArray_ofList, String.ofList_toList, String.toUTF8_eq_toByteArray]
  rw [hbytes]
  exact List.toList_data_toByteArray

theorem Text.utf8_append (s t : List Char) : utf8 (s ++ t) = utf8 s ++ utf8 t :=
  List.flatMap_append

namespace InputLines

open Text (utf8 isAllWhiteSpace)

theorem lineFeed_ne_ofNat {n : Nat} (hlow : 10 < n) (hhigh : n < 256) :
    lineFeed ≠ UInt8.ofNat n := by
  intro h
  have hnat := congrArg UInt8.toNat h
  rw [UInt8.toNat_ofNat_of_lt' hhigh] at hnat
  exact absurd hnat (Nat.ne_of_lt hlow)

/-- The bytes of longer encodings are all above those of ASCII. -/
theorem eq_of_lineFeed_mem {c : Char} (h : lineFeed ∈ String.utf8EncodeChar c) : c = '\n' := by
  simp only [String.utf8EncodeChar] at h
  split at h
  · next hascii =>
    have hnat := congrArg UInt8.toNat (List.mem_singleton.1 h)
    rw [UInt8.toNat_ofNat_of_lt' (Nat.lt_of_le_of_lt hascii (by decide))] at hnat
    exact Char.toNat_inj.1 hnat.symm
  · exfalso
    split at h
    · simp only [List.mem_cons, List.not_mem_nil, or_false] at h
      rcases h with h | h <;> exact lineFeed_ne_ofNat (by omega) (by omega) h
    · split at h
      · simp only [List.mem_cons, List.not_mem_nil, or_false] at h
        rcases h with h | h | h <;> exact lineFeed_ne_ofNat (by omega) (by omega) h
      · simp only [List.mem_cons, List.not_mem_nil, or_false] at h
        rcases h with h | h | h | h <;> exact lineFeed_ne_ofNat (by omega) (by omega) h

theorem lineFeed_not_mem_utf8 {s : List Char} (h : '\n' ∉ s) : lineFeed ∉ utf8 s := by
  intro hmem
  obtain ⟨c, hc, hbyte⟩ := List.mem_flatMap.1 hmem
  exact h (eq_of_lineFeed_mem hbyte ▸ hc)

theorem decode?_utf8 (s : List Char) : decode? (utf8 s) = some (dropEnd s) := by
  have hbytes : ByteArray.mk (utf8 s).toArray = (String.ofList s).toByteArray := by
    rw [String.toByteArray_ofList]
    exact ByteArray.ext List.data_toByteArray.symm
  have htext : String.fromUTF8? (String.ofList s).toByteArray = some (String.ofList s) :=
    dif_pos (String.ofList s).isValidUTF8
  rw [decode?, hbytes, htext, Option.map_some, String.toList_ofList]

/-! ## Cutting -/

theorem consByte_of_ne {b : UInt8} (h : b ≠ lineFeed) (line : List UInt8)
    (lines : List (List UInt8)) : consByte b (line :: lines) = (b :: line) :: lines :=
  if_neg h

theorem cut_append_lineFeed {w : List UInt8} (h : lineFeed ∉ w) (r : List UInt8) :
    cut (w ++ lineFeed :: r) = (w ++ [lineFeed]) :: cut r := by
  induction w with
  | nil => rfl
  | cons b w ih =>
    obtain ⟨hb, hw⟩ := not_or.1 (mt List.mem_cons.2 h)
    change consByte b (cut (w ++ lineFeed :: r)) = _
    rw [ih hw, consByte_of_ne (Ne.symm hb), List.cons_append]

theorem cut_of_not_mem {w : List UInt8} (h : lineFeed ∉ w) (hne : w ≠ []) : cut w = [w] := by
  induction w with
  | nil => exact absurd rfl hne
  | cons b w ih =>
    obtain ⟨hb, hw⟩ := not_or.1 (mt List.mem_cons.2 h)
    cases w with
    | nil => exact if_neg (Ne.symm hb)
    | cons d w =>
      change consByte b (cut (d :: w)) = _
      rw [ih hw (List.cons_ne_nil d w), consByte_of_ne (Ne.symm hb)]

/-- A line feed ends the first line. -/
theorem ofBytes_utf8_append {s : List Char} (h : '\n' ∉ s) (r : List UInt8) :
    ofBytes (utf8 s ++ lineFeed :: r) = consLine (dropEnd (s ++ ['\n'])) (ofBytes r) := by
  have hline : utf8 s ++ [lineFeed] = utf8 (s ++ ['\n']) := (Text.utf8_append s ['\n']).symm
  rw [ofBytes, cut_append_lineFeed (lineFeed_not_mem_utf8 h), hline, ofCut, decode?_utf8]
  rfl

theorem ofBytes_append_lineFeed {s : List Char} (h : '\n' ∉ s) (t : List Char) :
    ofBytes (utf8 (s ++ '\n' :: t)) = consLine (dropEnd (s ++ ['\n'])) (ofBytes (utf8 t)) := by
  rw [Text.utf8_append]
  exact ofBytes_utf8_append h (utf8 t)

/-- The last line needs none. -/
theorem ofBytes_of_not_mem {s : List Char} (h : '\n' ∉ s) :
    ofBytes (utf8 s) = consLine (dropEnd s) ⟨[], true⟩ := by
  cases s with
  | nil => rfl
  | cons c s =>
    have hne : utf8 (c :: s) ≠ [] := by
      rw [utf8, List.flatMap_cons]
      exact List.append_ne_nil_of_left_ne_nil String.utf8EncodeChar_ne_nil _
    rw [ofBytes, cut_of_not_mem (lineFeed_not_mem_utf8 h) hne, ofCut, decode?_utf8]
    rfl

/-! ## What ends a line -/

theorem dropReturn_eq_iff {s t : List Char} :
    dropReturn s = t ↔ s = '\r' :: t ∨ s = t ∧ t.head? ≠ some '\r' := by
  constructor
  · rintro rfl
    unfold dropReturn
    split
    · exact .inl rfl
    · next hne =>
      refine .inr ⟨rfl, fun hhead => ?_⟩
      obtain ⟨s', rfl⟩ := List.head?_eq_some_iff.1 hhead
      exact hne s' rfl
  · rintro (rfl | ⟨rfl, hhead⟩)
    · rfl
    · unfold dropReturn
      split
      · exact absurd rfl hhead
      · rfl

theorem dropReturn_subset (s : List Char) : dropReturn s ⊆ s := by
  unfold dropReturn
  split
  · exact List.subset_cons_self ..
  · exact List.Subset.refl _

theorem dropEnd_subset (s : List Char) : dropEnd s ⊆ s := by
  intro c hc
  unfold dropEnd at hc
  split at hc
  · next t ht =>
    have hmem := dropReturn_subset _ (dropReturn_subset _ (List.mem_reverse.1 hc))
    exact List.mem_reverse.1 (ht ▸ List.mem_cons_of_mem _ hmem)
  · exact List.mem_reverse.1 (dropReturn_subset _ (List.mem_reverse.1 hc))

theorem isAllWhiteSpace_dropEnd {s : List Char} (h : isAllWhiteSpace s = true) :
    isAllWhiteSpace (dropEnd s) = true :=
  List.all_eq_true.2 fun c hc => List.all_eq_true.1 h c (dropEnd_subset s hc)

/-- A line with carriage returns behind it that are no part of it. Only behind the greatest number
of them may the line itself end with one. -/
def Padded (most : Nat) (line s : List Char) : Prop :=
  ∃ n ≤ most, s = line ++ List.replicate n '\r' ∧ (n = most ∨ line.getLast? ≠ some '\r')

theorem padded_iff {most : Nat} {line s : List Char} :
    Padded most line s ↔ ∃ n ≤ most, s.reverse = List.replicate n '\r' ++ line.reverse ∧
      (n = most ∨ line.reverse.head? ≠ some '\r') := by
  simp only [Padded, List.head?_reverse, List.reverse_eq_iff, List.reverse_append,
    List.reverse_reverse, List.reverse_replicate]

/-- Up to two carriage returns are dropped before a line feed. -/
theorem dropEnd_append_lineFeed_iff {line s : List Char} :
    dropEnd (s ++ ['\n']) = line ↔ Padded 2 line s := by
  have hdrop : dropEnd (s ++ ['\n']) = (dropReturn (dropReturn s.reverse)).reverse := by
    rw [dropEnd, List.reverse_append]
    rfl
  rw [hdrop, padded_iff, List.reverse_eq_iff]
  constructor
  · intro h
    rcases dropReturn_eq_iff.1 h with hreturn | ⟨hline, hhead⟩
    · rcases dropReturn_eq_iff.1 hreturn with hs | ⟨-, hhead⟩
      · exact ⟨2, Nat.le_refl 2, hs, .inl rfl⟩
      · exact absurd rfl hhead
    · rcases dropReturn_eq_iff.1 hline with hs | ⟨hs, -⟩
      · exact ⟨1, by decide, hs, .inr hhead⟩
      · exact ⟨0, by decide, hs, .inr hhead⟩
  · rintro ⟨n, hn, hs, hend⟩
    rw [hs]
    obtain rfl | rfl | rfl : n = 0 ∨ n = 1 ∨ n = 2 := by omega
    · have hline := dropReturn_eq_iff.2 (.inr ⟨rfl, hend.resolve_left (by decide)⟩)
      exact (congrArg dropReturn hline).trans hline
    · exact dropReturn_eq_iff.2 (.inr ⟨rfl, hend.resolve_left (by decide)⟩)
    · rfl

/-- One is dropped where no line feed follows. -/
theorem dropEnd_eq_iff {line s : List Char} (h : '\n' ∉ s) :
    dropEnd s = line ↔ Padded 1 line s := by
  have hdrop : dropEnd s = (dropReturn s.reverse).reverse := by
    unfold dropEnd
    split
    · next ht => exact absurd (List.mem_reverse.1 (ht ▸ List.mem_cons_self)) h
    · rfl
  rw [hdrop, padded_iff, List.reverse_eq_iff, dropReturn_eq_iff]
  constructor
  · rintro (hs | ⟨hs, hhead⟩)
    · exact ⟨1, Nat.le_refl 1, hs, .inl rfl⟩
    · exact ⟨0, by decide, hs, .inr hhead⟩
  · rintro ⟨n, hn, hs, hend⟩
    obtain rfl | rfl : n = 0 ∨ n = 1 := by omega
    · exact .inr ⟨hs, hend.resolve_left (by decide)⟩
    · exact .inl hs

/-- A line that is found again: it does not end before its end, is not passed over, and its end is
not taken for a part of what ends it. -/
structure Proper (line : String) : Prop where
  lineFeed_not_mem : '\n' ∉ line.toList
  not_white : isAllWhiteSpace line.toList = false
  not_return : line.toList.getLast? ≠ some '\r'

theorem Proper.padded {line : String} (h : Proper line) {most n : Nat} (hn : n ≤ most) :
    Padded most line.toList (line.toList ++ List.replicate n '\r') :=
  ⟨n, hn, rfl, .inr h.not_return⟩

theorem Proper.lineFeed_not_mem_append {line : String} (h : Proper line) (n : Nat) :
    '\n' ∉ line.toList ++ List.replicate n '\r' := by
  rw [List.mem_append, not_or]
  exact ⟨h.lineFeed_not_mem, fun hmem => absurd (List.eq_of_mem_replicate hmem) (by decide)⟩

/-! ## Texts that hold lines -/

/-- A text holds lines, one behind the other, with lines of white space anywhere. -/
inductive Holds : List String → List Char → Prop
  /-- White space at the end. -/
  | white {s : List Char} : '\n' ∉ s → isAllWhiteSpace s = true → Holds [] s
  /-- A line of white space. -/
  | whiteLine {lines : List String} {t : List Char} (s : List Char) : '\n' ∉ s →
    isAllWhiteSpace s = true → Holds lines t → Holds lines (s ++ '\n' :: t)
  /-- A line that ends with a line feed, with up to two carriage returns before it. -/
  | line {lines : List String} {t : List Char} (line : String) {n : Nat} : n ≤ 2 →
    Holds lines t → Holds (line :: lines) (line.toList ++ List.replicate n '\r' ++ '\n' :: t)
  /-- A last line without a line feed, with at most one carriage return. -/
  | last (line : String) {n : Nat} : n ≤ 1 →
    Holds [line] (line.toList ++ List.replicate n '\r')

theorem consLine_white {s : List Char} (h : isAllWhiteSpace s = true) (rest : InputLines) :
    consLine s rest = rest :=
  if_pos h

theorem Proper.consLine_toList {line : String} (h : Proper line) (lines : List String) :
    consLine line.toList ⟨lines, true⟩ = ⟨line :: lines, true⟩ := by
  rw [consLine, h.not_white, String.ofList_toList]
  rfl

/-- The lines that a text holds are those that its bytes are read as. -/
theorem ofBytes_of_holds {lines : List String} {s : List Char} (h : Holds lines s)
    (hlines : ∀ line ∈ lines, Proper line) : ofBytes (utf8 s) = ⟨lines, true⟩ := by
  induction h with
  | white hfeed hwhite =>
    rw [ofBytes_of_not_mem hfeed, consLine_white (isAllWhiteSpace_dropEnd hwhite)]
  | whiteLine s hfeed hwhite _ ih =>
    have hline : isAllWhiteSpace (s ++ ['\n']) = true := by
      rw [isAllWhiteSpace, List.all_append, Bool.and_eq_true]
      exact ⟨hwhite, rfl⟩
    rw [ofBytes_append_lineFeed hfeed, consLine_white (isAllWhiteSpace_dropEnd hline), ih hlines]
  | line line hn _ ih =>
    obtain ⟨hline, hlines⟩ := List.forall_mem_cons.1 hlines
    rw [ofBytes_append_lineFeed (hline.lineFeed_not_mem_append _),
      dropEnd_append_lineFeed_iff.2 (hline.padded hn), ih hlines, hline.consLine_toList]
  | @last line n hn =>
    have hline := hlines line List.mem_cons_self
    have hfeed := hline.lineFeed_not_mem_append n
    rw [ofBytes_of_not_mem hfeed, (dropEnd_eq_iff hfeed).2 (hline.padded hn),
      hline.consLine_toList]

end InputLines

/-! ## Flags -/

namespace Options

/-- A word that is an option, known or not, where it stands before the lines. -/
def IsFlag (word : String) : Prop := word = "-h" ∨ isDashed word = true ∧ word ≠ "--"

theorem IsFlag.mem_flags {word : String} (h : IsFlag word) (hknown : isUnknown word = false) :
    word ∈ flags := by
  rcases h with rfl | ⟨hdashed, -⟩
  · decide
  · simpa [isUnknown, hdashed] using hknown

/-- Flags that nothing but lines follows say all but the lines. -/
theorem ofArguments_of_isFlag {words back : List String} (h : ∀ word ∈ words, IsFlag word)
    (hback : leading back = []) : ofArguments (words ++ back) =
      (ofArguments words).map fun o => { o with lines := trailing back } := by
  have hdashes : "--" ∉ words := by
    intro hmem
    rcases h "--" hmem with hhelp | ⟨-, hne⟩
    · exact absurd hhelp (by decide)
    · exact hne rfl
  have hleading : leading words = words := by simpa [leading] using leading_append hdashes []
  rw [ofArguments_eq, ofArguments_eq, leading_append hdashes, trailing_append hdashes, hback,
    List.append_nil, hleading]
  cases hfind : words.find? isUnknown with
  | some word => rfl
  | none =>
    -- all the words are flags, so that none of them is a line
    have hflags : ∀ word ∈ words, word ∈ flags := fun word hword =>
      (h word hword).mem_flags (Bool.eq_false_iff.2 (List.find?_eq_none.1 hfind word hword))
    simpa [meaning, Except.map] using hflags

/-- Words behind two dashes are lines, whatever flags stand before. -/
theorem ofArguments_append {flags : List String} (h : ∀ word ∈ flags, IsFlag word)
    (lines : List String) : ofArguments (flags ++ "--" :: lines) =
      (ofArguments flags).map fun o => { o with lines := lines } :=
  ofArguments_of_isFlag h rfl

theorem ofArguments_flags {flags : List String} (h : ∀ word ∈ flags, IsFlag word) :
    ofArguments flags = (ofArguments flags).map fun o => { o with lines := [] } := by
  simpa [trailing] using @ofArguments_of_isFlag _ [] h rfl

end Options

/-! ## Runs -/

/-- The lines of its options are to a run what it reads from its input where there are none. -/
theorem run_congr {i j : Invocation} {flags : Except OptionError Options} {lines : List String}
    (hi : Options.ofArguments i.arguments = flags.map fun o => { o with lines := lines })
    (hj : Options.ofArguments j.arguments = flags.map fun o => { o with lines := [] })
    (hne : lines ≠ []) (hinput : InputLines.ofBytes j.input = ⟨lines, true⟩)
    (henvironment : i.environment = j.environment) (hfiles : i.files = j.files)
    (sinks : Log.Sinks) (reason : String) : run sinks reason i = run sinks reason j := by
  have hhome : i.home? = j.home? := by
    rw [Invocation.home?, Invocation.home?, henvironment, hfiles]
  have hsettings : i.settings reason = j.settings reason := by
    rw [Invocation.settings, Invocation.settings, henvironment, hfiles, hhome]
  have hshow : i.showLines sinks = j.showLines sinks := by
    funext s l
    rw [Invocation.showLines, Invocation.showLines, henvironment, hfiles, hhome]
  rw [run, run, hi, hj, hfiles, hsettings, hshow]
  cases flags with
  | error e => rfl
  | ok o =>
    have hlines : linesOf { o with lines := lines } i.input =
        linesOf { o with lines := [] } j.input := by
      rw [linesOf, List.isEmpty_eq_false_iff.2 hne]
      exact hinput.symm
    simp only [Except.map, hlines]
    rfl

/-- A run with lines as its arguments is one with an input that holds them, of which it reads
neither more nor less. -/
theorem run_eq_of_holds {flags lines : List String} {input : String} {i j : Invocation}
    (hflags : ∀ word ∈ flags, Options.IsFlag word) (hne : lines ≠ [])
    (hlines : ∀ line ∈ lines, InputLines.Proper line)
    (hholds : InputLines.Holds lines input.toList)
    (hi : i.arguments = flags ++ "--" :: lines)
    (hj : j.arguments = flags ∨ j.arguments = flags ++ ["--"])
    (hinput : j.input = input.toUTF8.data.toList) (henvironment : i.environment = j.environment)
    (hfiles : i.files = j.files) (sinks : Log.Sinks) (reason : String) :
    run sinks reason i = run sinks reason j ∧
      ∀ o, Options.ofArguments j.arguments = .ok o → linesOf o j.input = ⟨lines, true⟩ := by
  have hread : InputLines.ofBytes j.input = ⟨lines, true⟩ := by
    rw [hinput, Text.toList_data_toUTF8]
    exact InputLines.ofBytes_of_holds hholds hlines
  have hlast : Options.ofArguments j.arguments =
      (Options.ofArguments flags).map fun o => { o with lines := [] } := by
    rcases hj with hj | hj
    · rw [hj]
      exact Options.ofArguments_flags hflags
    · rw [hj]
      exact Options.ofArguments_append hflags []
  have hfirst := Options.ofArguments_append hflags lines
  rw [← hi] at hfirst
  refine ⟨run_congr hfirst hlast hne hread henvironment hfiles sinks reason, fun o ho => ?_⟩
  rw [hlast] at ho
  cases hflag : Options.ofArguments flags with
  | error e =>
    rw [hflag] at ho
    cases ho
  | ok p =>
    rw [hflag] at ho
    cases ho
    exact hread

/-- White space around the lines, carriage returns, and no line feed at the end. -/
theorem run_eq_of_holds_returns :
    let lines := ["echo \"ä\"", "a | b"]
    let input := " \r\necho \"ä\"\r\r\n\u2003\na | b\r".toUTF8.data.toList
    run "" "" ⟨"--json" :: "--" :: lines, [], [], FileTree.mk []⟩ =
        run "" "" ⟨["--json"], [], input, FileTree.mk []⟩ ∧
      linesOf ⟨some .json, false, false, false, []⟩ input = ⟨lines, true⟩ := by
  intro lines input
  have hholds : InputLines.Holds lines " \r\necho \"ä\"\r\r\n\u2003\na | b\r".toList :=
    .whiteLine [' ', '\r'] (by decide) (by decide) <|
      .line "echo \"ä\"" (n := 2) (by decide) <|
        .whiteLine ['\u2003'] (by decide) (by decide) <| .last "a | b" (n := 1) (by decide)
  have hlines : ∀ line ∈ lines, InputLines.Proper line := by
    simp only [lines, List.forall_mem_cons, List.not_mem_nil, false_implies, implies_true,
      and_true]
    exact ⟨⟨by decide, by decide, by decide⟩, by decide, by decide, by decide⟩
  have hflags : ∀ word ∈ ["--json"], Options.IsFlag word := by
    simp only [List.forall_mem_cons, List.not_mem_nil, false_implies, implies_true, and_true]
    exact .inr ⟨by decide, by decide⟩
  have hrun := run_eq_of_holds (i := ⟨"--json" :: "--" :: lines, [], [], FileTree.mk []⟩)
    (j := ⟨["--json"], [], input, FileTree.mk []⟩) hflags (List.cons_ne_nil _ _) hlines hholds rfl
    (.inl rfl) rfl rfl rfl "" ""
  exact ⟨hrun.1, hrun.2 _ rfl⟩

end ShellPipeline
