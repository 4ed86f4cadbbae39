import ShellPipeline.Proofs.Sources

/-!
# What an input holds

Any bytes at all are an input. They hold lines up to the first one that is not UTF-8; those of white
space are passed over.

* `InputLines.ReadsInput`: the lines that bytes hold;
* `InputLines.readsInput_iff`: those are the lines that the bytes are read as;
* `InputLines.ReadsInput.append`: bytes behind the end of a line.
-/

namespace ShellPipeline

namespace InputLines

open Text (utf8 isAllWhiteSpace)

/-- The lines that bytes hold, up to the first one that is not UTF-8. -/
inductive ReadsInput : List UInt8 → InputLines → Prop
  /-- White space at the end. -/
  | white {s : List Char} : '\n' ∉ s → isAllWhiteSpace s = true → ReadsInput (utf8 s) ⟨[], true⟩
  /-- A line of white space. -/
  | whiteLine {s : List Char} {r : List UInt8} {rest : InputLines} : '\n' ∉ s →
    isAllWhiteSpace s = true → ReadsInput r rest → ReadsInput (utf8 s ++ lineFeed :: r) rest
  /-- A line with a line feed, with up to two carriage returns before it. -/
  | line {line s : List Char} {r : List UInt8} {rest : InputLines} : '\n' ∉ s →
    isAllWhiteSpace s = false → Padded 2 line s → ReadsInput r rest →
    ReadsInput (utf8 s ++ lineFeed :: r) ⟨String.ofList line :: rest.lines, rest.decoded⟩
  /-- A last line without a line feed, with at most one carriage return. -/
  | last {line s : List Char} : '\n' ∉ s → isAllWhiteSpace s = false → Padded 1 line s →
    ReadsInput (utf8 s) ⟨[String.ofList line], true⟩
  /-- A line that is not UTF-8, whatever comes behind it. -/
  | undecodable {w r : List UInt8} : lineFeed ∉ w → (∀ s, w ≠ utf8 s) →
    r = [] ∨ r.head? = some lineFeed → ReadsInput (w ++ r) ⟨[], false⟩

/-! ## Lines that are UTF-8 -/

theorem decode?_eq_none_iff {w : List UInt8} : decode? w = none ↔ ∀ s, w ≠ utf8 s := by
  constructor
  · rintro h s rfl
    rw [decode?_utf8] at h
    cases h
  · intro h
    have hinvalid : ¬(ByteArray.mk w.toArray).IsValidUTF8 := by
      rintro ⟨s, hs⟩
      refine h s ?_
      rw [utf8, ← List.toList_data_toByteArray (l := s.flatMap String.utf8EncodeChar)]
      exact congrArg (·.data.toList) hs
    exact Option.map_eq_none_iff.2 (dif_neg hinvalid)

theorem lineFeed_mem_utf8 {s : List Char} (h : '\n' ∈ s) : lineFeed ∈ utf8 s :=
  List.mem_flatMap.2 ⟨'\n', h, List.mem_singleton.2 rfl⟩

/-- A line feed is no part of a longer encoding, so what stands before it is whole. -/
theorem exists_utf8_of_append_lineFeed {w : List UInt8} {t : List Char}
    (h : w ++ [lineFeed] = utf8 t) : ∃ s, w = utf8 s := by
  rcases List.eq_nil_or_concat t with rfl | ⟨s, c, rfl⟩
  · exact absurd h (List.append_ne_nil_of_right_ne_nil w (List.cons_ne_nil _ _))
  · rw [List.concat_eq_append, Text.utf8_append] at h
    have hc : utf8 [c] = String.utf8EncodeChar c := List.append_nil _
    -- The last byte is one of the last character.
    have hmem : lineFeed ∈ String.utf8EncodeChar c := by
      have hlast := congrArg List.getLast? h
      rw [List.getLast?_concat, List.getLast?_append, hc] at hlast
      cases hend : (String.utf8EncodeChar c).getLast? with
      | none => exact absurd (List.getLast?_eq_none_iff.1 hend) String.utf8EncodeChar_ne_nil
      | some b =>
        rw [hend] at hlast
        exact List.mem_of_getLast? (hend.trans hlast.symm)
    obtain rfl := eq_of_lineFeed_mem hmem
    exact ⟨s, (List.append_inj' h rfl).1⟩

theorem ofBytes_of_undecodable {w r : List UInt8} (hfeed : lineFeed ∉ w)
    (hutf8 : ∀ s, w ≠ utf8 s) (hr : r = [] ∨ r.head? = some lineFeed) :
    ofBytes (w ++ r) = ⟨[], false⟩ := by
  rcases hr with rfl | hr
  · have hne : w ≠ [] := hutf8 []
    rw [List.append_nil, ofBytes, cut_of_not_mem hfeed hne, ofCut, decode?_eq_none_iff.2 hutf8]
  · obtain ⟨r', rfl⟩ := List.head?_eq_some_iff.1 hr
    have hline : decode? (w ++ [lineFeed]) = none := by
      refine decode?_eq_none_iff.2 fun t ht => ?_
      obtain ⟨s, hs⟩ := exists_utf8_of_append_lineFeed ht
      exact hutf8 s hs
    rw [ofBytes, cut_append_lineFeed hfeed, ofCut, hline]

/-! ## Reading -/

theorem Padded.isAllWhiteSpace_eq {most : Nat} {line s : List Char} (h : Padded most line s) :
    isAllWhiteSpace s = isAllWhiteSpace line := by
  obtain ⟨n, -, rfl, -⟩ := h
  have hreturns : isAllWhiteSpace (List.replicate n '\r') = true :=
    List.all_eq_true.2 fun c hc => List.eq_of_mem_replicate hc ▸ rfl
  rw [isAllWhiteSpace, List.all_append]
  exact (congrArg _ hreturns).trans (Bool.and_true _)

theorem Padded.consLine {most : Nat} {line s : List Char} (h : Padded most line s)
    (hwhite : isAllWhiteSpace s = false) (rest : InputLines) :
    consLine line rest = ⟨String.ofList line :: rest.lines, rest.decoded⟩ := by
  rw [h.isAllWhiteSpace_eq] at hwhite
  rw [InputLines.consLine, hwhite]
  rfl

theorem ofBytes_of_readsInput {bytes : List UInt8} {lines : InputLines}
    (h : ReadsInput bytes lines) : ofBytes bytes = lines := by
  induction h with
  | white hfeed hwhite =>
    rw [ofBytes_of_not_mem hfeed, consLine_white (isAllWhiteSpace_dropEnd hwhite)]
  | @whiteLine s _ _ hfeed hwhite _ ih =>
    have hline : isAllWhiteSpace (s ++ ['\n']) = true := by
      rw [isAllWhiteSpace, List.all_append, Bool.and_eq_true]
      exact ⟨hwhite, rfl⟩
    rw [ofBytes_utf8_append hfeed, consLine_white (isAllWhiteSpace_dropEnd hline), ih]
  | line hfeed hwhite hline _ ih =>
    rw [ofBytes_utf8_append hfeed, dropEnd_append_lineFeed_iff.2 hline, ih,
      hline.consLine hwhite]
  | last hfeed hwhite hline =>
    rw [ofBytes_of_not_mem hfeed, (dropEnd_eq_iff hfeed).2 hline, hline.consLine hwhite]
  | undecodable hfeed hutf8 hr => exact ofBytes_of_undecodable hfeed hutf8 hr

/-- All bytes hold lines. The induction is on their number, and goes behind the first line feed. -/
theorem exists_readsInput (bytes : List UInt8) : ∃ lines, ReadsInput bytes lines := by
  by_cases hfeed : lineFeed ∈ bytes
  · obtain ⟨w, r, hbytes, hw⟩ := List.eq_append_cons_of_mem hfeed
    have hlength : r.length < bytes.length := by
      rw [hbytes, List.length_append, List.length_cons]
      omega
    obtain ⟨rest, hrest⟩ := exists_readsInput r
    by_cases hutf8 : ∃ s, w = utf8 s
    · obtain ⟨s, rfl⟩ := hutf8
      have hs := mt lineFeed_mem_utf8 hw
      rw [hbytes]
      cases hwhite : isAllWhiteSpace s with
      | true => exact ⟨rest, .whiteLine hs hwhite hrest⟩
      | false => exact ⟨_, .line hs hwhite (dropEnd_append_lineFeed_iff.1 rfl) hrest⟩
    · rw [hbytes]
      exact ⟨_, .undecodable hw (not_exists.1 hutf8) (.inr rfl)⟩
  · by_cases hutf8 : ∃ s, bytes = utf8 s
    · obtain ⟨s, rfl⟩ := hutf8
      have hs := mt lineFeed_mem_utf8 hfeed
      cases hwhite : isAllWhiteSpace s with
      | true => exact ⟨_, .white hs hwhite⟩
      | false => exact ⟨_, .last hs hwhite ((dropEnd_eq_iff hs).1 rfl)⟩
    · have hread := ReadsInput.undecodable hfeed (not_exists.1 hutf8) (.inl rfl)
      rw [List.append_nil] at hread
      exact ⟨_, hread⟩
termination_by bytes.length

/-- Bytes hold the lines that they are read as, and no others. -/
theorem readsInput_iff {bytes : List UInt8} {lines : InputLines} :
    ReadsInput bytes lines ↔ ofBytes bytes = lines := by
  refine ⟨ofBytes_of_readsInput, ?_⟩
  rintro rfl
  obtain ⟨lines, h⟩ := exists_readsInput bytes
  rwa [ofBytes_of_readsInput h]

/-! ## One input behind another -/

/-- Lines and those that follow; none follow one that is not UTF-8. -/
def append (a b : InputLines) : InputLines :=
  if a.decoded then ⟨a.lines ++ b.lines, b.decoded⟩ else a

theorem append_cons (line : String) (a b : InputLines) :
    append ⟨line :: a.lines, a.decoded⟩ b =
      ⟨line :: (a.append b).lines, (a.append b).decoded⟩ := by
  cases h : a.decoded <;> simp [append, h]

/-- Where bytes are cut so that the first part ends a line. -/
def EndsLine (bytes : List UInt8) : Prop := bytes = [] ∨ bytes.getLast? = some lineFeed

theorem EndsLine.eq_nil {bytes : List UInt8} (h : EndsLine bytes) (hfeed : lineFeed ∉ bytes) :
    bytes = [] :=
  h.resolve_right fun hlast => hfeed (List.mem_of_getLast? hlast)

theorem EndsLine.tail {w r : List UInt8} (h : EndsLine (w ++ lineFeed :: r)) : EndsLine r := by
  cases r with
  | nil => exact .inl rfl
  | cons b r =>
    refine .inr ?_
    have hlast := h.resolve_left (List.append_ne_nil_of_right_ne_nil w (List.cons_ne_nil _ _))
    rw [List.getLast?_append, List.getLast?_cons_cons] at hlast
    rw [List.getLast?_cons] at hlast ⊢
    exact hlast

/-- Bytes behind the end of a line are read for themselves, or not at all. -/
theorem ReadsInput.append {a b : List UInt8} {as bs : InputLines} (ha : ReadsInput a as)
    (hb : ReadsInput b bs) (hend : EndsLine a) : ReadsInput (a ++ b) (as.append bs) := by
  induction ha with
  | white hfeed =>
    rw [hend.eq_nil (lineFeed_not_mem_utf8 hfeed)]
    exact hb
  | whiteLine hfeed hwhite _ ih =>
    rw [List.append_assoc, List.cons_append]
    exact .whiteLine hfeed hwhite (ih hend.tail)
  | line hfeed hwhite hline _ ih =>
    rw [List.append_assoc, List.cons_append, append_cons]
    exact .line hfeed hwhite hline (ih hend.tail)
  | @last _ s hfeed hwhite =>
    have hnil := hend.eq_nil (lineFeed_not_mem_utf8 hfeed)
    cases s with
    | nil => cases hwhite
    | cons c s =>
      exact absurd (List.append_eq_nil_iff.1 hnil).1 String.utf8EncodeChar_ne_nil
  | @undecodable w r hfeed hutf8 hr =>
    rcases hr with rfl | hr
    · rw [List.append_nil] at hend
      exact absurd (hend.eq_nil hfeed) (hutf8 [])
    · obtain ⟨r', rfl⟩ := List.head?_eq_some_iff.1 hr
      rw [List.append_assoc]
      exact .undecodable hfeed hutf8 (.inr rfl)

end InputLines

end ShellPipeline
