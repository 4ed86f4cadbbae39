import ShellPipeline.Proofs.FirstFailure

/-!
# The caret of a diagnostic

The offset of an error counts the bytes before its place, and the caret stands below the place if
the offset does not lie inside a character. The offset of an error of a line never does, for it is
the length of what was read. So the caret stands below the first character of what is refused, or
behind the last one if it is the end of the line that is refused.

* `Diagnostic.splitOn_pointer`: a pointer has two lines;
* `Reading.Fault.found`: what is found at a place is what stands there;
* `ParseError.PointsAt`: what the pointer of an error shows.
-/

namespace ShellPipeline

/-- The pointer of an error shows the line, and a caret behind the part `before`. -/
structure ParseError.PointsAt (e : ParseError) (line : String) (before : List Char) : Prop where
  /-- The place lies between two characters of the line. -/
  slice : Text.takeBytes? line.toList e.offset = some before
  lines : (e.pointer line).toList.splitOn '\n' = ["  | ".toList ++ line.toList,
    "  | ".toList ++ (List.replicate before.length ' ' ++ ['^'])]
  /-- The caret stands behind the line exactly if its end is refused. -/
  end_iff : e.diagnostic.found = "end of input" ↔ before.length = line.toList.length
  /-- Otherwise it stands below the first character of what is refused. -/
  found : e.diagnostic.found ≠ "end of input" → ∃ c text,
    e.diagnostic.found = "`" ++ String.ofList (c :: text) ++ "`" ∧
      line.toList[before.length]? = some c ∧ text <+: line.toList.drop (before.length + 1)

theorem Diagnostic.splitOn_pointer (d : Diagnostic) {line : String} (h : '\n' ∉ line.toList) :
    (d.pointer line).toList.splitOn '\n' = ["  | ".toList ++ line.toList,
      "  | ".toList ++ (List.replicate (d.column line) ' ' ++ ['^'])] := by
  have hfirst : '\n' ∉ "  | ".toList ++ line.toList := by simpa using h
  have hsecond : '\n' ∉ "  | ".toList ++ (List.replicate (d.column line) ' ' ++ ['^']) := by simp
  have hpointer : (d.pointer line).toList = "  | ".toList ++ line.toList ++ '\n' ::
      ("  | ".toList ++ (List.replicate (d.column line) ' ' ++ ['^'])) := by
    simp [Diagnostic.pointer]
  rw [hpointer, List.splitOn_append_cons_self_of_not_mem hfirst, List.splitOn_eq_singleton hsecond]

theorem Diagnostic.quoted_ne_end (w : String) : "`" ++ w ++ "`" ≠ "end of input" := by
  intro h
  have hlist := congrArg String.toList h
  simp at hlist

theorem ParseError.offset_diagnostic (e : ParseError) : e.diagnostic.offset = e.offset := by
  obtain ⟨n, cause⟩ := e
  cases cause <;> rfl

namespace Reading

/-- At the end of a text its end is found, elsewhere what the text begins with. -/
theorem Fault.found {phase : Phase} {s : List Char} {e : ParseError}
    (h : Fault phase s e.cause) :
    (e.diagnostic.found = "end of input" ∧ s = []) ∨
      ∃ c text r, e.diagnostic.found = "`" ++ String.ofList (c :: text) ++ "`" ∧
        s = c :: (text ++ r) := by
  obtain ⟨n, cause⟩ := e
  dsimp only at h
  cases h with
  | @unreadable _ s => exact .inr ⟨'"', [], s, rfl, rfl⟩
  | @unexpected _ _ r t x hscan =>
    have hs := Token.scan_append hscan
    by_cases ht : t = .endOfLine
    · subst ht
      rcases Token.scan_eq_ok hscan with ⟨rfl, -, -⟩ | ⟨op, -, hop⟩ | ⟨-, k, -, w, -, -, hword⟩
      · exact .inl ⟨rfl, rfl⟩
      · cases hop
      · cases hword
    · obtain ⟨c, text, htext⟩ := List.exists_cons_of_ne_nil (Token.text_ne_nil_of_scan hscan ht)
      refine .inr ⟨c, text, r, ?_, by rw [hs, htext, List.cons_append]⟩
      rw [← htext, String.ofList_toList]
      cases t with
      | endOfLine => exact absurd rfl ht
      | operator | word => rfl

theorem Halts.pointsAt {line : String} {e : ParseError} {st : State} {p b s : List Char}
    (h : Halts line e st p b s) (hline : '\n' ∉ line.toList) : e.PointsAt line (p ++ b) := by
  have htoList : line.toList = p ++ b ++ s := by rw [h.toList_eq, List.append_assoc]
  have hslice := h.slice
  rw [← e.offset_diagnostic] at hslice
  have hlines := e.diagnostic.splitOn_pointer hline
  rw [Diagnostic.column_of_takeBytes? hslice] at hlines
  have hfound := h.fault.found
  exact {
    slice := h.slice
    lines := hlines
    end_iff := by
      have hlength : (p ++ b).length = line.toList.length ↔ s = [] := by simp [htoList]
      rw [hlength]
      rcases hfound with ⟨hend, hs⟩ | ⟨c, text, r, hquoted, rfl⟩
      · exact ⟨fun _ => hs, fun _ => hend⟩
      · refine ⟨fun hend => ?_, fun hs => nomatch hs⟩
        exact absurd (hquoted.symm.trans hend) (Diagnostic.quoted_ne_end _)
    found := fun hne => by
      obtain ⟨hend, -⟩ | ⟨c, text, r, hquoted, rfl⟩ := hfound
      · exact absurd hend hne
      · refine ⟨c, text, hquoted, ?_, ?_⟩
        · rw [htoList]
          simp
        · rw [htoList, ← List.drop_drop, List.drop_left]
          exact List.prefix_append text r }

end Reading

/-- The caret of an error of a line stands below what is refused. -/
theorem Pipeline.pointsAt_of_parse {line : String} {e : ParseError} (hline : '\n' ∉ line.toList)
    (h : Pipeline.parse line = .error e) : ∃ before, e.PointsAt line before := by
  obtain ⟨st, p, b, s, hhalts⟩ := Reading.exists_halts h
  exact ⟨p ++ b, hhalts.pointsAt hline⟩

/-- Six characters before the place take twelve bytes. -/
theorem Pipeline.pointsAt_of_parse_bytes :
    let line := "é 😀>日 ü"
    let e : ParseError := ⟨12, .unexpected (.word .argument "ü") .redirection⟩
    '\n' ∉ line.toList ∧ Pipeline.parse line = .error e ∧ ∃ before, e.PointsAt line before := by
  intro line e
  have hline : '\n' ∉ line.toList := by decide
  have h : Pipeline.parse line = .error e := by decide +kernel
  exact ⟨hline, h, Pipeline.pointsAt_of_parse hline h⟩

end ShellPipeline
