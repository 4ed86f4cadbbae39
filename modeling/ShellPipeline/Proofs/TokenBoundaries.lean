import ShellPipeline.Proofs.Tokens

/-!
# Tokens before a blank

What follows a token decides where the token ends: an escape looks one character ahead, an operator
up to two, and a quoted run as far as the next quote. A token that is cut off from what followed it,
with a blank or nothing behind it instead, is read again as it was.

The one exception is a word that is read where none may come. It is an argument if it can be one, so
a word with an open quote, which was read as a filespec, becomes an argument if a quote follows.

* `WordClass.argument_unit?_append_eq_none_iff`: whether an open quote stays open;
* `Token.scan_text_append_iff`: which tokens are read again before a blank.
-/

namespace ShellPipeline

/-- The word begins with a quote and has no other. -/
def WordClass.OpensQuote (w : List Char) : Prop := ∃ v, w = '"' :: v ∧ '"' ∉ v

/-- The token is a filespec in place of an argument, as its quote is open. -/
def Token.OpensQuote (m : Mode) (t : Token) : Prop :=
  (m = .keyword ∨ m = .operator) ∧ ∃ w, t = .word .filespec w ∧ WordClass.OpensQuote w.toList

/-! ## Open quotes -/

/-- An open quote begins a quoted run if another quote follows. -/
theorem WordClass.argument_unit?_append_eq_none_iff {w r s : List Char}
    (hw : IsWord .filespec w) (h : unit? .argument (w ++ r) = none)
    (hs : ∀ c ∈ s.head?, Text.isBlank c = true) :
    unit? .argument (w ++ s) = none ↔ ¬ (OpensQuote w ∧ '"' ∈ s) := by
  obtain ⟨c, v, rfl⟩ := List.exists_cons_of_ne_nil hw.ne_nil
  obtain ⟨hblank, hangle, -⟩ := hw.head
  rw [List.cons_append, argument_unit?_eq_none_iff, hblank, hangle] at h ⊢
  simp only [Bool.false_eq_true, or_false] at h ⊢
  obtain ⟨rfl, hquote⟩ := h
  have hopens : OpensQuote ('"' :: v) ↔ '"' ∉ v := by simp [OpensQuote]
  rw [hopens]
  cases v with
  | nil =>
    have hhead : s.head? ≠ some '"' := fun hq => absurd (hs _ hq) (by decide)
    simp [hhead]
  | cons d v =>
    simp only [List.cons_append, List.head?_cons, Option.some.injEq, List.mem_cons,
      List.mem_append] at hquote ⊢
    grind

/-! ## Another text behind a token -/

namespace Token

variable {m : Mode} {r s : List Char}

theorem argument_mem_before_iff {k : WordClass} (hk : k ∈ m.classes) :
    .argument ∈ m.before k ↔ (m = .keyword ∨ m = .operator) ∧ k = .filespec := by
  revert hk
  cases m <;> cases k <;> decide

/-- Of the classes that are tried before, only that of arguments looks at what follows a word. -/
theorem unit?_append_eq_none {k : WordClass} {w : List Char} (hw : w ≠ [])
    (h : k.unit? (w ++ r) = none) (hk : k ≠ .argument) : k.unit? (w ++ s) = none :=
  WordClass.unit?_eq_none_of_followsLike h (fun heq => absurd heq hk) (.append hw)

/-- A word is found again unless it can be an argument now. -/
theorem scan_append_eq_word_iff {k : WordClass} {w : String}
    (h : scan m (w.toList ++ r) = .ok (.word k w, r)) (hs : ∀ c ∈ s.head?, Text.isBlank c = true) :
    scan m (w.toList ++ s) = .ok (.word k w, s) ↔
      (.argument ∈ m.before k → WordClass.unit? .argument (w.toList ++ s) = none) := by
  obtain ⟨hop, ⟨hk, hbefore⟩, hsplit, hne⟩ := scan_eq_word_iff.1 h
  have hop' := Operator.split?_eq_none_of_followsLike hop hne (.of_blank hs)
  have hsplit' := (WordClass.isWord_of_split hsplit hne).split_append (.of_blank hs)
  rw [scan_eq_word_iff]
  constructor
  · exact fun ⟨_, ⟨_, hbefore'⟩, _⟩ hargument => hbefore' _ hargument
  · refine fun hargument => ⟨hop', ⟨hk, fun k' hk' => ?_⟩, hsplit', hne⟩
    by_cases heq : k' = .argument
    · subst heq
      exact hargument hk'
    · exact unit?_append_eq_none hne (hbefore k' hk') heq

theorem scan_word_append_iff {k : WordClass} {w : String}
    (h : scan m (w.toList ++ r) = .ok (.word k w, r)) (hs : ∀ c ∈ s.head?, Text.isBlank c = true) :
    scan m (w.toList ++ s) = .ok (.word k w, s) ↔ ¬ (OpensQuote m (.word k w) ∧ '"' ∈ s) := by
  obtain ⟨-, ⟨hk, hbefore⟩, hsplit, hne⟩ := scan_eq_word_iff.1 h
  rw [scan_append_eq_word_iff h hs]
  by_cases hargument : .argument ∈ m.before k
  · obtain ⟨hm, rfl⟩ := (argument_mem_before_iff hk).1 hargument
    have hunit := WordClass.argument_unit?_append_eq_none_iff
      (WordClass.isWord_of_split hsplit hne) (hbefore _ hargument) hs
    simp [OpensQuote, hargument, hunit, hm]
  · have hkind : ¬ ((m = .keyword ∨ m = .operator) ∧ k = .filespec) :=
      mt (argument_mem_before_iff hk).2 hargument
    simp only [hargument, false_implies, true_iff]
    rintro ⟨⟨hm, v, hv, -⟩, -⟩
    cases hv
    exact hkind ⟨hm, rfl⟩

/-- A token is read again where a blank or nothing follows it instead, unless its quote was open
and is closed now. -/
theorem scan_text_append_iff {rest : List Char} {t : Token} (h : scan m rest = .ok (t, r))
    (ht : 0 < Text.byteLength t.text.toList) :
    Text.takeBytes? rest (Text.byteLength t.text.toList) = some t.text.toList ∧
    ∀ s, (∀ c ∈ s.head?, Text.isBlank c = true) →
      (scan m (t.text.toList ++ s) = .ok (t, s) ↔ ¬ (t.OpensQuote m ∧ '"' ∈ s)) := by
  obtain rfl := scan_append h
  refine ⟨Text.takeBytes?_append _ _, fun s hs => ?_⟩
  cases t with
  | endOfLine => exact absurd ht (by decide)
  | operator op =>
    have hop := op.split?_append_of_not_angle fun c hc => Text.not_isAngle_of_isBlank (hs c hc)
    simp [text, scan_of_split? hop, OpensQuote]
  | word k w => exact scan_word_append_iff h hs

/-- An argument that ends with a backslash before a quote that is not closed. -/
theorem scan_text_append_iff_backslash :
    let rest := "é\"a b\"\\\"c | d".toList
    let t : Token := .word .argument "é\"a b\"\\"
    scan .argument rest = .ok (t, "\"c | d".toList) ∧ 0 < Text.byteLength t.text.toList ∧
    Text.takeBytes? rest (Text.byteLength t.text.toList) = some t.text.toList ∧
    ∀ s, (∀ c ∈ s.head?, Text.isBlank c = true) →
      (scan .argument (t.text.toList ++ s) = .ok (t, s) ↔
        ¬ (t.OpensQuote .argument ∧ '"' ∈ s)) := by
  intro rest t
  have h : scan .argument rest = .ok (t, "\"c | d".toList) :=
    scan_eq_word_iff.2 ⟨by decide, by decide, by decide +kernel, by decide⟩
  exact ⟨h, by decide, scan_text_append_iff h (by decide)⟩

end Token

end ShellPipeline
