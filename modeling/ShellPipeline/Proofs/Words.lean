import ShellPipeline.Word

/-!
# Words as sequences of units

The classes of words without reference to reading: `IsUnit` lists the units of each class, and
`IsWord` holds for the texts made of one unit or more.

`WordClass.split` cuts off the longest word (`split_eq_iff_longest`). Where the cut falls depends
on the text behind it only through its first character, save for a quote behind an argument:
`split_append_of_followsLike` puts another text there. For a blank, or nothing, behind a word this
is `IsWord.split_append`.
-/

namespace ShellPipeline

/-! ## Texts that end a word alike -/

namespace Text

/-- `r'` can follow in place of `r`: it begins like `r` or with a blank, or is empty. -/
def FollowsLike (r r' : List Char) : Prop :=
  ∀ c ∈ r'.head?, isBlank c = true ∨ r.head? = some c

theorem FollowsLike.of_blank {r s : List Char} (h : ∀ c ∈ s.head?, isBlank c = true) :
    FollowsLike r s :=
  fun c hc => .inl (h c hc)

theorem FollowsLike.nil {r : List Char} : FollowsLike r [] := .of_blank (by simp)

theorem FollowsLike.blank {r s : List Char} {c : Char} (h : isBlank c = true) :
    FollowsLike r (c :: s) := .of_blank (by simpa using h)

theorem FollowsLike.append {p r r' : List Char} (hp : p ≠ []) :
    FollowsLike (p ++ r) (p ++ r') := by
  intro c hc
  cases p with
  | nil => exact absurd rfl hp
  | cons d p => exact .inr hc

theorem not_isOperatorChar_of_isBlank {c : Char} (h : isBlank c = true) :
    isOperatorChar c = false := by
  simp only [isBlank, Bool.or_eq_true, beq_iff_eq] at h
  rcases h with rfl | rfl <;> rfl

theorem not_isAngle_of_isBlank {c : Char} (h : isBlank c = true) : isAngle c = false :=
  (Bool.or_eq_false_iff.1 (not_isOperatorChar_of_isBlank h)).1

theorem not_isWordChar_of_isBlank {c : Char} (h : isBlank c = true) : isWordChar c = false := by
  simp only [isBlank, Bool.or_eq_true, beq_iff_eq] at h
  rcases h with rfl | rfl <;> rfl

theorem not_isWordChar_of_isOperatorChar {c : Char} (h : isOperatorChar c = true) :
    isWordChar c = false := by
  simp only [isOperatorChar, isAngle, Bool.or_eq_true, beq_iff_eq] at h
  rcases h with (rfl | rfl) | rfl <;> rfl

end Text

namespace WordClass

/-! ## Units and words -/

/-- The units of a class. -/
inductive IsUnit : WordClass → List Char → Prop
  | escaped {c : Char} : isOperatorChar c = true → IsUnit .filespec ['\\', c]
  | plain {c : Char} : isOperatorChar c = false → Text.isBlank c = false → IsUnit .filespec [c]
  | quoted {body : List Char} : body ≠ [] → '"' ∉ body →
    IsUnit .argument ('"' :: (body ++ ['"']))
  | bare {c : Char} : c ≠ '"' → isAngle c = false → Text.isBlank c = false →
    IsUnit .argument [c]
  | letter {c : Char} : Text.isWordChar c = true → IsUnit .keyword [c]

/-- The words of a class: one unit after the other, at least one. -/
inductive IsWord (k : WordClass) : List Char → Prop
  | unit {u : List Char} : k.IsUnit u → IsWord k u
  | cons {u w : List Char} : k.IsUnit u → IsWord k w → IsWord k (u ++ w)

theorem IsUnit.ne_nil {k : WordClass} {u : List Char} (h : k.IsUnit u) : u ≠ [] := by
  cases h <;> simp

theorem IsWord.ne_nil {k : WordClass} {w : List Char} (h : k.IsWord w) : w ≠ [] := by
  cases h with
  | unit hu => exact hu.ne_nil
  | cons hu _ =>
    intro hnil
    exact hu.ne_nil (List.append_eq_nil_iff.1 hnil).1

/-- No unit begins with a blank or an angle, and only one of an argument begins with a pipe. -/
theorem IsUnit.head {k : WordClass} {c : Char} {u : List Char} (h : k.IsUnit (c :: u)) :
    Text.isBlank c = false ∧ isAngle c = false ∧ (c = '|' → k = .argument) := by
  cases h with
  | escaped => exact ⟨rfl, rfl, by simp⟩
  | plain hop hb =>
    simp only [isOperatorChar, Bool.or_eq_false_iff, beq_eq_false_iff_ne] at hop
    exact ⟨hb, hop.1, fun hc => absurd hc hop.2⟩
  | quoted => exact ⟨rfl, rfl, by simp⟩
  | bare _ ha hb => exact ⟨hb, ha, fun _ => rfl⟩
  | letter hw =>
    have hblank : Text.isBlank c = false := Bool.eq_false_iff.2 fun hb =>
      Bool.false_ne_true ((Text.not_isWordChar_of_isBlank hb).symm.trans hw)
    have hop : isOperatorChar c = false := Bool.eq_false_iff.2 fun ho =>
      Bool.false_ne_true ((Text.not_isWordChar_of_isOperatorChar ho).symm.trans hw)
    simp only [isOperatorChar, Bool.or_eq_false_iff, beq_eq_false_iff_ne] at hop
    exact ⟨hblank, hop.1, fun hc => absurd hc hop.2⟩

theorem IsWord.head {k : WordClass} {c : Char} {w : List Char} (h : k.IsWord (c :: w)) :
    Text.isBlank c = false ∧ isAngle c = false ∧ (c = '|' → k = .argument) := by
  generalize hs : c :: w = s at h
  cases h with
  | unit hu =>
    subst hs
    exact hu.head
  | @cons u v hu _ =>
    cases u with
    | nil => exact absurd rfl hu.ne_nil
    | cons d u =>
      cases hs
      exact hu.head

theorem IsUnit.eq_nil_of_cons {k : WordClass} {c : Char} {u : List Char} (h : k.IsUnit (c :: u))
    (hesc : c ≠ '\\') (hq : c ≠ '"') : u = [] := by
  generalize hs : c :: u = s at h
  cases h with
  | escaped => exact absurd (List.cons.inj hs).1 hesc
  | quoted => exact absurd (List.cons.inj hs).1 hq
  | plain | bare | letter => exact (List.cons.inj hs).2

/-- Behind a first character that neither escapes nor quotes a word goes on as a word. -/
theorem IsWord.isAngle_second {k : WordClass} {c d : Char} {w : List Char}
    (h : k.IsWord (c :: d :: w)) (hesc : c ≠ '\\') (hq : c ≠ '"') : isAngle d = false := by
  generalize hs : c :: d :: w = s at h
  cases h with
  | unit hu =>
    subst hs
    cases hu.eq_nil_of_cons hesc hq
  | @cons u v hu hv =>
    cases u with
    | nil => exact absurd rfl hu.ne_nil
    | cons e u =>
      obtain ⟨rfl, hs⟩ := List.cons.inj hs
      obtain rfl := hu.eq_nil_of_cons hesc hq
      cases hs
      exact hv.head.2.1

/-! ## The unit at the start of a text -/

theorem filespec_unit?_eq_none_iff {c : Char} {s : List Char} :
    unit? .filespec (c :: s) = none ↔ isOperatorChar c = true ∨ Text.isBlank c = true := by
  change filespecUnit? (c :: s) = none ↔ _
  cases s with
  | nil => cases ho : isOperatorChar c <;> simp [filespecUnit?, ho]
  | cons d s =>
    by_cases hc : c = '\\'
    · subst hc
      cases hd : isOperatorChar d <;> simp [filespecUnit?, hd] <;> decide
    · cases ho : isOperatorChar c <;> simp [filespecUnit?, hc, ho]

theorem quotedRun?_append {body r : List Char} (hne : body ≠ []) (hq : '"' ∉ body) :
    quotedRun? (body ++ '"' :: r) = some ('"' :: (body ++ ['"']), r) := by
  have hbody : ∀ c ∈ body, (c != '"') = true := by
    intro c hc
    rw [bne_iff_ne]
    rintro rfl
    exact hq hc
  have htake : (body ++ '"' :: r).takeWhile (· != '"') = body := by
    rw [List.takeWhile_append_of_pos hbody]
    simp
  have hdrop : (body ++ '"' :: r).dropWhile (· != '"') = '"' :: r := by
    rw [List.dropWhile_append_of_pos hbody]
    simp
  unfold quotedRun?
  rw [htake, hdrop]
  cases body with
  | nil => exact absurd rfl hne
  | cons c body => rfl

theorem quotedRun?_eq_some_iff {s u r : List Char} :
    quotedRun? s = some (u, r) ↔
      ∃ body, body ≠ [] ∧ '"' ∉ body ∧ u = '"' :: (body ++ ['"']) ∧ s = body ++ '"' :: r := by
  constructor
  · intro h
    obtain ⟨hs, -⟩ := quotedRun?_eq_some h
    unfold quotedRun? at h
    split at h
    · next c body q rest hbody hrest =>
      cases h
      refine ⟨c :: body, by simp, ?_, by simp, by simpa using hs⟩
      intro hmem
      rw [← hbody] at hmem
      simpa using List.all_eq_true.1 List.all_takeWhile _ hmem
    · cases h
  · rintro ⟨body, hne, hq, rfl, rfl⟩
    exact quotedRun?_append hne hq

/-- A quote opens a run unless another one follows it at once, or none at all. -/
theorem quotedRun?_eq_none_iff {s : List Char} :
    quotedRun? s = none ↔ s.head? = some '"' ∨ '"' ∉ s := by
  constructor
  · intro h
    by_cases hmem : '"' ∈ s
    · obtain ⟨body, r, rfl, hq⟩ := List.eq_append_cons_of_mem hmem
      cases body with
      | nil => exact .inl rfl
      | cons c body =>
        rw [quotedRun?_append (by simp) hq] at h
        cases h
    · exact .inr hmem
  · intro h
    refine Option.eq_none_iff_forall_ne_some.2 fun ⟨u, r⟩ hrun => ?_
    obtain ⟨body, hne, hq, -, rfl⟩ := quotedRun?_eq_some_iff.1 hrun
    rcases h with h | h
    · cases body with
      | nil => exact hne rfl
      | cons c body =>
        cases h
        simp at hq
    · simp at h

theorem argument_unit?_eq_none_iff {c : Char} {s : List Char} :
    unit? .argument (c :: s) = none ↔
      (c = '"' ∧ (s.head? = some '"' ∨ '"' ∉ s)) ∨ isAngle c = true ∨ Text.isBlank c = true := by
  change argumentUnit? (c :: s) = none ↔ _
  by_cases hc : c = '"'
  · subst hc
    simp [argumentUnit?, quotedRun?_eq_none_iff, isAngle, Text.isBlank]
  · cases ha : isAngle c <;> simp [argumentUnit?, hc, ha]

theorem keyword_unit?_eq_none_iff {c : Char} {s : List Char} :
    unit? .keyword (c :: s) = none ↔ Text.isWordChar c = false := by
  simp [unit?, keywordUnit?]

theorem isUnit_of_unit? {k : WordClass} {s u r : List Char} (h : k.unit? s = some (u, r)) :
    k.IsUnit u := by
  cases k with
  | filespec =>
    change filespecUnit? s = _ at h
    unfold filespecUnit? at h
    grind [IsUnit]
  | argument =>
    change argumentUnit? s = _ at h
    unfold argumentUnit? at h
    split at h
    · cases h
    · split at h
      · obtain ⟨body, hne, hq, rfl, -⟩ := quotedRun?_eq_some_iff.1 h
        exact .quoted hne hq
      · grind [IsUnit]
  | keyword =>
    change keywordUnit? s = _ at h
    unfold keywordUnit? at h
    grind [IsUnit]

/-- A unit is read whatever follows it, save that a backslash takes an operator character in. -/
theorem unit?_append {k : WordClass} {u : List Char} (h : k.IsUnit u) (r : List Char) :
    k.unit? (u ++ r) = some (u, r) ∨
      k = .filespec ∧ u = ['\\'] ∧ ∃ c t, r = c :: t ∧ isOperatorChar c = true := by
  cases h with
  | escaped hc =>
    left
    simp [unit?, filespecUnit?, hc]
  | @plain c hop hb =>
    cases r with
    | nil => simp [unit?, filespecUnit?, hop, hb]
    | cons d t =>
      by_cases hesc : c = '\\' ∧ isOperatorChar d = true
      · exact .inr ⟨rfl, by rw [hesc.1], d, t, rfl, hesc.2⟩
      · left
        simp only [unit?, filespecUnit?, List.singleton_append]
        grind
  | @quoted body hne hq =>
    left
    simpa [unit?, argumentUnit?] using quotedRun?_append hne hq
  | bare hc ha hb =>
    left
    simp [unit?, argumentUnit?, hc, ha, hb]
  | letter hw =>
    left
    simp [unit?, keywordUnit?, hw]

theorem unit?_eq_none_of_blank (k : WordClass) {c : Char} {s : List Char}
    (h : Text.isBlank c = true) : k.unit? (c :: s) = none := by
  refine Option.eq_none_iff_forall_ne_some.2 fun ⟨u, r⟩ hu => ?_
  obtain ⟨hs, hne⟩ := unit?_eq_some hu
  cases u with
  | nil => exact hne rfl
  | cons d u =>
    cases hs
    exact Bool.false_ne_true ((isUnit_of_unit? hu).head.1.symm.trans h)

theorem unit?_eq_none_of_bounded (k : WordClass) {r : List Char} (h : Text.FollowsLike [] r) :
    k.unit? r = none := by
  cases r with
  | nil => cases k <;> rfl
  | cons c r =>
    rcases h c rfl with hb | hc
    · exact k.unit?_eq_none_of_blank hb
    · cases hc

theorem unit?_append_of_followsLike {k : WordClass} {u r r' : List Char}
    (h : k.unit? (u ++ r) = some (u, r)) (hr : Text.FollowsLike r r') :
    k.unit? (u ++ r') = some (u, r') := by
  rcases unit?_append (isUnit_of_unit? h) r' with h' | ⟨rfl, rfl, c, t, rfl, hc⟩
  · exact h'
  · rcases hr c rfl with hb | hhead
    · rw [Text.not_isOperatorChar_of_isBlank hb] at hc
      cases hc
    · cases r with
      | nil => cases hhead
      | cons d r =>
        cases hhead
        simp [unit?, filespecUnit?, hc] at h

/-- Without a quote at its start, a text with no unit there is recognised by its first character. -/
theorem unit?_eq_none_of_followsLike {k : WordClass} {r r' : List Char} (h : k.unit? r = none)
    (hq : k = .argument → r'.head? ≠ some '"') (hr : Text.FollowsLike r r') :
    k.unit? r' = none := by
  cases r' with
  | nil => exact k.unit?_eq_none_of_bounded .nil
  | cons c r' =>
    rcases hr c rfl with hb | hhead
    · exact k.unit?_eq_none_of_blank hb
    · cases r with
      | nil => cases hhead
      | cons d r =>
        cases hhead
        cases k with
        | filespec => rwa [filespec_unit?_eq_none_iff] at h ⊢
        | argument =>
          have hc : c ≠ '"' := by simpa using hq rfl
          simpa [unit?, argumentUnit?, hc] using h
        | keyword => simpa [unit?, keywordUnit?] using h

/-- In front of a word of its own class a unit is read as it is. -/
theorem unit?_append_word {k : WordClass} {u w : List Char} (hu : k.IsUnit u) (hw : k.IsWord w)
    (r : List Char) : k.unit? (u ++ (w ++ r)) = some (u, w ++ r) := by
  rcases unit?_append hu (w ++ r) with h | ⟨rfl, -, c, t, hcons, hc⟩
  · exact h
  · cases w with
    | nil => exact absurd rfl hw.ne_nil
    | cons d w =>
      cases hcons
      obtain ⟨-, ha, hpipe⟩ := hw.head
      simp only [isOperatorChar, ha, Bool.false_or, beq_iff_eq] at hc
      cases hpipe hc

/-! ## The longest word at the start of a text -/

theorem isWord_of_split {k : WordClass} {s w r : List Char} (h : k.split s = (w, r))
    (hw : w ≠ []) : k.IsWord w := by
  fun_induction split k s generalizing w with
  | case1 s hu =>
    cases h
    exact absurd rfl hw
  | case2 s u r' hu ih =>
    cases h
    have hunit := isUnit_of_unit? hu
    cases hs : (k.split r').1 with
    | nil => simpa using IsWord.unit hunit
    | cons c v => exact hs ▸ .cons hunit (ih rfl (by simp [hs]))

/-- Another text may stand behind the longest word, if it is cut off from it alike. -/
theorem split_append_of_followsLike {k : WordClass} {w r r' : List Char}
    (h : k.split (w ++ r) = (w, r)) (hr : Text.FollowsLike r r') (hn : k.unit? r' = none) :
    k.split (w ++ r') = (w, r') := by
  generalize hs : w ++ r = s at h
  fun_induction split k s generalizing w with
  | case1 s hu =>
    cases h
    exact split_of_unit?_eq_none hn
  | case2 s u r₁ hu ih =>
    obtain ⟨rfl, hr₁⟩ := Prod.mk.inj h
    have hrest : (k.split r₁).1 ++ r = r₁ := by rw [← hr₁, split_append]
    -- Behind the first unit stands the rest of the word, or if there is none the text itself.
    have hunit : k.unit? (u ++ ((k.split r₁).1 ++ r')) = some (u, (k.split r₁).1 ++ r') := by
      refine unit?_append_of_followsLike (r := r₁) ?_ ?_
      · rw [← (unit?_eq_some hu).1, hu]
      · cases hw : (k.split r₁).1 with
        | nil =>
          rw [hw] at hrest
          rw [← hrest]
          exact hr
        | cons c v =>
          rw [← hrest, hw]
          exact .append (by simp)
    rw [List.append_assoc, split_of_unit?_eq_some hunit, ih hrest (Prod.ext rfl hr₁)]

theorem IsWord.split_append {k : WordClass} {w r : List Char} (h : k.IsWord w)
    (hr : Text.FollowsLike [] r) : k.split (w ++ r) = (w, r) := by
  have hend : k.split r = ([], r) := split_of_unit?_eq_none (k.unit?_eq_none_of_bounded hr)
  induction h with
  | @unit u hu =>
    rcases unit?_append hu r with hunit | ⟨-, -, c, t, rfl, hc⟩
    · rw [split_of_unit?_eq_some hunit, hend, List.append_nil]
    · rcases hr c rfl with hb | hhead
      · rw [Text.not_isOperatorChar_of_isBlank hb] at hc
        cases hc
      · cases hhead
  | cons hu hw ih =>
    rw [List.append_assoc, split_of_unit?_eq_some (unit?_append_word hu hw r), ih]

/-- The words are the texts that the class takes in whole. -/
theorem isWord_iff_split {k : WordClass} {w : List Char} :
    k.IsWord w ↔ k.split w = (w, []) ∧ w ≠ [] := by
  constructor
  · intro h
    refine ⟨?_, h.ne_nil⟩
    simpa using h.split_append (r := []) .nil
  · rintro ⟨h, hw⟩
    exact isWord_of_split h hw

/-- No word at the start of a text is longer than the one that is cut off. -/
theorem IsWord.length_le_split {k : WordClass} {v s : List Char} (h : k.IsWord v)
    (hv : v <+: s) : v.length ≤ (k.split s).1.length := by
  induction h generalizing s with
  | @unit u hu =>
    obtain ⟨t, rfl⟩ := hv
    rcases unit?_append hu t with hunit | ⟨rfl, rfl, c, t, rfl, hc⟩
    · rw [split_of_unit?_eq_some hunit, List.length_append]
      omega
    · have hunit : unit? .filespec (['\\'] ++ c :: t) = some (['\\', c], t) := by
        simp [unit?, filespecUnit?, hc]
      rw [split_of_unit?_eq_some hunit]
      simp
  | @cons u v hu hw ih =>
    obtain ⟨t, rfl⟩ := hv
    have := ih (List.prefix_append v t)
    rw [List.append_assoc, split_of_unit?_eq_some (unit?_append_word hu hw t),
      List.length_append, List.length_append]
    omega

/-- What is cut off is the longest word of the class that the text begins with. -/
theorem split_eq_iff_longest {k : WordClass} {s w r : List Char} :
    k.split s = (w, r) ∧ w ≠ [] ↔
      s = w ++ r ∧ k.IsWord w ∧ ∀ v, k.IsWord v → v <+: s → v.length ≤ w.length := by
  constructor
  · rintro ⟨h, hw⟩
    have happ := k.split_append s
    rw [h] at happ
    refine ⟨happ.symm, isWord_of_split h hw, fun v hv hpre => ?_⟩
    simpa [h] using hv.length_le_split hpre
  · rintro ⟨hs, hw, hmax⟩
    have hwpos := List.length_pos_iff.2 hw.ne_nil
    have hle := hw.length_le_split (s := s) ⟨r, hs.symm⟩
    have hne : (k.split s).1 ≠ [] := List.length_pos_iff.1 (by omega)
    have hge := hmax _ (isWord_of_split rfl hne) ⟨_, k.split_append s⟩
    have happ : (k.split s).1 ++ (k.split s).2 = w ++ r := by rw [k.split_append, hs]
    obtain ⟨h1, h2⟩ := List.append_inj happ (by omega)
    exact ⟨Prod.ext h1 h2, hw.ne_nil⟩

end WordClass

end ShellPipeline
