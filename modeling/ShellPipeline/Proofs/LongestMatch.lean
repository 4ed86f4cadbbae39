import ShellPipeline.Proofs.Tokens

/-!
# The longest match

What a scan gives, without reference to reading. An operator at the start of a text is read in
every mode, the longest one that fits. Elsewhere the mode chooses among the longest parts of the
text that are made of the units of each class (`Mode.choice`), and nothing is read where the
chosen part is empty.

`Token.LongestMatch` lists the answers, and `scan_eq_iff_longestMatch` says that a scan gives them.
-/

namespace ShellPipeline

/-- The longest part at the start of a text that is made of units of the class, and may be empty. -/
structure WordClass.IsLongest (k : WordClass) (s w : List Char) : Prop where
  isPrefix : w <+: s
  units : w ≠ [] → k.IsWord w
  longest : ∀ v, k.IsWord v → v <+: s → v.length ≤ w.length

/-- The class that a mode chooses, with its part of a text, where these are the longest parts. -/
def Mode.choice (m : Mode) (filespec argument keyword : List Char) : WordClass × List Char :=
  match m with
  | .filespec => (.filespec, filespec)
  | .argument => (.argument, argument)
  | .keyword =>
    if keyword ≠ [] then (.keyword, keyword)
    else if argument ≠ [] then (.argument, argument)
    else (.filespec, filespec)
  | .operator => if argument ≠ [] then (.argument, argument) else (.filespec, filespec)

/-- The mode chooses the class for the text, and `w` is the longest part of that class. -/
def Mode.Chooses (m : Mode) (s : List Char) (k : WordClass) (w : List Char) : Prop :=
  ∃ filespec argument keyword, WordClass.IsLongest .filespec s filespec ∧
    WordClass.IsLongest .argument s argument ∧ WordClass.IsLongest .keyword s keyword ∧
    m.choice filespec argument keyword = (k, w)

/-- What the scan of a text may give: a token with the text behind it, or the character with which
no token begins. -/
inductive Token.LongestMatch (m : Mode) (s : List Char) : Except Char (Token × List Char) → Prop
  | endOfLine : s = [] → LongestMatch m s (.ok (.endOfLine, []))
  | operator {op : Operator} {r : List Char} : s = op.symbol.toList ++ r →
    (∀ op' : Operator, op'.symbol.toList <+: s →
      op'.symbol.toList.length ≤ op.symbol.toList.length) →
    LongestMatch m s (.ok (.operator op, r))
  | word {k : WordClass} {w r : List Char} : (∀ op : Operator, ¬ op.symbol.toList <+: s) →
    m.Chooses s k w → w ≠ [] → s = w ++ r → LongestMatch m s (.ok (.word k (String.ofList w), r))
  | nothing {k : WordClass} {c : Char} : (∀ op : Operator, ¬ op.symbol.toList <+: s) →
    m.Chooses s k [] → s.head? = some c → LongestMatch m s (.error c)

/-! ## The longest part of a class -/

namespace WordClass

theorem isLongest_split (k : WordClass) (s : List Char) : k.IsLongest s (k.split s).1 where
  isPrefix := ⟨_, k.split_append s⟩
  units := isWord_of_split rfl
  longest := fun _ hv hpre => hv.length_le_split hpre

theorem IsLongest.length_le {k : WordClass} {s v w : List Char} (hv : k.IsLongest s v)
    (hw : k.IsLongest s w) : v.length ≤ w.length := by
  by_cases hnil : v = []
  · simp [hnil]
  · exact hw.longest v (hv.units hnil) hv.isPrefix

/-- There is one longest part, and it is the one that is cut off. -/
theorem isLongest_iff {k : WordClass} {s w : List Char} :
    k.IsLongest s w ↔ (k.split s).1 = w := by
  constructor
  · intro h
    have hsplit := k.isLongest_split s
    exact (List.prefix_of_prefix_length_le hsplit.isPrefix h.isPrefix
      (hsplit.length_le h)).eq_of_length_le (h.length_le hsplit)
  · rintro rfl
    exact k.isLongest_split s

end WordClass

theorem Mode.chooses_iff {m : Mode} {s w : List Char} {k : WordClass} :
    m.Chooses s k w ↔ m.choice (WordClass.split .filespec s).1 (WordClass.split .argument s).1
      (WordClass.split .keyword s).1 = (k, w) := by
  simp [Chooses, WordClass.isLongest_iff]

/-- The class that is chosen is the first one of the mode whose part is not empty, if there is
one. -/
theorem Mode.exists_choice_eq (m : Mode) (part : WordClass → List Char) :
    ∃ k, m.choice (part .filespec) (part .argument) (part .keyword) = (k, part k) ∧
      m.classes.find? (part · ≠ []) = if part k = [] then none else some k := by
  cases m with
  | filespec => exact ⟨.filespec, rfl, by simp [classes]⟩
  | argument => exact ⟨.argument, rfl, by simp [classes]⟩
  | keyword =>
    by_cases hkeyword : part .keyword = []
    · by_cases hargument : part .argument = []
      · exact ⟨.filespec, by simp [choice, hkeyword, hargument],
          by simp [classes, hkeyword, hargument]⟩
      · exact ⟨.argument, by simp [choice, hkeyword, hargument],
          by simp [classes, hkeyword, hargument]⟩
    · exact ⟨.keyword, by simp [choice, hkeyword], by simp [classes, hkeyword]⟩
  | operator =>
    by_cases hargument : part .argument = []
    · exact ⟨.filespec, by simp [choice, hargument], by simp [classes, hargument]⟩
    · exact ⟨.argument, by simp [choice, hargument], by simp [classes, hargument]⟩

theorem Mode.Chooses.find?_classes {m : Mode} {s w : List Char} {k : WordClass}
    (h : m.Chooses s k w) : (k.split s).1 = w ∧
      m.classes.find? (fun k => (k.split s).1 ≠ []) = if w = [] then none else some k := by
  obtain ⟨k', hchoice, hfind⟩ := m.exists_choice_eq fun k => (k.split s).1
  obtain ⟨rfl, rfl⟩ := Prod.mk.inj ((Mode.chooses_iff.1 h).symm.trans hchoice)
  exact ⟨rfl, hfind⟩

/-- What is chosen is the longest part of its class. -/
theorem Mode.Chooses.isLongest {m : Mode} {s w : List Char} {k : WordClass}
    (h : m.Chooses s k w) : k.IsLongest s w :=
  WordClass.isLongest_iff.2 h.find?_classes.1

/-! ## The scan -/

namespace Token

theorem wordOf?_eq (s : List Char) (k : WordClass) :
    wordOf? s k = if (k.split s).1 = [] then none
      else some (.word k (String.ofList (k.split s).1), (k.split s).2) := by
  unfold wordOf?
  split
  · next h => simp [WordClass.word?_eq_none_iff.2 (WordClass.split_fst_eq_nil_iff.1 h)]
  · next h => simp [WordClass.word?_eq_some_iff.2 ⟨rfl, h⟩]

theorem findSome?_wordOf? (s : List Char) (ks : List WordClass) :
    ks.findSome? (wordOf? s) = (ks.find? fun k => (k.split s).1 ≠ []).map fun k =>
      (.word k (String.ofList (k.split s).1), (k.split s).2) := by
  induction ks with
  | nil => rfl
  | cons k ks ih =>
    rw [List.findSome?_cons, wordOf?_eq, List.find?_cons]
    by_cases hk : (k.split s).1 = [] <;> simp [hk, ih]

/-- The first class of a mode that has a word is the one that the mode chooses. -/
theorem findSome?_wordOf?_of_chooses {m : Mode} {s w : List Char} {k : WordClass}
    (h : m.Chooses s k w) : m.classes.findSome? (wordOf? s) =
      if w = [] then none else some (.word k (String.ofList w), (k.split s).2) := by
  obtain ⟨hsplit, hfind⟩ := h.find?_classes
  rw [findSome?_wordOf?, hfind]
  by_cases hw : w = [] <;> simp [hw, hsplit]

theorem scan_of_chooses {m : Mode} {s w : List Char} {k : WordClass} {c : Char}
    (hop : Operator.split? s = none) (h : m.Chooses s k w) (hc : s.head? = some c) :
    scan m s = if w = [] then .error c else .ok (.word k (String.ofList w), (k.split s).2) := by
  obtain ⟨s, rfl⟩ := List.head?_eq_some_iff.1 hc
  by_cases hw : w = []
  · simp [scan, hop, findSome?_wordOf?_of_chooses h, hw]
  · simp [scan, hop, findSome?_wordOf?_of_chooses h, hw]

/-- A mode chooses some class for every text. -/
theorem exists_chooses (m : Mode) (s : List Char) : ∃ k w, m.Chooses s k w :=
  ⟨_, _, Mode.chooses_iff.2 rfl⟩

theorem longestMatch_scan (m : Mode) (s : List Char) : LongestMatch m s (scan m s) := by
  cases hop : Operator.split? s with
  | some opr =>
    obtain ⟨op, r⟩ := opr
    obtain ⟨hs, hmax⟩ := Operator.split?_eq_some_iff_longest.1 hop
    rw [scan_of_split? hop]
    exact .operator hs hmax
  | none =>
    have hnone := Operator.split?_eq_none_iff_forall.1 hop
    obtain ⟨k, w, h⟩ := exists_chooses m s
    cases hs : s.head? with
    | none =>
      obtain rfl := List.head?_eq_none_iff.1 hs
      exact .endOfLine rfl
    | some c =>
      rw [scan_of_chooses hop h hs]
      split
      · next hw =>
        rw [hw] at h
        exact .nothing hnone h hs
      · next hw =>
        have hsplit := k.split_append s
        rw [WordClass.isLongest_iff.1 h.isLongest] at hsplit
        exact .word hnone h hw hsplit.symm

theorem LongestMatch.scan_eq {m : Mode} {s : List Char} {found : Except Char (Token × List Char)}
    (h : LongestMatch m s found) : scan m s = found := by
  cases h with
  | endOfLine hs => rw [hs, scan]
  | operator hs hmax => exact scan_of_split? (Operator.split?_eq_some_iff_longest.2 ⟨hs, hmax⟩)
  | @word k w r hop hk hw hs =>
    obtain ⟨c, v, rfl⟩ := List.exists_cons_of_ne_nil hw
    have hsplit := k.split_append s
    rw [WordClass.isLongest_iff.1 hk.isLongest, hs] at hsplit
    have hhead : s.head? = some c := by rw [hs]; rfl
    rw [scan_of_chooses (Operator.split?_eq_none_iff_forall.2 hop) hk hhead, if_neg hw, hs,
      List.append_cancel_left hsplit]
  | nothing hop hk hs =>
    rw [scan_of_chooses (Operator.split?_eq_none_iff_forall.2 hop) hk hs, if_pos rfl]

/-- A scan gives the longest match, which ends between two characters of the text, and which no
longer part of the text of the same class surpasses. -/
theorem scan_eq_iff_longestMatch (m : Mode) (s : List Char)
    (found : Except Char (Token × List Char)) :
    (scan m s = found ↔ LongestMatch m s found) ∧
    ∀ t r, scan m s = .ok (t, r) →
      Text.takeBytes? s (Text.byteLength t.text.toList) = some t.text.toList ∧
      ∀ k w, t = .word k w → k.IsLongest s w.toList := by
  refine ⟨⟨fun h => h ▸ longestMatch_scan m s, LongestMatch.scan_eq⟩, fun t r h => ⟨?_, ?_⟩⟩
  · rw [scan_append h]
    exact Text.takeBytes?_append t.text.toList r
  · rintro k w rfl
    have hmatch := longestMatch_scan m s
    rw [h] at hmatch
    generalize hfound : Except.ok (Token.word k w, r) = found at hmatch
    cases hmatch with
    | endOfLine | operator | nothing => cases hfound
    | word _ hk _ _ =>
      cases hfound
      rw [String.toList_ofList]
      exact hk.isLongest

end Token

end ShellPipeline
