import ShellPipeline.Cursor
import ShellPipeline.Proofs.Words

/-!
# Tokens of a line

`Reads s t r`: behind blanks the text `s` begins with the token `t`, and `r` follows. An operator
is the longest one that fits. A word is the longest one of its class, where no operator fits.

`Token.scan_eq_word_iff` says which word a mode finds, by the classes that it tries before.
`Cursor.next` finds what the relation says (`reads_of_next`, `next_of_reads`), and a token is read
before another text as well, if that cuts it off alike (`Reads.replace_word`,
`Reads.replace_operator`, `Cursor.next_replace`).
-/

namespace ShellPipeline

/-! ## Operators -/

namespace Operator

theorem symbol_injective {op op' : Operator} (h : op.symbol.toList = op'.symbol.toList) :
    op = op' := by
  rcases op with _ | ⟨_ | _ | _, _ | _⟩ <;> rcases op' with _ | ⟨_ | _ | _, _ | _⟩ <;>
    first | rfl | exact absurd h (by decide)

theorem head_symbol (op : Operator) {c : Char} (h : c ∈ op.symbol.toList.head?) :
    Text.isBlank c = false ∧ (isOperatorChar c = true ∨ c = '2') := by
  rcases op with _ | ⟨_ | _ | _, _ | _⟩ <;> cases h <;> decide

/-- No operator stands at the start of a text that begins with none of their characters, nor with
a `2` before an angle to the right. -/
theorem split?_eq_none_iff {c : Char} {s : List Char} :
    split? (c :: s) = none ↔
      isOperatorChar c = false ∧ (c = '2' → s.head? ≠ some '>') := by
  unfold split? isOperatorChar isAngle
  cases s <;> split <;> simp_all

theorem length_symbol_pos (op : Operator) : 0 < op.symbol.toList.length :=
  List.length_pos_iff.2 op.symbol_toList_ne_nil

theorem length_le_of_split? {s r : List Char} {op op' : Operator} (h : split? s = some (op, r))
    (h' : op'.symbol.toList <+: s) : op'.symbol.toList.length ≤ op.symbol.toList.length := by
  obtain ⟨t, rfl⟩ := h'
  rcases op' with _ | ⟨_ | _ | _, _ | _⟩
  case pipe | redirect.output.false | redirect.input.false => exact op.length_symbol_pos
  case redirect.output.true | redirect.error.true | redirect.input.true =>
    cases h
    decide
  case redirect.error.false =>
    change split? ('2' :: '>' :: t) = _ at h
    by_cases hc : t.head? = some '>'
    · obtain ⟨t, rfl⟩ := List.head?_eq_some_iff.1 hc
      cases h
      decide
    · have : split? ('2' :: '>' :: t) = some (.redirect .error false, t) := by
        cases t <;> simp_all [split?]
      cases this.symm.trans h
      decide

theorem split?_ne_none_of_symbol {s : List Char} {op : Operator} (h : op.symbol.toList <+: s) :
    split? s ≠ none := by
  obtain ⟨t, rfl⟩ := h
  rcases op with _ | ⟨_ | _ | _, _ | _⟩ <;>
    simp [symbol, split?_eq_none_iff, isOperatorChar, isAngle]

theorem split?_eq_none_iff_forall {s : List Char} :
    split? s = none ↔ ∀ op : Operator, ¬ op.symbol.toList <+: s := by
  constructor
  · exact fun h op hop => split?_ne_none_of_symbol hop h
  · intro h
    refine Option.eq_none_iff_forall_ne_some.2 fun ⟨op, r⟩ hop => ?_
    exact h op ⟨r, (split?_eq_some hop).symm⟩

/-- The operator that is read is the longest one that fits. -/
theorem split?_eq_some_iff_longest {s r : List Char} {op : Operator} :
    split? s = some (op, r) ↔ s = op.symbol.toList ++ r ∧
      ∀ op' : Operator, op'.symbol.toList <+: s →
        op'.symbol.toList.length ≤ op.symbol.toList.length := by
  constructor
  · exact fun h => ⟨split?_eq_some h, fun op' => length_le_of_split? h⟩
  · rintro ⟨hs, hmax⟩
    have hpre : op.symbol.toList <+: s := ⟨r, hs.symm⟩
    obtain ⟨⟨op₁, r₁⟩, h₁⟩ := Option.ne_none_iff_exists'.1 (split?_ne_none_of_symbol hpre)
    have hs₁ := split?_eq_some h₁
    have hle := hmax op₁ ⟨r₁, hs₁.symm⟩
    have hge := length_le_of_split? h₁ hpre
    obtain ⟨hop, hr⟩ := List.append_inj (hs₁.symm.trans hs) (by omega)
    rw [h₁, hr, symbol_injective hop]

/-- An operator is read whatever follows it, unless that makes it longer. -/
theorem split?_append (op : Operator) (r : List Char) :
    split? (op.symbol.toList ++ r) = some (op, r) ∨
      ∃ c t, ∃ op' : Operator, r = c :: t ∧ op'.symbol.toList = op.symbol.toList ++ [c] ∧
        isAngle c = true := by
  cases r with
  | nil =>
    left
    rcases op with _ | ⟨_ | _ | _, _ | _⟩ <;> rfl
  | cons c t =>
    by_cases hop : ∃ op' : Operator, op'.symbol.toList = op.symbol.toList ++ [c]
    · obtain ⟨op', hop'⟩ := hop
      refine .inr ⟨c, t, op', rfl, hop', ?_⟩
      rcases op with _ | ⟨_ | _ | _, _ | _⟩ <;> rcases op' with _ | ⟨_ | _ | _, _ | _⟩ <;>
        simp [symbol] at hop' <;> simp [← hop', isAngle]
    · left
      simp only [not_exists] at hop
      rcases op with _ | ⟨_ | _ | _, _ | _⟩
      case pipe | redirect.output.true | redirect.error.true | redirect.input.true => rfl
      case redirect.output.false =>
        have hc : c ≠ '>' := by
          rintro rfl
          exact hop (.redirect .output true) rfl
        simp [symbol, split?, hc]
      case redirect.error.false =>
        have hc : c ≠ '>' := by
          rintro rfl
          exact hop (.redirect .error true) rfl
        simp [symbol, split?, hc]
      case redirect.input.false =>
        have hc : c ≠ '<' := by
          rintro rfl
          exact hop (.redirect .input true) rfl
        simp [symbol, split?, hc]

theorem split?_append_of_not_angle (op : Operator) {r : List Char}
    (h : ∀ c ∈ r.head?, isAngle c = false) : split? (op.symbol.toList ++ r) = some (op, r) := by
  rcases op.split?_append r with hsplit | ⟨c, t, -, rfl, -, hc⟩
  · exact hsplit
  · exact absurd hc (by simp [h c rfl])

theorem split?_append_of_followsLike {op : Operator} {r r' : List Char}
    (h : split? (op.symbol.toList ++ r) = some (op, r)) (hr : Text.FollowsLike r r') :
    split? (op.symbol.toList ++ r') = some (op, r') := by
  rcases op.split?_append r' with hsplit | ⟨c, t, op', rfl, hop', hc⟩
  · exact hsplit
  · rcases hr c rfl with hb | hhead
    · cases hc.symm.trans (Text.not_isAngle_of_isBlank hb)
    · obtain ⟨t', rfl⟩ := List.head?_eq_some_iff.1 hhead
      have hsymbol : op'.symbol.toList <+: op.symbol.toList ++ c :: t' := ⟨t', by simp [hop']⟩
      have hle := length_le_of_split? h hsymbol
      simp only [hop', List.length_append, List.length_singleton] at hle
      omega

/-- Where no operator stands, none arises from another text behind, but for an angle behind `2`. -/
theorem split?_append_eq_none {w r r' : List Char} (h : split? (w ++ r) = none) (hw : w ≠ [])
    (hr : ¬ (w = ['2'] ∧ r'.head? = some '>')) : split? (w ++ r') = none := by
  cases w with
  | nil => exact absurd rfl hw
  | cons c w =>
    rw [List.cons_append, split?_eq_none_iff] at h ⊢
    refine ⟨h.1, fun hc => ?_⟩
    cases w with
    | nil =>
      intro hangle
      exact hr ⟨by rw [hc], hangle⟩
    | cons d w => exact h.2 hc

theorem split?_eq_none_of_followsLike {w r r' : List Char} (h : split? (w ++ r) = none)
    (hw : w ≠ []) (hr : Text.FollowsLike r r') : split? (w ++ r') = none := by
  refine split?_append_eq_none h hw ?_
  rintro ⟨rfl, hangle⟩
  rcases hr _ hangle with hb | hhead
  · exact absurd hb (by decide)
  · exact (split?_eq_none_iff.1 h).2 rfl hhead

theorem split?_eq_none_of_isWord {k : WordClass} {w r : List Char} (h : k.IsWord w)
    (hpipe : k = .argument → w.head? ≠ some '|') (hr : Text.FollowsLike [] r) :
    split? (w ++ r) = none := by
  refine split?_eq_none_of_followsLike (r := []) ?_ h.ne_nil hr
  rw [List.append_nil]
  cases w with
  | nil => exact absurd rfl h.ne_nil
  | cons c w =>
    obtain ⟨-, hangle, hc⟩ := h.head
    refine split?_eq_none_iff.2 ⟨?_, ?_⟩
    · have : c ≠ '|' := fun h => hpipe (hc h) (congrArg some h)
      simp [isOperatorChar, hangle, this]
    · rintro rfl hsecond
      obtain ⟨w, rfl⟩ := List.head?_eq_some_iff.1 hsecond
      cases h.isAngle_second (by simp) (by simp)

end Operator

/-! ## Blanks -/

namespace Text

theorem skipBlanks_append {b s : List Char} (hb : ∀ c ∈ b, isBlank c = true) :
    skipBlanks (b ++ s) = skipBlanks s :=
  List.dropWhile_append_of_pos hb

theorem skipBlanks_of_head {s : List Char} (h : ∀ c ∈ s.head?, isBlank c = false) :
    skipBlanks s = s := by
  cases s with
  | nil => rfl
  | cons c s => simp [skipBlanks, h c rfl]

theorem head_skipBlanks {s : List Char} {c : Char} (h : c ∈ (skipBlanks s).head?) :
    isBlank c = false := by
  have := List.head?_dropWhile_not isBlank s
  rw [show s.dropWhile isBlank = skipBlanks s from rfl, Option.mem_def.1 h] at this
  simpa using this

theorem isBlank_of_mem_takeWhile {s : List Char} {c : Char} (h : c ∈ s.takeWhile isBlank) :
    isBlank c = true :=
  List.all_eq_true.1 List.all_takeWhile c h

theorem isBlank_of_skipBlanks_eq_nil {s : List Char} (h : skipBlanks s = []) {c : Char}
    (hc : c ∈ s) : isBlank c = true := by
  have hsplit := List.takeWhile_append_dropWhile (p := isBlank) (l := s)
  rw [show s.dropWhile isBlank = [] from h, List.append_nil] at hsplit
  exact isBlank_of_mem_takeWhile (hsplit ▸ hc)

/-- What is behind blanks and a text of `p`, if `w` is that text, stays there before another
text. -/
theorem takeWhile_append_of_skipBlanks {p w r : List Char} (h : skipBlanks (p ++ r) = w ++ r) :
    p = (p ++ r).takeWhile isBlank ++ w := by
  have hsplit := List.takeWhile_append_dropWhile (p := isBlank) (l := p ++ r)
  rw [show (p ++ r).dropWhile isBlank = w ++ r from h, ← List.append_assoc] at hsplit
  exact (List.append_cancel_right hsplit).symm

end Text

/-! ## Reading a token -/

/-- `Reads s t r`: behind blanks `s` begins with the token `t`, and `r` follows. -/
inductive Reads : List Char → Token → List Char → Prop
  | operator {s r : List Char} {op : Operator} :
    Text.skipBlanks s = op.symbol.toList ++ r →
    (∀ op' : Operator, op'.symbol.toList <+: Text.skipBlanks s →
      op'.symbol.toList.length ≤ op.symbol.toList.length) →
    Reads s (.operator op) r
  | word {s r : List Char} {k : WordClass} {w : String} :
    Text.skipBlanks s = w.toList ++ r →
    (∀ op : Operator, ¬ op.symbol.toList <+: Text.skipBlanks s) →
    k.IsWord w.toList →
    (∀ v, k.IsWord v → v <+: Text.skipBlanks s → v.length ≤ w.toList.length) →
    Reads s (.word k w) r
  | endOfLine {s : List Char} : Text.skipBlanks s = [] → Reads s .endOfLine []

namespace Reads

theorem operator_iff {s r : List Char} {op : Operator} :
    Reads s (.operator op) r ↔ Operator.split? (Text.skipBlanks s) = some (op, r) := by
  rw [Operator.split?_eq_some_iff_longest]
  constructor
  · intro h
    cases h with
    | operator hs hmax => exact ⟨hs, hmax⟩
  · rintro ⟨hs, hmax⟩
    exact .operator hs hmax

theorem word_iff {s r : List Char} {k : WordClass} {w : String} :
    Reads s (.word k w) r ↔ Operator.split? (Text.skipBlanks s) = none ∧
      k.split (Text.skipBlanks s) = (w.toList, r) ∧ w.toList ≠ [] := by
  rw [Operator.split?_eq_none_iff_forall, WordClass.split_eq_iff_longest]
  constructor
  · intro h
    cases h with
    | word hs hop hw hmax => exact ⟨hop, hs, hw, hmax⟩
  · rintro ⟨hop, hs, hw, hmax⟩
    exact .word hs hop hw hmax

theorem endOfLine_iff {s r : List Char} :
    Reads s .endOfLine r ↔ Text.skipBlanks s = [] ∧ r = [] := by
  constructor
  · intro h
    cases h with
    | endOfLine hs => exact ⟨hs, rfl⟩
  · rintro ⟨hs, rfl⟩
    exact .endOfLine hs

theorem skipBlanks_eq {s r : List Char} {t : Token} (h : Reads s t r) :
    Text.skipBlanks s = t.text.toList ++ r := by
  cases h with
  | operator hs => exact hs
  | word hs => exact hs
  | endOfLine hs => simpa [Token.text] using hs

theorem not_isBlank_head {s r : List Char} {t : Token} (h : Reads s t r) :
    ∀ c ∈ t.text.toList.head?, Text.isBlank c = false := by
  intro c hc
  obtain ⟨w, hw⟩ := List.head?_eq_some_iff.1 hc
  exact Text.head_skipBlanks (s := s) (by rw [h.skipBlanks_eq, hw]; rfl)

theorem text_ne_nil {s r : List Char} {t : Token} (h : Reads s t r) (ht : t ≠ .endOfLine) :
    t.text.toList ≠ [] := by
  cases h with
  | @operator _ op => exact op.symbol_toList_ne_nil
  | word _ _ hw => exact hw.ne_nil
  | endOfLine => exact absurd rfl ht

theorem ne_nil_of_append {p r : List Char} {t : Token} (h : Reads (p ++ r) t r)
    (ht : t ≠ .endOfLine) : p ≠ [] := by
  rw [Text.takeWhile_append_of_skipBlanks h.skipBlanks_eq]
  exact List.append_ne_nil_of_right_ne_nil _ (h.text_ne_nil ht)

/-- Behind the same blanks the same token may stand before another text. -/
theorem skipBlanks_replace {p r : List Char} {t : Token} (h : Reads (p ++ r) t r)
    (ht : t ≠ .endOfLine) (r' : List Char) : Text.skipBlanks (p ++ r') = t.text.toList ++ r' := by
  have hp := Text.takeWhile_append_of_skipBlanks h.skipBlanks_eq
  rw [hp, List.append_assoc, Text.skipBlanks_append fun c => Text.isBlank_of_mem_takeWhile]
  refine Text.skipBlanks_of_head fun c hc => h.not_isBlank_head c ?_
  cases hw : t.text.toList with
  | nil => exact absurd hw (h.text_ne_nil ht)
  | cons d w => simpa [hw] using hc

theorem unit?_eq_none {s r : List Char} {k : WordClass} {w : String}
    (h : Reads s (.word k w) r) : k.unit? r = none := by
  have hr := k.unit?_split_snd (Text.skipBlanks s)
  rwa [(word_iff.1 h).2.1] at hr

theorem replace_word {p r r' : List Char} {k : WordClass} {w : String}
    (h : Reads (p ++ r) (.word k w) r) (hr : Text.FollowsLike r r') (hn : k.unit? r' = none) :
    Reads (p ++ r') (.word k w) r' := by
  have hs := h.skipBlanks_eq
  have hs' := h.skipBlanks_replace (by simp) r'
  rw [word_iff] at h ⊢
  rw [hs] at h
  rw [hs']
  exact ⟨Operator.split?_eq_none_of_followsLike h.1 h.2.2 hr,
    WordClass.split_append_of_followsLike h.2.1 hr hn, h.2.2⟩

theorem replace_operator {p r r' : List Char} {op : Operator}
    (h : Reads (p ++ r) (.operator op) r)
    (hr : Text.FollowsLike r r' ∨ ∀ c ∈ r'.head?, isAngle c = false) :
    Reads (p ++ r') (.operator op) r' := by
  have hs := h.skipBlanks_eq
  have hs' := h.skipBlanks_replace (by simp) r'
  rw [operator_iff] at h ⊢
  rw [hs] at h
  rw [hs']
  rcases hr with hr | hr
  · exact Operator.split?_append_of_followsLike h hr
  · exact op.split?_append_of_not_angle hr

theorem replace_pipe {p r : List Char} (h : Reads (p ++ r) (.operator .pipe) r)
    (r' : List Char) : Reads (p ++ r') (.operator .pipe) r' := by
  rw [operator_iff, h.skipBlanks_replace (by simp) r']
  rfl

theorem of_isWord {k : WordClass} {b w r : List Char} (hb : ∀ c ∈ b, Text.isBlank c = true)
    (hw : k.IsWord w) (hpipe : k = .argument → w.head? ≠ some '|') (hr : Text.FollowsLike [] r) :
    Reads (b ++ (w ++ r)) (.word k (String.ofList w)) r := by
  have hs : Text.skipBlanks (b ++ (w ++ r)) = w ++ r := by
    rw [Text.skipBlanks_append hb]
    refine Text.skipBlanks_of_head fun c hc => ?_
    cases w with
    | nil => exact absurd rfl hw.ne_nil
    | cons d w =>
      cases hc
      exact hw.head.1
  rw [word_iff, hs, String.toList_ofList]
  exact ⟨Operator.split?_eq_none_of_isWord hw hpipe hr, hw.split_append hr, hw.ne_nil⟩

theorem of_symbol {b r : List Char} (op : Operator) (hb : ∀ c ∈ b, Text.isBlank c = true)
    (hr : ∀ c ∈ r.head?, isAngle c = false) :
    Reads (b ++ (op.symbol.toList ++ r)) (.operator op) r := by
  have hs : Text.skipBlanks (b ++ (op.symbol.toList ++ r)) = op.symbol.toList ++ r := by
    rw [Text.skipBlanks_append hb]
    refine Text.skipBlanks_of_head fun c hc => (op.head_symbol ?_).1
    cases hop : op.symbol.toList with
    | nil => exact absurd hop op.symbol_toList_ne_nil
    | cons d w => simpa [hop] using hc
  rw [operator_iff, hs]
  exact op.split?_append_of_not_angle hr

end Reads

/-! ## The word that a mode finds -/

/-- The classes that a mode tries before a class. -/
def Mode.before (m : Mode) (k : WordClass) : List WordClass := m.classes.takeWhile (· != k)

namespace Token

theorem wordOf?_eq_some_iff {s r : List Char} {k k' : WordClass} {w : String} :
    wordOf? s k' = some (.word k w, r) ↔ k' = k ∧ k.split s = (w.toList, r) ∧ w.toList ≠ [] := by
  constructor
  · intro h
    obtain ⟨v, hsplit, hv, ht⟩ := wordOf?_eq_some h
    cases ht
    rw [String.toList_ofList]
    exact ⟨rfl, hsplit, hv⟩
  · rintro ⟨rfl, hsplit, hw⟩
    simp [wordOf?, WordClass.word?_eq_some_iff.2 ⟨hsplit, hw⟩]

theorem wordOf?_eq_none_iff {s : List Char} {k : WordClass} :
    wordOf? s k = none ↔ k.unit? s = none := by
  rw [wordOf?, Option.map_eq_none_iff, WordClass.word?_eq_none_iff]

theorem before_eq {m : Mode} {k : WordClass} {front back : List WordClass}
    (h : m.classes = front ++ k :: back) (hk : k ∉ front) : m.before k = front := by
  have hne : ∀ x ∈ front, (x != k) = true := fun x hx => bne_iff_ne.2 fun heq => hk (heq ▸ hx)
  rw [Mode.before, h, List.takeWhile_append_of_pos hne]
  simp

/-- A mode finds the word of a class if no class that it tries before has one. -/
theorem findSome?_wordOf?_eq_some_iff {m : Mode} {s r : List Char} {k : WordClass} {w : String} :
    m.classes.findSome? (wordOf? s) = some (.word k w, r) ↔
      (k ∈ m.classes ∧ ∀ k' ∈ m.before k, k'.unit? s = none) ∧
        k.split s = (w.toList, r) ∧ w.toList ≠ [] := by
  simp only [← wordOf?_eq_none_iff]
  rw [List.findSome?_eq_some_iff]
  constructor
  · rintro ⟨front, k', back, hclasses, hword, hnone⟩
    obtain ⟨rfl, hw⟩ := wordOf?_eq_some_iff.1 hword
    have hk : k' ∉ front := fun hmem => nomatch (hnone k' hmem).symm.trans hword
    rw [before_eq hclasses hk]
    exact ⟨⟨by simp [hclasses], hnone⟩, hw⟩
  · rintro ⟨⟨hk, hnone⟩, hw⟩
    obtain ⟨front, back, hclasses, hfront⟩ := List.eq_append_cons_of_mem hk
    rw [before_eq hclasses hfront] at hnone
    exact ⟨front, k, back, hclasses, wordOf?_eq_some_iff.2 ⟨rfl, hw⟩, hnone⟩

theorem scan_eq_word_iff {m : Mode} {s r : List Char} {k : WordClass} {w : String} :
    scan m s = .ok (.word k w, r) ↔ Operator.split? s = none ∧
      (k ∈ m.classes ∧ ∀ k' ∈ m.before k, k'.unit? s = none) ∧
        k.split s = (w.toList, r) ∧ w.toList ≠ [] := by
  rw [← findSome?_wordOf?_eq_some_iff]
  cases s with
  | nil =>
    have hnone : m.classes.findSome? (wordOf? []) = none :=
      List.findSome?_eq_none_iff.2 fun k' _ => wordOf?_eq_none_iff.2 (by cases k' <;> rfl)
    simp [scan, hnone]
  | cons c s =>
    cases hop : Operator.split? (c :: s) with
    | some x => simp [scan, hop]
    | none =>
      cases hword : m.classes.findSome? (wordOf? (c :: s)) with
      | some x => simp [scan, hop, hword]
      | none => simp [scan, hop, hword]

end Token

/-! ## Reading with a cursor -/

namespace Token

/-- A mode in which the token is read: for a word, the one of its class. -/
def ReadIn (m : Mode) : Token → Prop
  | .word k _ => m = k.mode
  | _ => True

theorem classes_mode (k : WordClass) : ∃ ks, k.mode.classes = k :: ks := by
  cases k <;> exact ⟨_, rfl⟩

theorem scan_of_split? {m : Mode} {s r : List Char} {op : Operator}
    (h : Operator.split? s = some (op, r)) : scan m s = .ok (.operator op, r) := by
  cases s with
  | nil => cases h
  | cons c s => simp [scan, h]

/-- A word of the first class of a mode is read in that mode. -/
theorem scan_of_classes {m : Mode} {k : WordClass} {ks : List WordClass} {s w r : List Char}
    (hm : m.classes = k :: ks) (hop : Operator.split? s = none) (h : k.split s = (w, r))
    (hw : w ≠ []) : scan m s = .ok (.word k (String.ofList w), r) := by
  have hbefore : m.before k = [] := @before_eq m k [] ks hm List.not_mem_nil
  rw [scan_eq_word_iff, hbefore, String.toList_ofList]
  exact ⟨hop, ⟨by simp [hm], by simp⟩, h, hw⟩

theorem scan_of_split {k : WordClass} {s w r : List Char} (hop : Operator.split? s = none)
    (h : k.split s = (w, r)) (hw : w ≠ []) :
    scan k.mode s = .ok (.word k (String.ofList w), r) := by
  obtain ⟨ks, hks⟩ := classes_mode k
  exact scan_of_classes hks hop h hw

theorem scan_of_reads {m : Mode} {s r : List Char} {t : Token} (h : Reads s t r)
    (hm : t.ReadIn m) : scan m (Text.skipBlanks s) = .ok (t, r) := by
  cases t with
  | operator op => exact scan_of_split? (Reads.operator_iff.1 h)
  | word k w =>
    obtain ⟨hop, hw, hne⟩ := Reads.word_iff.1 h
    obtain rfl : m = k.mode := hm
    simpa using scan_of_split hop hw hne
  | endOfLine =>
    obtain ⟨hs, rfl⟩ := Reads.endOfLine_iff.1 h
    rw [hs, scan]

/-- A word of another class is read only where there is none of the class that may come. -/
theorem unit?_eq_none_of_scan {k k' : WordClass} {s r : List Char} {w : String}
    (h : scan k.mode s = .ok (.word k' w, r)) (hk : k' ≠ k) : k.unit? s = none := by
  obtain ⟨-, ⟨-, hbefore⟩, -⟩ := scan_eq_word_iff.1 h
  obtain ⟨ks, hks⟩ := classes_mode k
  exact hbefore k (by simp [Mode.before, hks, hk.symm])

theorem reads_of_scan {m : Mode} {s r : List Char} {t : Token}
    (h : scan m (Text.skipBlanks s) = .ok (t, r)) : Reads s t r := by
  rcases scan_eq_ok h with ⟨hs, rfl, rfl⟩ | ⟨op, hop, rfl⟩ | ⟨hop, k, hk, w, hw, hne, rfl⟩
  · exact .endOfLine hs
  · exact Reads.operator_iff.2 hop
  · refine Reads.word_iff.2 ⟨hop, ?_⟩
    simpa using ⟨hw, hne⟩

/-- Nothing is read where no operator fits and no class of the mode has a unit. -/
theorem scan_eq_error_iff {m : Mode} {s : List Char} {c : Char} :
    scan m s = .error c ↔ s.head? = some c ∧ Operator.split? s = none ∧
      ∀ k ∈ m.classes, k.unit? s = none := by
  cases s with
  | nil => simp [scan]
  | cons d s =>
    have hfind : m.classes.findSome? (wordOf? (d :: s)) = none ↔
        ∀ k ∈ m.classes, k.unit? (d :: s) = none := by
      simp [List.findSome?_eq_none_iff, wordOf?_eq_none_iff]
    rw [← hfind]
    cases hop : Operator.split? (d :: s) with
    | some x => simp [scan, hop]
    | none =>
      cases hf : m.classes.findSome? (wordOf? (d :: s)) with
      | some x => simp [scan, hop, hf]
      | none => simp [scan, hop, hf]

theorem mode_of_scan_eq_error {m : Mode} {s : List Char} {found : Char}
    (hs : ∀ c ∈ s.head?, Text.isBlank c = false) (h : scan m s = .error found) :
    m = .argument ∧ found = '"' := by
  obtain ⟨hfound, hop, hunits⟩ := scan_eq_error_iff.1 h
  obtain ⟨s, rfl⟩ := List.head?_eq_some_iff.1 hfound
  have hchar := (Operator.split?_eq_none_iff.1 hop).1
  have hblank := hs found rfl
  have hfilespec : WordClass.unit? .filespec (found :: s) ≠ none := by
    rw [Ne, WordClass.filespec_unit?_eq_none_iff, hchar, hblank]
    simp
  cases m with
  | filespec | keyword | operator =>
    exact absurd (hunits .filespec (by simp [Mode.classes])) hfilespec
  | argument =>
    refine ⟨rfl, ?_⟩
    have hargument := hunits .argument (by simp [Mode.classes])
    simp only [isOperatorChar, Bool.or_eq_false_iff] at hchar
    rcases WordClass.argument_unit?_eq_none_iff.1 hargument with ⟨hquote, -⟩ | hangle | hb
    · exact hquote
    · cases hchar.1.symm.trans hangle
    · cases hblank.symm.trans hb

theorem word_of_scan {m : Mode} {s r : List Char} {k : WordClass} {w : String}
    (h : scan m s = .ok (.word k w, r)) :
    Operator.split? s = none ∧ k ∈ m.classes ∧ k.unit? s ≠ none ∧ k.IsWord w.toList := by
  obtain ⟨hop, ⟨hk, -⟩, hsplit, hw⟩ := scan_eq_word_iff.1 h
  refine ⟨hop, hk, ?_, WordClass.isWord_of_split hsplit hw⟩
  rwa [Ne, ← WordClass.split_fst_eq_nil_iff, hsplit]

/-- Only among arguments the beginning of a word may be no word. -/
theorem exists_word_of_isWord {m : Mode} {k : WordClass} {w s : List Char} (hm : m ≠ .argument)
    (hw : k.IsWord w) (hop : Operator.split? (w ++ s) = none) :
    ∃ k' w' r, scan m (w ++ s) = .ok (.word k' w', r) := by
  cases w with
  | nil => exact absurd rfl hw.ne_nil
  | cons c w =>
    cases hscan : scan m (c :: w ++ s) with
    | error found =>
      have hmode := mode_of_scan_eq_error (fun d hd => by cases hd; exact hw.head.1) hscan
      exact absurd hmode.1 hm
    | ok tr =>
      obtain ⟨t, r⟩ := tr
      rcases scan_eq_ok hscan with ⟨hs, -, -⟩ | ⟨op, hop', -⟩ | ⟨-, k', -, w', -, -, rfl⟩
      · cases hs
      · cases hop.symm.trans hop'
      · exact ⟨k', _, r, rfl⟩

end Token

namespace Cursor

theorem next_of_reads {c : Cursor} {m : Mode} {t : Token} {r : List Char} (h : Reads c.rest t r)
    (hm : t.ReadIn m) :
    c.next m = (.ok ⟨t, c.skipBlanks.offset⟩, ⟨Lexeme.stop ⟨t, c.skipBlanks.offset⟩, r⟩) := by
  have hscan : Token.scan m c.skipBlanks.rest = .ok (t, r) := Token.scan_of_reads h hm
  simp [next, hscan]

theorem reads_of_next {c c' : Cursor} {m : Mode} {x : Lexeme} (h : c.next m = (.ok x, c')) :
    Reads c.rest x.token c'.rest :=
  Token.reads_of_scan (next_eq_ok h).1

theorem skipBlanks_append {n : Nat} {b s : List Char} (hb : ∀ c ∈ b, Text.isBlank c = true)
    (hs : ∀ c ∈ s.head?, Text.isBlank c = false) :
    skipBlanks ⟨n, b ++ s⟩ = ⟨n + Text.byteLength b, s⟩ := by
  have hdrop : Text.skipBlanks (b ++ s) = s := by
    rw [Text.skipBlanks_append hb, Text.skipBlanks_of_head hs]
  have hsplit := List.takeWhile_append_dropWhile (p := Text.isBlank) (l := b ++ s)
  rw [show (b ++ s).dropWhile Text.isBlank = s from hdrop] at hsplit
  rw [skipBlanks, hdrop, List.append_cancel_right hsplit]

theorem next_consumes {c c' : Cursor} {m : Mode} {x : Lexeme} (h : c.next m = (.ok x, c')) :
    ∃ p, c.rest = p ++ c'.rest ∧ c'.offset = c.offset + Text.byteLength p := by
  obtain ⟨hscan, hstart, hstop⟩ := next_eq_ok h
  refine ⟨c.rest.takeWhile Text.isBlank ++ x.token.text.toList, ?_, ?_⟩
  · rw [List.append_assoc, ← Token.scan_append hscan]
    exact List.takeWhile_append_dropWhile.symm
  · rw [hstop, Lexeme.stop, hstart, Text.byteLength_append, ← Nat.add_assoc]
    rfl

theorem offset_le_skipBlanks (c : Cursor) : c.offset ≤ c.skipBlanks.offset := Nat.le_add_right _ _

theorem offset_lt_of_next {c c' : Cursor} {m : Mode} {x : Lexeme} (h : c.next m = (.ok x, c'))
    (hx : x.token ≠ .endOfLine) : c.skipBlanks.offset < c'.offset := by
  obtain ⟨hscan, hstart, hstop⟩ := next_eq_ok h
  have htext := Token.text_ne_nil_of_scan hscan hx
  have hpos : Text.byteLength x.token.text.toList ≠ 0 := by simpa using htext
  rw [hstop, Lexeme.stop, hstart]
  omega

/-- A token that also stands before another text is read there at the same place. -/
theorem next_replace {c c' : Cursor} {m : Mode} {x : Lexeme} {p r : List Char}
    (h : c.next m = (.ok x, c')) (hm : x.token.ReadIn m) (hp : c.rest = p ++ c'.rest)
    (hr : Reads (p ++ r) x.token r) : next ⟨c.offset, p ++ r⟩ m = (.ok x, ⟨c'.offset, r⟩) := by
  obtain ⟨-, hstart, hstop⟩ := next_eq_ok h
  have hreads := reads_of_next h
  rw [hp] at hreads
  have hblanks : (p ++ r).takeWhile Text.isBlank = c.rest.takeWhile Text.isBlank := by
    have hp₁ := Text.takeWhile_append_of_skipBlanks hreads.skipBlanks_eq
    have hp₂ := Text.takeWhile_append_of_skipBlanks hr.skipBlanks_eq
    rw [hp]
    exact List.append_cancel_right (hp₂.symm.trans hp₁)
  have hplace : (skipBlanks ⟨c.offset, p ++ r⟩).offset = x.start := by
    rw [hstart, skipBlanks, skipBlanks, hblanks]
  rw [next_of_reads hr hm, hplace, hstop]

end Cursor

end ShellPipeline
