import ShellPipeline.Text.Alphanumeric
import ShellPipeline.Text.Blank

/-!
# Words

A line holds words of three classes. Each class is the set of texts made of one or more units:

* a filespec is made of escaped operator characters and of characters that are neither operator
  characters nor blanks;
* an argument is made of quoted runs, which hold at least one character, and of characters that
  are neither quotes, angles nor blanks;
* a keyword is made of letters, digits and underscores.

`WordClass.split` cuts a text after as many units of a class as stand at its start. Nothing is
lost (`split_append`), and no further unit follows (`unit?_split_snd`).
-/

namespace ShellPipeline

/-- An angle, which begins or ends a redirection operator. -/
def isAngle (c : Char) : Bool := c == '<' || c == '>'

/-- A character that a filespec holds only after a backslash. -/
def isOperatorChar (c : Char) : Bool := isAngle c || c == '|'

/-- The classes of words. -/
inductive WordClass
  /-- A program name or the file of a redirection. -/
  | filespec
  | argument
  /-- The delimiter of a here-document. -/
  | keyword
  deriving DecidableEq, Repr

namespace WordClass

/-! ## Units -/

/-- The unit of a filespec at the start of a text, and what follows it. -/
def filespecUnit? : List Char → Option (List Char × List Char)
  | [] => none
  | [c] => if isOperatorChar c || Text.isBlank c then none else some ([c], [])
  | c :: d :: s =>
    if c == '\\' && isOperatorChar d then some ([c, d], s)
    else if isOperatorChar c || Text.isBlank c then none
    else some ([c], d :: s)

/-- The quoted run that an opening quote begins, given the text after the quote. -/
def quotedRun? (s : List Char) : Option (List Char × List Char) :=
  match s.takeWhile (· != '"'), s.dropWhile (· != '"') with
  | c :: body, _ :: rest => some ('"' :: c :: body ++ ['"'], rest)
  | _, _ => none

def argumentUnit? : List Char → Option (List Char × List Char)
  | [] => none
  | c :: s =>
    if c == '"' then quotedRun? s
    else if isAngle c || Text.isBlank c then none
    else some ([c], s)

def keywordUnit? : List Char → Option (List Char × List Char)
  | [] => none
  | c :: s => if Text.isWordChar c then some ([c], s) else none

/-- The unit of a class at the start of a text, and what follows it. -/
def unit? : WordClass → List Char → Option (List Char × List Char)
  | .filespec => filespecUnit?
  | .argument => argumentUnit?
  | .keyword => keywordUnit?

theorem quotedRun?_eq_some {s u r : List Char} (h : quotedRun? s = some (u, r)) :
    '"' :: s = u ++ r ∧ u ≠ [] := by
  unfold quotedRun? at h
  split at h
  · next c body q rest hbody hrest =>
    cases h
    have hq : q = '"' := by
      have hmem : s.dropWhile (· != '"') ≠ [] := by simp [hrest]
      have := List.head_dropWhile_not (· != '"') hmem
      simpa [hrest] using this
    have hs := List.takeWhile_append_dropWhile (p := (· != '"')) (l := s)
    rw [hbody, hrest, hq] at hs
    exact ⟨by simp [← hs], by simp⟩
  · cases h

theorem unit?_eq_some {k : WordClass} {s u r : List Char} (h : k.unit? s = some (u, r)) :
    s = u ++ r ∧ u ≠ [] := by
  cases k with
  | filespec =>
    change filespecUnit? s = _ at h
    unfold filespecUnit? at h
    split at h
    · cases h
    · split at h <;> cases h
      exact ⟨rfl, by simp⟩
    · split at h
      · cases h
        exact ⟨rfl, by simp⟩
      · split at h <;> cases h
        exact ⟨rfl, by simp⟩
  | argument =>
    change argumentUnit? s = _ at h
    unfold argumentUnit? at h
    split at h
    · cases h
    · next c s =>
      split at h
      · next hc =>
        rw [beq_iff_eq] at hc
        subst hc
        exact quotedRun?_eq_some h
      · split at h <;> cases h
        exact ⟨rfl, by simp⟩
  | keyword =>
    change keywordUnit? s = _ at h
    unfold keywordUnit? at h
    split at h
    · cases h
    · split at h <;> cases h
      exact ⟨rfl, by simp⟩

theorem length_lt_of_unit? {k : WordClass} {s u r : List Char} (h : k.unit? s = some (u, r)) :
    r.length < s.length := by
  obtain ⟨rfl, hu⟩ := unit?_eq_some h
  have := List.length_pos_iff.2 hu
  rw [List.length_append]
  omega

/-! ## The longest word at the start of a text -/

/-- Cuts a text after as many units of the class as stand at its start. -/
def split (k : WordClass) (s : List Char) : List Char × List Char :=
  match _h : k.unit? s with
  | none => ([], s)
  | some (u, r) => (u ++ (k.split r).1, (k.split r).2)
termination_by s.length
decreasing_by all_goals exact length_lt_of_unit? ‹_›

theorem split_of_unit?_eq_none {k : WordClass} {s : List Char} (h : k.unit? s = none) :
    k.split s = ([], s) := by
  rw [split]
  split
  · rfl
  · next h' => rw [h] at h'; cases h'

theorem split_of_unit?_eq_some {k : WordClass} {s u r : List Char} (h : k.unit? s = some (u, r)) :
    k.split s = (u ++ (k.split r).1, (k.split r).2) := by
  rw [split]
  split
  · next h' => rw [h] at h'; cases h'
  · next h' => rw [h] at h'; cases h'; rfl

@[simp] theorem split_append (k : WordClass) (s : List Char) :
    (k.split s).1 ++ (k.split s).2 = s := by
  fun_induction split k s with
  | case1 => rfl
  | case2 s u r h ih =>
    rw [List.append_assoc, ih]
    exact (unit?_eq_some h).1.symm

@[simp] theorem unit?_split_snd (k : WordClass) (s : List Char) :
    k.unit? (k.split s).2 = none := by
  fun_induction split k s with
  | case1 s h => exact h
  | case2 s u r h ih => exact ih

theorem split_fst_eq_nil_iff {k : WordClass} {s : List Char} :
    (k.split s).1 = [] ↔ k.unit? s = none := by
  cases h : k.unit? s with
  | none => simp [split_of_unit?_eq_none h]
  | some ur =>
    obtain ⟨u, r⟩ := ur
    simp [split_of_unit?_eq_some h, (unit?_eq_some h).2]

/-- The longest word of the class at the start of a text, if there is one, and what follows. -/
def word? (k : WordClass) (s : List Char) : Option (List Char × List Char) :=
  match k.split s with
  | ([], _) => none
  | (c :: w, r) => some (c :: w, r)

theorem word?_eq_some_iff {k : WordClass} {s w r : List Char} :
    k.word? s = some (w, r) ↔ k.split s = (w, r) ∧ w ≠ [] := by
  unfold word?
  split
  · next h =>
    rw [h]
    constructor
    · intro h'
      cases h'
    · rintro ⟨h', hw⟩
      cases h'
      exact absurd rfl hw
  · next h =>
    rw [h]
    constructor
    · intro h'
      cases h'
      exact ⟨rfl, by simp⟩
    · rintro ⟨h', -⟩
      cases h'
      rfl

theorem word?_eq_none_iff {k : WordClass} {s : List Char} :
    k.word? s = none ↔ k.unit? s = none := by
  rw [← split_fst_eq_nil_iff]
  unfold word?
  split
  · next h => simp [h]
  · next h => simp [h]

end WordClass

end ShellPipeline
