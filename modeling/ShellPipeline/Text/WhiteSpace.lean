import ShellPipeline.Text.CharRange

/-!
# White space

The Unicode property `White_Space`, and what is read through it: texts with nothing else in them,
and texts with none of it at their ends.

* `isAllWhiteSpace`: no other character is in a text;
* `trim`: a text without the white space at its ends;
* `isAllWhiteSpace_iff_trim_eq_nil`: a blank text is one of which trimming leaves nothing.
-/

namespace ShellPipeline.Text

/-- The code points with the property `White_Space`. -/
def whiteSpaceRanges : List (Nat × Nat) :=
  [(0x9, 0xD), (0x20, 0x20), (0x85, 0x85), (0xA0, 0xA0), (0x1680, 0x1680), (0x2000, 0x200A),
    (0x2028, 0x2029), (0x202F, 0x202F), (0x205F, 0x205F), (0x3000, 0x3000)]

/-- Whether a character has the property `White_Space`. -/
def isWhiteSpace (c : Char) : Bool := inRanges c.toNat whiteSpaceRanges

def isAllWhiteSpace (s : List Char) : Bool := s.all isWhiteSpace

def trimStart (s : List Char) : List Char := s.dropWhile isWhiteSpace

def trimEnd (s : List Char) : List Char := (trimStart s.reverse).reverse

/-- A text without the white space at its ends. -/
def trim (s : List Char) : List Char := trimEnd (trimStart s)

theorem trimStart_eq_nil_iff {s : List Char} : trimStart s = [] ↔ isAllWhiteSpace s = true := by
  induction s with
  | nil => simp [trimStart, isAllWhiteSpace]
  | cons c s ih =>
    rw [trimStart, isAllWhiteSpace, List.dropWhile_cons, List.all_cons]
    cases hc : isWhiteSpace c with
    | true => exact ih
    | false => simp

theorem head_trimStart {s t : List Char} {c : Char} (h : trimStart s = c :: t) :
    isWhiteSpace c = false := by
  induction s with
  | nil => simp [trimStart] at h
  | cons d s ih =>
    rw [trimStart, List.dropWhile_cons] at h
    split at h
    · exact ih h
    · next hd =>
      cases h
      simpa using hd

theorem isAllWhiteSpace_iff_trim_eq_nil {s : List Char} :
    isAllWhiteSpace s = true ↔ trim s = [] := by
  rw [trim, trimEnd, List.reverse_eq_nil_iff, trimStart_eq_nil_iff, ← trimStart_eq_nil_iff]
  constructor
  · intro h
    simp [h, isAllWhiteSpace]
  · intro h
    cases ht : trimStart s with
    | nil => rfl
    | cons c t =>
      have hc := head_trimStart ht
      simp [isAllWhiteSpace, ht, hc] at h

end ShellPipeline.Text
