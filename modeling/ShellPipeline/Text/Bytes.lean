/-!
# Byte offsets in a text

A text is a list of characters, and a place in it is named by the number of bytes that its UTF-8
form takes up to there.

* `byteLength`: the number of bytes of a text;
* `takeBytes?`: the part before an offset, if the offset lies between two characters;
* `slice?`: the part between two offsets, if both lie between two characters.
-/

namespace ShellPipeline.Text

/-- The number of bytes of a text in UTF-8. -/
def byteLength : List Char → Nat
  | [] => 0
  | c :: s => c.utf8Size + byteLength s

@[simp] theorem byteLength_nil : byteLength [] = 0 := rfl

@[simp] theorem byteLength_cons (c : Char) (s : List Char) :
    byteLength (c :: s) = c.utf8Size + byteLength s := rfl

@[simp] theorem byteLength_append (s t : List Char) :
    byteLength (s ++ t) = byteLength s + byteLength t := by
  induction s with
  | nil => simp
  | cons c s ih => simp [ih, Nat.add_assoc]

theorem length_le_byteLength (s : List Char) : s.length ≤ byteLength s := by
  induction s with
  | nil => simp
  | cons c s ih =>
    have := c.utf8Size_pos
    simp only [List.length_cons, byteLength_cons]
    omega

@[simp] theorem byteLength_eq_zero_iff {s : List Char} : byteLength s = 0 ↔ s = [] := by
  refine ⟨fun h => ?_, fun h => by simp [h]⟩
  have := length_le_byteLength s
  exact List.length_eq_zero_iff.1 (by omega)

/-- The part of a text before a byte offset; none past the end and inside a character. -/
def takeBytes? : List Char → Nat → Option (List Char)
  | _, 0 => some []
  | [], _ + 1 => none
  | c :: s, n => if c.utf8Size ≤ n then (takeBytes? s (n - c.utf8Size)).map (c :: ·) else none

@[simp] theorem takeBytes?_zero (s : List Char) : takeBytes? s 0 = some [] := by
  cases s <;> rfl

theorem takeBytes?_append (p s : List Char) :
    takeBytes? (p ++ s) (byteLength p) = some p := by
  induction p with
  | nil => simp
  | cons c p ih =>
    have hc := c.utf8Size_pos
    rw [List.cons_append, takeBytes?.eq_3 _ _ _ (by simp; omega)]
    simp [ih]

/-- The part of a text between two byte offsets; none if one of them is past the end or inside a
character. -/
def slice? (s : List Char) (m n : Nat) : Option (List Char) :=
  (takeBytes? s n).bind fun q => (takeBytes? q m).map fun p => q.drop p.length

theorem slice?_append (p w r : List Char) :
    slice? (p ++ (w ++ r)) (byteLength p) (byteLength (p ++ w)) = some w := by
  rw [slice?, ← List.append_assoc, takeBytes?_append, Option.bind_some, takeBytes?_append]
  simp

end ShellPipeline.Text
