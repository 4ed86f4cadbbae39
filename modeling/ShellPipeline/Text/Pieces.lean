/-!
# Texts read piece by piece

A text with an inner notation, such as escapes, is read one piece after the other as long as a
piece stands there.

* `PieceReader`: how one piece is read; a piece takes up some of the text;
* `PieceReader.readAll`: what all pieces stand for, and what follows them.
-/

namespace ShellPipeline.Text

/-- How the piece at the start of a text is read: what it stands for, and what follows it. -/
structure PieceReader where
  read? : List Char → Option (List Char × List Char)
  length_lt : ∀ {s t r : List Char}, read? s = some (t, r) → r.length < s.length

namespace PieceReader

/-- What the pieces at the start of a text stand for, and what follows them. -/
def readAll (p : PieceReader) (s : List Char) : List Char × List Char :=
  match _h : p.read? s with
  | none => ([], s)
  | some (t, r) => (t ++ (p.readAll r).1, (p.readAll r).2)
termination_by s.length
decreasing_by all_goals exact p.length_lt ‹_›

theorem readAll_of_eq_none {p : PieceReader} {s : List Char} (h : p.read? s = none) :
    p.readAll s = ([], s) := by
  rw [readAll]
  split
  · rfl
  · next h' => rw [h] at h'; cases h'

theorem readAll_of_eq_some {p : PieceReader} {s t r : List Char} (h : p.read? s = some (t, r)) :
    p.readAll s = (t ++ (p.readAll r).1, (p.readAll r).2) := by
  rw [readAll]
  split
  · next h' => rw [h] at h'; cases h'
  · next h' => rw [h] at h'; cases h'; rfl

end PieceReader

end ShellPipeline.Text
