import ShellPipeline.Text.Blank

/-!
# The characters of a TOML document

Blanks, line breaks and comments, which stand between the other parts of a document.
-/

namespace ShellPipeline.Toml

/-- A control character other than the tab, which no document holds as it is; line breaks are read
apart. -/
def isControl (c : Char) : Bool := (c.toNat < 0x20 && c != '\t') || c.toNat == 0x7f

/-- What follows the line break at the start of a text. -/
def newline? : List Char → Option (List Char)
  | '\n' :: s => some s
  | '\r' :: '\n' :: s => some s
  | _ => none

/-- What follows the comment at the start of a text, up to its line break; the text itself where
no comment starts. -/
def skipComment : List Char → List Char
  | '#' :: s => s.dropWhile (!isControl ·)
  | s => s

/-- What follows the end of a line: blanks, perhaps a comment, and a line break or the end of the
document. -/
def endOfLine? (s : List Char) : Option (List Char) :=
  match skipComment (Text.skipBlanks s) with
  | [] => some []
  | c :: r => newline? (c :: r)

theorem length_lt_of_newline? {s r : List Char} (h : newline? s = some r) :
    r.length < s.length := by
  unfold newline? at h
  split at h
  · cases h
    exact Nat.lt_succ_self _
  · cases h
    exact Nat.lt_succ_of_lt (Nat.lt_succ_self _)
  · cases h

theorem length_skipComment_le (s : List Char) : (skipComment s).length ≤ s.length := by
  unfold skipComment
  split
  · exact Nat.le_succ_of_le (List.dropWhile_sublist _).length_le
  · exact Nat.le_refl _

/-- A text without the blanks, line breaks and comments at its start. -/
def skipGaps (s : List Char) : List Char :=
  match _h : skipComment (Text.skipBlanks s) with
  | [] => []
  | c :: r =>
    match _h' : newline? (c :: r) with
    | some r' => skipGaps r'
    | none => c :: r
termination_by s.length
decreasing_by
  have h1 := length_lt_of_newline? ‹_›
  have h2 := length_skipComment_le (Text.skipBlanks s)
  have h3 := Text.length_skipBlanks_le s
  rw [‹skipComment (Text.skipBlanks s) = c :: r›] at h2
  omega

end ShellPipeline.Toml
