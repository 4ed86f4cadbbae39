import ShellPipeline.Operator
import ShellPipeline.Word

/-!
# Tokens

A token is an operator, a word of some class or the end of the line. The classes of words overlap,
so a token is read in a mode, which names the classes that are tried, in order; operators are
tried before them in every mode.

`Token.scan` reads the token at the start of a text. The text is the token followed by what is
left (`scan_append`), and only the end of the line leaves as much as there was
(`length_lt_of_scan`).
-/

namespace ShellPipeline

/-- What a token may be beside an operator and the end of the line. -/
inductive Mode
  /-- A program name or the file of a redirection. -/
  | filespec
  | argument
  /-- The delimiter of a here-document; any other word is read too, so that it can be named. -/
  | keyword
  /-- Nothing else; any word is read all the same, so that it can be named. -/
  | operator
  deriving DecidableEq, Repr

/-- The classes of words that are tried in a mode, in order. -/
def Mode.classes : Mode → List WordClass
  | .filespec => [.filespec]
  | .argument => [.argument]
  | .keyword => [.keyword, .argument, .filespec]
  | .operator => [.argument, .filespec]

/-- The mode in which a word of the class is what may come. -/
def WordClass.mode : WordClass → Mode
  | .filespec => .filespec
  | .argument => .argument
  | .keyword => .keyword

/-- A piece of a line. -/
inductive Token
  | operator (op : Operator)
  | word (kind : WordClass) (text : String)
  | endOfLine
  deriving DecidableEq, Repr

namespace Token

def text : Token → String
  | .operator op => op.symbol
  | .word _ text => text
  | .endOfLine => ""

/-- The token as messages name it. -/
def describe : Token → String
  | .endOfLine => "end of input"
  | t => "`" ++ t.text ++ "`"

/-- The word of a class at the start of a text, as a token. -/
def wordOf? (s : List Char) (k : WordClass) : Option (Token × List Char) :=
  (k.word? s).map fun (w, r) => (.word k (String.ofList w), r)

/-- The token at the start of a text that does not begin with a blank, and what follows it. Where
there is none, the first character is to blame. -/
def scan (m : Mode) : List Char → Except Char (Token × List Char)
  | [] => .ok (.endOfLine, [])
  | c :: s =>
    match Operator.split? (c :: s) with
    | some (op, r) => .ok (.operator op, r)
    | none =>
      match m.classes.findSome? (wordOf? (c :: s)) with
      | some found => .ok found
      | none => .error c

theorem wordOf?_eq_some {s r : List Char} {k : WordClass} {t : Token}
    (h : wordOf? s k = some (t, r)) :
    ∃ w, k.split s = (w, r) ∧ w ≠ [] ∧ t = .word k (String.ofList w) := by
  obtain ⟨⟨w, r'⟩, hw, heq⟩ := Option.map_eq_some_iff.1 h
  cases heq
  obtain ⟨hs, hne⟩ := WordClass.word?_eq_some_iff.1 hw
  exact ⟨w, hs, hne, rfl⟩

/-- What a scan may give: the end of an empty text, the operator at its start, or a word of a
class of the mode. -/
theorem scan_eq_ok {m : Mode} {s r : List Char} {t : Token} (h : scan m s = .ok (t, r)) :
    (s = [] ∧ t = .endOfLine ∧ r = []) ∨
      (∃ op, Operator.split? s = some (op, r) ∧ t = .operator op) ∨
      Operator.split? s = none ∧ ∃ k ∈ m.classes, ∃ w,
        k.split s = (w, r) ∧ w ≠ [] ∧ t = .word k (String.ofList w) := by
  unfold scan at h
  split at h
  · cases h
    exact .inl ⟨rfl, rfl, rfl⟩
  · split at h
    · next hop =>
      cases h
      exact .inr (.inl ⟨_, hop, rfl⟩)
    · next hop =>
      split at h
      · next hfind =>
        cases h
        obtain ⟨k, hk, hw⟩ := List.exists_of_findSome?_eq_some hfind
        exact .inr (.inr ⟨hop, k, hk, wordOf?_eq_some hw⟩)
      · cases h

theorem scan_append {m : Mode} {s r : List Char} {t : Token} (h : scan m s = .ok (t, r)) :
    s = t.text.toList ++ r := by
  rcases scan_eq_ok h with ⟨rfl, rfl, rfl⟩ | ⟨op, hop, rfl⟩ | ⟨-, k, -, w, hw, -, rfl⟩
  · rfl
  · exact Operator.split?_eq_some hop
  · have := k.split_append s
    rw [hw] at this
    simp [text, this]

theorem text_ne_nil_of_scan {m : Mode} {s r : List Char} {t : Token}
    (h : scan m s = .ok (t, r)) (ht : t ≠ .endOfLine) : t.text.toList ≠ [] := by
  rcases scan_eq_ok h with ⟨rfl, rfl, rfl⟩ | ⟨op, -, rfl⟩ | ⟨-, k, -, w, -, hw, rfl⟩
  · exact absurd rfl ht
  · exact op.symbol_toList_ne_nil
  · simpa [text] using hw

theorem length_lt_of_scan {m : Mode} {s r : List Char} {t : Token}
    (h : scan m s = .ok (t, r)) (ht : t ≠ .endOfLine) : r.length < s.length := by
  have := List.length_pos_iff.2 (text_ne_nil_of_scan h ht)
  rw [scan_append h, List.length_append]
  omega

end Token

end ShellPipeline
