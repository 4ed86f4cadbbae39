import ShellPipeline.ParseError
import ShellPipeline.Text.Bytes

/-!
# Reading a line token by token

A cursor is a place in a line. `Cursor.next` skips blanks and reads one token in a mode; where no
token begins, the cursor stays behind the blanks, so that reading can go on in another mode.

A token that is not the end of the line brings the cursor nearer to that end
(`length_rest_next_lt`).
-/

namespace ShellPipeline

/-- A token and the byte offset at which it starts. -/
structure Lexeme where
  token : Token
  start : Nat
  deriving DecidableEq, Repr

/-- The byte offset behind a token. -/
def Lexeme.stop (x : Lexeme) : Nat := x.start + Text.byteLength x.token.text.toList

/-- A place in a line. -/
structure Cursor where
  /-- The number of bytes before the place. -/
  offset : Nat
  rest : List Char
  deriving DecidableEq, Repr

namespace Cursor

def start (line : String) : Cursor := ⟨0, line.toList⟩

/-- The place behind the blanks. -/
def skipBlanks (c : Cursor) : Cursor :=
  ⟨c.offset + Text.byteLength (c.rest.takeWhile Text.isBlank), Text.skipBlanks c.rest⟩

/-- The next token in a mode, or why there is none, and the place where reading goes on. -/
def next (c : Cursor) (m : Mode) : Except ParseError Lexeme × Cursor :=
  match Token.scan m c.skipBlanks.rest with
  | .ok (t, r) =>
    let x : Lexeme := ⟨t, c.skipBlanks.offset⟩
    (.ok x, ⟨x.stop, r⟩)
  | .error found => (.error ⟨c.skipBlanks.offset, .unreadable found m⟩, c.skipBlanks)

/-- The answers to reading one token after the other in the given modes, each with the place
where reading goes on. -/
def readAll (c : Cursor) : List Mode → List (Except ParseError Lexeme × Cursor)
  | [] => []
  | m :: modes => c.next m :: (c.next m).2.readAll modes

theorem length_rest_skipBlanks_le (c : Cursor) : c.skipBlanks.rest.length ≤ c.rest.length :=
  Text.length_skipBlanks_le c.rest

theorem next_eq_ok {c c' : Cursor} {m : Mode} {x : Lexeme} (h : c.next m = (.ok x, c')) :
    Token.scan m c.skipBlanks.rest = .ok (x.token, c'.rest) ∧
      x.start = c.skipBlanks.offset ∧ c'.offset = x.stop := by
  unfold next at h
  split at h
  · next hs =>
    cases h
    exact ⟨hs, rfl, rfl⟩
  · cases h

theorem next_eq_error {c c' : Cursor} {m : Mode} {e : ParseError}
    (h : c.next m = (.error e, c')) :
    c' = c.skipBlanks ∧ ∃ found, Token.scan m c.skipBlanks.rest = .error found ∧
      e = ⟨c.skipBlanks.offset, .unreadable found m⟩ := by
  unfold next at h
  split at h
  · cases h
  · next hs =>
    cases h
    exact ⟨rfl, _, hs, rfl⟩

theorem length_rest_next_lt {c c' : Cursor} {m : Mode} {x : Lexeme}
    (h : c.next m = (.ok x, c')) (hx : x.token ≠ .endOfLine) : c'.rest.length < c.rest.length :=
  Nat.lt_of_lt_of_le (Token.length_lt_of_scan (next_eq_ok h).1 hx) c.length_rest_skipBlanks_le

end Cursor

end ShellPipeline
