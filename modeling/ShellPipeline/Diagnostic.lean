import ShellPipeline.ParseError
import ShellPipeline.Text.Bytes

/-!
# Diagnostics

The wording of an error in a line: a message, and a pointer that repeats the line with a caret
under the place.

`Diagnostic.column_of_takeBytes?` says that the caret stands under the character at the offset.
-/

namespace ShellPipeline

inductive ErrorKind
  /-- No token can be read. -/
  | lex
  /-- The tokens do not fit the grammar. -/
  | grammar
  deriving DecidableEq, Repr

def ErrorKind.text : ErrorKind → String
  | .lex => "lex error"
  | .grammar => "syntax error"

/-- An error in words. -/
structure Diagnostic where
  kind : ErrorKind
  offset : Nat
  found : String
  expected : String
  deriving DecidableEq, Repr

namespace Diagnostic

def message (d : Diagnostic) : String :=
  d.kind.text ++ " at offset " ++ d.offset.repr ++ ": expected " ++ d.expected ++ ", found "
    ++ d.found

/-- The column of the caret: the number of characters before the offset, or the offset itself if
it does not lie between two characters of the line. -/
def column (d : Diagnostic) (line : String) : Nat :=
  match Text.takeBytes? line.toList d.offset with
  | some before => before.length
  | none => d.offset

def pointer (d : Diagnostic) (line : String) : String :=
  "  | " ++ line ++ "\n  | " ++ String.ofList (List.replicate (d.column line) ' ') ++ "^"

theorem column_of_takeBytes? {d : Diagnostic} {line : String} {before : List Char}
    (h : Text.takeBytes? line.toList d.offset = some before) : d.column line = before.length := by
  simp [column, h]

end Diagnostic

def ParseError.diagnostic (e : ParseError) : Diagnostic :=
  match e.cause with
  | .unreadable c m => ⟨.lex, e.offset, "`" ++ String.singleton c ++ "`", m.expected.text⟩
  | .unexpected t x => ⟨.grammar, e.offset, t.describe, x.text⟩

def ParseError.message (e : ParseError) : String := e.diagnostic.message

/-- The line with a caret under the place of an error. -/
def ParseError.pointer (e : ParseError) (line : String) : String := e.diagnostic.pointer line

end ShellPipeline
