import ShellPipeline.Token

/-!
# What can be wrong with a line

The error of a line is the first place where it cannot be read on, with the cause: a character
with which no token begins, or a token that the grammar does not take there.
-/

namespace ShellPipeline

/-- What the grammar takes at some place, as messages name it. -/
inductive Expected
  | program
  | filespec
  | argument
  | keyword
  | redirection
  deriving DecidableEq, Repr

def Expected.text : Expected → String
  | .program => "a program name"
  | .filespec => "a filespec"
  | .argument => "an argument, a redirection, `|` or end of input"
  | .keyword => "a here-document keyword"
  | .redirection => "a redirection, `|` or end of input"

/-- What a mode lets be read. -/
def Mode.expected : Mode → Expected
  | .filespec => .filespec
  | .argument => .argument
  | .keyword => .keyword
  | .operator => .redirection

inductive Cause
  /-- No token of the mode begins with the character. -/
  | unreadable (found : Char) (mode : Mode)
  /-- The grammar takes something else than the token. -/
  | unexpected (found : Token) (expected : Expected)
  deriving DecidableEq, Repr

/-- The first place where a line cannot be read on. -/
structure ParseError where
  offset : Nat
  cause : Cause
  deriving DecidableEq, Repr

end ShellPipeline
