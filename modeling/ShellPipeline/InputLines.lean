import ShellPipeline.Text.WhiteSpace

/-!
# Lines of a byte stream

A stream of bytes is cut behind each line feed. What ends a line is dropped, lines of white space
are passed over, and reading stops at the first line that is not UTF-8.
-/

namespace ShellPipeline

/-- The lines that a stream holds up to the first one that is not UTF-8. -/
structure InputLines where
  lines : List String
  /-- Whether every line was UTF-8. -/
  decoded : Bool
  deriving DecidableEq, Repr

namespace InputLines

def lineFeed : UInt8 := 10

/-- Puts a byte in front of the first line; it is a line of its own if it ends one. -/
def consByte (b : UInt8) (lines : List (List UInt8)) : List (List UInt8) :=
  if b = lineFeed then [b] :: lines
  else
    match lines with
    | [] => [[b]]
    | line :: rest => (b :: line) :: rest

/-- Cuts bytes behind each line feed. -/
def cut (bytes : List UInt8) : List (List UInt8) := bytes.foldr consByte []

/-- A text that is reversed, without the carriage return at its end. -/
def dropReturn : List Char → List Char
  | '\r' :: s => s
  | s => s

/-- A line without what ends it: one carriage return, or a line feed with the two carriage
returns that may stand before it. -/
def dropEnd (line : List Char) : List Char :=
  match line.reverse with
  | '\n' :: s => (dropReturn (dropReturn s)).reverse
  | s => (dropReturn s).reverse

/-- The text of a line of bytes, if it is UTF-8. -/
def decode? (line : List UInt8) : Option (List Char) :=
  (String.fromUTF8? ⟨line.toArray⟩).map fun text => dropEnd text.toList

/-- The lines with one more in front, unless it is white space. -/
def consLine (line : List Char) (rest : InputLines) : InputLines :=
  if Text.isAllWhiteSpace line then rest
  else { rest with lines := String.ofList line :: rest.lines }

/-- Decodes lines up to the first one that is not UTF-8. -/
def ofCut : List (List UInt8) → InputLines
  | [] => ⟨[], true⟩
  | line :: rest =>
    match decode? line with
    | none => ⟨[], false⟩
    | some text => consLine text (ofCut rest)

def ofBytes (bytes : List UInt8) : InputLines := ofCut (cut bytes)

end InputLines

end ShellPipeline
