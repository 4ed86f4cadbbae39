/-!
# JSON

The JSON values that pipelines are written as, and their two forms: on one line, and with one item
a line.

The members of an object are written in the order in which they are listed. A string is written
between quotes, with quotes, backslashes and controls escaped.
-/

namespace ShellPipeline

inductive Json where
  | string (s : String)
  | bool (b : Bool)
  | array (items : List Json)
  | object (members : List (String × Json))

namespace Json

/-- How a character is written in a string. -/
def escapeChar (c : Char) : List Char :=
  match c with
  | '"' => ['\\', '"']
  | '\\' => ['\\', '\\']
  | '\x08' => ['\\', 'b']
  | '\x0c' => ['\\', 'f']
  | '\n' => ['\\', 'n']
  | '\r' => ['\\', 'r']
  | '\t' => ['\\', 't']
  | c =>
    if c.toNat < 0x20 then
      ['\\', 'u', '0', '0', Nat.digitChar (c.toNat / 16), Nat.digitChar (c.toNat % 16)]
    else [c]

def quote (s : String) : String := String.ofList ('"' :: s.toList.flatMap escapeChar ++ ['"'])

def boolText : Bool → String
  | true => "true"
  | false => "false"

mutual

def compact : Json → String
  | .string s => quote s
  | .bool b => boolText b
  | .array items => "[" ++ compactItems items ++ "]"
  | .object members => "\x7b" ++ compactMembers members ++ "\x7d"

/-- The items of an array, set apart by commas. -/
def compactItems : List Json → String
  | [] => ""
  | [v] => compact v
  | v :: items => compact v ++ "," ++ compactItems items

/-- The members of an object, set apart by commas. -/
def compactMembers : List (String × Json) → String
  | [] => ""
  | [(key, v)] => quote key ++ ":" ++ compact v
  | (key, v) :: members => quote key ++ ":" ++ compact v ++ "," ++ compactMembers members

end

/-- A line break and the indent of a depth, two spaces a level. -/
def newline (depth : Nat) : String := String.ofList ('\n' :: List.replicate (2 * depth) ' ')

mutual

/-- A value whose lines after the first are indented by a depth. -/
def prettyAt (depth : Nat) : Json → String
  | .string s => quote s
  | .bool b => boolText b
  | .array [] => "[]"
  | .array items => "[" ++ prettyItems (depth + 1) items ++ newline depth ++ "]"
  | .object [] => "\x7b\x7d"
  | .object members => "\x7b" ++ prettyMembers (depth + 1) members ++ newline depth ++ "\x7d"

/-- The items of an array, each on lines of its own. -/
def prettyItems (depth : Nat) : List Json → String
  | [] => ""
  | [v] => newline depth ++ prettyAt depth v
  | v :: items => newline depth ++ prettyAt depth v ++ "," ++ prettyItems depth items

/-- The members of an object, each on lines of its own. -/
def prettyMembers (depth : Nat) : List (String × Json) → String
  | [] => ""
  | [(key, v)] => newline depth ++ quote key ++ ": " ++ prettyAt depth v
  | (key, v) :: members =>
    newline depth ++ quote key ++ ": " ++ prettyAt depth v ++ "," ++ prettyMembers depth members

end

/-- A value with one item a line. -/
def pretty (v : Json) : String := v.prettyAt 0

end Json

end ShellPipeline
