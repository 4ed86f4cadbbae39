import ShellPipeline.Toml.Quoted

/-!
# Keys of a TOML document

A key is a name, or names joined by dots that lead to a value through tables. A name is bare, or
it is written as a string on one line.
-/

namespace ShellPipeline.Toml

/-- The way to a value: the names of the tables that lead there, and its own name. -/
structure Key where
  parents : List String
  name : String
  deriving DecidableEq, Repr

def Key.names (k : Key) : List String := k.parents ++ [k.name]

/-- The key whose way begins with one more name. -/
def Key.under (k : Key) (parent : String) : Key := { k with parents := parent :: k.parents }

/-- The limit that the number of names in a key and the depth of brackets stay below. -/
def nestingLimit : Nat := 80

def isBareChar (c : Char) : Bool := c.isAlphanum || c == '_' || c == '-'

def readName? (s : List Char) : Option (String × List Char) :=
  match s with
  | '"' :: _ => readLineString? s
  | '\'' :: _ => readLineString? s
  | _ =>
    if (s.takeWhile isBareChar).isEmpty then none
    else some (String.ofList (s.takeWhile isBareChar), s.dropWhile isBareChar)

/-- The names at the start of a text, which are joined by dots with blanks around them; behind
the last one the blanks are skipped too. At most so many are read. -/
def readNames? : Nat → List Char → Option (Key × List Char)
  | 0, _ => none
  | limit + 1, s =>
    match readName? (Text.skipBlanks s) with
    | none => none
    | some (name, r) =>
      match Text.skipBlanks r with
      | '.' :: r' => (readNames? limit r').map fun (key, r'') => (key.under name, r'')
      | r' => some (⟨[], name⟩, r')

/-- The key at the start of a text, and what follows it and the blanks behind it. -/
def readKey? (s : List Char) : Option (Key × List Char) := readNames? (nestingLimit - 1) s

end ShellPipeline.Toml
