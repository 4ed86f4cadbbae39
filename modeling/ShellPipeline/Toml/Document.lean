import ShellPipeline.Toml.Scalar
import ShellPipeline.Toml.Table

/-!
# TOML documents

`Toml.parse?` reads a document as the table of its values; there is none if the document does not
keep to TOML 1.0.
-/

namespace ShellPipeline.Toml

/-! ## Values -/

/-- The items of an array up to its bracket, and what follows it. Line breaks and comments may
stand between items, and a comma behind the last one. -/
def readItems? (item? : List Char → Option (Value × List Char)) (s : List Char) :
    Option (List Value × List Char) :=
  match skipGaps s with
  | ']' :: r => some ([], r)
  | s' =>
    match item? s' with
    | none => none
    | some (v, r) =>
      match skipGaps r with
      | ']' :: r' => some ([v], r')
      | ',' :: r' =>
        if r'.length < s.length then
          (readItems? item? r').map fun (items, r'') => (v :: items, r'')
        else none
      | _ => none
termination_by s.length

/-- A key and its value at the start of a text, and what follows them and the blanks behind. -/
def readPair? (value? : List Char → Option (Value × List Char)) (s : List Char) :
    Option ((Key × Value) × List Char) :=
  match readKey? s with
  | some (key, '=' :: r) =>
    (value? (Text.skipBlanks r)).map fun (v, r') => ((key, v), Text.skipBlanks r')
  | _ => none

/-- The pairs of a table up to its brace, of which there is at least one, and what follows it. -/
def readPairs? (value? : List Char → Option (Value × List Char)) (s : List Char) :
    Option (List (Key × Value) × List Char) :=
  match readPair? value? s with
  | some (pair, '\x7d' :: r) => some ([pair], r)
  | some (pair, ',' :: r) =>
    if r.length < s.length then
      (readPairs? value? r).map fun (pairs, r') => (pair :: pairs, r')
    else none
  | _ => none
termination_by s.length

/-- The table between braces at the start of a text behind the opening brace. -/
def readTable? (value? : List Char → Option (Value × List Char)) (s : List Char) :
    Option (Value × List Char) :=
  match Text.skipBlanks s with
  | '\x7d' :: r => some (.table .closed [], r)
  | s' =>
    match readPairs? value? s' with
    | none => none
    | some (pairs, r) => (Entries.ofPairs? pairs).map fun entries => (.table .closed entries, r)

/-- The value at the start of a text, whose brackets are nested to at most the given depth, and
what follows it. -/
def readValue? : Nat → List Char → Option (Value × List Char)
  | depth, s =>
    match s with
    | '"' :: _ => (readString? s).map fun (text, r) => (.string text, r)
    | '\'' :: _ => (readString? s).map fun (text, r) => (.string text, r)
    | '[' :: r =>
      match depth with
      | 0 => none
      | depth + 1 => (readItems? (readValue? depth) r).map fun (items, r') => (.array items, r')
    | '\x7b' :: r =>
      match depth with
      | 0 => none
      | depth + 1 => readTable? (readValue? depth) r
    | _ => readRun? s

/-! ## Statements -/

/-- The key of a header, up to the given closing bracket. -/
def readHeader? (close : List Char) (s : List Char) : Option (Key × List Char) :=
  match readKey? s with
  | none => none
  | some (key, r) => (close.isPrefixOf? r).map (key, ·)

/-- The statement at the start of a text, and what follows it. -/
def readStatement? (s : List Char) : Option (Statement × List Char) :=
  match s with
  | '[' :: '[' :: r => (readHeader? [']', ']'] r).map fun (key, r') => (.tables key, r')
  | '[' :: r => (readHeader? [']'] r).map fun (key, r') => (.table key, r')
  | _ =>
    (readPair? (readValue? (nestingLimit - 1)) s).map fun ((key, v), r) => (.pair key v, r)

/-- Whether a line holds no statement: it is empty up to a comment. -/
def beginsNoStatement (s : List Char) : Bool :=
  match s with
  | [] => true
  | c :: _ => c == '#' || c == '\n' || c == '\r'

/-- The statements of a document, one a line. -/
def readStatements? (s : List Char) : Option (List Statement) :=
  match Text.skipBlanks s with
  | [] => some []
  | c :: s' =>
    let line? : Option (List Statement × List Char) :=
      if beginsNoStatement (c :: s') then some ([], c :: s')
      else (readStatement? (c :: s')).map fun (statement, r) => ([statement], r)
    match line? with
    | none => none
    | some (statements, r) =>
      match endOfLine? r with
      | none => none
      | some r' =>
        if r'.length < s.length then (readStatements? r').map (statements ++ ·) else none
termination_by s.length

/-- A document without the mark of its byte order. -/
def dropByteOrderMark : List Char → List Char
  | '\uFEFF' :: s => s
  | s => s

def parse? (document : String) : Option Entries :=
  (readStatements? (dropByteOrderMark document.toList)).bind Entries.ofStatements?

end ShellPipeline.Toml
