import ShellPipeline.Text.Pieces
import ShellPipeline.Toml.Lexical

/-!
# Strings in a TOML document

A string is written in one of four forms: between double quotes, where backslashes escape, or
between single quotes, where nothing does; and each of them on one line, or between tripled quotes
on several.

* `readString?`: the string at the start of a text;
* `quote`: a form of a string, chosen for the characters that it holds.
-/

namespace ShellPipeline.Toml

/-! ## Reading -/

def hexValue? (c : Char) : Option Nat :=
  let n := c.toNat
  if 0x30 ≤ n && n ≤ 0x39 then some (n - 0x30)
  else if 0x41 ≤ n && n ≤ 0x46 then some (n - 0x41 + 10)
  else if 0x61 ≤ n && n ≤ 0x66 then some (n - 0x61 + 10)
  else none

/-- The number that so many hexadecimal digits at the start of a text write, and what follows. -/
def hexNumber? : Nat → Nat → List Char → Option (Nat × List Char)
  | 0, value, s => some (value, s)
  | _ + 1, _, [] => none
  | digits + 1, value, c :: s =>
    match hexValue? c with
    | none => none
    | some d => hexNumber? digits (16 * value + d) s

/-- The character whose code point so many hexadecimal digits write, and what follows. -/
def codePoint? (digits : Nat) (s : List Char) : Option (List Char × List Char) :=
  match hexNumber? digits 0 s with
  | none => none
  | some (n, r) => if n.isValidChar then some ([Char.ofNat n], r) else none

/-- The character that an escape of one letter stands for. -/
def letterEscape? : Char → Option Char
  | 'b' => some '\x08'
  | 't' => some '\t'
  | 'n' => some '\n'
  | 'f' => some '\x0c'
  | 'r' => some '\r'
  | '"' => some '"'
  | '\\' => some '\\'
  | _ => none

/-- The character that an escape stands for, given the text behind the backslash. -/
def escape? : List Char → Option (List Char × List Char)
  | [] => none
  | c :: s =>
    if c == 'u' then codePoint? 4 s
    else if c == 'U' then codePoint? 8 s
    else (letterEscape? c).map fun d => ([d], s)

/-- A text without the blanks and line breaks at its start. -/
def skipBlankLines : List Char → List Char
  | '\r' :: '\n' :: s => skipBlankLines s
  | c :: s => if Text.isBlank c || c == '\n' then skipBlankLines s else c :: s
  | [] => []

/-- What follows a line break that is escaped, together with the blank lines behind it, given the
text behind the backslash. -/
def continuation? (s : List Char) : Option (List Char) :=
  (newline? (Text.skipBlanks s)).map skipBlankLines

/-- The piece of a string on one line between the given quotes. -/
def linePiece? (quote : Char) (escapes : Bool) : List Char → Option (List Char × List Char)
  | [] => none
  | c :: s =>
    if c == quote || isControl c then none
    else if escapes && c == '\\' then escape? s
    else some ([c], s)

/-- The quotes at the start of a text that belong to a string between tripled quotes: a run of one
or two, or what a run of four or five holds beyond the closing three. -/
def innerQuotes (quote : Char) (s : List Char) : Nat :=
  match (s.takeWhile (· == quote)).length with
  | 1 => 1
  | 2 => 2
  | 4 => 1
  | 5 => 2
  | _ => 0

/-- The piece of a string on several lines between the given quotes. -/
def blockPiece? (quote : Char) (escapes : Bool) (s : List Char) :
    Option (List Char × List Char) :=
  match newline? s with
  | some r => some (['\n'], r)
  | none =>
    match s with
    | [] => none
    | c :: r =>
      if c == quote then
        match innerQuotes quote s with
        | 0 => none
        | n + 1 => some (List.replicate (n + 1) quote, r.drop n)
      else if escapes && c == '\\' then
        match continuation? r with
        | some r' => some ([], r')
        | none => escape? r
      else if isControl c then none
      else some ([c], r)

theorem length_le_of_hexNumber? {digits value n : Nat} {s r : List Char}
    (h : hexNumber? digits value s = some (n, r)) : r.length ≤ s.length := by
  induction digits generalizing value s with
  | zero => cases h; exact Nat.le_refl _
  | succ k ih =>
    cases s with
    | nil => cases h
    | cons c s =>
      rw [hexNumber?] at h
      split at h
      · cases h
      · exact Nat.le_succ_of_le (ih h)

theorem length_le_of_codePoint? {digits : Nat} {s t r : List Char}
    (h : codePoint? digits s = some (t, r)) : r.length ≤ s.length := by
  unfold codePoint? at h
  split at h
  · cases h
  · next hn =>
    split at h <;> cases h
    exact length_le_of_hexNumber? hn

theorem length_lt_of_escape? {s t r : List Char} (h : escape? s = some (t, r)) :
    r.length < s.length := by
  unfold escape? at h
  split at h
  · cases h
  · split at h
    · exact Nat.lt_succ_of_le (length_le_of_codePoint? h)
    · split at h
      · exact Nat.lt_succ_of_le (length_le_of_codePoint? h)
      · obtain ⟨d, -, hd⟩ := Option.map_eq_some_iff.1 h
        cases hd
        exact Nat.lt_succ_self _

theorem length_skipBlankLines_le (s : List Char) : (skipBlankLines s).length ≤ s.length := by
  fun_induction skipBlankLines s with
  | case1 s ih => simp only [List.length_cons]; omega
  | case2 c s _ _ ih => simp only [List.length_cons]; omega
  | case3 => exact Nat.le_refl _
  | case4 => exact Nat.le_refl _

theorem length_lt_of_continuation? {s r : List Char} (h : continuation? s = some r) :
    r.length < s.length := by
  obtain ⟨r', hr', rfl⟩ := Option.map_eq_some_iff.1 h
  have h1 := length_lt_of_newline? hr'
  have h2 := Text.length_skipBlanks_le s
  have h3 := length_skipBlankLines_le r'
  omega

theorem length_lt_of_linePiece? {quote : Char} {escapes : Bool} {s t r : List Char}
    (h : linePiece? quote escapes s = some (t, r)) : r.length < s.length := by
  unfold linePiece? at h
  split at h
  · cases h
  · split at h
    · cases h
    · split at h
      · exact Nat.lt_succ_of_lt (length_lt_of_escape? h)
      · cases h
        exact Nat.lt_succ_self _

theorem length_lt_of_blockPiece? {quote : Char} {escapes : Bool} {s t r : List Char}
    (h : blockPiece? quote escapes s = some (t, r)) : r.length < s.length := by
  unfold blockPiece? at h
  split at h
  · next hnl =>
    cases h
    exact length_lt_of_newline? hnl
  · split at h
    · cases h
    · split at h
      · split at h <;> cases h
        rw [List.length_drop, List.length_cons]
        omega
      · split at h
        · split at h
          · next hc =>
            cases h
            exact Nat.lt_succ_of_lt (length_lt_of_continuation? hc)
          · exact Nat.lt_succ_of_lt (length_lt_of_escape? h)
        · split at h <;> cases h
          exact Nat.lt_succ_self _

def linePieces (quote : Char) (escapes : Bool) : Text.PieceReader :=
  ⟨linePiece? quote escapes, length_lt_of_linePiece?⟩

def blockPieces (quote : Char) (escapes : Bool) : Text.PieceReader :=
  ⟨blockPiece? quote escapes, length_lt_of_blockPiece?⟩

/-- The string of a body that ends with one quote. -/
def closeLine? (quote : Char) : List Char × List Char → Option (String × List Char)
  | (body, c :: r) => if c == quote then some (String.ofList body, r) else none
  | (_, []) => none

/-- The string of a body that ends with three quotes. -/
def closeBlock? (quote : Char) : List Char × List Char → Option (String × List Char)
  | (body, c :: d :: e :: r) =>
    if c == quote && d == quote && e == quote then some (String.ofList body, r) else none
  | _ => none

/-- A body without the line break that may follow tripled quotes. -/
def dropFirstNewline (s : List Char) : List Char := (newline? s).getD s

/-- The string at the start of a text that begins with a quote, and what follows it. -/
def readString? : List Char → Option (String × List Char)
  | '"' :: '"' :: '"' :: s =>
    closeBlock? '"' ((blockPieces '"' true).readAll (dropFirstNewline s))
  | '"' :: s => closeLine? '"' ((linePieces '"' true).readAll s)
  | '\'' :: '\'' :: '\'' :: s =>
    closeBlock? '\'' ((blockPieces '\'' false).readAll (dropFirstNewline s))
  | '\'' :: s => closeLine? '\'' ((linePieces '\'' false).readAll s)
  | _ => none

/-- The string on one line at the start of a text that begins with a quote, and what follows it:
keys are written in no other form. -/
def readLineString? : List Char → Option (String × List Char)
  | '"' :: s => closeLine? '"' ((linePieces '"' true).readAll s)
  | '\'' :: s => closeLine? '\'' ((linePieces '\'' false).readAll s)
  | _ => none

/-! ## Writing -/

/-- The upper-case hexadecimal digit of a number below sixteen. -/
def upperHexDigit (n : Nat) : Char := (Nat.digitChar n).toUpper

/-- How a character other than a quote and a line break is written between double quotes. -/
def escapeChar (c : Char) : List Char :=
  match c with
  | '\\' => ['\\', '\\']
  | '\x08' => ['\\', 'b']
  | '\t' => ['\\', 't']
  | '\x0c' => ['\\', 'f']
  | '\r' => ['\\', 'r']
  | c =>
    if isControl c then
      ['\\', 'u', '0', '0', upperHexDigit (c.toNat / 16), upperHexDigit (c.toNat % 16)]
    else [c]

/-- How a character is written between double quotes on one line. -/
def escapeLineChar (c : Char) : List Char :=
  match c with
  | '"' => ['\\', '"']
  | '\n' => ['\\', 'n']
  | c => escapeChar c

/-- How a text is written between tripled double quotes, where so many quotes precede it: the
third of a run is escaped, and the count begins anew. -/
def escapeBlock : Nat → List Char → List Char
  | _, [] => []
  | quotes, c :: s =>
    match c with
    | '"' =>
      if quotes = 2 then '\\' :: '"' :: escapeBlock 0 s else '"' :: escapeBlock (quotes + 1) s
    | '\n' => '\n' :: escapeBlock 0 s
    | c => escapeChar c ++ escapeBlock 0 s

/-- Whether a text holds three of a character in a row. -/
def hasTriple (q : Char) : List Char → Bool
  | a :: b :: c :: s => (a == q && b == q && c == q) || hasTriple q (b :: c :: s)
  | _ => false

/-- Whether a text holds a control character that only an escape can write. -/
def needsEscape (s : List Char) : Bool := s.any fun c => isControl c && c != '\n'

def quoteLine (s : List Char) : List Char := '"' :: s.flatMap escapeLineChar ++ ['"']

def quoteLiteral (s : List Char) : List Char := '\'' :: s ++ ['\'']

/-- The line break behind tripled quotes, which is written where the text has lines. -/
def blockOpening (s : List Char) : List Char := if s.contains '\n' then ['\n'] else []

def quoteBlock (s : List Char) : List Char :=
  ['"', '"', '"'] ++ blockOpening s ++ escapeBlock 0 s ++ ['"', '"', '"']

def quoteLiteralBlock (s : List Char) : List Char :=
  ['\'', '\'', '\''] ++ blockOpening s ++ s ++ ['\'', '\'', '\'']

/-- A text as a string of a document: in double quotes if nothing but tabs has to be escaped, else
without escapes if a form admits that, and with them otherwise. -/
def quoteChars (s : List Char) : List Char :=
  if needsEscape s then
    if s.contains '\n' then quoteBlock s else quoteLine s
  else if !(s.contains '\\' || s.contains '"' || s.contains '\n') then quoteLine s
  else if !(s.contains '\'' || s.contains '\n') then quoteLiteral s
  else if !(s.contains '\\' || hasTriple '"' s) then quoteBlock s
  else if !(hasTriple '\'' s) then quoteLiteralBlock s
  else if s.contains '\n' then quoteBlock s
  else quoteLine s

def quote (s : String) : String := String.ofList (quoteChars s.toList)

end ShellPipeline.Toml
