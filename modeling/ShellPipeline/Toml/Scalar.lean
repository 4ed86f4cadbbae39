import ShellPipeline.Toml.Value

/-!
# Numbers, times and truth values in a TOML document

What is written without quotes and brackets is one run of letters, digits and the signs that
numbers and times hold; only between a date and a time may a space stand instead of a letter.
`Value.ofRun?` says what value such a run writes, if it writes one.
-/

namespace ShellPipeline.Toml

/-- Whether a character may be part of a number, a time or a truth value. -/
def isRunChar (c : Char) : Bool :=
  c.isAlphanum || c == '+' || c == '-' || c == '_' || c == '.' || c == ':'

/-! ## Numbers -/

def isHexDigit (c : Char) : Bool :=
  c.isDigit || ('a' ≤ c && c ≤ 'f') || ('A' ≤ c && c ≤ 'F')

/-- The digits of a text that is made of digits and of single underscores between two of them. -/
def digits? (isDigit : Char → Bool) : List Char → Option (List Char)
  | [] => none
  | [c] => if isDigit c then some [c] else none
  | c :: '_' :: s => if isDigit c then (digits? isDigit s).map (c :: ·) else none
  | c :: d :: s => if isDigit c then (digits? isDigit (d :: s)).map (c :: ·) else none

/-- The digits of a decimal number, which has no leading zero. -/
def decimalDigits? (s : List Char) : Option (List Char) :=
  match digits? Char.isDigit s with
  | some ('0' :: _ :: _) => none
  | ds => ds

def ofDigits (base : Nat) (ds : List Char) : Nat :=
  ds.foldl (fun n c => base * n + "0123456789abcdef".toList.idxOf c.toLower) 0

/-- Whether a number begins with a minus, and the text without its sign. -/
def splitSign : List Char → Bool × List Char
  | '-' :: s => (true, s)
  | '+' :: s => (false, s)
  | s => (false, s)

/-- The greatest magnitude of an integer that is not negative, one less than of a negative one. -/
def maxInteger : Nat := Nat.pow 2 63 - 1

/-- Whether digits that are read in a base are those of an integer in range. -/
def isMagnitude (base : Nat) (limit : Nat) : Option (List Char) → Bool
  | some ds => ofDigits base ds ≤ limit
  | none => false

/-- Whether a run writes an integer in range: in base sixteen, eight or two without a sign, or in
base ten. -/
def isInteger (run : List Char) : Bool :=
  match run with
  | '0' :: 'x' :: s => isMagnitude 16 maxInteger (digits? isHexDigit s)
  | '0' :: 'o' :: s => isMagnitude 8 maxInteger (digits? (fun c => '0' ≤ c && c ≤ '7') s)
  | '0' :: 'b' :: s => isMagnitude 2 maxInteger (digits? (fun c => c == '0' || c == '1') s)
  | _ =>
    let (negative, s) := splitSign run
    isMagnitude 10 (if negative then maxInteger + 1 else maxInteger) (decimalDigits? s)

/-- Whether a decimal, its digits times a power of ten, is too great for the nearest double to be
finite: the halfway point to the first power of two beyond the doubles rounds up. -/
def overflowsDouble (digits : List Char) (exponent : Int) : Bool :=
  let digits := digits.dropWhile (· == '0')
  let n := ofDigits 10 digits
  let scale := exponent + digits.length
  if n = 0 || scale < 309 then false
  else if 310 < scale then true
  else
    let limit := Nat.pow 2 1024 - Nat.pow 2 970
    match exponent with
    | .ofNat e => limit ≤ n * Nat.pow 10 e
    | .negSucc e => limit * Nat.pow 10 (e + 1) ≤ n

/-- The exponent that a text behind its letter writes. -/
def exponent? (s : List Char) : Option Int :=
  let (negative, s) := splitSign s
  (digits? Char.isDigit s).map fun ds =>
    let n : Int := ofDigits 10 ds
    if negative then -n else n

/-- Whether a run writes a number with a fraction, an exponent or both, which the doubles reach;
or an infinity or what is no number. -/
def isFloat (run : List Char) : Bool :=
  let (negative, s) := splitSign run
  if s = "inf".toList || s = "nan".toList then true
  else
    let isMark : Char → Bool := fun c => c == 'e' || c == 'E'
    let mantissa := s.takeWhile (!isMark ·)
    let whole := mantissa.takeWhile (· != '.')
    let fraction? : Option (List Char) :=
      match mantissa.dropWhile (· != '.') with
      | [] => some []
      | _ :: f => digits? Char.isDigit f
    let exponent? : Option Int :=
      match s.dropWhile (!isMark ·) with
      | [] => some 0
      | _ :: e => exponent? e
    match decimalDigits? whole, fraction?, exponent? with
    | some w, some f, some e =>
      whole.length < s.length && (negative || !overflowsDouble (w ++ f) (e - f.length))
    | _, _, _ => false

/-! ## Dates and times -/

def twoDigits? (a b : Char) : Option Nat :=
  if a.isDigit && b.isDigit then some (ofDigits 10 [a, b]) else none

def daysInMonth (year month : Nat) : Nat :=
  if month = 2 then
    if year % 4 = 0 && (year % 100 != 0 || year % 400 = 0) then 29 else 28
  else if month = 4 || month = 6 || month = 9 || month = 11 then 30
  else 31

def date? : List Char → Option (List Char)
  | y :: y' :: y'' :: y''' :: '-' :: m :: m' :: '-' :: d :: d' :: s => do
    let century ← twoDigits? y y'
    let years ← twoDigits? y'' y'''
    let month ← twoDigits? m m'
    let day ← twoDigits? d d'
    guard (1 ≤ month && month ≤ 12 && 1 ≤ day && day ≤ daysInMonth (100 * century + years) month)
    return s
  | _ => none

/-- What follows the fraction of a second at the start of a run. -/
def fraction? : List Char → Option (List Char)
  | '.' :: s => if (s.takeWhile Char.isDigit).isEmpty then none else some (s.dropWhile Char.isDigit)
  | s => some s

def time? : List Char → Option (List Char)
  | h :: h' :: ':' :: m :: m' :: ':' :: s :: s' :: r => do
    let hour ← twoDigits? h h'
    let minute ← twoDigits? m m'
    let second ← twoDigits? s s'
    guard (hour ≤ 23 && minute ≤ 59 && second ≤ 60)
    fraction? r
  | _ => none

/-- Whether a text is the offset of a time, or nothing. -/
def isOffset : List Char → Bool
  | [] => true
  | ['Z'] => true
  | ['z'] => true
  | [sign, h, h', ':', m, m'] =>
    (sign == '+' || sign == '-') &&
      match twoDigits? h h', twoDigits? m m' with
      | some hour, some minute => hour ≤ 23 && minute ≤ 59
      | _, _ => false
  | _ => false

/-- Whether a run writes a time of day, perhaps with an offset. -/
def isOffsetTime (run : List Char) : Bool :=
  match time? run with
  | some r => isOffset r
  | none => false

/-- Whether a run writes a date, a time of day, or both. -/
def isDateTime (run : List Char) : Bool :=
  match date? run with
  | some [] => true
  | some (c :: s) => (c == 'T' || c == 't') && isOffsetTime s
  | none => time? run == some []

/-! ## Values -/

def Value.ofRun? (run : List Char) : Option Value :=
  if run = "true".toList then some (.boolean true)
  else if run = "false".toList then some (.boolean false)
  else if isDateTime run then some (.dateTime (String.ofList run))
  else if isInteger run then some (.integer (String.ofList run))
  else if isFloat run then some (.float (String.ofList run))
  else none

/-- The number, time or truth value at the start of a text, and what follows it. -/
def readRun? (s : List Char) : Option (Value × List Char) :=
  let run := s.takeWhile isRunChar
  let rest := s.dropWhile isRunChar
  let alone := (Value.ofRun? run).map (·, rest)
  match date? run, rest with
  | some [], ' ' :: r =>
    let time := r.takeWhile isRunChar
    if isOffsetTime time then
      some (.dateTime (String.ofList (run ++ ' ' :: time)), r.dropWhile isRunChar)
    else alone
  | _, _ => alone

end ShellPipeline.Toml
