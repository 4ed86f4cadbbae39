import ShellPipeline.Text.Alphanumeric

/-!
# Paths that name variables

A path may hold references to environment variables, with a default or without, and begin with a
tilde, which stands for the home directory.

* `Template.parse`: a path cut into plain text and references;
* `Template.fill`: the path with the values in place, or the name of a variable that has none;
* `expandHome`: a path with the home directory in place of the tilde.

Values are put in as they are: what they hold is not expanded again.
-/

namespace ShellPipeline

/-- The variables that are set, with their values. -/
abbrev Environment := List (String × String)

def Environment.get? (env : Environment) (name : String) : Option String := env.lookup name

/-- The home directory: the one that a variable names, or else the one that is on record for the
user. -/
def Environment.home? (env : Environment) (onRecord? : Option String) : Option String :=
  ((env.get? "HOME").filter (· ≠ "")).or onRecord?

/-- A path with the home directory, if there is one, in place of a tilde that is the whole path or
its first name. -/
def expandHome (home? : Option String) (path : String) : String :=
  let expanded? := match path.toList with
    | ['~'] => home?
    | '~' :: '/' :: s => home?.map (· ++ String.ofList ('/' :: s))
    | _ => none
  expanded?.getD path

namespace Template

/-- A part of a path: plain text, or a reference to a variable. -/
inductive Piece
  | plain (text : String)
  | reference (name : String) (default : Option String)
  deriving DecidableEq, Repr

/-- The text before the first `:-` and the text behind it. -/
def splitDefault? : List Char → Option (List Char × List Char)
  | ':' :: '-' :: s => some ([], s)
  | c :: s => (splitDefault? s).map fun (name, default) => (c :: name, default)
  | [] => none

/-- The reference between braces. One that begins with `:-` is a name throughout. -/
def braced (body : List Char) : Piece :=
  match splitDefault? body with
  | some (c :: name, default) => .reference (String.ofList (c :: name)) (String.ofList default)
  | _ => .reference (String.ofList body) none

/-- The piece that begins with a dollar sign, given the text behind the sign, and what follows. A
doubled sign stands for one; braces that are not closed, and a sign before anything else than a
name, stand for themselves. -/
def reference (s : List Char) : Piece × List Char :=
  match s with
  | '$' :: r => (.plain "$", r)
  | '\x7b' :: r =>
    match r.dropWhile (· != '\x7d') with
    | _ :: r' => (braced (r.takeWhile (· != '\x7d')), r')
    | [] => (.plain "$\x7b", r)
  | _ =>
    match s.takeWhile Text.isWordChar with
    | [] => (.plain "$", s)
    | name => (.reference (String.ofList name) none, s.dropWhile Text.isWordChar)

theorem length_reference_le (s : List Char) : (reference s).2.length ≤ s.length := by
  unfold reference
  split
  · simp
  · next r =>
    have := (List.dropWhile_sublist (· != '\x7d') (l := r)).length_le
    split
    · next h =>
      rw [h, List.length_cons] at this
      simp only [List.length_cons]
      omega
    · simp
  · split
    · exact Nat.le_refl _
    · exact (List.dropWhile_sublist _).length_le

def parse : List Char → List Piece
  | [] => []
  | '$' :: s => (reference s).1 :: parse (reference s).2
  | c :: s => .plain (String.singleton c) :: parse s
termination_by s => s.length
decreasing_by
  · exact Nat.lt_succ_of_le (length_reference_le s)
  · exact Nat.lt_succ_self _

/-- The names of the variables that pieces refer to. -/
def names (pieces : List Piece) : List String :=
  pieces.filterMap fun
    | .plain _ => none
    | .reference name _ => some name

/-- The text of a piece, or the name of a variable that is not set and has no default. -/
def fillPiece (env : Environment) : Piece → Except String String
  | .plain text => .ok text
  | .reference name default =>
    match env.get? name, default with
    | some value, _ => .ok value
    | none, some text => .ok text
    | none, none => .error name

/-- The path with the values of the variables in place, or the name of the first one that is not
set and has no default. -/
def fill (env : Environment) (pieces : List Piece) : Except String String :=
  (pieces.mapM (fillPiece env)).map String.join

end Template

end ShellPipeline
