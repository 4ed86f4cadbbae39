import ShellPipeline.Redirection

/-!
# The redirections of a stage

A stage has at most one redirection for each stream. Of several for the same stream the first
one counts, whatever their files and flags.

`RedirectionSet.get?` is the view of a set; the lemmas `get?_empty`, `get?_insert_self` and
`get?_insert_of_ne` say what each operation does to it, and `ext` that it determines the set.
-/

namespace ShellPipeline

/-- At most one redirection for each stream. -/
structure RedirectionSet where
  output : Option Target
  error : Option Target
  input : Option Target
  deriving DecidableEq, Repr

namespace RedirectionSet

/-- The set of a stage that reroutes nothing. -/
def empty : RedirectionSet := ⟨none, none, none⟩

def target? (set : RedirectionSet) : Stream → Option Target
  | .output => set.output
  | .error => set.error
  | .input => set.input

def get? (set : RedirectionSet) (s : Stream) : Option Redirection := (set.target? s).map (⟨·, s⟩)

def contains (set : RedirectionSet) (s : Stream) : Bool := (set.target? s).isSome

/-- The set with the redirection in the place of its stream. -/
def put (set : RedirectionSet) (r : Redirection) : RedirectionSet :=
  match r.stream with
  | .output => { set with output := some r.toTarget }
  | .error => { set with error := some r.toTarget }
  | .input => { set with input := some r.toTarget }

/-- The set with one more redirection, unless its stream is already rerouted. -/
def insert (set : RedirectionSet) (r : Redirection) : RedirectionSet :=
  if set.contains r.stream then set else set.put r

/-- Whether the redirection is retained when it is inserted. -/
def retains (set : RedirectionSet) (r : Redirection) : Bool := !set.contains r.stream

/-- The set of the first redirection for each stream in a list. -/
def ofList (rs : List Redirection) : RedirectionSet := rs.foldl insert empty

/-- The redirections in the order of their streams. -/
def toList (set : RedirectionSet) : List Redirection := Stream.all.filterMap set.get?

def size (set : RedirectionSet) : Nat := set.toList.length

def isEmpty (set : RedirectionSet) : Bool := set.toList.isEmpty

def describe (set : RedirectionSet) : String := ", ".intercalate (set.toList.map (·.describe))

/-! ## The view -/

theorem contains_eq_isSome_get? (set : RedirectionSet) (s : Stream) :
    set.contains s = (set.get? s).isSome := by
  simp [contains, get?]

theorem stream_of_get? {set : RedirectionSet} {s : Stream} {r : Redirection}
    (h : set.get? s = some r) : r.stream = s := by
  obtain ⟨t, -, rfl⟩ := Option.map_eq_some_iff.1 h
  rfl

@[simp] theorem get?_empty (s : Stream) : empty.get? s = none := by cases s <;> rfl

theorem get?_put_self (set : RedirectionSet) (r : Redirection) :
    (set.put r).get? r.stream = some r := by
  obtain ⟨t, _ | _ | _⟩ := r <;> rfl

theorem get?_put_of_ne (set : RedirectionSet) {r : Redirection} {s : Stream} (h : r.stream ≠ s) :
    (set.put r).get? s = set.get? s := by
  obtain ⟨t, s'⟩ := r
  cases s' <;> cases s <;> simp_all [put, get?, target?]

theorem insert_of_contains {set : RedirectionSet} {r : Redirection}
    (h : set.contains r.stream = true) : set.insert r = set := by
  simp [insert, h]

theorem get?_insert_self (set : RedirectionSet) (r : Redirection) :
    (set.insert r).get? r.stream = some ((set.get? r.stream).getD r) := by
  cases h : set.get? r.stream with
  | none => simp [insert, contains_eq_isSome_get?, h, get?_put_self]
  | some q => simp [insert, contains_eq_isSome_get?, h]

theorem get?_insert_of_ne (set : RedirectionSet) {r : Redirection} {s : Stream}
    (h : r.stream ≠ s) : (set.insert r).get? s = set.get? s := by
  unfold insert
  split
  · rfl
  · exact get?_put_of_ne set h

theorem insert_ne_empty (set : RedirectionSet) (r : Redirection) : set.insert r ≠ empty := by
  intro h
  have hself := get?_insert_self set r
  rw [h, get?_empty] at hself
  cases hself

@[ext] theorem ext {set set' : RedirectionSet} (h : ∀ s, set.get? s = set'.get? s) :
    set = set' := by
  have key : ∀ s, set.target? s = set'.target? s := by
    intro s
    have hs := congrArg (Option.map Redirection.toTarget) (h s)
    simpa [get?, Function.comp_def] using hs
  obtain ⟨o, e, i⟩ := set
  obtain ⟨o', e', i'⟩ := set'
  have ho := key .output
  have he := key .error
  have hi := key .input
  simp only [target?] at ho he hi
  rw [ho, he, hi]

theorem ofList_concat (rs : List Redirection) (r : Redirection) :
    ofList (rs ++ [r]) = (ofList rs).insert r := by
  simp [ofList]

theorem ofList_eq_empty_iff {rs : List Redirection} : ofList rs = empty ↔ rs = [] := by
  constructor
  · intro h
    rcases List.eq_nil_or_concat rs with hrs | ⟨rs, r, rfl⟩
    · exact hrs
    · rw [List.concat_eq_append, ofList_concat] at h
      exact absurd h (insert_ne_empty _ r)
  · rintro rfl
    rfl

theorem isEmpty_iff {set : RedirectionSet} : set.isEmpty = true ↔ set = empty := by
  obtain ⟨_ | _, _ | _, _ | _⟩ := set <;> simp [isEmpty, toList, Stream.all, get?, target?, empty]

theorem mem_toList_iff {set : RedirectionSet} {r : Redirection} :
    r ∈ set.toList ↔ set.get? r.stream = some r := by
  simp only [toList, List.mem_filterMap]
  constructor
  · rintro ⟨s, -, hs⟩
    rwa [stream_of_get? hs]
  · intro h
    exact ⟨r.stream, Stream.mem_all _, h⟩

end RedirectionSet

end ShellPipeline
