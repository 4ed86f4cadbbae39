import Mathlib.Data.List.Dedup
import ShellPipeline.Pipeline.Json
import ShellPipeline.Proofs.Rendering

/-!
# Histories of a set of redirections

A set that is filled from a list holds the first redirection of each stream, whatever comes later.
All that can be seen of the set follows from this view (`KeepsFirst`), and so does when two lists
fill the same set.
-/

namespace ShellPipeline.RedirectionSet

/-- The first redirection of a stream in a list. -/
def first? (rs : List Redirection) (s : Stream) : Option Redirection := rs.find? (·.stream == s)

/-- What can be seen of the set that is filled from a list. -/
structure KeepsFirst (rs : List Redirection) : Prop where
  get? : ∀ s, (ofList rs).get? s = first? rs s
  contains_iff : ∀ s, (ofList rs).contains s = true ↔ ∃ r ∈ rs, r.stream = s
  output : (ofList rs).output = (first? rs .output).map Redirection.toTarget
  error : (ofList rs).error = (first? rs .error).map Redirection.toTarget
  input : (ofList rs).input = (first? rs .input).map Redirection.toTarget
  /-- The first redirections of their streams are retained when they are inserted, and no others. -/
  retains_iff : ∀ before r after, rs = before ++ r :: after →
    ((ofList before).retains r = true ↔ ∀ q ∈ before, q.stream ≠ r.stream)
  toList : (ofList rs).toList = [Stream.output, .error, .input].filterMap (first? rs)
  toJson : (ofList rs).toJson =
    .array (([Stream.output, .error, .input].filterMap (first? rs)).map Redirection.toJson)
  describe : (ofList rs).describe =
    ", ".intercalate (([Stream.output, .error, .input].filterMap (first? rs)).map
      Redirection.describe)
  /-- There are as many as there are streams in the list. -/
  size : (ofList rs).size = (rs.map Redirection.stream).dedup.length
  isEmpty_iff : (ofList rs).isEmpty = true ↔ rs = []
  eq_iff : ∀ rs', ofList rs = ofList rs' ↔ ∀ s, first? rs s = first? rs' s
  /-- Two neighbours of different streams may change places. -/
  swap : ∀ before q r after, rs = before ++ q :: r :: after → q.stream ≠ r.stream →
    ofList rs = ofList (before ++ r :: q :: after)
  /-- The redirections of the set fill the same set in any order. -/
  refill : ∀ rs', rs'.Perm (ofList rs).toList → ofList rs' = ofList rs

theorem get?_ofList_eq_first? (rs : List Redirection) (s : Stream) :
    (ofList rs).get? s = first? rs s := get?_ofList rs s

theorem target?_eq_map_get? (set : RedirectionSet) (s : Stream) :
    set.target? s = (set.get? s).map Redirection.toTarget := by
  simp [get?, Function.comp_def]

theorem contains_ofList_iff {rs : List Redirection} {s : Stream} :
    (ofList rs).contains s = true ↔ ∃ r ∈ rs, r.stream = s := by
  simp [contains_eq_isSome_get?, get?_ofList]

theorem retains_ofList_iff {rs : List Redirection} {r : Redirection} :
    (ofList rs).retains r = true ↔ ∀ q ∈ rs, q.stream ≠ r.stream := by
  rw [retains, Bool.not_eq_true', Bool.eq_false_iff, Ne, contains_ofList_iff]
  simp

theorem toList_ofList (rs : List Redirection) :
    (ofList rs).toList = Stream.all.filterMap (first? rs) := by
  rw [toList, funext (get?_ofList_eq_first? rs)]

theorem ofList_eq_iff {rs rs' : List Redirection} :
    ofList rs = ofList rs' ↔ ∀ s, first? rs s = first? rs' s := by
  constructor
  · intro h s
    rw [← get?_ofList_eq_first?, h, get?_ofList_eq_first?]
  · intro h
    ext1 s
    rw [get?_ofList_eq_first?, h, get?_ofList_eq_first?]

/-! ## The number of redirections -/

theorem map_stream_toList (set : RedirectionSet) :
    set.toList.map Redirection.stream = Stream.all.filter set.contains := by
  obtain ⟨_ | _, _ | _, _ | _⟩ := set <;> rfl

theorem nodup_map_stream_toList (set : RedirectionSet) :
    (set.toList.map Redirection.stream).Nodup := by
  rw [map_stream_toList]
  have hall : Stream.all.Nodup := by decide
  exact hall.filter _

theorem size_ofList (rs : List Redirection) :
    (ofList rs).size = (rs.map Redirection.stream).dedup.length := by
  have hperm : ((ofList rs).toList.map Redirection.stream).Perm
      (rs.map Redirection.stream).dedup := by
    refine (List.perm_ext_iff_of_nodup (nodup_map_stream_toList _) (List.nodup_dedup _)).2 ?_
    intro s
    rw [map_stream_toList, List.mem_filter, contains_ofList_iff, List.mem_dedup, List.mem_map]
    exact and_iff_right (Stream.mem_all s)
  simpa [size] using hperm.length_eq

theorem isEmpty_ofList_iff {rs : List Redirection} : (ofList rs).isEmpty = true ↔ rs = [] :=
  isEmpty_iff.trans ofList_eq_empty_iff

/-! ## Other lists for the same set -/

theorem first?_swap {before after : List Redirection} {q r : Redirection}
    (h : q.stream ≠ r.stream) (s : Stream) :
    first? (before ++ q :: r :: after) s = first? (before ++ r :: q :: after) s := by
  simp only [first?, List.find?_append, List.find?_cons]
  by_cases hq : q.stream = s
  · have hr : r.stream ≠ s := fun hr => h (hq.trans hr.symm)
    simp [hq, beq_eq_false_iff_ne.2 hr]
  · simp only [beq_eq_false_iff_ne.2 hq]

/-- Of each stream the set holds one redirection at most, so that their order does not matter. -/
theorem first?_of_perm {set : RedirectionSet} {rs : List Redirection} (h : rs.Perm set.toList)
    (s : Stream) : first? rs s = set.get? s := by
  have hget : ∀ r ∈ rs, set.get? r.stream = some r := fun r hr => mem_toList_iff.1 (h.subset hr)
  cases hfirst : first? rs s with
  | some r =>
    have hs : r.stream = s := by simpa using List.find?_some hfirst
    rw [← hs, hget r (List.mem_of_find?_eq_some hfirst)]
  | none =>
    cases hs : set.get? s with
    | none => rfl
    | some r =>
      have hmem : r ∈ rs := by
        refine h.symm.subset (mem_toList_iff.2 ?_)
        rwa [stream_of_get? hs]
      have hne := List.find?_eq_none.1 hfirst r hmem
      simp [stream_of_get? hs] at hne

/-- A set that is filled from a list keeps the first redirection of each stream. -/
theorem keepsFirst_ofList (rs : List Redirection) : KeepsFirst rs where
  get? := get?_ofList_eq_first? rs
  contains_iff := fun _ => contains_ofList_iff
  output := by rw [← get?_ofList_eq_first?]; exact target?_eq_map_get? _ .output
  error := by rw [← get?_ofList_eq_first?]; exact target?_eq_map_get? _ .error
  input := by rw [← get?_ofList_eq_first?]; exact target?_eq_map_get? _ .input
  retains_iff := fun _ _ _ _ => retains_ofList_iff
  toList := toList_ofList rs
  toJson := by rw [toJson, toList_ofList]; rfl
  describe := by rw [describe, toList_ofList]; rfl
  size := size_ofList rs
  isEmpty_iff := isEmpty_ofList_iff
  eq_iff := fun _ => ofList_eq_iff
  swap := fun before q r after hrs h => by
    rw [hrs]
    exact ofList_eq_iff.2 (first?_swap h)
  refill := fun rs' h => by
    ext1 s
    rw [get?_ofList_eq_first?, first?_of_perm h]

end ShellPipeline.RedirectionSet
