/-!
# Texts that tell where they end

Something is written as a text that is written for nothing else, whatever follows it. Several of the
kind in a row are then told apart as well (`Text.SelfDelimiting.eq_of_flatMap`).
-/

namespace ShellPipeline

/-- What is written for `a` is written for nothing else, and tells where it ends. -/
def Text.SelfDelimiting {α : Type} (write : α → List Char) (a : α) : Prop :=
  ∀ ⦃b : α⦄ ⦃r r' : List Char⦄, write a ++ r = write b ++ r' → a = b ∧ r = r'

namespace Text.SelfDelimiting

variable {α β : Type} {write : α → List Char} {write' : β → List Char}

theorem append_left (w : List Char) {a : α} (ha : SelfDelimiting write a) :
    SelfDelimiting (fun a => w ++ write a) a := by
  intro b r r' h
  rw [List.append_assoc, List.append_assoc] at h
  exact ha (List.append_cancel_left h)

theorem append_right (w : List Char) {a : α} (ha : SelfDelimiting write a) :
    SelfDelimiting (fun a => write a ++ w) a := by
  intro b r r' h
  rw [List.append_assoc, List.append_assoc] at h
  obtain ⟨hab, hr⟩ := ha h
  exact ⟨hab, List.append_cancel_left hr⟩

theorem prod {x : α × β} (ha : SelfDelimiting write x.1) (hb : SelfDelimiting write' x.2) :
    SelfDelimiting (fun x : α × β => write x.1 ++ write' x.2) x := by
  intro y r r' h
  rw [List.append_assoc, List.append_assoc] at h
  obtain ⟨hfst, h⟩ := ha h
  obtain ⟨hsnd, hr⟩ := hb h
  exact ⟨Prod.ext hfst hsnd, hr⟩

theorem comp {f : β → α} (hf : Function.Injective f) {b : β} (hb : SelfDelimiting write (f b)) :
    SelfDelimiting (fun b => write (f b)) b := by
  intro c r r' h
  obtain ⟨hbc, hr⟩ := hb h
  exact ⟨hf hbc, hr⟩

/-- What is self-delimiting is told apart in a row, where nothing of the kind follows the row. -/
theorem eq_of_flatMap {as bs : List α} {r r' : List Char}
    (has : ∀ a ∈ as, SelfDelimiting write a) (hr : ∀ b t, r ≠ write b ++ t)
    (hr' : ∀ b t, r' ≠ write b ++ t) (h : as.flatMap write ++ r = bs.flatMap write ++ r') :
    as = bs ∧ r = r' := by
  induction as generalizing bs with
  | nil =>
    cases bs with
    | nil => exact ⟨rfl, h⟩
    | cons b bs =>
      rw [List.flatMap_cons, List.append_assoc] at h
      exact absurd h (hr b _)
  | cons a as ih =>
    obtain ⟨ha, has⟩ := List.forall_mem_cons.1 has
    cases bs with
    | nil =>
      rw [List.flatMap_cons, List.append_assoc] at h
      exact absurd h.symm (hr' a _)
    | cons b bs =>
      rw [List.flatMap_cons, List.flatMap_cons, List.append_assoc, List.append_assoc] at h
      obtain ⟨rfl, hrest⟩ := ha h
      obtain ⟨rfl, heq⟩ := ih has hrest
      exact ⟨rfl, heq⟩

end Text.SelfDelimiting

end ShellPipeline
