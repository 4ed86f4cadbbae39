import Mathlib.Data.List.Forall2
import ShellPipeline.Proofs.Rendering
import ShellPipeline.Proofs.SelfDelimiting

/-!
# Arguments without their quotes

An argument consists of quoted runs and of characters outside of quotes, in one way only. Every
quote of the argument begins or ends a run, so that the argument without its quotes is what its
parts hold, one after the other.

A program name is no argument: its quotes are characters like others, and they stay.

* `ArgumentPart.exists_parts` and `ArgumentPart.parts_unique`: the parts of an argument;
* `ArgumentPart.exists_part_of_mem`: the part that a character comes from;
* `Pipeline.argv_of_parse`: what a command is called with.
-/

namespace ShellPipeline

/-- A part of an argument. -/
inductive ArgumentPart
  /-- A quoted run, which holds at least one character. -/
  | quoted (body : List Char) (ne_nil : body ≠ []) (closed : '"' ∉ body)
  /-- A character outside of quotes. -/
  | bare (c : Char) (ne_quote : c ≠ '"')

namespace ArgumentPart

/-- The part as it is written. -/
def spelling : ArgumentPart → List Char
  | .quoted body _ _ => '"' :: (body ++ ['"'])
  | .bare c _ => [c]

/-- What the part holds. -/
def content : ArgumentPart → List Char
  | .quoted body _ _ => body
  | .bare c _ => [c]

def isQuoted : ArgumentPart → Bool
  | .quoted .. => true
  | .bare .. => false

/-- The part holds blanks and angles only in quotes. -/
def Guards (p : ArgumentPart) : Prop :=
  ∀ c ∈ p.content, Text.isBlank c = true ∨ isAngle c = true → p.isQuoted = true

/-! ## One part -/

theorem content_ne_nil (p : ArgumentPart) : p.content ≠ [] := by
  cases p with
  | quoted body hne hclosed => exact hne
  | bare c hquote => exact List.cons_ne_nil c []

theorem quote_not_mem_content (p : ArgumentPart) : '"' ∉ p.content := by
  cases p with
  | quoted body hne hclosed => exact hclosed
  | bare c hquote => exact mt List.mem_singleton.1 hquote.symm

theorem spelling_ne_nil (p : ArgumentPart) : p.spelling ≠ [] := by
  cases p with
  | quoted body hne hclosed => exact List.cons_ne_nil '"' _
  | bare c hquote => exact List.cons_ne_nil c []

theorem selfDelimiting_spelling (p : ArgumentPart) : Text.SelfDelimiting spelling p := by
  intro q r r' h
  cases p with
  | quoted body hne hclosed =>
    cases q with
    | quoted body' hne' hclosed' =>
      have hbody : body ++ '"' :: r = body' ++ '"' :: r' := by simpa [spelling] using h
      have hrun := WordClass.quotedRun?_append (r := r) hne hclosed
      rw [hbody, WordClass.quotedRun?_append hne' hclosed'] at hrun
      obtain ⟨hspelling, rfl⟩ := Prod.mk.inj (Option.some.inj hrun)
      obtain rfl := List.append_cancel_right (List.cons.inj hspelling).2
      exact ⟨rfl, rfl⟩
    | bare d hquote => exact absurd (List.cons.inj h).1.symm hquote
  | bare c hquote =>
    cases q with
    | quoted body' hne' hclosed' => exact absurd (List.cons.inj h).1 hquote
    | bare d hquote' =>
      obtain ⟨rfl, hr⟩ := List.cons.inj h
      exact ⟨rfl, hr⟩

theorem filter_spelling (p : ArgumentPart) : p.spelling.filter (· != '"') = p.content := by
  have hcontent : p.content.filter (· != '"') = p.content := by
    rw [List.filter_eq_self]
    intro c hc
    rw [bne_iff_ne]
    rintro rfl
    exact p.quote_not_mem_content hc
  cases p with
  | quoted body hne hclosed => simpa [spelling, content] using hcontent
  | bare c hquote => exact hcontent

theorem count_spelling (p : ArgumentPart) :
    p.spelling.count '"' = if p.isQuoted then 2 else 0 := by
  have hcontent := List.count_eq_zero.2 p.quote_not_mem_content
  cases p with
  | quoted body hne hclosed => simpa [spelling, isQuoted, content] using hcontent
  | bare c hquote => exact hcontent

theorem exists_spelling {u : List Char} (h : WordClass.IsUnit .argument u) :
    ∃ p : ArgumentPart, p.Guards ∧ p.spelling = u := by
  cases h with
  | quoted hne hclosed => exact ⟨.quoted _ hne hclosed, fun _ _ _ => rfl, rfl⟩
  | bare hquote hangle hblank =>
    refine ⟨.bare _ hquote, fun c hc hguard => ?_, rfl⟩
    obtain rfl := List.mem_singleton.1 hc
    simp [hangle, hblank] at hguard

/-! ## The parts of an argument -/

theorem exists_parts {w : List Char} (h : WordClass.IsWord .argument w) :
    ∃ parts : List ArgumentPart,
      parts ≠ [] ∧ (∀ p ∈ parts, p.Guards) ∧ w = parts.flatMap spelling := by
  induction h with
  | unit hu =>
    obtain ⟨p, hp, rfl⟩ := exists_spelling hu
    exact ⟨[p], by simp, by simpa using hp, by simp⟩
  | cons hu _ ih =>
    obtain ⟨p, hp, rfl⟩ := exists_spelling hu
    obtain ⟨parts, -, hparts, rfl⟩ := ih
    exact ⟨p :: parts, by simp, List.forall_mem_cons.2 ⟨hp, hparts⟩, rfl⟩

theorem parts_unique {parts parts' : List ArgumentPart}
    (h : parts.flatMap spelling = parts'.flatMap spelling) : parts = parts' := by
  have hend : ∀ (p : ArgumentPart) t, [] ≠ p.spelling ++ t := by
    intro p t hnil
    exact p.spelling_ne_nil (List.append_eq_nil_iff.1 hnil.symm).1
  exact (Text.SelfDelimiting.eq_of_flatMap (fun p _ => selfDelimiting_spelling p) hend hend
    (by rw [h])).1

theorem filter_flatMap_spelling (parts : List ArgumentPart) :
    (parts.flatMap spelling).filter (· != '"') = parts.flatMap content := by
  rw [List.filter_flatMap]
  simp only [filter_spelling]

theorem count_flatMap_spelling (parts : List ArgumentPart) :
    (parts.flatMap spelling).count '"' = 2 * parts.countP isQuoted := by
  induction parts with
  | nil => rfl
  | cons p parts ih =>
    rw [List.flatMap_cons, List.count_append, count_spelling, ih, List.countP_cons]
    split <;> omega

theorem flatMap_content_ne_nil {parts : List ArgumentPart} (h : parts ≠ []) :
    parts.flatMap content ≠ [] := by
  cases parts with
  | nil => exact absurd rfl h
  | cons p parts => exact List.append_ne_nil_of_left_ne_nil p.content_ne_nil _

theorem quote_not_mem_flatMap_content (parts : List ArgumentPart) :
    '"' ∉ parts.flatMap content := by
  rw [List.mem_flatMap]
  rintro ⟨p, -, hp⟩
  exact p.quote_not_mem_content hp

/-- A character of what the parts hold comes from one of them, and its place there tells what
stands before and behind it. -/
theorem exists_part_of_mem {parts : List ArgumentPart} {before after : List Char} {c : Char}
    (h : parts.flatMap content = before ++ c :: after) :
    ∃ front p back x y, parts = front ++ p :: back ∧ p.content = x ++ c :: y ∧
      before = front.flatMap content ++ x ∧ after = y ++ back.flatMap content := by
  induction parts generalizing before with
  | nil => simp at h
  | cons p parts ih =>
    rw [List.flatMap_cons, List.append_eq_append_iff] at h
    rcases h with ⟨before', rfl, h⟩ | ⟨content', hcontent, h⟩
    · obtain ⟨front, q, back, x, y, rfl, hq, rfl, hafter⟩ := ih h
      exact ⟨p :: front, q, back, x, y, rfl, hq, by simp, hafter⟩
    · cases content' with
      | nil =>
        obtain ⟨front, q, back, x, y, rfl, hq, hbefore, hafter⟩ := @ih [] h.symm
        refine ⟨p :: front, q, back, x, y, rfl, hq, ?_, hafter⟩
        rw [List.flatMap_cons, List.append_assoc, ← hbefore, hcontent, List.append_nil,
          List.append_nil]
      | cons d y =>
        obtain ⟨rfl, hafter⟩ := List.cons.inj h
        exact ⟨[], p, parts, before, y, rfl, hcontent, rfl, hafter⟩

end ArgumentPart

/-! ## What a command is called with -/

/-- An argument with its parts, and the entry that it makes. -/
structure Command.Unquotes (word entry : String) (parts : List ArgumentPart) : Prop where
  toList_word : word.toList = parts.flatMap ArgumentPart.spelling
  unique : ∀ parts', word.toList = parts'.flatMap ArgumentPart.spelling → parts' = parts
  toList_entry : entry.toList = parts.flatMap ArgumentPart.content
  /-- Every run has two quotes, and no other quotes are there. -/
  count_quote : word.toList.count '"' = 2 * parts.countP ArgumentPart.isQuoted
  /-- The quotes are all that is left out. -/
  filter_quote : word.toList.filter (· != '"') = parts.flatMap ArgumentPart.content
  ne_empty : entry ≠ ""
  quote_not_mem : '"' ∉ entry.toList
  /-- A blank or an angle comes from a quoted run. -/
  origin : ∀ before c after, entry.toList = before ++ c :: after →
    Text.isBlank c = true ∨ isAngle c = true →
    ∃ front p back x y, parts = front ++ p :: back ∧ p.isQuoted = true ∧
      p.content = x ++ c :: y ∧ before = front.flatMap ArgumentPart.content ++ x ∧
      after = y ++ back.flatMap ArgumentPart.content

theorem Command.exists_unquotes {word : String} (h : WordClass.IsWord .argument word.toList) :
    ∃ parts, Unquotes word (unquote word) parts := by
  obtain ⟨parts, hne, hguards, hword⟩ := ArgumentPart.exists_parts h
  have hfilter : word.toList.filter (· != '"') = parts.flatMap ArgumentPart.content := by
    rw [hword, ArgumentPart.filter_flatMap_spelling]
  have hentry : (unquote word).toList = parts.flatMap ArgumentPart.content := by
    rw [unquote, String.toList_ofList, hfilter]
  refine ⟨parts, ?_⟩
  exact {
    toList_word := hword
    unique := fun parts' hword' => ArgumentPart.parts_unique (hword'.symm.trans hword)
    toList_entry := hentry
    count_quote := by rw [hword, ArgumentPart.count_flatMap_spelling]
    filter_quote := hfilter
    ne_empty := fun hempty => by
      rw [hempty] at hentry
      exact ArgumentPart.flatMap_content_ne_nil hne hentry.symm
    quote_not_mem := by
      rw [hentry]
      exact ArgumentPart.quote_not_mem_flatMap_content parts
    origin := fun before c after hplace hc => by
      rw [hentry] at hplace
      obtain ⟨front, p, back, x, y, hparts, hp, hbefore, hafter⟩ :=
        ArgumentPart.exists_part_of_mem hplace
      have hquoted := hguards p (by simp [hparts]) c (by simp [hp]) hc
      exact ⟨front, p, back, x, y, hparts, hquoted, hp, hbefore, hafter⟩ }

/-- A command of a line is called with the name of its program as it is written, and with the
arguments without their quotes. -/
theorem Pipeline.argv_of_parse {line : String} {p : Pipeline} (h : Pipeline.parse line = .ok p) :
    ∀ stage ∈ p.stages, ∃ entries,
      stage.command.argv = stage.command.program :: entries ∧
      List.Forall₂ (fun word entry => ∃ parts, Command.Unquotes word entry parts)
        stage.command.arguments entries := by
  intro stage hstage
  have hspellable := Reading.spellable_of_parse h stage hstage
  refine ⟨stage.command.arguments.map Command.unquote, rfl, ?_⟩
  rw [List.forall₂_map_right_iff, List.forall₂_same]
  exact fun word hword => Command.exists_unquotes (hspellable.arguments word hword).1

/-- A quote in a program name, two runs side by side, a run within a word, and blanks and angles in
quotes. -/
theorem Pipeline.argv_of_parse_runs :
    let p : Pipeline := ⟨[⟨⟨"\"p\"\\|x", ["\"a\"\"b\"c", "d\\", "\"<\t>|\""]⟩, .empty⟩], by simp⟩
    Pipeline.parse "\"p\"\\|x \"a\"\"b\"c d\\ \"<\t>|\"" = .ok p ∧
    ∀ stage ∈ p.stages, ∃ entries,
      stage.command.argv = stage.command.program :: entries ∧
      List.Forall₂ (fun word entry => ∃ parts, Command.Unquotes word entry parts)
        stage.command.arguments entries := by
  intro p
  have h : Pipeline.parse "\"p\"\\|x \"a\"\"b\"c d\\ \"<\t>|\"" = .ok p := by decide +kernel
  exact ⟨h, Pipeline.argv_of_parse h⟩

end ShellPipeline
