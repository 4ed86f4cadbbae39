import ShellPipeline.Proofs.Grammar

/-!
# Lines that spell out a pipeline

`Pipeline.toLine` writes any pipeline as a line, but not every line written so is read as the
pipeline again: a word may hold a blank, an open quote or nothing at all. `Stage.Spellable` says
of which words a stage must consist. What is read consists of such words
(`spellable_of_readsStages`), and what consists of them is read back (`readsStages_toLine`).
-/

namespace ShellPipeline

/-- The words of a stage are words of their classes, and no argument begins with a pipe, which
would end the stage. By `WordClass.isWord_iff_split` a word of a class is a text that is not empty
and that the class takes in whole. -/
structure Stage.Spellable (stage : Stage) : Prop where
  program : WordClass.IsWord .filespec stage.command.program.toList
  arguments : ∀ w ∈ stage.command.arguments,
    WordClass.IsWord .argument w.toList ∧ w.toList.head? ≠ some '|'
  filespecs : ∀ r ∈ stage.redirections.toList, r.isHere = false →
    WordClass.IsWord .filespec r.filespec.toList
  keywords : ∀ r ∈ stage.redirections.toList, r.isHere = true →
    WordClass.IsWord .keyword r.filespec.toList

namespace Reading

theorem targetClass_eq (r : Redirection) :
    targetClass r.stream r.doubled = if r.isHere then .keyword else .filespec := by
  obtain ⟨⟨_ | _, w⟩, _ | _ | _⟩ := r <;> rfl

/-! ## What is read is spellable -/

theorem isWord_of_reads {s r : List Char} {k : WordClass} {w : String}
    (h : Reads s (.word k w) r) : k.IsWord w.toList ∧ w.toList.head? ≠ some '|' := by
  cases h with
  | word hs hop hw =>
    refine ⟨hw, fun hpipe => hop .pipe ?_⟩
    obtain ⟨w', hw'⟩ := List.head?_eq_some_iff.1 hpipe
    exact ⟨w' ++ r, by rw [hs, hw']; rfl⟩

theorem arguments_of_reads {s t : List Char} {ws : List String} (h : ReadsArguments s ws t) :
    ∀ w ∈ ws, WordClass.IsWord .argument w.toList ∧ w.toList.head? ≠ some '|' := by
  induction h with
  | nil => simp
  | cons hw _ ih =>
    intro w hmem
    rcases List.mem_cons.1 hmem with rfl | hmem
    · exact isWord_of_reads hw
    · exact ih w hmem

theorem targets_of_reads {s t : List Char} {rs : List Redirection}
    (h : ReadsRedirections s rs t) :
    ∀ r ∈ rs, WordClass.IsWord (targetClass r.stream r.doubled) r.filespec.toList := by
  induction h with
  | nil => simp
  | cons hr _ ih =>
    intro r hmem
    rcases List.mem_cons.1 hmem with rfl | hmem
    · obtain ⟨u, -, hw⟩ := readsRedirection_iff.1 hr
      exact (isWord_of_reads hw).1
    · exact ih r hmem

theorem spellable_of_readsStage {s t : List Char} {stage : Stage} (h : ReadsStage s stage t) :
    stage.Spellable := by
  obtain ⟨hprogram, hws, hrs, hset⟩ := h
  rename_i _ _ program ws rs set
  have htarget : ∀ r ∈ set.toList,
      WordClass.IsWord (if r.isHere then .keyword else .filespec) r.filespec.toList := by
    intro r hr
    rw [RedirectionSet.mem_toList_iff, hset] at hr
    rw [← targetClass_eq]
    exact targets_of_reads hrs r (List.mem_of_find?_eq_some hr)
  exact {
    program := (isWord_of_reads hprogram).1
    arguments := arguments_of_reads hws
    filespecs := fun r hr hhere => by simpa [hhere] using htarget r hr
    keywords := fun r hr hhere => by simpa [hhere] using htarget r hr }

theorem spellable_of_readsStages {s : List Char} {stages : List Stage}
    (h : ReadsStages s stages) : ∀ stage ∈ stages, stage.Spellable := by
  induction h with
  | last hstage =>
    intro stage hmem
    rw [List.mem_singleton] at hmem
    exact hmem ▸ spellable_of_readsStage hstage
  | pipe hstage _ _ ih =>
    intro stage hmem
    rcases List.mem_cons.1 hmem with rfl | hmem
    · exact spellable_of_readsStage hstage
    · exact ih stage hmem

/-! ## What is spellable is read -/

theorem toList_intercalate_cons (sep w : String) (ws : List String) :
    (sep.intercalate (w :: ws)).toList =
      w.toList ++ ws.flatMap fun v => sep.toList ++ v.toList := by
  induction ws generalizing w with
  | nil => simp
  | cons v ws ih =>
    rw [String.intercalate_cons_cons, String.toList_append, String.toList_append, ih]
    simp

theorem toList_toLine (stage : Stage) :
    stage.toLine.toList = stage.command.program.toList ++
      ((stage.command.arguments.flatMap fun w => ' ' :: w.toList) ++
        stage.redirections.toList.flatMap fun r =>
          ' ' :: (r.operator.symbol.toList ++ (' ' :: r.filespec.toList))) := by
  rw [Stage.toLine, List.cons_append, toList_intercalate_cons, List.flatMap_append,
    List.flatMap_map]
  simp [Redirection.toLine]

theorem followsLike_flatMap {α : Type} (f : α → List Char) (xs : List α) {u : List Char}
    (hu : Text.FollowsLike [] u) :
    Text.FollowsLike [] ((xs.flatMap fun x => ' ' :: f x) ++ u) := by
  cases xs with
  | nil => exact hu
  | cons x xs => exact .blank rfl

theorem isBlank_of_mem_space {c : Char} (h : c ∈ [' ']) : Text.isBlank c = true := by
  rw [List.mem_singleton.1 h]
  rfl

theorem reads_spaced_word {k : WordClass} {w : String} {r : List Char} (hw : k.IsWord w.toList)
    (hpipe : k = .argument → w.toList.head? ≠ some '|') (hr : Text.FollowsLike [] r) :
    Reads (' ' :: (w.toList ++ r)) (.word k w) r := by
  have h := Reads.of_isWord (fun _ => isBlank_of_mem_space) hw hpipe hr
  rwa [String.ofList_toList] at h

theorem reads_spaced_symbol (op : Operator) (r : List Char) :
    Reads (' ' :: (op.symbol.toList ++ ' ' :: r)) (.operator op) (' ' :: r) := by
  refine Reads.of_symbol op (fun _ => isBlank_of_mem_space) fun c hc => ?_
  cases hc
  rfl

theorem readsArguments_of_isWord {ws : List String} {u : List Char}
    (hws : ∀ w ∈ ws, WordClass.IsWord .argument w.toList ∧ w.toList.head? ≠ some '|')
    (hu : Text.FollowsLike [] u) :
    ReadsArguments ((ws.flatMap fun w => ' ' :: w.toList) ++ u) ws u := by
  induction ws with
  | nil => exact .nil
  | cons w ws ih =>
    obtain ⟨hw, hpipe⟩ := hws w List.mem_cons_self
    have hfollows := followsLike_flatMap String.toList ws hu
    refine .cons ?_ (ih fun v hv => hws v (List.mem_cons_of_mem w hv))
    simpa using reads_spaced_word hw (fun _ => hpipe) hfollows

theorem readsRedirections_of_isWord {rs : List Redirection} {u : List Char}
    (hrs : ∀ r ∈ rs, WordClass.IsWord (targetClass r.stream r.doubled) r.filespec.toList)
    (hu : Text.FollowsLike [] u) :
    ReadsRedirections ((rs.flatMap fun r =>
      ' ' :: (r.operator.symbol.toList ++ (' ' :: r.filespec.toList))) ++ u) rs u := by
  induction rs with
  | nil => exact .nil
  | cons r rs ih =>
    refine .cons (readsRedirection_iff.2 ?_) (ih fun q hq => hrs q (List.mem_cons_of_mem r hq))
    have hfollows := followsLike_flatMap
      (fun r : Redirection => r.operator.symbol.toList ++ (' ' :: r.filespec.toList)) rs hu
    have hw := reads_spaced_word (hrs r List.mem_cons_self)
      (fun h => absurd h (targetClass_ne_argument _ _)) hfollows
    refine ⟨_, ?_, hw⟩
    simpa using reads_spaced_symbol r.operator (r.filespec.toList ++ _)

theorem find?_toList (set : RedirectionSet) (stream : Stream) :
    set.toList.find? (·.stream == stream) = set.get? stream := by
  obtain ⟨_ | _, _ | _, _ | _⟩ := set <;> cases stream <;> rfl

theorem readsStage_toLine {stage : Stage} {b u : List Char} (h : stage.Spellable)
    (hb : ∀ c ∈ b, Text.isBlank c = true) (hu : Text.FollowsLike [] u) :
    ReadsStage (b ++ (stage.toLine.toList ++ u)) stage u := by
  have htargets : ∀ r ∈ stage.redirections.toList,
      WordClass.IsWord (targetClass r.stream r.doubled) r.filespec.toList := by
    intro r hr
    rw [targetClass_eq]
    split
    · next hhere => exact h.keywords r hr hhere
    · next hhere => exact h.filespecs r hr (Bool.eq_false_iff.2 hhere)
  have hrs := readsRedirections_of_isWord htargets hu
  have hrest := followsLike_flatMap (fun r : Redirection =>
    r.operator.symbol.toList ++ (' ' :: r.filespec.toList)) stage.redirections.toList hu
  have hws := readsArguments_of_isWord h.arguments hrest
  have hprogram := Reads.of_isWord hb h.program (by simp)
    (followsLike_flatMap String.toList stage.command.arguments hrest)
  rw [String.ofList_toList] at hprogram
  rw [toList_toLine, List.append_assoc, List.append_assoc]
  exact .intro hprogram hws hrs fun stream => (find?_toList _ stream).symm

/-- A line of spellable stages with a pipe between each two is read as these stages. -/
theorem readsStages_of_spellable {stage : Stage} {stages : List Stage} {b : List Char}
    (h : ∀ x ∈ stage :: stages, x.Spellable) (hb : ∀ c ∈ b, Text.isBlank c = true) :
    ReadsStages (b ++ (stage.toLine.toList ++
      stages.flatMap fun x => " | ".toList ++ x.toLine.toList)) (stage :: stages) := by
  induction stages generalizing stage b with
  | nil =>
    have hstage := readsStage_toLine (h stage List.mem_cons_self) hb .nil
    exact .last hstage (.endOfLine rfl)
  | cons next stages ih =>
    have hstage := readsStage_toLine (u := ' ' :: ("|".toList ++ ' ' :: (next.toLine.toList ++
      stages.flatMap fun x => " | ".toList ++ x.toLine.toList))) (h stage List.mem_cons_self) hb
      (.blank rfl)
    have htail := ih (b := [' ']) (fun x hx => h x (List.mem_cons_of_mem stage hx))
      fun _ => isBlank_of_mem_space
    exact .pipe hstage (reads_spaced_symbol .pipe _) htail

theorem readsStages_toLine {p : Pipeline} (h : ∀ stage ∈ p.stages, stage.Spellable) :
    ReadsStages p.toLine.toList p.stages := by
  obtain ⟨stages, hne⟩ := p
  cases stages with
  | nil => exact absurd rfl hne
  | cons stage stages =>
    rw [Pipeline.toLine, List.map_cons, toList_intercalate_cons, List.flatMap_map]
    exact readsStages_of_spellable (b := []) h (by simp)

theorem parse_toLine_of_spellable {p : Pipeline} (h : ∀ stage ∈ p.stages, stage.Spellable) :
    Pipeline.parse p.toLine = .ok p :=
  parse_of_readsStages (readsStages_toLine h)

theorem spellable_of_parse {line : String} {p : Pipeline} (h : Pipeline.parse line = .ok p) :
    ∀ stage ∈ p.stages, stage.Spellable :=
  spellable_of_readsStages (readsStages_of_parse h)

end Reading

/-- A pipeline that was read is read back from the line that spells it out. -/
theorem Pipeline.parse_toLine_of_parse {line : String} {p : Pipeline}
    (h : Pipeline.parse line = .ok p) : Pipeline.parse p.toLine = .ok p :=
  Reading.parse_toLine_of_spellable (Reading.spellable_of_parse h)

/-- Spaces in quotes, a literal pipe, escapes, a line break, redirections out of order and one that
is dropped. -/
theorem Pipeline.parse_toLine_of_parse_escapes :
    Pipeline.parse "a\\|b \"x | y\"|z\t<i>>o 2>e>p|\"\n<<E" = .ok ⟨[
      ⟨⟨"a\\|b", ["\"x | y\"|z"]⟩, ⟨some ⟨true, "o"⟩, some ⟨false, "e"⟩, some ⟨false, "i"⟩⟩⟩,
      ⟨⟨"\"\n", []⟩, ⟨none, none, some ⟨true, "E"⟩⟩⟩], by simp⟩ ∧
    Pipeline.parse "a\\|b \"x | y\"|z >> o 2> e < i | \"\n << E" = .ok ⟨[
      ⟨⟨"a\\|b", ["\"x | y\"|z"]⟩, ⟨some ⟨true, "o"⟩, some ⟨false, "e"⟩, some ⟨false, "i"⟩⟩⟩,
      ⟨⟨"\"\n", []⟩, ⟨none, none, some ⟨true, "E"⟩⟩⟩], by simp⟩ :=
  have h : Pipeline.parse "a\\|b \"x | y\"|z\t<i>>o 2>e>p|\"\n<<E" = _ := by decide +kernel
  ⟨h, Pipeline.parse_toLine_of_parse h⟩

/-- The pipelines that their lines spell out. -/
theorem Pipeline.parse_toLine_eq_ok_iff (p : Pipeline) :
    Pipeline.parse p.toLine = .ok p ↔ ∀ stage ∈ p.stages, stage.Spellable :=
  ⟨Reading.spellable_of_parse, Reading.parse_toLine_of_spellable⟩

end ShellPipeline
