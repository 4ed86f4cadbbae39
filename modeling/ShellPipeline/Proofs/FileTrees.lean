import ShellPipeline.FileSystem

/-!
# What is added to files

A text that is added to a file changes that file only, and the directories that are made on the way
to a log file change none.

* `FileTree.text?`: the text of the regular file at a place;
* `FileTree.Extends`: a tree in which a text is added to one file at most;
* `FileTree.extends_append`, `FileTree.text?_appendAll`: one text that is added, and texts one
  after the other;
* `FileSystem.openLog_follows`: a log file is opened at the place of its path.
-/

namespace ShellPipeline

/-! ## Regular files -/

/-- The text of a regular file. -/
def Entry.text? : Entry → Option String
  | .file text => some text
  | .directory => none

namespace FileTree

/-- The text of the regular file at a place. -/
def text? (tree : FileTree) (place : Place) : Option String :=
  (tree.at? place).bind Entry.text?

/-- A tree in which the text of one file at most, which may be new, goes on. -/
structure Extends (before after : FileTree) (place? : Option Place) (text : String) : Prop where
  text?_eq : ∀ place, after.text? place =
    if place? = some place then some ((before.text? place).getD "" ++ text)
    else before.text? place
  /-- No other file is new or has another text. -/
  changed : ∀ f ∈ after.changesSince before, place? = some f.1

/-- Trees with the same regular files. -/
structure SameFiles (before after : FileTree) : Prop where
  text?_eq : ∀ place, after.text? place = before.text? place
  files_eq : after.files = before.files

theorem SameFiles.refl (tree : FileTree) : tree.SameFiles tree := ⟨fun _ => rfl, rfl⟩

theorem SameFiles.trans {first second third : FileTree} (h : first.SameFiles second)
    (h' : second.SameFiles third) : first.SameFiles third :=
  ⟨fun place => (h'.text?_eq place).trans (h.text?_eq place), h'.files_eq.trans h.files_eq⟩

theorem SameFiles.extends {before after : FileTree} (h : before.SameFiles after)
    (text : String) : before.Extends after none text where
  text?_eq := h.text?_eq
  changed := fun f hf => by
    rw [changesSince, h.files_eq, List.mem_filter] at hf
    simp [hf.1] at hf

/-- A tree that adds to no file changes none. -/
theorem Extends.sameTexts {before after : FileTree} {text : String}
    (h : before.Extends after none text) :
    (∀ place, after.text? place = before.text? place) ∧ after.changesSince before = [] :=
  ⟨h.text?_eq, List.eq_nil_iff_forall_not_mem.2 fun f hf => nomatch h.changed f hf⟩

/-- What is not listed is no regular file. -/
theorem text?_eq_lookup (tree : FileTree) (place : Place) :
    tree.text? place = (tree.entries.lookup place).bind Entry.text? := by
  unfold text? at?
  cases tree.entries.lookup place with
  | some e => rfl
  | none =>
    dsimp only
    split <;> rfl

theorem lookup_of_at? {tree : FileTree} {place : Place} (h : tree.at? place = none) :
    tree.entries.lookup place = none := by
  unfold at? at h
  split at h
  · cases h
  · assumption

theorem mem_files_iff {tree : FileTree} {f : Place × String} :
    f ∈ tree.files ↔ (f.1, .file f.2) ∈ tree.entries := by
  unfold files
  rw [List.mem_filterMap]
  constructor
  · rintro ⟨⟨place, entry⟩, hmem, hf⟩
    cases entry with
    | file text =>
      cases hf
      exact hmem
    | directory => cases hf
  · intro hmem
    exact ⟨_, hmem, rfl⟩

/-- A directory that is made is no regular file. -/
theorem sameFiles_add_directory (tree : FileTree) (place : Place) :
    tree.SameFiles (tree.add place .directory) where
  text?_eq := fun place' => by
    rw [text?_eq_lookup, text?_eq_lookup, add, List.lookup_append]
    cases tree.entries.lookup place' with
    | some e => rfl
    | none =>
      rw [Option.none_or, List.lookup_cons]
      split <;> rfl
  files_eq := by simp [add, files]

/-! ## Adding to a file -/

/-- A file that is made is the only new one. -/
theorem text?_add_file {tree : FileTree} {place : Place} (h : tree.at? place = none)
    (text : String) (place' : Place) : (tree.add place (.file text)).text? place' =
      if place = place' then some text else tree.text? place' := by
  rw [text?_eq_lookup, text?_eq_lookup, add, List.lookup_append, List.lookup_cons,
    List.lookup_nil]
  by_cases hplace : place = place'
  · subst hplace
    rw [if_pos rfl, lookup_of_at? h, beq_self_eq_true]
    rfl
  · rw [if_neg hplace, beq_false_of_ne (Ne.symm hplace), Option.or_none]

/-- The entry of a place in the stead of the one that it has. -/
theorem lookup_replace (entries : List (Place × Entry)) (place place' : Place) (entry : Entry) :
    (entries.map fun e => if e.1 == place then (place, entry) else e).lookup place' =
      if place = place' then (entries.lookup place').map fun _ => entry
      else entries.lookup place' := by
  induction entries with
  | nil => simp
  | cons e entries ih =>
    obtain ⟨key, old⟩ := e
    have hhead : (if key == place then (place, entry) else (key, old)) =
        (key, if key = place then entry else old) := by
      by_cases hkey : key = place <;> simp [hkey]
    rw [List.map_cons, hhead, List.lookup_cons, List.lookup_cons, ih]
    cases hkey : place' == key with
    | false => rfl
    | true =>
      obtain rfl := eq_of_beq hkey
      dsimp only
      by_cases hplace : place = place'
      · rw [if_pos hplace, if_pos hplace.symm]
        rfl
      · rw [if_neg hplace, if_neg (Ne.symm hplace)]

theorem append_of_none {tree : FileTree} {place : Place} (h : tree.at? place = none)
    (text : String) : tree.append place text = tree.add place (.file text) := by
  rw [append, h]

theorem append_of_file {tree : FileTree} {place : Place} {old : String}
    (h : tree.at? place = some (.file old)) (text : String) : tree.append place text =
      ⟨tree.entries.map fun e => if e.1 == place then (place, .file (old ++ text)) else e⟩ := by
  rw [append, h]

/-- Where nothing is a file is made, and where one is its entry is replaced. -/
theorem text?_append {tree : FileTree} {place : Place}
    (h : tree.at? place ≠ some .directory) (text : String) (place' : Place) :
    (tree.append place text).text? place' =
      if place = place' then some ((tree.text? place').getD "" ++ text)
      else tree.text? place' := by
  cases hentry : tree.at? place with
  | none =>
    have hold : tree.text? place = none := congrArg (·.bind Entry.text?) hentry
    rw [append_of_none hentry, text?_add_file hentry]
    by_cases hplace : place = place'
    · subst hplace
      rw [if_pos rfl, if_pos rfl, hold]
      exact congrArg some String.empty_append.symm
    · rw [if_neg hplace, if_neg hplace]
  | some entry =>
    cases entry with
    | directory => exact absurd hentry h
    | file old =>
      have hold : tree.text? place = some old := congrArg (·.bind Entry.text?) hentry
      rw [append_of_file hentry, text?_eq_lookup, lookup_replace]
      by_cases hplace : place = place'
      · subst hplace
        rw [if_pos rfl, if_pos rfl, hold]
        rw [text?_eq_lookup] at hold
        obtain ⟨entry, hlookup, -⟩ := Option.bind_eq_some_iff.1 hold
        rw [hlookup]
        rfl
      · rw [if_neg hplace, if_neg hplace, text?_eq_lookup]

/-- The files of a tree with a text added to one are those of the tree, and that one. -/
theorem mem_files_of_append {tree : FileTree} {place : Place} {text : String}
    {f : Place × String} (h : f ∈ (tree.append place text).files) :
    f.1 = place ∨ f ∈ tree.files := by
  rw [mem_files_iff] at h ⊢
  unfold append at h
  split at h
  · obtain ⟨e, he, hf⟩ := List.mem_map.1 h
    split at hf
    · exact .inl (congrArg Prod.fst hf).symm
    · exact .inr (hf ▸ he)
  · exact .inr h
  · rcases List.mem_append.1 h with h | h
    · exact .inr h
    · exact .inl (congrArg Prod.fst (List.mem_singleton.1 h))

/-- A text that is added to a file changes no other file. -/
theorem extends_append {before tree : FileTree} (h : before.SameFiles tree) {place : Place}
    (hplace : tree.at? place ≠ some .directory) (text : String) :
    before.Extends (tree.append place text) (some place) text where
  text?_eq := fun place' => by
    rw [text?_append hplace, h.text?_eq]
    simp only [Option.some.injEq]
  changed := fun f hf => by
    rw [changesSince, List.mem_filter] at hf
    obtain ⟨hmem, hnew⟩ := hf
    refine congrArg some ((mem_files_of_append hmem).resolve_right fun hold => ?_).symm
    rw [h.files_eq] at hold
    simp [hold] at hnew

/-- The tree with texts added one after the other to a file, which is made if it is missing. -/
def appendAll (tree : FileTree) (place : Place) (texts : List String) : FileTree :=
  texts.foldl (fun written text => written.append place text) (tree.append place "")

/-- What a file is added to stays a file. -/
theorem at?_append_ne {tree : FileTree} {place : Place}
    (h : tree.at? place ≠ some .directory) (text : String) :
    (tree.append place text).at? place ≠ some .directory := by
  intro hdirectory
  have htext : (tree.append place text).text? place = none :=
    congrArg (·.bind Entry.text?) hdirectory
  rw [text?_append h, if_pos rfl] at htext
  cases htext

/-- Texts that are added one after the other come to their whole. -/
theorem text?_foldl_append {tree : FileTree} {place : Place}
    (h : tree.at? place ≠ some .directory) (first : String) (texts : List String)
    (place' : Place) :
    (texts.foldl (fun written text => written.append place text)
        (tree.append place first)).text? place' =
      (tree.append place (first ++ String.join texts)).text? place' := by
  induction texts generalizing tree first with
  | nil => rw [String.join_nil, String.append_empty, List.foldl_nil]
  | cons text texts ih =>
    rw [List.foldl_cons, ih (at?_append_ne h first), text?_append (at?_append_ne h first),
      text?_append h, text?_append h, String.join_cons]
    split
    · rw [Option.getD_some, String.append_assoc]
    · rfl

theorem text?_appendAll {tree : FileTree} {place : Place}
    (h : tree.at? place ≠ some .directory) (texts : List String) (place' : Place) :
    (tree.appendAll place texts).text? place' =
      (tree.append place (String.join texts)).text? place' := by
  rw [appendAll, text?_foldl_append h, String.empty_append]

end FileTree

/-! ## Opening the log -/

/-- Where a name leads that is not looked up. -/
def Place.follow (here : Place) (name : String) : Place :=
  if name = "." then here else if name = ".." then here.dropLast else here ++ [name]

/-- The place that a path names, from a working directory. -/
def Path.place (p : Path) (directory : Place) : Place :=
  p.ownNames.foldl Place.follow (p.origin directory)

theorem Place.follow_of_ne {name : String} (hdot : name ≠ ".") (hup : name ≠ "..")
    (here : Place) : Place.follow here name = here ++ [name] := by
  rw [follow, if_neg hdot, if_neg hup]

theorem Path.ne_dot_of_ownNames {p : Path} {name : String} (h : p.ownNames.getLast? = some name) :
    name ≠ "." := by
  rw [ownNames, List.getLast?_reverse] at h
  have hhead := List.head?_dropWhile_not (· == ".") p.names.reverse
  rw [h] at hhead
  rintro rfl
  cases hhead

theorem FileTree.follow_of_enter {tree : FileTree} {here place : Place} {name : String}
    (h : tree.enter here name = .ok place) : place = Place.follow here name := by
  unfold enter at h
  unfold Place.follow
  split at h
  · next hdot =>
    rw [if_pos hdot]
    exact (Except.ok.inj h).symm
  · next hdot =>
    rw [if_neg hdot]
    split at h
    · next hup =>
      rw [if_pos hup]
      exact (Except.ok.inj h).symm
    · next hup =>
      rw [if_neg hup]
      split at h
      · cases h
      · split at h
        · exact (Except.ok.inj h).symm
        · cases h
        · cases h

/-- Only a proper name leads to a directory that is missing. -/
theorem FileTree.follow_of_notFound {tree : FileTree} {here : Place} {name : String}
    (h : tree.enter here name = .error .notFound) : here ++ [name] = Place.follow here name := by
  refine (Place.follow_of_ne ?_ ?_ here).symm
  · rintro rfl
    cases h
  · rintro rfl
    cases h

namespace FileSystem

/-- The names are followed one after the other, and no regular file changes. -/
theorem makeAll_follows (readOnly : List Place) (tree : FileTree) (here : Place)
    (names : List String) : tree.SameFiles (makeAll readOnly tree here names).1 ∧
      ∀ place, (makeAll readOnly tree here names).2 = .ok place →
        place = names.foldl Place.follow here := by
  fun_induction makeAll readOnly tree here names with
  | case1 tree here => exact ⟨.refl tree, fun place h => (Except.ok.inj h).symm⟩
  | case2 tree here name names there henter ih =>
    obtain rfl := FileTree.follow_of_enter henter
    exact ih
  | case3 tree here name names henter hreadOnly => exact ⟨.refl tree, nofun⟩
  | case4 tree here name names henter hreadOnly ih =>
    rw [List.foldl_cons, ← FileTree.follow_of_notFound henter]
    exact ⟨(FileTree.sameFiles_add_directory tree _).trans ih.1, ih.2⟩
  | case5 tree here name names e he henter => exact ⟨.refl tree, nofun⟩

theorem ne_of_refusal?_eq_none {readOnly : List Place} {tree : FileTree} {here : Place}
    {p : Path} {name : String} (h : refusal? readOnly tree here p name = none) :
    name ≠ ".." ∧ tree.at? (here ++ [name]) ≠ some .directory := by
  unfold refusal? at h
  split at h
  · cases h
  · next hup =>
    refine ⟨hup, fun hdirectory => ?_⟩
    rw [hdirectory] at h
    split at h
    · split at h <;> cases h
    · split at h
      · cases h
      · split at h <;> cases h

/-- A log file is opened at the place of its path, where no directory is, and to open it changes no
regular file. -/
theorem openLog_follows (system : FileSystem) (path : String) :
    system.tree.SameFiles (system.openLog path).1 ∧
      ∀ place, (system.openLog path).2 = .ok place →
        place = (Path.ofString path).place system.directory ∧
          (system.openLog path).1.at? place ≠ some .directory := by
  unfold openLog
  dsimp only
  split
  · exact ⟨.refl _, nofun⟩
  · exact ⟨.refl _, nofun⟩
  · next name hrefusal hname =>
    obtain ⟨front, hnames⟩ := List.getLast?_eq_some_iff.1 hname
    have hmake := makeAll_follows system.readOnly system.tree
      ((Path.ofString path).origin system.directory) (Path.ofString path).ownNames.dropLast
    split
    · next hwalk =>
      rw [hwalk] at hmake
      exact ⟨hmake.1, nofun⟩
    · next tree here hwalk =>
      rw [hwalk] at hmake
      split
      · exact ⟨hmake.1, nofun⟩
      · next hopen =>
        refine ⟨hmake.1, ?_⟩
        rintro place ⟨⟩
        obtain ⟨hup, hdirectory⟩ := ne_of_refusal?_eq_none hopen
        refine ⟨?_, hdirectory⟩
        have hhere := hmake.2 here rfl
        rw [hnames, List.dropLast_concat] at hhere
        rw [Path.place, hnames, List.foldl_append, ← hhere, List.foldl_cons, List.foldl_nil,
          Place.follow_of_ne (Path.ne_dot_of_ownNames hname) hup]

end FileSystem

end ShellPipeline
