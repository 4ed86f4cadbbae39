import ShellPipeline.Proofs.SettingsDocument

/-!
# Overlays and complete settings

A document is read as complete settings, with a value of its own for each field that is missing,
or as an overlay of the defaults. Field by field the two readings agree
(`Settings.ofFields?_eq_map_apply`), as the defaults give each field the value that it has where
it is missing. They differ where a section is an array that lists its fields in their order:
complete settings may leave out the last ones, an overlay may not.

* `listsAllFields`: no section leaves out any of the fields that it lists;
* `Settings.load_eq`: what the overlay of a document makes of the defaults, for every document;
* `Settings.IsGivenBy`: settings field by field, from the tables of a document and the defaults;
* `Settings.loadsWhole_of_noSectionIsArray`: the two readings agree where no section is an array.
-/

namespace ShellPipeline

section Field

variable {α : Type} {read? : Toml.Value → Option α}

theorem readFieldOr?_eq_map_readField? (missing : α) (fields : Fields) (place : Nat)
    (name : String) : readFieldOr? read? missing fields place name =
      (readField? read? fields place name).map (·.getD missing) := by
  unfold readFieldOr? readField?
  cases fields.get? place name with
  | none => rfl
  | some v => cases hv : read? v <;> simp [hv]

end Field

/-- Complete settings are the values of missing fields, changed by an overlay. -/
theorem Settings.ofFields?_eq_map_apply (output logging : Fields) :
    Settings.ofFields? output logging =
      (Overlay.ofFields? output logging).map Settings.unset.apply := by
  simp only [Settings.ofFields?, Overlay.ofFields?, readFieldOr?_eq_map_readField?]
  cases readField? Format.ofValue? output 0 "format" with
  | none => rfl
  | some format =>
    cases readField? boolean? output 1 "pretty" with
    | none => rfl
    | some pretty =>
      cases readField? string? logging 0 "level" with
      | none => rfl
      | some level => cases readField? string? logging 1 "file" <;> rfl

/-- Whether each section that lists its fields in their order lists all of them. -/
def listsAllFields (document : Toml.Entries) : Bool :=
  ["output", "logging"].all fun name => (section? document name).all (·.isFull 2)

/-- An overlay is read where complete settings are, if no section leaves out a field it lists. -/
theorem Overlay.map_apply_ofToml? (document : Toml.Entries) :
    (Overlay.ofToml? document).map Settings.unset.apply =
      if listsAllFields document then Settings.ofToml? document else none := by
  simp only [Overlay.ofToml?, Settings.ofToml?, listsAllFields, List.all_cons, List.all_nil,
    Bool.and_true]
  cases section? document "output" with
  | none => simp
  | some output =>
    cases section? document "logging" with
    | none => simp
    | some logging =>
      simp only [Option.all_some, Option.bind_eq_bind, Option.bind_some]
      rw [Settings.ofFields?_eq_map_apply]
      split <;> rfl

/-- The settings of an overlay, with other settings for documents that have none. -/
theorem Overlay.getD_map_apply_parse? (document : String) (others : Settings) :
    ((Overlay.parse? document).map Settings.unset.apply).getD others =
      match Settings.parse? document with
      | none => others
      | some s => if (Toml.parse? document).all listsAllFields then s else others := by
  rw [Overlay.parse?, Settings.parse?]
  cases Toml.parse? document with
  | none => rfl
  | some entries =>
    rw [Option.bind_some, Option.bind_some, Overlay.map_apply_ofToml?, Option.all_some]
    split <;> cases Settings.ofToml? entries <;> rfl

/-- A document that holds settings gives all of them, unless a section leaves out fields that it
lists; any other document changes nothing. -/
theorem Settings.load_eq (document : String) :
    Settings.load document =
      match Settings.parse? document with
      | none => Settings.default
      | some s =>
        if (Toml.parse? document).all listsAllFields then s else Settings.default := by
  have happly : Settings.load document =
      ((Overlay.parse? document).map Settings.unset.apply).getD Settings.default := by
    rw [load, default_eq_unset]
    cases Overlay.parse? document <;> rfl
  rw [happly, Overlay.getD_map_apply_parse?]

/-- A section that lists only its first field is a section of complete settings, but makes an
overlay faulty. -/
example : Settings.parse? "logging = [\"info\"]\n" = some ⟨.text, false, "info", ""⟩ ∧
    Overlay.parse? "logging = [\"info\"]\n" = none := by decide +kernel

/-! ## Sections that are tables -/

/-- Whether neither section of a document is an array. -/
def noSectionIsArray (document : Toml.Entries) : Bool :=
  ["output", "logging"].all fun name =>
    match document.lookup name with
    | some (.array _) | some (.tables _) => false
    | _ => true

/-- The entries of a section of a document. -/
def sectionEntries (document : Toml.Entries) (name : String) : Toml.Entries :=
  match document.lookup name with
  | some (.table _ entries) => entries
  | _ => []

/-- A section that is given is a table, or a time, which names no field. -/
def IsSection (document : Toml.Entries) (name : String) : Prop :=
  ∀ v, document.lookup name = some v →
    (∃ origin entries, v = .table origin entries) ∨ ∃ literal, v = .dateTime literal

/-- A value that names a format: a string, or a table with the one name. -/
def Format.IsNamedBy (f : Format) (v : Toml.Value) : Prop :=
  v = .string f.name ∨
    ∃ origin own, v = .table origin [(f.name, own)] ∧ isEmptyValue own = true

/-- Each field that a document gives has the value that is given, which is of the kind of the field,
and each other field has its default. -/
structure Settings.IsGivenBy (s : Settings) (document : Toml.Entries) : Prop where
  output_isSection : IsSection document "output"
  logging_isSection : IsSection document "logging"
  format : match (sectionEntries document "output").lookup "format" with
    | some v => s.format.IsNamedBy v
    | none => s.format = Settings.default.format
  pretty : match (sectionEntries document "output").lookup "pretty" with
    | some v => v = .boolean s.pretty
    | none => s.pretty = Settings.default.pretty
  level : match (sectionEntries document "logging").lookup "level" with
    | some v => v = .string s.level
    | none => s.level = Settings.default.level
  file : match (sectionEntries document "logging").lookup "file" with
    | some v => v = .string s.file
    | none => s.file = Settings.default.file

/-- Loading a text gives what the text holds when it is read directly, as a whole, and the defaults
where it does not hold settings. -/
structure Settings.LoadsWhole (document : String) : Prop where
  accepted : ∀ s, Settings.parse? document = some s → Settings.load document = s
  rejected : Settings.parse? document = none → Settings.load document = Settings.default
  /-- The two readings take the same texts. -/
  overlay_isSome : (Overlay.parse? document).isSome = (Settings.parse? document).isSome
  /-- Which texts those are, and what they hold. -/
  given : ∀ s, Settings.parse? document = some s ↔
    ∃ entries, Toml.parse? document = some entries ∧ s.IsGivenBy entries
  default_eq : Settings.default = ⟨.text, false, "warn", ""⟩
  /-- A run that finds the text as its overlay starts from what is loaded, and complains of a text
  that does not hold settings. -/
  run : ∀ (i : Invocation) (path reason : String), overlayPath? i.environment i.home? = some path →
    i.files.read? path = some document → i.settings reason =
      ⟨Settings.load document, match Settings.parse? document with
        | some _ => ""
        | none => "shpipe: config parse error in " ++ path ++ ": " ++ reason ++ "\n"⟩

theorem Format.ofName?_eq_some_iff {name : String} {f : Format} :
    ofName? name = some f ↔ name = f.name := by
  constructor
  · intro h
    unfold ofName? at h
    split at h <;> cases h <;> rfl
  · rintro rfl
    exact f.ofName?_name

theorem Format.ofValue?_eq_some_iff {v : Toml.Value} {f : Format} :
    ofValue? v = some f ↔ f.IsNamedBy v := by
  constructor
  · intro h
    unfold ofValue? at h
    split at h
    · exact .inl (congrArg _ (ofName?_eq_some_iff.1 h))
    · next origin name own =>
      split at h
      · next hempty => exact .inr ⟨origin, own, by rw [ofName?_eq_some_iff.1 h], hempty⟩
      · cases h
    · cases h
  · rintro (rfl | ⟨origin, own, rfl, hempty⟩)
    · exact f.ofName?_name
    · rw [ofValue?, if_pos hempty, f.ofName?_name]

theorem boolean?_eq_some_iff {v : Toml.Value} {b : Bool} :
    boolean? v = some b ↔ v = .boolean b := by
  cases v <;> simp [boolean?]

theorem string?_eq_some_iff {v : Toml.Value} {s : String} :
    string? v = some s ↔ v = .string s := by
  cases v <;> simp [string?]

theorem readFieldOr?_named {α : Type} {read? : Toml.Value → Option α} {missing a : α}
    {entries : Toml.Entries} {place : Nat} {name : String} :
    readFieldOr? read? missing (.named entries) place name = some a ↔
      match entries.lookup name with
      | some v => read? v = some a
      | none => a = missing := by
  simp only [readFieldOr?, Fields.get?]
  cases entries.lookup name with
  | none => exact Option.some_inj.trans eq_comm
  | some v => exact Iff.rfl

/-- A section that is no array names its fields. -/
theorem section?_eq_some_iff {document : Toml.Entries} (h : noSectionIsArray document = true)
    {name : String} (hname : name ∈ ["output", "logging"]) {fields : Fields} :
    (section? document name) = some fields ↔
      IsSection document name ∧ fields = .named (sectionEntries document name) := by
  have harray := List.all_eq_true.1 h name hname
  unfold section? IsSection sectionEntries
  cases hlookup : document.lookup name with
  | none => simp [eq_comm]
  | some v =>
    rw [hlookup] at harray
    cases v with
    | array | tables => cases harray
    | table | dateTime => simp [Fields.ofValue?, eq_comm]
    | string | boolean | integer | float => simp [Fields.ofValue?]

theorem listsAllFields_of_noSectionIsArray {document : Toml.Entries}
    (h : noSectionIsArray document = true) : listsAllFields document = true := by
  refine List.all_eq_true.2 fun name hname => (Option.all_eq_true _ _).2 fun fields hfields => ?_
  rw [((section?_eq_some_iff h hname).1 hfields).2]
  rfl

theorem Settings.ofFields?_eq_some_iff {output logging : Fields} {s : Settings} :
    Settings.ofFields? output logging = some s ↔
      readFieldOr? Format.ofValue? unset.format output 0 "format" = some s.format ∧
      readFieldOr? boolean? unset.pretty output 1 "pretty" = some s.pretty ∧
      readFieldOr? string? unset.level logging 0 "level" = some s.level ∧
      readFieldOr? string? unset.file logging 1 "file" = some s.file := by
  simp only [Settings.ofFields?, Option.bind_eq_bind, Option.bind_eq_some_iff, Option.pure_def,
    Option.some_inj]
  constructor
  · rintro ⟨format, hformat, pretty, hpretty, level, hlevel, file, hfile, rfl⟩
    exact ⟨hformat, hpretty, hlevel, hfile⟩
  · rintro ⟨hformat, hpretty, hlevel, hfile⟩
    exact ⟨_, hformat, _, hpretty, _, hlevel, _, hfile, rfl⟩

theorem Settings.ofToml?_eq_some_iff {document : Toml.Entries}
    (h : noSectionIsArray document = true) {s : Settings} :
    Settings.ofToml? document = some s ↔ s.IsGivenBy document := by
  have hsections : Settings.ofToml? document = some s ↔
      IsSection document "output" ∧ IsSection document "logging" ∧
        Settings.ofFields? (.named (sectionEntries document "output"))
          (.named (sectionEntries document "logging")) = some s := by
    simp only [Settings.ofToml?, Option.bind_eq_bind, Option.bind_eq_some_iff]
    constructor
    · rintro ⟨output, houtput, logging, hlogging, hs⟩
      obtain ⟨hout, rfl⟩ := (section?_eq_some_iff h (.head _)).1 houtput
      obtain ⟨hlog, rfl⟩ := (section?_eq_some_iff h (.tail _ (.head _))).1 hlogging
      exact ⟨hout, hlog, hs⟩
    · rintro ⟨houtput, hlogging, hs⟩
      exact ⟨_, (section?_eq_some_iff h (.head _)).2 ⟨houtput, rfl⟩, _,
        (section?_eq_some_iff h (.tail _ (.head _))).2 ⟨hlogging, rfl⟩, hs⟩
  rw [hsections, Settings.ofFields?_eq_some_iff, ← default_eq_unset]
  simp only [readFieldOr?_named, Format.ofValue?_eq_some_iff, boolean?_eq_some_iff,
    string?_eq_some_iff]
  exact ⟨fun ⟨h₁, h₂, h₃, h₄, h₅, h₆⟩ => ⟨h₁, h₂, h₃, h₄, h₅, h₆⟩,
    fun ⟨h₁, h₂, h₃, h₄, h₅, h₆⟩ => ⟨h₁, h₂, h₃, h₄, h₅, h₆⟩⟩

/-- If no section is an array, an overlay is what the text holds when it is read directly, and all
of it or nothing. -/
theorem Settings.loadsWhole_of_noSectionIsArray (document : String)
    (h : (Toml.parse? document).all noSectionIsArray = true) : Settings.LoadsWhole document := by
  have hlists : (Toml.parse? document).all listsAllFields = true :=
    (Option.all_eq_true _ _).2 fun entries hentries =>
      listsAllFields_of_noSectionIsArray ((Option.all_eq_true _ _).1 h entries hentries)
  have hload : Settings.load document = (Settings.parse? document).getD Settings.default := by
    rw [Settings.load_eq]
    cases Settings.parse? document with
    | none => rw [Option.getD_none]
    | some s => exact if_pos hlists
  have hsome : (Overlay.parse? document).isSome = (Settings.parse? document).isSome := by
    rw [Overlay.parse?, Settings.parse?]
    cases hentries : Toml.parse? document with
    | none => rfl
    | some entries =>
      rw [hentries, Option.all_some] at hlists
      rw [Option.bind_some, Option.bind_some, ← Option.isSome_map, Overlay.map_apply_ofToml?,
        if_pos hlists]
  exact {
    accepted := fun s hs => by rw [hload, hs, Option.getD_some]
    rejected := fun hnone => by rw [hload, hnone, Option.getD_none]
    overlay_isSome := hsome
    given := fun s => by
      rw [Settings.parse?, Option.bind_eq_some_iff]
      refine exists_congr fun entries => and_congr_right fun hentries => ?_
      exact Settings.ofToml?_eq_some_iff ((Option.all_eq_true _ _).1 h entries hentries)
    default_eq := Settings.default_eq_unset
    run := fun i path reason hpath hread => by
      rw [Invocation.settings_of_overlay hpath hread]
      cases hoverlay : Overlay.parse? document with
      | none =>
        rw [hoverlay, Option.isSome_none, eq_comm, Option.isSome_eq_false_iff,
          Option.isNone_iff_eq_none] at hsome
        rw [hsome]
      | some o =>
        rw [hoverlay, Option.isSome_some, eq_comm] at hsome
        obtain ⟨s, hs⟩ := Option.isSome_iff_exists.1 hsome
        rw [hs] }

/-- Sections of which parts are missing, with a name that is not known; and a section that is in
order beside one that is not. -/
theorem Settings.loadsWhole_of_noSectionIsArray_partial :
    (Toml.parse? "output.format = \"json\" # mine\nextra = 1\n[logging]\n\"file\" = '~/x'\n").all
        noSectionIsArray = true ∧
      Settings.load "output.format = \"json\" # mine\nextra = 1\n[logging]\n\"file\" = '~/x'\n" =
        ⟨.json, false, "warn", "~/x"⟩ ∧
      (Toml.parse? "[output]\nformat = \"json\"\n[logging]\nlevel = 3\n").all
        noSectionIsArray = true ∧
      Settings.load "[output]\nformat = \"json\"\n[logging]\nlevel = 3\n" =
        ⟨.text, false, "warn", ""⟩ := by
  have hgood :
      (Toml.parse? "output.format = \"json\" # mine\nextra = 1\n[logging]\n\"file\" = '~/x'\n").all
        noSectionIsArray = true := by decide +kernel
  have hbad : (Toml.parse? "[output]\nformat = \"json\"\n[logging]\nlevel = 3\n").all
      noSectionIsArray = true := by decide +kernel
  have hloads := loadsWhole_of_noSectionIsArray _ hbad
  exact ⟨hgood, (loadsWhole_of_noSectionIsArray _ hgood).accepted _ (by decide +kernel), hbad,
    (hloads.rejected (by decide +kernel)).trans hloads.default_eq⟩

end ShellPipeline
