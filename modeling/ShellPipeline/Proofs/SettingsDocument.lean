import ShellPipeline.Session
import ShellPipeline.Proofs.DocumentLines

/-!
# Settings are read back from their documents

The document of settings is read line by line, as the table of the values of the settings, and
from the table both complete settings and an overlay give the settings back. So do the defaults
from theirs.

* `Settings.documentLines`: the lines of a document of settings, and what each of them says;
* `Settings.parse?_toToml`, `Settings.load_toToml`: the two readings of the document of settings;
* `Settings.default_eq_unset`: the defaults are the values that fields have where they are missing;
* `Invocation.settings_of_overlay`: what a run loads is what the text of its overlay gives;
* `Settings.toToml_reloads`: settings that were dumped are dumped again.
-/

namespace ShellPipeline

open Toml

namespace Settings

/-- A line of the document of settings that gives a field its value, and what it says. -/
def fieldLine (name : String) (text : List Char) (v : Value) : List Char × List Statement :=
  (name.toList ++ ([' ', '=', ' '] ++ text), [.pair ⟨[], String.ofList name.toList⟩ v])

/-- A line of the document of settings that begins a section, and what it says. -/
def headerLine (name : String) : List Char × List Statement :=
  ('[' :: (name.toList ++ [']']), [.table ⟨[], String.ofList name.toList⟩])

/-- The lines of the document of settings, and what each of them says. -/
def documentLines (s : Settings) : List (List Char × List Statement) :=
  [headerLine "output",
    fieldLine "format" (quoteChars s.format.name.toList)
      (.string (String.ofList s.format.name.toList)),
    fieldLine "pretty" (if s.pretty then "true" else "false").toList (.boolean s.pretty),
    ([], []),
    headerLine "logging",
    fieldLine "level" (quoteChars s.level.toList) (.string (String.ofList s.level.toList)),
    fieldLine "file" (quoteChars s.file.toList) (.string (String.ofList s.file.toList))]

theorem toList_toToml (s : Settings) :
    s.toToml.toList = s.documentLines.flatMap fun l => l.1 ++ ['\n'] := by
  -- Unfolding by equations would evaluate the whole text.
  delta toToml
  simp only [documentLines, headerLine, fieldLine, String.toList_append, quote,
    String.toList_ofList, List.flatMap_cons, List.flatMap_nil]
  generalize quoteChars s.format.name.toList = format
  generalize (if s.pretty then "true" else "false").toList = pretty
  generalize quoteChars s.level.toList = level
  generalize quoteChars s.file.toList = file
  simp

theorem isLine_of_mem_documentLines (s : Settings) : ∀ l ∈ s.documentLines, IsLine l.1 l.2 := by
  simp only [documentLines, List.forall_mem_cons, List.not_mem_nil, false_implies, implies_true,
    and_true]
  refine ⟨isLine_table ?_, isLine_pair ?_ (isValue_quoteChars _),
    isLine_pair ?_ (isValue_boolean _), isLine_nil, isLine_table ?_,
    isLine_pair ?_ (isValue_quoteChars _), isLine_pair ?_ (isValue_quoteChars _)⟩
  all_goals exact ⟨by decide, List.all_eq_true.1 rfl⟩

/-- The table of the values of settings. -/
def entries (s : Settings) : Entries :=
  [("output", .table .header [("format", .string s.format.name), ("pretty", .boolean s.pretty)]),
    ("logging", .table .header [("level", .string s.level), ("file", .string s.file)])]

theorem ofStatements?_documentLines (s : Settings) :
    Entries.ofStatements? (s.documentLines.flatMap (·.2)) = some s.entries := by
  simp only [documentLines, fieldLine, headerLine, String.ofList_toList]
  rfl

theorem parse?_toToml_eq_entries (s : Settings) : Toml.parse? s.toToml = some s.entries := by
  have hmark : dropByteOrderMark s.toToml.toList = s.toToml.toList := by
    rw [toList_toToml]
    rfl
  rw [parse?_of_lines s.toList_toToml hmark s.isLine_of_mem_documentLines,
    ofStatements?_documentLines]

theorem ofToml?_entries (s : Settings) : ofToml? s.entries = some s := by
  obtain ⟨format, pretty, level, file⟩ := s
  cases format <;> rfl

theorem overlay_ofToml?_entries (s : Settings) :
    Overlay.ofToml? s.entries = some ⟨s.format, s.pretty, s.level, s.file⟩ := by
  obtain ⟨format, pretty, level, file⟩ := s
  cases format <;> rfl

theorem parse?_toToml (s : Settings) : parse? s.toToml = some s := by
  rw [parse?, parse?_toToml_eq_entries, Option.bind_some, ofToml?_entries]

theorem overlay_parse?_toToml (s : Settings) :
    Overlay.parse? s.toToml = some ⟨s.format, s.pretty, s.level, s.file⟩ := by
  rw [Overlay.parse?, parse?_toToml_eq_entries, Option.bind_some, overlay_ofToml?_entries]

theorem load_toToml (s : Settings) : load s.toToml = s := by
  rw [load, overlay_parse?_toToml]
  rfl

/-- The document of the defaults gives each field the value that it has where it is missing. -/
theorem parse?_defaultDocument : parse? defaultDocument = some unset := by
  delta parse? Toml.parse? defaultDocument
  simp only [String.toList_append]
  decide +kernel

theorem default_eq_unset : Settings.default = unset :=
  congrArg (·.getD unset) parse?_defaultDocument

end Settings

/-- A run loads the text of its overlay. -/
theorem Invocation.settings_of_overlay {i : Invocation} {path document : String}
    (hpath : overlayPath? i.environment i.home? = some path)
    (hread : i.files.read? path = some document) (reason : String) : i.settings reason =
      ⟨Settings.load document, match Overlay.parse? document with
        | some _ => ""
        | none => "shpipe: config parse error in " ++ path ++ ": " ++ reason ++ "\n"⟩ := by
  have hcomplaint : complaint ("config parse error in " ++ path ++ ": " ++ reason) =
      "shpipe: config parse error in " ++ path ++ ": " ++ reason ++ "\n" := by
    simp only [complaint, ← String.append_assoc]
    rfl
  simp only [Invocation.settings, hpath, hread, Option.bind_some, Option.map_some]
  rw [LoadedSettings.ofOverlay, Settings.load, ← hcomplaint]
  cases Overlay.parse? document with
  | none => rfl
  | some o => rfl

/-- Settings that were dumped are what a run with the dump as its overlay starts from. -/
theorem Invocation.settings_of_dump {i : Invocation} {path : String} {s : Settings}
    (hpath : overlayPath? i.environment i.home? = some path)
    (hread : i.files.read? path = some s.toToml)
    (reason : String) : i.settings reason = ⟨s, ""⟩ := by
  rw [Invocation.settings_of_overlay hpath hread, s.overlay_parse?_toToml, s.load_toToml]

/-- A run that is asked for the settings dumps them. -/
theorem run_of_dumpSettings {i : Invocation} {o : Options}
    (ho : Options.ofArguments i.arguments = .ok o) (hhelp : o.help = false)
    (hdump : o.dumpSettings = true) (sinks : Log.Sinks) (reason : String) :
    run sinks reason i = ⟨0, ((i.settings reason).settings.withOptions o).toToml,
      (i.settings reason).complaints, i.files⟩ := by
  rw [run, ho]
  simp only [hhelp, hdump, Bool.false_eq_true, if_false, if_true]

theorem run_of_dump {i : Invocation} {path : String} {s : Settings}
    (harguments : i.arguments = ["--dump-config"])
    (hpath : overlayPath? i.environment i.home? = some path)
    (hread : i.files.read? path = some s.toToml)
    (sinks : Log.Sinks) (reason : String) : run sinks reason i = ⟨0, s.toToml, "", i.files⟩ := by
  have ho : Options.ofArguments i.arguments = .ok ⟨none, false, true, false, []⟩ := by
    rw [harguments]
    rfl
  rw [run_of_dumpSettings ho rfl rfl, Invocation.settings_of_dump hpath hread]
  rfl

/-- Settings are read back from their document, by themselves and as an overlay, and a dump that
is the overlay of another run is what that run dumps. -/
theorem Settings.toToml_reloads (s : Settings) :
    Settings.parse? s.toToml = some s ∧ Settings.load s.toToml = s ∧
      (∀ (sinks : Log.Sinks) (reason path : String) (i : Invocation),
        overlayPath? i.environment i.home? = some path → i.files.read? path = some s.toToml →
          i.settings reason = ⟨s, ""⟩ ∧
            (i.arguments = ["--dump-config"] →
              run sinks reason i = ⟨0, s.toToml, "", i.files⟩)) ∧
      ∀ (sinks sinks' : Log.Sinks) (reason reason' path : String) (i j : Invocation) (o : Options),
        Options.ofArguments i.arguments = .ok o → o.help = false → o.dumpSettings = true →
          j.arguments = ["--dump-config"] → overlayPath? j.environment j.home? = some path →
            j.files.read? path = some (run sinks reason i).stdout →
              (run sinks' reason' j).stdout = (run sinks reason i).stdout := by
  refine ⟨s.parse?_toToml, s.load_toToml, ?_, ?_⟩
  · intro sinks reason path i hpath hread
    exact ⟨Invocation.settings_of_dump hpath hread reason,
      fun harguments => run_of_dump harguments hpath hread sinks reason⟩
  · intro sinks sinks' reason reason' path i j o ho hhelp hdump harguments hpath hread
    rw [run_of_dumpSettings ho hhelp hdump] at hread ⊢
    rw [run_of_dump harguments hpath hread]

/-- Strings with quotes of both kinds, of which one has lines and one a control character; and a
dump of flags that is the overlay in the home directory. -/
theorem Settings.toToml_reloads_quotes :
    let s : Settings := ⟨.json, true, "'''\"\"\"\n\\", "\x7f\"\"\"\"'"⟩
    let i : Invocation :=
      ⟨["--dump-config"], [("SHPIPE_CONFIG", "c")], [], FileTree.mk [(["c"], .file s.toToml)]⟩
    let j : Invocation := ⟨["--json", "--dump-config"], [], [], FileTree.mk []⟩
    let k : Invocation := ⟨["--dump-config"], [("HOME", "/h")], [],
      ⟨⟨[(["h", ".config", "shpipe", "config.toml"], .file (run "" "" j).stdout)]⟩, ["d"], [],
        none⟩⟩
    i.settings "" = ⟨s, ""⟩ ∧ run "" "" i = ⟨0, s.toToml, "", i.files⟩ ∧
      (run "" "" k).stdout = (run "" "" j).stdout := by
  intro s i j k
  have hreloads := (toToml_reloads s).2.2.1 "" "" "c" i rfl rfl
  have hpath : overlayPath? k.environment k.home? = some "/h/.config/shpipe/config.toml" := by
    decide +kernel
  exact ⟨hreloads.1, hreloads.2 rfl,
    (toToml_reloads s).2.2.2 "" "" "" "" _ j k ⟨some .json, false, true, false, []⟩ rfl rfl rfl
      rfl hpath rfl⟩

end ShellPipeline
