import ShellPipeline.Options

/-!
# What a list of arguments means

The arguments before the first `--` are flags and lines in any order, those behind it are lines.
`Options.meaning` says what they ask for all at once, without reading one after the other: the last
format counts, every other flag counts if it stands anywhere, and all other words are lines.

* `Options.read_eq`: reading the arguments gives their meaning, or refuses the first word that is
  unknown;
* `Options.ofArguments_insert`: a flag that asks for no format adds the same wherever it stands;
* `Options.HasMeaning`: what holds of every list of arguments.
-/

namespace ShellPipeline.Options

/-- The arguments before the first `--`, which are all of them if there is none. -/
def leading (arguments : List String) : List String := arguments.takeWhile (· != "--")

/-- The arguments behind the first `--`. -/
def trailing (arguments : List String) : List String := (arguments.dropWhile (· != "--")).drop 1

/-- The flags that ask for a format; the last one counts. -/
def formatFlags : List String := ["--json", "--text"]

/-- The flags that ask for something else; it counts only whether one is there. -/
def otherFlags : List String := ["--pretty", "--dump-config", "--help", "-h"]

/-- The words that are no lines. -/
def flags : List String := formatFlags ++ otherFlags

/-- Whether a word begins with two dashes and is no flag. -/
def isUnknown (word : String) : Bool := isDashed word && !flags.contains word

def formatOf? : String → Option Format
  | "--json" => some .json
  | "--text" => some .text
  | _ => none

/-- What some words before the first `--` ask for, with some lines behind it. -/
def meaning (words lines : List String) : Options where
  format := (words.filterMap formatOf?).getLast?
  pretty := words.contains "--pretty"
  dumpSettings := words.contains "--dump-config"
  help := words.contains "--help" || words.contains "-h"
  lines := words.filter (!flags.contains ·) ++ lines

/-- What holds of every list of arguments. -/
structure HasMeaning (arguments : List String) : Prop where
  /-- Only a word that begins with two dashes, is no flag and stands before the first `--` is
  refused. -/
  refused_iff : (∃ e, ofArguments arguments = .error e) ↔
    ∃ word ∈ leading arguments, isDashed word = true ∧ word ∉ flags
  /-- The error names the first such word. -/
  error_iff : ∀ e, ofArguments arguments = .error e ↔ ∃ front word back,
    leading arguments = front ++ word :: back ∧ (∀ w ∈ front, isUnknown w = false) ∧
      isUnknown word = true ∧ e = .unknown word
  accepted : (∀ word ∈ leading arguments, isUnknown word = false) →
    ofArguments arguments = .ok (meaning (leading arguments) (trailing arguments))
  /-- A flag that asks for no format may stand anywhere before the first `--`. -/
  moved : ∀ flag ∈ otherFlags, ∀ front middle back, "--" ∉ front ++ middle →
    arguments = front ++ flag :: (middle ++ back) →
    ofArguments (front ++ (middle ++ flag :: back)) = ofArguments arguments
  /-- Such a flag may stand there again. -/
  repeated : ∀ flag ∈ otherFlags, flag ∈ leading arguments → ∀ front back, "--" ∉ front →
    arguments = front ++ back → ofArguments (front ++ flag :: back) = ofArguments arguments

/-! ## The first `--` -/

theorem leading_append {front : List String} (h : "--" ∉ front) (back : List String) :
    leading (front ++ back) = front ++ leading back :=
  List.takeWhile_append_of_pos fun _ hword => bne_iff_ne.2 fun heq => h (heq ▸ hword)

theorem trailing_append {front : List String} (h : "--" ∉ front) (back : List String) :
    trailing (front ++ back) = trailing back :=
  congrArg (List.drop 1) <| List.dropWhile_append_of_pos fun _ hword =>
    bne_iff_ne.2 fun heq => h (heq ▸ hword)

theorem leading_cons {word : String} (h : word ≠ "--") (words : List String) :
    leading (word :: words) = word :: leading words :=
  leading_append (mt List.mem_singleton.1 h.symm) words

theorem trailing_cons {word : String} (h : word ≠ "--") (words : List String) :
    trailing (word :: words) = trailing words :=
  trailing_append (mt List.mem_singleton.1 h.symm) words

/-! ## One word after the other -/

/-- What is asked for first and then. -/
def merge (o p : Options) : Options where
  format := p.format.or o.format
  pretty := o.pretty || p.pretty
  dumpSettings := o.dumpSettings || p.dumpSettings
  help := o.help || p.help
  lines := o.lines ++ p.lines

theorem empty_merge (o : Options) : empty.merge o = o := by
  simp [merge, empty]

theorem merge_assoc (o p q : Options) : (o.merge p).merge q = o.merge (p.merge q) := by
  simp [merge, Bool.or_assoc, Option.or_assoc]

theorem meaning_append (words words' lines : List String) :
    meaning (words ++ words') lines = (meaning words []).merge (meaning words' lines) := by
  simp [meaning, merge, Bool.or_assoc, Bool.or_left_comm]

theorem isUnknown_of_mem_flags {word : String} (h : word ∈ flags) : isUnknown word = false := by
  simp [isUnknown, h]

theorem meaning_of_not_mem_flags {word : String} (h : word ∉ flags) :
    meaning [word] [] = { empty with lines := [word] } := by
  simp only [flags, formatFlags, otherFlags, List.cons_append, List.nil_append, List.mem_cons,
    List.not_mem_nil, or_false, not_or] at h
  simp [meaning, empty, formatOf?, flags, formatFlags, otherFlags, h, eq_comm]

/-- A word before the first `--` is refused, or adds what it asks for. -/
theorem read_cons {word : String} (h : word ≠ "--") (o : Options) (words : List String) :
    o.read (word :: words) = if isUnknown word then .error (.unknown word)
      else (o.merge (meaning [word] [])).read words := by
  by_cases hflag : word ∈ flags
  · rw [isUnknown_of_mem_flags hflag]
    simp only [flags, formatFlags, otherFlags, List.cons_append, List.nil_append, List.mem_cons,
      List.not_mem_nil, or_false] at hflag
    rcases hflag with rfl | rfl | rfl | rfl | rfl | rfl <;>
      simp [read, merge, meaning, formatOf?, flags, formatFlags, otherFlags]
  · rw [meaning_of_not_mem_flags hflag, isUnknown, List.contains_eq_mem, decide_eq_false hflag]
    simp only [flags, formatFlags, otherFlags, List.cons_append, List.nil_append, List.mem_cons,
      List.not_mem_nil, or_false, not_or] at hflag
    simp [read, merge, empty, hflag]

theorem read_eq (o : Options) (arguments : List String) :
    o.read arguments = match (leading arguments).find? isUnknown with
      | some word => .error (.unknown word)
      | none => .ok (o.merge (meaning (leading arguments) (trailing arguments))) := by
  induction arguments generalizing o with
  | nil => simp [read, leading, trailing, meaning, merge]
  | cons word words ih =>
    by_cases h : word = "--"
    · subst h
      simp [read, leading, trailing, meaning, merge]
    · rw [read_cons h, leading_cons h, trailing_cons h, List.find?_cons]
      cases hunknown : isUnknown word with
      | true => rfl
      | false =>
        have hmeaning := meaning_append [word] (leading words) (trailing words)
        rw [if_neg Bool.false_ne_true, ih, merge_assoc, ← hmeaning]
        rfl

theorem ofArguments_eq (arguments : List String) :
    ofArguments arguments = match (leading arguments).find? isUnknown with
      | some word => .error (.unknown word)
      | none => .ok (meaning (leading arguments) (trailing arguments)) := by
  rw [ofArguments, read_eq, empty_merge]

/-! ## Flags that may stand anywhere -/

theorem isUnknown_of_mem_otherFlags {flag : String} (h : flag ∈ otherFlags) :
    isUnknown flag = false :=
  isUnknown_of_mem_flags (List.mem_append_right formatFlags h)

theorem ne_of_mem_otherFlags {flag : String} (h : flag ∈ otherFlags) : flag ≠ "--" := by
  rintro rfl
  exact absurd h (by decide)

/-- A flag that asks for no format may be asked for before or after anything else. -/
theorem meaning_merge_comm {flag : String} (h : flag ∈ otherFlags) (o : Options) :
    (meaning [flag] []).merge o = o.merge (meaning [flag] []) := by
  simp only [otherFlags, List.mem_cons, List.not_mem_nil, or_false] at h
  rcases h with rfl | rfl | rfl | rfl <;>
    simp [meaning, merge, formatOf?, flags, formatFlags, otherFlags]

theorem meaning_merge_of_mem {flag : String} {words : List String} (h : flag ∈ otherFlags)
    (hmem : flag ∈ words) (lines : List String) :
    (meaning [flag] []).merge (meaning words lines) = meaning words lines := by
  simp only [otherFlags, List.mem_cons, List.not_mem_nil, or_false] at h
  rcases h with rfl | rfl | rfl | rfl <;>
    simp [meaning, merge, formatOf?, flags, formatFlags, otherFlags, hmem]

theorem meaning_insert {flag : String} (h : flag ∈ otherFlags) (front back lines : List String) :
    meaning (front ++ flag :: back) lines =
      (meaning [flag] []).merge (meaning (front ++ back) lines) :=
  calc meaning (front ++ flag :: back) lines
    _ = (meaning front []).merge ((meaning [flag] []).merge (meaning back lines)) := by
      rw [meaning_append, ← meaning_append [flag], List.singleton_append]
    _ = ((meaning [flag] []).merge (meaning front [])).merge (meaning back lines) := by
      rw [← merge_assoc, meaning_merge_comm h]
    _ = (meaning [flag] []).merge (meaning (front ++ back) lines) := by
      rw [merge_assoc, ← meaning_append]

/-- Such a flag adds what it asks for, wherever it stands before the first `--`. -/
theorem ofArguments_insert {flag : String} (h : flag ∈ otherFlags) {front : List String}
    (hfront : "--" ∉ front) (back : List String) : ofArguments (front ++ flag :: back) =
      (ofArguments (front ++ back)).map (meaning [flag] []).merge := by
  have hne := ne_of_mem_otherFlags h
  rw [ofArguments_eq, ofArguments_eq, leading_append hfront, leading_append hfront,
    trailing_append hfront, trailing_append hfront, leading_cons hne, trailing_cons hne,
    List.find?_append, List.find?_append, List.find?_cons, isUnknown_of_mem_otherFlags h]
  cases (front.find? isUnknown).or ((leading back).find? isUnknown) with
  | some word => rfl
  | none => exact congrArg Except.ok (meaning_insert h front (leading back) (trailing back))

theorem ofArguments_repeat {flag : String} (h : flag ∈ otherFlags) {front back : List String}
    (hfront : "--" ∉ front) (hmem : flag ∈ leading (front ++ back)) :
    ofArguments (front ++ flag :: back) = ofArguments (front ++ back) := by
  rw [ofArguments_insert h hfront, ofArguments_eq]
  cases (leading (front ++ back)).find? isUnknown with
  | some word => rfl
  | none => exact congrArg Except.ok (meaning_merge_of_mem h hmem _)

/-! ## All arguments -/

theorem isUnknown_iff {word : String} :
    isUnknown word = true ↔ isDashed word = true ∧ word ∉ flags := by
  simp [isUnknown]

theorem ofArguments_eq_error_iff {arguments : List String} {e : OptionError} :
    ofArguments arguments = .error e ↔
      ∃ word, (leading arguments).find? isUnknown = some word ∧ e = .unknown word := by
  rw [ofArguments_eq]
  cases (leading arguments).find? isUnknown with
  | none => simp
  | some word => simp [eq_comm]

theorem exists_ofArguments_eq_error_iff {arguments : List String} :
    (∃ e, ofArguments arguments = .error e) ↔
      ∃ word ∈ leading arguments, isUnknown word = true := by
  rw [← List.find?_isSome, Option.isSome_iff_exists]
  constructor
  · rintro ⟨e, he⟩
    obtain ⟨word, hword, -⟩ := ofArguments_eq_error_iff.1 he
    exact ⟨word, hword⟩
  · rintro ⟨word, hword⟩
    exact ⟨.unknown word, ofArguments_eq_error_iff.2 ⟨word, hword, rfl⟩⟩

/-- Every list of arguments has its meaning. -/
theorem hasMeaning_ofArguments (arguments : List String) : HasMeaning arguments where
  refused_iff := by simp only [exists_ofArguments_eq_error_iff, isUnknown_iff]
  error_iff := fun e => by
    simp only [ofArguments_eq_error_iff, List.find?_eq_some_iff_append]
    constructor
    · rintro ⟨word, ⟨hword, front, back, hsplit, hfront⟩, rfl⟩
      exact ⟨front, word, back, hsplit, by simpa using hfront, hword, rfl⟩
    · rintro ⟨front, word, back, hsplit, hfront, hword, rfl⟩
      exact ⟨word, ⟨hword, front, back, hsplit, by simpa using hfront⟩, rfl⟩
  accepted := fun h => by
    have hnone : (leading arguments).find? isUnknown = none :=
      List.find?_eq_none.2 fun word hword => Bool.eq_false_iff.1 (h word hword)
    rw [ofArguments_eq, hnone]
  moved := fun flag hflag front middle back hdashes harguments => by
    have hfront : "--" ∉ front := fun hmem => hdashes (List.mem_append_left middle hmem)
    rw [harguments, ofArguments_insert hflag hfront, ← List.append_assoc,
      ofArguments_insert hflag hdashes, List.append_assoc]
  repeated := fun flag hflag hmem front back hfront harguments => by
    rw [harguments] at hmem ⊢
    exact ofArguments_repeat hflag hfront hmem

/-- A word with one dash is a line, and so is every word behind `--`. -/
example : ofArguments ["--json", "-x", "--text", "-h", "a", "--", "--json", "--"] =
    .ok ⟨some .text, false, false, true, ["-x", "a", "--json", "--"]⟩ := rfl

end ShellPipeline.Options
