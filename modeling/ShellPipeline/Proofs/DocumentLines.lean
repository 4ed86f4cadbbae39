import ShellPipeline.Toml.Document
import ShellPipeline.Proofs.QuotedStrings

/-!
# Documents that are made of lines

Lines that each add their statements to what the lines behind them say (`IsLine`) make up a
document that says what they say, in their order (`parse?_of_lines`). Such lines are empty ones
(`isLine_nil`), headers of tables (`isLine_table`), and bare names with a value that is written
behind them (`isLine_pair`), of which strings and booleans are cases.
-/

namespace ShellPipeline

namespace Toml

/-! ## Keys -/

section Key

variable {name r : List Char}

theorem skipBlanks_of_not_isBlank {c : Char} (r : List Char) (hc : Text.isBlank c = false) :
    Text.skipBlanks (c :: r) = c :: r := by
  simp [Text.skipBlanks, hc]

/-- A name that is written without quotes. -/
structure IsBare (name : List Char) : Prop where
  ne_nil : name ≠ []
  isBareChar : ∀ c ∈ name, isBareChar c = true

theorem IsBare.exists_cons (h : IsBare name) :
    ∃ c s, name = c :: s ∧ Toml.isBareChar c = true := by
  cases name with
  | nil => exact absurd rfl h.ne_nil
  | cons c s => exact ⟨c, s, rfl, h.isBareChar c List.mem_cons_self⟩

theorem not_isBlank_of_isBareChar {c : Char} (h : isBareChar c = true) :
    Text.isBlank c = false := by
  refine Bool.eq_false_iff.2 fun hblank => ?_
  simp only [Text.isBlank, Bool.or_eq_true, beq_iff_eq] at hblank
  rcases hblank with rfl | rfl <;> cases h

theorem readName?_bare (h : IsBare name) (hr : ∀ c ∈ r.head?, isBareChar c = false) :
    readName? (name ++ r) = some (String.ofList name, r) := by
  have htake : (name ++ r).takeWhile isBareChar = name := by
    rw [List.takeWhile_append_of_pos h.isBareChar, List.append_right_eq_self]
    cases r with
    | nil => rfl
    | cons c r => simp [hr c rfl]
  have hdrop : (name ++ r).dropWhile isBareChar = r := by
    rw [List.dropWhile_append_of_pos h.isBareChar]
    cases r with
    | nil => rfl
    | cons c r => simp [hr c rfl]
  obtain ⟨c, s, rfl, hc⟩ := h.exists_cons
  unfold readName?
  split
  · next heq =>
    cases heq
    cases hc
  · next heq =>
    cases heq
    cases hc
  · rw [htake, hdrop]
    rfl

/-- A bare name is read as a key, together with the blanks behind it. -/
theorem readKey?_bare (h : IsBare name) (hr : ∀ c ∈ r.head?, isBareChar c = false)
    (hdot : (Text.skipBlanks r).head? ≠ some '.') :
    readKey? (name ++ r) = some (⟨[], String.ofList name⟩, Text.skipBlanks r) := by
  have hskip : Text.skipBlanks (name ++ r) = name ++ r := by
    obtain ⟨c, s, rfl, hc⟩ := h.exists_cons
    exact skipBlanks_of_not_isBlank _ (not_isBlank_of_isBareChar hc)
  rw [readKey?, show nestingLimit - 1 = 78 + 1 from rfl, readNames?, hskip, readName?_bare h hr]
  dsimp only
  split
  · next heq => exact absurd (by rw [heq]; rfl) hdot
  · rfl

end Key

/-! ## Statements -/

/-- A line that adds the given statements to a document. -/
def IsLine (line : List Char) (statements : List Statement) : Prop :=
  ∀ r, readStatements? (line ++ '\n' :: r) = (readStatements? r).map (statements ++ ·)

theorem endOfLine?_lineFeed (r : List Char) : endOfLine? ('\n' :: r) = some r := rfl

theorem isLine_nil : IsLine [] [] := by
  intro r
  rw [List.nil_append, readStatements?, skipBlanks_of_not_isBlank r rfl]
  simp [beginsNoStatement, endOfLine?_lineFeed]

/-- A line with one statement. -/
theorem isLine_of_readStatement? {c : Char} {line : List Char} {statement : Statement}
    (hblank : Text.isBlank c = false) (hbegins : beginsNoStatement (c :: line) = false)
    (h : ∀ r, readStatement? (c :: line ++ '\n' :: r) = some (statement, '\n' :: r)) :
    IsLine (c :: line) [statement] := by
  intro r
  have hlength : r.length < (c :: (line ++ '\n' :: r)).length := by
    simp only [List.length_cons, List.length_append]
    omega
  have hbegins' : beginsNoStatement (c :: (line ++ '\n' :: r)) = false := hbegins
  have hread : readStatement? (c :: (line ++ '\n' :: r)) = some (statement, '\n' :: r) := h r
  rw [List.cons_append, readStatements?, skipBlanks_of_not_isBlank _ hblank]
  simp only [hbegins', hread, Bool.false_eq_true, if_false, Option.map_some,
    endOfLine?_lineFeed, hlength, if_true]

/-- A text that is a value at the end of a line. -/
structure IsValue (text : List Char) (v : Value) : Prop where
  starts : ∀ r, Text.skipBlanks (text ++ '\n' :: r) = text ++ '\n' :: r
  reads : ∀ r, readValue? (nestingLimit - 1) (text ++ '\n' :: r) = some (v, '\n' :: r)

theorem isValue_quoteChars (s : List Char) :
    IsValue (quoteChars s) (.string (String.ofList s)) := by
  obtain ⟨t, ht⟩ := quoteChars_eq_cons s
  constructor
  · intro r
    rcases ht with ht | ht <;> rw [ht] <;> rfl
  · intro r
    have hread : readString? (quoteChars s ++ '\n' :: r) = some (String.ofList s, '\n' :: r) :=
      readString?_quoteChars s (by simp) (by simp)
    rcases ht with ht | ht
    · rw [ht, List.cons_append] at hread ⊢
      rw [readValue?.eq_1, hread]
      rfl
    · rw [ht, List.cons_append] at hread ⊢
      rw [readValue?.eq_2, hread]
      rfl

theorem isValue_boolean (b : Bool) :
    IsValue (if b then "true" else "false").toList (.boolean b) := by
  constructor <;> intro r <;> cases b <;> rfl

section Line

variable {name : List Char}

/-- The header of a table under a bare name. -/
theorem isLine_table (hname : IsBare name) :
    IsLine ('[' :: (name ++ [']'])) [.table ⟨[], String.ofList name⟩] := by
  apply isLine_of_readStatement? rfl rfl
  intro r
  have hkey : readKey? (name ++ ']' :: '\n' :: r) =
      some (⟨[], String.ofList name⟩, ']' :: '\n' :: r) :=
    readKey?_bare hname (by simp [isBareChar]) (by simp [Text.skipBlanks, Text.isBlank])
  have hsingle : ∀ t, name ++ ']' :: '\n' :: r = '[' :: t → False := by
    intro t ht
    obtain ⟨c, s, rfl, hc⟩ := hname.exists_cons
    cases ht
    cases hc
  have hline : '[' :: (name ++ [']']) ++ '\n' :: r = '[' :: (name ++ ']' :: '\n' :: r) := by
    simp
  rw [hline, readStatement?.eq_2 _ hsingle, readHeader?, hkey]
  rfl

/-- A bare name and its value, with one space on either side of the sign between them. -/
theorem isLine_pair (hname : IsBare name) {text : List Char} {v : Value} (hv : IsValue text v) :
    IsLine (name ++ ([' ', '=', ' '] ++ text)) [.pair ⟨[], String.ofList name⟩ v] := by
  obtain ⟨c, s, hcons, hc⟩ := hname.exists_cons
  have hbegins : beginsNoStatement (c :: (s ++ ([' ', '=', ' '] ++ text))) = false := by
    refine Bool.eq_false_iff.2 fun h => ?_
    simp only [beginsNoStatement, Bool.or_eq_true, beq_iff_eq] at h
    rcases h with (rfl | rfl) | rfl <;> cases hc
  rw [hcons]
  apply isLine_of_readStatement? (not_isBlank_of_isBareChar hc) hbegins
  intro r
  have hkey : readKey? (c :: s ++ ([' ', '=', ' '] ++ (text ++ '\n' :: r))) =
      some (⟨[], String.ofList (c :: s)⟩, '=' :: ' ' :: (text ++ '\n' :: r)) := by
    rw [← hcons]
    exact readKey?_bare hname (by simp [isBareChar]) (by simp [Text.skipBlanks, Text.isBlank])
  have hskip : Text.skipBlanks (' ' :: (text ++ '\n' :: r)) = text ++ '\n' :: r := hv.starts r
  have hpair : readPair? (readValue? (nestingLimit - 1))
      (c :: s ++ ([' ', '=', ' '] ++ (text ++ '\n' :: r))) =
        some ((⟨[], String.ofList (c :: s)⟩, v), '\n' :: r) := by
    rw [readPair?, hkey]
    simp only [hskip, hv.reads r, Option.map_some]
    rfl
  have hbracket : ∀ t, c :: s ++ ([' ', '=', ' '] ++ (text ++ '\n' :: r)) = '[' :: t → False := by
    intro t ht
    cases ht
    cases hc
  have hline : c :: (s ++ ([' ', '=', ' '] ++ text)) ++ '\n' :: r =
      c :: s ++ ([' ', '=', ' '] ++ (text ++ '\n' :: r)) := by
    simp
  rw [hline, readStatement?.eq_3 _ (fun t => hbracket ('[' :: t)) hbracket, hpair]
  rfl

end Line

/-! ## Documents -/

theorem readStatements?_flatMap {lines : List (List Char × List Statement)}
    (h : ∀ l ∈ lines, IsLine l.1 l.2) :
    readStatements? (lines.flatMap fun l => l.1 ++ ['\n']) = some (lines.flatMap (·.2)) := by
  induction lines with
  | nil => rw [List.flatMap_nil, readStatements?]; rfl
  | cons l lines ih =>
    obtain ⟨hl, hlines⟩ := List.forall_mem_cons.1 h
    rw [List.flatMap_cons, List.append_assoc, List.singleton_append, hl, ih hlines]
    rfl

/-- A document that is made of lines says what its lines say. -/
theorem parse?_of_lines {document : String} {lines : List (List Char × List Statement)}
    (hdocument : document.toList = lines.flatMap fun l => l.1 ++ ['\n'])
    (hmark : dropByteOrderMark document.toList = document.toList)
    (h : ∀ l ∈ lines, IsLine l.1 l.2) :
    parse? document = Entries.ofStatements? (lines.flatMap (·.2)) := by
  rw [parse?, hmark, hdocument, readStatements?_flatMap h, Option.bind_some]

end Toml

end ShellPipeline
