import ShellPipeline.Json
import ShellPipeline.Proofs.QuotedStrings
import ShellPipeline.Proofs.SelfDelimiting

/-!
# The text of a value tells where it ends

A JSON value that is written, on one line or with one item a line, is told from every other value
by its text, whatever follows it, and so is where its text ends.

* `Layout`, `Writes`: what the two forms of a value have in common, and where they differ;
* `Writes.selfDelimiting`: both forms tell where they end;
* `Writes.lineFeed_not_mem`: only the white space of a form has line breaks.
-/

namespace ShellPipeline

namespace Json

open Text (SelfDelimiting)

/-- A value has a property if it has it where its items, or the values of its members, have it. -/
@[elab_as_elim]
theorem induction {P : Json → Prop} (string : ∀ s, P (.string s)) (bool : ∀ b, P (.bool b))
    (array : ∀ items, (∀ v ∈ items, P v) → P (.array items))
    (object : ∀ members, (∀ m ∈ members, P m.2) → P (.object members)) (v : Json) : P v :=
  match v with
  | .string s => string s
  | .bool b => bool b
  | .array items => array items fun v _ => induction string bool array object v
  | .object members => object members fun m _ => induction string bool array object m.2
termination_by v
decreasing_by
  · decreasing_tactic
  · next h =>
    obtain ⟨key, w⟩ := m
    have hlt := List.sizeOf_lt_of_mem h
    simp only [Prod.mk.sizeOf_spec, Json.object.sizeOf_spec] at hlt ⊢
    omega

/-! ## Strings -/

/-- A character is written as itself or as an escape, which documents of settings have as well. -/
theorem escapeChar_cases (c : Char) :
    (escapeChar c = [c] ∧ c ≠ '"' ∧ c ≠ '\\') ∨
      ∃ e, escapeChar c = '\\' :: e ∧ Toml.IsEscape e c := by
  unfold escapeChar
  split
  case h_8 hquote hbackslash _ _ _ _ _ =>
    split
    · next hc =>
      have hdigit : ∀ n < 16, Toml.hexValue? (Nat.digitChar n) = some n := by decide
      have hhigh := hdigit (c.toNat / 16) (by omega)
      have hlow := hdigit (c.toNat % 16) (by omega)
      exact .inr ⟨_, rfl, Toml.isEscape_hexDigits (by omega) hhigh hlow⟩
    · exact .inl ⟨rfl, hquote, hbackslash⟩
  all_goals exact .inr ⟨_, rfl, Toml.isEscape_letter rfl⟩

theorem selfDelimiting_escapeChar (c : Char) : SelfDelimiting escapeChar c := by
  intro d r r' h
  rcases escapeChar_cases c with ⟨hc, -, hcplain⟩ | ⟨e, hc, he⟩
  · rcases escapeChar_cases d with ⟨hd, -⟩ | ⟨f, hd, -⟩
    · rw [hc, hd] at h
      exact List.cons.inj h
    · rw [hc, hd] at h
      exact absurd (List.cons.inj h).1 hcplain
  · rcases escapeChar_cases d with ⟨hd, -, hdplain⟩ | ⟨f, hd, hf⟩
    · rw [hc, hd] at h
      exact absurd (List.cons.inj h).1.symm hdplain
    · rw [hc, hd] at h
      -- Both escapes are read from the same text.
      have hread := he.escape r
      have htext : e ++ r = f ++ r' := (List.cons.inj h).2
      rw [htext, hf.escape] at hread
      cases hread
      exact ⟨rfl, rfl⟩

theorem quote_ne_escapeChar (c : Char) (r t : List Char) : '"' :: r ≠ escapeChar c ++ t := by
  intro h
  rcases escapeChar_cases c with ⟨hc, hquote, -⟩ | ⟨e, hc, -⟩
  · rw [hc] at h
    exact hquote (List.cons.inj h).1.symm
  · rw [hc] at h
    exact absurd (List.cons.inj h).1 (by decide)

theorem toList_quote (s : String) :
    (quote s).toList = '"' :: (s.toList.flatMap escapeChar ++ ['"']) := by
  rw [quote, String.toList_ofList, List.cons_append]

theorem selfDelimiting_quote (s : String) : SelfDelimiting (fun s => (quote s).toList) s := by
  intro t r r' h
  simp only [toList_quote, List.cons_append, List.append_assoc, List.cons.injEq, true_and,
    List.nil_append] at h
  obtain ⟨hst, hr⟩ := SelfDelimiting.eq_of_flatMap (fun c _ => selfDelimiting_escapeChar c)
    (fun c => quote_ne_escapeChar c r) (fun c => quote_ne_escapeChar c r') h
  exact ⟨String.toList_inj.1 hst, (List.cons.inj hr).2⟩

theorem lineFeed_not_mem_escapeChar (c : Char) : '\n' ∉ escapeChar c := by
  have hdigit : ∀ n < 16, '\n' ≠ Nat.digitChar n := by decide
  unfold escapeChar
  split
  case h_8 =>
    split
    · next hc =>
      have hhigh := hdigit (c.toNat / 16) (by omega)
      have hlow := hdigit (c.toNat % 16) (by omega)
      simp [hhigh, hlow]
    · next hfeed _ _ _ =>
      simpa using Ne.symm hfeed
  all_goals decide

theorem lineFeed_not_mem_quote (s : String) : '\n' ∉ (quote s).toList := by
  simp [toList_quote, lineFeed_not_mem_escapeChar]

/-! ## Layouts -/

/-- The white space of a form: in front of an item at a depth, and of the bracket that closes the
items below it, and what stands between a key and its value. -/
structure Layout where
  gap : Nat → List Char
  colon : List Char
  white_of_mem_gap : ∀ {depth c}, c ∈ gap depth → c = '\n' ∨ c = ' '

namespace Layout

variable {α : Type}

/-- Items with a gap in front of each and behind the last, set apart by commas. -/
def enclose (layout : Layout) (depth : Nat) (write : α → List Char) : List α → List Char
  | [] => []
  | a :: as =>
    layout.gap (depth + 1) ++ (write a ++
      ((as.flatMap fun b => ',' :: layout.gap (depth + 1) ++ write b) ++ layout.gap depth))

/-- A member with its value written as given. -/
def member (layout : Layout) (write : Json → List Char) (m : String × Json) : List Char :=
  (quote m.1).toList ++ (layout.colon ++ write m.2)

variable {layout : Layout} {depth : Nat} {write : α → List Char}

theorem eq_or_white_of_gap {c d : Char} {r r' : List Char}
    (h : d :: r' = layout.gap depth ++ c :: r) : d = c ∨ d = '\n' ∨ d = ' ' := by
  cases hgap : layout.gap depth with
  | nil =>
    rw [hgap] at h
    exact .inl (List.cons.inj h).1
  | cons e gap =>
    rw [hgap] at h
    obtain rfl : d = e := (List.cons.inj h).1
    exact .inr (layout.white_of_mem_gap (hgap ▸ List.mem_cons_self))

theorem enclose_cons_cons (a b : α) (as : List α) :
    layout.enclose depth write (a :: b :: as) =
      layout.gap (depth + 1) ++ (write a ++ ',' :: layout.enclose depth write (b :: as)) := by
  simp [enclose]

variable {close : Char}

theorem close_ne_enclose (hwhite : close ≠ '\n' ∧ close ≠ ' ')
    (hitem : ∀ a, ∃ c t, write a = c :: t ∧ close ≠ c) (a : α) (as : List α) (r r' : List Char) :
    close :: r ≠ layout.enclose depth write (a :: as) ++ r' := by
  intro h
  obtain ⟨c, t, ha, hclose⟩ := hitem a
  rw [enclose, ha, List.append_assoc, List.cons_append, List.cons_append] at h
  rcases eq_or_white_of_gap h with heq | heq | heq
  · exact hclose heq
  · exact hwhite.1 heq
  · exact hwhite.2 heq

/-- Self-delimiting items that are closed by a bracket are told apart. -/
theorem eq_of_enclose {as bs : List α} {r r' : List Char}
    (has : ∀ a ∈ as, SelfDelimiting write a) (hwhite : close ≠ '\n' ∧ close ≠ ' ')
    (hcomma : close ≠ ',') (hitem : ∀ a, ∃ c t, write a = c :: t ∧ close ≠ c)
    (h : layout.enclose depth write as ++ close :: r =
      layout.enclose depth write bs ++ close :: r') : as = bs ∧ r = r' := by
  have hend : ∀ r b t, layout.gap depth ++ close :: r ≠
      ',' :: layout.gap (depth + 1) ++ write b ++ t := by
    intro r b t ht
    rcases eq_or_white_of_gap ht.symm with heq | heq | heq
    · exact hcomma heq.symm
    · exact absurd heq (by decide)
    · exact absurd heq (by decide)
  cases as with
  | nil =>
    cases bs with
    | nil => exact ⟨rfl, (List.cons.inj h).2⟩
    | cons b bs => exact absurd h (close_ne_enclose hwhite hitem b bs _ _)
  | cons a as =>
    obtain ⟨ha, has⟩ := List.forall_mem_cons.1 has
    cases bs with
    | nil => exact absurd h.symm (close_ne_enclose hwhite hitem a as _ _)
    | cons b bs =>
      simp only [enclose, List.append_assoc] at h
      obtain ⟨rfl, hrest⟩ := ha (List.append_cancel_left h)
      obtain ⟨rfl, heq⟩ := SelfDelimiting.eq_of_flatMap (fun b hb => (has b hb).append_left _)
        (hend r) (hend r') hrest
      exact ⟨rfl, (List.cons.inj (List.append_cancel_left heq)).2⟩

theorem selfDelimiting_member {write : Json → List Char} {m : String × Json}
    (hm : SelfDelimiting write m.2) : SelfDelimiting (layout.member write) m := by
  have hkey := selfDelimiting_quote m.1
  have hvalue := hm.append_left layout.colon
  intro n r r' h
  exact hkey.prod hvalue h

theorem not_mem_enclose {as : List α} {c : Char} (hc : c ≠ ',') (hgap : ∀ d, c ∉ layout.gap d)
    (has : ∀ a ∈ as, c ∉ write a) : c ∉ layout.enclose depth write as := by
  cases as with
  | nil => exact List.not_mem_nil
  | cons a as =>
    obtain ⟨ha, has⟩ := List.forall_mem_cons.1 has
    simp only [enclose, List.mem_append, List.mem_flatMap, List.mem_cons, not_or, not_exists,
      not_and]
    exact ⟨hgap _, ha, fun b hb => ⟨⟨hc, hgap _⟩, has b hb⟩, hgap _⟩

end Layout

/-! ## Values -/

/-- Values are written at each depth in the form of a layout. -/
structure Writes (layout : Layout) (write : Nat → Json → List Char) : Prop where
  string : ∀ depth s, write depth (.string s) = (quote s).toList
  bool : ∀ depth b, write depth (.bool b) = (boolText b).toList
  array : ∀ depth items, write depth (.array items) =
    '[' :: (layout.enclose depth (write (depth + 1)) items ++ [']'])
  object : ∀ depth members, write depth (.object members) =
    '\x7b' :: (layout.enclose depth (layout.member (write (depth + 1))) members ++ ['\x7d'])

/-- The character that a value begins with. -/
def mark : Json → Char
  | .string _ => '"'
  | .bool true => 't'
  | .bool false => 'f'
  | .array _ => '['
  | .object _ => '\x7b'

/-- Two values are of one shape at their root. -/
inductive SameShape : Json → Json → Prop
  | string (s t : String) : SameShape (.string s) (.string t)
  | bool (b : Bool) : SameShape (.bool b) (.bool b)
  | array (items items' : List Json) : SameShape (.array items) (.array items')
  | object (members members' : List (String × Json)) :
    SameShape (.object members) (.object members')

theorem sameShape_of_mark_eq {v w : Json} (h : v.mark = w.mark) : SameShape v w := by
  rcases v with s | (_ | _) | items | members <;> rcases w with s | (_ | _) | items | members
  all_goals first
    | constructor
    | simp [mark] at h

namespace Writes

variable {layout : Layout} {write : Nat → Json → List Char}

theorem eq_cons_mark (h : Writes layout write) (depth : Nat) (v : Json) :
    ∃ t, write depth v = v.mark :: t := by
  cases v with
  | string s => exact ⟨_, (h.string ..).trans (toList_quote s)⟩
  | bool b => cases b <;> exact ⟨_, h.bool ..⟩
  | array items => exact ⟨_, h.array ..⟩
  | object members => exact ⟨_, h.object ..⟩

theorem sameShape (h : Writes layout write) {depth : Nat} {v w : Json} {r r' : List Char}
    (hvw : write depth v ++ r = write depth w ++ r') : SameShape v w := by
  obtain ⟨t, ht⟩ := h.eq_cons_mark depth v
  obtain ⟨t', ht'⟩ := h.eq_cons_mark depth w
  rw [ht, ht'] at hvw
  exact sameShape_of_mark_eq (List.cons.inj hvw).1

theorem item_ne_close (h : Writes layout write) (depth : Nat) (v : Json) :
    ∃ c t, write depth v = c :: t ∧ ']' ≠ c := by
  obtain ⟨t, ht⟩ := h.eq_cons_mark depth v
  refine ⟨_, t, ht, ?_⟩
  rcases v with s | (_ | _) | items | members <;> simp [mark]

theorem member_ne_close (write : Json → List Char) (m : String × Json) :
    ∃ c t, layout.member write m = c :: t ∧ '\x7d' ≠ c := by
  rw [Layout.member, toList_quote]
  exact ⟨_, _, rfl, by decide⟩

/-- A value that is written tells where it ends. -/
theorem selfDelimiting (h : Writes layout write) (depth : Nat) (v : Json) :
    SelfDelimiting (write depth) v := by
  induction v using Json.induction generalizing depth with
  | string s =>
    intro w r r' hw
    cases h.sameShape hw with
    | string s t =>
      rw [h.string, h.string] at hw
      obtain ⟨rfl, hr⟩ := selfDelimiting_quote s hw
      exact ⟨rfl, hr⟩
  | bool b =>
    intro w r r' hw
    cases h.sameShape hw with
    | bool b => exact ⟨rfl, List.append_cancel_left hw⟩
  | array items ih =>
    intro w r r' hw
    cases h.sameShape hw with
    | array items items' =>
      simp only [h.array, List.cons_append, List.append_assoc, List.nil_append, List.cons.injEq,
        true_and] at hw
      obtain ⟨rfl, hr⟩ := Layout.eq_of_enclose (fun v hv => ih v hv (depth + 1)) (by decide)
        (by decide) (h.item_ne_close (depth + 1)) hw
      exact ⟨rfl, hr⟩
  | object members ih =>
    intro w r r' hw
    cases h.sameShape hw with
    | object members members' =>
      simp only [h.object, List.cons_append, List.append_assoc, List.nil_append,
        List.cons.injEq, true_and] at hw
      have hmembers : ∀ m ∈ members, SelfDelimiting (layout.member (write (depth + 1))) m :=
        fun m hm => Layout.selfDelimiting_member (ih m hm (depth + 1))
      obtain ⟨rfl, hr⟩ := Layout.eq_of_enclose hmembers (by decide) (by decide)
        (member_ne_close (write (depth + 1))) hw
      exact ⟨rfl, hr⟩

/-- A form whose white space has no line breaks has none. -/
theorem lineFeed_not_mem (h : Writes layout write) (hgap : ∀ d, '\n' ∉ layout.gap d)
    (hcolon : '\n' ∉ layout.colon) (depth : Nat) (v : Json) : '\n' ∉ write depth v := by
  induction v using Json.induction generalizing depth with
  | string s =>
    rw [h.string]
    exact lineFeed_not_mem_quote s
  | bool b =>
    rw [h.bool]
    cases b <;> decide
  | array items ih =>
    have hitems : '\n' ∉ layout.enclose depth (write (depth + 1)) items :=
      Layout.not_mem_enclose (by decide) hgap fun v hv => ih v hv (depth + 1)
    rw [h.array]
    simpa using hitems
  | object members ih =>
    have hmember : ∀ m ∈ members, '\n' ∉ layout.member (write (depth + 1)) m := fun m hm => by
      simp [Layout.member, lineFeed_not_mem_quote, hcolon, ih m hm]
    have hmembers : '\n' ∉ layout.enclose depth (layout.member (write (depth + 1))) members :=
      Layout.not_mem_enclose (by decide) hgap hmember
    rw [h.object]
    simpa using hmembers

end Writes

/-! ## The two forms -/

namespace Layout

/-- Everything on one line. -/
def oneLine : Layout := ⟨fun _ => [], [':'], nofun⟩

theorem white_of_mem_newline {depth : Nat} {c : Char} (h : c ∈ (newline depth).toList) :
    c = '\n' ∨ c = ' ' := by
  rw [newline, String.toList_ofList] at h
  exact (List.mem_cons.1 h).imp_right List.eq_of_mem_replicate

/-- Each item on lines of its own. -/
def itemLines : Layout := ⟨fun depth => (newline depth).toList, [':', ' '], white_of_mem_newline⟩

theorem toList_compactItems (depth : Nat) : ∀ items, (compactItems items).toList =
    oneLine.enclose depth (fun v => v.compact.toList) items
  | [] => rfl
  | [v] => by simp [compactItems, enclose, oneLine]
  | v :: w :: items => by
    rw [enclose_cons_cons, ← toList_compactItems depth (w :: items)]
    simp [compactItems, oneLine]

theorem toList_compactMembers (depth : Nat) : ∀ members, (compactMembers members).toList =
    oneLine.enclose depth (oneLine.member fun v => v.compact.toList) members
  | [] => rfl
  | [m] => by simp [compactMembers, enclose, member, oneLine]
  | m :: n :: members => by
    rw [enclose_cons_cons, ← toList_compactMembers depth (n :: members)]
    simp [compactMembers, member, oneLine]

theorem toList_prettyItems (depth : Nat) (v : Json) (items : List Json) :
    (prettyItems (depth + 1) (v :: items)).toList ++ (newline depth).toList =
      itemLines.enclose depth (fun v => (v.prettyAt (depth + 1)).toList) (v :: items) := by
  induction items generalizing v with
  | nil => simp [prettyItems, enclose, itemLines]
  | cons w items ih =>
    rw [enclose_cons_cons, ← ih w]
    simp [prettyItems, itemLines]

theorem toList_prettyMembers (depth : Nat) (m : String × Json) (members : List (String × Json)) :
    (prettyMembers (depth + 1) (m :: members)).toList ++ (newline depth).toList =
      itemLines.enclose depth (itemLines.member fun v => (v.prettyAt (depth + 1)).toList)
        (m :: members) := by
  induction members generalizing m with
  | nil => simp [prettyMembers, enclose, member, itemLines]
  | cons n members ih =>
    rw [enclose_cons_cons, ← ih n]
    simp [prettyMembers, member, itemLines]

end Layout

theorem writes_compact : Writes .oneLine fun _ v => v.compact.toList where
  string _ s := by rw [compact]
  bool _ b := by rw [compact]
  array depth items := by
    rw [compact, ← Layout.toList_compactItems]
    simp
  object depth members := by
    rw [compact, ← Layout.toList_compactMembers]
    simp

theorem writes_prettyAt : Writes .itemLines fun depth v => (v.prettyAt depth).toList where
  string _ s := by rw [prettyAt]
  bool _ b := by rw [prettyAt]
  array depth items := by
    cases items with
    | nil => simp [prettyAt, Layout.enclose]
    | cons v items =>
      rw [← Layout.toList_prettyItems]
      simp [prettyAt]
  object depth members := by
    cases members with
    | nil => simp [prettyAt, Layout.enclose]
    | cons m members =>
      rw [← Layout.toList_prettyMembers]
      simp [prettyAt]

theorem selfDelimiting_compact (v : Json) : SelfDelimiting (fun v => v.compact.toList) v :=
  writes_compact.selfDelimiting 0 v

theorem selfDelimiting_pretty (v : Json) : SelfDelimiting (fun v => v.pretty.toList) v :=
  writes_prettyAt.selfDelimiting 0 v

theorem lineFeed_not_mem_compact (v : Json) : '\n' ∉ v.compact.toList :=
  writes_compact.lineFeed_not_mem (fun _ => List.not_mem_nil) (by decide) 0 v

end Json

end ShellPipeline
