import ShellPipeline.Toml.Quoted

/-!
# Strings that are written are read back

Every text that is written as a string of a document, in whichever of the forms, is read as that
text, and reading stops right behind its closing quotes (`readString?_quoteChars`).

* `IsEscape`: what stands behind a backslash for one character;
* `readAll_flatMap_escapeLineChar`, `readAll_literal`: the bodies of strings on one line;
* `readAll_escapeBlock`, `readAll_literalBlock`: the bodies between tripled quotes, where a run of
  quotes that is still open is carried along.
-/

namespace ShellPipeline

namespace Text.PieceReader

/-- A piece in front of a text whose pieces are known. -/
theorem readAll_append {p : PieceReader} {w t r body rest : List Char}
    (h : p.read? (w ++ r) = some (t, r)) (hr : p.readAll r = (body, rest)) :
    p.readAll (w ++ r) = (t ++ body, rest) := by
  rw [readAll_of_eq_some h, hr]

end Text.PieceReader

namespace Toml

/-! ## Escapes -/

/-- Behind a backslash the text stands for a character, and does not go on with another line. -/
structure IsEscape (e : List Char) (c : Char) : Prop where
  escape : ∀ r, escape? (e ++ r) = some ([c], r)
  not_continuation : ∀ r, continuation? (e ++ r) = none

theorem continuation?_eq_none {d : Char} (r : List Char) (hblank : Text.isBlank d = false)
    (hfeed : d ≠ '\n') (hreturn : d ≠ '\r') : continuation? (d :: r) = none := by
  simp [continuation?, Text.skipBlanks, hblank, newline?, hfeed, hreturn]

theorem isEscape_letter {d c : Char} (h : letterEscape? d = some c) : IsEscape [d] c := by
  have hd : d ≠ 'u' ∧ d ≠ 'U' ∧ Text.isBlank d = false ∧ d ≠ '\n' ∧ d ≠ '\r' := by
    unfold letterEscape? at h
    split at h
    case h_8 => cases h
    all_goals decide
  obtain ⟨hu, hU, hblank, hfeed, hreturn⟩ := hd
  exact {
    escape := fun r => by simp [escape?, hu, hU, h]
    not_continuation := fun r => continuation?_eq_none r hblank hfeed hreturn }

theorem hexValue?_upperHexDigit : ∀ n < 16, hexValue? (upperHexDigit n) = some n := by
  decide

theorem toNat_lt_of_isControl {c : Char} (h : isControl c = true) : c.toNat < 128 := by
  simp only [isControl, Bool.or_eq_true, Bool.and_eq_true, decide_eq_true_eq, beq_iff_eq] at h
  omega

/-- Two digits behind zeros write a character of one byte. -/
theorem isEscape_hexDigits {c high low : Char} (hc : c.toNat < 128)
    (hhigh : hexValue? high = some (c.toNat / 16)) (hlow : hexValue? low = some (c.toNat % 16)) :
    IsEscape ['u', '0', '0', high, low] c := by
  have hzero : hexValue? '0' = some 0 := rfl
  have hnumber : 16 * (c.toNat / 16) + c.toNat % 16 = c.toNat := Nat.div_add_mod ..
  have hvalid : c.toNat.isValidChar := Or.inl (by omega)
  exact {
    escape := fun r => by
      simp [escape?, codePoint?, hexNumber?, hzero, hhigh, hlow, hnumber, hvalid]
    not_continuation := fun r => continuation?_eq_none _ rfl (by decide) (by decide) }

theorem isEscape_codePoint {c : Char} (h : isControl c = true) :
    IsEscape ['u', '0', '0', upperHexDigit (c.toNat / 16), upperHexDigit (c.toNat % 16)] c := by
  have hlt := toNat_lt_of_isControl h
  exact isEscape_hexDigits hlt (hexValue?_upperHexDigit _ (by omega))
    (hexValue?_upperHexDigit _ (by omega))

/-- Between double quotes a character is written as itself or as an escape. -/
theorem escapeChar_cases (c : Char) :
    (escapeChar c = [c] ∧ isControl c = false ∧ c ≠ '\\') ∨
      ∃ e, escapeChar c = '\\' :: e ∧ IsEscape e c := by
  unfold escapeChar
  split
  case h_6 hbackslash _ _ _ _ =>
    split
    · next hc => exact .inr ⟨_, rfl, isEscape_codePoint hc⟩
    · next hc => exact .inl ⟨rfl, by simpa using hc, hbackslash⟩
  all_goals exact .inr ⟨_, rfl, isEscape_letter rfl⟩

/-! ## Strings on one line -/

theorem linePiece?_plain {quote c : Char} {escapes : Bool} (hquote : c ≠ quote)
    (hc : isControl c = false) (hescapes : escapes = true → c ≠ '\\') (r : List Char) :
    linePiece? quote escapes (c :: r) = some ([c], r) := by
  have hplain : ¬((escapes && c == '\\') = true) := by
    rw [Bool.and_eq_true, beq_iff_eq]
    exact fun h => hescapes h.1 h.2
  simp [linePiece?, hquote, hc, hplain]

theorem linePiece?_escape {e : List Char} {c : Char} (h : IsEscape e c) (r : List Char) :
    linePiece? '"' true ('\\' :: e ++ r) = some ([c], r) :=
  h.escape r

theorem linePiece?_escapeLineChar (c : Char) (r : List Char) :
    linePiece? '"' true (escapeLineChar c ++ r) = some ([c], r) := by
  unfold escapeLineChar
  split
  · exact linePiece?_escape (isEscape_letter rfl) r
  · exact linePiece?_escape (isEscape_letter rfl) r
  · next hquote _ =>
    rcases escapeChar_cases c with ⟨heq, hc, hbackslash⟩ | ⟨e, heq, he⟩
    · rw [heq]
      exact linePiece?_plain hquote hc (fun _ => hbackslash) r
    · rw [heq]
      exact linePiece?_escape he r

theorem readAll_flatMap_escapeLineChar (s r : List Char) :
    (linePieces '"' true).readAll (s.flatMap escapeLineChar ++ '"' :: r) = (s, '"' :: r) := by
  induction s with
  | nil => exact Text.PieceReader.readAll_of_eq_none rfl
  | cons c s ih =>
    rw [List.flatMap_cons, List.append_assoc]
    exact Text.PieceReader.readAll_append (linePiece?_escapeLineChar c _) ih

theorem readAll_literal {s : List Char} (hs : ∀ c ∈ s, c ≠ '\'' ∧ isControl c = false)
    (r : List Char) : (linePieces '\'' false).readAll (s ++ '\'' :: r) = (s, '\'' :: r) := by
  induction s with
  | nil => exact Text.PieceReader.readAll_of_eq_none rfl
  | cons c s ih =>
    obtain ⟨⟨hquote, hc⟩, hs⟩ := List.forall_mem_cons.1 hs
    have hescapes : false = true → c ≠ '\\' := nofun
    have hpiece := linePiece?_plain hquote hc hescapes (s ++ '\'' :: r)
    exact Text.PieceReader.readAll_append (w := [c]) hpiece (ih hs)

/-! ## Strings between tripled quotes -/

section Block

variable {quote : Char} {escapes : Bool}

theorem newline?_eq_none {c : Char} (r : List Char) (hc : isControl c = false) :
    newline? (c :: r) = none := by
  unfold newline?
  split
  · next h =>
    cases h
    cases hc
  · next h =>
    cases h
    cases hc
  · rfl

theorem blockPiece?_plain {c : Char} (hquote : c ≠ quote) (hc : isControl c = false)
    (hescapes : escapes = true → c ≠ '\\') (r : List Char) :
    blockPiece? quote escapes (c :: r) = some ([c], r) := by
  have hplain : ¬((escapes && c == '\\') = true) := by
    rw [Bool.and_eq_true, beq_iff_eq]
    exact fun h => hescapes h.1 h.2
  simp [blockPiece?, newline?_eq_none r hc, hquote, hc, hplain]

theorem blockPiece?_escape {e : List Char} {c : Char} (h : IsEscape e c) (r : List Char) :
    blockPiece? '"' true ('\\' :: e ++ r) = some ([c], r) := by
  have hnewline : newline? ('\\' :: (e ++ r)) = none := newline?_eq_none _ rfl
  simp [blockPiece?, hnewline, h.not_continuation r, h.escape r]

theorem readAll_plain {c : Char} (hquote : c ≠ quote) (hc : isControl c = false)
    (hescapes : escapes = true → c ≠ '\\') {r body rest : List Char}
    (hr : (blockPieces quote escapes).readAll r = (body, rest)) :
    (blockPieces quote escapes).readAll (c :: r) = (c :: body, rest) := by
  rw [Text.PieceReader.readAll_of_eq_some (blockPiece?_plain hquote hc hescapes r), hr]
  rfl

theorem readAll_lineFeed {r body rest : List Char}
    (hr : (blockPieces quote escapes).readAll r = (body, rest)) :
    (blockPieces quote escapes).readAll ('\n' :: r) = ('\n' :: body, rest) := by
  rw [Text.PieceReader.readAll_of_eq_some (p := blockPieces quote escapes) (t := ['\n']) rfl, hr]
  rfl

theorem readAll_escape {e : List Char} {c : Char} (he : IsEscape e c) {r body rest : List Char}
    (hr : (blockPieces '"' true).readAll r = (body, rest)) :
    (blockPieces '"' true).readAll ('\\' :: (e ++ r)) = (c :: body, rest) := by
  rw [Text.PieceReader.readAll_of_eq_some (blockPiece?_escape he r), hr]
  rfl

/-- A run of quotes ends where no further quote stands. -/
theorem takeWhile_replicate_append (n : Nat) {r : List Char} (hr : r.head? ≠ some quote) :
    (List.replicate n quote ++ r).takeWhile (· == quote) = List.replicate n quote := by
  rw [List.takeWhile_append_of_pos (by simp), List.append_right_eq_self]
  cases r with
  | nil => rfl
  | cons c r =>
    have hc : c ≠ quote := fun h => hr (by rw [h, List.head?_cons])
    simp [hc]

/-- One or two quotes before anything else belong to the string. -/
theorem innerQuotes_of_open {n : Nat} (hn : n ≤ 2) {r : List Char} (hr : r.head? ≠ some quote) :
    innerQuotes quote (List.replicate n quote ++ r) = n := by
  rw [innerQuotes, takeWhile_replicate_append n hr, List.length_replicate]
  obtain rfl | rfl | rfl : n = 0 ∨ n = 1 ∨ n = 2 := by omega
  all_goals rfl

/-- So do one or two quotes in front of the closing three. -/
theorem innerQuotes_of_closing {n : Nat} (hn : n ≤ 2) {r : List Char}
    (hr : r.head? ≠ some quote) :
    innerQuotes quote (List.replicate n quote ++ (List.replicate 3 quote ++ r)) = n := by
  rw [innerQuotes, ← List.append_assoc, List.replicate_append_replicate,
    takeWhile_replicate_append _ hr, List.length_replicate]
  obtain rfl | rfl | rfl : n = 0 ∨ n = 1 ∨ n = 2 := by omega
  all_goals rfl

theorem blockPiece?_quotes (hquote : isControl quote = false) {n : Nat} {r : List Char}
    (h : innerQuotes quote (List.replicate (n + 1) quote ++ r) = n + 1) :
    blockPiece? quote escapes (List.replicate (n + 1) quote ++ r) =
      some (List.replicate (n + 1) quote, r) := by
  rw [List.replicate_succ, List.cons_append] at h ⊢
  simp [blockPiece?, newline?_eq_none _ hquote, h, List.replicate_succ]

/-- The quotes at the start of a text are read at once. -/
theorem readAll_quotes (hquote : isControl quote = false) {n : Nat} {r body rest : List Char}
    (h : innerQuotes quote (List.replicate n quote ++ r) = n)
    (hr : (blockPieces quote escapes).readAll r = (body, rest)) :
    (blockPieces quote escapes).readAll (List.replicate n quote ++ r) =
      (List.replicate n quote ++ body, rest) := by
  cases n with
  | zero => exact hr
  | succ n => exact Text.PieceReader.readAll_append (blockPiece?_quotes hquote h) hr

/-- Reading stops in front of the closing quotes. -/
theorem readAll_closing (hquote : isControl quote = false) {n : Nat} (hn : n ≤ 2) {r : List Char}
    (hr : r.head? ≠ some quote) :
    (blockPieces quote escapes).readAll (List.replicate n quote ++ (List.replicate 3 quote ++ r)) =
      (List.replicate n quote, List.replicate 3 quote ++ r) := by
  have hnone : innerQuotes quote (List.replicate 3 quote ++ r) = 0 :=
    innerQuotes_of_closing (n := 0) (Nat.zero_le _) hr
  have hstop : (blockPieces quote escapes).readAll (List.replicate 3 quote ++ r) =
      ([], List.replicate 3 quote ++ r) := by
    apply Text.PieceReader.readAll_of_eq_none
    change blockPiece? quote escapes (List.replicate 3 quote ++ r) = none
    rw [List.replicate_succ, List.cons_append] at hnone ⊢
    simp only [blockPiece?, newline?_eq_none _ hquote, beq_self_eq_true, if_true, hnone]
  have hall := readAll_quotes hquote (innerQuotes_of_closing hn hr) hstop
  rwa [List.append_nil] at hall

end Block

/-- The body between tripled double quotes, behind so many quotes of a run that is open. -/
theorem readAll_escapeBlock (s : List Char) {n : Nat} (hn : n ≤ 2) {r : List Char}
    (hr : r.head? ≠ some '"') :
    (blockPieces '"' true).readAll
        (List.replicate n '"' ++ (escapeBlock n s ++ (List.replicate 3 '"' ++ r))) =
      (List.replicate n '"' ++ s, List.replicate 3 '"' ++ r) := by
  have hquote : isControl '"' = false := rfl
  fun_induction escapeBlock n s with
  | case1 n =>
    rw [List.append_nil]
    exact readAll_closing hquote hn hr
  | case2 s ih =>
    -- The third quote of a run is escaped, which ends the run.
    have hthird := readAll_escape (e := ['"']) (isEscape_letter rfl) (ih (Nat.zero_le _))
    exact readAll_quotes hquote (innerQuotes_of_open hn (by simp)) hthird
  | case3 n s hmore ih =>
    have hrun := ih (by omega)
    rw [List.replicate_succ', List.append_assoc, List.append_assoc] at hrun
    exact hrun
  | case4 n s ih =>
    have hfeed := readAll_lineFeed (ih (Nat.zero_le _))
    exact readAll_quotes hquote (innerQuotes_of_open hn (by simp)) hfeed
  | case5 n s c hc _ ih =>
    rw [List.append_assoc]
    rcases escapeChar_cases c with ⟨heq, hcontrol, hbackslash⟩ | ⟨e, heq, he⟩
    · have hplain := readAll_plain hc hcontrol (fun _ => hbackslash) (ih (Nat.zero_le _))
      rw [heq]
      exact readAll_quotes hquote (innerQuotes_of_open hn (by simpa using hc)) hplain
    · have hescape := readAll_escape he (ih (Nat.zero_le _))
      rw [heq]
      exact readAll_quotes hquote (innerQuotes_of_open hn (by simp)) hescape

theorem hasTriple_append {q : Char} (w : List Char) {s : List Char} (h : hasTriple q s = true) :
    hasTriple q (w ++ s) = true := by
  induction w with
  | nil => exact h
  | cons c w ih =>
    rw [List.cons_append]
    generalize w ++ s = t at ih
    match t, ih with
    | _ :: _ :: _, ih =>
      rw [hasTriple, ih, Bool.or_true]

/-- The body between tripled single quotes, behind so many quotes of a run that is open. -/
theorem readAll_literalBlock (s : List Char) {n : Nat} (hn : n ≤ 2)
    (hs : ∀ c ∈ s, c ≠ '\n' → isControl c = false)
    (htriple : hasTriple '\'' (List.replicate n '\'' ++ s) = false) {r : List Char}
    (hr : r.head? ≠ some '\'') :
    (blockPieces '\'' false).readAll
        (List.replicate n '\'' ++ (s ++ (List.replicate 3 '\'' ++ r))) =
      (List.replicate n '\'' ++ s, List.replicate 3 '\'' ++ r) := by
  have hquote : isControl '\'' = false := rfl
  induction s generalizing n with
  | nil =>
    rw [List.append_nil]
    exact readAll_closing hquote hn hr
  | cons c s ih =>
    obtain ⟨hc, htext⟩ := List.forall_mem_cons.1 hs
    by_cases hrun : c = '\''
    · subst hrun
      have hopen : List.replicate n '\'' ++ '\'' :: s = List.replicate (n + 1) '\'' ++ s := by
        rw [List.replicate_succ', List.append_assoc]
        rfl
      have hlt : n < 2 := by
        refine Decidable.byContradiction fun h => ?_
        obtain rfl : n = 2 := by omega
        simp [hasTriple] at htriple
      rw [hopen] at htriple
      have hnext := ih (n := n + 1) hlt htext htriple
      rw [List.replicate_succ', List.append_assoc, List.append_assoc] at hnext
      exact hnext
    · have htail : hasTriple '\'' s = false := by
        refine Bool.eq_false_iff.2 fun h => Bool.eq_false_iff.1 htriple ?_
        exact hasTriple_append _ (hasTriple_append [c] h)
      have hdone := ih (n := 0) (Nat.zero_le _) htext htail
      refine readAll_quotes hquote (innerQuotes_of_open hn (by simpa using hrun)) ?_
      by_cases hfeed : c = '\n'
      · subst hfeed
        exact readAll_lineFeed hdone
      · have hescapes : false = true → c ≠ '\\' := nofun
        exact readAll_plain hrun (hc hfeed) hescapes hdone

/-! ## Whole strings -/

section Quoted

variable {s r : List Char}

theorem readString?_quoteLine (s : List Char) (hr : r.head? ≠ some '"') :
    readString? (quoteLine s ++ r) = some (String.ofList s, r) := by
  have hline : ∀ t, s.flatMap escapeLineChar ++ '"' :: r = '"' :: '"' :: t → False := by
    intro t ht
    cases s with
    | nil =>
      obtain rfl : r = '"' :: t := (List.cons.inj ht).2
      exact hr rfl
    | cons c s =>
      -- A quote at the start would be no piece of the body.
      have hpiece := linePiece?_escapeLineChar c (s.flatMap escapeLineChar ++ '"' :: r)
      rw [List.flatMap_cons, List.append_assoc] at ht
      rw [ht] at hpiece
      cases hpiece
  have hwhole : quoteLine s ++ r = '"' :: (s.flatMap escapeLineChar ++ '"' :: r) := by
    simp [quoteLine]
  rw [hwhole, readString?.eq_2 _ hline, readAll_flatMap_escapeLineChar]
  rfl

theorem readString?_quoteLiteral (hs : ∀ c ∈ s, c ≠ '\'' ∧ isControl c = false)
    (hr : r.head? ≠ some '\'') :
    readString? (quoteLiteral s ++ r) = some (String.ofList s, r) := by
  have hline : ∀ t, s ++ '\'' :: r = '\'' :: '\'' :: t → False := by
    intro t ht
    cases s with
    | nil =>
      obtain rfl : r = '\'' :: t := (List.cons.inj ht).2
      exact hr rfl
    | cons c s => exact (hs c List.mem_cons_self).1 (List.cons.inj ht).1
  have hwhole : quoteLiteral s ++ r = '\'' :: (s ++ '\'' :: r) := by
    simp [quoteLiteral]
  rw [hwhole, readString?.eq_4 _ hline, readAll_literal hs]
  rfl

/-- The line break behind tripled quotes is dropped if it was written, and only then. -/
theorem dropFirstNewline_blockOpening {t : List Char} (h : '\n' ∉ s → newline? t = none) :
    dropFirstNewline (blockOpening s ++ t) = t := by
  unfold blockOpening
  split
  · rfl
  · next hfeed =>
    rw [List.nil_append, dropFirstNewline, h (by simpa using hfeed)]
    rfl

theorem newline?_escapeBlock (hs : '\n' ∉ s) (r : List Char) :
    newline? (escapeBlock 0 s ++ '"' :: r) = none := by
  cases s with
  | nil => exact newline?_eq_none _ rfl
  | cons c s =>
    obtain ⟨hfeed, -⟩ := List.ne_and_not_mem_of_not_mem_cons hs
    by_cases hquote : c = '"'
    · subst hquote
      exact newline?_eq_none _ rfl
    · rw [escapeBlock.eq_4 _ _ _ hquote (Ne.symm hfeed), List.append_assoc]
      rcases escapeChar_cases c with ⟨heq, hc, -⟩ | ⟨e, heq, -⟩
      · rw [heq]
        exact newline?_eq_none _ hc
      · rw [heq]
        exact newline?_eq_none _ rfl

theorem closeBlock?_replicate (quote : Char) (body r : List Char) :
    closeBlock? quote (body, List.replicate 3 quote ++ r) = some (String.ofList body, r) := by
  simp [closeBlock?]

theorem readString?_quoteBlock (s : List Char) (hr : r.head? ≠ some '"') :
    readString? (quoteBlock s ++ r) = some (String.ofList s, r) := by
  have hbody := readAll_escapeBlock s (n := 0) (Nat.zero_le _) hr
  simp only [List.replicate_zero, List.nil_append] at hbody
  have hopening : dropFirstNewline
      (blockOpening s ++ (escapeBlock 0 s ++ (List.replicate 3 '"' ++ r))) =
        escapeBlock 0 s ++ (List.replicate 3 '"' ++ r) :=
    dropFirstNewline_blockOpening fun hs => newline?_escapeBlock hs _
  have hwhole : quoteBlock s ++ r = '"' :: '"' :: '"' ::
      (blockOpening s ++ (escapeBlock 0 s ++ (List.replicate 3 '"' ++ r))) := by
    simp [quoteBlock]
  rw [hwhole, readString?, hopening, hbody, closeBlock?_replicate]

theorem readString?_quoteLiteralBlock (hs : ∀ c ∈ s, c ≠ '\n' → isControl c = false)
    (htriple : hasTriple '\'' s = false) (hr : r.head? ≠ some '\'') :
    readString? (quoteLiteralBlock s ++ r) = some (String.ofList s, r) := by
  have hbody := readAll_literalBlock s (n := 0) (Nat.zero_le _) hs htriple hr
  simp only [List.replicate_zero, List.nil_append] at hbody
  have hopening : dropFirstNewline (blockOpening s ++ (s ++ (List.replicate 3 '\'' ++ r))) =
      s ++ (List.replicate 3 '\'' ++ r) := by
    apply dropFirstNewline_blockOpening
    intro hfeed
    cases s with
    | nil => exact newline?_eq_none _ rfl
    | cons c s =>
      have hc : c ≠ '\n' := fun h => hfeed (h ▸ List.mem_cons_self)
      exact newline?_eq_none _ (hs c List.mem_cons_self hc)
  have hwhole : quoteLiteralBlock s ++ r = '\'' :: '\'' :: '\'' ::
      (blockOpening s ++ (s ++ (List.replicate 3 '\'' ++ r))) := by
    simp [quoteLiteralBlock]
  rw [hwhole, readString?, hopening, hbody, closeBlock?_replicate]

theorem isControl_of_needsEscape (h : ¬needsEscape s = true) :
    ∀ c ∈ s, c ≠ '\n' → isControl c = false := by
  intro c hc hfeed
  refine Bool.eq_false_iff.2 fun hcontrol => h (List.any_eq_true.2 ⟨c, hc, ?_⟩)
  simp [hcontrol, hfeed]

/-- A text is read from any form that it is written in. -/
theorem readString?_quoteChars (s : List Char) (hdouble : r.head? ≠ some '"')
    (hsingle : r.head? ≠ some '\'') :
    readString? (quoteChars s ++ r) = some (String.ofList s, r) := by
  have hline := readString?_quoteLine s hdouble
  have hblock := readString?_quoteBlock s hdouble
  unfold quoteChars
  split
  · split
    · exact hblock
    · exact hline
  · next hescape =>
    have hcontrol := isControl_of_needsEscape hescape
    split
    · exact hline
    · split
      · next hplain =>
        have hnone : '\'' ∉ s ∧ '\n' ∉ s := by simpa using hplain
        refine readString?_quoteLiteral (fun c hc => ⟨?_, hcontrol c hc ?_⟩) hsingle
        · exact fun h => hnone.1 (h ▸ hc)
        · exact fun h => hnone.2 (h ▸ hc)
      · split
        · exact hblock
        · split
          · next htriple =>
            exact readString?_quoteLiteralBlock hcontrol (by simpa using htriple) hsingle
          · split
            · exact hblock
            · exact hline

/-- Every form begins with a quote. -/
theorem quoteChars_eq_cons (s : List Char) :
    ∃ t, quoteChars s = '"' :: t ∨ quoteChars s = '\'' :: t := by
  have hline : ∃ t, quoteLine s = '"' :: t ∨ quoteLine s = '\'' :: t := ⟨_, .inl rfl⟩
  have hblock : ∃ t, quoteBlock s = '"' :: t ∨ quoteBlock s = '\'' :: t := ⟨_, .inl rfl⟩
  have hliteral : ∃ t, quoteLiteral s = '"' :: t ∨ quoteLiteral s = '\'' :: t := ⟨_, .inr rfl⟩
  have hliteralBlock : ∃ t, quoteLiteralBlock s = '"' :: t ∨ quoteLiteralBlock s = '\'' :: t :=
    ⟨_, .inr rfl⟩
  unfold quoteChars
  repeat' split
  all_goals assumption

end Quoted

end Toml

end ShellPipeline
