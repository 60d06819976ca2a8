import CallWire.Proofs.YamlCursor
import Mathlib.Algebra.Group.Nat.Defs

/-!
This module contains that texts between quotes are read as they are written, between double quotes
with escapes and between single quotes with the indentation of lines after a break.
-/

namespace CallWire

namespace Yaml

structure Spelling (quote : Char) (spell : Char → List Char) (inWord : Char → Bool) : Prop where
  beginsWord_quote : BeginsWord [quote]
  spell_ne_nil {x : Char} : inWord x = true → spell x ≠ []
  beginsWord {x : Char} : inWord x = true → BeginsWord (spell x)
  readQuotedWord_spell {x : Char} {c : Cursor} {rest read : List Char} {fuel : Nat} :
    inWord x = true → c.rest = spell x ++ rest →
      readQuotedWord quote (fuel + 1) read c
        =
      readQuotedWord quote fuel (read ++ [x]) (c.skip (spell x).length)

/-- What a text is spelled as between quotes, gap by gap. -/
inductive Spelled (spell : Char → List Char) (inWord : Char → Bool) (indent : Nat) :
    List Char → List Char → Prop where
  | nil : Spelled spell inWord indent [] []
  | char {x : Char} {s e : List Char} (hx : inWord x = true)
    (hs : Spelled spell inWord indent s e) :
    Spelled spell inWord indent (x :: s) (spell x ++ e)
  | blanks {s e : List Char} (n : Nat) (hword : BeginsWord e)
    (hs : Spelled spell inWord indent s e) :
    Spelled spell inWord indent (List.replicate (n + 1) ' ' ++ s)
      (List.replicate (n + 1) ' ' ++ e)
  | breaks {x : Char} {more s e : List Char} (hx : isPrintedBreak x = true) (hgap : inWord x = false)
    (hline : x ≠ '\n') (hmore : ∀ y ∈ more, isPrintedBreak y = true) (hword : BeginsWord e)
    (hs : Spelled spell inWord indent s e) :
    Spelled spell inWord indent (x :: (more ++ s))
      (x :: (more ++ (List.replicate indent ' ' ++ e)))

variable {spell : Char → List Char} {inWord : Char → Bool} {c : Cursor} {x quote : Char}
variable {w s e rest tail read : List Char} {fuel indent : Nat}

theorem beginsWord_append (h : BeginsWord s) (hrest : s = [] → BeginsWord rest)
    : BeginsWord (s ++ rest) := by
  cases s with
  | nil => exact hrest rfl
  | cons x s => exact h

theorem Spelled.cons_blank (h : Spelling quote spell inWord)
    (hs : Spelled spell inWord indent s e)
    (hhead : ∀ y ∈ s.head?, isPrintedBreak y = true → inWord y = true)
    : Spelled spell inWord indent (' ' :: s) (' ' :: e) := by
  cases hs with
  | nil => exact .blanks 0 beginsWord_nil .nil
  | char hx hs =>
    refine .blanks 0 (beginsWord_append (h.beginsWord hx) ?_) (.char hx hs)
    exact fun hnil => absurd hnil (h.spell_ne_nil hx)
  | blanks n hword hs => exact .blanks (n + 1) hword hs
  | breaks hx hgap hline hmore hword hs =>
    rw [hhead _ rfl hx] at hgap
    cases hgap

theorem Spelled.length_le (h : Spelling quote spell inWord) (hs : Spelled spell inWord indent s e)
    : s.length ≤ e.length := by
  induction hs with
  | nil => exact Nat.le_refl _
  | char hx _ ih =>
    have := List.length_pos_iff.mpr (h.spell_ne_nil hx)
    rw [List.length_append, List.length_cons]
    omega
  | blanks n _ _ ih =>
    rw [List.length_append, List.length_append]
    omega
  | breaks _ _ _ _ _ _ ih =>
    simp only [List.length_cons, List.length_append]
    omega

theorem readQuotedWord_of_gap (hx : isBlank x = true ∨ isBreak x = true) (hrest : c.rest = x :: rest)
    : readQuotedWord quote fuel read c = some (read, false, c) := by
  cases fuel with
  | zero => rfl
  | succ fuel =>
    unfold readQuotedWord
    rw [Cursor.peek?_cons hrest]
    dsimp only
    rw [if_pos (by simpa using hx)]

theorem readQuotedWord_of_quote (hquote : BeginsWord [quote]) (htail : tail.head? ≠ some quote)
    (hrest : c.rest = quote :: tail)
    : readQuotedWord quote fuel read c = some (read, false, c) := by
  cases fuel with
  | zero => rfl
  | succ fuel =>
    obtain ⟨hblank, hbreak⟩ := hquote quote rfl
    unfold readQuotedWord
    rw [Cursor.peek?_cons hrest]
    dsimp only
    rw [if_neg (by simp [hblank, hbreak]), if_neg, if_pos rfl]
    rintro ⟨hsingle, _, hnext⟩
    unfold Cursor.ahead? at hnext
    rw [hrest, List.drop_one, List.tail_cons] at hnext
    exact htail (hsingle ▸ hnext)

namespace Spelling

theorem length_le (h : Spelling quote spell inWord) (hw : ∀ x ∈ w, inWord x = true)
    : w.length ≤ (w.flatMap spell).length := by
  induction w with
  | nil => exact Nat.le_refl _
  | cons x w ih =>
    have hx := List.length_pos_iff.mpr (h.spell_ne_nil (hw x List.mem_cons_self))
    have hw := ih (fun y hy => hw y (List.mem_cons_of_mem _ hy))
    rw [List.flatMap_cons, List.length_append, List.length_cons]
    omega

theorem readQuotedWord_word (h : Spelling quote spell inWord) (read : List Char)
    (hw : ∀ x ∈ w, inWord x = true)
    (hrest : c.rest = w.flatMap spell ++ rest) (hfuel : w.length ≤ fuel)
    (hstop : ∀ c fuel read, c.rest = rest →
      readQuotedWord quote fuel read c = some (read, false, c))
    : ∃ c', readQuotedWord quote fuel read c = some (read ++ w, false, c') ∧ c'.rest = rest
        ∧ c.column ≤ c'.column := by
  induction w generalizing c fuel read with
  | nil =>
    rw [List.append_nil]
    exact ⟨c, hstop c fuel read hrest, hrest, Nat.le_refl _⟩
  | cons x w ih =>
    obtain ⟨fuel, rfl⟩ : ∃ m, fuel = m + 1 := ⟨fuel - 1, by rw [List.length_cons] at hfuel; omega⟩
    rw [List.flatMap_cons, List.append_assoc] at hrest
    rw [h.readQuotedWord_spell (hw x List.mem_cons_self) hrest]
    have hskip := Cursor.skip_append hrest
    obtain ⟨c', hread, hrest', hcolumn⟩ := ih (read ++ [x])
      (fun y hy => hw y (List.mem_cons_of_mem _ hy)) (congrArg Cursor.rest hskip)
      (Nat.le_of_succ_le_succ hfuel)
    refine ⟨c', ?_, hrest', ?_⟩
    . rw [hread, List.append_assoc, List.singleton_append]
    . rw [hskip] at hcolumn
      exact Nat.le_trans (Nat.le_add_right _ _) hcolumn

theorem readQuoted_step (h : Spelling quote spell inWord) (fuel : Nat) (read : List Char)
    (hw : ∀ x ∈ w, inWord x = true) (hrest : c.rest = w.flatMap spell ++ x :: rest)
    (hx : isBlank x = true ∨ isBreak x = true) (hcolumn : 0 < c.column)
    : ∃ c', c'.rest = x :: rest ∧ 0 < c'.column
        ∧ readQuoted quote (fuel + 1) read c
          =
        (readGap 0 c'.rest.length {} c').bind (fun step =>
          readQuoted quote fuel (read ++ w ++ step.1.text) step.2) := by
  have hlength : w.length ≤ c.rest.length := by
    have := h.length_le hw
    rw [hrest, List.length_append]
    omega
  obtain ⟨c', hread, hrest', hcolumn'⟩ := h.readQuotedWord_word read hw hrest hlength
    (fun _ _ _ hc => readQuotedWord_of_gap hx hc)
  refine ⟨c', hrest', Nat.lt_of_lt_of_le hcolumn hcolumn', ?_⟩
  have hend : c.isAtEnd = false := Cursor.isAtEnd_of_append hrest
  have hquote : c'.isAt quote = false := by
    apply Cursor.isAt_of_ne
    rw [hrest']
    intro hsame
    cases hsame
    have := h.beginsWord_quote x rfl
    rcases hx with hx | hx <;> simp_all
  rw [readQuoted, Cursor.isAtDocumentMark_of_pos hcolumn, hend, Bool.or_self,
    if_neg Bool.false_ne_true, hread]
  dsimp only
  rw [hquote, if_neg Bool.false_ne_true]
  cases readGap 0 c'.rest.length {} c' with
  | none => rfl
  | some step => rfl

theorem readQuoted_last (h : Spelling quote spell inWord) (fuel : Nat) (read : List Char)
    (hw : ∀ x ∈ w, inWord x = true) (hrest : c.rest = w.flatMap spell ++ quote :: tail)
    (htail : tail.head? ≠ some quote) (hcolumn : 0 < c.column)
    : ∃ c', readQuoted quote (fuel + 1) read c = some { text := read ++ w, after := c' }
        ∧ c'.rest = tail := by
  have hlength : w.length ≤ c.rest.length := by
    have := h.length_le hw
    rw [hrest, List.length_append]
    omega
  obtain ⟨c', hread, hrest', _⟩ := h.readQuotedWord_word read hw hrest hlength
    (fun _ _ _ hc => readQuotedWord_of_quote h.beginsWord_quote htail hc)
  have hend : c.isAtEnd = false := Cursor.isAtEnd_of_append hrest
  have hquote : c'.isAt quote = true := by
    unfold Cursor.isAt
    rw [Cursor.peek?_cons hrest', beq_self_eq_true]
  refine ⟨c'.skip 1, ?_, by rw [Cursor.skip_one hrest']⟩
  rw [readQuoted, Cursor.isAtDocumentMark_of_pos hcolumn, hend, Bool.or_self,
    if_neg Bool.false_ne_true, hread]
  dsimp only
  rw [if_pos hquote]

theorem readQuoted_word_spelled (h : Spelling quote spell inWord) (hindent : 0 < indent)
    (hs : Spelled spell inWord indent s e) (hw : ∀ x ∈ w, inWord x = true)
    (hrest : c.rest = w.flatMap spell ++ (e ++ quote :: tail)) (htail : tail.head? ≠ some quote)
    (hfuel : s.length < fuel) (hcolumn : 0 < c.column)
    : ∃ c', readQuoted quote fuel read c = some { text := read ++ w ++ s, after := c' }
        ∧ c'.rest = tail := by
  obtain ⟨fuel, rfl⟩ : ∃ m, fuel = m + 1 := ⟨fuel - 1, by omega⟩
  induction hs generalizing w c fuel read with
  | nil =>
    rw [List.append_nil]
    exact h.readQuoted_last fuel read hw hrest htail hcolumn
  | @char x s e hx hs ih =>
    have hw' : ∀ y ∈ w ++ [x], inWord y = true := by
      intro y hy
      rcases List.mem_append.mp hy with hy | hy
      . exact hw y hy
      . cases List.mem_singleton.mp hy
        exact hx
    obtain ⟨c', hread, hrest'⟩ := ih (w := w ++ [x]) hw' (by simp [hrest]) hcolumn
      fuel (Nat.lt_of_succ_lt hfuel)
    refine ⟨c', ?_, hrest'⟩
    rw [hread]
    simp
  | @blanks s e n hword hs ih =>
    obtain ⟨fuel, rfl⟩ : ∃ m, fuel = m + 1 := ⟨fuel - 1, by simp at hfuel; omega⟩
    rw [List.append_assoc, List.replicate_succ, List.cons_append] at hrest
    obtain ⟨c', hrest', hcolumn', hread⟩ := h.readQuoted_step (fuel + 1) read hw hrest
      (.inl isBlank_space) hcolumn
    have hspaces : c'.rest = List.replicate (n + 1) ' ' ++ (e ++ quote :: tail) := by
      rw [hrest', List.replicate_succ, List.cons_append]
    have hlength : n + 1 ≤ c'.rest.length := by
      rw [hspaces, List.length_append, List.length_replicate]
      omega
    have hskip := Cursor.skip_spaces hspaces
    have hgap := readGap_blanks (g := {}) 0 rfl hlength hspaces
      (beginsWord_append hword (fun _ => h.beginsWord_quote))
    obtain ⟨c'', hread', hrest''⟩ := ih (w := []) (c := c'.skip (n + 1)) (by simp)
      (congrArg Cursor.rest hskip) (by rw [hskip]; exact Nat.add_pos_left hcolumn' _) fuel
      (by simp at hfuel; omega)
    refine ⟨c'', ?_, hrest''⟩
    rw [hread, hgap, Option.bind_some, hread']
    simp [Gap.text]
  | @breaks x more s e hx hgap hline hmore hword hs ih =>
    obtain ⟨fuel, rfl⟩ : ∃ m, fuel = m + 1 := ⟨fuel - 1, by simp at hfuel; omega⟩
    rw [List.cons_append] at hrest
    obtain ⟨c', hrest', _, hread⟩ := h.readQuoted_step (fuel + 1) read hw hrest
      (.inr (isBreak_of_isPrintedBreak hx)) hcolumn
    rw [List.append_assoc, List.append_assoc] at hrest'
    have hlength : more.length + (indent + 1) ≤ c'.rest.length := by
      rw [hrest', List.length_cons, List.length_append, List.length_append, List.length_replicate]
      omega
    obtain ⟨c'', hgap, hrest'', hcolumn''⟩ := readGap_breaks (g := {}) 0 hlength hx
      hmore hrest' (beginsWord_append hword (fun _ => h.beginsWord_quote)) rfl
    obtain ⟨c₃, hread', hrest₃⟩ := ih (w := []) (c := c'') (by simp) hrest''
      (hcolumn'' ▸ hindent) fuel (by simp at hfuel; omega)
    refine ⟨c₃, ?_, hrest₃⟩
    rw [hread, hgap, Option.bind_some, hread']
    simp [Gap.text, hline]

theorem readQuoted_spelled (h : Spelling quote spell inWord) (hindent : 0 < indent)
    (hs : Spelled spell inWord indent s e) (hrest : c.rest = e ++ quote :: tail)
    (htail : tail.head? ≠ some quote) (hfuel : s.length < fuel) (hcolumn : 0 < c.column)
    : ∃ c', readQuoted quote fuel [] c = some { text := s, after := c' } ∧ c'.rest = tail := by
  exact h.readQuoted_word_spelled (w := []) hindent hs (by simp) hrest htail hfuel hcolumn

end Spelling

def isQuotedWord (x : Char) : Bool := !(isBlank x || isBreak x)

theorem isQuotedWord_cases (h : isQuotedWord x = true) : isBlank x = false ∧ isBreak x = false := by
  unfold isQuotedWord at h
  simpa using h

theorem isQuotedWord_of_break (h : isPrintedBreak x = true) : isQuotedWord x = false := by
  unfold isQuotedWord
  rw [isBreak_of_isPrintedBreak h, Bool.or_true, Bool.not_true]

/-! ## Single quotes -/

def spellSingle (x : Char) : List Char := if x = '\'' then ['\'', '\''] else [x]

theorem spelling_single : Spelling '\'' spellSingle isQuotedWord where
  beginsWord_quote := beginsWord_cons (by decide) (by decide)
  spell_ne_nil := by
    intro x _
    unfold spellSingle
    split <;> exact List.cons_ne_nil _ _
  beginsWord := by
    intro x hx
    obtain ⟨hblank, hbreak⟩ := isQuotedWord_cases hx
    unfold spellSingle
    split
    . exact beginsWord_cons (by decide) (by decide)
    . exact beginsWord_cons hblank hbreak
  readQuotedWord_spell := by
    intro x c rest read fuel hx hrest
    obtain ⟨hblank, hbreak⟩ := isQuotedWord_cases hx
    unfold spellSingle at hrest ⊢
    rw [readQuotedWord]
    by_cases hquote : x = '\''
    . rw [if_pos hquote] at hrest ⊢
      have hnext : c.ahead? 1 = some '\'' := Cursor.ahead?_one hrest
      rw [Cursor.peek?_cons hrest]
      dsimp only
      rw [if_neg (by decide), if_pos ⟨rfl, rfl, hnext⟩, hquote]
      rfl
    . rw [if_neg hquote] at hrest ⊢
      rw [Cursor.peek?_cons hrest]
      dsimp only
      rw [if_neg (by simp [hblank, hbreak]), if_neg (fun h => hquote h.2.1), if_neg hquote]
      rw [if_neg (fun h => absurd h.1 (by decide))]
      rfl

theorem singleQuotedChars_afterBreak (hword : BeginsWord s)
    : singleQuotedChars indent true s
        =
      List.replicate indent ' ' ++ singleQuotedChars indent false s := by
  cases s with
  | nil => simp [singleQuotedChars, indented]
  | cons x s =>
    obtain ⟨hblank, hbreak⟩ := hword x rfl
    have hspace : isSpace x = false := by
      unfold isBlank at hblank
      unfold isSpace
      rw [Bool.or_eq_false_iff] at hblank
      exact hblank.1
    simp [singleQuotedChars, indented, hbreak, hspace]

structure SingleQuotable (s : List Char) : Prop where
  printable : ∀ x ∈ s, isPrintable x = true
  noLine : '\n' ∉ s
  blankBeforeBreak : hasPair isSpace isBreak s = false
  blankAfterBreak : hasPair isBreak isSpace s = false

theorem SingleQuotable.of_cons (h : SingleQuotable (x :: s)) : SingleQuotable s := by
  have hpair {p q : Char → Bool} (h : hasPair p q (x :: s) = false) : hasPair p q s = false := by
    cases s with
    | nil => rfl
    | cons y s => exact (Bool.or_eq_false_iff.mp h).2
  exact
    { printable := fun y hy => h.printable y (List.mem_cons_of_mem _ hy)
      noLine := fun hline => h.noLine (List.mem_cons_of_mem _ hline)
      blankBeforeBreak := hpair h.blankBeforeBreak
      blankAfterBreak := hpair h.blankAfterBreak }

theorem SingleQuotable.word_or_break (h : SingleQuotable (x :: s)) (hx : isBreak x = true)
    : BeginsWord s ∨ ∃ y s', s = y :: s' ∧ isBreak y = true := by
  cases s with
  | nil => exact .inl beginsWord_nil
  | cons y s =>
    cases hy : isBreak y with
    | true => exact .inr ⟨y, s, rfl, hy⟩
    | false =>
      have hpair := (Bool.or_eq_false_iff.mp h.blankAfterBreak).1
      rw [hx, Bool.true_and] at hpair
      have hprint := h.printable y (by simp)
      exact .inl (beginsWord_cons ((isBlank_of_isPrintable hprint).trans hpair) hy)

theorem singleQuotedChars_word (hx : isQuotedWord x = true)
    : singleQuotedChars indent false (x :: s)
        =
      spellSingle x ++ singleQuotedChars indent false s := by
  obtain ⟨hblank, hbreak⟩ := isQuotedWord_cases hx
  have hspace : isSpace x = false := by
    unfold isBlank at hblank
    unfold isSpace
    rw [Bool.or_eq_false_iff] at hblank
    exact hblank.1
  simp [singleQuotedChars, spellSingle, indented, hbreak, hspace]

theorem beginsWord_singleQuotedChars (hword : BeginsWord s)
    : BeginsWord (singleQuotedChars indent false s) := by
  cases s with
  | nil => exact beginsWord_nil
  | cons x s =>
    obtain ⟨hblank, hbreak⟩ := hword x rfl
    have hx : isQuotedWord x = true := by
      unfold isQuotedWord
      rw [hblank, hbreak]
      rfl
    rw [singleQuotedChars_word hx]
    apply beginsWord_append (spelling_single.beginsWord hx)
    exact fun hnil => absurd hnil (spelling_single.spell_ne_nil hx)

theorem Spelled.cons_break {y : Char} (hs : Spelled spell isQuotedWord indent (y :: s) e)
    (hx : isPrintedBreak x = true) (hline : x ≠ '\n') (hy : isPrintedBreak y = true)
    : Spelled spell isQuotedWord indent (x :: y :: s) (x :: e) := by
  generalize hz : y :: s = z at hs
  cases hs with
  | nil => cases hz
  | char hword hs =>
    cases hz
    have := (isQuotedWord_cases hword).2
    rw [isBreak_of_isPrintedBreak hy] at this
    cases this
  | blanks n hword hs =>
    cases hz
    cases hy
  | @breaks x' more s' e' _ _ _ hmore hword hs =>
    cases hz
    have hmore' : ∀ z ∈ y :: more, isPrintedBreak z = true := List.forall_mem_cons.mpr ⟨hy, hmore⟩
    exact .breaks hx (isQuotedWord_of_break hx) hline hmore' hword hs

theorem spelled_single (indent : Nat) (h : SingleQuotable s)
    : Spelled spellSingle isQuotedWord indent s (singleQuotedChars indent false s) := by
  induction s with
  | nil => exact .nil
  | cons x s ih =>
    have ih := ih h.of_cons
    have hprint := h.printable x List.mem_cons_self
    cases hbreak : isBreak x with
    | true =>
      have hx := isPrintedBreak_of_isPrintable hbreak hprint
      have hline : x ≠ '\n' := fun hline => h.noLine (hline ▸ List.mem_cons_self)
      have hchars : singleQuotedChars indent false (x :: s)
          = x :: singleQuotedChars indent true s := by
        rw [singleQuotedChars, if_pos hbreak]
      rw [hchars]
      rcases h.word_or_break hbreak with hword | ⟨y, s, rfl, hy⟩
      . rw [singleQuotedChars_afterBreak hword]
        have hnone : ∀ z ∈ ([] : List Char), isPrintedBreak z = true := by simp
        exact .breaks hx (isQuotedWord_of_break hx) hline hnone
          (beginsWord_singleQuotedChars hword) ih
      . have hmore : singleQuotedChars indent true (y :: s)
            = singleQuotedChars indent false (y :: s) := by
          rw [singleQuotedChars, singleQuotedChars, if_pos hy, if_pos hy]
        rw [hmore]
        exact ih.cons_break hx hline (isPrintedBreak_of_isPrintable hy (h.printable y (by simp)))
    | false =>
      cases hspace : isSpace x with
      | true =>
        have hchars : singleQuotedChars indent false (x :: s)
            = x :: singleQuotedChars indent false s := by
          rw [singleQuotedChars, if_neg (ne_true_of_eq_false hbreak), if_pos hspace]
        have hx : x = ' ' := of_decide_eq_true hspace
        rw [hchars, hx]
        apply ih.cons_blank spelling_single
        intro y hy
        obtain ⟨s, rfl⟩ := List.head?_eq_some_iff.mp hy
        have hpair := (Bool.or_eq_false_iff.mp h.blankBeforeBreak).1
        rw [hspace, Bool.true_and] at hpair
        intro hbreak
        rw [isBreak_of_isPrintedBreak hbreak] at hpair
        cases hpair
      | false =>
        have hx : isQuotedWord x = true := by
          unfold isQuotedWord
          rw [isBlank_of_isPrintable hprint, hspace, hbreak]
          rfl
        rw [singleQuotedChars_word hx]
        exact .char hx ih

/-! ## Double quotes -/

def isEscapedWord (x : Char) : Bool := x != ' '

theorem hexDigit?_upperHexDigit (n : Nat) : hexDigit? (upperHexDigit n) = some (n % 16) := by
  have hdigits : ∀ m < 16, hexDigit? (Nat.digitChar m).toUpper = some m := by decide
  exact hdigits (n % 16) (Nat.mod_lt n (by decide))

theorem length_upperHex (width n : Nat) : (upperHex width n).length = width := by
  induction width generalizing n with
  | zero => rfl
  | succ width ih =>
    unfold upperHex
    rw [List.length_append, ih]
    rfl

theorem mapM_upperHex (width n : Nat)
    : ∃ values, (upperHex width n).mapM hexDigit? = some values
        ∧ values.foldl (fun n d => n * 16 + d) 0 = n % 16 ^ width := by
  induction width generalizing n with
  | zero => exact ⟨[], rfl, (Nat.mod_one n).symm⟩
  | succ width ih =>
    obtain ⟨values, hvalues, hfold⟩ := ih (n / 16)
    refine ⟨values ++ [n % 16], ?_, ?_⟩
    . unfold upperHex
      rw [List.mapM_append, hvalues, List.mapM_cons, hexDigit?_upperHexDigit]
      rfl
    . rw [List.foldl_append, hfold, Nat.pow_succ', Nat.mod_mul]
      dsimp only [List.foldl_cons, List.foldl_nil]
      omega

theorem readCodePoint_upperHex {width : Nat} (hfits : x.toNat < 16 ^ width)
    : readCodePoint width (upperHex width x.toNat ++ rest) = some (x, 2 + width) := by
  have htake : (upperHex width x.toNat ++ rest).take width = upperHex width x.toNat := by
    rw [List.take_append_of_le_length (Nat.le_of_eq (length_upperHex _ _).symm)]
    exact List.take_of_length_le (Nat.le_of_eq (length_upperHex _ _))
  obtain ⟨values, hvalues, hfold⟩ := mapM_upperHex width x.toNat
  rw [Nat.mod_eq_of_lt hfits] at hfold
  unfold readCodePoint
  dsimp only
  rw [htake, length_upperHex, if_neg (Nat.lt_irrefl _), hvalues]
  dsimp only
  rw [hfold, if_pos (show x.toNat.isValidChar from x.valid), Char.ofNat_toNat]

def namedEscapes : List Char :=
  ['\x00', '\x07', '\x08', '\t', '\n', '\x0b', '\x0c', '\r', '\x1b', '"', '\\', '\x85', '\u2028',
    '\u2029']

/-- What is written for a character with a backslash, and that it is read as the character. -/
def Escapes (x y : Char) (e : List Char) : Prop :=
  doubleQuotedChar x = '\\' :: y :: e ∧ isBreak y = false
    ∧ ∀ rest, readEscape (y :: (e ++ rest)) = some (x, e.length + 2)

theorem escapes_of_named (h : x ∈ namedEscapes) : ∃ y e, Escapes x y e := by
  simp only [namedEscapes, List.mem_cons, List.not_mem_nil, or_false] at h
  rcases h with rfl | rfl | rfl | rfl | rfl | rfl | rfl | rfl | rfl | rfl | rfl | rfl | rfl | rfl
    <;> exact ⟨_, _, rfl, by decide, fun _ => rfl⟩

theorem doubleQuotedChar_of_not_named (h : x ∉ namedEscapes)
    : doubleQuotedChar x
        =
      if isPrintable x then [x]
      else if x.toNat ≤ 0xFF then '\\' :: 'x' :: upperHex 2 x.toNat
      else '\\' :: 'u' :: upperHex 4 x.toNat := by
  simp only [namedEscapes, List.mem_cons, List.not_mem_nil, or_false, not_or] at h
  obtain ⟨h0, h1, h2, h3, h4, h5, h6, h7, h8, h9, h10, h11, h12, h13⟩ := h
  unfold doubleQuotedChar
  rw [if_neg h0, if_neg h1, if_neg h2, if_neg h3, if_neg h4, if_neg h5, if_neg h6, if_neg h7,
    if_neg h8, if_neg h9, if_neg h10, if_neg h11, if_neg h12, if_neg h13]

theorem doubleQuotedChar_cases (x : Char)
    : (doubleQuotedChar x = [x] ∧ isPrintable x = true ∧ x ∉ namedEscapes)
        ∨
      ∃ y e, Escapes x y e := by
  by_cases hnamed : x ∈ namedEscapes
  . exact .inr (escapes_of_named hnamed)
  have hchar := doubleQuotedChar_of_not_named hnamed
  by_cases hprint : isPrintable x = true
  . rw [if_pos hprint] at hchar
    exact .inl ⟨hchar, hprint, hnamed⟩
  rw [if_neg hprint] at hchar
  right
  by_cases hshort : x.toNat ≤ 0xFF
  . rw [if_pos hshort] at hchar
    have hfits : x.toNat < 16 ^ 2 := by omega
    refine ⟨_, _, hchar, by decide, ?_⟩
    intro rest
    rw [length_upperHex]
    exact readCodePoint_upperHex hfits
  . rw [if_neg hshort] at hchar
    have hfits : x.toNat < 16 ^ 4 := by
      unfold isPrintable at hprint
      simp only [Bool.or_eq_true, decide_eq_true_eq, not_or] at hprint
      omega
    refine ⟨_, _, hchar, by decide, ?_⟩
    intro rest
    rw [length_upperHex]
    exact readCodePoint_upperHex hfits

theorem isBreak_of_not_named (hprint : isPrintable x = true) (h : x ∉ namedEscapes)
    : isBreak x = false := by
  rw [Bool.eq_false_iff]
  intro hbreak
  apply h
  rcases isPrintedBreak_cases (isPrintedBreak_of_isPrintable hbreak hprint) with rfl | rfl | rfl
    <;> decide

theorem isBlank_of_isEscapedWord (hprint : isPrintable x = true) (hx : isEscapedWord x = true)
    : isBlank x = false := by
  rw [isBlank_of_isPrintable hprint]
  unfold isEscapedWord at hx
  exact decide_eq_false (by simpa using hx)

theorem spelling_double : Spelling '"' doubleQuotedChar isEscapedWord where
  beginsWord_quote := beginsWord_cons (by decide) (by decide)
  spell_ne_nil := by
    intro x _
    rcases doubleQuotedChar_cases x with ⟨hchar, _⟩ | ⟨y, e, hchar, _⟩ <;> rw [hchar]
      <;> exact List.cons_ne_nil _ _
  beginsWord := by
    intro x hx
    rcases doubleQuotedChar_cases x with ⟨hchar, hprint, hnamed⟩ | ⟨y, e, hchar, _⟩ <;> rw [hchar]
    . exact beginsWord_cons (isBlank_of_isEscapedWord hprint hx)
        (isBreak_of_not_named hprint hnamed)
    . exact beginsWord_cons (by decide) (by decide)
  readQuotedWord_spell := by
    intro x c rest read fuel hx hrest
    rw [readQuotedWord]
    rcases doubleQuotedChar_cases x with ⟨hchar, hprint, hnamed⟩ | ⟨y, e, hchar, hbreak, hread⟩
      <;> rw [hchar] at hrest ⊢
    . have hquote : x ≠ '"' := fun h => hnamed (h ▸ by decide)
      have hslash : x ≠ '\\' := fun h => hnamed (h ▸ by decide)
      rw [Cursor.peek?_cons hrest]
      dsimp only
      rw [isBlank_of_isEscapedWord hprint hx, isBreak_of_not_named hprint hnamed, Bool.or_self]
      rw [if_neg Bool.false_ne_true, if_neg (fun h => absurd h.1 (by decide)), if_neg hquote]
      rw [if_neg (fun h => hslash h.2)]
      rfl
    . have hahead : (c.ahead? 1).any isBreak = false := by
        unfold Cursor.ahead?
        rw [hrest]
        exact hbreak
      have hescape : readEscape (c.rest.drop 1) = some (x, e.length + 2) := by
        rw [hrest]
        exact hread rest
      rw [Cursor.peek?_cons hrest]
      dsimp only
      rw [if_neg (by decide), if_neg (fun h => absurd h.1 (by decide)), if_neg (by decide)]
      rw [if_pos ⟨rfl, rfl⟩, hahead, if_neg Bool.false_ne_true, hescape]
      rfl

theorem spelled_double (indent : Nat) (s : List Char)
    : Spelled doubleQuotedChar isEscapedWord indent s (s.flatMap doubleQuotedChar) := by
  induction s with
  | nil => exact .nil
  | cons x s ih =>
    rw [List.flatMap_cons]
    by_cases hx : isEscapedWord x = true
    . exact .char hx ih
    . have hspace : x = ' ' := by simpa [isEscapedWord] using hx
      rw [hspace]
      apply ih.cons_blank spelling_double
      intro y _ hbreak
      rcases isPrintedBreak_cases hbreak with rfl | rfl | rfl <;> decide

end Yaml
end CallWire
