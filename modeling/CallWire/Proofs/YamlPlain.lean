import CallWire.Proofs.YamlCursor

/-!
This module contains that texts without quotes are read as they are written, word by word, up to the
break that ends their line.
-/

namespace CallWire

namespace Yaml

variable {c : Cursor} {x y : Char} {s w rest left : List Char} {fuel indent n : Nat}

structure PlainWords (s : List Char) : Prop where
  ne_nil : s ≠ []
  printable : ∀ x ∈ s, isPrintable x = true ∧ isBreak x = false
  front : s.head? ≠ some ' '
  last : s.getLast? ≠ some ' '
  indicator : hasInnerIndicator (' ' :: s) = false

theorem hasInnerIndicator_of_cons (h : hasInnerIndicator (x :: s) = false)
    : hasInnerIndicator s = false := by
  cases s with
  | nil => rfl
  | cons y s => exact (Bool.or_eq_false_iff.mp h).2

theorem hasInnerIndicator_of_append (h : hasInnerIndicator (w ++ s) = false)
    : hasInnerIndicator s = false := by
  induction w with
  | nil => exact h
  | cons x w ih => exact ih (hasInnerIndicator_of_cons h)

theorem exists_blanks_append (s : List Char)
    : ∃ n s', s = List.replicate n ' ' ++ s' ∧ s'.head? ≠ some ' ' := by
  induction s with
  | nil => exact ⟨0, [], rfl, by simp⟩
  | cons x s ih =>
    by_cases hx : x = ' '
    . obtain ⟨n, s', rfl, hs'⟩ := ih
      exact ⟨n + 1, s', by rw [hx]; rfl, hs'⟩
    . exact ⟨0, x :: s, rfl, by simpa using hx⟩

theorem exists_word_append (s : List Char)
    : ∃ w s', s = w ++ s' ∧ (∀ x ∈ w, x ≠ ' ') ∧ (s' = [] ∨ ∃ s'', s' = ' ' :: s'') := by
  induction s with
  | nil => exact ⟨[], [], rfl, by simp, .inl rfl⟩
  | cons x s ih =>
    by_cases hx : x = ' '
    . exact ⟨[], x :: s, rfl, by simp, .inr ⟨s, by rw [hx]⟩⟩
    . obtain ⟨w, s', rfl, hw, hs'⟩ := ih
      exact ⟨x :: w, s', rfl, List.forall_mem_cons.mpr ⟨hx, hw⟩, hs'⟩

theorem endsWord_of_endsWordAt {tail : List Char} (h : endsWordAt s.head? = false)
    : Cursor.endsWord (s ++ tail).head? = false := by
  cases s with
  | nil => cases h
  | cons y s => exact (Bool.or_eq_false_iff.mp h).1

theorem readPlainWord_word {tail : List Char}
    (hw : ∀ x ∈ w, isBlank x = false ∧ isBreak x = false)
    (hindicator : hasInnerIndicator (y :: (w ++ s)) = false)
    (hstop : ∃ z tail', s ++ tail = z :: tail' ∧ (isBlank z || isBreak z) = true)
    : readPlainWord false (w ++ (s ++ tail)) = some w := by
  induction w generalizing y with
  | nil =>
    obtain ⟨z, tail', hz, hgap⟩ := hstop
    rw [List.nil_append, hz]
    unfold readPlainWord
    rw [if_pos hgap]
  | cons x w ih =>
    obtain ⟨⟨hblank, hbreak⟩, hw⟩ := List.forall_mem_cons.mp hw
    rw [List.cons_append] at hindicator
    obtain ⟨⟨hcolon, _⟩, hmore⟩ : _ ∧ _ := by
      simpa only [hasInnerIndicator, Bool.or_eq_false_iff] using hindicator
    have hends : (x = ':' && Cursor.endsWord (w ++ (s ++ tail)).head?) = false := by
      rw [Bool.and_eq_false_iff] at hcolon ⊢
      apply hcolon.imp_right
      intro hcolon
      rw [← List.append_assoc]
      exact endsWord_of_endsWordAt hcolon
    rw [List.cons_append]
    unfold readPlainWord
    rw [hblank, hbreak, Bool.or_self, if_neg Bool.false_ne_true]
    rw [Bool.false_and, Bool.false_and, if_neg Bool.false_ne_true]
    rw [if_neg (by simpa using hends), Bool.false_and, if_neg Bool.false_ne_true]
    rw [ih hw hmore]
    rfl

theorem PlainWords.word {w : List Char} (h : PlainWords s) (hs : s = w ++ rest)
    (hw : ∀ x ∈ w, x ≠ ' ')
    : ∀ x ∈ w, isBlank x = false ∧ isBreak x = false := by
  intro x hx
  obtain ⟨hprint, hbreak⟩ := h.printable x (hs ▸ List.mem_append_left _ hx)
  rw [isBlank_of_isPrintable hprint]
  exact ⟨decide_eq_false (hw x hx), hbreak⟩

theorem PlainWords.suffix (h : PlainWords (w ++ (List.replicate (n + 1) ' ' ++ s)))
    (hfront : s.head? ≠ some ' ')
    : PlainWords s where
  ne_nil := by
    rintro rfl
    apply h.last
    rw [List.append_nil, List.replicate_succ', ← List.append_assoc]
    simp
  printable := fun x hx => h.printable x (by simp [hx])
  front := hfront
  last := by
    intro hlast
    apply h.last
    rw [List.getLast?_append, List.getLast?_append, hlast]
    rfl
  indicator := by
    have hindicator := h.indicator
    rw [List.replicate_succ', ← List.append_assoc, ← List.append_assoc, List.append_assoc _ [' '],
      ← List.cons_append] at hindicator
    exact hasInnerIndicator_of_append hindicator

theorem PlainWords.exists_word (h : PlainWords s)
    : ∃ w s', s = w ++ s' ∧ w ≠ [] ∧ (∀ x ∈ w, isBlank x = false ∧ isBreak x = false)
        ∧ (s' = [] ∨ ∃ k s'', s' = List.replicate (k + 1) ' ' ++ s'' ∧ PlainWords s'') := by
  obtain ⟨w, s', rfl, hw, hs'⟩ := exists_word_append s
  have hne : w ≠ [] := by
    rintro rfl
    rcases hs' with rfl | ⟨s'', rfl⟩
    . exact h.ne_nil rfl
    . exact h.front rfl
  refine ⟨w, s', rfl, hne, h.word rfl hw, ?_⟩
  rcases hs' with rfl | ⟨s'', rfl⟩
  . exact .inl rfl
  . obtain ⟨k, s₃, rfl, hfront⟩ := exists_blanks_append s''
    exact .inr ⟨k, s₃, rfl, h.suffix hfront⟩

theorem PlainWords.beginsWord (h : PlainWords s) : BeginsWord (s ++ rest) := by
  obtain ⟨w, s', rfl, hne, hw, _⟩ := h.exists_word
  cases w with
  | nil => exact absurd rfl hne
  | cons x w => exact beginsWord_cons (hw x List.mem_cons_self).1 (hw x List.mem_cons_self).2

theorem readPlain_step {g : Gap} {z : Char} (fuel : Nat) (read : List Char) (hne : w ≠ [])
    (hw : ∀ x ∈ w, isBlank x = false ∧ isBreak x = false)
    (hindicator : hasInnerIndicator (' ' :: (w ++ s)) = false)
    (hrest : c.rest = w ++ (s ++ left)) (hleft : s ++ left = z :: rest)
    (hz : (isBlank z || isBreak z) = true) (hcolumn : 0 < c.column)
    : readPlain false indent (fuel + 1) read g c
        =
      (readGap indent (c.skip w.length).rest.length {} (c.skip w.length)).bind (fun step =>
        if step.2.column < indent then
          some { text := read ++ g.text ++ w, after := step.2, broken := step.1.broken }
        else readPlain false indent fuel (read ++ g.text ++ w) step.1 step.2) := by
  have hmark : c.isAtDocumentMark = false := Cursor.isAtDocumentMark_of_pos hcolumn
  have hempty : w.isEmpty = false := by simpa using hne
  have hhash : c.isAt '#' = false := by
    apply Cursor.isAt_of_ne
    rw [hrest]
    intro hhash
    cases w with
    | nil => exact hne rfl
    | cons x w =>
      cases hhash
      simp [hasInnerIndicator, endsWordAt, Cursor.endsWord, isBlank_space] at hindicator
  have hread := readPlainWord_word hw hindicator ⟨z, rest, hleft, hz⟩
  have hpeek : ((c.skip w.length).peek?.map (fun x => isBlank x || isBreak x)).getD false
      = true := by
    have hskip := Cursor.skip_append hrest
    rw [Cursor.peek?_cons ((congrArg Cursor.rest hskip).trans hleft)]
    exact hz
  rw [readPlain, hmark, hhash, Bool.or_self, if_neg Bool.false_ne_true, hrest, hread]
  dsimp only
  rw [hempty, if_neg Bool.false_ne_true]
  dsimp only
  rw [hpeek, Bool.not_true, if_neg Bool.false_ne_true]
  cases readGap indent (c.skip w.length).rest.length {} (c.skip w.length) with
  | none => rfl
  | some step => simp

theorem readPlain_words {g : Gap} (read : List Char) (hs : PlainWords s)
    (hrest : c.rest = s ++ '\n' :: (List.replicate n ' ' ++ left)) (hcolumn : indent ≤ c.column)
    (hn : n < indent) (hword : BeginsWord left) (hfuel : s.length < fuel)
    : ∃ c', readPlain false indent fuel read g c
          =
        some { text := read ++ g.text ++ s, after := c', broken := true }
        ∧ c'.rest = left ∧ c'.column = n := by
  induction fuel generalizing s read g c with
  | zero => omega
  | succ fuel ih =>
    have hindicator := hs.indicator
    obtain ⟨w, s', rfl, hne, hw, rfl | ⟨k, s'', rfl, hs''⟩⟩ := hs.exists_word
    . rw [List.append_assoc] at hrest
      rw [readPlain_step fuel read hne hw hindicator hrest rfl rfl (by omega)]
      have hrest' := congrArg Cursor.rest (Cursor.skip_append hrest)
      have hlength : ([] : List Char).length + (n + 1) ≤ (c.skip w.length).rest.length := by
        rw [hrest']
        simp
      obtain ⟨c', hbreaks, hleft, hcolumn'⟩ := readGap_breaks (g := {}) indent hlength (by decide)
        (by simp) hrest' hword rfl
      refine ⟨c', ?_, hleft, hcolumn'⟩
      rw [hbreaks, Option.bind_some, if_pos (by rw [hcolumn']; exact hn), List.append_nil w]
    . rw [List.append_assoc] at hrest
      rw [readPlain_step fuel read hne hw hindicator hrest rfl rfl (by omega)]
      have hskip := Cursor.skip_append hrest
      have hrest' := congrArg Cursor.rest hskip
      have hcolumn' := congrArg Cursor.column hskip
      dsimp only at hrest' hcolumn'
      generalize c.skip w.length = c₁ at hrest' hcolumn'
      rw [List.append_assoc] at hrest'
      have hlength : k + 1 ≤ c₁.rest.length := by
        rw [hrest', List.length_append, List.length_replicate]
        omega
      have hspaces := Cursor.skip_spaces hrest'
      have hinside : indent ≤ (c₁.skip (k + 1)).column := by
        rw [hspaces]
        dsimp only
        omega
      rw [readGap_blanks (g := {}) indent rfl hlength hrest' hs''.beginsWord, Option.bind_some,
        if_neg (Nat.not_lt.mpr hinside)]
      obtain ⟨c', hread, hc'⟩ := ih (read ++ g.text ++ w)
        (g := { blanks := [] ++ List.replicate (k + 1) ' ' }) hs'' (congrArg Cursor.rest hspaces)
        hinside (by simp at hfuel; omega)
      refine ⟨c', ?_, hc'⟩
      rw [hread]
      simp [Gap.text]

/-! ## Scalars -/

/-- A text that stands for itself where it is a value. -/
structure PlainScalar (s : List Char) : Prop where
  ne_nil : s ≠ []
  printable : ∀ x ∈ s, isPrintable x = true ∧ isBreak x = false
  front : s.head? ≠ some ' '
  last : s.getLast? ≠ some ' '
  indicator : hasIndicator s = false

def indicators : List Char := "#,[]\x7b\x7d&*!|>'\"%@`".toList

theorem hasIndicator_cons (x : Char) (s : List Char)
    : hasIndicator (x :: s)
        =
      ((x :: s).take 3 = ['-', '-', '-'] || (x :: s).take 3 = ['.', '.', '.']
        || (indicators.contains x || ((x = '?' || x = ':' || x = '-') && endsWordAt s.head?))
        || hasInnerIndicator (x :: s)) := rfl

theorem hasIndicator_cons_cases (h : hasIndicator (x :: s) = false)
    : x ∉ indicators ∧ ((x = '?' ∨ x = ':' ∨ x = '-') → endsWordAt s.head? = false)
        ∧ hasInnerIndicator (x :: s) = false := by
  rw [hasIndicator_cons] at h
  simp only [Bool.or_eq_false_iff] at h
  obtain ⟨⟨_, hfront, hword⟩, hinner⟩ := h
  refine ⟨?_, ?_, hinner⟩
  . intro hmem
    rw [List.contains_iff_mem.mpr hmem] at hfront
    cases hfront
  . intro hx
    simpa [or_assoc, hx] using hword

theorem PlainScalar.words (h : PlainScalar s) : PlainWords s where
  ne_nil := h.ne_nil
  printable := h.printable
  front := h.front
  last := h.last
  indicator := by
    have hne := h.ne_nil
    have hindicator := h.indicator
    cases s with
    | nil => exact absurd rfl hne
    | cons x s =>
      obtain ⟨hmem, hword, hinner⟩ := hasIndicator_cons_cases hindicator
      have hhash : x ≠ '#' := fun hx => hmem (hx ▸ by decide)
      unfold hasInnerIndicator
      rw [hinner, decide_eq_false hhash, Bool.false_and, Bool.or_false, Bool.or_false]
      by_cases hx : x = ':'
      . rw [hword (.inr (.inl hx)), Bool.and_false]
      . rw [decide_eq_false hx, Bool.false_and]

theorem hasInnerIndicator_of_forall (h : ∀ x ∈ s, x ≠ ':' ∧ x ≠ '#')
    : hasInnerIndicator s = false := by
  induction s with
  | nil => rfl
  | cons x s ih =>
    have ih := ih (fun y hy => h y (List.mem_cons_of_mem _ hy))
    cases s with
    | nil => rfl
    | cons y s =>
      obtain ⟨hcolon, hhash⟩ := h y (by simp)
      unfold hasInnerIndicator
      rw [decide_eq_false hcolon, decide_eq_false hhash, ih]
      rfl

def isPlainChar (x : Char) : Bool := x.isAlphanum || x = '_'

theorem isPrintable_of_isPlainChar (h : isPlainChar x = true) : isPrintable x = true := by
  have hrange : 0x20 ≤ x.toNat ∧ x.toNat ≤ 0x7E := by
    have hletter : x.isAlpha
        = (decide (x.val ≥ 'A'.val ∧ x.val ≤ 'Z'.val) || (x.val ≥ 'a'.val && x.val ≤ 'z'.val)) := rfl
    have hdigit : x.isDigit = (x.val ≥ '0'.val && x.val ≤ '9'.val) := rfl
    unfold isPlainChar Char.isAlphanum at h
    rw [hletter, hdigit] at h
    simp only [Bool.or_eq_true, Bool.and_eq_true, decide_eq_true_eq, UInt32.le_iff_toNat_le,
      ge_iff_le] at h
    rcases h with h | rfl
    . have hvals : 'A'.val.toNat = 65 ∧ 'Z'.val.toNat = 90 ∧ 'a'.val.toNat = 97 ∧ 'z'.val.toNat = 122
          ∧ '0'.val.toNat = 48 ∧ '9'.val.toNat = 57 := by decide
      unfold Char.toNat
      omega
    . decide
  unfold isPrintable
  simp [hrange]

theorem isBlank_of_isPlainChar (h : isPlainChar x = true) : isBlank x = false := by
  rw [Bool.eq_false_iff]
  intro hblank
  simp only [isBlank, Bool.or_eq_true, decide_eq_true_eq] at hblank
  rcases hblank with rfl | rfl <;> cases h

theorem isBreak_of_isPlainChar (h : isPlainChar x = true) : isBreak x = false := by
  rw [Bool.eq_false_iff]
  intro hbreak
  simp only [isBreak, Bool.or_eq_true, decide_eq_true_eq, or_assoc] at hbreak
  rcases hbreak with rfl | rfl | rfl | rfl | rfl <;> cases h

theorem ne_of_isPlainChar (h : isPlainChar x = true) (hy : isPlainChar y = false) : x ≠ y := by
  rintro rfl
  rw [h] at hy
  cases hy

theorem not_mem_indicators (hx : isPlainChar x = true) : x ∉ indicators := by
  have hnone : indicators.all (fun y => !isPlainChar y) = true := by decide
  intro hmem
  have hfalse := List.all_eq_true.mp hnone x hmem
  rw [hx] at hfalse
  cases hfalse

theorem plainScalar_of_isPlainChar (hne : s ≠ []) (h : ∀ x ∈ s, isPlainChar x = true)
    : PlainScalar s where
  ne_nil := hne
  printable := fun x hx =>
    ⟨isPrintable_of_isPlainChar (h x hx), isBreak_of_isPlainChar (h x hx)⟩
  front := by
    intro hfront
    cases h ' ' (List.mem_of_mem_head? hfront)
  last := by
    intro hlast
    cases h ' ' (List.mem_of_getLast? hlast)
  indicator := by
    have hinner : hasInnerIndicator s = false := hasInnerIndicator_of_forall (fun x hx =>
      ⟨ne_of_isPlainChar (h x hx) (by decide), ne_of_isPlainChar (h x hx) (by decide)⟩)
    cases s with
    | nil => exact absurd rfl hne
    | cons x s =>
      have hx := h x List.mem_cons_self
      have hdash : x ≠ '-' := ne_of_isPlainChar hx (by decide)
      have hdot : x ≠ '.' := ne_of_isPlainChar hx (by decide)
      have hquestion : x ≠ '?' := ne_of_isPlainChar hx (by decide)
      have hcolon : x ≠ ':' := ne_of_isPlainChar hx (by decide)
      have hfront : indicators.contains x = false := by
        rw [Bool.eq_false_iff]
        exact fun hmem => not_mem_indicators hx (List.contains_iff_mem.mp hmem)
      rw [hasIndicator_cons, hfront, hinner]
      simp [hdash, hdot, hquestion, hcolon]

/-! ## Keys -/

theorem readPlainWord_key (hw : ∀ x ∈ w, isPlainChar x = true)
    (hrest : Cursor.endsWord rest.head? = true)
    : readPlainWord false (w ++ ':' :: rest) = some w := by
  induction w with
  | nil =>
    unfold readPlainWord
    simp [hrest]
  | cons x w ih =>
    obtain ⟨hx, hw⟩ := List.forall_mem_cons.mp hw
    have hcolon : x ≠ ':' := ne_of_isPlainChar hx (by decide)
    rw [List.cons_append]
    unfold readPlainWord
    simp [isBlank_of_isPlainChar hx, isBreak_of_isPlainChar hx, hcolon, ih hw]

theorem readPlain_key (indent fuel : Nat) (hw : ∀ x ∈ w, isPlainChar x = true) (hne : w ≠ [])
    (hrest : c.rest = w ++ ':' :: rest) (hend : Cursor.endsWord rest.head? = true)
    : readPlain false indent (fuel + 1) [] {} c = some { text := w, after := c.skip w.length } := by
  have hpeek : (c.skip w.length).peek? = some ':' :=
    Cursor.peek?_cons (by rw [Cursor.skip_append hrest])
  have hfront : c.isAtDocumentMark = false ∧ c.isAt '#' = false ∧ w.isEmpty = false := by
    cases w with
    | nil => exact absurd rfl hne
    | cons x w =>
      have hx := hw x List.mem_cons_self
      have hdash : x ≠ '-' := ne_of_isPlainChar hx (by decide)
      have hdot : x ≠ '.' := ne_of_isPlainChar hx (by decide)
      have hhash : x ≠ '#' := ne_of_isPlainChar hx (by decide)
      unfold Cursor.isAtDocumentMark Cursor.isAtMark Cursor.isAt Cursor.peek?
      rw [hrest]
      simp [hdash, hdot, hhash]
  unfold readPlain
  rw [hfront.1, hfront.2.1, Bool.or_self, if_neg Bool.false_ne_true, hrest]
  rw [readPlainWord_key hw hend]
  dsimp only
  rw [hfront.2.2, if_neg Bool.false_ne_true]
  dsimp only
  rw [hpeek, if_pos (by decide)]
  rfl

end Yaml
end CallWire
