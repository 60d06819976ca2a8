import CallWire.Yaml.Printer
import CallWire.Yaml.Scalar

/-!
This module contains where the moves of a cursor lead, and what the gaps between the words of a
scalar are read as: blanks on one line, or line breaks with the indentation of the line after them.
-/

namespace CallWire

namespace Yaml

variable {c : Cursor} {x : Char} {w s rest : List Char}

def BeginsWord (s : List Char) : Prop := ∀ x ∈ s.head?, isBlank x = false ∧ isBreak x = false

theorem beginsWord_cons (hblank : isBlank x = false) (hbreak : isBreak x = false)
    : BeginsWord (x :: rest) := by
  intro y hy
  cases hy
  exact ⟨hblank, hbreak⟩

theorem beginsWord_nil : BeginsWord [] := by
  intro y hy
  cases hy

theorem isBlank_space : isBlank ' ' = true := rfl

def isPrintedBreak (x : Char) : Bool := x = '\n' || x = '\u2028' || x = '\u2029'

theorem isPrintedBreak_of_isPrintable (hbreak : isBreak x = true) (hprint : isPrintable x = true)
    : isPrintedBreak x = true := by
  simp only [isBreak, Bool.or_eq_true, decide_eq_true_eq, or_assoc] at hbreak
  rcases hbreak with rfl | rfl | rfl | rfl | rfl <;> revert hprint <;> decide

theorem isPrintedBreak_cases (h : isPrintedBreak x = true)
    : x = '\n' ∨ x = '\u2028' ∨ x = '\u2029' := by
  simpa [isPrintedBreak, or_assoc] using h

theorem isBreak_of_isPrintedBreak (h : isPrintedBreak x = true) : isBreak x = true := by
  rcases isPrintedBreak_cases h with rfl | rfl | rfl <;> decide

theorem isBlank_of_isPrintedBreak (h : isPrintedBreak x = true) : isBlank x = false := by
  rcases isPrintedBreak_cases h with rfl | rfl | rfl <;> decide

theorem isBlank_of_isPrintable (h : isPrintable x = true) : isBlank x = isSpace x := by
  have htab : x ≠ '\t' := by
    rintro rfl
    cases h
  unfold isBlank isSpace
  rw [decide_eq_false htab, Bool.or_false]

namespace Cursor

theorem peek?_cons (h : c.rest = x :: rest) : c.peek? = some x := by
  unfold peek?
  rw [h]
  rfl

theorem skip_append (h : c.rest = w ++ rest)
    : c.skip w.length
        =
      { rest, index := c.index + w.length, line := c.line, column := c.column + w.length } := by
  have hmin : min w.length c.rest.length = w.length := by
    rw [h, List.length_append]
    omega
  unfold skip
  dsimp only
  rw [hmin, h, List.drop_left]

@[simp]
theorem skip_zero (c : Cursor) : c.skip 0 = c := by
  unfold skip
  simp

theorem skip_skip (c : Cursor) (m n : Nat) : (c.skip m).skip n = c.skip (m + n) := by
  have hmin : min m c.rest.length + min n (c.rest.length - min m c.rest.length)
      = min (m + n) c.rest.length := by omega
  unfold skip
  simp only [List.length_drop, List.drop_drop, Nat.add_assoc, hmin]

theorem skip_one (h : c.rest = x :: rest)
    : c.skip 1 = { rest, index := c.index + 1, line := c.line, column := c.column + 1 } := by
  exact skip_append (w := [x]) h

theorem skip_spaces {n : Nat} (h : c.rest = List.replicate n ' ' ++ rest)
    : c.skip n = { rest, index := c.index + n, line := c.line, column := c.column + n } := by
  have hskip := skip_append h
  rwa [List.length_replicate] at hskip

theorem span_append {p : Char → Bool} (h : c.rest = w ++ rest) (hw : ∀ x ∈ w, p x = true)
    (hrest : ∀ x ∈ rest.head?, p x = false)
    : c.span p = (w, c.skip w.length) := by
  have hstop : rest.takeWhile p = [] := by
    cases rest with
    | nil => rfl
    | cons x rest => exact List.takeWhile_cons_of_neg (ne_true_of_eq_false (hrest x rfl))
  unfold span
  rw [h, List.takeWhile_append_of_pos hw, hstop, List.append_nil]

theorem skipWhile_append {p : Char → Bool} (h : c.rest = w ++ rest) (hw : ∀ x ∈ w, p x = true)
    (hrest : ∀ x ∈ rest.head?, p x = false)
    : c.skipWhile p = c.skip w.length := by
  unfold skipWhile
  rw [span_append h hw hrest]

theorem skipBreak_cons (h : c.rest = x :: rest) (hx : isPrintedBreak x = true)
    : c.skipBreak = { rest, index := c.index + 1, line := c.line + 1, column := 0 } := by
  unfold skipBreak
  rcases isPrintedBreak_cases hx with rfl | rfl | rfl <;> rw [h] <;> rfl

theorem breakText_cons (h : c.rest = x :: rest) (hx : isPrintedBreak x = true)
    : c.breakText = [x] := by
  unfold breakText
  rw [peek?_cons h]
  rcases isPrintedBreak_cases hx with rfl | rfl | rfl <;> rfl

theorem isAt_of_ne (h : c.rest.head? ≠ some x) : c.isAt x = false := beq_eq_false_iff_ne.mpr h

theorem isAtEnd_of_append (h : c.rest = w ++ x :: rest) : c.isAtEnd = false := by
  unfold isAtEnd
  rw [h]
  simp

theorem ahead?_one (h : c.rest = x :: rest) : c.ahead? 1 = rest.head? := by
  unfold ahead?
  rw [h]
  rfl

theorem isAtMark_of_pos (h : 0 < c.column) (x : Char) : c.isAtMark x = false := by
  unfold isAtMark
  rw [decide_eq_false (Nat.ne_of_gt h)]
  rfl

theorem isAtMark_of_ne (hrest : c.rest = x :: rest) {y : Char} (h : x ≠ y)
    : c.isAtMark y = false := by
  unfold isAtMark
  rw [hrest]
  simp [h]

theorem isAtDocumentMark_of_pos (h : 0 < c.column) : c.isAtDocumentMark = false := by
  unfold isAtDocumentMark
  rw [isAtMark_of_pos h, isAtMark_of_pos h]
  rfl

end Cursor

/-! ## Gaps -/

section

variable {fuel n : Nat} {g : Gap} {breaks : List Char} (indent : Nat)

theorem readGap_of_beginsWord (fuel : Nat) (g : Gap) (h : BeginsWord c.rest)
    : readGap indent fuel g c = some (g, c) := by
  cases fuel with
  | zero => rfl
  | succ fuel =>
    unfold readGap Cursor.peek?
    cases hrest : c.rest with
    | nil => rfl
    | cons x rest =>
      obtain ⟨hblank, hbreak⟩ := h x (by rw [hrest]; rfl)
      dsimp only [List.head?_cons]
      rw [hblank, if_neg Bool.false_ne_true, hbreak, if_neg Bool.false_ne_true]

theorem readGap_indentation (hbroken : g.broken = true) (hfuel : n ≤ fuel)
    (hrest : c.rest = List.replicate n ' ' ++ rest) (hword : BeginsWord rest)
    : readGap indent fuel g c = some (g, c.skip n) := by
  induction n generalizing fuel c with
  | zero =>
    rw [Cursor.skip_zero]
    exact readGap_of_beginsWord indent fuel g (hrest ▸ hword)
  | succ n ih =>
    obtain ⟨fuel, rfl⟩ : ∃ m, fuel = m + 1 := ⟨fuel - 1, by omega⟩
    rw [List.replicate_succ, List.cons_append] at hrest
    unfold readGap
    rw [Cursor.peek?_cons hrest]
    dsimp only
    rw [if_pos isBlank_space, if_pos hbroken, if_neg (fun htab => absurd htab.1 (by decide))]
    rw [ih (by omega) (by rw [Cursor.skip_one hrest]), Cursor.skip_skip, Nat.add_comm 1]

theorem readGap_blanks (hbroken : g.broken = false) (hfuel : n ≤ fuel)
    (hrest : c.rest = List.replicate n ' ' ++ rest) (hword : BeginsWord rest)
    : readGap indent fuel g c
        =
      some ({ g with blanks := g.blanks ++ List.replicate n ' ' }, c.skip n) := by
  induction n generalizing fuel c g with
  | zero =>
    rw [Cursor.skip_zero, List.replicate_zero, List.append_nil]
    exact readGap_of_beginsWord indent fuel g (hrest ▸ hword)
  | succ n ih =>
    obtain ⟨fuel, rfl⟩ : ∃ m, fuel = m + 1 := ⟨fuel - 1, by omega⟩
    rw [List.replicate_succ, List.cons_append] at hrest
    unfold readGap
    rw [Cursor.peek?_cons hrest]
    dsimp only
    rw [if_pos isBlank_space, if_neg (ne_true_of_eq_false hbroken)]
    have hone : (c.skip 1).rest = List.replicate n ' ' ++ rest := by rw [Cursor.skip_one hrest]
    rw [ih (g := { g with blanks := g.blanks ++ [' '] }) hbroken (by omega) hone]
    rw [Cursor.skip_skip, Nat.add_comm 1]
    dsimp only
    rw [List.append_assoc, List.replicate_succ, List.singleton_append]

theorem readGap_moreBreaks (hbroken : g.broken = true) (hfuel : breaks.length + n ≤ fuel)
    (hbreaks : ∀ x ∈ breaks, isPrintedBreak x = true)
    (hrest : c.rest = breaks ++ (List.replicate n ' ' ++ rest)) (hword : BeginsWord rest)
    (hcolumn : breaks = [] → c.column = 0)
    : ∃ c', readGap indent fuel g c = some ({ g with moreBreaks := g.moreBreaks ++ breaks }, c')
        ∧ c'.rest = rest ∧ c'.column = n := by
  induction breaks generalizing fuel c g with
  | nil =>
    rw [List.append_nil]
    rw [List.nil_append] at hrest
    refine ⟨_, readGap_indentation indent hbroken (by simpa using hfuel) hrest hword, ?_⟩
    rw [Cursor.skip_spaces hrest]
    dsimp only
    rw [hcolumn rfl]
    exact ⟨rfl, Nat.zero_add n⟩
  | cons x breaks ih =>
    obtain ⟨fuel, rfl⟩ : ∃ m, fuel = m + 1 := ⟨fuel - 1, by rw [List.length_cons] at hfuel; omega⟩
    rw [List.cons_append] at hrest
    have hx := hbreaks x List.mem_cons_self
    have hskip := Cursor.skipBreak_cons hrest hx
    unfold readGap
    rw [Cursor.peek?_cons hrest]
    dsimp only
    rw [isBlank_of_isPrintedBreak hx, if_neg Bool.false_ne_true]
    rw [if_pos (isBreak_of_isPrintedBreak hx), if_pos hbroken, Cursor.breakText_cons hrest hx]
    have hlength : breaks.length + n ≤ fuel := by
      rw [List.length_cons] at hfuel
      omega
    obtain ⟨c', hread, hc'⟩ := ih (c := c.skipBreak)
      (g := { g with moreBreaks := g.moreBreaks ++ [x] }) hbroken hlength
      (fun y hy => hbreaks y (List.mem_cons_of_mem _ hy)) (by rw [hskip]) (fun _ => by rw [hskip])
    refine ⟨c', ?_, hc'⟩
    rw [hread]
    dsimp only
    rw [List.append_assoc, List.singleton_append]

theorem readGap_breaks (hfuel : breaks.length + (n + 1) ≤ fuel) (hx : isPrintedBreak x = true)
    (hbreaks : ∀ x ∈ breaks, isPrintedBreak x = true)
    (hrest : c.rest = x :: (breaks ++ (List.replicate n ' ' ++ rest))) (hword : BeginsWord rest)
    (hbroken : g.broken = false)
    : ∃ c', readGap indent fuel g c
          =
        some ({ g with
          blanks := [], firstBreak := [x], moreBreaks := g.moreBreaks ++ breaks, broken := true },
          c')
        ∧ c'.rest = rest ∧ c'.column = n := by
  obtain ⟨fuel, rfl⟩ : ∃ m, fuel = m + 1 := ⟨fuel - 1, by omega⟩
  have hskip := Cursor.skipBreak_cons hrest hx
  unfold readGap
  rw [Cursor.peek?_cons hrest]
  dsimp only
  rw [isBlank_of_isPrintedBreak hx, if_neg Bool.false_ne_true]
  rw [if_pos (isBreak_of_isPrintedBreak hx), if_neg (ne_true_of_eq_false hbroken)]
  rw [Cursor.breakText_cons hrest hx]
  exact readGap_moreBreaks indent rfl (by omega) hbreaks (by rw [hskip]) hword (fun _ => by rw [hskip])

end

end Yaml
end CallWire
