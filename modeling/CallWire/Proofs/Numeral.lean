import CallWire.Json.Numeral
import CallWire.Json.Printer
import Mathlib.Data.List.TakeDrop

/-!
This module contains that the integers of 64 bits are read as they are written.
-/

-- A power of a number is the core one, also where numbers are known as a monoid.
attribute [default_instance 20000] instPowNat

namespace CallWire

namespace Numeral

/-- A text that does not go on with a number that stands before it. -/
def Ends (s : List Char) : Prop :=
  ∀ c ∈ s.head?, c.isDigit = false ∧ c ≠ '.' ∧ c ≠ 'e' ∧ c ≠ 'E'

def DigitsEnd (s : List Char) : Prop := ∀ c ∈ s.head?, c.isDigit = false

variable {n : Nat} {rest : List Char}

theorem ends_cons {c : Char} (hdigit : c.isDigit = false) (hpoint : c ≠ '.') (he : c ≠ 'e')
    (hE : c ≠ 'E')
    : Ends (c :: rest) := by
  intro d hd
  cases hd
  exact ⟨hdigit, hpoint, he, hE⟩

theorem ends_nil : Ends [] := by
  intro c hc
  cases hc

theorem digit?_of_isDigit {c : Char} (h : c.isDigit = true)
    : digit? c = some (c.toNat - '0'.toNat) := by
  unfold Char.isDigit at h
  rw [Bool.and_eq_true] at h
  unfold digit?
  rw [if_pos ⟨of_decide_eq_true h.1, of_decide_eq_true h.2⟩]

theorem Ends.digitsEnd (h : Ends rest) : DigitsEnd rest := fun c hc => (h c hc).1

theorem spanDigits_append {digits : List Char} (hdigits : ∀ c ∈ digits, c.isDigit = true)
    (hrest : DigitsEnd rest)
    : spanDigits (digits ++ rest) = (digits, rest) := by
  have hstop : rest.takeWhile Char.isDigit = [] ∧ rest.dropWhile Char.isDigit = rest := by
    cases rest with
    | nil => exact ⟨rfl, rfl⟩
    | cons c rest =>
      have hc := hrest c rfl
      constructor
      . exact List.takeWhile_cons_of_neg (by simp [hc])
      . exact List.dropWhile_cons_of_neg (by simp [hc])
  unfold spanDigits
  rw [List.span_eq_takeWhile_dropWhile]
  rw [List.takeWhile_append_of_pos hdigits, List.dropWhile_append_of_pos hdigits]
  rw [hstop.1, hstop.2, List.append_nil]

theorem le_ofDigitChars (digits : List Char) (start : Nat)
    : start ≤ Nat.ofDigitChars 10 digits start := by
  induction digits generalizing start with
  | nil => exact Nat.le_refl _
  | cons c digits ih =>
    rw [Nat.ofDigitChars_cons]
    have := ih (10 * start + (c.toNat - '0'.toNat))
    omega

theorem appendDigits_of_lt {digits : List Char} (hdigits : ∀ c ∈ digits, c.isDigit = true)
    (significand taken : Nat) (hlt : Nat.ofDigitChars 10 digits significand < 2 ^ 64)
    : appendDigits significand taken digits
        =
      (Nat.ofDigitChars 10 digits significand, taken + digits.length) := by
  induction digits generalizing significand taken with
  | nil => rfl
  | cons c digits ih =>
    have hc := digit?_of_isDigit (hdigits c List.mem_cons_self)
    rw [Nat.ofDigitChars_cons, Nat.mul_comm] at hlt ⊢
    have hle := le_ofDigitChars digits (significand * 10 + (c.toNat - '0'.toNat))
    have hfits : overflows significand (c.toNat - '0'.toNat) = false := by
      unfold overflows
      rw [decide_eq_false_iff_not]
      omega
    unfold appendDigits
    rw [hc]
    dsimp only
    rw [hfits, if_neg Bool.false_ne_true]
    rw [ih (fun d hd => hdigits d (List.mem_cons_of_mem _ hd)) _ _ hlt]
    rw [List.length_cons, Nat.add_assoc, Nat.add_comm 1]

theorem readAfterWhole_of_ends (negative : Bool) (n : Nat) (hrest : Ends rest)
    : readAfterWhole negative n 0 rest = .ok (exact negative n, rest) := by
  unfold readAfterWhole
  split
  . next tail =>
    have := (hrest '.' rfl).2.1
    simp at this
  . next tail =>
    have := (hrest 'e' rfl).2.2.1
    simp at this
  . next tail =>
    have := (hrest 'E' rfl).2.2.2
    simp at this
  . simp

theorem isDigit_of_mem_toDigits {c : Char} (hc : c ∈ Nat.toDigits 10 n) : c.isDigit = true := by
  exact Nat.isDigit_of_mem_toDigits (by decide) (by decide) hc

theorem toDigits_ne_zero_cons (h : n ≠ 0) (tail : List Char) : Nat.toDigits 10 n ≠ '0' :: tail := by
  induction n using Nat.strongRecOn generalizing tail with
  | ind n ih =>
    rw [Nat.toDigits_eq_if (by decide)]
    split
    . next hlt =>
      intro heq
      have hdigit := (List.cons.inj heq).1
      have hval := congrArg Char.toNat hdigit
      revert hval
      have : ∀ d < 10, d ≠ 0 → (Nat.digitChar d).toNat ≠ '0'.toNat := by decide
      exact this n hlt h
    . next hge =>
      intro heq
      cases hdigits : Nat.toDigits 10 (n / 10) with
      | nil => exact Nat.toDigits_ne_nil hdigits
      | cons d more =>
        rw [hdigits] at heq
        have hd := (List.cons.inj heq).1
        rw [hd] at hdigits
        exact ih (n / 10) (by omega) (by omega) more hdigits

theorem read_zero (negative : Bool) (hrest : Ends rest)
    : read negative ('0' :: rest) = .ok (exact negative 0, rest) := by
  cases rest with
  | nil => exact readAfterWhole_of_ends negative 0 ends_nil
  | cons c rest =>
    change (if c.isDigit then Stop.past .invalidNumber (c :: rest)
      else readAfterWhole negative 0 0 (c :: rest)) = _
    rw [(hrest c rfl).1, if_neg Bool.false_ne_true]
    exact readAfterWhole_of_ends negative 0 hrest

theorem read_cons (negative : Bool) {c : Char} {more : List Char} (hfront : c ≠ '0')
    (hdigits : ∀ d ∈ c :: more, d.isDigit = true)
    (hlt : Nat.ofDigitChars 10 (c :: more) 0 < 2 ^ 64) (hrest : Ends rest)
    : read negative (c :: (more ++ rest))
        =
      .ok (exact negative (Nat.ofDigitChars 10 (c :: more) 0), rest) := by
  have hspan := spanDigits_append hdigits hrest.digitsEnd
  rw [List.cons_append] at hspan
  unfold read
  split
  . next heq => simp at heq
  . next heq => exact absurd (List.cons.inj heq).1 hfront
  . next heq =>
    obtain ⟨rfl, rfl⟩ := List.cons.inj heq
    rw [if_pos (hdigits c List.mem_cons_self), hspan]
    dsimp only
    rw [appendDigits_of_lt hdigits 0 0 hlt]
    dsimp only
    rw [Nat.zero_add, Nat.sub_self]
    exact readAfterWhole_of_ends negative _ hrest

theorem read_toDigits (negative : Bool) (hn : n < 2 ^ 64) (hrest : Ends rest)
    : read negative (Nat.toDigits 10 n ++ rest) = .ok (exact negative n, rest) := by
  by_cases hzero : n = 0
  . subst hzero
    exact read_zero negative hrest
  . have hvalue := Nat.ofDigitChars_ten_toDigits (n := n)
    cases hdigits : Nat.toDigits 10 n with
    | nil => exact absurd hdigits Nat.toDigits_ne_nil
    | cons c more =>
      rw [hdigits] at hvalue
      have hfront : c ≠ '0' := by
        rintro rfl
        exact toDigits_ne_zero_cons hzero more hdigits
      have hall : ∀ d ∈ c :: more, d.isDigit = true := by
        intro d hd
        rw [← hdigits] at hd
        exact isDigit_of_mem_toDigits hd
      have hlt : Nat.ofDigitChars 10 (c :: more) 0 < 2 ^ 64 := by
        rw [hvalue]
        exact hn
      have hread := read_cons negative hfront hall hlt hrest
      rw [hvalue] at hread
      exact hread

theorem exact_of_pos (h : n ≠ 0) (hn : n ≤ 2 ^ 63) : exact true n = .int (-n) := by
  unfold exact
  rw [if_neg (by simp), if_neg (by omega)]

end Numeral

namespace Json

theorem writeInt_ofNat (n : Nat) : writeInt n = Nat.toDigits 10 n := Nat.toList_repr

theorem writeInt_negSucc (n : Nat) : writeInt (.negSucc n) = '-' :: Nat.toDigits 10 (n + 1) := by
  exact congrArg (List.cons '-') Nat.toList_repr

end Json
end CallWire
