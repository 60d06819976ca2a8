import CallWire.Proofs.NumberLiteral
import CallWire.Proofs.Rounding

/-!
This module contains which literals of numbers are out of range: those that are well above the
largest finite binary64 number are, and those that are well below it are not. Near that number it
depends on how the digits are rounded.
-/

namespace CallWire
namespace Numeral

theorem ofDigitChars_bounds {digits : List Char} (hdigits : ∀ c ∈ digits, c.isDigit = true)
    (n : Nat)
    : n * 10 ^ digits.length ≤ Nat.ofDigitChars 10 digits n
        ∧ Nat.ofDigitChars 10 digits n < (n + 1) * 10 ^ digits.length := by
  induction digits generalizing n with
  | nil => simp
  | cons c digits ih =>
    have hc := digit_le_nine (hdigits c List.mem_cons_self)
    obtain ⟨hlow, hhigh⟩ := ih (fun d hd => hdigits d (List.mem_cons_of_mem c hd))
      (10 * n + (c.toNat - '0'.toNat))
    have hstart : n * 10 * 10 ^ digits.length
        ≤ (10 * n + (c.toNat - '0'.toNat)) * 10 ^ digits.length :=
      Nat.mul_le_mul_right _ (by omega)
    have hnext : (10 * n + (c.toNat - '0'.toNat) + 1) * 10 ^ digits.length
        ≤ (n + 1) * 10 * 10 ^ digits.length :=
      Nat.mul_le_mul_right _ (by omega)
    rw [Nat.ofDigitChars_cons, List.length_cons, Nat.pow_succ', ← Nat.mul_assoc, ← Nat.mul_assoc]
    exact ⟨Nat.le_trans hstart hlow, Nat.lt_of_lt_of_le hhigh hnext⟩

/-- Two numbers that differ by no more than one part in `10^18`. -/
def Close (a b : Nat) : Prop := a * 10 ^ 18 ≤ b * (10 ^ 18 + 1) ∧ b * 10 ^ 18 ≤ a * (10 ^ 18 + 1)

theorem close_of_bounds {a b front scale : Nat} (hfront : 10 ^ 18 ≤ front)
    (ha : front * scale ≤ a ∧ a < (front + 1) * scale)
    (hb : front * scale ≤ b ∧ b < (front + 1) * scale)
    : Close a b := by
  have hscale := Nat.mul_le_mul_right scale hfront
  rw [Nat.add_one_mul] at ha hb
  unfold Close
  generalize front * scale = least at *
  omega

theorem appendDigits_split {digits : List Char} (hdigits : ∀ c ∈ digits, c.isDigit = true)
    {n : Nat} (hn : n < 2 ^ 64) (taken : Nat)
    : ∃ front back, digits = front ++ back
        ∧ appendDigits n taken digits = (Nat.ofDigitChars 10 front n, taken + front.length)
        ∧ Nat.ofDigitChars 10 front n < 2 ^ 64
        ∧ (back = [] ∨ 10 ^ 18 ≤ Nat.ofDigitChars 10 front n) := by
  induction digits generalizing n taken with
  | nil => exact ⟨[], [], rfl, rfl, hn, .inl rfl⟩
  | cons c digits ih =>
    have hc := digit?_of_isDigit (hdigits c List.mem_cons_self)
    have hnine := digit_le_nine (hdigits c List.mem_cons_self)
    unfold appendDigits
    rw [hc]
    dsimp only
    unfold overflows
    split
    . next hover =>
      refine ⟨[], c :: digits, rfl, rfl, hn, .inr ?_⟩
      rw [decide_eq_true_eq] at hover
      change 10 ^ 18 ≤ n
      omega
    . next hfits =>
      rw [decide_eq_true_eq] at hfits
      obtain ⟨front, back, rfl, happend, hlt, hback⟩ :=
        ih (n := n * 10 + (c.toNat - '0'.toNat))
          (fun d hd => hdigits d (List.mem_cons_of_mem c hd)) (by omega) (taken + 1)
      refine ⟨c :: front, back, rfl, ?_, ?_, ?_⟩
      . rw [happend, Nat.ofDigitChars_cons, Nat.mul_comm 10, List.length_cons, Nat.add_assoc,
          Nat.add_comm 1]
      . rw [Nat.ofDigitChars_cons, Nat.mul_comm 10]
        exact hlt
      . rw [Nat.ofDigitChars_cons, Nat.mul_comm 10]
        exact hback

theorem Close.refl (a : Nat) : Close a a := by
  unfold Close
  omega

theorem close_of_left_out {back front' back' : List Char} {n : Nat}
    (hback : ∀ c ∈ back, c.isDigit = true) (hfront' : ∀ c ∈ front', c.isDigit = true)
    (hback' : ∀ c ∈ back', c.isDigit = true) (h : back = [] ∨ 10 ^ 18 ≤ n)
    (h' : back' = [] ∨ 10 ^ 18 ≤ Nat.ofDigitChars 10 front' n)
    : Close (Nat.ofDigitChars 10 (back ++ (front' ++ back')) n)
        (Nat.ofDigitChars 10 front' n * 10 ^ (back.length + back'.length)) := by
  have hkept := ofDigitChars_bounds hfront' n
  rcases h with rfl | h
  . rw [List.nil_append, Nat.ofDigitChars_append, List.length_nil, Nat.zero_add]
    rcases h' with rfl | h'
    . exact (Nat.mul_one (Nat.ofDigitChars 10 front' n)).symm ▸ Close.refl _
    . refine close_of_bounds h' (ofDigitChars_bounds hback' _) ⟨Nat.le_refl _, ?_⟩
      exact Nat.mul_lt_mul_of_pos_right (Nat.lt_succ_self _) (Nat.pow_pos (by decide))
  . have hall : ∀ c ∈ back ++ (front' ++ back'), c.isDigit = true := by
      intro c hc
      simp only [List.mem_append] at hc
      rcases hc with hc | hc | hc
      . exact hback c hc
      . exact hfront' c hc
      . exact hback' c hc
    have hlength : (back ++ (front' ++ back')).length
        = front'.length + (back.length + back'.length) := by
      simp only [List.length_append]
      omega
    refine close_of_bounds h (ofDigitChars_bounds hall n) ?_
    rw [hlength, Nat.pow_add, ← Nat.mul_assoc, ← Nat.mul_assoc]
    constructor
    . exact Nat.mul_le_mul_right _ hkept.1
    . exact Nat.mul_lt_mul_of_pos_right hkept.2 (Nat.pow_pos (by decide))

namespace Literal

def fractionChars : Option Digits → List Char
  | none => []
  | some d => d.chars

def coefficient (l : Literal) : Nat :=
  Nat.ofDigitChars 10 (l.whole.chars ++ fractionChars l.fraction) 0

def exponentValue : Option Exponent → Int
  | none => 0
  | some x => if x.sign = ['-'] then -x.digits.value else x.digits.value

def power (l : Literal) : Int := exponentValue l.exponent - (fractionChars l.fraction).length

def AtLeast (l : Literal) (n : Nat) : Prop :=
  n * 10 ^ (-l.power).toNat ≤ l.coefficient * 10 ^ l.power.toNat

theorem leading_eq (l : Literal)
    : l.leading
        =
      ((appendDigits (appendDigits 0 0 l.whole.chars).1 0 (fractionChars l.fraction)).1,
        ((l.whole.chars.length - (appendDigits 0 0 l.whole.chars).2 : Nat) : Int)
          - (appendDigits (appendDigits 0 0 l.whole.chars).1 0 (fractionChars l.fraction)).2) := by
  unfold leading fractionChars
  cases l.fraction with
  | none => exact congrArg (Prod.mk _) (Int.sub_zero _).symm
  | some d => rfl

theorem isDigit_fractionChars (l : Literal) : ∀ c ∈ fractionChars l.fraction, c.isDigit = true := by
  intro c hc
  unfold fractionChars at hc
  split at hc
  . cases hc
  . next d _ => exact d.digit c hc

theorem leading_close (l : Literal)
    : ∃ k : Nat, l.leading.2 + exponentValue l.exponent = k + l.power
        ∧ l.leading.1 < 2 ^ 64
        ∧ Close l.coefficient (l.leading.1 * 10 ^ k) := by
  have hfraction := isDigit_fractionChars l
  have hwhole := l.whole.digit
  obtain ⟨front, back, hchars, happend, hlt, hback⟩ :=
    appendDigits_split hwhole (n := 0) (by decide) 0
  obtain ⟨front', back', hchars', happend', hlt', hback'⟩ := appendDigits_split hfraction hlt 0
  have hleading := leading_eq l
  rw [happend] at hleading
  dsimp only at hleading
  rw [happend'] at hleading
  dsimp only at hleading
  rw [hchars] at hwhole
  rw [hchars'] at hfraction
  unfold coefficient power
  rw [hleading, hchars, hchars', List.append_assoc, Nat.ofDigitChars_append]
  refine ⟨back.length + back'.length, ?_, hlt', ?_⟩
  . rw [List.length_append, List.length_append]
    omega
  . apply close_of_left_out _ _ _ hback hback'
    . exact fun c hc => hwhole c (List.mem_append_right front hc)
    . exact fun c hc => hfraction c (List.mem_append_left back' hc)
    . exact fun c hc => hfraction c (List.mem_append_right front' hc)

end Literal

open Double

theorem isSome_scale?_clampExponent (x : Double) (e : Int)
    : (scale? x (clampExponent e)).isSome = (scale? x e).isSome := by
  unfold clampExponent
  by_cases hlow : e < -2 ^ 31
  . rw [isSome_scale?_of_neg (by omega), isSome_scale?_of_neg (by omega)]
  . by_cases hhigh : 2 ^ 31 - 1 < e
    . rw [scale?_of_gt (by omega), scale?_of_gt (by omega)]
    . have heq : max (-2 ^ 31) (min e (2 ^ 31 - 1)) = e := by omega
      rw [heq]

section

variable {n k coefficient : Nat} (hn : n < 2 ^ 64) (hclose : Close coefficient (n * 10 ^ k))
variable {p : Int}

include hn hclose

theorem scale?_eq_none_of_close
    (h : (2 ^ 53 + 32) * lastPlace * 10 ^ (-p).toNat ≤ coefficient * 10 ^ p.toNat)
    : scale? (.ofNat n) (k + p) = none := by
  have hpos : 0 < lastPlace * 10 ^ (-p).toNat :=
    Nat.mul_pos (Nat.two_pow_pos lastPower) (Nat.pow_pos (by decide))
  have hkept : (2 ^ 53 + 16) * lastPlace * 10 ^ (-p).toNat ≤ n * 10 ^ k * 10 ^ p.toNat := by
    have hright := Nat.mul_le_mul_right (10 ^ p.toNat) hclose.1
    rw [Nat.mul_right_comm coefficient, Nat.mul_right_comm (n * 10 ^ k)] at hright
    rw [Nat.mul_assoc (2 ^ 53 + 32)] at h
    rw [Nat.mul_assoc (2 ^ 53 + 16)]
    generalize lastPlace * 10 ^ (-p).toNat = last at *
    generalize n * 10 ^ k * 10 ^ p.toNat = kept at *
    omega
  have hroom := word_lt hn
  rw [Nat.mul_assoc n, ← Nat.pow_add] at hkept
  by_cases hneg : (k : Int) + p < 0
  . have hpower := Nat.pow_le_pow_right (n := 10) (by decide)
      (show k + p.toNat ≤ (-p).toNat by omega)
    have hle := Nat.le_of_mul_le_mul_right
      (Nat.le_trans hkept (Nat.mul_le_mul_left n hpower)) (Nat.pow_pos (by decide))
    omega
  . have hsum : k + p.toNat = (k + p).toNat + (-p).toNat := by omega
    rw [hsum, Nat.pow_add, ← Nat.mul_assoc] at hkept
    have hle := Nat.le_of_mul_le_mul_right hkept (Nat.pow_pos (by decide))
    have hnpos : 0 < n := by
      apply Nat.pos_of_ne_zero
      rintro rfl
      rw [Nat.zero_mul] at hle
      omega
    have hscale := scale?_eq_none hnpos hn hle
    rw [Int.toNat_of_nonneg (by omega)] at hscale
    exact hscale

theorem isSome_scale?_of_close
    (h : coefficient * 10 ^ p.toNat < (2 ^ 53 - 32) * lastPlace * 10 ^ (-p).toNat)
    : (scale? (.ofNat n) (k + p)).isSome = true := by
  have hkept : n * 10 ^ k * 10 ^ p.toNat ≤ (2 ^ 53 - 16) * lastPlace * 10 ^ (-p).toNat := by
    have hright := Nat.mul_le_mul_right (10 ^ p.toNat) hclose.2
    rw [Nat.mul_right_comm coefficient, Nat.mul_right_comm (n * 10 ^ k)] at hright
    rw [Nat.mul_assoc (2 ^ 53 - 32)] at h
    rw [Nat.mul_assoc (2 ^ 53 - 16)]
    generalize lastPlace * 10 ^ (-p).toNat = last at *
    generalize n * 10 ^ k * 10 ^ p.toNat = kept at *
    omega
  by_cases hneg : (k : Int) + p < 0
  . exact isSome_scale?_of_neg hneg
  . have hsum : k + p.toNat = (k + p).toNat + (-p).toNat := by omega
    rw [Nat.mul_assoc n, ← Nat.pow_add, hsum, Nat.pow_add, ← Nat.mul_assoc] at hkept
    have hscale := isSome_scale? hn (Nat.le_of_mul_le_mul_right hkept (Nat.pow_pos (by decide)))
    rw [Int.toNat_of_nonneg (by omega)] at hscale
    exact hscale

end

namespace Literal

variable {l : Literal}

/-- A literal that is above the finite numbers, and not only by a few of their last places. -/
def Beyond (l : Literal) : Prop := l.AtLeast ((2 ^ 53 + 32) * lastPlace)

/-- A literal that is below the largest finite number by some of its last places. -/
def Within (l : Literal) : Prop := ¬l.AtLeast ((2 ^ 53 - 32) * lastPlace)

theorem length_digits_le (l : Literal)
    : (l.whole.chars ++ fractionChars l.fraction).length ≤ l.text.length := by
  have hunsigned : l.unsigned.length ≤ l.text.length := by
    unfold text
    split
    . exact Nat.le_succ _
    . exact Nat.le_refl _
  have hfraction : (fractionChars l.fraction).length ≤ (fractionText l.fraction).length := by
    cases l.fraction with
    | none => exact Nat.le_refl _
    | some d => exact Nat.le_succ _
  unfold unsigned at hunsigned
  simp only [List.length_append] at hunsigned ⊢
  omega

theorem coefficient_lt (l : Literal) : l.coefficient < 10 ^ l.text.length := by
  have hdigits : ∀ c ∈ l.whole.chars ++ fractionChars l.fraction, c.isDigit = true := by
    intro c hc
    rcases List.mem_append.mp hc with hc | hc
    . exact l.whole.digit c hc
    . exact isDigit_fractionChars l c hc
  have hlt := (ofDigitChars_bounds hdigits 0).2
  rw [Nat.zero_add, Nat.one_mul] at hlt
  exact Nat.lt_of_lt_of_le hlt (Nat.pow_le_pow_right (by decide) (length_digits_le l))

theorem isSome_raise?_of_le (h : ¬∃ x, l.exponent = some x ∧ maxExponent < x.digits.value)
    : (raise? l.leading.1 l.leading.2 l.exponent).isSome
        =
      (scale? (.ofNat l.leading.1) (l.leading.2 + exponentValue l.exponent)).isSome := by
  unfold raise? exponentValue
  cases hx : l.exponent with
  | none => rw [Int.add_zero]
  | some x =>
    dsimp only
    rw [if_pos (Nat.not_lt.mp fun hlt => h ⟨x, hx, hlt⟩), isSome_scale?_clampExponent]
    split
    . rw [Int.sub_eq_add_neg]
    . rfl

theorem isSome_raise?_of_lt {x : Exponent} (hx : l.exponent = some x)
    (h : maxExponent < x.digits.value)
    : (raise? l.leading.1 l.leading.2 l.exponent).isSome
        =
      !decide (l.leading.1 ≠ 0 ∧ x.sign ≠ ['-']) := by
  rw [hx]
  unfold raise?
  dsimp only
  rw [if_neg (Nat.not_le.mpr h)]
  split
  . next hgrows => exact (congrArg Bool.not (decide_eq_true hgrows)).symm
  . next hsmall =>
    rw [decide_eq_false hsmall]
    exact isSome_scale? (k := 0) (by decide) (by rw [Nat.zero_mul]; exact Nat.zero_le _)

theorem power_of_lt {x : Exponent} (hlength : l.text.length < 2 ^ 30) (hx : l.exponent = some x)
    (h : maxExponent < x.digits.value)
    : if x.sign = ['-'] then l.power ≤ -2 ^ 30 else 2 ^ 30 ≤ l.power := by
  have hdigits := length_digits_le l
  rw [List.length_append] at hdigits
  unfold maxExponent at h
  unfold power exponentValue
  rw [hx]
  dsimp only
  split
  . omega
  . omega

theorem coefficient_pos_of_beyond (h : l.Beyond) : 0 < l.coefficient := by
  apply Nat.pos_of_ne_zero
  intro hzero
  unfold Beyond AtLeast at h
  rw [hzero, Nat.zero_mul] at h
  have hpos : 0 < lastPlace * 10 ^ (-l.power).toNat :=
    Nat.mul_pos (Nat.two_pow_pos lastPower) (Nat.pow_pos (by decide))
  rw [Nat.mul_assoc] at h
  omega

theorem not_beyond_of_power_le (hlength : l.text.length < 2 ^ 30) (h : l.power ≤ -2 ^ 30)
    : ¬l.Beyond := by
  have hpower : l.coefficient < 10 ^ (-l.power).toNat :=
    Nat.lt_of_lt_of_le (coefficient_lt l) (Nat.pow_le_pow_right (by decide) (by omega))
  have hlast : 0 < (2 ^ 53 + 32) * lastPlace := Nat.mul_pos (by decide) (Nat.two_pow_pos lastPower)
  have hzero : l.power.toNat = 0 := by omega
  unfold Beyond AtLeast
  rw [hzero, Nat.pow_zero, Nat.mul_one]
  exact Nat.not_le.mpr (Nat.lt_of_lt_of_le hpower (Nat.le_mul_of_pos_left _ hlast))

theorem not_within_of_le_power (hpos : 0 < l.coefficient) (h : 2 ^ 30 ≤ l.power) : ¬l.Within := by
  have hlarge := lt_tenTo (k := l.power.toNat) (by omega)
  have hcoefficient := Nat.le_mul_of_pos_left (10 ^ l.power.toNat) hpos
  have hneg : (-l.power).toNat = 0 := by omega
  unfold Within AtLeast
  rw [Decidable.not_not, hneg, Nat.pow_zero, Nat.mul_one]
  omega

theorem raise?_eq_none_of_beyond (hlength : l.text.length < 2 ^ 30) (h : l.Beyond)
    : raise? l.leading.1 l.leading.2 l.exponent = none := by
  obtain ⟨k, hsum, hn, hclose⟩ := leading_close l
  rw [← Option.not_isSome_iff_eq_none]
  by_cases hexponent : ∃ x, l.exponent = some x ∧ maxExponent < x.digits.value
  . obtain ⟨x, hx, hlarge⟩ := hexponent
    have hpower := power_of_lt hlength hx hlarge
    have hleading : l.leading.1 ≠ 0 := by
      intro hzero
      have hpos := coefficient_pos_of_beyond h
      rw [hzero, Nat.zero_mul] at hclose
      have := hclose.1
      omega
    have hsign : x.sign ≠ ['-'] := by
      intro hminus
      rw [if_pos hminus] at hpower
      exact not_beyond_of_power_le hlength hpower h
    rw [isSome_raise?_of_lt hx hlarge, decide_eq_true ⟨hleading, hsign⟩]
    exact Bool.false_ne_true
  . rw [isSome_raise?_of_le hexponent, hsum, scale?_eq_none_of_close hn hclose h]
    exact Bool.false_ne_true

theorem raise?_ne_none_of_within (hlength : l.text.length < 2 ^ 30) (h : l.Within)
    : raise? l.leading.1 l.leading.2 l.exponent ≠ none := by
  obtain ⟨k, hsum, hn, hclose⟩ := leading_close l
  rw [Option.ne_none_iff_isSome]
  by_cases hexponent : ∃ x, l.exponent = some x ∧ maxExponent < x.digits.value
  . obtain ⟨x, hx, hlarge⟩ := hexponent
    have hpower := power_of_lt hlength hx hlarge
    rw [isSome_raise?_of_lt hx hlarge, decide_eq_false]
    . rfl
    . rintro ⟨hleading, hsign⟩
      rw [if_neg hsign] at hpower
      refine not_within_of_le_power ?_ hpower h
      have hkept : 0 < l.leading.1 * 10 ^ k :=
        Nat.mul_pos (Nat.pos_of_ne_zero hleading) (Nat.pow_pos (by decide))
      have := hclose.2
      omega
  . rw [isSome_raise?_of_le hexponent, hsum]
    exact isSome_scale?_of_close hn hclose (Nat.not_le.mp h)

theorem not_beyond_of_integer (hfraction : l.fraction = none) (hexponent : l.exponent = none)
    (hvalue : l.whole.value < 2 ^ 64)
    : ¬l.Beyond := by
  have hcoefficient : l.coefficient = l.whole.value := by
    unfold coefficient Digits.value
    rw [hfraction]
    exact congrArg (Nat.ofDigitChars 10 · 0) (List.append_nil l.whole.chars)
  have hpower : l.power = 0 := by
    unfold power
    rw [hfraction, hexponent]
    rfl
  have hroom := word_lt hvalue
  unfold Beyond AtLeast
  rw [hpower, hcoefficient, Int.neg_zero, Int.toNat_zero, Nat.pow_zero, Nat.mul_one, Nat.mul_one]
  omega

theorem number?_eq_none (hlength : l.text.length < 2 ^ 30) (h : l.Beyond) : l.number? = none := by
  unfold number?
  split
  . next hinteger =>
    simp only [Bool.and_eq_true, Option.isNone_iff_eq_none, decide_eq_true_eq] at hinteger
    exact absurd h (not_beyond_of_integer hinteger.1.1 hinteger.1.2 hinteger.2)
  . rw [raise?_eq_none_of_beyond hlength h]
    rfl

theorem number?_ne_none (hlength : l.text.length < 2 ^ 30) (h : l.Within) : l.number? ≠ none := by
  unfold number?
  split
  . exact Option.some_ne_none _
  . rw [Ne, Option.map_eq_none_iff]
    exact raise?_ne_none_of_within hlength h

end Literal

end Numeral
end CallWire
