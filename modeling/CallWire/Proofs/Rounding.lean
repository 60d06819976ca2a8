import CallWire.Proofs.Numeral
import Mathlib.Algebra.Group.Nat.Defs

/-!
This module contains bounds on the rounding of binary64 numbers: how far a rounded number is from
the exact one, and which quotients are finite after they are rounded.
-/

namespace CallWire
namespace Double

variable {num den n : Nat}

theorem div_le_divRound (num den : Nat) : num / den ≤ divRound num den := by
  unfold divRound
  dsimp only
  split
  . exact Nat.le_refl _
  . split
    . exact Nat.le_succ _
    . exact Nat.le_add_right _ _

theorem divRound_le (num den : Nat) : divRound num den ≤ num / den + 1 := by
  have := Nat.mod_lt (num / den) (Nat.succ_pos 1)
  unfold divRound
  dsimp only
  split
  . exact Nat.le_succ _
  . split
    . exact Nat.le_refl _
    . omega

/-- The place of the last bit of the quotient of two numbers, of whose bits 53 are kept. -/
def placeOf (num den : Nat) : Nat := Nat.log2 (num / den) - 52

def rounded (num den : Nat) : Nat := divRound num (den <<< placeOf num den)

def fieldOf (num den : Nat) : Nat := placeOf num den * 2 ^ 52 + rounded num den

def ofUnits (num den : Nat) : Double :=
  if fieldOf num den < 2047 * 2 ^ 52 then ⟨(fieldOf num den).toUInt64⟩ else infinity

/-- Magnitudes are counted in units of `2^-1074`. -/
@[irreducible]
def unitPower : Nat := 1074

@[irreducible]
def lastPower : Nat := 971

def units : Nat := 2 ^ unitPower

def lastPlace : Nat := 2 ^ lastPower

theorem ofRatio_eq (num den : Nat) : ofRatio num den = ofUnits (num * units) den := by
  have hpower : unitPower = 1074 := by
    unfold unitPower
    rfl
  unfold ofRatio
  rw [← hpower]
  rfl

theorem units_pos : 0 < units := Nat.two_pow_pos unitPower

theorem le_units : 2 ^ 52 ≤ units := by
  have hle : 52 ≤ unitPower := by
    unfold unitPower
    decide
  exact Nat.pow_le_pow_right (by decide) hle

theorem toNat_toUInt64 {field : Nat} (h : field < 2047 * 2 ^ 52)
    : field.toUInt64.toNat = field := by
  change field % 2 ^ 64 = field
  exact Nat.mod_eq_of_lt (by omega)

theorem isFinite_ofUnits_iff (num den : Nat)
    : (ofUnits num den).isFinite = true ↔ fieldOf num den < 2047 * 2 ^ 52 := by
  unfold ofUnits
  split
  . next h =>
    refine iff_of_true ?_ h
    unfold isFinite exponentField
    dsimp only
    rw [toNat_toUInt64 h, bne_iff_ne]
    omega
  . next h => exact iff_of_false (by decide) h

theorem magnitude_of_field {place r : Nat} (hlow : 2 ^ 52 ≤ r) (hhigh : r ≤ 2 ^ 53)
    (h : place * 2 ^ 52 + r < 2047 * 2 ^ 52)
    : (⟨(place * 2 ^ 52 + r).toUInt64⟩ : Double).magnitude = r * 2 ^ place := by
  have hfield := toNat_toUInt64 h
  by_cases hr : r < 2 ^ 53
  . have hexponent : (⟨(place * 2 ^ 52 + r).toUInt64⟩ : Double).exponentField = place + 1 := by
      unfold exponentField
      dsimp only
      rw [hfield]
      omega
    have hsignificand : (⟨(place * 2 ^ 52 + r).toUInt64⟩ : Double).significand = r := by
      unfold significand
      rw [hexponent, hfield, if_neg (Nat.succ_ne_zero place)]
      omega
    unfold magnitude Double.place
    rw [hexponent, hsignificand, Nat.shiftLeft_eq, Nat.add_sub_cancel]
  . have heq : r = 2 ^ 53 := by omega
    have hexponent : (⟨(place * 2 ^ 52 + r).toUInt64⟩ : Double).exponentField = place + 2 := by
      unfold exponentField
      dsimp only
      rw [hfield]
      omega
    have hsignificand : (⟨(place * 2 ^ 52 + r).toUInt64⟩ : Double).significand = 2 ^ 52 := by
      unfold significand
      rw [hexponent, hfield, if_neg (Nat.succ_ne_zero _)]
      omega
    unfold magnitude Double.place
    rw [hexponent, hsignificand, Nat.shiftLeft_eq, heq]
    change 2 ^ 52 * 2 ^ (place + 1) = 2 ^ 53 * 2 ^ place
    rw [Nat.pow_succ]
    omega

theorem div_shiftLeft_placeOf (num den : Nat)
    : num / (den <<< placeOf num den) = num / den / 2 ^ placeOf num den := by
  rw [Nat.shiftLeft_eq, Nat.div_div_eq_div_mul]

theorem placeOf_add (h : 2 ^ 52 ≤ num / den) : placeOf num den + 52 = Nat.log2 (num / den) := by
  have hlog := (Nat.le_log2 (by omega)).mpr h
  unfold placeOf
  omega

theorem rounded_bounds (h : 2 ^ 52 ≤ num / den)
    : 2 ^ 52 ≤ rounded num den ∧ rounded num den ≤ 2 ^ 53 := by
  have hplace := placeOf_add h
  have hpos : 0 < 2 ^ placeOf num den := Nat.two_pow_pos _
  have hlow := Nat.log2_self_le (n := num / den) (by omega)
  have hhigh := Nat.lt_log2_self (n := num / den)
  rw [← hplace] at hlow hhigh
  have h₁ := div_le_divRound num (den <<< placeOf num den)
  have h₂ := divRound_le num (den <<< placeOf num den)
  rw [div_shiftLeft_placeOf] at h₁ h₂
  constructor
  . refine Nat.le_trans ?_ h₁
    rw [Nat.le_div_iff_mul_le hpos, ← Nat.pow_add, Nat.add_comm]
    exact hlow
  . refine Nat.le_trans h₂ (Nat.succ_le_of_lt ?_)
    rw [Nat.div_lt_iff_lt_mul hpos, ← Nat.pow_add, Nat.add_comm 53]
    exact hhigh

theorem rounded_le (num den : Nat) : rounded num den ≤ 2 ^ 53 := by
  by_cases h : 2 ^ 52 ≤ num / den
  . exact (rounded_bounds h).2
  . have hrounded := divRound_le num (den <<< placeOf num den)
    have hdiv := Nat.div_le_self (num / den) (2 ^ placeOf num den)
    rw [div_shiftLeft_placeOf] at hrounded
    unfold rounded
    omega

theorem fieldOf_lt {p : Nat} (h : num / den < (2 ^ 53 - 1) * 2 ^ p)
    : fieldOf num den < (p + 2) * 2 ^ 52 := by
  have hmax : (2 ^ 53 - 1) * 2 ^ p ≤ 2 ^ (p + 53) := by
    rw [Nat.pow_add, Nat.mul_comm]
    exact Nat.mul_le_mul_left (2 ^ p) (Nat.sub_le _ _)
  have hlog : Nat.log2 (num / den) < p + 53 := by
    by_cases hzero : num / den = 0
    . rw [hzero, Nat.log2_zero]
      exact Nat.succ_pos _
    . exact (Nat.log2_lt hzero).mpr (Nat.lt_of_lt_of_le h hmax)
  have hplace : placeOf num den ≤ p := by
    unfold placeOf
    omega
  unfold fieldOf
  by_cases htop : placeOf num den = p
  . have hrounded := divRound_le num (den <<< placeOf num den)
    have hdiv := (Nat.div_lt_iff_lt_mul (Nat.two_pow_pos p)).mpr h
    rw [div_shiftLeft_placeOf, htop] at hrounded
    unfold rounded
    rw [htop]
    omega
  . have hrounded := rounded_le num den
    omega

theorem le_fieldOf {p : Nat} (h : 2 ^ 53 * 2 ^ p ≤ num / den)
    : (p + 2) * 2 ^ 52 ≤ fieldOf num den := by
  rw [← Nat.pow_add] at h
  have hlarge : 2 ^ 52 ≤ num / den :=
    Nat.le_trans (Nat.pow_le_pow_right (by decide) (by omega)) h
  have hlog := (Nat.le_log2 (by omega)).mpr h
  have hplace := placeOf_add hlarge
  have hrounded := (rounded_bounds hlarge).1
  unfold fieldOf
  omega

theorem lastPower_add_unitPower : lastPower + unitPower + 2 = 2047 := by
  unfold lastPower unitPower
  rfl

theorem isFinite_ofUnits (h : num / den < (2 ^ 53 - 1) * (lastPlace * units))
    : (ofUnits num den).isFinite = true := by
  unfold lastPlace units at h
  rw [← Nat.pow_add] at h
  rw [isFinite_ofUnits_iff, ← lastPower_add_unitPower]
  exact fieldOf_lt h

theorem isFinite_ofUnits_eq_false (h : 2 ^ 53 * (lastPlace * units) ≤ num / den)
    : (ofUnits num den).isFinite = false := by
  unfold lastPlace units at h
  rw [← Nat.pow_add] at h
  rw [← Bool.not_eq_true, isFinite_ofUnits_iff, ← lastPower_add_unitPower]
  exact Nat.not_lt.mpr (le_fieldOf h)

theorem magnitude_ofUnits (hlarge : 2 ^ 52 ≤ num) (hfinite : (ofUnits num 1).isFinite = true)
    : num * (2 ^ 52 - 1) ≤ (ofUnits num 1).magnitude * 2 ^ 52
        ∧ (ofUnits num 1).magnitude * 2 ^ 52 ≤ num * (2 ^ 52 + 1) := by
  have hdiv : 2 ^ 52 ≤ num / 1 := by
    rw [Nat.div_one]
    exact hlarge
  obtain ⟨hr, hr'⟩ := rounded_bounds hdiv
  have hfield := (isFinite_ofUnits_iff num 1).mp hfinite
  have hmagnitude : (ofUnits num 1).magnitude = rounded num 1 * 2 ^ placeOf num 1 := by
    unfold ofUnits
    rw [if_pos hfield]
    exact magnitude_of_field hr hr' hfield
  have hplace : 2 ^ placeOf num 1 * 2 ^ 52 ≤ num := by
    have hlog := Nat.log2_self_le (n := num / 1) (by omega)
    rw [← placeOf_add hdiv, Nat.pow_add, Nat.div_one] at hlog
    exact hlog
  have h₁ := div_le_divRound num (1 <<< placeOf num 1)
  have h₂ := divRound_le num (1 <<< placeOf num 1)
  change num / (1 <<< placeOf num 1) ≤ rounded num 1 at h₁
  change rounded num 1 ≤ num / (1 <<< placeOf num 1) + 1 at h₂
  rw [Nat.shiftLeft_eq, Nat.one_mul] at h₁ h₂
  have hmod := Nat.div_add_mod num (2 ^ placeOf num 1)
  have hlt := Nat.mod_lt num (Nat.two_pow_pos (placeOf num 1))
  have h₃ := Nat.mul_le_mul_left (2 ^ placeOf num 1) h₁
  have h₄ := Nat.mul_le_mul_left (2 ^ placeOf num 1) h₂
  rw [Nat.mul_add_one] at h₄
  rw [hmagnitude, Nat.mul_comm (rounded num 1)]
  generalize 2 ^ placeOf num 1 * rounded num 1 = kept at *
  generalize 2 ^ placeOf num 1 * (num / 2 ^ placeOf num 1) = whole at *
  omega

theorem ofNat_eq (n : Nat) : ofNat n = ofUnits (n * units) 1 := ofRatio_eq n 1

theorem isFinite_ofNat (h : n < (2 ^ 53 - 1) * lastPlace) : (ofNat n).isFinite = true := by
  rw [ofNat_eq]
  apply isFinite_ofUnits
  rw [Nat.div_one, ← Nat.mul_assoc]
  exact Nat.mul_lt_mul_of_pos_right h units_pos

theorem magnitude_ofNat (hpos : 0 < n) (h : n < (2 ^ 53 - 1) * lastPlace)
    : n * units * (2 ^ 52 - 1) ≤ (ofNat n).magnitude * 2 ^ 52
        ∧ (ofNat n).magnitude * 2 ^ 52 ≤ n * units * (2 ^ 52 + 1) := by
  have hfinite := isFinite_ofNat h
  rw [ofNat_eq] at hfinite ⊢
  exact magnitude_ofUnits (Nat.le_trans le_units (Nat.le_mul_of_pos_left units hpos)) hfinite

theorem mul_eq (x y : Double)
    : x.mul y = ofUnits (x.magnitude * y.magnitude * units) (units * units) := by
  have hpower : unitPower + unitPower = 2148 := by
    unfold unitPower
    rfl
  rw [mul, ofRatio_eq, ← hpower, Nat.pow_add]
  rfl

theorem mul_div_units (a : Nat) : a * units / (units * units) = a / units :=
  Nat.mul_div_mul_right a units units_pos

theorem isFinite_mul {x y : Double}
    (h : x.magnitude * y.magnitude < (2 ^ 53 - 1) * (lastPlace * units * units))
    : (x.mul y).isFinite = true := by
  rw [mul_eq]
  apply isFinite_ofUnits
  rw [mul_div_units, Nat.div_lt_iff_lt_mul units_pos, Nat.mul_assoc]
  exact h

theorem isFinite_mul_eq_false {x y : Double}
    (h : 2 ^ 53 * (lastPlace * units * units) ≤ x.magnitude * y.magnitude)
    : (x.mul y).isFinite = false := by
  rw [mul_eq]
  apply isFinite_ofUnits_eq_false
  rw [mul_div_units, Nat.le_div_iff_mul_le units_pos, Nat.mul_assoc]
  exact h

section

variable {m : Nat} (hn : n < (2 ^ 53 - 1) * lastPlace) (hm : m < (2 ^ 53 - 1) * lastPlace)
variable (hnpos : 0 < n) (hmpos : 0 < m)

include hn hm hnpos hmpos

theorem magnitude_mul_bounds
    : n * m * (units * units) * ((2 ^ 52 - 1) * (2 ^ 52 - 1))
          ≤ (ofNat n).magnitude * (ofNat m).magnitude * (2 ^ 52 * 2 ^ 52)
        ∧
      (ofNat n).magnitude * (ofNat m).magnitude * (2 ^ 52 * 2 ^ 52)
          ≤ n * m * (units * units) * ((2 ^ 52 + 1) * (2 ^ 52 + 1)) := by
  obtain ⟨hnlow, hnhigh⟩ := magnitude_ofNat hnpos hn
  obtain ⟨hmlow, hmhigh⟩ := magnitude_ofNat hmpos hm
  have hlow := Nat.mul_le_mul hnlow hmlow
  have hhigh := Nat.mul_le_mul hnhigh hmhigh
  rw [Nat.mul_mul_mul_comm (n * units), Nat.mul_mul_mul_comm n,
    Nat.mul_mul_mul_comm (ofNat n).magnitude] at hlow
  rw [Nat.mul_mul_mul_comm (n * units), Nat.mul_mul_mul_comm n,
    Nat.mul_mul_mul_comm (ofNat n).magnitude] at hhigh
  exact ⟨hlow, hhigh⟩

theorem isFinite_mul_ofNat (h : n * m ≤ (2 ^ 53 - 16) * lastPlace)
    : ((ofNat n).mul (ofNat m)).isFinite = true := by
  have hproduct := (magnitude_mul_bounds hn hm hnpos hmpos).2
  have hscaled := Nat.mul_le_mul_right (units * units) h
  have hpos : 0 < lastPlace * units * units :=
    Nat.mul_pos (Nat.mul_pos (Nat.two_pow_pos lastPower) units_pos) units_pos
  rw [Nat.mul_assoc _ lastPlace, ← Nat.mul_assoc lastPlace] at hscaled
  apply isFinite_mul
  generalize (ofNat n).magnitude * (ofNat m).magnitude = product at *
  generalize n * m * (units * units) = exact at *
  generalize lastPlace * units * units = last at *
  omega

theorem isFinite_mul_ofNat_eq_false (h : (2 ^ 53 + 16) * lastPlace ≤ n * m)
    : ((ofNat n).mul (ofNat m)).isFinite = false := by
  have hproduct := (magnitude_mul_bounds hn hm hnpos hmpos).1
  have hscaled := Nat.mul_le_mul_right (units * units) h
  rw [Nat.mul_assoc _ lastPlace, ← Nat.mul_assoc lastPlace] at hscaled
  apply isFinite_mul_eq_false
  generalize (ofNat n).magnitude * (ofNat m).magnitude = product at *
  generalize n * m * (units * units) = exact at *
  generalize lastPlace * units * units = last at *
  omega

end

end Double

namespace Numeral

open Double

variable {x : Double} {e : Int}

theorem scale?_of_gt (h : 308 < e) : scale? x e = if x.isZero then some x else none := by
  unfold scale?
  rw [if_neg (by omega)]
  split
  . rfl
  . rw [if_pos (by omega)]

theorem scale?_of_le (hlow : 0 ≤ e) (hhigh : e ≤ 308)
    : scale? x e
        =
      if (x.mul (tenTo e.natAbs)).isFinite then some (x.mul (tenTo e.natAbs)) else none := by
  unfold scale?
  rw [if_pos (by omega), if_pos hlow]

theorem isSome_scale?_of_neg (h : e < 0) : (scale? x e).isSome = true := by
  fun_induction scale? x e with
  | case1 => omega
  | case2 => omega
  | case3 => rfl
  | case4 => rfl
  | case5 => omega
  | case6 x e hlarge _ hneg ih => exact ih (by omega)

theorem tenTo_lt {k : Nat} (h : k ≤ 308) : 10 ^ k < (2 ^ 53 - 1) * lastPlace := by
  refine Nat.lt_of_le_of_lt (Nat.pow_le_pow_right (by decide) h) ?_
  unfold lastPlace lastPower
  decide +kernel

theorem lt_tenTo {k : Nat} (h : 308 < k) : (2 ^ 53 + 16) * lastPlace < 10 ^ k := by
  refine Nat.lt_of_lt_of_le ?_ (Nat.pow_le_pow_right (by decide) h)
  unfold lastPlace lastPower
  decide +kernel

theorem word_lt {n : Nat} (h : n < 2 ^ 64) : n < (2 ^ 53 - 1) * lastPlace := by
  refine Nat.lt_trans h ?_
  unfold lastPlace lastPower
  decide +kernel

theorem isZero_ofNat {n : Nat} (hpos : 0 < n) (hn : n < 2 ^ 64) : (ofNat n).isZero = false := by
  have hlow := (magnitude_ofNat hpos (word_lt hn)).1
  have hone := Nat.mul_le_mul hpos units_pos
  unfold isZero
  rw [beq_eq_false_iff_ne]
  omega

theorem magnitude_zero : (ofNat 0).magnitude = 0 := by
  rw [ofNat_eq, Nat.zero_mul]
  decide

theorem isFinite_zero_mul (x : Double) : ((ofNat 0).mul x).isFinite = true := by
  apply isFinite_mul
  rw [magnitude_zero, Nat.zero_mul]
  refine Nat.mul_pos (by decide) (Nat.mul_pos (Nat.mul_pos ?_ units_pos) units_pos)
  exact Nat.two_pow_pos lastPower

theorem scale?_eq_none {n k : Nat} (hpos : 0 < n) (hn : n < 2 ^ 64)
    (h : (2 ^ 53 + 16) * lastPlace ≤ n * 10 ^ k)
    : scale? (ofNat n) k = none := by
  by_cases hk : k ≤ 308
  . rw [scale?_of_le (Int.natCast_nonneg k) (by omega), Int.natAbs_natCast]
    have hinfinite := isFinite_mul_ofNat_eq_false (word_lt hn) (tenTo_lt hk) hpos
      (Nat.pow_pos (by decide)) h
    unfold tenTo
    rw [if_neg]
    exact Bool.eq_false_iff.mp hinfinite
  . rw [scale?_of_gt (by omega), isZero_ofNat hpos hn, if_neg Bool.false_ne_true]

theorem isSome_scale? {n k : Nat} (hn : n < 2 ^ 64) (h : n * 10 ^ k ≤ (2 ^ 53 - 16) * lastPlace)
    : (scale? (ofNat n) k).isSome = true := by
  by_cases hk : k ≤ 308
  . rw [scale?_of_le (Int.natCast_nonneg k) (by omega), Int.natAbs_natCast]
    have hfinite : ((ofNat n).mul (tenTo k)).isFinite = true := by
      by_cases hpos : 0 < n
      . exact isFinite_mul_ofNat (word_lt hn) (tenTo_lt hk) hpos (Nat.pow_pos (by decide)) h
      . rw [Nat.eq_zero_of_not_pos hpos]
        exact isFinite_zero_mul _
    rw [if_pos hfinite]
    rfl
  . have hzero : n = 0 := by
      apply Nat.eq_zero_of_not_pos
      intro hpos
      have hlt := lt_tenTo (Nat.not_le.mp hk)
      have hle := Nat.le_mul_of_pos_left (10 ^ k) hpos
      omega
    rw [scale?_of_gt (by omega), hzero]
    unfold isZero
    rw [magnitude_zero]
    rfl

end Numeral
end CallWire
