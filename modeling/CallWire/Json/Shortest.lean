import CallWire.Json.Double
/-!
This module contains the decimal text of binary64 numbers: the fewest digits that read back as the
number, and of those the ones nearest to it.
-/

namespace CallWire

structure Decimal where
  digits : Nat
  exponent : Int
  deriving DecidableEq, Repr, Inhabited

namespace Double

/--
The reals that round to a number, in units of `2^-1076`: from `low` to `high` around `centre`, with
both ends where `closed`.
-/
structure RoundingInterval where
  low : Nat
  centre : Nat
  high : Nat
  closed : Bool

def roundingInterval (x : Double) : RoundingInterval :=
  let unit := 1 <<< x.place
  let below := if x.significand = 2 ^ 52 ∧ 0 < x.place then unit else 2 * unit
  let centre := 4 * x.magnitude
  ⟨centre - below, centre, centre + 2 * unit, x.significand % 2 == 0⟩

def Decimal.against (d : Decimal) (bound : Nat) : Nat × Nat :=
  if 0 ≤ d.exponent then (d.digits * Nat.pow 10 d.exponent.toNat * 2 ^ 1076, bound)
  else (d.digits * 2 ^ 1076, bound * Nat.pow 10 (-d.exponent).toNat)

def RoundingInterval.contains (i : RoundingInterval) (d : Decimal) : Bool :=
  let (atLow, low) := Decimal.against d i.low
  let (atHigh, high) := Decimal.against d i.high
  if i.closed then low ≤ atLow && atHigh ≤ high else low < atLow && atHigh < high

def RoundingInterval.distance (i : RoundingInterval) (d : Decimal) : Nat :=
  let (here, centre) := Decimal.against d i.centre
  (here - centre) + (centre - here)

def RoundingInterval.floor (i : RoundingInterval) (exponent : Int) : Decimal :=
  if 0 ≤ exponent then ⟨i.centre / (Nat.pow 10 exponent.toNat * 2 ^ 1076), exponent⟩
  else ⟨i.centre * Nat.pow 10 (-exponent).toNat / 2 ^ 1076, exponent⟩

/--
The best decimal with last place `10^exponent`: of the two multiples around the number the one that
reads back, of two the nearer, and of two equally near the even one.
-/
def RoundingInterval.onGrid? (i : RoundingInterval) (exponent : Int) : Option Decimal :=
  let down := i.floor exponent
  let up : Decimal := ⟨down.digits + 1, exponent⟩
  match i.contains down, i.contains up with
  | true, true =>
    if i.distance down < i.distance up then some down
    else if i.distance up < i.distance down then some up
    else if down.digits % 2 = 0 then some down
    else some up
  | true, false => some down
  | false, true => some up
  | false, false => none

/--
The least `k` with `centre < 10^k`. The binary length gives an upper bound that is at most three too
large, as `30103 / 100000` is `log10 2` to five places.
-/
def RoundingInterval.decimalLength (i : RoundingInterval) : Int :=
  go i 6 (((i.centre.log2 : Int) - 1075) * 30103 / 100000 + 2)
where
  go (i : RoundingInterval) : Nat → Int → Int
    | 0, k => k
    | n + 1, k => if (i.floor (k - 1)).digits = 0 then go i n (k - 1) else k

def shortest (x : Double) : Decimal :=
  let i := x.roundingInterval
  let length := i.decimalLength
  go i length 17 1
where
  go (i : RoundingInterval) (length : Int) : Nat → Nat → Decimal
    | 0, places => i.floor (length - places)
    | n + 1, places =>
      match i.onGrid? (length - places) with
      | some d => d
      | none => go i length n (places + 1)

def trimZeros (d : Decimal) : Decimal :=
  go 20 d
where
  go : Nat → Decimal → Decimal
    | 0, d => d
    | n + 1, d =>
      if d.digits ≠ 0 ∧ d.digits % 10 = 0 then go n ⟨d.digits / 10, d.exponent + 1⟩ else d

def scientific (digits : List Char) (exponent : Int) : List Char :=
  let mantissa :=
    match digits with
    | [] => []
    | [d] => [d]
    | d :: more => d :: '.' :: more
  let sign := if exponent < 0 then '-' else '+'
  mantissa ++ ['e', sign] ++ exponent.natAbs.repr.toList

/--
The text of a decimal: plain from `10^-5` up to `10^16`, always with a point and at least one digit
on either side of it, and otherwise with an exponent.
-/
def positional (d : Decimal) : List Char :=
  let digits := d.digits.repr.toList
  let point := (digits.length : Int) + d.exponent
  if 0 ≤ d.exponent ∧ point ≤ 16 then
    digits ++ List.replicate d.exponent.toNat '0' ++ ['.', '0']
  else if 0 < point ∧ point ≤ 16 then
    digits.take point.toNat ++ '.' :: digits.drop point.toNat
  else if -5 < point ∧ point ≤ 0 then
    '0' :: '.' :: List.replicate (-point).toNat '0' ++ digits
  else
    scientific digits (point - 1)

def text (x : Double) : List Char :=
  let sign := if x.isNegative then ['-'] else []
  if x.isZero then sign ++ ['0', '.', '0'] else sign ++ positional (trimZeros x.shortest)

end Double
end CallWire
