/-!
This module contains binary64 numbers as exact arithmetic on natural numbers: a finite number is a
whole count of the unit `2^-1074`, and every operation is the exact quotient rounded once.
-/

namespace CallWire

/-- A binary64 number, given by its bits. -/
structure Double where
  bits : UInt64
  deriving DecidableEq, Repr, Inhabited

namespace Double

def isNegative (x : Double) : Bool := x.bits.toNat / 2 ^ 63 % 2 == 1

def exponentField (x : Double) : Nat := x.bits.toNat / 2 ^ 52 % 2048

def significand (x : Double) : Nat :=
  let fraction := x.bits.toNat % 2 ^ 52
  if x.exponentField = 0 then fraction else 2 ^ 52 + fraction

def place (x : Double) : Nat := x.exponentField - 1

def magnitude (x : Double) : Nat := x.significand <<< x.place

def isFinite (x : Double) : Bool := x.exponentField != 2047

def isZero (x : Double) : Bool := x.magnitude == 0

def infinity : Double := ⟨0x7FF0000000000000⟩

def neg (x : Double) : Double := ⟨x.bits ||| 0x8000000000000000⟩

def divRound (num den : Nat) : Nat :=
  let q := num / den
  let twice := 2 * (num % den)
  if twice < den then q
  else if den < twice then q + 1
  else q + q % 2

/--
The binary64 number nearest to `num / den`, ties to the even significand; infinite from half a unit
above the largest finite number. A carry out of the significand moves into the exponent field by
itself, as the two fields are adjacent.
-/
def ofRatio (num den : Nat) : Double :=
  let scaled := num * 2 ^ 1074
  let place := Nat.log2 (scaled / den) - 52
  let field := place * 2 ^ 52 + divRound scaled (den <<< place)
  if field < 2047 * 2 ^ 52 then ⟨field.toUInt64⟩ else infinity

def ofNat (n : Nat) : Double := ofRatio n 1

def ofInt : Int → Double
  | .ofNat n => ofNat n
  | .negSucc n => (ofNat (n + 1)).neg

def mul (x y : Double) : Double := ofRatio (x.magnitude * y.magnitude) (2 ^ 2148)

def div (x y : Double) : Double := ofRatio x.magnitude y.magnitude

def tenTo (k : Nat) : Double := ofNat (Nat.pow 10 k)

end Double
end CallWire
