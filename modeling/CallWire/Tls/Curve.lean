import CallWire.Text.Bytes
import CallWire.Tls.Modular
/-!
This module contains elliptic curves `y² = x³ - 3x + b` modulo a prime, the multiples of their
points, and the forms in which points are written.
-/

namespace CallWire

/-- A point of a curve. The point at infinity is `none` where points are optional. -/
structure CurvePoint where
  x : Nat
  y : Nat
  deriving DecidableEq, Repr, Inhabited

structure Curve where
  name : Bytes
  width : Nat
  modulus : Nat
  order : Nat
  coefficient : Nat
  generator : CurvePoint
  deriving DecidableEq, Repr, Inhabited

namespace Curve

def p256 : Curve where
  name := [0x2A, 0x86, 0x48, 0xCE, 0x3D, 0x03, 0x01, 0x07]
  width := 32
  modulus := 2 ^ 256 - 2 ^ 224 + 2 ^ 192 + 2 ^ 96 - 1
  order := 0xffffffff00000000ffffffffffffffffbce6faada7179e84f3b9cac2fc632551
  coefficient := 0x5ac635d8aa3a93e7b3ebbd55769886bc651d06b0cc53b0f63bce3c3e27d2604b
  generator :=
    { x := 0x6b17d1f2e12c4247f8bce6e563a440f277037d812deb33a0f4a13945d898c296
      y := 0x4fe342e2fe1a7f9b8ee7eb4a7c0f9e162bce33576b315ececbb6406837bf51f5 }

def p384 : Curve where
  name := [0x2B, 0x81, 0x04, 0x00, 0x22]
  width := 48
  modulus := 2 ^ 384 - 2 ^ 128 - 2 ^ 96 + 2 ^ 32 - 1
  order :=
    0xffffffffffffffffffffffffffffffffffffffffffffffff * 2 ^ 192
      + 0xc7634d81f4372ddf581a0db248b0a77aecec196accc52973
  coefficient :=
    0xb3312fa7e23ee7e4988e056be3f82d19181d9c6efe814112 * 2 ^ 192
      + 0x0314088f5013875ac656398d8a2ed19d2a85c8edd3ec2aef
  generator :=
    { x :=
        0xaa87ca22be8b05378eb1c71ef320ad746e1d3b628ba79b98 * 2 ^ 192
          + 0x59f741e082542a385502f25dbf55296c3a545e3872760ab7
      y :=
        0x3617de4a96262c6f5d9e98bf9292dc29f8f41dbd289a147c * 2 ^ 192
          + 0xe9da3113b5f0b8c00a60b1ce1d7e819d7a431d7c90ea0e5f }

def p521 : Curve where
  name := [0x2B, 0x81, 0x04, 0x00, 0x23]
  width := 66
  modulus := 2 ^ 521 - 1
  order :=
    (2 ^ 261 - 1) * 2 ^ 260
      + 0xa51868783bf2f966b7fcc0148f709a5d03bb5c9b8899c47aebb6fb71e91386409
  coefficient :=
    0x51953eb9618e1c9a1f929a21a0b68540eea2da725b99b315f3b8b489918ef109e1 * 2 ^ 256
      + 0x56193951ec7e937b1652c0bd3bb1bf073573df883d2c34f1ef451fd46b503f00
  generator :=
    { x :=
        0xc6858e06b70404e9cd9e3ecb662395b4429c648139053fb521f828af606b4d3dba * 2 ^ 256
          + 0xa14b5e77efe75928fe1dc127a2ffa8de3348b3c1856a429bf97e7e31c2e5bd66
      y :=
        0x11839296a789a3bc0045c8a5fb42c7d1bd998f54449579b446817afbd17273e662c * 2 ^ 256
          + 0x97ee72995ef42640c550b9013fad0761353c7086a272c24088be94769fd16650 }

def all : List Curve := [p256, p384, p521]

def right (c : Curve) (x : Nat) : Nat :=
  (x ^ 3 + (c.modulus - 3) * x + c.coefficient) % c.modulus

def isOn (c : Curve) (p : CurvePoint) : Bool :=
  p.x < c.modulus && p.y < c.modulus && p.y * p.y % c.modulus = c.right p.x

def reflect (c : Curve) (p q : CurvePoint) (slope : Nat) : CurvePoint :=
  let x := Modular.sub c.modulus (slope * slope) (p.x + q.x)
  { x := x, y := Modular.sub c.modulus (slope * Modular.sub c.modulus p.x x) p.y }

def add (c : Curve) : Option CurvePoint → Option CurvePoint → Option CurvePoint
  | none, q => q
  | p, none => p
  | some p, some q =>
    let divide (a b : Nat) : Nat := a % c.modulus * Modular.inverse c.modulus b % c.modulus
    if p.x = q.x then
      if p.y = q.y ∧ p.y ≠ 0 then
        some (c.reflect p q (divide (3 * p.x * p.x + (c.modulus - 3)) (2 * p.y)))
      else none
    else
      let rise := Modular.sub c.modulus q.y p.y
      some (c.reflect p q (divide rise (Modular.sub c.modulus q.x p.x)))

def multiply (c : Curve) (p : CurvePoint) : (fuel factor : Nat) → Option CurvePoint
  | 0, _ => none
  | fuel + 1, factor =>
    let half := c.multiply p fuel (factor / 2)
    let twice := c.add half half
    if factor % 2 = 1 then c.add twice (some p) else twice

def publicPoint (c : Curve) (secret : Nat) : Option CurvePoint :=
  c.multiply c.generator (8 * c.width) secret

def writeCoordinate (c : Curve) (n : Nat) : Bytes :=
  (List.range c.width).reverse.map (fun i => UInt8.ofNat (n >>> (8 * i)))

def writePoint (c : Curve) (p : CurvePoint) : Bytes :=
  0x04 :: c.writeCoordinate p.x ++ c.writeCoordinate p.y

def readCoordinates (c : Curve) (b : Bytes) : Option CurvePoint :=
  let p : CurvePoint := { x := Bytes.number (b.take c.width), y := Bytes.number (b.drop c.width) }
  if b.length = 2 * c.width ∧ c.isOn p then some p else none

def readHalf (c : Curve) (odd : Bool) (b : Bytes) : Option CurvePoint := do
  let x := Bytes.number b
  if b.length ≠ c.width ∨ c.modulus ≤ x then none
  else
    let root ← Modular.squareRoot? c.modulus (c.right x)
    let y := if (root % 2 = 1) = odd then root else c.modulus - root
    if y < c.modulus then some { x, y } else none

/--
The point that some bytes write. The mark before the coordinates is four, or two or three where only
the first coordinate follows, or six or seven where both follow and the mark tells again whether the
second is odd.
-/
def readPoint (c : Curve) : Bytes → Option CurvePoint
  | 0x04 :: rest => c.readCoordinates rest
  | 0x02 :: rest => c.readHalf false rest
  | 0x03 :: rest => c.readHalf true rest
  | 0x06 :: rest => (c.readCoordinates rest).filter (·.y % 2 = 0)
  | 0x07 :: rest => (c.readCoordinates rest).filter (·.y % 2 = 1)
  | _ => none

end Curve
end CallWire
