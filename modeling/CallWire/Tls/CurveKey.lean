import CallWire.Tls.PublicKey
/-!
This module contains private keys of elliptic curves. A key may tell its curve, by its name or by
all the numbers that make it up, and its public key.
-/

namespace CallWire

structure CurveKey where
  curve : Curve
  point : CurvePoint
  deriving DecidableEq, Repr, Inhabited

namespace CurveKey

def primeFieldId : Bytes := [0x2A, 0x86, 0x48, 0xCE, 0x3D, 0x01, 0x01]

def readBase : Bytes → Option CurvePoint
  | 0x04 :: rest =>
    let half := rest.length / 2
    if rest.length % 2 = 0 then
      some { x := Bytes.number (rest.take half), y := Bytes.number (rest.drop half) }
    else none
  | _ => none

def find? (modulus a coefficient order : Nat) (generator : CurvePoint) : Option Curve :=
  Curve.all.find? (fun c => c.modulus = modulus && a + 3 = modulus && c.coefficient = coefficient
    && c.order = order && c.generator = generator)

def readNumbers (b : Bytes) : Option Curve := do
  let (1, b) ← Der.readNatural b | none
  let (field, b) ← Der.expect Der.sequence b
  let (id, field) ← Der.expect Der.objectId field
  let (modulus, []) ← Der.readNatural field | none
  let (equation, b) ← Der.expect Der.sequence b
  let (a, equation) ← Der.expect Der.octetString equation
  let (coefficient, equation) ← Der.expect Der.octetString equation
  let (_, []) := Der.optional Der.bitString equation | none
  let (base, b) ← Der.expect Der.octetString b
  let generator ← readBase base
  let (order, b) ← Der.readNatural b
  let (cofactor, []) := Der.optional Der.integer b | none
  if id ≠ primeFieldId ∨ cofactor.any (· ≠ [1]) then none
  else find? modulus (Bytes.number a) (Bytes.number coefficient) order generator

def readCurve (b : Bytes) : Option Curve :=
  match Der.read b with
  | some (⟨tag, content⟩, []) =>
    if tag = Der.sequence then readNumbers content
    else if tag = Der.objectId then Curve.all.find? (·.name = content)
    else none
  | _ => none

def agrees (k : CurveKey) (field : Bytes) : Bool :=
  match Der.readBits field with
  | some (bits, []) => k.curve.readPoint bits = some k.point
  | _ => false

def read (c : Curve) (b : Bytes) : Option (CurveKey × Bytes) := do
  let (content, rest) ← Der.expect Der.sequence b
  let (1, content) ← Der.readNatural content | none
  let (secret, content) ← Der.expect Der.octetString content
  let (parameters, content) := Der.optional (Der.field 0) content
  let (told, []) := Der.optional (Der.field 1) content | none
  let secret := Bytes.number secret
  if c.order ≤ secret ∨ parameters.any (fun p => readCurve p ≠ some c) then none
  else
    let k : CurveKey := { curve := c, point := ← c.publicPoint secret }
    if told.all k.agrees then some (k, rest) else none

def publicKey (k : CurveKey) : Bytes := PublicKey.ofCurve k.curve k.point

end CurveKey
end CallWire
