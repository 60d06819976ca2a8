import CallWire.Tls.Curve
import CallWire.Tls.Der
/-!
This module contains public keys in the form that certificates hold: the name of an algorithm and
the bits of the key.
-/

namespace CallWire

namespace PublicKey

def rsaId : Bytes := [0x2A, 0x86, 0x48, 0x86, 0xF7, 0x0D, 0x01, 0x01, 0x01]

def curveId : Bytes := [0x2A, 0x86, 0x48, 0xCE, 0x3D, 0x02, 0x01]

def edwardsId : Bytes := [0x2B, 0x65, 0x70]

def write (id parameters bits : Bytes) : Bytes :=
  Der.write Der.sequence (Der.write Der.objectId id ++ parameters)
    ++ Der.write Der.bitString (0 :: bits)

def ofRsa (modulus exponent : Nat) : Bytes :=
  write rsaId (Der.write Der.null [])
    (Der.write Der.sequence (Der.writeNatural modulus ++ Der.writeNatural exponent))

def ofCurve (c : Curve) (p : CurvePoint) : Bytes :=
  write curveId (Der.write Der.objectId c.name) (c.writePoint p)

def ofEdwards (key : Bytes) : Bytes := write edwardsId [] key

def point? (c : Curve) (b : Bytes) : Option CurvePoint := do
  let (algorithm, b) ← Der.expect Der.sequence b
  let (bits, []) ← Der.readBits b | none
  if algorithm = Der.write Der.objectId curveId ++ Der.write Der.objectId c.name then
    match bits with
    | 0x02 :: _ | 0x03 :: _ | 0x04 :: _ => c.readPoint bits
    | _ => none
  else none

end PublicKey
end CallWire
