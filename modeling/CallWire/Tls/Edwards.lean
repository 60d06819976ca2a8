import CallWire.Tls.Modular
import CallWire.Tls.Sha512
/-!
This module contains the twisted Edwards curve `y² - x² = 1 + dx²y²` of the signatures Ed25519, as
far as the public keys that belong to private ones.
-/

namespace CallWire

namespace Edwards

def modulus : Nat := 2 ^ 255 - 19

def coefficient : Nat := 0x52036cee2b6ffe738cc740797779e89800700a4d4141d8ab75eb4dca135978a3

structure Point where
  x : Nat
  y : Nat
  deriving DecidableEq, Repr, Inhabited

def neutral : Point where
  x := 0
  y := 1

def base : Point where
  x := 0x216936d3cd6e53fec0a4e231fdd6dc5c692cc7609525a7b2c9562d608f25d51a
  y := 0x6666666666666666666666666666666666666666666666666666666666666658

def add (p q : Point) : Point :=
  let product := p.x * q.x * p.y * q.y % modulus * coefficient % modulus
  let divide (a b : Nat) : Nat := a % modulus * Modular.inverse modulus b % modulus
  { x := divide (p.x * q.y + p.y * q.x) (1 + product)
    y := divide (p.y * q.y + p.x * q.x) (Modular.sub modulus 1 product) }

def multiply (p : Point) : (fuel factor : Nat) → Point
  | 0, _ => neutral
  | fuel + 1, factor =>
    let half := multiply p fuel (factor / 2)
    let twice := add half half
    if factor % 2 = 1 then add twice p else twice

def number (b : Bytes) : Nat := Bytes.number b.reverse

def writePoint (p : Point) : Bytes :=
  let n := p.y + p.x % 2 * 2 ^ 255
  (List.range 32).map (fun i => UInt8.ofNat (n >>> (8 * i)))

/-- The factor that a seed stands for: a multiple of eight from `2^254` up to `2^255`. -/
def factor (seed : Bytes) : Nat :=
  2 ^ 254 + number ((Sha512.hash seed).take 32) % 2 ^ 254 / 8 * 8

def publicKey (seed : Bytes) : Bytes := writePoint (multiply base 255 (factor seed))

end Edwards
end CallWire
