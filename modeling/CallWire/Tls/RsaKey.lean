import CallWire.Tls.PublicKey
/-!
This module contains private keys of RSA. A key holds more numbers than it takes, and it counts only
if all of them belong together.
-/

namespace CallWire

structure RsaKey where
  modulus : Nat
  publicExponent : Nat
  privateExponent : Nat
  firstPrime : Nat
  secondPrime : Nat
  firstExponent : Nat
  secondExponent : Nat
  coefficient : Nat
  deriving DecidableEq, Repr, Inhabited

namespace RsaKey

def isInUse (k : RsaKey) : Bool :=
  2047 ≤ k.modulus.log2 && k.modulus.log2 < 8192 && k.modulus % 2 = 1
    && 3 ≤ k.publicExponent && k.publicExponent < 2 ^ 33 && k.publicExponent % 2 = 1

def undoes (k : RsaKey) (exponent prime : Nat) : Bool :=
  k.publicExponent * exponent % (prime - 1) = 1

def isConsistent (k : RsaKey) : Bool :=
  k.firstPrime < k.modulus && k.secondPrime < k.modulus
    && k.firstPrime * k.secondPrime = k.modulus
    && k.privateExponent < k.modulus
    && k.undoes k.privateExponent k.firstPrime && k.undoes k.privateExponent k.secondPrime
    && k.firstExponent < k.firstPrime - 1 && k.undoes k.firstExponent k.firstPrime
    && k.secondExponent < k.secondPrime - 1 && k.undoes k.secondExponent k.secondPrime
    && k.coefficient < k.firstPrime && k.secondPrime * k.coefficient % k.firstPrime = 1

def readNaturals : (count : Nat) → Bytes → Option (List Nat × Bytes)
  | 0, b => some ([], b)
  | count + 1, b => do
    let (n, b) ← Der.readNatural b
    let (ns, b) ← readNaturals count b
    return (n :: ns, b)

def read (b : Bytes) : Option (RsaKey × Bytes) := do
  let (content, rest) ← Der.expect Der.sequence b
  let (numbers, []) ← readNaturals 9 content | none
  let [0, modulus, publicExponent, privateExponent, firstPrime, secondPrime, firstExponent,
    secondExponent, coefficient] := numbers | none
  let k : RsaKey :=
    { modulus, publicExponent, privateExponent, firstPrime, secondPrime, firstExponent
      secondExponent, coefficient }
  if k.isInUse && k.isConsistent then some (k, rest) else none

def publicKey (k : RsaKey) : Bytes := PublicKey.ofRsa k.modulus k.publicExponent

end RsaKey
end CallWire
