/-!
This module contains arithmetic modulo a prime.
-/

namespace CallWire

namespace Modular

def power (m base : Nat) : (fuel exponent : Nat) → Nat
  | 0, _ => 1
  | fuel + 1, exponent =>
    let half := power m base fuel (exponent / 2)
    let square := half * half % m
    if exponent % 2 = 1 then square * base % m else square

def inverse (p n : Nat) : Nat := power p n (p.log2 + 1) (p - 2)

def sub (m a b : Nat) : Nat := (a + (m - b % m)) % m

def squareRoot? (p n : Nat) : Option Nat :=
  let root := power p n (p.log2 + 1) ((p + 1) / 4)
  if root * root % p = n % p then some root else none

end Modular
end CallWire
