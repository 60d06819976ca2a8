import CallWire.Text.Bytes
/-!
This module contains the hash SHA-512. Its constants are the first binary places of roots of the
first primes.
-/

namespace CallWire

namespace Sha512

def rootBelow (exponent n : Nat) : (fuel low high : Nat) → Nat
  | 0, low, _ => low
  | fuel + 1, low, high =>
    let middle := (low + high) / 2
    if middle.pow exponent ≤ n then rootBelow exponent n fuel middle high
    else rootBelow exponent n fuel low middle

def rootPlaces (exponent n : Nat) : UInt64 :=
  UInt64.ofNat (rootBelow exponent (n <<< (64 * exponent)) 73 0 (2 ^ 73))

def isPrime (n : Nat) : Bool := 2 ≤ n && (List.range n).all (fun d => d < 2 || n % d ≠ 0)

def primes : List Nat := (List.range 410).filter isPrime

def roundConstants : Array UInt64 := (primes.map (rootPlaces 3)).toArray

structure State where
  a : UInt64
  b : UInt64
  c : UInt64
  d : UInt64
  e : UInt64
  f : UInt64
  g : UInt64
  h : UInt64
  deriving Repr, Inhabited

def State.initial : State :=
  let word (n : Nat) : UInt64 := rootPlaces 2 n
  { a := word 2, b := word 3, c := word 5, d := word 7, e := word 11, f := word 13, g := word 17
    h := word 19 }

def State.add (s t : State) : State where
  a := s.a + t.a
  b := s.b + t.b
  c := s.c + t.c
  d := s.d + t.d
  e := s.e + t.e
  f := s.f + t.f
  g := s.g + t.g
  h := s.h + t.h

def State.words (s : State) : List UInt64 := [s.a, s.b, s.c, s.d, s.e, s.f, s.g, s.h]

def turn (x n : UInt64) : UInt64 := (x >>> n) ||| (x <<< (64 - n))

def nextWord (words : List UInt64) : UInt64 :=
  let at' (n : Nat) : UInt64 := words.getD (n - 1) 0
  let x := at' 15
  let y := at' 2
  at' 16 + (turn x 1 ^^^ turn x 8 ^^^ (x >>> 7)) + at' 7 + (turn y 19 ^^^ turn y 61 ^^^ (y >>> 6))

def schedule (block : List UInt64) : List UInt64 :=
  ((List.range 64).foldl (fun words _ => nextWord words :: words) block.reverse).reverse

def State.round (s : State) (constant word : UInt64) : State :=
  let choice := (s.e &&& s.f) ^^^ ((~~~s.e) &&& s.g)
  let majority := (s.a &&& s.b) ^^^ (s.a &&& s.c) ^^^ (s.b &&& s.c)
  let first := s.h + (turn s.e 14 ^^^ turn s.e 18 ^^^ turn s.e 41) + choice + constant + word
  let second := (turn s.a 28 ^^^ turn s.a 34 ^^^ turn s.a 39) + majority
  { a := first + second, b := s.a, c := s.b, d := s.c, e := s.d + first, f := s.e, g := s.f
    h := s.g }

def State.absorb (s : State) (block : List UInt64) : State :=
  let rounds := roundConstants.toList.zip (schedule block)
  s.add (rounds.foldl (fun s (constant, word) => s.round constant word) s)

def pad (message : Bytes) : Bytes :=
  let length := message.length
  let zeros := (239 - length % 128) % 128
  message ++ 0x80 :: List.replicate zeros 0
    ++ (List.range 16).reverse.map (fun i => UInt8.ofNat (8 * length / Nat.pow 256 i))

def parts (length : Nat) : (fuel : Nat) → Bytes → List Bytes
  | 0, _ => []
  | fuel + 1, b => b.take length :: parts length fuel (b.drop length)

def toWords (b : Bytes) : List UInt64 :=
  (parts 8 (b.length / 8) b).map (fun word => UInt64.ofNat (Bytes.number word))

def ofWord (word : UInt64) : Bytes :=
  (List.range 8).reverse.map (fun i => UInt8.ofNat (word.toNat >>> (8 * i)))

def hash (message : Bytes) : Bytes :=
  let padded := pad message
  let blocks := (parts 128 (padded.length / 128) padded).map toWords
  (blocks.foldl State.absorb State.initial).words.flatMap ofWord

end Sha512
end CallWire
