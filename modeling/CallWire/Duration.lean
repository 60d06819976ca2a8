/-!
This module contains spans of time in whole nanoseconds, and their text in the largest unit that
leaves a whole part.
-/

-- A power of a number is the core one, also where numbers are known as a monoid.
attribute [default_instance 20000] instPowNat

namespace CallWire

structure Duration where
  nanos : Nat
  deriving DecidableEq, Repr, Inhabited

namespace Duration

def zero : Duration := ⟨0⟩

def ofSecs (n : Nat) : Duration := ⟨n * 10 ^ 9⟩

def ofMillis (n : Nat) : Duration := ⟨n * 10 ^ 6⟩

def secs (d : Duration) : Nat := d.nanos / 10 ^ 9

def millis (d : Duration) : Nat := d.nanos / 10 ^ 6

def subsecNanos (d : Duration) : Nat := d.nanos % 10 ^ 9

def fraction (width n : Nat) : List Char :=
  let digits := n.repr.toList
  let places := List.replicate (width - digits.length) '0' ++ digits
  match (places.reverse.dropWhile (· = '0')).reverse with
  | [] => []
  | places => '.' :: places

def inUnit (width : Nat) (unit : String) (nanos : Nat) : String :=
  let size := Nat.pow 10 width
  (nanos / size).repr ++ String.ofList (fraction width (nanos % size)) ++ unit

def text (d : Duration) : String :=
  if 10 ^ 9 ≤ d.nanos then inUnit 9 "s" d.nanos
  else if 10 ^ 6 ≤ d.nanos then inUnit 6 "ms" d.nanos
  else if 10 ^ 3 ≤ d.nanos then inUnit 3 "µs" d.nanos
  else inUnit 0 "ns" d.nanos

end Duration
end CallWire
