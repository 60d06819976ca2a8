import CallWire.Json.Fault
/-!
This module contains the reading of JSON numbers. Integers that fit are exact; any other number is
the binary64 product or quotient of its leading digits, as far as they fit into 64 bits, and a power
of ten.
-/

namespace CallWire

namespace Numeral

def overflows (n digit : Nat) : Bool := 2 ^ 64 - 1 < n * 10 + digit

def digit? (c : Char) : Option Nat :=
  if '0' ≤ c ∧ c ≤ '9' then some (c.toNat - '0'.toNat) else none

def spanDigits (s : List Char) : List Char × List Char := s.span Char.isDigit

/--
A power of ten times a number. A quotient that is too small for one division is taken in steps of
`10^308`; a product that is not finite is refused.
-/
def scale? (x : Double) (exponent : Int) : Option Double :=
  if exponent.natAbs ≤ 308 then
    if 0 ≤ exponent then
      let y := x.mul (.tenTo exponent.natAbs)
      if y.isFinite then some y else none
    else
      some (x.div (.tenTo exponent.natAbs))
  else if x.isZero then some x
  else if 0 ≤ exponent then none
  else scale? (x.div (.tenTo 308)) (exponent + 308)
termination_by exponent.natAbs
decreasing_by omega

def approximate (negative : Bool) (significand : Nat) (exponent : Int) (rest : List Char) :
    ReadStep Number :=
  match scale? (.ofNat significand) exponent with
  | some x => .ok (.double (if negative then x.neg else x), rest)
  | none => Stop.here .numberOutOfRange rest

def maxExponent : Nat := 2 ^ 31 - 1

def clampExponent (e : Int) : Int := max (-2 ^ 31) (min e (2 ^ 31 - 1))

def exponentDigits (e : Nat) : List Char → Option Nat × List Char
  | [] => (some e, [])
  | c :: rest =>
    match digit? c with
    | none => (some e, c :: rest)
    | some d =>
      if maxExponent < e * 10 + d then (none, rest) else exponentDigits (e * 10 + d) rest

def readExponent (negative : Bool) (significand : Nat) (exponent : Int) (s : List Char) :
    ReadStep Number :=
  let (down, s) :=
    match s with
    | '+' :: rest => (false, rest)
    | '-' :: rest => (true, rest)
    | _ => (false, s)
  match s with
  | [] => Stop.here .endInValue []
  | c :: rest =>
    match digit? c with
    | none => Stop.past .invalidNumber (c :: rest)
    | some d =>
      match exponentDigits d rest with
      | (some e, rest) =>
        let exponent := clampExponent (if down then exponent - e else exponent + e)
        approximate negative significand exponent rest
      | (none, rest) =>
        if significand ≠ 0 ∧ !down then Stop.here .numberOutOfRange rest
        else approximate negative 0 0 (spanDigits rest).2

def readTail (negative : Bool) (significand : Nat) (exponent : Int) (s : List Char) :
    ReadStep Number :=
  match s with
  | 'e' :: rest | 'E' :: rest => readExponent negative significand exponent rest
  | _ => approximate negative significand exponent s

def appendDigits (significand taken : Nat) : List Char → Nat × Nat
  | [] => (significand, taken)
  | c :: more =>
    match digit? c with
    | none => (significand, taken)
    | some d =>
      if overflows significand d then (significand, taken)
      else appendDigits (significand * 10 + d) (taken + 1) more

def readFraction (negative : Bool) (significand : Nat) (exponent : Int) (s : List Char) :
    ReadStep Number :=
  match spanDigits s with
  | ([], []) => Stop.past .endInValue []
  | ([], rest) => Stop.past .invalidNumber rest
  | (digits, rest) =>
    let (significand, taken) := appendDigits significand 0 digits
    readTail negative significand (exponent - taken) rest

/-- The integer with some digits: negative zero and what is out of range are binary64 numbers. -/
def exact (negative : Bool) (n : Nat) : Number :=
  if !negative then .int n
  else if n = 0 ∨ 2 ^ 63 < n then .double (Double.ofNat n).neg
  else .int (-n)

def readAfterWhole (negative : Bool) (significand dropped : Nat) (s : List Char) :
    ReadStep Number :=
  match s with
  | '.' :: rest => readFraction negative significand dropped rest
  | 'e' :: _ | 'E' :: _ => readTail negative significand dropped s
  | _ =>
    if dropped = 0 then .ok (exact negative significand, s)
    else approximate negative significand dropped s

def read (negative : Bool) (s : List Char) : ReadStep Number :=
  match s with
  | [] => Stop.here .endInValue []
  | '0' :: rest =>
    match rest with
    | [] => readAfterWhole negative 0 0 rest
    | c :: _ =>
      if c.isDigit then Stop.past .invalidNumber rest else readAfterWhole negative 0 0 rest
  | c :: rest =>
    if c.isDigit then
      let (digits, after) := spanDigits (c :: rest)
      let (significand, taken) := appendDigits 0 0 digits
      readAfterWhole negative significand (digits.length - taken) after
    else Stop.past .invalidNumber (c :: rest)

end Numeral
end CallWire
