import CallWire.Json.Double
/-!
This module contains the meaning of plain scalars: which of them are null, booleans and numbers.
-/

namespace CallWire

namespace Yaml

namespace Plain

def isNull (s : String) : Bool := s == "null" || s == "Null" || s == "NULL" || s == "~"

def bool? (s : String) : Option Bool :=
  if s == "true" || s == "True" || s == "TRUE" then some true
  else if s == "false" || s == "False" || s == "FALSE" then some false
  else none

def digit? (base : Nat) (c : Char) : Option Nat :=
  let n :=
    if c.isDigit then c.toNat - '0'.toNat
    else if 'a' ≤ c ∧ c ≤ 'f' then c.toNat - 'a'.toNat + 10
    else if 'A' ≤ c ∧ c ≤ 'F' then c.toNat - 'A'.toNat + 10
    else base
  if n < base then some n else none

def natural? (base : Nat) (s : List Char) : Option Nat :=
  if s.isEmpty then none
  else (s.mapM (digit? base)).map (fun digits => digits.foldl (fun n d => n * base + d) 0)

def based? : List Char → Option Nat
  | '0' :: 'x' :: digits => natural? 16 digits
  | '0' :: 'o' :: digits => natural? 8 digits
  | '0' :: 'b' :: digits => natural? 2 digits
  | _ => none

def dropSign : List Char → List Char
  | '+' :: rest | '-' :: rest => rest
  | s => s

def hasLeadingZero (s : List Char) : Bool :=
  let digits := dropSign s
  1 < digits.length && digits.head? == some '0' && digits.all Char.isDigit

def unsigned? (s : List Char) : Option Nat :=
  let digits := match s with
    | '+' :: rest => rest
    | _ => s
  match based? digits with
  | some n => some n
  | none => if hasLeadingZero s then none else natural? 10 digits

def negated? : List Char → Option Nat
  | '-' :: digits =>
    match based? digits with
    | some n => some n
    | none => if hasLeadingZero digits then none else natural? 10 digits
  | _ => none

def word? (s : String) : Option Nat := (unsigned? s.toList).filter (· < 2 ^ 64)

def isInt (s : List Char) : Bool :=
  (unsigned? s).any (· < 2 ^ 128) || (negated? s).any (· ≤ 2 ^ 127)

def exponent? : List Char → Option Int
  | [] => some 0
  | c :: rest =>
    if c = 'e' ∨ c = 'E' then
      match rest with
      | '-' :: digits => (natural? 10 digits).map (fun n => -(n : Int))
      | '+' :: digits => (natural? 10 digits).map (fun n => (n : Int))
      | digits => (natural? 10 digits).map (fun n => (n : Int))
    else none

def isFiniteDecimal (digits : Nat) (exponent : Int) : Bool :=
  let length := (digits.log2 * 30103 / 100000 : Int) + exponent
  if digits = 0 || length < 0 then true
  else if 400 < length then false
  else if 0 ≤ exponent then (Double.ofRatio (digits * Nat.pow 10 exponent.toNat) 1).isFinite
  else (Double.ofRatio digits (Nat.pow 10 (-exponent).toNat)).isFinite

def isDecimal (s : List Char) : Bool :=
  let s := match s with
    | '-' :: rest => rest
    | _ => s
  let whole := s.takeWhile Char.isDigit
  let rest := s.dropWhile Char.isDigit
  let (places, rest) := match rest with
    | '.' :: rest => (rest.takeWhile Char.isDigit, rest.dropWhile Char.isDigit)
    | _ => ([], rest)
  match natural? 10 (whole ++ places), exponent? rest with
  | some n, some e => isFiniteDecimal n (e - places.length)
  | _, _ => false

def isFloat (s : String) : Bool :=
  if [".inf", ".Inf", ".INF", "+.inf", "+.Inf", "+.INF", "-.inf", "-.Inf", "-.INF", ".nan", ".NaN",
      ".NAN"].contains s then true
  else
    match s.toList with
    | '+' :: rest => !(rest.head? == some '+' || rest.head? == some '-') && isDecimal rest
    | cs => !hasLeadingZero cs && isDecimal cs

def isText (s : String) : Bool :=
  let cs := s.toList
  !(s.isEmpty || isNull s || (bool? s).isSome || isInt cs || hasLeadingZero cs || isFloat s)

end Plain
end Yaml
end CallWire
