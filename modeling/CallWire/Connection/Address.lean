import CallWire.Config.Settings
import CallWire.Text.Bytes
/-!
This module contains the addresses in URLs: a scheme, a host and a port, and what is asked for at
them.
-/

namespace CallWire

structure Address where
  scheme : Scheme
  host : String
  port : Nat
  target : String
  deriving DecidableEq, Repr, Inhabited

namespace Address

def schemePort : Scheme → Nat
  | .plain => 80
  | .secure => 443

def isAuthorityChar (c : Char) : Bool := c.isAlphanum || "!$&'()*+,-.;=_~".toList.contains c

def isPathChar (c : Char) : Bool :=
  let n := c.toNat
  n = 0x21 || n = 0x22 || (0x24 ≤ n && n ≤ 0x3B) || n = 0x3D || (0x40 ≤ n && n ≤ 0x5F)
    || (0x61 ≤ n && n ≤ 0x7E) || 0x7F ≤ n

def isQueryChar (c : Char) : Bool :=
  let n := c.toNat
  n = 0x21 || (0x24 ≤ n && n ≤ 0x3B) || n = 0x3D || 0x3F ≤ n

structure Survey where
  colons : Nat := 0
  opened : Bool := false
  closed : Bool := false
  percent : Bool := false
  atUser : Bool := false
  deriving Repr, Inhabited

def Survey.next (s : Survey) (c : Char) : Option Survey :=
  let s := { s with atUser := false }
  match c with
  | ':' => if 8 ≤ s.colons then none else some { s with colons := s.colons + 1 }
  | '[' => if s.percent || s.opened then none else some { s with opened := true }
  | ']' =>
    if !s.opened || s.closed then none
    else some { s with closed := true, colons := 0, percent := false }
  | '@' => some { s with colons := 0, percent := false, atUser := true }
  | '%' => some { s with percent := true }
  | _ => if isAuthorityChar c then some s else none

def isAuthority (cs : List Char) : Bool :=
  match cs.foldlM Survey.next {} with
  | none => false
  | some s => !cs.isEmpty && s.opened == s.closed && s.colons ≤ 1 && !s.percent && !s.atUser

def targetOf (cs : List Char) : List Char :=
  match cs.takeWhile (· ≠ '#') with
  | [] => ['/']
  | cs => cs

def isTarget (cs : List Char) : Bool :=
  (cs.takeWhile (· ≠ '?')).all isPathChar && ((cs.dropWhile (· ≠ '?')).drop 1).all isQueryChar

def afterUser (cs : List Char) : List Char := (cs.reverse.takeWhile (· ≠ '@')).reverse

def hostOf (cs : List Char) : List Char :=
  match afterUser cs with
  | '[' :: rest => rest.takeWhile (· ≠ ']')
  | rest => rest.takeWhile (· ≠ ':')

def portOf (cs : List Char) : Option Nat :=
  if !cs.contains ':' then none
  else
    let digits := match (cs.reverse.takeWhile (· ≠ ':')).reverse with
      | '+' :: rest => rest
      | rest => rest
    if digits.isEmpty || !digits.all Char.isDigit then none
    else
      let n := digits.foldl (fun n c => n * 10 + (c.toNat - '0'.toNat)) 0
      if n < 2 ^ 16 then some n else none

def maxUrlSize : Nat := 65534

def splitScheme (url : String) : Option (Scheme × List Char) :=
  match url.toList with
  | 'w' :: 's' :: ':' :: '/' :: '/' :: rest => some (.plain, rest)
  | 'w' :: 's' :: 's' :: ':' :: '/' :: '/' :: rest => some (.secure, rest)
  | _ => none

def ofUrl? (url : String) : Option Address :=
  match splitScheme url with
  | none => none
  | some (scheme, rest) =>
    let ends (c : Char) : Bool := c = '/' || c = '?' || c = '#'
    let authority := rest.takeWhile (fun c => !ends c)
    let target := targetOf (rest.drop authority.length)
    let host := hostOf authority
    if maxUrlSize < url.utf8ByteSize || !isAuthority authority || !isTarget target
        || host.isEmpty then none
    else
      some { scheme, host := String.ofList host, target := String.ofList target
             port := (portOf authority).getD (schemePort scheme) }

def splitBase : List Char → Nat × List Char
  | '0' :: 'x' :: rest | '0' :: 'X' :: rest => (16, rest)
  | '0' :: c :: rest => (8, c :: rest)
  | cs => (10, cs)

def digitValue (c : Char) : Nat :=
  if c.isDigit then c.toNat - '0'.toNat
  else if 'a' ≤ c ∧ c ≤ 'f' then c.toNat - 'a'.toNat + 10
  else if 'A' ≤ c ∧ c ≤ 'F' then c.toNat - 'A'.toNat + 10
  else 16

def hostNumber? (part : List Char) : Option Nat :=
  let (base, digits) := splitBase part
  if digits.isEmpty || !digits.all (fun c => digitValue c < base) then none
  else some (digits.foldl (fun n c => n * base + digitValue c) 0)

def spread (count n : Nat) : Bytes :=
  (List.range count).reverse.map (fun i => .ofNat (n >>> (8 * i)))

/--
The four bytes that a numeric host stands for. There may be fewer than four numbers, and then the
last one takes up the bytes that are left.
-/
def numericHost? (host : String) : Option Bytes := do
  let numbers ← (host.toList.splitOn '.').mapM hostNumber?
  let front := numbers.dropLast
  let last ← numbers.getLast?
  if 3 < front.length ∨ front.any (255 < ·) ∨ 0 < last >>> (8 * (4 - front.length)) then none
  else some (front.map UInt8.ofNat ++ spread (4 - front.length) last)

def dotted (b : Bytes) : String := ".".intercalate (b.map (fun x => x.toNat.repr))

/--
Whether a host can be that of a certificate. A numeric one can in its usual form only, and a name
does not end in a number.
-/
def hasServerName (a : Address) : Bool :=
  (numericHost? a.host).map dotted = some a.host
    || !(((a.host.toList.splitOn '.').getLast?.map (·.all Char.isDigit)).getD true)

def isAskable (a : Address) : Bool :=
  a.target.toList.head? = some '/' && !a.target.toList.contains '\x7f'

end Address
end CallWire
