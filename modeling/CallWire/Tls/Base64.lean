import CallWire.Text.Bytes
/-!
This module contains the reading of bytes in base64. Blanks count for nothing, and padding may be
left out but may not be wrong.
-/

namespace CallWire

namespace Base64

inductive Fault where
  | invalidCharacter (byte : UInt8)
  | prematurePadding
  | invalidTrailingPadding
  deriving DecidableEq, Repr, Inhabited

def Fault.message : Fault → String
  | .invalidCharacter byte => "InvalidCharacter(" ++ byte.toNat.repr ++ ")"
  | .prematurePadding => "PrematurePadding"
  | .invalidTrailingPadding => "InvalidTrailingPadding"

inductive Digit where
  | bits (n : Nat)
  | pad
  deriving DecidableEq, Repr, Inhabited

def isBlank (b : UInt8) : Bool := b = 32 || (9 ≤ b && b ≤ 13)

def digit (b : UInt8) : Except Fault Digit :=
  let n := b.toNat
  if 65 ≤ n ∧ n ≤ 90 then .ok (.bits (n - 65))
  else if 97 ≤ n ∧ n ≤ 122 then .ok (.bits (n - 97 + 26))
  else if 48 ≤ n ∧ n ≤ 57 then .ok (.bits (n - 48 + 52))
  else if n = 43 then .ok (.bits 62)
  else if n = 47 then .ok (.bits 63)
  else if n = 61 then .ok .pad
  else .error (.invalidCharacter b)

def wholeGroup (a b c d : Nat) : Bytes :=
  let n := ((a * 64 + b) * 64 + c) * 64 + d
  [UInt8.ofNat (n / 65536), UInt8.ofNat (n / 256), UInt8.ofNat n]

def lastGroup : List Digit → Except Fault Bytes
  | [] => .ok []
  | [.bits a, .bits b] | [.bits a, .bits b, .pad, .pad] => .ok ((wholeGroup a b 0 0).take 1)
  | [.bits a, .bits b, .bits c] | [.bits a, .bits b, .bits c, .pad] =>
    .ok ((wholeGroup a b c 0).take 2)
  | [.bits a, .bits b, .bits c, .bits d] => .ok (wholeGroup a b c d)
  | _ => .error .invalidTrailingPadding

def innerGroup : List Digit → Except Fault Bytes
  | [.bits a, .bits b, .bits c, .bits d] => .ok (wholeGroup a b c d)
  | _ => .error .prematurePadding

def lastBlock (digits : List Digit) : Except Fault Bytes := do
  if 4 < digits.length then
    return (← innerGroup (digits.take 4)) ++ (← lastGroup (digits.drop 4))
  else lastGroup digits

/--
The bytes of some characters, which are read in blocks of eight. A block is checked when the
character after it is known to be one.
-/
def decodeBlocks : Bytes → Except Fault Bytes
  | a :: b :: c :: d :: e :: f :: g :: h :: next :: rest => do
    let first ← [a, b, c, d].mapM digit
    let second ← [e, f, g, h].mapM digit
    let _ ← digit next
    let bytes := (← innerGroup first) ++ (← innerGroup second)
    return bytes ++ (← decodeBlocks (next :: rest))
  | block => do lastBlock (← block.mapM digit)
termination_by s => s.length

def decode (s : Bytes) : Except Fault Bytes := decodeBlocks (s.filter (fun b => !isBlank b))

end Base64
end CallWire
