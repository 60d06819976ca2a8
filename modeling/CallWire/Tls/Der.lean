import CallWire.Text.Bytes
/-!
This module contains the reading of DER: elements with a tag, a length and a content.
-/

namespace CallWire

namespace Der

structure Element where
  tag : UInt8
  content : Bytes
  deriving DecidableEq, Repr, Inhabited

def sequence : UInt8 := 0x30
def integer : UInt8 := 0x02
def bitString : UInt8 := 0x03
def octetString : UInt8 := 0x04
def objectId : UInt8 := 0x06
def boolean : UInt8 := 0x01
def null : UInt8 := 0x05

def field (n : Nat) : UInt8 := UInt8.ofNat (0xA0 + n)

def readLength : Bytes → Option (Nat × Bytes)
  | [] => none
  | first :: rest =>
    if first < 0x80 then some (first.toNat, rest)
    else
      let count := first.toNat - 0x80
      let digits := rest.take count
      let length := Bytes.number digits
      if count = 0 ∨ 4 < count ∨ digits.length < count ∨ digits.head? = some 0 ∨ length < 0x80 then
        none
      else some (length, rest.drop count)

def read : Bytes → Option (Element × Bytes)
  | [] => none
  | tag :: rest =>
    if tag &&& 0x1F = 0x1F then none
    else
      match readLength rest with
      | none => none
      | some (length, rest) =>
        if rest.length < length then none
        else some (⟨tag, rest.take length⟩, rest.drop length)

def expect (tag : UInt8) (b : Bytes) : Option (Bytes × Bytes) :=
  match read b with
  | none => none
  | some (e, rest) => if e.tag = tag then some (e.content, rest) else none

def expectOnly (tag : UInt8) (b : Bytes) : Option Bytes :=
  match expect tag b with
  | some (content, []) => some content
  | _ => none

def optional (tag : UInt8) (b : Bytes) : Option Bytes × Bytes :=
  match expect tag b with
  | some (content, rest) => (some content, rest)
  | none => (none, b)

def readNatural (b : Bytes) : Option (Nat × Bytes) :=
  match expect integer b with
  | some ([x], rest) => if x < 0x80 then some (x.toNat, rest) else none
  | some (0 :: x :: more, rest) => if 0x80 ≤ x then some (Bytes.number (x :: more), rest) else none
  | some (x :: more, rest) => if x < 0x80 then some (Bytes.number (x :: more), rest) else none
  | _ => none

def readBits (b : Bytes) : Option (Bytes × Bytes) :=
  match expect bitString b with
  | some (0 :: bits, rest) => some (bits, rest)
  | _ => none

def writeLength (n : Nat) : Bytes :=
  if n < 0x80 then [UInt8.ofNat n]
  else if n < 0x100 then [0x81, UInt8.ofNat n]
  else [0x82, UInt8.ofNat (n / 256), UInt8.ofNat n]

def write (tag : UInt8) (content : Bytes) : Bytes := tag :: writeLength content.length ++ content

def naturalBytes (n : Nat) : Bytes :=
  (List.range (n.log2 / 8 + 1)).reverse.map (fun i => UInt8.ofNat (n >>> (8 * i)))

def writeNatural (n : Nat) : Bytes :=
  let b := naturalBytes n
  write integer (if (b.headD 0) < 0x80 then b else 0 :: b)

end Der
end CallWire
