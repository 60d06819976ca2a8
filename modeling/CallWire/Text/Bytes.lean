/-!
This module contains sequences of bytes, which may or may not be texts.
-/

namespace CallWire

abbrev Bytes := List UInt8

def Bytes.ofText (s : String) : Bytes := s.toUTF8.toList

def Bytes.text? (b : Bytes) : Option String := String.fromUTF8? ⟨b.toArray⟩

namespace Bytes

def number (b : Bytes) : Nat := b.foldl (fun n x => n * 256 + x.toNat) 0

def secondRange? (first : UInt8) : Option (UInt8 × UInt8) :=
  if 0xC2 ≤ first && first ≤ 0xDF then some (0x80, 0xBF)
  else if first = 0xE0 then some (0xA0, 0xBF)
  else if first = 0xED then some (0x80, 0x9F)
  else if 0xE1 ≤ first && first ≤ 0xEF then some (0x80, 0xBF)
  else if first = 0xF0 then some (0x90, 0xBF)
  else if 0xF1 ≤ first && first ≤ 0xF3 then some (0x80, 0xBF)
  else if first = 0xF4 then some (0x80, 0x8F)
  else none

def width (first : UInt8) : Nat :=
  if first < 0x80 then 1 else if first < 0xE0 then 2 else if first < 0xF0 then 3 else 4

def begun (first : UInt8) : Bytes → Bytes
  | [] => []
  | second :: rest =>
    match secondRange? first with
    | none => []
    | some (low, high) =>
      if low ≤ second && second ≤ high then
        second :: (rest.take (width first - 2)).takeWhile (fun b => 0x80 ≤ b && b ≤ 0xBF)
      else []

theorem length_drop_lt (first : UInt8) (rest : Bytes) (n : Nat)
    : (rest.drop n).length < (first :: rest).length := by
  rw [List.length_drop, List.length_cons]
  omega

def pieces : Bytes → List (Char ⊕ Bytes)
  | [] => []
  | first :: rest =>
    if first < 0x80 then .inl (Char.ofNat first.toNat) :: pieces rest
    else
      let more := begun first rest
      let rest' := rest.drop more.length
      match (text? (first :: more)).map String.toList with
      | some [c] => .inl c :: pieces rest'
      | _ => .inr (first :: more) :: pieces rest'
termination_by s => s.length
decreasing_by
  . exact Nat.lt_succ_self rest.length
  . exact length_drop_lt first rest _
  . exact length_drop_lt first rest _

def lossyChars (b : Bytes) : List Char := b.pieces.map (Sum.elim id (fun _ => '\ufffd'))

def lossyText (b : Bytes) : String := String.ofList b.lossyChars

end Bytes
end CallWire
