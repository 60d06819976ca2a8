import CallWire.Text.Bytes
import CallWire.Text.Quoted
/-!
This module contains the paths of files. A path is a sequence of bytes, which need not be a text.
-/

namespace CallWire

structure Path where
  bytes : Bytes
  deriving DecidableEq, Repr, Inhabited

namespace Path

def ofText (s : String) : Path := { bytes := .ofText s }

def text? (p : Path) : Option String := p.bytes.text?

def shown (p : Path) : String := p.bytes.lossyText

def byteEscape (b : UInt8) : List Char :=
  let digit (n : Nat) : Char := n.digitChar.toUpper
  ['\\', 'x', digit (b.toNat / 16), digit (b.toNat % 16)]

def quoted (p : Path) : String :=
  let shown := p.bytes.pieces.flatMap (Sum.elim Text.showChar (List.flatMap byteEscape))
  String.ofList ('"' :: shown ++ ['"'])

def slash : UInt8 := 0x2F

def isAbsolute (p : Path) : Bool := p.bytes.head? = some slash

def names (p : Path) : List Bytes :=
  p.bytes.foldr addByte [[]]
where
  addByte (b : UInt8) (names : List Bytes) : List Bytes :=
    if b = slash then [] :: names else (b :: names.headD []) :: names.tail

end Path
end CallWire
