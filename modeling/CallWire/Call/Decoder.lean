import CallWire.Json.Shape
/-!
This module contains result decoders: each call comes with one, which turns the result that the
server sends into the value that the caller awaits.
-/

namespace CallWire

inductive DecodeError where
  | shape (fault : ShapeFault)
  | custom (message : String)
  deriving DecidableEq, Repr, Inhabited

namespace DecodeError

def message : DecodeError → String
  | .shape fault => fault.message
  | .custom message => message

end DecodeError

structure ResultDecoder where
  decode : Json → Except DecodeError Json

instance : Inhabited ResultDecoder := ⟨⟨.ok⟩⟩

def decodeAs {α} (read : ShapeReader α) (v : Json) : Except DecodeError α :=
  (read v).mapError .shape

/--
A list of records. A server answers with a bare object where one record matches and with null where
none does, so an object is a list of one and null the empty list.
-/
def decodeList {α} (read : ShapeReader α) : Json → Except DecodeError (List α)
  | .null => .ok []
  | .array items => items.mapM (decodeAs read)
  | .object members => (decodeAs read (.object members)).map ([·])
  | v => .error (.custom ("expected a list or a record, got " ++ v.render))

def decodeByteLength : Json → Except DecodeError Nat
  | .string s => .ok s.utf8ByteSize
  | _ => .error (.custom "expected a string")

inductive Decoding where
  | nothing
  | raw
  | json (shape : Shape)
  | list (shape : Shape)
  | byteLength
  deriving Repr, Inhabited

namespace Decoding

def decoder : Decoding → ResultDecoder
  | .nothing => ⟨fun _ => .ok .null⟩
  | .raw => ⟨.ok⟩
  | .json shape => ⟨decodeAs shape.read⟩
  | .list shape => ⟨fun v => (decodeList shape.read v).map .array⟩
  | .byteLength => ⟨fun v => (decodeByteLength v).map Json.ofNat⟩

def describe : Decoding → String
  | .nothing => "NoResult"
  | .raw => "Raw"
  | .json shape => "Json(" ++ Text.quoted shape.name ++ ")"
  | .list shape => "JsonList(" ++ Text.quoted shape.name ++ ")"
  | .byteLength => "FnDecoder"

end Decoding
end CallWire
