import CallWire.Envelope.Basic
import CallWire.Json.Reader
/-!
This module contains the frames of envelopes: how an envelope is written, and which frames are read
as envelopes.
-/

namespace CallWire

inductive FrameError where
  | tooLarge (size max : Nat)
  | malformed (error : SyntaxError)
  | misshapen (fault : ShapeFault)
  | missingField (name : String)
  | notAnObject
  deriving DecidableEq, Repr, Inhabited

namespace FrameError

def message : FrameError → String
  | .tooLarge size max => "frame too large: " ++ size.repr ++ " bytes (max " ++ max.repr ++ ")"
  | .malformed error => "JSON error: " ++ error.message
  | .misshapen fault => "JSON error: " ++ fault.message
  | .missingField name => "missing required field: " ++ name
  | .notAnObject => "frame is not a JSON object"

end FrameError

namespace Request

def encode (r : Request) : String :=
  String.ofList (
    "\x7b\"id\":".toList ++ Json.writeString r.id
      ++ ",\"method\":".toList ++ Json.writeString r.method
      ++ ",\"params\":".toList ++ Json.write (.array r.params) ++ ['\x7d'])

end Request

namespace ServerFault

def write (f : ServerFault) : List Char :=
  "\x7b\"code\":".toList ++ Json.writeInt f.code
    ++ ",\"message\":".toList ++ Json.writeString f.message ++ ['\x7d']

end ServerFault

namespace Response

def writeResult : Option Json → List Char
  | none => []
  | some v => ",\"result\":".toList ++ v.write

def writeFault : Option ServerFault → List Char
  | none => []
  | some f => ",\"error\":".toList ++ f.write

def encode (r : Response) : String :=
  String.ofList (
    "\x7b\"id\":".toList ++ Json.writeString r.id ++ writeResult r.result ++ writeFault r.fault
      ++ ['\x7d'])

end Response

def defaultMaxFrameSize : Nat := 16 * 1024 * 1024

structure FrameDecoder where
  maxFrameSize : Nat := defaultMaxFrameSize
  deriving DecidableEq, Repr, Inhabited

namespace FrameDecoder

/-- The members of a frame that is an object with an id. Its size is checked before it is read. -/
def members (d : FrameDecoder) (frame : String) : Except FrameError (List (String × Json)) :=
  if d.maxFrameSize < frame.utf8ByteSize then
    .error (.tooLarge frame.utf8ByteSize d.maxFrameSize)
  else
    match Json.parse frame with
    | .error error => .error (.malformed error)
    | .ok (.object members) =>
      match Json.member? "id" members with
      | none => .error (.missingField "id")
      | some _ => .ok members
    | .ok _ => .error .notAnObject

def readResponseId : ShapeReader String
  | .string s => .ok s
  | .number (.int i) => .ok (String.ofList (Json.writeInt i))
  | _ => .error (.noVariant "WireId")

def readCode : Option Json → Except ShapeFault Int
  | none => .ok 0
  | some v => Json.readInt "i64" (-2 ^ 63) (2 ^ 63) v

def readMessage : Option Json → Except ShapeFault String
  | none => .ok ""
  | some v => Json.readText? v

def readFault : ShapeReader ServerFault
  | .object members => do
    let code ← readCode (Json.member? "code" members)
    let message ← readMessage (Json.member? "message" members)
    return ⟨code, message⟩
  | .array items => do
    let code ← readCode items[0]?
    let message ← readMessage items[1]?
    if items.length ≤ 2 then return ⟨code, message⟩
    else throw (.invalidLength items.length "fewer elements in array")
  | v => .error (.invalidType v "struct ResponseError")

def presentResult : Option Json → Option Json
  | some .null => none
  | result => result

/-- A response from the members of its frame. A null fault or result is absent. -/
def readResponse (members : List (String × Json)) : Except ShapeFault Response := do
  let fault ← Json.readOption readFault ((Json.member? "error" members).getD .null)
  let id ← readResponseId ((Json.member? "id" members).getD .null)
  return { id, result := presentResult (Json.member? "result" members), fault }

def decodeResponse (d : FrameDecoder) (frame : String) : Except FrameError Response :=
  match d.members frame with
  | .error error => .error error
  | .ok members => (readResponse members).mapError .misshapen

def readParams : Option Json → Except ShapeFault (List Json)
  | none => .ok []
  | some v => Json.readList .ok v

def readRequest (members : List (String × Json)) : Except ShapeFault Request := do
  let id ← Json.readText? ((Json.member? "id" members).getD .null)
  let method ← Json.readText? ((Json.member? "method" members).getD .null)
  let params ← readParams (Json.member? "params" members)
  return { id, method, params }

def decodeRequest (d : FrameDecoder) (frame : String) : Except FrameError Request :=
  match d.members frame with
  | .error error => .error error
  | .ok members =>
    match Json.member? "method" members with
    | none => .error (.missingField "method")
    | some _ => (readRequest members).mapError .misshapen

end FrameDecoder
end CallWire
