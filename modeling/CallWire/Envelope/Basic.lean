import CallWire.Json.Shape
/-!
This module contains the envelopes of requests and responses.
-/

namespace CallWire

structure Request where
  id : String
  method : String
  params : List Json := []
  deriving DecidableEq, Repr, Inhabited

namespace Request

def withParams (r : Request) (params : List Json) : Request := { r with params }

def withParam (r : Request) (param : Json) : Request := { r with params := r.params ++ [param] }

end Request

structure ServerFault where
  code : Int
  message : String
  deriving DecidableEq, Repr, Inhabited

structure Response where
  id : String
  result : Option Json := none
  fault : Option ServerFault := none
  deriving DecidableEq, Repr, Inhabited

inductive Payload where
  | result (v : Json)
  | fault (f : ServerFault)
  deriving DecidableEq, Repr, Inhabited

namespace Response

def isFault (r : Response) : Bool := r.fault.isSome

def payload (r : Response) : Payload :=
  match r.fault with
  | some f => .fault f
  | none => .result (r.result.getD .null)

end Response
end CallWire
