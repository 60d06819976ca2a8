import CallWire.Text.Bytes
/-!
This module contains what arrives on a socket, and the events that a reader makes of it: frames, and
one event at the end.
-/

namespace CallWire

inductive Arrival where
  | text (s : String)
  | binary (content : Bytes)
  | ping (payload : Bytes)
  | pong (payload : Bytes)
  | close (frame : Option (Nat × String))
  | failure
  deriving DecidableEq, Repr, Inhabited

inductive Event where
  | frame (s : String)
  | closed (code : Option Nat) (reason : String)
  | failed
  deriving DecidableEq, Repr, Inhabited

def Event.isTerminal : Event → Bool
  | .frame _ => false
  | _ => true

def isCloseCode (code : Nat) : Bool :=
  (1000 ≤ code && code ≤ 1003) || (1007 ≤ code && code ≤ 1013) || (3000 ≤ code && code ≤ 4999)

def maxControlSize : Nat := 125

def unreadableMessage : String := "read_loop: dropping binary frame that is not UTF-8"

namespace Arrival

def ofParts (binary : Bool) (parts : List Bytes) : Arrival :=
  if binary then .binary parts.flatten
  else
    match Bytes.text? parts.flatten with
    | some s => .text s
    | none => .failure

/-- What a reader reports of an arrival, if anything. The code of a close frame takes two bytes. -/
def event? : Arrival → Option Event
  | .text s => some (.frame s)
  | .binary content => content.text?.map .frame
  | .ping payload | .pong payload =>
    if maxControlSize < payload.length then some .failed else none
  | .close none => some (.closed none "")
  | .close (some (code, reason)) =>
    if maxControlSize < reason.utf8ByteSize + 2 then some .failed
    else if isCloseCode code then some (.closed code reason)
    else some (.closed (some 1002) "Protocol violation")
  | .failure => some .failed

def pong? : Arrival → Option Bytes
  | .ping payload => if maxControlSize < payload.length then none else some payload
  | _ => none

def isUnreadable : Arrival → Bool
  | .binary content => content.text?.isNone
  | _ => false

def isTerminal (a : Arrival) : Bool := (a.event?.map Event.isTerminal).getD false

end Arrival

def Event.read : List Arrival → List Event
  | [] => [.closed none "stream ended"]
  | a :: rest =>
    match a.event? with
    | none => read rest
    | some e => if e.isTerminal then [e] else e :: read rest

end CallWire
