import CallWire.Connection.Message
import CallWire.Connection.Transport
import CallWire.Envelope.Codec
/-!
This module contains the journal of a client: the frames that pass through it, and the warnings and
the notices that it logs.
-/

namespace CallWire

/-- What a client warns of. Sessions are given by their numbers. -/
inductive Warning where
  | insecure (message : String)
  | unreadable
  | malformed (session : Nat) (error : FrameError)
  | unknownCall (session : Nat) (id : String)
  | failed (session : Nat)
  deriving Repr, Inhabited

def Warning.message : Warning → String
  | .insecure message => message
  | .unreadable => unreadableMessage
  | .malformed _ error => "Dropping malformed frame: " ++ error.message
  | .unknownCall _ _ => "Dropping response for unknown call id"
  | .failed _ => "Connection failed"

def Warning.id? : Warning → Option String
  | .unknownCall _ id => some id
  | _ => none

inductive Notice where
  | connected (session : Nat) (url : String)
  | disconnected (session : Nat)
  | closedByPeer (session : Nat) (code : Option Nat) (reason : String)
  | callSent (session : Nat) (id method : String)
  | callTimedOut (session : Nat) (id method : String)
  | stateChanged (before after : ConnectionState)
  | opening (generation : Nat) (url : String)
  | opened (generation : Nat) (url : String)
  | absent (url : String)
  | closing
  deriving DecidableEq, Repr, Inhabited

def Notice.message : Notice → String
  | .connected _ _ => "Connected"
  | .disconnected _ => "Disconnected"
  | .closedByPeer _ _ _ => "Connection closed by peer"
  | .callSent _ _ _ => "Call sent"
  | .callTimedOut _ _ _ => "Call timed out"
  | .stateChanged _ _ => "Connection state changed"
  | .opening _ _ => "Connecting..."
  | .opened _ _ => "WebSocket open"
  | .absent _ => "Connection failed: IO error: Connection refused (os error 111)"
  | .closing => "Closing WebSocket..."

inductive JournalEntry where
  | outgoing (frame : String)
  | incoming (frame : String)
  | warning (w : Warning)
  | notice (n : Notice)
  deriving Repr, Inhabited

namespace JournalEntry

def outgoing? : JournalEntry → Option String
  | .outgoing frame => some frame
  | _ => none

def incoming? : JournalEntry → Option String
  | .incoming frame => some frame
  | _ => none

def warning? : JournalEntry → Option Warning
  | .warning w => some w
  | _ => none

end JournalEntry
end CallWire
