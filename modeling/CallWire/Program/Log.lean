import CallWire.Client.Journal
import CallWire.Config.Settings
import CallWire.Log.Filter
/-!
This module contains the log of the program: the lines that a client's journal makes, as far as they
are shown.
-/

namespace CallWire

namespace LogLine

def wire (direction frame : String) : LogLine where
  level := .trace
  target := "surrealrpc::wire"
  message := frame
  fields := [("direction", Text.quoted direction)]

def connecting (s : Settings) : LogLine where
  level := .debug
  target := "surrealrpc"
  message := "Connecting"
  fields := [("url", s.url), ("timeout", s.connectTimeout.text)]

def ofWarning (w : Warning) : LogLine :=
  let line : LogLine :=
    { level := .warn, target := "surrealrpc_client::dispatcher", message := w.message }
  match w with
  | .insecure _ => { line with target := "surrealrpc_client::tls" }
  | .unreadable => { line with target := "surrealrpc_client::transport" }
  | .malformed _ _ | .failed _ => { line with ofSession := true }
  | .unknownCall _ id => { line with ofSession := true, fields := [("id", id)] }

def showCode : Option Nat → String
  | some code => "Some(" ++ code.repr ++ ")"
  | none => "None"

def ofNotice (n : Notice) : LogLine :=
  let line : LogLine :=
    { level := .info, target := "surrealrpc_client::client", message := n.message
      ofSession := true }
  let ofTransport (fields : List (String × String)) : LogLine :=
    { level := .debug, target := "surrealrpc_client::transport", message := n.message, fields }
  match n with
  | .connected _ url => { line with fields := [("url", url)] }
  | .disconnected _ => line
  | .closedByPeer _ code reason =>
    { line with
      target := "surrealrpc_client::dispatcher"
      fields := [("code", showCode code), ("reason", reason)] }
  | .callSent _ id method =>
    { line with level := .debug, fields := [("id", id), ("method", Text.quoted method)] }
  | .callTimedOut _ id method =>
    { line with
      level := .debug, fields := [("id", Text.quoted id), ("method", Text.quoted method)] }
  | .stateChanged before after =>
    ofTransport [("from", before.describe), ("to", after.describe)]
  | .opening generation url | .opened generation url =>
    ofTransport [("url", url), ("generation", generation.repr)]
  | .absent url => ofTransport [("url", url)]
  | .closing => ofTransport []

def ofEntry? (traced : Bool) : JournalEntry → Option LogLine
  | .outgoing frame => if traced then some (wire "out" frame) else none
  | .incoming frame => if traced then some (wire "in" frame) else none
  | .warning w => some (ofWarning w)
  | .notice n => some (ofNotice n)

end LogLine
end CallWire
