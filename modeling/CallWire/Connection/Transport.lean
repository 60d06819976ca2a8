import CallWire.Text.Bytes
/-!
This module contains the life of a client's connection. Each attempt to open a socket starts a new
generation, and what is reported of a socket counts only within its generation.
-/

namespace CallWire

inductive ConnectionState where
  | disconnected
  | connecting
  | connected
  deriving DecidableEq, Repr, Inhabited

def ConnectionState.describe : ConnectionState → String
  | .disconnected => "Disconnected"
  | .connecting => "Connecting"
  | .connected => "Connected"

structure Link where
  generation : Nat
  peerOpen : Bool := true
  writing : Bool := true
  deriving DecidableEq, Repr, Inhabited

structure Transport where
  /-- How many attempts were made. It has no bound, as nobody makes as many as 64 bits can count. -/
  generation : Nat := 0
  link : Option Link := none
  state : ConnectionState := .disconnected
  published : List ConnectionState := []
  deriving DecidableEq, Repr, Inhabited

namespace Transport

def isConnected (t : Transport) : Bool := t.state == .connected

def setState (t : Transport) (next : ConnectionState) : Transport :=
  if t.state = next then t else { t with state := next, published := next :: t.published }

def startOpening (t : Transport) : Nat × Transport :=
  let generation := t.generation + 1
  (generation, { t with generation, link := none }.setState .connecting)

def finishOpening (t : Transport) (generation : Nat) : Bool × Transport :=
  if t.generation = generation then
    (true, { t with link := some { generation := generation } }.setState .connected)
  else (false, t)

def failOpening (t : Transport) (generation : Nat) : Transport :=
  if t.generation = generation then t.setState .disconnected else t

def close (t : Transport) : Option Link × Transport :=
  (t.link, { t with link := none }.setState .disconnected)

def abort (t : Transport) : Transport := t.close.2

def endGeneration (t : Transport) (generation : Nat) : Transport :=
  if t.generation = generation then { t with link := none }.setState .disconnected else t

/-- The writer of the socket stops. The link is kept, but takes no frame any more. -/
def stopWriting (t : Transport) : Transport :=
  { t with link := t.link.map (fun link => { link with writing := false }) }

def outlet? (t : Transport) : Option Link :=
  if t.isConnected then t.link.filter (·.writing) else none

def openLink? (t : Transport) : Option Link := t.link.filter (·.peerOpen)

def describe (t : Transport) (url : String) : String :=
  "Transport \x7b url: " ++ url ++ ", state: " ++ t.state.describe ++ ", .. \x7d"

end Transport
end CallWire
