import CallWire.Client.Basic
import CallWire.Connection.Message
/-!
This module contains what a session does with the events of its socket: a response completes the
call with its id, and the end of the socket fails all calls that wait.
-/

namespace CallWire

def Response.disposal (r : Response) : Disposal :=
  match r.payload with
  | .result v => .fulfill v
  | .fault f => .fail (.ofServer f.code f.message)

namespace Client

def frameDecoder (c : Client) : FrameDecoder := { maxFrameSize := c.settings.maxFrameSize }

/--
The record of the call that a frame of a session's socket answers is taken out of the table. A frame
that is no response is dropped, and so is one that answers no call.
-/
def takeAnswered (n : Nat) (frame : String) (c : Client) :
    Option (Disposal × CallRecord) × Client :=
  let c := c.note (.incoming frame)
  match c.frameDecoder.decodeResponse frame with
  | .error error => (none, c.warn (.malformed n error))
  | .ok a =>
    match (c.table n).resolve a.id with
    | none => (none, c.warn (.unknownCall n a.id))
    | some (r, t) => (some (a.disposal, r), c.setTable n t)

def onFrame (n : Nat) (frame : String) (c : Client) : Client :=
  match c.takeAnswered n frame with
  | (none, c) => c
  | (some (d, r), c) => c.dispose d r

def onEnd (n : Nat) (c : Client) : Client :=
  match c.session? n with
  | none => c
  | some s =>
    let c := (c.modifySession n (fun s => { s with listening := false })).closeTable n
    c.setTransport (c.transport.endGeneration s.generation)

/-- An event of a session's socket. After the end of the socket none is heeded. -/
def onEvent (n : Nat) (e : Event) (c : Client) : Client :=
  if c.isListening n then
    match e with
    | .frame frame => c.onFrame n frame
    | .closed code reason => (c.tell (.closedByPeer n code reason)).onEnd n
    | .failed => (c.warn (.failed n)).onEnd n
  else c

def onHangUp (n : Nat) (c : Client) : Client := if c.isListening n then c.onEnd n else c

def onArrival (n : Nat) (a : Arrival) (c : Client) : Client :=
  let c := if a.isUnreadable then c.warn .unreadable else c
  match a.event? with
  | none => c
  | some e => c.onEvent n e

def receive (a : Arrival) (c : Client) : Client :=
  match c.transport.openLink?, c.slot with
  | some _, some n => c.onArrival n a
  | _, _ => c

def takeExpired (n : Nat) (timeout : Duration) (c : Client) : List CallRecord × Client :=
  if (c.table n).closed then ([], c)
  else
    let (expired, t) := (c.table n).takeExpired c.now timeout
    let c := expired.foldl (fun c r => c.tell (.callTimedOut n r.id r.method)) c
    (expired, c.setTable n t)

def sweep (n : Nat) (c : Client) : Client :=
  match c.settings.requestTimeout with
  | none => c
  | some timeout =>
    let (expired, c) := c.takeExpired n timeout
    c.failAll (fun r => .requestTimeout r.method timeout) expired

def elapse (d : Duration) (c : Client) : Client :=
  let c := { c with now := ⟨c.now.nanos + d.nanos⟩ }
  (List.range c.sessions.length).foldl (fun c n => c.sweep n) c

def elapseRequestTimeout (c : Client) : Client :=
  match c.settings.requestTimeout with
  | none => c
  | some timeout => c.elapse timeout

end Client
end CallWire
