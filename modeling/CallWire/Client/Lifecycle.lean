import CallWire.Client.Basic
/-!
This module contains the connecting and disconnecting of clients. A connection that was made starts
a session, and the session ends with the connection.
-/

namespace CallWire

inductive ConnectFailure where
  | client (error : ClientError)
  | clockOverflow
  deriving DecidableEq, Repr, Inhabited

/-- What a clock can show ends before this number of seconds. -/
def clockLimit : Nat := 2 ^ 63

def clockOverflowMessage : String := "overflow when adding duration to instant"

namespace Client

def endSession (c : Client) : Client :=
  match c.slot with
  | none => c
  | some n => { c.closeTable n with slot := none }

def addSession (generation : Nat) (c : Client) : Nat × Client :=
  (c.sessions.length, { c with sessions := c.sessions ++ [{ generation }] })

def publishSession (n : Nat) (c : Client) : Client :=
  { c with slot := some n }.tell (.connected n c.settings.url)

def startSession (generation : Nat) (c : Client) : Client :=
  let (n, c) := c.addSession generation
  c.publishSession n

def dialServer (generation : Nat) (route : Route) (timeout : Duration) (net : Network)
    (c : Client) : Except ClientError Nat × Client :=
  let result := net.dial route timeout
  let c := if net.isAbsent route then c.tell (.absent c.settings.url) else c
  let (opened, transport) := c.transport.settleOpening generation result
  let c := c.setTransport transport
  let c := match opened with
    | .ok _ => c.tell (.opened generation c.settings.url)
    | .error _ => c
  (opened, { c with now := ⟨c.now.nanos + (Network.dialTime timeout result).nanos⟩ })

def openSocket (timeout : Duration) (net : Network) (files : FileTree) (c : Client) :
    Except ClientError Nat × Client :=
  let c := c.settings.routeWarnings.foldl (fun c message => c.warn (.insecure message)) c
  match c.settings.route files with
  | .error e => (.error e, c)
  | .ok route =>
    let (generation, transport) := c.transport.startOpening
    let c := (c.setTransport transport).tell (.opening generation c.settings.url)
    c.dialServer generation route timeout net

def openSession (timeout : Duration) (net : Network) (files : FileTree) (c : Client) :
    Except ConnectFailure Unit × Client :=
  match c.openSocket timeout net files with
  | (.error e, c) => (.error (.client e), c)
  | (.ok generation, c) => (.ok (), c.startSession generation)

def connectBy (deadline : Duration) (net : Network) (files : FileTree) (c : Client) :
    Except ConnectFailure Unit × Client :=
  if c.isConnected then (.ok (), c)
  else c.endSession.openSession ⟨deadline.nanos - c.now.nanos⟩ net files

def deadline? (timeout : Duration) (c : Client) : Option Duration :=
  let deadline : Duration := ⟨c.now.nanos + timeout.nanos⟩
  if deadline.secs < clockLimit then some deadline else none

def connect (timeout : Duration) (net : Network) (files : FileTree) (c : Client) :
    Except ConnectFailure Unit × Client :=
  match c.deadline? timeout with
  | none => (.error .clockOverflow, c)
  | some deadline => c.connectBy deadline net files

def connectDefault (net : Network) (files : FileTree) (c : Client) :
    Except ConnectFailure Unit × Client :=
  c.connect c.settings.connectTimeout net files

/--
The client connects several times at once. Each attempt waits for those before it, and fails if its
time is over when an attempt before it took some.
-/
def connectAll (start : Duration) (net : Network) (files : FileTree) :
    (waited : Bool) → List Duration → Client → List (Except ConnectFailure Unit) × Client
  | _, [], c => ([], c)
  | waited, timeout :: more, c =>
    let deadline : Duration := ⟨start.nanos + timeout.nanos⟩
    if waited && deadline.nanos ≤ c.now.nanos then
      let (results, c) := connectAll start net files waited more c
      (.error (.client .connectionTimeout) :: results, c)
    else
      let generation := c.transport.generation
      let (result, c) := c.connectBy deadline net files
      let waited := waited || c.transport.generation ≠ generation
      let (results, c) := connectAll start net files waited more c
      (result :: results, c)

def disconnect (c : Client) : Client :=
  let (link, transport) := c.transport.close
  let closed := c.setTransport transport
  let ended := (if link.isSome then closed.tell .closing else closed).endSession
  match c.slot with
  | none => ended
  | some n => ended.tell (.disconnected n)

def start (settings : Settings) (net : Network) (files : FileTree) :
    Except ConnectFailure Unit × Client :=
  let c : Client := { settings := settings }
  if settings.autoConnect then c.connectDefault net files else (.ok (), c)

def drop (c : Client) : Client :=
  let c := match c.slot with
    | none => c
    | some n => (c.modifySession n (fun s => { s with listening := false })).endSession
  { c with transport := c.transport.abort }

end Client
end CallWire
