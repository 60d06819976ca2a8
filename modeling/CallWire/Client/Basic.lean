import CallWire.Call.Id
import CallWire.Call.Table
import CallWire.Client.Journal
import CallWire.Connection.Network
/-!
This module contains clients: a connection, the sessions that ran over it, and the handles of all
calls. A session belongs to one generation of the connection and has a table of its own.
-/

namespace CallWire

structure Session where
  generation : Nat
  ids : CallIds := {}
  table : PendingTable := {}
  listening : Bool := true
  deriving Inhabited

structure Client where
  settings : Settings
  transport : Transport := {}
  sessions : List Session := []
  slot : Option Nat := none
  ledger : Ledger := {}
  /-- The time since some moment at least a second before the client was there. -/
  now : Duration := .ofSecs 1
  /-- The frames put on sockets, each with the generation of its socket, the newest first. -/
  sent : List (Nat × String) := []
  journal : List JournalEntry := []
  deriving Inhabited

namespace Client

def note (c : Client) (e : JournalEntry) : Client := { c with journal := e :: c.journal }

def warn (c : Client) (w : Warning) : Client := c.note (.warning w)

def tell (c : Client) (n : Notice) : Client := c.note (.notice n)

def setTransport (t : Transport) (c : Client) : Client :=
  let c' := { c with transport := t }
  if c.transport.state = t.state then c' else c'.tell (.stateChanged c.transport.state t.state)

def session? (c : Client) (n : Nat) : Option Session := c.sessions[n]?

def isListening (c : Client) (n : Nat) : Bool := ((c.session? n).map Session.listening).getD false

def modifySession (c : Client) (n : Nat) (f : Session → Session) : Client :=
  { c with sessions := c.sessions.modify n f }

def table (c : Client) (n : Nat) : PendingTable :=
  ((c.session? n).map Session.table).getD { closed := true }

def setTable (c : Client) (n : Nat) (t : PendingTable) : Client :=
  c.modifySession n (fun s => { s with table := t })

def currentSession? (c : Client) : Option Nat := if c.transport.isConnected then c.slot else none

def isConnected (c : Client) : Bool := c.transport.isConnected && c.slot.isSome

def pendingCount (c : Client) : Nat := (c.slot.map (fun n => (c.table n).size)).getD 0

def dispose (c : Client) (d : Disposal) (r : CallRecord) : Client :=
  { c with ledger := r.dispose d c.ledger }

def failAll (c : Client) (error : CallRecord → ClientError) (rs : List CallRecord) : Client :=
  rs.foldl (fun c r => c.dispose (.fail (error r)) r) c

def closeTable (n : Nat) (c : Client) : Client :=
  let (drained, t) := (c.table n).close
  (c.setTable n t).failAll (fun _ => .notConnected) drained

def describe (c : Client) (url session : String) : String :=
  let shown := if c.currentSession?.isSome then "Some(" ++ session ++ ")" else "None"
  "RpcClient \x7b url: " ++ url ++ ", state: " ++ c.transport.state.describe ++ ", session: "
    ++ shown ++ ", pending: " ++ c.pendingCount.repr ++ " \x7d"

end Client
end CallWire
