import CallWire.Client.Basic
/-!
This module contains the issuing of calls. A call gets an id, then its record enters the table of
the session, and only then its frame is sent, so that a fast response finds the record.
-/

namespace CallWire

namespace Client

def drawId (n : Nat) (c : Client) : String × Client :=
  match c.session? n with
  | none => ("", c)
  | some s =>
    let (id, ids) := s.ids.draw
    (id, c.modifySession n (fun s => { s with ids }))

/--
A call with an id enters the table of a session. The number of its handle tells it apart; whether it
was taken is told as well, and one that was not has failed.
-/
def registerCall (n : Nat) (id method : String) (decoder : ResultDecoder) (c : Client) :
    (Nat × Bool) × Client :=
  let (call, ledger) := c.ledger.issue (some id)
  let c := { c with ledger }
  let r : CallRecord := { call, id, method, issuedAt := c.now, decoder }
  match (c.table n).register r with
  | .ok t => ((call, true), c.setTable n t)
  | .error refusal => ((call, false), c.dispose (.fail (refusal.error r)) r)

def retractCall (n : Nat) (id : String) (error : ClientError) (c : Client) : Client :=
  match (c.table n).resolve id with
  | none => c
  | some (r, t) => (c.setTable n t).dispose (.fail error) r

def putFrame (request : Request) (c : Client) : Bool × Client :=
  let frame := request.encode
  let c := c.note (.outgoing frame)
  match c.transport.outlet? with
  | some link => (true, { c with sent := (link.generation, frame) :: c.sent })
  | none => (false, c)

def sendRequest (n : Nat) (request : Request) (c : Client) : Client :=
  let (taken, c) := c.putFrame request
  if taken then c.tell (.callSent n request.id request.method)
  else c.retractCall n request.id .notConnected

def refuseCall (c : Client) : Nat × Client :=
  let (call, ledger) := c.ledger.issue none
  (call, { c with ledger := ledger.settle call (.error .notConnected) })

def issueCall (method : String) (params : List Json) (decoder : ResultDecoder) (c : Client) :
    Nat × Client :=
  match c.currentSession? with
  | none => c.refuseCall
  | some n =>
    let (id, c) := c.drawId n
    let ((call, taken), c) := c.registerCall n id method decoder
    if taken then (call, c.sendRequest n { id, method, params }) else (call, c)

def ping (c : Client) : Nat × Client := c.issueCall "ping" [] Decoding.nothing.decoder

def forget (call : Nat) (c : Client) : Client := { c with ledger := c.ledger.forget call }

end Client
end CallWire
