import CallWire.Client.Call
import CallWire.Client.Dispatch
/-!
This module contains calls whose callers wait for the outcome while the server answers.
-/

namespace CallWire

abbrev Answer := (id : String) → List Arrival

namespace Client

def receiveAll (arrivals : List Arrival) (c : Client) : Client :=
  arrivals.foldl (fun c a => c.receive a) c

def callId? (call : Nat) (c : Client) : Option String :=
  (c.ledger.handle? call).bind Handle.id

/--
A call that was issued is waited for while the server answers. Where the answer leaves it open, its
time runs out. The outcome is absent where it has no time that could.
-/
def await (answer : Answer) (call : Nat) (c : Client) : Option Outcome × Client :=
  let c := match c.callId? call with
    | some id => c.receiveAll (answer id)
    | none => c
  let c := if (c.ledger.outcome? call).isSome then c else c.elapseRequestTimeout
  (c.ledger.outcome? call, c.forget call)

end Client
end CallWire
