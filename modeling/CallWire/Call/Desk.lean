import CallWire.Call.Table
/-!
This module contains a desk: a table of calls, the records that were taken out of it and that nobody
has disposed of yet, and the handles of all calls.
-/

namespace CallWire

structure CallDesk where
  table : PendingTable := {}
  hand : List (Option CallRecord) := []
  ledger : Ledger := {}
  now : Duration := .zero
  deriving Inhabited

inductive Handling where
  | dispose (disposal : Disposal)
  | hold
  deriving Inhabited

namespace CallDesk

def newCall (d : CallDesk) (id method : String) (decoder : ResultDecoder) :
    CallRecord × CallDesk :=
  let (call, ledger) := d.ledger.issue (some id)
  ({ call, id, method, issuedAt := d.now, decoder }, { d with ledger })

def handle (d : CallDesk) (handling : Handling) (r : CallRecord) : CallDesk :=
  match handling with
  | .dispose disposal => { d with ledger := r.dispose disposal d.ledger }
  | .hold => { d with hand := d.hand ++ [some r] }

def handleAll (d : CallDesk) (handling : Handling) (rs : List CallRecord) : CallDesk :=
  rs.foldl (fun d r => d.handle handling r) d

/--
A record is put into the table. If it is refused, it is handled as `refused` says, or else failed
with the error of the refusal.
-/
def enter (d : CallDesk) (r : CallRecord) (refused : Option Handling) :
    Option ClientError × CallDesk :=
  match d.table.register r with
  | .ok table => (none, { d with table })
  | .error refusal =>
    let error := refusal.error r
    (some error, d.handle (refused.getD (.dispose (.fail error))) r)

def register (d : CallDesk) (id method : String) (decoder : ResultDecoder)
    (refused : Option Handling) : Option ClientError × CallDesk :=
  let (r, d) := d.newCall id method decoder
  d.enter r refused

def record (d : CallDesk) (id method : String) (decoder : ResultDecoder) (handling : Handling) :
    CallRecord × CallDesk :=
  let (r, d) := d.newCall id method decoder
  (r, d.handle handling r)

def resolve (d : CallDesk) (id : String) (handling : Handling) : Option CallRecord × CallDesk :=
  match d.table.resolve id with
  | none => (none, d)
  | some (r, table) => (some r, { d with table }.handle handling r)

def takeOut (d : CallDesk) (taken : List CallRecord × PendingTable) (handling : Handling) :
    List CallRecord × CallDesk :=
  (taken.1, { d with table := taken.2 }.handleAll handling taken.1)

def drain (d : CallDesk) (handling : Handling) : List CallRecord × CallDesk :=
  d.takeOut d.table.drain handling

def close (d : CallDesk) (handling : Handling) : List CallRecord × CallDesk :=
  d.takeOut d.table.close handling

def expire (d : CallDesk) (timeout : Duration) (handling : Handling) :
    List CallRecord × CallDesk :=
  d.takeOut (d.table.takeExpired d.now timeout) handling

def held? (d : CallDesk) (index : Nat) : Option CallRecord := (d.hand[index]?).join

def pickUp (d : CallDesk) (index : Nat) : Option (CallRecord × CallDesk) :=
  (d.held? index).map (fun r => (r, { d with hand := d.hand.set index none }))

def handleHeld (d : CallDesk) (index : Nat) (handling : Handling) :
    Option CallRecord × CallDesk :=
  match d.pickUp index with
  | none => (none, d)
  | some (r, d) => (some r, d.handle handling r)

def reregister (d : CallDesk) (index : Nat) (refused : Option Handling := none) :
    Option (Option ClientError) × CallDesk :=
  match d.pickUp index with
  | none => (none, d)
  | some (r, d) =>
    let (refusal, d) := d.enter r refused
    (some refusal, d)

def forget (d : CallDesk) (call : Nat) : Bool × CallDesk :=
  (d.ledger.isWatched call, { d with ledger := d.ledger.forget call })

def renew (d : CallDesk) : CallDesk :=
  { d with table := {} }.handleAll (.dispose .drop) d.table.records

def collect (d : CallDesk) : List (Nat × Handle) × CallDesk :=
  let (ready, ledger) := d.ledger.collect
  (ready, { d with ledger })

end CallDesk
end CallWire
