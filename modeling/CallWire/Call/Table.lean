import CallWire.Call.Ledger
/-!
This module contains the table of the calls that wait for their responses. The table of a session
keeps one record for each id until somebody takes it out; whoever holds a record completes its call.
-/

namespace CallWire

/-- A call in flight. Whoever holds its record completes it. -/
structure CallRecord where
  call : Nat
  id : String
  method : String
  issuedAt : Duration
  decoder : ResultDecoder
  deriving Inhabited

inductive Disposal where
  | fulfill (result : Json)
  | fail (error : ClientError)
  | drop
  deriving Inhabited

namespace CallRecord

def elapsed (r : CallRecord) (now : Duration) : Duration := ⟨now.nanos - r.issuedAt.nanos⟩

def outcome (r : CallRecord) : Disposal → Outcome
  | .fulfill result => (r.decoder.decode result).mapError (.decode r.method)
  | .fail error => .error error
  | .drop => .error .notConnected

def dispose (r : CallRecord) (disposal : Disposal) (l : Ledger) : Ledger :=
  l.settle r.call (r.outcome disposal)

def describe (r : CallRecord) (issuedAt : String) : String :=
  "CallRecord \x7b id: " ++ Text.quoted r.id ++ ", method: " ++ Text.quoted r.method
    ++ ", issued_at: " ++ issuedAt ++ ", .. \x7d"

end CallRecord

inductive Refusal where
  | closed
  | duplicate
  deriving DecidableEq, Repr, Inhabited

namespace Refusal

def error (refusal : Refusal) (r : CallRecord) : ClientError :=
  match refusal with
  | .closed => .notConnected
  | .duplicate => .duplicateCallId r.id

end Refusal

structure PendingTable where
  records : List CallRecord := []
  closed : Bool := false
  deriving Inhabited

namespace PendingTable

def size (t : PendingTable) : Nat := t.records.length

def isEmpty (t : PendingTable) : Bool := t.records.isEmpty

def get? (t : PendingTable) (id : String) : Option CallRecord := t.records.find? (·.id = id)

def insertSorted (r : CallRecord) : List CallRecord → List CallRecord
  | [] => [r]
  | s :: more => if r.id < s.id then r :: s :: more else s :: insertSorted r more

def register (t : PendingTable) (r : CallRecord) : Except Refusal PendingTable :=
  if t.closed then .error .closed
  else if (t.get? r.id).isSome then .error .duplicate
  else .ok { t with records := insertSorted r t.records }

def resolve (t : PendingTable) (id : String) : Option (CallRecord × PendingTable) :=
  (t.get? id).map (fun r => (r, { t with records := t.records.filter (·.id ≠ id) }))

def drain (t : PendingTable) : List CallRecord × PendingTable :=
  (t.records, { t with records := [] })

def close (t : PendingTable) : List CallRecord × PendingTable :=
  (t.records, { records := [], closed := true })

def isExpired (now timeout : Duration) (r : CallRecord) : Bool :=
  timeout.nanos ≤ (r.elapsed now).nanos

def takeExpired (t : PendingTable) (now timeout : Duration) : List CallRecord × PendingTable :=
  let (expired, waiting) := t.records.partition (isExpired now timeout)
  (expired, { t with records := waiting })

def describe (t : PendingTable) : String :=
  "PendingCalls \x7b pending: " ++ t.size.repr ++ ", closed: "
    ++ (if t.closed then "true" else "false") ++ " \x7d"

end PendingTable
end CallWire
