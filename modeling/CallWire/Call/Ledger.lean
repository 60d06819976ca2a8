import CallWire.Failure.ClientError
/-!
This module contains the handles of calls. A ledger numbers them in the order of the calls and keeps
for each what became of its call.
-/

namespace CallWire

abbrev Outcome := Except ClientError Json

instance : Inhabited Outcome := ⟨.error .notConnected⟩

structure Handle where
  id : Option String
  outcome : Option Outcome := none
  watched : Bool := true
  deriving Inhabited

namespace Handle

def isReady (h : Handle) : Bool := h.watched && h.outcome.isSome

end Handle

structure Ledger where
  handles : List Handle := []
  deriving Inhabited

namespace Ledger

def issue (l : Ledger) (id : Option String) : Nat × Ledger :=
  (l.handles.length, ⟨l.handles ++ [{ id := id }]⟩)

def handle? (l : Ledger) (call : Nat) : Option Handle := l.handles[call]?

def outcome? (l : Ledger) (call : Nat) : Option Outcome := (l.handle? call).bind Handle.outcome

def settle (l : Ledger) (call : Nat) (outcome : Outcome) : Ledger :=
  ⟨l.handles.modify call (fun h => { h with outcome := some outcome })⟩

def isWatched (l : Ledger) (call : Nat) : Bool := ((l.handle? call).map Handle.watched).getD false

def forget (l : Ledger) (call : Nat) : Ledger :=
  ⟨l.handles.modify call (fun h => { h with watched := false })⟩

def numbered (l : Ledger) : List (Nat × Handle) := (List.range l.handles.length).zip l.handles

def collect (l : Ledger) : List (Nat × Handle) × Ledger :=
  (l.numbered.filter (fun entry => entry.2.isReady),
    ⟨l.handles.map (fun h => if h.isReady then { h with watched := false } else h)⟩)

end Ledger
end CallWire
