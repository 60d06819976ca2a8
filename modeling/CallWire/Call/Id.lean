/-!
This module contains the ids of calls: within a session they count up from one, in decimal.
-/

namespace CallWire

structure CallIds where
  next : UInt64 := 1
  deriving DecidableEq, Repr, Inhabited

namespace CallIds

def base : UInt64 := 1

def name (n : UInt64) : String := n.toNat.repr

def draw (ids : CallIds) : String × CallIds := (name ids.next, ⟨ids.next + 1⟩)

def issued (ids : CallIds) : UInt64 := ids.next - base

def skip (ids : CallIds) (count : Nat) : CallIds := ⟨ids.next + count.toUInt64⟩

def drawMany (ids : CallIds) (count : Nat) : List String × CallIds :=
  ((List.range count).map (fun i => name (ids.next + i.toUInt64)), ids.skip count)

end CallIds
end CallWire
