import CallWire.Connection.Address
import CallWire.Connection.Transport
import CallWire.Failure.ClientError
import CallWire.Tls.Setup
/-!
This module contains the way from a client to a server: what the client checks before it dials, and
how the server at the other end takes new connections.
-/

namespace CallWire

inductive Reception where
  | plain
  | secure (identity : ServerIdentity)
  | silent
  | failing
  | absent
  deriving DecidableEq, Repr, Inhabited

/-- A host's network: whether it has one, and the only server there. -/
structure Network where
  reachable : Bool := false
  address : Bytes := [127, 0, 0, 1]
  hosts : List String := ["localhost"]
  port : Nat := defaultPort
  reception : Reception := .absent
  deriving Inhabited

inductive DialResult where
  | opened
  | refused
  | timedOut
  deriving DecidableEq, Repr, Inhabited

structure Route where
  address : Option Address
  trust : Option Trust
  deriving Inhabited

namespace Settings

/-- The way to the server. What is wrong with the settings shows before the state changes. -/
def route (s : Settings) (files : FileTree) : Except ClientError Route :=
  match s.scheme? with
  | none => .error (.invalidUrl s.url)
  | some .plain => .ok { address := Address.ofUrl? s.url, trust := none }
  | some .secure =>
    match s.tls.setup files with
    | .error fault => .error (.tlsConfig fault.message)
    | .ok setup => .ok { address := Address.ofUrl? s.url, trust := some setup.trust }

def routeWarnings (s : Settings) : List String :=
  match s.scheme? with
  | some .secure => s.tls.warnings
  | _ => []

end Settings

namespace Network

def isAt (n : Network) (a : Address) : Bool :=
  n.reachable && a.port = n.port
    && (n.hosts.contains a.host || Address.numericHost? a.host = some n.address)

def isAbsent (n : Network) (r : Route) : Bool :=
  r.address.any (fun a => !n.isAt a || n.reception = .absent)

def dial (n : Network) (r : Route) (timeout : Duration) : DialResult :=
  match r.address with
  | none => .refused
  | some a =>
    if !n.isAt a then .refused
    else if timeout.nanos = 0 then .timedOut
    else
      match n.reception, r.trust with
      | .silent, _ => .timedOut
      | .plain, none => if a.isAskable then .opened else .refused
      | .secure identity, some trust =>
        if a.isAskable ∧ a.hasServerName ∧ trust.accepts identity a.host then .opened else .refused
      | _, _ => .refused

def dialTime (timeout : Duration) : DialResult → Duration
  | .timedOut => timeout
  | _ => .zero

end Network

namespace Transport

def settleOpening (t : Transport) (generation : Nat) (result : DialResult) :
    Except ClientError Nat × Transport :=
  match result with
  | .opened =>
    match t.finishOpening generation with
    | (true, t) => (.ok generation, t)
    | (false, t) => (.error .notConnected, t)
  | _ => (.error .connectionTimeout, t.failOpening generation)

end Transport
end CallWire
