import CallWire.Connection.Message
import CallWire.Connection.Network
/-!
This module contains lines: a connection with nobody who acts on what its reader reports.
-/

namespace CallWire

structure Line where
  settings : Settings
  transport : Transport := {}
  warnings : List String := []
  deriving Inhabited

inductive SendResult where
  | delivered
  | lost
  deriving DecidableEq, Repr, Inhabited

namespace Line

def lookUp (files : FileTree) (l : Line) : Except ClientError Route × Line :=
  (l.settings.route files, { l with warnings := l.settings.routeWarnings.reverse ++ l.warnings })

def settle (route : Route) (timeout : Duration) (net : Network) (generation : Nat) (l : Line) :
    Except ClientError Nat × Line :=
  let (r, transport) := l.transport.settleOpening generation (net.dial route timeout)
  (r, { l with transport })

def «open» (timeout : Duration) (net : Network) (files : FileTree) (l : Line) :
    Except ClientError Nat × Line :=
  match l.lookUp files with
  | (.error e, l) => (.error e, l)
  | (.ok route, l) =>
    let (generation, transport) := l.transport.startOpening
    { l with transport }.settle route timeout net generation

def openTwice (timeout : Duration) (net : Network) (files : FileTree) (l : Line) :
    (Except ClientError Nat × Except ClientError Nat) × Line :=
  let (first, l) := l.lookUp files
  let (second, l) := l.lookUp files
  match first, second with
  | .ok route, .ok _ =>
    let (older, transport) := l.transport.startOpening
    let (newer, transport) := transport.startOpening
    let (r, l) := { l with transport }.settle route timeout net older
    let (s, l) := l.settle route timeout net newer
    ((r, s), l)
  | _, _ => ((first.map (fun _ => 0), second.map (fun _ => 0)), l)

/-- A frame is sent. On a socket that is over, the sending fails once, and then none is taken. -/
def send (l : Line) : Except ClientError SendResult × Line :=
  match l.transport.outlet? with
  | none => (.error .notConnected, l)
  | some link =>
    if link.peerOpen then (.ok .delivered, l)
    else (.ok .lost, { l with transport := l.transport.stopWriting })

def receive (a : Arrival) (l : Line) : Option Event × Line :=
  match l.transport.openLink? with
  | none => (none, l)
  | some link =>
    let warnings := if a.isUnreadable then unreadableMessage :: l.warnings else l.warnings
    let link := some (if a.isTerminal then { link with peerOpen := false } else link)
    (a.event?, { l with warnings, transport := { l.transport with link } })

def receiveAll : List Arrival → Line → List Event × Line
  | [], l => ([], l)
  | a :: rest, l =>
    let (e, l) := l.receive a
    let (es, l) := receiveAll rest l
    (e.toList ++ es, l)

end Line
end CallWire
