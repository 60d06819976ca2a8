import CallWire.Files
import CallWire.Text.Quoted
import CallWire.Tls.Base64
/-!
This module contains the sections of PEM files: bytes in base64 between a line that begins and a
line that ends with the same label.
-/

namespace CallWire

namespace Pem

inductive Label where
  | certificate
  | rsaPrivateKey
  | privateKey
  | ecPrivateKey
  | publicKey
  | revocations
  | certificateRequest
  | hiddenNames
  deriving DecidableEq, Repr, Inhabited

def Label.text : Label → String
  | .certificate => "CERTIFICATE"
  | .rsaPrivateKey => "RSA PRIVATE KEY"
  | .privateKey => "PRIVATE KEY"
  | .ecPrivateKey => "EC PRIVATE KEY"
  | .publicKey => "PUBLIC KEY"
  | .revocations => "X509 CRL"
  | .certificateRequest => "CERTIFICATE REQUEST"
  | .hiddenNames => "ECHCONFIG"

def labels : List Label :=
  [.certificate, .rsaPrivateKey, .privateKey, .ecPrivateKey, .publicKey, .revocations,
    .certificateRequest, .hiddenNames]

def label? (text : Bytes) : Option Label := labels.find? (fun l => Bytes.ofText l.text = text)

structure Item where
  label : Label
  content : Bytes
  deriving DecidableEq, Repr, Inhabited

inductive Fault where
  | missingEnd (label : Bytes)
  | illegalStart (line : Bytes)
  | base64 (fault : Base64.Fault)
  | file (fault : FileFault)
  deriving DecidableEq, Repr, Inhabited

def Fault.message : Fault → String
  | .missingEnd label => "section end " ++ Text.quoted label.lossyText ++ " missing"
  | .illegalStart line => "illegal section start: " ++ Text.quoted line.lossyText
  | .base64 fault => fault.message
  | .file fault => fault.message

def isLineEnd (b : UInt8) : Bool := b = 10 || b = 13

def lines : Bytes → List Bytes
  | [] => []
  | b :: rest =>
    if isLineEnd b then [b] :: lines rest
    else
      match lines rest with
      | [] => [[b]]
      | line :: more => (b :: line) :: more

def beginMark : Bytes := .ofText "-----BEGIN "

def endMark : Bytes := .ofText "-----END "

def dashes : Bytes := .ofText "-----"

/--
The label in a line that begins a section. Exactly five hyphens follow it, with blanks anywhere
among and after them.
-/
def startLabel (line : Bytes) : Except Fault Bytes :=
  let closing := line.reverse.takeWhile (fun b => b = 45 || b = 32 || isLineEnd b)
  let afterLabel := (closing.reverse.dropWhile (· ≠ 45)).length
  if closing.count 45 ≠ 5 then .error (.illegalStart line)
  else
    let stop := line.length - afterLabel
    if stop < beginMark.length then .error (.illegalStart line)
    else .ok ((line.take stop).drop beginMark.length)

def isEnd (label line : Bytes) : Bool := (endMark ++ label ++ dashes).isPrefixOf line

/--
The first section with a meaning and the lines after it. `section?` is the label of the section that
is open, and `body` what was read of it.
-/
def readItem (section? : Option Bytes) (body : Bytes) :
    List Bytes → Except Fault (Option (Item × List Bytes))
  | [] =>
    match section? with
    | some label => .error (.missingEnd label)
    | none => .ok none
  | line :: rest =>
    if beginMark.isPrefixOf line then
      match startLabel line with
      | .error f => .error f
      | .ok label => readItem (some label) body rest
    else
      match section? with
      | none => readItem none body rest
      | some label =>
        if isEnd label line then
          match label? label with
          | none => readItem none [] rest
          | some l =>
            match Base64.decode body with
            | .error f => .error (.base64 f)
            | .ok content => .ok (some (⟨l, content⟩, rest))
        else readItem section? (body ++ line) rest

def readItems : (fuel : Nat) → List Bytes → Except Fault (List Item)
  | 0, _ => .ok []
  | fuel + 1, s =>
    match readItem none [] s with
    | .error f => .error f
    | .ok none => .ok []
    | .ok (some (item, rest)) => (readItems fuel rest).map (item :: ·)

def items (content : Bytes) : Except Fault (List Item) :=
  let s := lines content
  readItems s.length s

def findItem (p : Label → Bool) : (fuel : Nat) → List Bytes → Except Fault (Option Item)
  | 0, _ => .ok none
  | fuel + 1, s =>
    match readItem none [] s with
    | .error f => .error f
    | .ok none => .ok none
    | .ok (some (item, rest)) => if p item.label then .ok (some item) else findItem p fuel rest

def find? (p : Label → Bool) (content : Bytes) : Except Fault (Option Item) :=
  let s := lines content
  findItem p s.length s

end Pem
end CallWire
