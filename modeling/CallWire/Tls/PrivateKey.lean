import CallWire.Tls.CurveKey
import CallWire.Tls.Edwards
import CallWire.Tls.Pem
import CallWire.Tls.RsaKey
/-!
This module contains private keys as files hold them, as far as the public keys that belong to them:
a key in the form of its algorithm, or in a form for all algorithms, which names its own.
-/

namespace CallWire

structure NamedKey where
  id : Bytes
  parameters : Bytes
  key : Bytes
  told : Option Bytes
  deriving DecidableEq, Repr, Inhabited

namespace NamedKey

def toldTag : UInt8 := 0x81

def rsaIds : List Bytes :=
  [PublicKey.rsaId, [0x2A, 0x86, 0x48, 0x86, 0xF7, 0x0D, 0x01, 0x01, 0x07],
    [0x55, 0x08, 0x01, 0x01]]

def read (b : Bytes) : Option NamedKey := do
  let (content, _) ← Der.expect Der.sequence b
  let (version, content) ← Der.readNatural content
  let (algorithm, content) ← Der.expect Der.sequence content
  let (id, parameters) ← Der.expect Der.objectId algorithm
  let (key, content) ← Der.expect Der.octetString content
  let (_, content) := Der.optional (Der.field 0) content
  let (told, content) :=
    if version = 1 then Der.optional toldTag content else (none, content)
  if version ≤ 1 ∧ content = [] then some { id, parameters, key, told } else none

def rsa? (k : NamedKey) : Option RsaKey := do
  let (key, []) ← RsaKey.read k.key | none
  if rsaIds.contains k.id ∧ k.parameters = Der.write Der.null [] ∧ k.told = none then some key
  else none

def curve? (k : NamedKey) : Option CurveKey := do
  let curve ← CurveKey.readCurve k.parameters
  let (key, []) ← CurveKey.read curve k.key | none
  if k.id = PublicKey.curveId ∧ k.told = none then some key else none

def edwards? (k : NamedKey) : Option Bytes := do
  let seed ← Der.expectOnly Der.octetString k.key
  if k.id = PublicKey.edwardsId ∧ k.parameters = [] ∧ seed.length = 32 then
    let key := Edwards.publicKey seed
    if k.told.all (· = 0 :: key) then some key else none
  else none

def publicKey (k : NamedKey) : Option Bytes :=
  if let some key := k.rsa? then some key.publicKey
  else if let some key := k.curve? then some key.publicKey
  else k.edwards?.map PublicKey.ofEdwards

end NamedKey

namespace PrivateKey

def readCurveKey (b : Bytes) : Option CurveKey :=
  match (NamedKey.read b).bind NamedKey.curve? with
  | some key => some key
  | none => (Curve.all.findSome? (fun c => CurveKey.read c b)).map (·.1)

def isKeyLabel : Pem.Label → Bool
  | .rsaPrivateKey | .privateKey | .ecPrivateKey => true
  | _ => false

def publicKey? (item : Pem.Item) : Option Bytes :=
  match item.label with
  | .rsaPrivateKey => (RsaKey.read item.content).map (fun (key, _) => key.publicKey)
  | .ecPrivateKey => (readCurveKey item.content).map CurveKey.publicKey
  | .privateKey => (NamedKey.read item.content).bind NamedKey.publicKey
  | _ => none

end PrivateKey
end CallWire
