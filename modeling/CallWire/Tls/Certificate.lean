import CallWire.Tls.Der
/-!
This module contains the parts of a certificate that trust and identity depend on: its subject, its
public key and the names that it constrains. A certificate is read to its end, and what is first
wrong with it counts.
-/

namespace CallWire

structure Certificate where
  subject : Bytes
  publicKey : Bytes
  nameConstraints : Option Bytes := none
  deriving DecidableEq, Repr, Inhabited

inductive CertificateFault where
  | badEncoding
  | version
  | algorithm
  | repeatedExtension
  | unknownExtension
  deriving DecidableEq, Repr, Inhabited

namespace CertificateFault

def label : CertificateFault → String
  | .badEncoding => "BadEncoding"
  | .version => "Other(OtherError(UnsupportedCertVersion))"
  | .algorithm => "Other(OtherError(SignatureAlgorithmMismatch))"
  | .repeatedExtension => "Other(OtherError(ExtensionValueInvalid))"
  | .unknownExtension => "Other(OtherError(UnsupportedCriticalExtension))"

def message (f : CertificateFault) : String := "invalid peer certificate: " ++ f.label

end CertificateFault

inductive CertificateOwner where
  | authority
  | holder
  deriving DecidableEq, Repr, Inhabited

inductive ExtensionKind where
  | keyUsage
  | alternativeNames
  | basicConstraints
  | nameConstraints
  | revocationLists
  | extendedKeyUsage
  deriving DecidableEq, Repr, Inhabited

namespace ExtensionKind

def ofId? : Bytes → Option ExtensionKind
  | [0x55, 0x1D, last] =>
    match last with
    | 15 => some .keyUsage
    | 17 => some .alternativeNames
    | 19 => some .basicConstraints
    | 30 => some .nameConstraints
    | 31 => some .revocationLists
    | 37 => some .extendedKeyUsage
    | _ => none
  | _ => none

end ExtensionKind

namespace Certificate

def lengthLimit : Nat := 2 ^ 16 - 1

def badUnless {α} : Option α → Except CertificateFault α
  | some a => .ok a
  | none => .error .badEncoding

def readVersion (b : Bytes) : Except CertificateFault Bytes :=
  match Der.expect (Der.field 0) b with
  | none => .error .version
  | some (content, rest) =>
    match Der.readNatural content with
    | none => .error .badEncoding
    | some (n, after) =>
      if 256 ≤ n then .error .badEncoding
      else if n = 2 ∧ after = [] then .ok rest
      else .error .version

def readCritical (b : Bytes) : Except CertificateFault (Bool × Bytes) :=
  if b.head? = some Der.boolean then
    match Der.expect Der.boolean b with
    | some ([0x00], rest) => .ok (false, rest)
    | some ([0xFF], rest) => .ok (true, rest)
    | _ => .error .badEncoding
  else .ok (false, b)

def noteExtension (kind : ExtensionKind) (value : Bytes) (seen : List (ExtensionKind × Bytes)) :
    Except CertificateFault (List (ExtensionKind × Bytes)) :=
  if (seen.lookup kind).isSome then .error .repeatedExtension
  else if kind = .keyUsage then .ok ((kind, value) :: seen)
  else do
    let content ← badUnless (Der.expectOnly Der.sequence value)
    return (kind, content) :: seen

def readExtension (owner : CertificateOwner) (seen : List (ExtensionKind × Bytes)) (b : Bytes) :
    Except CertificateFault (List (ExtensionKind × Bytes)) := do
  let (id, b) ← badUnless (Der.expect Der.objectId b)
  let (critical, b) ← readCritical b
  let (value, b) ← badUnless (Der.expect Der.octetString b)
  let seen ← match ExtensionKind.ofId? id with
    | some kind => noteExtension kind value seen
    | none => if critical ∧ owner = .holder then .error .unknownExtension else .ok seen
  if b.isEmpty then return seen else .error .badEncoding

def readExtensions (owner : CertificateOwner) :
    (fuel : Nat) → List (ExtensionKind × Bytes) → Bytes →
      Except CertificateFault (List (ExtensionKind × Bytes))
  | 0, seen, _ => .ok seen
  | fuel + 1, seen, b =>
    if b.isEmpty then .ok seen
    else do
      let (extension, rest) ← badUnless (Der.expect Der.sequence b)
      readExtensions owner fuel (← readExtension owner seen extension) rest

def readEnd (owner : CertificateOwner) (b : Bytes) :
    Except CertificateFault (List (ExtensionKind × Bytes)) := do
  if b.isEmpty then return []
  let (tagged, b) ← badUnless (Der.expect (Der.field 3) b)
  let (extensions, tagged) ← badUnless (Der.expect Der.sequence tagged)
  let seen ← readExtensions owner extensions.length [] extensions
  if tagged.isEmpty ∧ b.isEmpty then return seen else .error .badEncoding

/--
The parts of a certificate from its serial number on, and what follows them. The algorithm of the
signature must be the given one, if one is given.
-/
def readBody (algorithm : Option Bytes) (b : Bytes) :
    Except CertificateFault (Certificate × Bytes) := do
  let (_, b) ← badUnless (Der.expect Der.integer b)
  let (own, b) ← badUnless (Der.expect Der.sequence b)
  if algorithm.any (· ≠ own) then .error .algorithm
  let (_, b) ← badUnless (Der.expect Der.sequence b)
  let (_, b) ← badUnless (Der.expect Der.sequence b)
  let (subject, b) ← badUnless (Der.expect Der.sequence b)
  let (publicKey, b) ← badUnless (Der.expect Der.sequence b)
  return ({ subject, publicKey }, b)

def readSigned (b : Bytes) : Except CertificateFault (Bytes × Bytes) := do
  let signed ← badUnless (Der.expectOnly Der.sequence b)
  let (body, rest) ← badUnless (Der.expect Der.sequence signed)
  let (algorithm, rest) ← badUnless (Der.expect Der.sequence rest)
  let (_, rest) ← badUnless (Der.readBits rest)
  if rest.isEmpty ∧ signed.length < lengthLimit then return (body, algorithm)
  else .error .badEncoding

def read (owner : CertificateOwner) (b : Bytes) : Except CertificateFault Certificate := do
  let (body, algorithm) ← readSigned b
  let body ← readVersion body
  let (certificate, rest) ← readBody (some algorithm) body
  let seen ← readEnd owner rest
  return { certificate with nameConstraints := seen.lookup .nameConstraints }

/--
A certificate of the first version, which names no version and has no extensions. The algorithm of
its signature is of no concern.
-/
def readFirstVersion (b : Bytes) : Except CertificateFault Certificate := do
  let (body, _) ← readSigned b
  let (certificate, rest) ← readBody none body
  if rest.isEmpty then return certificate else .error .badEncoding

def ofDer (b : Bytes) : Except CertificateFault Certificate := read .holder b

def ofTrusted (b : Bytes) : Except CertificateFault Certificate :=
  match read .authority b with
  | .error .version => (readFirstVersion b).mapError (fun _ => .badEncoding)
  | result => result

def commonName (name : String) : Bytes :=
  let id := Der.write Der.objectId [0x55, 0x04, 0x03]
  Der.write 0x31 (Der.write Der.sequence (id ++ Der.write 0x0C (.ofText name)))

end Certificate
end CallWire
