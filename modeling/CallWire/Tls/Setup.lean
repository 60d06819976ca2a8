import CallWire.Config.Settings
import CallWire.Tls.Certificate
import CallWire.Tls.NameConstraints
import CallWire.Tls.PrivateKey
/-!
This module contains what a client brings to a secure connection: whom it trusts and who it is. The
settings name files, and a certificate is of use only with the key that belongs to it.
-/

namespace CallWire

inductive Trust where
  | anyServer
  | webAuthorities
  | authorities (certificates : List Certificate)
  deriving DecidableEq, Repr, Inhabited

structure ServerIdentity where
  issuer : Bytes
  issuerKey : CurvePoint
  address : Bytes
  deriving DecidableEq, Repr, Inhabited

namespace ServerIdentity

def host (s : ServerIdentity) : String := ".".intercalate (s.address.map (fun b => b.toNat.repr))

def isIssuedBy (s : ServerIdentity) (authority : Certificate) : Bool :=
  authority.subject = s.issuer
    && PublicKey.point? Curve.p256 authority.publicKey = some s.issuerKey
    && authority.nameConstraints.all (fun c => NameConstraints.permit c s.address)

end ServerIdentity

def Trust.accepts (t : Trust) (s : ServerIdentity) (host : String) : Bool :=
  match t with
  | .anyServer => true
  | .webAuthorities => false
  | .authorities certificates => certificates.any s.isIssuedBy && host = s.host

structure TlsSetup where
  trust : Trust
  identified : Bool
  deriving DecidableEq, Repr, Inhabited

inductive TlsFault where
  | cannotOpenCertificates (path : Path) (fault : FileFault)
  | cannotOpenKey (path : Path) (fault : FileFault)
  | invalidCertificates (path : Path) (fault : Pem.Fault)
  | invalidKeyFile (path : Path) (fault : Pem.Fault)
  | noCertificates (path : Path)
  | noKey (path : Path)
  | invalidAuthority (fault : CertificateFault)
  | invalidIdentity (fault : CertificateFault)
  | unknownKey
  | foreignKey
  | halfIdentity
  deriving DecidableEq, Repr, Inhabited

def TlsFault.message : TlsFault → String
  | .cannotOpenCertificates path fault =>
    "cannot open cert file " ++ path.quoted ++ ": " ++ fault.message
  | .cannotOpenKey path fault =>
    "cannot open key file " ++ path.quoted ++ ": " ++ fault.message
  | .invalidCertificates path fault =>
    "invalid cert file " ++ path.quoted ++ ": " ++ fault.message
  | .invalidKeyFile path fault =>
    "invalid key file " ++ path.quoted ++ ": " ++ fault.message
  | .noCertificates path => "no certificates found in " ++ path.quoted
  | .noKey path => "no private key found in " ++ path.quoted
  | .invalidAuthority fault => "invalid CA cert: " ++ fault.message
  | .invalidIdentity fault => "invalid client cert/key: " ++ fault.message
  | .unknownKey =>
    "invalid client cert/key: unexpected error: "
      ++ "failed to parse private key as RSA, ECDSA, or EdDSA"
  | .foreignKey => "invalid client cert/key: keys may not be consistent: KeyMismatch"
  | .halfIdentity => "client certificate and key must be given together"

namespace TlsSettings

/-- The content of a file. A directory can be opened and not be read. -/
def readPem {α} (files : FileTree) (path : Path) (cannotOpen : FileFault → TlsFault)
    (invalid : Pem.Fault → TlsFault) (read : Bytes → Except Pem.Fault α) : Except TlsFault α :=
  match files.read path with
  | .error .isADirectory => .error (invalid (.file .isADirectory))
  | .error fault => .error (cannotOpen fault)
  | .ok content => (read content).mapError invalid

def loadCertificates (files : FileTree) (path : Path) : Except TlsFault (List Bytes) := do
  let items ←
    readPem files path (.cannotOpenCertificates path) (.invalidCertificates path) Pem.items
  match (items.filter (·.label = .certificate)).map (·.content) with
  | [] => .error (.noCertificates path)
  | certificates => return certificates

def loadKey (files : FileTree) (path : Path) : Except TlsFault Pem.Item := do
  let found ← readPem files path (.cannotOpenKey path) (.invalidKeyFile path)
    (Pem.find? PrivateKey.isKeyLabel)
  match found with
  | none => .error (.noKey path)
  | some item => return item

def loadTrust (t : TlsSettings) (files : FileTree) : Except TlsFault Trust :=
  match t.caCert with
  | none => .ok .webAuthorities
  | some path => do
    let certificates ← loadCertificates files path
    let authorities ← (certificates.mapM Certificate.ofTrusted).mapError .invalidAuthority
    return .authorities authorities

def checkIdentity (certificates : List Bytes) (key : Pem.Item) : Except TlsFault Unit := do
  match PrivateKey.publicKey? key with
  | none => .error .unknownKey
  | some publicKey =>
    let certificate ← (Certificate.ofDer (certificates.headD [])).mapError .invalidIdentity
    if certificate.publicKey = publicKey then return else .error .foreignKey

def loadIdentity (t : TlsSettings) (files : FileTree) : Except TlsFault Bool :=
  match t.clientCert, t.clientKey with
  | some certificate, some key => do
    let certificates ← loadCertificates files certificate
    let key ← loadKey files key
    checkIdentity certificates key
    return true
  | none, none => .ok false
  | _, _ => .error .halfIdentity

def setup (t : TlsSettings) (files : FileTree) : Except TlsFault TlsSetup :=
  if t.insecure then .ok { trust := .anyServer, identified := false }
  else do
    let trust ← t.loadTrust files
    let identified ← t.loadIdentity files
    return { trust, identified }

def warnings (t : TlsSettings) : List String :=
  if t.insecure then ["Using insecure TLS (certificate verification disabled)"] else []

end TlsSettings
end CallWire
