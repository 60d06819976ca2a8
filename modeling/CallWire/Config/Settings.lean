import CallWire.Duration
import CallWire.Path
/-!
This module contains the settings of a client, their defaults and the rules that they obey.
-/

namespace CallWire

inductive Scheme where
  | plain
  | secure
  deriving DecidableEq, Repr, Inhabited

namespace Scheme

def text : Scheme → String
  | .plain => "ws"
  | .secure => "wss"

def beforeMark : List Char → Option (List Char)
  | [] => none
  | ':' :: '/' :: '/' :: _ => some []
  | c :: rest => (beforeMark rest).map (c :: ·)

def ofUrl? (url : String) : Option Scheme :=
  match beforeMark url.toList with
  | none => none
  | some cs =>
    let scheme := String.ofList (cs.map Char.toLower)
    if scheme = Scheme.plain.text then some .plain
    else if scheme = Scheme.secure.text then some .secure
    else none

end Scheme

structure TlsSettings where
  caCert : Option Path := none
  clientCert : Option Path := none
  clientKey : Option Path := none
  insecure : Bool := false
  deriving DecidableEq, Repr, Inhabited

def TlsSettings.paths (t : TlsSettings) : List Path :=
  [t.caCert, t.clientCert, t.clientKey].filterMap id

def minFrameSizeLimit : Nat := 1024

def maxFrameSizeLimit : Nat := 64 * 1024 * 1024

def clampFrameSize (n : Nat) : Nat := max minFrameSizeLimit (min n maxFrameSizeLimit)

def defaultPort : Nat := 8000

def rpcPath : String := "/rpc"

def endpoint (scheme : Scheme) (host : String) (port : Nat) : String :=
  scheme.text ++ "://" ++ host ++ ":" ++ port.repr ++ rpcPath

structure Settings where
  url : String := endpoint .plain "localhost" defaultPort
  connectTimeout : Duration := .ofSecs 15
  /-- Calls wait without end where there is none. -/
  requestTimeout : Option Duration := none
  autoConnect : Bool := false
  maxFrameSize : Nat := 16 * 1024 * 1024
  tls : TlsSettings := {}
  deriving DecidableEq, Repr, Inhabited

inductive SettingsFault where
  | scheme (url : String)
  | halfIdentity
  deriving DecidableEq, Repr, Inhabited

def SettingsFault.message : SettingsFault → String
  | .scheme url => "url must use ws:// or wss://, got '" ++ url ++ "'"
  | .halfIdentity => "client_cert_path and client_key_path must be set together"

def TlsSettings.validate (t : TlsSettings) : Except SettingsFault Unit :=
  if t.clientCert.isSome = t.clientKey.isSome then .ok () else .error .halfIdentity

namespace Settings

def scheme? (s : Settings) : Option Scheme := Scheme.ofUrl? s.url

def validate (s : Settings) : Except SettingsFault Unit :=
  match s.scheme? with
  | none => .error (.scheme s.url)
  | some _ => s.tls.validate

def withMaxFrameSize (s : Settings) (n : Nat) : Settings :=
  { s with maxFrameSize := clampFrameSize n }

end Settings
end CallWire
