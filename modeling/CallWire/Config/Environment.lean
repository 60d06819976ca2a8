import CallWire.Config.Mentions
import CallWire.Text.Bytes
/-!
This module contains the environment of a process as a source of settings. A variable whose value is
no text, or no number where a number is wanted, says nothing.
-/

namespace CallWire

structure Environment where
  bindings : List (String × Bytes) := []
  deriving Inhabited

namespace Environment

def text? (e : Environment) (name : String) : Option String :=
  (e.bindings.lookup name).bind Bytes.text?

def path? (e : Environment) (name : String) : Option Path := (e.text? name).map .ofText

def word? (s : String) : Option Nat :=
  let digits := match s.toList with
    | '+' :: rest => rest
    | cs => cs
  if digits.isEmpty || !digits.all Char.isDigit then none
  else
    let n := digits.foldl (fun n c => n * 10 + (c.toNat - '0'.toNat)) 0
    if n < 2 ^ 64 then some n else none

def isYes (s : String) : Bool := s = "1" || s.map Char.toLower = "true"

def mentions (e : Environment) : Mentions where
  url := e.text? "SURREALRPC_URL"
  connectTimeout := ((e.text? "SURREALRPC_CONNECT_TIMEOUT").bind word?).map .ofSecs
  requestTimeout :=
    ((e.text? "SURREALRPC_REQUEST_TIMEOUT_MS").bind word?).map (fun n => some (.ofMillis n))
  autoConnect := (e.text? "SURREALRPC_AUTO_CONNECT").map isYes
  maxFrameSize := ((e.text? "SURREALRPC_MAX_FRAME_SIZE").bind word?).map clampFrameSize
  caCert := (e.path? "SURREALRPC_TLS_CA_CERT").map some
  clientCert := (e.path? "SURREALRPC_TLS_CLIENT_CERT").map some
  clientKey := (e.path? "SURREALRPC_TLS_CLIENT_KEY").map some
  insecure := (e.text? "SURREALRPC_TLS_INSECURE").map isYes

def configPath? (e : Environment) : Option Path := e.path? "SURREALRPC_CONFIG"

end Environment
end CallWire
