import CallWire.Call.Decoder
import CallWire.Duration
import CallWire.Envelope.Codec
import CallWire.Failure.Classify
/-!
This module contains the errors that a client reports.
-/

namespace CallWire

inductive ClientError where
  | connectionTimeout
  | notConnected
  | server (code : Int) (message : String) (kind : FailureKind)
  | decode (method : String) (source : DecodeError)
  | requestTimeout (method : String) (timeout : Duration)
  | duplicateCallId (id : String)
  | invalidUrl (url : String)
  | tlsConfig (reason : String)
  | file (reason : String)
  | frame (error : FrameError)
  | json (error : SyntaxError)
  deriving DecidableEq, Repr, Inhabited

namespace ClientError

def ofServer (code : Int) (message : String) : ClientError :=
  .server code message (FailureKind.classify message)

def ofKind : FailureKind → ClientError
  | .connectionTimeout => .connectionTimeout
  | .notConnected => .notConnected
  | kind => .server 0 kind.message kind

def kind? : ClientError → Option FailureKind
  | .connectionTimeout => some .connectionTimeout
  | .notConnected => some .notConnected
  | .server _ _ kind => some kind
  | _ => none

def isRetryable : ClientError → Bool
  | .connectionTimeout | .notConnected | .requestTimeout .. | .file _ => true
  | _ => false

def message : ClientError → String
  | .connectionTimeout => "connection timed out"
  | .notConnected => "not connected"
  | .server code _ kind =>
    "server error " ++ String.ofList (Json.writeInt code) ++ ": " ++ kind.message
  | .decode method source => "failed to decode result of `" ++ method ++ "`: " ++ source.message
  | .requestTimeout method timeout => "call `" ++ method ++ "` timed out after " ++ timeout.text
  | .duplicateCallId id => "call id " ++ id ++ " is already pending"
  | .invalidUrl url => "invalid URL: " ++ url
  | .tlsConfig reason => "TLS configuration error: " ++ reason
  | .file reason => "I/O error: " ++ reason
  | .frame error => "protocol error: " ++ error.message
  | .json error => "JSON error: " ++ error.message

def describe : ClientError → String
  | .connectionTimeout => "ConnectionTimeout"
  | .notConnected => "NotConnected"
  | .invalidUrl url => "InvalidUrl(" ++ Text.quoted url ++ ")"
  | .tlsConfig reason => "TlsConfig(" ++ Text.quoted reason ++ ")"
  | e => e.message

end ClientError
end CallWire
