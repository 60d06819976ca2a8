/-!
This module contains the kinds of failure that callers tell apart.
-/

namespace CallWire

inductive FailureKind where
  | connectionTimeout
  | notConnected
  | authenticationFailed
  | noDatabaseSelected
  | recordAlreadyExists (table id : String)
  | uniqueIndexViolation (table index id : String)
  | generic (message : String)
  deriving DecidableEq, Repr, Inhabited

namespace FailureKind

def isRetryable : FailureKind → Bool
  | .connectionTimeout | .notConnected => true
  | _ => false

def message : FailureKind → String
  | .connectionTimeout => "connection timed out"
  | .notConnected => "not connected"
  | .authenticationFailed => "authentication failed"
  | .noDatabaseSelected => "no namespace or database selected"
  | .recordAlreadyExists table id => "record `" ++ table ++ ":" ++ id ++ "` already exists"
  | .uniqueIndexViolation table index id =>
    "index `" ++ index ++ "` already contains record `" ++ table ++ ":" ++ id ++ "`"
  | .generic message => message

end FailureKind
end CallWire
