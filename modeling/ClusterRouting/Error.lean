import ClusterRouting.Text

/-! Failures, and what each kind of failure means for routing. -/

namespace ClusterRouting

inductive Error where
  | connection (message : String)
  | authentication (message : String)
  | protocol (message : String)
  | session (message : String)
  | sessionExpired (message : String)
  | timeout (message : String)
  | configuration (message : String)
  | server (code message : String)
  | serviceUnavailable (message : String)
  | noServerAvailable (message : String)
  | io (message : String)
  | internal (message : String)
  deriving DecidableEq, Repr

namespace Error

def notALeader : String :=
  "Neo.ClientError.Cluster.NotALeader"

def readOnlyDatabase : String :=
  "Neo.ClientError.General.ForbiddenOnReadOnlyDatabase"

def code? : Error → Option String
  | .server code _ => some code
  | _ => none

/-- The address is down: nobody should be sent there until a new routing table
lists it again. A timeout is not of this class, since it tells of a full pool
and not of the server. -/
def isConnectivity : Error → Bool
  | .connection _ | .serviceUnavailable _ | .io _ => true
  | _ => false

def isWriteRejection (error : Error) : Bool :=
  error.code? == some notALeader || error.code? == some readOnlyDatabase

def isSecurity : Error → Bool
  | .authentication _ => true
  | .server code _ => Text.begins "Neo.ClientError.Security" code
  | _ => false

def isClient : Error → Bool
  | .authentication _ | .configuration _ => true
  | .server code _ => Text.begins "Neo.ClientError" code
  | _ => false

def isRetryable (error : Error) : Bool :=
  match error with
  | .connection _ | .timeout _ | .serviceUnavailable _ | .sessionExpired _
  | .noServerAvailable _ | .io _ => true
  | .server code _ =>
      Text.begins "Neo.TransientError" code || error.isWriteRejection
  | _ => false

def isFatal : Error → Bool
  | .protocol _ | .configuration _ => true
  | error => error.isSecurity

def kind : Error → String
  | .connection _ => "Connection"
  | .authentication _ => "Authentication"
  | .protocol _ => "Protocol"
  | .session _ => "Session"
  | .sessionExpired _ => "SessionExpired"
  | .timeout _ => "Timeout"
  | .configuration _ => "Configuration"
  | .server _ _ => "Server"
  | .serviceUnavailable _ => "ServiceUnavailable"
  | .noServerAvailable _ => "NoServerAvailable"
  | .io _ => "Io"
  | .internal _ => "Internal"

def ofKind? (kind code message : String) : Option Error :=
  [.connection message, .authentication message, .protocol message,
    .session message, .sessionExpired message, .timeout message,
    .configuration message, .server code message,
    .serviceUnavailable message, .noServerAvailable message, .io message,
    .internal message].find? (·.kind == kind)

def describe : Error → String
  | .connection message => "Connection error: " ++ message
  | .authentication message => "Authentication error: " ++ message
  | .protocol message => "Protocol error: " ++ message
  | .session message => "Session error: " ++ message
  | .sessionExpired message => "Session expired: " ++ message
  | .timeout message => "Timeout: " ++ message
  | .configuration message => "Configuration error: " ++ message
  | .server code message => "Server error: " ++ code ++ " - " ++ message
  | .serviceUnavailable message => "Service unavailable: " ++ message
  | .noServerAvailable message => "No server available: " ++ message
  | .io message => "I/O error: " ++ message
  | .internal message => "Internal error: " ++ message

end Error

inductive SystemFault where
  | connectionRefused
  | connectionReset
  | brokenPipe
  | timedOut
  | other
  deriving DecidableEq, Repr

def SystemFault.describe : SystemFault → String
  | .connectionRefused => "connection refused"
  | .connectionReset => "connection reset"
  | .brokenPipe => "broken pipe"
  | .timedOut => "timed out"
  | .other => "other error"

end ClusterRouting
