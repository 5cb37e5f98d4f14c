import EffectPrograms.Duration
import EffectPrograms.Failure.Kind

set_option autoImplicit false

namespace EffectPrograms

inductive BackendError where
  | connectionRefused (target : String)
  | connectionLost (reason : String)
  | timeout (after : Duration)
  | throttled (reason : String)
  | unavailable (reason : String)
  | malformed (reason : String)
  | permissionDenied (reason : String)
  | invalidRequest (reason : String)
  | internal (reason : String)
deriving DecidableEq

namespace BackendError

def kind : BackendError → ErrorKind
  | connectionRefused _ => .connectionRefused
  | connectionLost _ => .connectionLost
  | timeout _ => .timeout
  | throttled _ => .throttled
  | unavailable _ => .unavailable
  | malformed _ => .malformedResponse
  | permissionDenied _ => .permissionDenied
  | invalidRequest _ => .invalidRequest
  | internal _ => .internal

def message : BackendError → String
  | connectionRefused target => "connection refused: " ++ target
  | connectionLost reason => "connection lost: " ++ reason
  | timeout after => "operation timed out after " ++ String.ofList after.debug
  | throttled reason => "throttled: " ++ reason
  | unavailable reason => "service unavailable: " ++ reason
  | malformed reason => "malformed response: " ++ reason
  | permissionDenied reason => "permission denied: " ++ reason
  | invalidRequest reason => "invalid request: " ++ reason
  | internal reason => "internal backend error: " ++ reason

def isRetryable (error : BackendError) : Bool := error.kind.isRetryable

end BackendError
end EffectPrograms
