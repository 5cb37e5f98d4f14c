import EffectPrograms.Json.Part

set_option autoImplicit false

namespace EffectPrograms

-- A code is written with at least four digits.
structure ErrorCode where
  value : Nat
deriving DecidableEq

def ErrorCode.text (code : ErrorCode) : String :=
  let digits := Nat.toDigits 10 code.value
  String.ofList (List.replicate (4 - digits.length) '0' ++ digits)

inductive ErrorKind where
  | connectionRefused
  | connectionLost
  | timeout
  | throttled
  | unavailable
  | malformedResponse
  | permissionDenied
  | invalidRequest
  | payloadTooLarge
  | unsupported
  | unexpectedResult
  | internal
deriving DecidableEq

namespace ErrorKind

def all : List ErrorKind :=
  [connectionRefused, connectionLost, timeout, throttled, unavailable, malformedResponse,
   permissionDenied, invalidRequest, payloadTooLarge, unsupported, unexpectedResult, internal]

def isRetryable : ErrorKind → Bool
  | connectionRefused | connectionLost | timeout | throttled | unavailable => true
  | _ => false

def code : ErrorKind → ErrorCode
  | connectionRefused => ⟨1001⟩
  | connectionLost => ⟨1002⟩
  | timeout => ⟨1003⟩
  | throttled => ⟨1004⟩
  | unavailable => ⟨1005⟩
  | malformedResponse => ⟨1006⟩
  | permissionDenied => ⟨1007⟩
  | invalidRequest => ⟨1008⟩
  | payloadTooLarge => ⟨1009⟩
  | unsupported => ⟨1010⟩
  | unexpectedResult => ⟨1011⟩
  | internal => ⟨1012⟩

def name : ErrorKind → String
  | connectionRefused => "connection_refused"
  | connectionLost => "connection_lost"
  | timeout => "timeout"
  | throttled => "throttled"
  | unavailable => "unavailable"
  | malformedResponse => "malformed_response"
  | permissionDenied => "permission_denied"
  | invalidRequest => "invalid_request"
  | payloadTooLarge => "payload_too_large"
  | unsupported => "unsupported"
  | unexpectedResult => "unexpected_result"
  | internal => "internal"

def ofName? (name : String) : Option ErrorKind := all.find? fun kind => kind.name == name

def toJson (kind : ErrorKind) : Json := .string kind.name

def read? (part : Json.Part) : Option ErrorKind := part.name?.bind ofName?

end ErrorKind
end EffectPrograms
