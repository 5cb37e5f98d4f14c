import EffectPrograms.Effect
import EffectPrograms.Failure.Backend

set_option autoImplicit false

namespace EffectPrograms

structure EffectError where
  effect : Effect
  kind : ErrorKind
  retryable : Bool
  message : String
deriving DecidableEq

abbrev Outcome (α : Type) := Except EffectError α

namespace EffectError

def ofKind (effect : Effect) (kind : ErrorKind) (message : String) : EffectError :=
  ⟨effect, kind, kind.isRetryable, message⟩

def ofBackend (effect : Effect) (error : BackendError) : EffectError :=
  ofKind effect error.kind error.message

def unexpectedResult (effect : Effect) (found : Result) : EffectError :=
  ofKind effect .unexpectedResult
    ("expected a " ++ effect.family.name ++ " result for " ++ effect.label ++ ", got " ++
      String.ofList found.debug)

def unsupported (effect : Effect) : EffectError :=
  ofKind effect .unsupported ("no " ++ effect.family.name ++ " interpreter configured")

def invalidRequest (effect : Effect) (message : String) : EffectError :=
  ofKind effect .invalidRequest message

def withRetryable (error : EffectError) (retryable : Bool) : EffectError :=
  { error with retryable }

def family (error : EffectError) : Family := error.effect.family

def text (error : EffectError) : String :=
  error.effect.label ++ " failed (" ++ error.kind.name ++
    (if error.retryable then ", retryable" else "") ++ "): " ++ error.message

end EffectError

-- The response in a result; a result of another shape is an error.
def Effect.accept (effect : Effect) (result : Result) : Outcome effect.Response :=
  match effect.accept? result with
  | some response => .ok response
  | none => .error (.unexpectedResult effect result)

theorem Effect.answer_of_accept {effect : Effect} {result : Result} {response : effect.Response}
    (accepted : effect.accept result = .ok response) : effect.answer response = result := by
  rw [Effect.accept] at accepted
  split at accepted
  · next other shaped =>
    obtain rfl := Except.ok.inj accepted
    exact Effect.answer_of_accept? shaped
  · cases accepted

end EffectPrograms
