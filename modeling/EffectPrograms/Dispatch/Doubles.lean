import EffectPrograms.Dispatch.Basic

set_option autoImplicit false

namespace EffectPrograms

-- A scripted answer; a failure without a retry flag takes that of its kind.
inductive Reply where
  | ok (result : Result)
  | fail (kind : ErrorKind) (retryable : Option Bool) (message : String)
deriving DecidableEq

def Reply.outcome (effect : Effect) : Reply → Outcome Result
  | ok result => .ok result
  | fail kind none message => .error (.ofKind effect kind message)
  | fail kind (some retryable) message =>
      .error ((EffectError.ofKind effect kind message).withRetryable retryable)

def Reply.ofOutcome : Outcome Result → Reply
  | .ok result => ok result
  | .error error => fail error.kind (some error.retryable) error.message

structure Script where
  replies : List Reply
  presented : List Effect
deriving DecidableEq

def Script.of (replies : List Reply) : Script := ⟨replies, []⟩

def Script.interpret (effect : Effect) (script : Script) : Outcome Result × Script :=
  match script.replies with
  | reply :: rest => (reply.outcome effect, ⟨rest, script.presented ++ [effect]⟩)
  | [] =>
      (.error (.ofKind effect .internal "dispatcher script exhausted"),
        ⟨[], script.presented ++ [effect]⟩)

abbrev Trace := Array (Effect × Outcome Result)

namespace Dispatcher
variable {σ : Type}

def scripted : Dispatcher Script := ofFunction Script.interpret

def record (effect : Effect) :
    Poll (Outcome Result) × σ → Trace → Poll (Outcome Result) × (σ × Trace)
  | (.ready outcome, state), trace => (.ready outcome, (state, trace.push (effect, outcome)))
  | (.waiting ticket, state), trace => (.waiting ticket, (state, trace))

def recording (inner : Dispatcher σ) : Dispatcher (σ × Trace) where
  interpret effect state := record effect (inner.interpret effect state.1) state.2
  again effect ticket state := record effect (inner.again effect ticket state.1) state.2

-- Answers by a function of the effect: a result, or the kind and message of a failure.
def ofRule (rule : Effect → Except (ErrorKind × String) Result) : Dispatcher σ :=
  ofFunction fun effect state =>
    match rule effect with
    | .ok result => (.ok result, state)
    | .error (kind, message) => (.error (.ofKind effect kind message), state)

end Dispatcher
end EffectPrograms
