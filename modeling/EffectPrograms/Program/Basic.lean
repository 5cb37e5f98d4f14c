import EffectPrograms.Outcome

set_option autoImplicit false

namespace EffectPrograms

inductive Step (α : Type) where
  | suspended (effect : Effect)
  | done (outcome : Outcome α)

namespace Step
variable {α β : Type}

def isDone : Step α → Bool
  | suspended _ => false
  | done _ => true

def pending? : Step α → Option Effect
  | suspended effect => some effect
  | done _ => none

def map (f : α → β) : Step α → Step β
  | suspended effect => suspended effect
  | done outcome => done (outcome.map f)

end Step

inductive Violation where
  | alreadyStarted
  | notStarted
  | alreadyCompleted
  | neverSuspends
  | requestNotSuspended
  | sequenceNotSuspended
  | completedTwice
  | delegatedTwice
deriving DecidableEq

namespace Violation

def detail : Violation → String
  | alreadyStarted => "start called on a program that was already started"
  | notStarted => "resume called before the program was started"
  | alreadyCompleted => "resume called on a program that has already completed"
  | neverSuspends => "resume called on a program that never suspends"
  | requestNotSuspended => "resume called on a request that is not suspended"
  | sequenceNotSuspended => "resume called on a sequence that is not suspended"
  | completedTwice => "program completed twice"
  | delegatedTwice => "delegated program completed twice"

def message (violation : Violation) : String :=
  "effect program protocol violation: " ++ violation.detail

end Violation

inductive Call where
  | start
  | resume (result : Result)
deriving DecidableEq

structure Program (α : Type) : Type 1 where
  State : Type
  initial : State
  start : State → Except Violation (Step α × State)
  resume : State → Result → Except Violation (Step α × State)

namespace Program
variable {α : Type}

def call (program : Program α) : Call → program.State → Except Violation (Step α × program.State)
  | .start, state => program.start state
  | .resume result, state => program.resume state result

end Program
end EffectPrograms
