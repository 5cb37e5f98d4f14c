import EffectPrograms.Program.Basic

set_option autoImplicit false

namespace EffectPrograms
variable {α : Type}

inductive Phase where
  | ready
  | suspended (family : Family) (operation : String)
  | finished
deriving DecidableEq

def Step.phase : Step α → Phase
  | .suspended effect => .suspended effect.family effect.operation
  | .done _ => .finished

structure Execution (program : Program α) where
  state : program.State
  phase : Phase
  suspensions : Nat

namespace Execution
variable {program : Program α}

def of (program : Program α) : Execution program := ⟨program.initial, .ready, 0⟩

def observe (execution : Execution program) :
    Except Violation (Step α × program.State) → Except Violation (Step α × Execution program)
  | .error violation => .error violation
  | .ok (step, state) =>
      let count := if step.isDone then 0 else 1
      .ok (step, ⟨state, step.phase, execution.suspensions + count⟩)

def refusal? (execution : Execution program) : Call → Option Violation
  | .start => if execution.phase = .ready then none else some .alreadyStarted
  | .resume _ =>
      match execution.phase with
      | .ready => some .notStarted
      | .suspended .. => none
      | .finished => some .alreadyCompleted

def call (execution : Execution program) (call : Call) :
    Except Violation (Step α × Execution program) :=
  match execution.refusal? call with
  | some violation => .error violation
  | none => execution.observe (program.call call execution.state)

def start (execution : Execution program) : Except Violation (Step α × Execution program) :=
  execution.call .start

def resume (execution : Execution program) (result : Result) :
    Except Violation (Step α × Execution program) :=
  execution.call (.resume result)

def pending? (execution : Execution program) : Option (Family × String) :=
  match execution.phase with
  | .suspended family operation => some (family, operation)
  | _ => none

def isFinished (execution : Execution program) : Bool := execution.phase == .finished

end Execution
end EffectPrograms
