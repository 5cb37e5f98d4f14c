import EffectPrograms.Dispatch.Basic
import EffectPrograms.Program.Execution

set_option autoImplicit false

namespace EffectPrograms
variable {α σ : Type}

-- How far a run came: to an outcome, to a call out of turn, to an effect that waits, or to the
-- bound on its steps.
inductive Progress (program : Program α) where
  | finished (outcome : Outcome α)
  | violated (violation : Violation)
  | waiting (effect : Effect) (ticket : Nat) (execution : Execution program)
  | bounded (effect : Effect) (execution : Execution program)

namespace Program
variable {program : Program α}

def drive (dispatcher : Dispatcher σ) :
    Nat → Except Violation (Step α × Execution program) → σ → Progress program × σ
  | _, .error violation, state => (.violated violation, state)
  | _, .ok (.done outcome, _), state => (.finished outcome, state)
  | 0, .ok (.suspended effect, execution), state => (.bounded effect execution, state)
  | bound + 1, .ok (.suspended effect, execution), state =>
      match dispatcher.interpret effect state with
      | (.ready (.ok result), state) => drive dispatcher bound (execution.resume result) state
      | (.ready (.error error), state) => (.finished (.error error), state)
      | (.waiting ticket, state) => (.waiting effect ticket execution, state)

def run (program : Program α) (dispatcher : Dispatcher σ) (bound : Nat) (state : σ) :
    Progress program × σ :=
  drive dispatcher bound (Execution.of program).start state

def resumeWaiting (dispatcher : Dispatcher σ) (bound : Nat) (effect : Effect) (ticket : Nat)
    (execution : Execution program) (state : σ) : Progress program × σ :=
  match dispatcher.again effect ticket state with
  | (.ready (.ok result), state) => drive dispatcher bound (execution.resume result) state
  | (.ready (.error error), state) => (.finished (.error error), state)
  | (.waiting ticket, state) => (.waiting effect ticket execution, state)

end Program
end EffectPrograms
