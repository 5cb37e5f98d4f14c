import EffectPrograms.Dispatch.Doubles
import EffectPrograms.Program.Run

set_option autoImplicit false

namespace EffectPrograms
variable {α σ : Type}

inductive Ending (α : Type) where
  | outcome (outcome : Outcome α)
  | violation (violation : Violation)
  | bound

structure Report (α : Type) where
  name : String
  ending : Ending α
  trace : Trace

structure Waiting (α σ : Type) : Type 1 where
  name : String
  program : Program α
  dispatcher : Dispatcher σ
  effect : Effect
  ticket : Nat
  execution : Execution program
  trace : Trace

inductive Attempt (α σ : Type) : Type 1 where
  | ended (report : Report α)
  | waiting (run : Waiting α σ)

namespace Attempt

def of (name : String) (program : Program α) (dispatcher : Dispatcher σ) (trace : Trace) :
    Progress program → Attempt α σ
  | .finished outcome => ended ⟨name, .outcome outcome, trace⟩
  | .violated violation => ended ⟨name, .violation violation, trace⟩
  | .waiting effect ticket execution =>
      waiting ⟨name, program, dispatcher, effect, ticket, execution, trace⟩
  | .bounded .. => ended ⟨name, .bound, trace⟩

def start (name : String) (program : Program α) (dispatcher : Dispatcher σ) (bound : Nat)
    (state : σ) : Attempt α σ × σ :=
  let (progress, (state, trace)) := program.run dispatcher.recording bound (state, #[])
  (of name program dispatcher trace progress, state)

end Attempt

namespace Waiting

def retry (bound : Nat) (run : Waiting α σ) (state : σ) : Attempt α σ × σ :=
  let (progress, (state, trace)) :=
    Program.resumeWaiting run.dispatcher.recording bound run.effect run.ticket run.execution
      (state, run.trace)
  (.of run.name run.program run.dispatcher trace progress, state)

end Waiting

-- What trying some runs came to: those that ended, in that order, and those that still wait.
structure Round (α σ : Type) : Type 1 where
  moved : Bool
  reports : List (Report α)
  waiting : List (Waiting α σ)

namespace Round

-- Puts the attempt of an older run in front. A ticket serves one wait, so a run that still has its
-- ticket has not moved.
def cons (run : Waiting α σ) (round : Round α σ) : Attempt α σ → Round α σ
  | .ended report => { round with moved := true, reports := report :: round.reports }
  | .waiting later =>
      { round with
        moved := round.moved || later.ticket != run.ticket
        waiting := later :: round.waiting }

def of (bound : Nat) : List (Waiting α σ) → σ → Round α σ × σ
  | [], state => (⟨false, [], []⟩, state)
  | run :: rest, state =>
      let (attempt, state) := run.retry bound state
      let (round, state) := of bound rest state
      (cons run round attempt, state)

end Round

-- Rounds until none moves a run; the first number bounds the effects of a run, the second the
-- rounds. Answers the runs that ended and those that still wait.
def settle (bound : Nat) :
    Nat → List (Waiting α σ) → σ → (List (Report α) × List (Waiting α σ)) × σ
  | 0, waiting, state => (([], waiting), state)
  | rounds + 1, waiting, state =>
      let (round, state) := Round.of bound waiting state
      if round.moved then
        let ((reports, waiting), state) := settle bound rounds round.waiting state
        ((round.reports ++ reports, waiting), state)
      else ((round.reports, round.waiting), state)

end EffectPrograms
