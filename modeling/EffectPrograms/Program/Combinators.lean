import EffectPrograms.Program.Basic

set_option autoImplicit false

namespace EffectPrograms
namespace Program
variable {α β : Type}

inductive Perform.State where
  | ready
  | suspended
  | finished
deriving DecidableEq

def perform (effect : Effect) : Program effect.Response where
  State := Perform.State
  initial := .ready
  start
    | .ready => .ok (.suspended effect, .suspended)
    | _ => .error .alreadyStarted
  resume
    | .suspended, result => .ok (.done (effect.accept result), .finished)
    | _, _ => .error .requestNotSuspended

def finish (outcome : Outcome α) : Program α where
  State := Bool
  initial := false
  start
    | false => .ok (.done outcome, true)
    | true => .error .alreadyStarted
  resume _ _ := .error .neverSuspends

def pure (value : α) : Program α := finish (.ok value)

def fail (error : EffectError) : Program α := finish (.error error)

-- A step of the mapped program; the function serves one completion.
def Map.step {σ : Type} (f : α → β) (spent : Bool) :
    Except Violation (Step α × σ) → Except Violation (Step β × (σ × Bool))
  | .error violation => .error violation
  | .ok (.suspended effect, state) => .ok (.suspended effect, (state, spent))
  | .ok (.done outcome, state) =>
      if spent then .error .completedTwice else .ok (.done (outcome.map f), (state, true))

def map (program : Program α) (f : α → β) : Program β where
  State := program.State × Bool
  initial := (program.initial, false)
  start state := Map.step f state.2 (program.start state.1)
  resume state result := Map.step f state.2 (program.resume state.1 result)

def boxed (program : Program α) : Program α where
  State := program.State
  initial := program.initial
  start := program.start
  resume := program.resume

-- A started program: its state, and what it does when resumed, which is kept because a program that
-- was built from a value would otherwise be built again for every call.
structure Started (program : Program α) where
  state : program.State
  resume : program.State → Result → Except Violation (Step α × program.State)
  same : resume = program.resume

-- The stages of a delegation: the first program, the one built from its value, the end.
inductive AndThen.State (program : Program α) (next : α → Program β) where
  | first (state : program.State)
  | second (value : α) (built : Started (next value))
  | finished

variable {program : Program α} {next : α → Program β}

def AndThen.afterSecond (value : α) (built : Started (next value)) :
    Except Violation (Step β × (next value).State) →
      Except Violation (Step β × AndThen.State program next)
  | .error violation => .error violation
  | .ok (step, state) =>
      .ok (step, if step.isDone then .finished else .second value { built with state })

-- When the first program is done, the second starts in the same step.
def AndThen.afterFirst :
    Except Violation (Step α × program.State) →
      Except Violation (Step β × AndThen.State program next)
  | .error violation => .error violation
  | .ok (.suspended effect, state) => .ok (.suspended effect, .first state)
  | .ok (.done (.error error), _) => .ok (.done (.error error), .finished)
  | .ok (.done (.ok value), _) =>
      let built := next value
      match built.start built.initial with
      | .error violation => .error violation
      | .ok (step, state) => .ok (step, .second value ⟨state, built.resume, rfl⟩)

def andThen (program : Program α) (next : α → Program β) : Program β where
  State := AndThen.State program next
  initial := .first program.initial
  start
    | .first state => AndThen.afterFirst (program.start state)
    | _ => .error .alreadyStarted
  resume
    | .first state, result => AndThen.afterFirst (program.resume state result)
    | .second value built, result =>
        AndThen.afterSecond value built (built.resume built.state result)
    | .finished, _ => .error .alreadyCompleted

-- What a sequence is at: the values so far, the last one first, and the program whose turn it is.
inductive Sequence.State (programs : Array (Program α)) where
  | ready
  | running (values : List α) (turn : Fin programs.size) (state : programs[turn].State)
  | stopped

abbrev Sequence.Advance (programs : Array (Program α)) : Type :=
  Except Violation (Step (List α) × Sequence.State programs)

-- Goes on after a step of the program whose turn it is; the function starts the later ones.
@[inline] def Sequence.advance {programs : Array (Program α)} (values : List α)
    (turn : Fin programs.size) (startLater : List α → Sequence.Advance programs) :
    Except Violation (Step α × programs[turn].State) → Sequence.Advance programs
  | .error violation => .error violation
  | .ok (.suspended effect, state) => .ok (.suspended effect, .running values turn state)
  | .ok (.done (.error error), _) => .ok (.done (.error error), .stopped)
  | .ok (.done (.ok value), _) => startLater (value :: values)

def Sequence.startFrom (programs : Array (Program α)) (place : Nat) (values : List α) :
    Sequence.Advance programs :=
  if inside : place < programs.size then
    let turn : Fin programs.size := ⟨place, inside⟩
    Sequence.advance values turn (Sequence.startFrom programs (place + 1))
      (programs[turn].start programs[turn].initial)
  else .ok (.done (.ok values.reverse), .stopped)
termination_by programs.size - place

def sequence (programs : Array (Program α)) : Program (List α) where
  State := Sequence.State programs
  initial := .ready
  start
    | .ready => Sequence.startFrom programs 0 []
    | _ => .error .alreadyStarted
  resume
    | .running values turn state, result =>
        Sequence.advance values turn (Sequence.startFrom programs (turn + 1))
          (programs[turn].resume state result)
    | _, _ => .error .sequenceNotSuspended

end Program
end EffectPrograms
