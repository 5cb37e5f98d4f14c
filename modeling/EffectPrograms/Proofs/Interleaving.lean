import EffectPrograms.Proofs.Stepwise
import Mathlib.Data.List.Induction
import Mathlib.Logic.Function.Basic

set_option autoImplicit false

namespace EffectPrograms
variable {α σ : Type}

-- A program under way, with what it was told so far.
structure Thread (program : Program α) where
  progress : Progress program
  trace : Trace

namespace Thread
variable {program : Program α}

def begun (program : Program α) : Thread program := ⟨program.begun, #[]⟩

-- One more effect, if the program was stopped before one.
def advance (dispatcher : Dispatcher σ) (thread : Thread program) (state : σ) :
    Thread program × σ :=
  let (progress, (left, trace)) :=
    thread.progress.advance dispatcher.recording (state, thread.trace)
  (⟨progress, trace⟩, left)

def answered (effect : Effect) (execution : Execution program) (trace : Trace) :
    Poll (Outcome Result) → Thread program
  | .ready outcome =>
      ⟨.answered effect execution (.ready outcome), trace.push (effect, outcome)⟩
  | .waiting ticket => ⟨.waiting effect ticket execution, trace⟩

section
variable (dispatcher : Dispatcher σ)

theorem advance_bounded (effect : Effect) (execution : Execution program) (trace : Trace)
    (state : σ) :
    advance dispatcher ⟨.bounded effect execution, trace⟩ state =
      let (answer, left) := dispatcher.interpret effect state
      (.answered effect execution trace answer, left) := by
  rcases interpreted : dispatcher.interpret effect state with ⟨outcome | ticket, left⟩
  all_goals
    simp only [advance, Progress.advance, Program.drive_one,
      Program.recording_interpret interpreted]
    rfl

theorem progress_advance (thread : Thread program) (state : σ) :
    thread.progress.advance dispatcher state =
      ((thread.advance dispatcher state).1.progress, (thread.advance dispatcher state).2) := by
  rcases thread with ⟨_ | _ | _ | ⟨effect, execution⟩, trace⟩
  case bounded =>
    rw [advance_bounded, Progress.advance, Program.drive_one]
    rcases dispatcher.interpret effect state with ⟨outcome | ticket, left⟩ <;> rfl
  all_goals rfl

end

section
variable {dispatcher : Dispatcher σ} {thread : Thread program}

theorem advance_alike {alike : σ → σ → Prop} {left right : σ}
    (blind : ∀ effect execution, thread.progress = .bounded effect execution →
      (dispatcher.interpret effect left).1 = (dispatcher.interpret effect right).1 ∧
        alike (dispatcher.interpret effect left).2 (dispatcher.interpret effect right).2)
    (given : alike left right) :
    (thread.advance dispatcher left).1 = (thread.advance dispatcher right).1 ∧
      alike (thread.advance dispatcher left).2 (thread.advance dispatcher right).2 := by
  rcases thread with ⟨_ | _ | _ | ⟨effect, execution⟩, trace⟩
  case bounded =>
    obtain ⟨same, kept⟩ := blind effect execution rfl
    rw [advance_bounded, advance_bounded]
    exact ⟨congrArg (answered effect execution trace) same, kept⟩
  all_goals exact ⟨rfl, given⟩

theorem advance_keeps {keeps : σ → Prop} {state : σ}
    (step : ∀ effect execution, thread.progress = .bounded effect execution →
      keeps (dispatcher.interpret effect state).2)
    (given : keeps state) : keeps (thread.advance dispatcher state).2 := by
  rcases thread with ⟨_ | _ | _ | ⟨effect, execution⟩, trace⟩
  case bounded =>
    rw [advance_bounded]
    exact step effect execution rfl
  all_goals exact given

end
end Thread

namespace Program
variable {program : Program α} {dispatcher : Dispatcher σ}

def alone (program : Program α) (dispatcher : Dispatcher σ) (bound : Nat) (state : σ) :
    Thread program × σ :=
  let (progress, (left, trace)) := program.run dispatcher.recording bound (state, #[])
  (⟨progress, trace⟩, left)

theorem alone_zero (program : Program α) (dispatcher : Dispatcher σ) (state : σ) :
    program.alone dispatcher 0 state = (.begun program, state) := by
  rw [alone, run_zero]
  rfl

theorem alone_succ (program : Program α) (dispatcher : Dispatcher σ) (bound : Nat) (state : σ) :
    program.alone dispatcher (bound + 1) state =
      (program.alone dispatcher bound state).1.advance dispatcher
        (program.alone dispatcher bound state).2 := by
  rw [alone, run_succ]
  rfl

theorem run_alone (program : Program α) (dispatcher : Dispatcher σ) (bound : Nat) (state : σ) :
    program.run dispatcher bound state =
      ((program.alone dispatcher bound state).1.progress,
        (program.alone dispatcher bound state).2) := by
  induction bound with
  | zero => rw [run_zero, alone_zero]; rfl
  | succ bound ih => rw [run_succ, alone_succ, ih, Thread.progress_advance]

theorem alone_finished {bound : Nat} {state : σ} {outcome : Outcome α}
    (finished : (program.alone dispatcher bound state).1.progress = .finished outcome)
    (extra : Nat) :
    program.alone dispatcher (bound + extra) state = program.alone dispatcher bound state := by
  rcases run : program.run dispatcher.recording bound (state, #[]) with ⟨progress, left⟩
  have ended : program.run dispatcher.recording bound (state, #[]) = (.finished outcome, left) := by
    rw [alone, run] at finished
    exact run.trans (congrArg (·, left) finished)
  rw [alone, alone, run_finished ended extra, ended]

theorem alone_comes {bound : Nat} {state : σ} {effect : Effect} {execution : Execution program}
    (stopped : (program.alone dispatcher bound state).1.progress = .bounded effect execution) :
    program.Comes (.ok (.suspended effect, execution.state)) :=
  run_comes stopped

end Program

section Together
variable {ι : Type} {β : ι → Type}

-- Programs under way on one state.
structure Crew (programs : (i : ι) → Program (β i)) (σ : Type) where
  threads : (i : ι) → Thread (programs i)
  state : σ

variable [DecidableEq ι] (programs : (i : ι) → Program (β i)) (dispatcher : Dispatcher σ)

def Crew.turn {programs : (i : ι) → Program (β i)} (crew : Crew programs σ) (i : ι) :
    Crew programs σ :=
  let (thread, left) := (crew.threads i).advance dispatcher crew.state
  ⟨Function.update crew.threads i thread, left⟩

section
variable {programs : (i : ι) → Program (β i)} (crew : Crew programs σ)

theorem Crew.turn_own (i : ι) :
    (crew.turn dispatcher i).threads i = ((crew.threads i).advance dispatcher crew.state).1 :=
  Function.update_self ..

theorem Crew.turn_other {i j : ι} (other : i ≠ j) :
    (crew.turn dispatcher j).threads i = crew.threads i :=
  Function.update_of_ne other ..

theorem Crew.turn_state (i : ι) :
    (crew.turn dispatcher i).state = ((crew.threads i).advance dispatcher crew.state).2 := rfl

end

-- All programs from their start; the schedule names the one that has the next effect.
def interleave (schedule : List ι) (start : σ) : Crew programs σ :=
  schedule.foldl (Crew.turn dispatcher) ⟨fun i => .begun (programs i), start⟩

theorem interleave_snoc (schedule : List ι) (i : ι) (start : σ) :
    interleave programs dispatcher (schedule ++ [i]) start =
      (interleave programs dispatcher schedule start).turn dispatcher i := by
  rw [interleave, List.foldl_append]
  rfl

-- Each program is blind to what the others do: its effects do not tell apart states that look alike
-- to it, and a state looks as before to it after an effect of another.
structure Blind (alike : ι → σ → σ → Prop) : Prop where
  answered : ∀ {i : ι} {effect : Effect} {inner : (programs i).State},
    (programs i).Comes (.ok (.suspended effect, inner)) → ∀ {left right : σ}, alike i left right →
      (dispatcher.interpret effect left).1 = (dispatcher.interpret effect right).1 ∧
        alike i (dispatcher.interpret effect left).2 (dispatcher.interpret effect right).2
  aside : ∀ {i j : ι}, i ≠ j → ∀ {effect : Effect} {inner : (programs j).State},
    (programs j).Comes (.ok (.suspended effect, inner)) → ∀ {left right : σ}, alike i left right →
      alike i left (dispatcher.interpret effect right).2

variable {programs dispatcher}

-- By induction on the schedule, for all programs at once: that a program has come to its next effect
-- is known from its run alone.
theorem interleave_alone {alike : ι → σ → σ → Prop} (blind : Blind programs dispatcher alike)
    {start : σ} (given : ∀ i, alike i start start) (schedule : List ι) (i : ι) :
    let shared := interleave programs dispatcher schedule start
    let alone := (programs i).alone dispatcher (schedule.count i) start
    shared.threads i = alone.1 ∧ alike i alone.2 shared.state := by
  induction schedule using List.reverseRecOn generalizing i with
  | nil =>
    rw [List.count_nil, Program.alone_zero]
    exact ⟨rfl, given i⟩
  | append_singleton schedule j ih =>
    obtain ⟨thread, looks⟩ := ih i
    rw [interleave_snoc]
    dsimp only
    by_cases own : i = j
    · subst own
      rw [List.count_append, List.count_singleton_self, Program.alone_succ]
      obtain ⟨same, kept⟩ := Thread.advance_alike
        (fun effect execution stopped => blind.answered (Program.alone_comes stopped) looks) looks
      rw [Crew.turn_own, Crew.turn_state, thread]
      exact ⟨same.symm, kept⟩
    · have count : (schedule ++ [j]).count i = schedule.count i := by
        rw [List.count_append, List.count_singleton, beq_eq_false_iff_ne.mpr (Ne.symm own)]
        rfl
      rw [count, Crew.turn_other _ _ own, Crew.turn_state, (ih j).1]
      refine ⟨thread, Thread.advance_keeps (fun effect execution stopped => ?_) looks⟩
      exact blind.aside own (Program.alone_comes stopped) looks

end Together
end EffectPrograms
