import EffectPrograms.Proofs.Completion
import EffectPrograms.Proofs.Transcript

set_option autoImplicit false

namespace EffectPrograms
variable {α σ : Type} {program : Program α}

namespace Progress

-- How far a run is at a step of its program, before the next effect is presented.
def ofTurn : Except Violation (Step α × Execution program) → Progress program
  | .error violation => .violated violation
  | .ok (.done outcome, _) => .finished outcome
  | .ok (.suspended effect, execution) => .bounded effect execution

-- How far a run is when the effect that it presented was answered.
def answered (effect : Effect) (execution : Execution program) :
    Poll (Outcome Result) → Progress program
  | .ready (.ok result) => ofTurn (execution.resume result)
  | .ready (.error error) => .finished (.error error)
  | .waiting ticket => .waiting effect ticket execution

-- One more effect, if the run was stopped by its bound.
def advance (dispatcher : Dispatcher σ) (progress : Progress program) (state : σ) :
    Progress program × σ :=
  match progress with
  | .bounded effect execution =>
      Program.drive dispatcher 1 (.ok (.suspended effect, execution)) state
  | progress => (progress, state)

end Progress

namespace Program

def begun (program : Program α) : Progress program := .ofTurn (Execution.of program).start

theorem drive_zero (dispatcher : Dispatcher σ)
    (turn : Except Violation (Step α × Execution program)) (state : σ) :
    drive dispatcher 0 turn state = (.ofTurn turn, state) := by
  rcases turn with violation | ⟨effect | outcome, execution⟩ <;> rfl

theorem drive_one (dispatcher : Dispatcher σ) (effect : Effect) (execution : Execution program)
    (state : σ) :
    drive dispatcher 1 (.ok (.suspended effect, execution)) state =
      let (answer, left) := dispatcher.interpret effect state
      (.answered effect execution answer, left) := by
  rw [drive]
  rcases dispatcher.interpret effect state with ⟨⟨error | result⟩ | ticket, left⟩
  · rfl
  · exact drive_zero dispatcher (execution.resume result) left
  · rfl

theorem drive_succ (dispatcher : Dispatcher σ) (bound : Nat)
    (turn : Except Violation (Step α × Execution program)) (state : σ) :
    drive dispatcher (bound + 1) turn state =
      (drive dispatcher bound turn state).1.advance dispatcher
        (drive dispatcher bound turn state).2 := by
  induction bound generalizing turn state with
  | zero => rcases turn with violation | ⟨effect | outcome, execution⟩ <;> rfl
  | succ bound ih =>
    rcases turn with violation | ⟨effect | outcome, execution⟩
    · rfl
    · rw [drive, drive]
      rcases dispatcher.interpret effect state with ⟨⟨error | result⟩ | ticket, left⟩
      · rfl
      · exact ih (execution.resume result) left
      · rfl
    · rfl

theorem run_zero (program : Program α) (dispatcher : Dispatcher σ) (state : σ) :
    program.run dispatcher 0 state = (program.begun, state) :=
  drive_zero ..

theorem run_succ (program : Program α) (dispatcher : Dispatcher σ) (bound : Nat) (state : σ) :
    program.run dispatcher (bound + 1) state =
      (program.run dispatcher bound state).1.advance dispatcher
        (program.run dispatcher bound state).2 :=
  drive_succ ..

-- A run that stands at a turn of its program.
def Shows (progress : Progress program) (turn : Turn program) : Prop :=
  ∃ execution : Execution program, progress = .ofTurn (execution.observe turn)

theorem begun_shows (program : Program α) :
    Shows program.begun (program.start program.initial) :=
  ⟨Execution.of program, rfl⟩

section Advancing
variable {progress : Progress program} {effect : Effect} {inner : program.State}
  {dispatcher : Dispatcher σ} {state left : σ}

theorem Shows.answered (stands : Shows progress (.ok (.suspended effect, inner))) {result : Result}
    (interpreted : dispatcher.interpret effect state = (.ready (.ok result), left)) :
    ∃ next, progress.advance dispatcher state = (next, left) ∧
      Shows next (program.resume inner result) := by
  obtain ⟨execution, rfl⟩ := stands
  obtain ⟨later, resumed⟩ := drive_resumes 0 execution inner interpreted
  exact ⟨_, resumed.trans (drive_zero ..), later, rfl⟩

theorem Shows.failed (stands : Shows progress (.ok (.suspended effect, inner)))
    {error : EffectError}
    (interpreted : dispatcher.interpret effect state = (.ready (.error error), left)) :
    progress.advance dispatcher state = (.finished (.error error), left) := by
  obtain ⟨execution, rfl⟩ := stands
  simp only [Execution.observe, Progress.ofTurn, Progress.advance, drive_one, interpreted,
    Progress.answered]

end Advancing

theorem run_finished {dispatcher : Dispatcher σ} {bound : Nat} {state left : σ}
    {outcome : Outcome α} (finished : program.run dispatcher bound state = (.finished outcome, left))
    (extra : Nat) : program.run dispatcher (bound + extra) state = (.finished outcome, left) := by
  induction extra with
  | zero => exact finished
  | succ extra ih =>
    rw [← Nat.add_assoc, run_succ, ih]
    rfl

-- The turns that a program may come to, whatever results it is resumed with.
inductive Comes (program : Program α) : Turn program → Prop where
  | start : Comes program (program.start program.initial)
  | resumed {effect : Effect} {inner : program.State}
      (suspended : Comes program (.ok (.suspended effect, inner))) (result : Result) :
      Comes program (program.resume inner result)

theorem drive_comes {dispatcher : Dispatcher σ} {bound : Nat} {turn : Turn program}
    (comes : program.Comes turn) {state : σ} (execution : Execution program) {effect : Effect}
    {later : Execution program}
    (stopped : (drive dispatcher bound (execution.observe turn) state).1 =
      .bounded effect later) :
    program.Comes (.ok (.suspended effect, later.state)) := by
  induction bound, turn, state using follow_induction program dispatcher generalizing execution with
  | violated bound violation state =>
    rw [Execution.observe, drive_violated] at stopped
    cases stopped
  | done bound outcome inner state =>
    simp only [Execution.observe, drive_done] at stopped
    cases stopped
  | bounded suspended inner state =>
    obtain ⟨rfl, rfl⟩ := Progress.bounded.inj stopped
    exact comes
  | answered bound suspended inner state result left interpreted ih =>
    obtain ⟨next, driven⟩ := drive_resumes bound execution inner interpreted
    rw [driven] at stopped
    exact ih (comes.resumed result) next stopped
  | failed bound suspended inner state error left interpreted =>
    simp only [Execution.observe, drive, interpreted] at stopped
    cases stopped
  | waits bound suspended inner state ticket left interpreted =>
    simp only [Execution.observe, drive, interpreted] at stopped
    cases stopped

theorem run_comes {dispatcher : Dispatcher σ} {bound : Nat} {state : σ} {effect : Effect}
    {later : Execution program}
    (stopped : (program.run dispatcher bound state).1 = .bounded effect later) :
    program.Comes (.ok (.suspended effect, later.state)) :=
  drive_comes .start (Execution.of program) stopped

end Program
end EffectPrograms
