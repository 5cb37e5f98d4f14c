import EffectPrograms.Dispatch.Doubles
import EffectPrograms.Program.Run
import EffectPrograms.Proofs.Preceded

set_option autoImplicit false

namespace EffectPrograms
variable {α σ : Type}

-- The dispatcher's answer to an effect, or to one that has waited with a ticket.
def Dispatcher.ask (dispatcher : Dispatcher σ) (effect : Effect) :
    Option Nat → σ → Poll (Outcome Result) × σ
  | none => dispatcher.interpret effect
  | some ticket => dispatcher.again effect ticket

theorem Dispatcher.ask_preceded (dispatcher : Dispatcher σ) (changes : Nat → σ → σ)
    (effect : Effect) (ticket? : Option Nat) (begun : σ × Nat) :
    ∃ state, ((dispatcher.preceded changes).ask effect ticket? begun).1 =
      (dispatcher.ask effect ticket? state).1 := by
  cases ticket? with
  | none => exact ⟨changes begun.2 begun.1, rfl⟩
  | some ticket => exact ⟨begun.1, rfl⟩

namespace Program
variable {program : Program α}

-- Takes up a run that waits, each time after the next change that others make to the state.
def resumeAmid (dispatcher : Dispatcher σ) (bound : Nat) :
    List (σ → σ) → Progress program × σ → Progress program × σ
  | change :: later, (.waiting effect ticket execution, state) =>
      resumeAmid dispatcher bound later
        (resumeWaiting dispatcher bound effect ticket execution (change state))
  | _, reached => reached

-- A run amid changes that others make while it waits.
def runAmid (program : Program α) (dispatcher : Dispatcher σ) (bound : Nat)
    (changes : List (σ → σ)) (state : σ) : Progress program × σ :=
  resumeAmid dispatcher bound changes (program.run dispatcher bound state)

-- Where a run stands: at a step of the program, or at what an effect was answered.
inductive Point (program : Program α) (σ : Type) where
  | step (turn : Except Violation (Step α × Execution program)) (state : σ)
  | answer (effect : Effect) (execution : Execution program) (answer : Poll (Outcome Result) × σ)

namespace Point

def progress (dispatcher : Dispatcher σ) (bound : Nat) : Point program σ → Progress program × σ
  | step turn state => drive dispatcher bound turn state
  | answer _ execution (.ready (.ok result), state) =>
      drive dispatcher bound (execution.resume result) state
  | answer _ _ (.ready (.error error), state) => (.finished (.error error), state)
  | answer effect execution (.waiting ticket, state) => (.waiting effect ticket execution, state)

def recorded (known : Trace) : Point program σ → Point program (σ × Trace)
  | step turn state => step turn (state, known)
  | answer effect execution given =>
      answer effect execution (Dispatcher.record effect given known)

-- An answer is what the dispatcher gave when it was asked.
def Asked (dispatcher : Dispatcher σ) : Point program σ → Prop
  | step _ _ => True
  | answer effect _ given => ∃ ticket? state, given = dispatcher.ask effect ticket? state

end Point

-- From a point a run comes to an outcome: what it presents on the way, and what it leaves.
inductive Completes (dispatcher : Dispatcher σ) :
    Point program σ → List (σ → σ) → List (Effect × Outcome Result) → Outcome α → σ → Prop where
  | done (outcome : Outcome α) (execution : Execution program) (state : σ)
      (changes : List (σ → σ)) :
      Completes dispatcher (.step (.ok (.done outcome, execution)) state) changes [] outcome state
  | presented {effect : Effect} {execution : Execution program} {state left : σ}
      {changes : List (σ → σ)} {trace : List (Effect × Outcome Result)} {outcome : Outcome α}
      (later : Completes dispatcher (.answer effect execution (dispatcher.interpret effect state))
        changes trace outcome left) :
      Completes dispatcher (.step (.ok (.suspended effect, execution)) state) changes trace outcome
        left
  | answered {effect : Effect} {execution : Execution program} {result : Result} {state left : σ}
      {changes : List (σ → σ)} {trace : List (Effect × Outcome Result)} {outcome : Outcome α}
      (later : Completes dispatcher (.step (execution.resume result) state) changes trace outcome
        left) :
      Completes dispatcher (.answer effect execution (.ready (.ok result), state)) changes
        ((effect, .ok result) :: trace) outcome left
  | failed (effect : Effect) (execution : Execution program) (error : EffectError) (state : σ)
      (changes : List (σ → σ)) :
      Completes dispatcher (.answer effect execution (.ready (.error error), state)) changes
        [(effect, .error error)] (.error error) state
  | waited {effect : Effect} {execution : Execution program} {ticket : Nat} {state left : σ}
      {change : σ → σ} {changes : List (σ → σ)} {trace : List (Effect × Outcome Result)}
      {outcome : Outcome α}
      (later : Completes dispatcher
        (.answer effect execution (dispatcher.again effect ticket (change state))) changes trace
        outcome left) :
      Completes dispatcher (.answer effect execution (.waiting ticket, state)) (change :: changes)
        trace outcome left

-- The changes of others, which a recorder or a counter beside the state does not see.
def unseen {τ : Type} (changes : List (σ → σ)) : List (σ × τ → σ × τ) :=
  changes.map fun change reached => (change reached.1, reached.2)

-- A run that finishes, with its trace, and with a recorder around its dispatcher.
structure Traces (dispatcher : Dispatcher σ) (bound reach : Nat) (point : Point program σ)
    (changes : List (σ → σ)) (trace : List (Effect × Outcome Result)) (outcome : Outcome α)
    (left : σ) : Prop where
  completes : Completes dispatcher point changes trace outcome left
  recorded (known : Trace) :
    resumeAmid dispatcher.recording bound (unseen changes)
        ((point.recorded known).progress dispatcher.recording reach) =
      (.finished outcome, (left, known ++ trace.toArray))

section
variable {dispatcher : Dispatcher σ} {bound : Nat} {outcome : Outcome α} {left : σ}

@[simp] theorem drive_done (dispatcher : Dispatcher σ) (bound : Nat) (outcome : Outcome α)
    (execution : Execution program) (state : σ) :
    drive dispatcher bound (.ok (.done outcome, execution)) state = (.finished outcome, state) := by
  cases bound <;> rfl

@[simp] theorem drive_violated (dispatcher : Dispatcher σ) (bound : Nat) (violation : Violation)
    (state : σ) :
    drive dispatcher bound (.error violation) state =
      ((.violated violation : Progress program), state) := by
  cases bound <;> rfl

theorem resumeAmid_of_ready {changes : List (σ → σ)} {progress : Progress program} {state : σ}
    (ready : ∀ effect ticket execution, progress ≠ .waiting effect ticket execution) :
    resumeAmid dispatcher bound changes (progress, state) = (progress, state) := by
  unfold resumeAmid
  split
  · next same => exact absurd (congrArg Prod.fst same) (ready _ _ _)
  · rfl

theorem resumeAmid_waiting (change : σ → σ) (later : List (σ → σ)) (effect : Effect)
    (ticket : Nat) (execution : Execution program) (state : σ) :
    resumeAmid dispatcher bound (change :: later) (.waiting effect ticket execution, state) =
      resumeAmid dispatcher bound later ((Point.answer effect execution
        (dispatcher.again effect ticket (change state))).progress dispatcher bound) := by
  rw [resumeAmid, resumeWaiting]
  rcases dispatcher.again effect ticket (change state) with ⟨⟨error | result⟩ | ticket, state⟩ <;>
    rfl

theorem progress_suspended (dispatcher : Dispatcher σ) (reach : Nat) (effect : Effect)
    (execution : Execution program) (state : σ) :
    (Point.step (.ok (.suspended effect, execution)) state).progress dispatcher (reach + 1) =
      (Point.answer effect execution (dispatcher.interpret effect state)).progress dispatcher
        reach := by
  rw [Point.progress, drive]
  rcases dispatcher.interpret effect state with ⟨⟨error | result⟩ | ticket, state⟩ <;> rfl

namespace Traces
variable {reach : Nat} {effect : Effect} {execution : Execution program} {state : σ}
  {changes : List (σ → σ)} {trace : List (Effect × Outcome Result)}

theorem done (outcome : Outcome α) (execution : Execution program) (state : σ) (reach : Nat)
    (changes : List (σ → σ)) :
    Traces dispatcher bound reach (.step (.ok (.done outcome, execution)) state) changes [] outcome
      state where
  completes := .done ..
  recorded known := by
    rw [Point.recorded, Point.progress, drive_done, resumeAmid_of_ready (by simp)]
    simp

theorem presented (later : Traces dispatcher bound reach
      (.answer effect execution (dispatcher.interpret effect state)) changes trace outcome left) :
    Traces dispatcher bound (reach + 1) (.step (.ok (.suspended effect, execution)) state) changes
      trace outcome left where
  completes := .presented later.completes
  recorded known := by
    rw [Point.recorded, progress_suspended]
    exact later.recorded known

theorem answered {result : Result} (later : Traces dispatcher bound reach
      (.step (execution.resume result) state) changes trace outcome left) :
    Traces dispatcher bound reach (.answer effect execution (.ready (.ok result), state)) changes
      ((effect, .ok result) :: trace) outcome left where
  completes := .answered later.completes
  recorded known := by
    have pushed : known ++ ((effect, .ok result) :: trace).toArray =
        known.push (effect, .ok result) ++ trace.toArray := by simp
    rw [pushed]
    exact later.recorded (known.push (effect, .ok result))

theorem failed (effect : Effect) (execution : Execution program) (error : EffectError) (state : σ)
    (reach : Nat) (changes : List (σ → σ)) :
    Traces dispatcher bound reach (.answer effect execution (.ready (.error error), state)) changes
      [(effect, .error error)] (.error error) state where
  completes := .failed ..
  recorded known := by
    rw [Point.recorded, Dispatcher.record, Point.progress, resumeAmid_of_ready (by simp)]
    simp

theorem waited {ticket : Nat} {change : σ → σ} (later : Traces dispatcher bound bound
      (.answer effect execution (dispatcher.again effect ticket (change state))) changes trace
      outcome left) :
    Traces dispatcher bound reach (.answer effect execution (.waiting ticket, state))
      (change :: changes) trace outcome left where
  completes := .waited later.completes
  recorded known := by
    rw [Point.recorded, Dispatcher.record, Point.progress, unseen, List.map_cons,
      resumeAmid_waiting]
    exact later.recorded known

end Traces

section
variable {changes : List (σ → σ)}
  (waits : ∀ effect (execution : Execution program) ticket state,
    resumeAmid dispatcher bound changes (.waiting effect ticket execution, state) =
      (.finished outcome, left) →
    ∀ reach, ∃ trace, Traces dispatcher bound reach
      (.answer effect execution (.waiting ticket, state)) changes trace outcome left)
include waits

theorem answer_traces {reach : Nat}
    (steps : ∀ (turn : Except Violation (Step α × Execution program)) state,
      resumeAmid dispatcher bound changes (drive dispatcher reach turn state) =
        (.finished outcome, left) →
      ∃ trace, Traces dispatcher bound reach (.step turn state) changes trace outcome left)
    (effect : Effect) (execution : Execution program) (given : Poll (Outcome Result) × σ)
    (finished : resumeAmid dispatcher bound changes
      ((Point.answer effect execution given).progress dispatcher reach) =
        (.finished outcome, left)) :
    ∃ trace, Traces dispatcher bound reach (.answer effect execution given) changes trace outcome
      left := by
  rcases given with ⟨⟨error | result⟩ | ticket, state⟩
  · rw [Point.progress, resumeAmid_of_ready (by simp)] at finished
    cases finished
    exact ⟨_, .failed ..⟩
  · obtain ⟨trace, traces⟩ := steps _ _ finished
    exact ⟨_, traces.answered⟩
  · exact waits effect execution ticket state finished reach

-- The induction is on the effects that the run may still present before it is taken up again.
theorem step_traces (reach : Nat) (turn : Except Violation (Step α × Execution program)) (state : σ)
    (finished : resumeAmid dispatcher bound changes (drive dispatcher reach turn state) =
      (.finished outcome, left)) :
    ∃ trace, Traces dispatcher bound reach (.step turn state) changes trace outcome left := by
  induction reach using Nat.strongRecOn generalizing turn state with
  | ind reach ih =>
    rcases turn with violation | ⟨effect | own, execution⟩
    · rw [drive_violated, resumeAmid_of_ready (by simp)] at finished
      cases finished
    · cases reach with
      | zero =>
        rw [drive, resumeAmid_of_ready (by simp)] at finished
        cases finished
      | succ reach =>
        have presented := progress_suspended dispatcher reach effect execution state
        rw [Point.progress] at presented
        rw [presented] at finished
        obtain ⟨trace, traces⟩ :=
          answer_traces waits (ih reach (Nat.lt_succ_self reach)) effect execution _ finished
        exact ⟨trace, traces.presented⟩
    · rw [drive_done, resumeAmid_of_ready (by simp)] at finished
      cases finished
      exact ⟨_, .done ..⟩

theorem point_traces (reach : Nat) (point : Point program σ)
    (finished : resumeAmid dispatcher bound changes (point.progress dispatcher reach) =
      (.finished outcome, left)) :
    ∃ trace, Traces dispatcher bound reach point changes trace outcome left := by
  cases point with
  | step turn state => exact step_traces waits reach turn state finished
  | answer effect execution given =>
    exact answer_traces waits (step_traces waits reach) effect execution given finished

end

-- The induction is on the changes that others may still make.
theorem finished_traces (changes : List (σ → σ)) (reach : Nat) (point : Point program σ)
    (finished : resumeAmid dispatcher bound changes (point.progress dispatcher reach) =
      (.finished outcome, left)) :
    ∃ trace, Traces dispatcher bound reach point changes trace outcome left := by
  induction changes generalizing reach point with
  | nil => exact point_traces nofun reach point finished
  | cons change later ih =>
    refine point_traces (fun effect execution ticket state taken reach => ?_) reach point finished
    rw [resumeAmid_waiting] at taken
    obtain ⟨trace, traces⟩ := ih _ _ taken
    exact ⟨trace, traces.waited⟩

theorem runAmid_traces {changes : List (σ → σ)} {state : σ}
    (finished : program.runAmid dispatcher bound changes state = (.finished outcome, left)) :
    ∃ trace, Traces dispatcher bound bound (.step (Execution.of program).start state) changes trace
      outcome left :=
  finished_traces changes bound _ finished

end
end Program
end EffectPrograms
