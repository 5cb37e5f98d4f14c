import EffectPrograms.Program.Combinators
import EffectPrograms.Program.ReadThrough
import EffectPrograms.Proofs.Transcript

set_option autoImplicit false

namespace EffectPrograms
variable {α β : Type}

-- What a caller knows of a program from the last step that it returned.
inductive Stage where
  | fresh
  | suspended
  | done
deriving DecidableEq

def Step.stage : Step α → Stage
  | .suspended _ => .suspended
  | .done _ => .done

theorem Step.stage_ne_fresh (step : Step α) : step.stage ≠ .fresh := by
  cases step <;> simp [Step.stage]

namespace Stage

def after (stage : Stage) (steps : List (Step α)) : Stage :=
  (steps.getLast?.map Step.stage).getD stage

theorem after_cons (stage : Stage) (step : Step α) (steps : List (Step α)) :
    stage.after (step :: steps) = step.stage.after steps := by
  cases last : steps.getLast? <;> simp [after, List.getLast?_cons, last]

theorem after_take_succ (stage : Stage) {steps : List (Step α)} {place : Nat} {step : Step α}
    (found : steps[place]? = some step) : stage.after (steps.take (place + 1)) = step.stage := by
  simp [after, List.take_add_one, found]

def admits : Stage → Call → Bool
  | .fresh, .start => true
  | .suspended, .resume _ => true
  | _, _ => false

theorem done_admits (call : Call) : Stage.done.admits call = false := by
  cases call <;> rfl

end Stage

namespace Program
variable {program : Program α}

-- Programs built from `perform`, `pure`, `fail`, `map`, `boxed`, `andThen`, `sequence` and
-- read-through.
inductive Built : {α : Type} → Program α → Prop where
  | perform (effect : Effect) : Built (perform effect)
  | pure {α : Type} (value : α) : Built (pure value)
  | fail {α : Type} (error : EffectError) : Built (fail error : Program α)
  | map {α β : Type} {program : Program α} (built : Built program) (f : α → β) :
      Built (program.map f)
  | boxed {α : Type} {program : Program α} (built : Built program) : Built program.boxed
  | andThen {α β : Type} {program : Program α} {next : α → Program β} (first : Built program)
      (second : ∀ value, Built (next value)) : Built (program.andThen next)
  | sequence {α : Type} {programs : Array (Program α)}
      (each : ∀ program, program ∈ programs → Built program) : Built (sequence programs)
  | readThrough (source : ReadThrough) : Built source.program

def calls (program : Program α) : List Call → program.State → List (Step α) × Option Violation
  | [], _ => ([], none)
  | call :: rest, state =>
      match program.call call state with
      | .error violation => ([], some violation)
      | .ok (step, state) =>
          let (steps, violation) := calls program rest state
          (step :: steps, violation)

section Turns
variable {τ : Type}

inductive Answered (holds : Stage → τ → Prop) : Except Violation (Step α × τ) → Prop where
  | intro (step : Step α) {inner : τ} (kept : holds step.stage inner) :
      Answered holds (.ok (step, inner))

inductive Refused : Except Violation (Step α × τ) → Prop where
  | intro (violation : Violation) : Refused (.error violation)

end Turns

-- An invariant that ties the state of a program to what its caller knows. Calls in turn are
-- answered and keep it, calls out of turn are refused.
structure Conforms (program : Program α) (holds : Stage → program.State → Prop) : Prop where
  initial : holds .fresh program.initial
  start {state : program.State} (valid : holds .fresh state) : Answered holds (program.start state)
  resume {state : program.State} (valid : holds .suspended state) (result : Result) :
    Answered holds (program.resume state result)
  startRefused {stage : Stage} {state : program.State} (valid : holds stage state)
    (apart : stage ≠ .fresh) : Refused (program.start state)
  resumeRefused {stage : Stage} {state : program.State} (valid : holds stage state)
    (apart : stage ≠ .suspended) (result : Result) : Refused (program.resume state result)

namespace Conforms

def performStage : Perform.State → Stage
  | .ready => .fresh
  | .suspended => .suspended
  | .finished => .done

theorem perform (effect : Effect) :
    Conforms (perform effect) fun stage state => performStage state = stage where
  initial := rfl
  start {state} valid := by
    cases state with
    | ready => exact .intro (.suspended effect) rfl
    | suspended | finished => cases valid
  resume {state} valid result := by
    cases state with
    | suspended => exact .intro (.done (effect.accept result)) rfl
    | ready | finished => cases valid
  startRefused {stage state} valid apart := by
    cases state with
    | ready => exact absurd valid.symm apart
    | suspended | finished => exact .intro .alreadyStarted
  resumeRefused {stage state} valid apart result := by
    cases state with
    | suspended => exact absurd valid.symm apart
    | ready | finished => exact .intro .requestNotSuspended

def finishStage : Bool → Stage
  | false => .fresh
  | true => .done

theorem finish (outcome : Outcome α) :
    Conforms (finish outcome) fun stage state => finishStage state = stage where
  initial := rfl
  start {state} valid := by
    cases state with
    | false => exact .intro (.done outcome) rfl
    | true => cases valid
  resume {state} valid _ := by cases state <;> cases valid
  startRefused {stage state} valid apart := by
    cases state with
    | false => exact absurd valid.symm apart
    | true => exact .intro .alreadyStarted
  resumeRefused _ _ _ := .intro .neverSuspends

def readThroughStage : ReadThrough.State → Stage
  | .ready => .fresh
  | .checkingCache | .readingRecord | .fillingCache _ => .suspended
  | .finished => .done

theorem readThrough (source : ReadThrough) :
    Conforms source.program fun stage state => readThroughStage state = stage where
  initial := rfl
  start {state} valid := by
    cases state with
    | ready => exact .intro (.suspended source.lookUp) rfl
    | checkingCache | readingRecord | fillingCache _ | finished => cases valid
  resume {state} valid result := by
    cases state with
    | ready | finished => cases valid
    | checkingCache =>
      dsimp only [ReadThrough.program]
      split
      · exact .intro (.done _) rfl
      · exact .intro (.suspended source.read) rfl
      · split
        · exact .intro (.done _) rfl
        · exact .intro (.suspended source.read) rfl
    | readingRecord =>
      dsimp only [ReadThrough.program]
      split
      · exact .intro (.done _) rfl
      · exact .intro (.done (.ok none)) rfl
      · exact .intro (.suspended _) rfl
    | fillingCache value =>
      dsimp only [ReadThrough.program]
      split
      · exact .intro (.done _) rfl
      · exact .intro (.done (.ok (some value))) rfl
  startRefused {stage state} valid apart := by
    cases state with
    | ready => exact absurd valid.symm apart
    | checkingCache | readingRecord | fillingCache _ | finished => exact .intro .alreadyStarted
  resumeRefused {stage state} valid apart result := by
    cases state with
    | ready => exact .intro .notStarted
    | checkingCache | readingRecord | fillingCache _ => exact absurd valid.symm apart
    | finished => exact .intro .alreadyCompleted

variable {holds : Stage → program.State → Prop}

theorem boxed (conforms : Conforms program holds) : Conforms program.boxed holds where
  initial := conforms.initial
  start := conforms.start
  resume := conforms.resume
  startRefused := conforms.startRefused
  resumeRefused := conforms.resumeRefused

-- The function of a mapped program is spent exactly when the program is done.
def MapHolds (holds : Stage → program.State → Prop) (stage : Stage)
    (state : program.State × Bool) : Prop :=
  holds stage state.1 ∧ state.2 = decide (stage = .done)

theorem map_step (f : α → β) {turn : Turn program} (answered : Answered holds turn) :
    Answered (MapHolds holds) (Map.step f false turn) := by
  obtain ⟨effect | outcome, kept⟩ := answered
  · exact .intro (.suspended effect) ⟨kept, rfl⟩
  · exact .intro (.done (outcome.map f)) ⟨kept, rfl⟩

theorem map_refused (f : α → β) (spent : Bool) {turn : Turn program} (refused : Refused turn) :
    Refused (Map.step f spent turn) := by
  obtain ⟨violation⟩ := refused
  exact .intro violation

theorem map (conforms : Conforms program holds) (f : α → β) :
    Conforms (program.map f) (MapHolds holds) where
  initial := ⟨conforms.initial, rfl⟩
  start {state} valid := by
    rcases state with ⟨inner, spent⟩
    obtain ⟨valid, rfl⟩ := valid
    exact map_step f (conforms.start valid)
  resume {state} valid result := by
    rcases state with ⟨inner, spent⟩
    obtain ⟨valid, rfl⟩ := valid
    exact map_step f (conforms.resume valid result)
  startRefused valid apart := map_refused f _ (conforms.startRefused valid.1 apart)
  resumeRefused valid apart result := map_refused f _ (conforms.resumeRefused valid.1 apart result)

section AndThen
variable {next : α → Program β} {later : ∀ value, Stage → (next value).State → Prop}

-- A delegation leaves its first stage as soon as the first program is done, and its last step may
-- leave it in the second.
def AndThenHolds (holds : Stage → program.State → Prop)
    (later : ∀ value, Stage → (next value).State → Prop) (stage : Stage) :
    AndThen.State program next → Prop
  | .first inner => stage ≠ .done ∧ holds stage inner
  | .second value built => stage ≠ .fresh ∧ later value stage built.state
  | .finished => stage = .done

theorem afterFirst_answered (rest : ∀ value, Conforms (next value) (later value))
    {turn : Turn program} (answered : Answered holds turn) :
    Answered (AndThenHolds holds later) (AndThen.afterFirst turn) := by
  obtain ⟨effect | error | value, kept⟩ := answered
  · exact .intro (.suspended effect) ⟨by simp [Step.stage], kept⟩
  · exact .intro (.done (.error error)) rfl
  · have started := (rest value).start (rest value).initial
    dsimp only [AndThen.afterFirst]
    generalize (next value).start (next value).initial = turn at started ⊢
    obtain ⟨step, kept⟩ := started
    exact .intro step ⟨step.stage_ne_fresh, kept⟩

theorem afterFirst_refused {turn : Turn program} (refused : Refused turn) :
    Refused (AndThen.afterFirst turn : Except Violation (Step β × AndThen.State program next)) := by
  obtain ⟨violation⟩ := refused
  exact .intro violation

theorem afterSecond_refused (value : α) (built : Started (next value)) {turn : Turn (next value)}
    (refused : Refused turn) :
    Refused (AndThen.afterSecond value built turn :
      Except Violation (Step β × AndThen.State program next)) := by
  obtain ⟨violation⟩ := refused
  exact .intro violation

theorem afterSecond_answered (value : α) (built : Started (next value)) {turn : Turn (next value)}
    (answered : Answered (later value) turn) :
    Answered (AndThenHolds holds later) (AndThen.afterSecond value built turn) := by
  obtain ⟨effect | outcome, kept⟩ := answered
  · exact .intro (.suspended effect) ⟨by simp [Step.stage], kept⟩
  · exact .intro (.done outcome) rfl

theorem andThen (first : Conforms program holds)
    (rest : ∀ value, Conforms (next value) (later value)) :
    Conforms (program.andThen next) (AndThenHolds holds later) where
  initial := ⟨by simp, first.initial⟩
  start {state} valid := by
    rcases state with inner | ⟨value, built⟩ | _
    · exact afterFirst_answered rest (first.start valid.2)
    · exact absurd rfl valid.1
    · cases valid
  resume {state} valid result := by
    rcases state with inner | ⟨value, built⟩ | _
    · exact afterFirst_answered rest (first.resume valid.2 result)
    · have answered := (rest value).resume valid.2 result
      rw [← built.same] at answered
      exact afterSecond_answered value built answered
    · cases valid
  startRefused {stage state} valid apart := by
    rcases state with inner | ⟨value, built⟩ | _
    · exact afterFirst_refused (first.startRefused valid.2 apart)
    · exact .intro .alreadyStarted
    · exact .intro .alreadyStarted
  resumeRefused {stage state} valid apart result := by
    rcases state with inner | ⟨value, built⟩ | _
    · exact afterFirst_refused (first.resumeRefused valid.2 apart result)
    · have refused := (rest value).resumeRefused valid.2 apart result
      rw [← built.same] at refused
      exact afterSecond_refused value built refused
    · exact .intro .alreadyCompleted

end AndThen

section Sequence
variable {programs : Array (Program α)} {each : ∀ program : Program α, Stage → program.State → Prop}

-- The program whose turn it is has suspended; the others are not looked at.
inductive SequenceHolds (each : ∀ program : Program α, Stage → program.State → Prop) :
    Stage → Sequence.State programs → Prop where
  | ready : SequenceHolds each .fresh .ready
  | running (values : List α) {turn : Fin programs.size} {inner : _}
      (kept : each _ .suspended inner) :
      SequenceHolds each .suspended (.running values turn inner)
  | stopped : SequenceHolds each .done .stopped

theorem advance_answered (values : List α) {turn : Fin programs.size}
    {startLater : List α → Sequence.Advance programs}
    (rest : ∀ values, Answered (SequenceHolds each) (startLater values)) {answer : _}
    (answered : Answered (each _) answer) :
    Answered (SequenceHolds each) (Sequence.advance values turn startLater answer) := by
  obtain ⟨effect | error | value, kept⟩ := answered
  · exact .intro (.suspended effect) (.running values kept)
  · exact .intro (.done (.error error)) .stopped
  · exact rest (value :: values)

theorem startFrom_answered
    (conform : ∀ program, program ∈ programs → Conforms program (each program)) (place : Nat)
    (values : List α) :
    Answered (SequenceHolds each) (Sequence.startFrom programs place values) := by
  induction left : programs.size - place generalizing place values with
  | zero =>
    rw [Sequence.startFrom, dif_neg (by omega)]
    exact .intro (.done (.ok values.reverse)) .stopped
  | succ left ih =>
    have inside : place < programs.size := by omega
    have conforms := conform _ (Array.getElem_mem inside)
    rw [Sequence.startFrom, dif_pos inside]
    exact advance_answered values (fun values => ih (place + 1) values (by omega))
      (conforms.start conforms.initial)

theorem sequence (conform : ∀ program, program ∈ programs → Conforms program (each program)) :
    Conforms (sequence programs) (SequenceHolds each) where
  initial := .ready
  start valid := by
    cases valid
    exact startFrom_answered conform 0 []
  resume valid result := by
    cases valid with
    | @running values turn _ kept =>
      have conforms := conform _ (Array.getElem_mem turn.isLt)
      exact advance_answered values (startFrom_answered conform _) (conforms.resume kept result)
  startRefused valid apart := by
    cases valid with
    | ready => exact absurd rfl apart
    | running | stopped => exact .intro .alreadyStarted
  resumeRefused valid apart result := by
    cases valid with
    | running => exact absurd rfl apart
    | ready | stopped => exact .intro .sequenceNotSuspended

end Sequence

end Conforms

theorem Built.conforms (built : Built program) : ∃ holds, Conforms program holds := by
  induction built with
  | perform effect => exact ⟨_, .perform effect⟩
  | pure value => exact ⟨_, .finish (.ok value)⟩
  | fail error => exact ⟨_, .finish (.error error)⟩
  | map _ f ih =>
    obtain ⟨_, conforms⟩ := ih
    exact ⟨_, conforms.map f⟩
  | boxed _ ih =>
    obtain ⟨_, conforms⟩ := ih
    exact ⟨_, conforms.boxed⟩
  | andThen _ _ ih rest =>
    obtain ⟨_, first⟩ := ih
    obtain ⟨_, rest⟩ := Classical.skolem.mp rest
    exact ⟨_, first.andThen rest⟩
  | @sequence α programs _ ih =>
    have conform : ∀ program : Program α, ∃ holds, program ∈ programs → Conforms program holds := by
      intro program
      by_cases member : program ∈ programs
      · obtain ⟨holds, conforms⟩ := ih program member
        exact ⟨holds, fun _ => conforms⟩
      · exact ⟨fun _ _ => False, fun present => absurd present member⟩
    obtain ⟨each, conform⟩ := Classical.skolem.mp conform
    exact ⟨_, .sequence conform⟩
  | readThrough source => exact ⟨_, .readThrough source⟩

-- A sequence of calls is answered as long as the calls are in turn, and no longer: the steps that
-- were returned, and the refusal of the call after them if there is one.
structure InTurn (stage : Stage) (sequence : List Call) (steps : List (Step α))
    (refusal : Option Violation) : Prop where
  short : steps.length ≤ sequence.length
  admitted : ∀ place call, place < steps.length → sequence[place]? = some call →
    (stage.after (steps.take place)).admits call = true
  refused : ∀ call, sequence[steps.length]? = some call →
    (stage.after steps).admits call = false ∧ refusal.isSome
  unrefused : steps.length = sequence.length → refusal = none

theorem InTurn.answered {stage : Stage} {call : Call} {rest : List Call} {step : Step α}
    {steps : List (Step α)} {refusal : Option Violation} (inTurn : stage.admits call = true)
    (later : InTurn step.stage rest steps refusal) :
    InTurn stage (call :: rest) (step :: steps) refusal where
  short := Nat.succ_le_succ later.short
  admitted := by
    rintro (_ | place) other inside found
    · obtain rfl : call = other := by simpa using found
      exact inTurn
    · rw [List.take_succ_cons, Stage.after_cons]
      exact later.admitted place other (Nat.lt_of_succ_lt_succ inside) (by simpa using found)
  refused other found := by
    rw [Stage.after_cons]
    exact later.refused other (by simpa using found)
  unrefused full := later.unrefused (Nat.succ.inj full)

theorem InTurn.done_last {stage : Stage} {sequence : List Call} {steps : List (Step α)}
    {refusal : Option Violation} (inTurn : InTurn stage sequence steps refusal) {place : Nat}
    {outcome : Outcome α} (found : steps[place]? = some (.done outcome)) :
    place + 1 = steps.length := by
  have inside : place < steps.length := (List.getElem?_eq_some_iff.mp found).1
  rcases Nat.lt_or_eq_of_le (Nat.succ_le_of_lt inside) with later | last
  · have short := inTurn.short
    have admitted := inTurn.admitted (place + 1) _ later (List.getElem?_eq_getElem (by omega))
    rw [Stage.after_take_succ _ found] at admitted
    exact absurd admitted (by simp [Step.stage, Stage.done_admits])
  · exact last

section Calls
variable {holds : Stage → program.State → Prop}

theorem Conforms.call_answered (conforms : Conforms program holds) {stage : Stage}
    {state : program.State} (valid : holds stage state) {call : Call}
    (inTurn : stage.admits call = true) : Answered holds (program.call call state) := by
  cases stage with
  | fresh =>
    cases call with
    | start => exact conforms.start valid
    | resume => cases inTurn
  | suspended =>
    cases call with
    | start => cases inTurn
    | resume result => exact conforms.resume valid result
  | done => cases call <;> cases inTurn

theorem Conforms.call_refused (conforms : Conforms program holds) {stage : Stage}
    {state : program.State} (valid : holds stage state) {call : Call}
    (outOfTurn : stage.admits call = false) : Refused (program.call call state) := by
  cases call with
  | start =>
    refine conforms.startRefused valid fun fresh => ?_
    subst fresh
    cases outOfTurn
  | resume result =>
    refine conforms.resumeRefused valid (fun suspended => ?_) result
    subst suspended
    cases outOfTurn

-- The induction is on the calls. The stage in which they begin is what the invariant hangs on.
theorem Conforms.calls_inTurn (conforms : Conforms program holds) (sequence : List Call)
    {stage : Stage} {state : program.State} (valid : holds stage state) :
    InTurn stage sequence (program.calls sequence state).1 (program.calls sequence state).2 := by
  induction sequence generalizing stage state with
  | nil => exact ⟨Nat.le_refl _, by simp [calls], by simp, fun _ => rfl⟩
  | cons call rest ih =>
    rcases inTurn : stage.admits call with _ | _
    · have refused := conforms.call_refused valid inTurn
      dsimp only [calls]
      generalize program.call call state = turn at refused ⊢
      obtain ⟨violation⟩ := refused
      exact ⟨Nat.zero_le _, by simp, by simp [Stage.after, inTurn], by simp⟩
    · have answered := conforms.call_answered valid inTurn
      dsimp only [calls]
      generalize program.call call state = turn at answered ⊢
      obtain ⟨step, kept⟩ := answered
      exact (ih kept).answered inTurn

end Calls

section Driving
variable {holds : Stage → program.State → Prop} {σ : Type}

-- An execution that is left waiting is in the care of the guard and of the invariant.
def Sound (holds : Stage → program.State → Prop) : Progress program → Prop
  | .finished _ => True
  | .violated _ => False
  | .waiting _ _ execution | .bounded _ execution =>
      holds .suspended execution.state ∧
        ∃ effect, execution.phase = (Step.suspended effect : Step α).phase

theorem Conforms.drive_sound (conforms : Conforms program holds) (dispatcher : Dispatcher σ)
    (bound : Nat) (execution : Execution program) {turn : Turn program}
    (answered : Answered holds turn) (state : σ) :
    Sound holds (drive dispatcher bound (execution.observe turn) state).1 := by
  induction bound generalizing execution turn state with
  | zero =>
    obtain ⟨effect | outcome, kept⟩ := answered
    · exact ⟨kept, effect, rfl⟩
    · trivial
  | succ bound ih =>
    obtain ⟨effect | outcome, kept⟩ := answered
    · rename_i inner
      rcases interpreted : dispatcher.interpret effect state with ⟨⟨error | result⟩ | ticket, left⟩
      · simp only [Execution.observe, drive, interpreted, Sound]
      · obtain ⟨later, driven⟩ := drive_resumes bound execution inner interpreted
        rw [driven]
        exact ih later (conforms.resume kept result) left
      · simp only [Execution.observe, drive, interpreted]
        exact ⟨kept, effect, rfl⟩
    · trivial

theorem Conforms.resumeWaiting_sound (conforms : Conforms program holds) {effect : Effect}
    {ticket : Nat} {execution : Execution program}
    (sound : Sound holds (.waiting effect ticket execution)) (dispatcher : Dispatcher σ)
    (bound : Nat) (state : σ) :
    Sound holds (resumeWaiting dispatcher bound effect ticket execution state).1 := by
  obtain ⟨valid, pending, phase⟩ := sound
  rcases asked : dispatcher.again effect ticket state with ⟨⟨error | result⟩ | ticket, left⟩
  · simp only [resumeWaiting, asked, Sound]
  · have resumed : execution.resume result =
        execution.observe (program.resume execution.state result) := by
      simp only [Execution.resume, Execution.call, Execution.refusal?, phase, Step.phase]
      rfl
    simp only [resumeWaiting, asked, resumed]
    exact conforms.drive_sound dispatcher bound execution (conforms.resume valid result) left
  · simp only [resumeWaiting, asked]
    exact ⟨valid, pending, phase⟩

-- What a driver comes to on a program, also after waiting for some of its effects.
inductive Driven (program : Program α) : Progress program → Prop where
  | run {σ : Type} (dispatcher : Dispatcher σ) (bound : Nat) (state : σ) :
      Driven program (program.run dispatcher bound state).1
  | again {σ : Type} {effect : Effect} {ticket : Nat} {execution : Execution program}
      (waits : Driven program (.waiting effect ticket execution)) (dispatcher : Dispatcher σ)
      (bound : Nat) (state : σ) :
      Driven program (resumeWaiting dispatcher bound effect ticket execution state).1

theorem Conforms.driven_sound (conforms : Conforms program holds) {progress : Progress program}
    (driven : Driven program progress) : Sound holds progress := by
  induction driven with
  | run dispatcher bound state =>
    exact conforms.drive_sound dispatcher bound (Execution.of program)
      (conforms.start conforms.initial) state
  | again _ dispatcher bound state ih =>
    exact conforms.resumeWaiting_sound ih dispatcher bound state

end Driving

/-- A built program answers the calls in turn and refuses the first that is not: a start after its
start, a resumption where its last step was not a suspension. Nothing is answered once it is done,
and no driver, which only makes calls in turn, meets a refusal. -/
theorem built_conforms (built : Built program) :
    (∀ sequence : List Call,
      let made := program.calls sequence program.initial
      InTurn .fresh sequence made.1 made.2 ∧
        ∀ place outcome, made.1[place]? = some (.done outcome) → place + 1 = made.1.length) ∧
    ∀ progress, Driven program progress → ∀ violation, progress ≠ .violated violation := by
  obtain ⟨holds, conforms⟩ := built.conforms
  refine ⟨fun sequence => ?_, ?_⟩
  · have inTurn := conforms.calls_inTurn sequence conforms.initial
    exact ⟨inTurn, fun place outcome found => inTurn.done_last found⟩
  · rintro _ driven violation rfl
    exact conforms.driven_sound driven

theorem built_conforms_lookup :
    let program : Program Nat := (perform (.cache (.get "k"))).andThen fun _ => pure 0
    let made := program.calls [.start, .resume (.cache (.lookup .miss)), .start] program.initial
    Built program ∧
      InTurn .fresh [.start, .resume (.cache (.lookup .miss)), .start] made.1 made.2 ∧
      made.1.length = 2 ∧ made.2 = some .alreadyStarted :=
  have built : Built ((perform (.cache (.get "k"))).andThen fun _ => pure 0) :=
    .andThen (.perform _) fun _ => .pure 0
  ⟨built, ((built_conforms built).1 _).1, rfl, rfl⟩

end Program
end EffectPrograms
