import EffectPrograms.Program.Execution
import Mathlib.Data.List.Induction

set_option autoImplicit false

namespace EffectPrograms.Execution
variable {α : Type} {program : Program α}

-- A call at the guard: refused, or forwarded to the program, which returns a step unless it breaks
-- off itself.
inductive Event (α : Type) where
  | refused (call : Call) (violation : Violation)
  | forwarded (call : Call) (answer : Except Violation (Step α))

namespace Event

def call : Event α → Call
  | refused call _ | forwarded call _ => call

def answer? : Event α → Option (Except Violation (Step α))
  | refused .. => none
  | forwarded _ answer => some answer

def step? : Event α → Option (Step α)
  | forwarded _ (.ok step) => some step
  | _ => none

end Event

def answers (events : List (Event α)) : List (Except Violation (Step α)) :=
  events.filterMap Event.answer?

def steps (events : List (Event α)) : List (Step α) := events.filterMap Event.step?

-- The protocol: a start if nothing was forwarded before, a resumption if the program suspended when
-- a call was forwarded last.
def Admitted (events : List (Event α)) : Call → Prop
  | .start => answers events = []
  | .resume _ => ∃ effect, (answers events).getLast? = some (.ok (.suspended effect))

def refusal (events : List (Event α)) : Call → Violation
  | .start => .alreadyStarted
  | .resume _ => if (answers events).isEmpty then .notStarted else .alreadyCompleted

-- The events that the protocol prescribes, with the state that the forwarded calls lead the program
-- to. One that breaks off has no state to go on from.
inductive Prescribed (program : Program α) :
    List (Event α) → Option program.State → Prop where
  | begun : Prescribed program [] (some program.initial)
  | refused {events : List (Event α)} {state : program.State}
      (before : Prescribed program events (some state)) {call : Call}
      (outside : ¬Admitted events call) :
      Prescribed program (events ++ [.refused call (refusal events call)]) (some state)
  | returned {events : List (Event α)} {state next : program.State}
      (before : Prescribed program events (some state)) {call : Call} {step : Step α}
      (admitted : Admitted events call) (answer : program.call call state = .ok (step, next)) :
      Prescribed program (events ++ [.forwarded call (.ok step)]) (some next)
  | broken {events : List (Event α)} {state : program.State}
      (before : Prescribed program events (some state)) {call : Call} {violation : Violation}
      (admitted : Admitted events call) (answer : program.call call state = .error violation) :
      Prescribed program (events ++ [.forwarded call (.error violation)]) none

theorem Prescribed.ended {events : List (Event α)} (prescribed : Prescribed program events none) :
    ∃ before call state violation, events = before ++ [.forwarded call (.error violation)] ∧
      Prescribed program before (some state) ∧ Admitted before call ∧
        program.call call state = .error violation := by
  cases prescribed with
  | broken before admitted answer => exact ⟨_, _, _, _, rfl, before, admitted, answer⟩

-- Calls at the guard, one after another. A refusal leaves the execution as it was; there is none
-- once the program has broken off.
structure Course (program : Program α) where
  events : List (Event α)
  execution : Option (Execution program)

def Course.make (course : Course program) (call : Call) : Course program :=
  match course.execution with
  | none => course
  | some execution =>
      match execution.call call with
      | .ok (step, later) => ⟨course.events ++ [.forwarded call (.ok step)], some later⟩
      | .error violation =>
          if (execution.refusal? call).isSome then
            ⟨course.events ++ [.refused call violation], some execution⟩
          else ⟨course.events ++ [.forwarded call (.error violation)], none⟩

def course (program : Program α) (calls : List Call) : Course program :=
  calls.foldl Course.make ⟨[], some (.of program)⟩

theorem course_snoc (program : Program α) (calls : List Call) (call : Call) :
    course program (calls ++ [call]) = (course program calls).make call := by
  rw [course, List.foldl_append]
  rfl

structure Tells (execution : Execution program) (steps : List (Step α)) : Prop where
  suspensions : execution.suspensions = steps.countP fun step => !step.isDone
  pending : execution.pending? = (steps.getLast?.bind Step.pending?).map fun effect =>
    (effect.family, effect.operation)
  finished : execution.isFinished = true ↔ ∃ outcome, steps.getLast? = some (.done outcome)

section Snoc
variable (events : List (Event α)) (event : Event α)

theorem answers_snoc : answers (events ++ [event]) = answers events ++ event.answer?.toList := by
  cases answered : event.answer? <;> simp [answers, answered]

theorem steps_snoc : steps (events ++ [event]) = steps events ++ event.step?.toList := by
  cases returned : event.step? <;> simp [steps, returned]

end Snoc

def phaseAfter (steps : List (Step α)) : Phase := (steps.getLast?.map Step.phase).getD .ready

-- An execution that stands after these events: every call that was forwarded has returned, and the
-- last of the steps decides the phase.
structure Stands (execution : Execution program) (events : List (Event α)) : Prop where
  answers_eq : answers events = (steps events).map .ok
  phase_eq : execution.phase = phaseAfter (steps events)
  suspensions_eq : execution.suspensions = (steps events).countP fun step => !step.isDone

namespace Stands
variable {execution : Execution program} {events : List (Event α)}

theorem begun (program : Program α) : (Execution.of program).Stands [] := ⟨rfl, rfl, rfl⟩

theorem refused (stands : execution.Stands events) (call : Call) (violation : Violation) :
    execution.Stands (events ++ [.refused call violation]) := by
  have answered : answers (events ++ [.refused call violation]) = answers events := by
    simp [answers_snoc, Event.answer?]
  have returned : steps (events ++ [.refused call violation]) = steps events := by
    simp [steps_snoc, Event.step?]
  constructor
  · rw [answered, returned, stands.answers_eq]
  · rw [returned, stands.phase_eq]
  · rw [returned, stands.suspensions_eq]

theorem returned (stands : execution.Stands events) (call : Call) (step : Step α)
    (next : program.State) :
    Stands (⟨next, step.phase, execution.suspensions + if step.isDone then 0 else 1⟩ :
      Execution program) (events ++ [.forwarded call (.ok step)]) := by
  have returned : steps (events ++ [.forwarded call (.ok step)]) = steps events ++ [step] :=
    steps_snoc ..
  constructor
  · rw [returned, answers_snoc, stands.answers_eq]
    simp [Event.answer?]
  · simp [returned, phaseAfter]
  · rw [returned, List.countP_append, stands.suspensions_eq]
    cases step <;> rfl

theorem tells (stands : execution.Stands events) : execution.Tells (steps events) := by
  obtain ⟨-, phase, suspensions⟩ := stands
  refine ⟨suspensions, ?_, ?_⟩
  · rcases last : (steps events).getLast? with _ | effect | outcome <;>
      simp [pending?, phase, phaseAfter, last, Step.phase, Step.pending?]
  · rcases last : (steps events).getLast? with _ | effect | outcome <;>
      simp [isFinished, phase, phaseAfter, last, Step.phase]

end Stands

inductive Judged (execution : Execution program) (events : List (Event α)) (call : Call) :
    Prop where
  | admitted (inTurn : Admitted events call) (passes : execution.refusal? call = none)
  | refused (outside : ¬Admitted events call)
      (refuses : execution.refusal? call = some (refusal events call))

-- The cases are those of the last step that was returned: on it alone phase and protocol depend.
theorem Stands.judged {execution : Execution program} {events : List (Event α)}
    (stands : execution.Stands events) (call : Call) : execution.Judged events call := by
  have phase := stands.phase_eq
  have answered : (answers events).getLast? = (steps events).getLast?.map .ok := by
    rw [stands.answers_eq, List.getLast?_map]
  rw [phaseAfter] at phase
  generalize (steps events).getLast? = last at answered phase
  rcases last with _ | effect | outcome
  · have nothing : answers events = [] := List.getLast?_eq_none_iff.mp answered
    cases call with
    | start => exact .admitted nothing (by simp [refusal?, phase])
    | resume =>
      exact .refused (by simp [Admitted, nothing]) (by simp [refusal?, phase, refusal, nothing])
  · have something : answers events ≠ [] := by
      intro nothing
      simp [nothing] at answered
    cases call with
    | start => exact .refused something (by simp [refusal?, phase, Step.phase, refusal])
    | resume => exact .admitted ⟨effect, answered⟩ (by simp [refusal?, phase, Step.phase])
  · have something : answers events ≠ [] := by
      intro nothing
      simp [nothing] at answered
    cases call with
    | start => exact .refused something (by simp [refusal?, phase, Step.phase, refusal])
    | resume =>
      refine .refused ?_ (by simp [refusal?, phase, Step.phase, refusal, something])
      simp [Admitted, answered]

section Making
variable {events : List (Event α)} {execution : Execution program} {call : Call}

theorem make_refused {violation : Violation} (refuses : execution.refusal? call = some violation) :
    Course.make ⟨events, some execution⟩ call =
      ⟨events ++ [.refused call violation], some execution⟩ := by
  simp [Course.make, Execution.call, refuses]

theorem make_returned {step : Step α} {next : program.State}
    (passes : execution.refusal? call = none)
    (answer : program.call call execution.state = .ok (step, next)) :
    Course.make ⟨events, some execution⟩ call =
      ⟨events ++ [.forwarded call (.ok step)],
        some ⟨next, step.phase, execution.suspensions + if step.isDone then 0 else 1⟩⟩ := by
  simp [Course.make, Execution.call, passes, answer, observe]

theorem make_broken {violation : Violation} (passes : execution.refusal? call = none)
    (answer : program.call call execution.state = .error violation) :
    Course.make ⟨events, some execution⟩ call =
      ⟨events ++ [.forwarded call (.error violation)], none⟩ := by
  simp [Course.make, Execution.call, passes, answer, observe]

end Making

-- A course that keeps to the protocol and has come through these calls, unless the program broke
-- off in one of them.
structure Course.Follows (course : Course program) (calls : List Call) : Prop where
  prescribed : Prescribed program course.events (course.execution.map Execution.state)
  recorded : course.events.map Event.call <+: calls
  standing : ∀ execution, course.execution = some execution →
    course.events.map Event.call = calls ∧ execution.Stands course.events

theorem Course.Follows.make {course : Course program} {calls : List Call}
    (follows : course.Follows calls) (call : Call) :
    (course.make call).Follows (calls ++ [call]) := by
  rcases course with ⟨events, _ | execution⟩
  · exact ⟨follows.prescribed, follows.recorded.trans (List.prefix_append ..), nofun⟩
  · obtain ⟨rfl, stands⟩ := follows.standing execution rfl
    have prescribed : Prescribed program events (some execution.state) := follows.prescribed
    have recorded (event : Event α) (made : event.call = call) :
        (events ++ [event]).map Event.call = events.map Event.call ++ [call] := by
      simp [made]
    cases stands.judged call with
    | refused outside refuses =>
      have same := recorded (.refused call (refusal events call)) rfl
      rw [make_refused refuses]
      refine ⟨.refused prescribed outside, same ▸ List.prefix_rfl, ?_⟩
      rintro _ ⟨⟩
      exact ⟨same, stands.refused call _⟩
    | admitted inTurn passes =>
      rcases answer : program.call call execution.state with violation | ⟨step, next⟩
      · have same := recorded (.forwarded call (.error violation)) rfl
        rw [make_broken passes answer]
        exact ⟨.broken prescribed inTurn answer, same ▸ List.prefix_rfl, nofun⟩
      · have same := recorded (.forwarded call (.ok step)) rfl
        rw [make_returned passes answer]
        refine ⟨.returned prescribed inTurn answer, same ▸ List.prefix_rfl, ?_⟩
        rintro _ ⟨⟩
        exact ⟨same, stands.returned call step next⟩

theorem course_follows (program : Program α) (calls : List Call) :
    (course program calls).Follows calls := by
  induction calls using List.reverseRecOn with
  | nil =>
    refine ⟨.begun, List.prefix_rfl, ?_⟩
    rintro _ ⟨⟩
    exact ⟨rfl, .begun program⟩
  | append_singleton calls call ih =>
    rw [course_snoc]
    exact ih.make call

/-- The guard keeps any program to the protocol, also one that would answer whatever it is asked. A
start is forwarded if nothing was forwarded before, and a resumption if the last call that was
forwarded returned a suspension; any other call is refused, and leaves the program and the guard as
they were. Between calls the guard tells how many suspensions were returned, what the last step
waits for, and whether it was the end. Only a program that breaks off in a call it was due ends the
calls before they are all made. -/
theorem guard_admits_protocol (program : Program α) (calls : List Call) :
    let made := course program calls
    Prescribed program made.events (made.execution.map Execution.state) ∧
      made.events.map Event.call <+: calls ∧
      (made.execution = none →
        ∃ before call state violation,
          made.events = before ++ [.forwarded call (.error violation)] ∧
            Prescribed program before (some state) ∧ Admitted before call ∧
              program.call call state = .error violation) ∧
      ∀ execution, made.execution = some execution →
        made.events.map Event.call = calls ∧
        execution.Tells (steps made.events) ∧
        ∀ call,
          (Admitted made.events call →
            execution.call call = execution.observe (program.call call execution.state)) ∧
          (¬Admitted made.events call →
            let refused := refusal made.events call
            execution.call call = .error refused ∧
              course program (calls ++ [call]) =
                ⟨made.events ++ [.refused call refused], some execution⟩) := by
  obtain ⟨prescribed, recorded, standing⟩ := course_follows program calls
  refine ⟨prescribed, recorded, fun ended => ?_, fun execution stays => ?_⟩
  · rw [ended] at prescribed
    exact prescribed.ended
  · obtain ⟨same, stands⟩ := standing execution stays
    refine ⟨same, stands.tells, fun call => ?_⟩
    cases stands.judged call with
    | admitted inTurn passes =>
      have forwarded : execution.call call =
          execution.observe (program.call call execution.state) := by
        rw [Execution.call, passes]
      exact ⟨fun _ => forwarded, fun outside => absurd inTurn outside⟩
    | refused outside refuses =>
      refine ⟨fun inTurn => absurd inTurn outside, fun _ => ⟨?_, ?_⟩⟩
      · rw [Execution.call, refuses]
      · rw [course_snoc, ← make_refused refuses, ← stays]

end EffectPrograms.Execution
