import EffectPrograms.Proofs.Delegation
import EffectPrograms.Proofs.Protocol

set_option autoImplicit false

namespace EffectPrograms
namespace Program
variable {α β γ σ : Type}

-- The steps from a turn on when results are fed one after another, and the refusal that ends them,
-- if one does. Nothing is fed to a program that is done.
def feed (program : Program α) : List Result → Turn program → List (Step α) × Option Violation
  | _, .error violation => ([], some violation)
  | _, .ok (.done outcome, _) => ([.done outcome], none)
  | [], .ok (.suspended effect, _) => ([.suspended effect], none)
  | result :: results, .ok (.suspended effect, inner) =>
      let (steps, refusal) := feed program results (program.resume inner result)
      (.suspended effect :: steps, refusal)

def fed (program : Program α) (results : List Result) : List (Step α) × Option Violation :=
  program.feed results (program.start program.initial)

def Equivalent (program other : Program α) : Prop :=
  ∀ results, program.fed results = other.fed results

-- Turns of two programs from which both are seen to go on alike.
def Matches (program other : Program α) (turn : Turn program) (twin : Turn other) : Prop :=
  ∀ results, program.feed results turn = other.feed results twin

section
variable {program other third : Program α}

@[simp] theorem feed_violated (program : Program α) (results : List Result)
    (violation : Violation) : program.feed results (.error violation) = ([], some violation) := by
  cases results <;> rfl

@[simp] theorem feed_done (program : Program α) (results : List Result) (outcome : Outcome α)
    (inner : program.State) :
    program.feed results (.ok (.done outcome, inner)) = ([.done outcome], none) := by
  cases results <;> rfl

theorem Matches.refl (turn : Turn program) : Matches program program turn turn := fun _ => rfl

theorem Matches.symm {turn : Turn program} {twin : Turn other}
    (same : Matches program other turn twin) : Matches other program twin turn :=
  fun results => (same results).symm

theorem Matches.trans {turn : Turn program} {twin : Turn other} {last : Turn third}
    (same : Matches program other turn twin) (again : Matches other third twin last) :
    Matches program third turn last :=
  fun results => (same results).trans (again results)

theorem Matches.done (outcome : Outcome α) (inner : program.State) (twin : other.State) :
    Matches program other (.ok (.done outcome, inner)) (.ok (.done outcome, twin)) := by
  intro results
  rw [feed_done, feed_done]

theorem Matches.suspended (effect : Effect) {inner : program.State} {twin : other.State}
    (later : ∀ result, Matches program other (program.resume inner result)
      (other.resume twin result)) :
    Matches program other (.ok (.suspended effect, inner)) (.ok (.suspended effect, twin)) := by
  rintro (_ | ⟨result, results⟩)
  · rfl
  · dsimp only [feed]
    rw [later result results]

theorem Matches.alike {turn : Turn program} {twin : Turn other}
    (same : Matches program other turn twin) :
    Alike (fun inner twin => ∀ result, Matches program other (program.resume inner result)
      (other.resume twin result)) turn twin := by
  have first := same []
  rcases turn with violation | ⟨effect | outcome, inner⟩
  · rcases twin with violation' | ⟨effect' | outcome', twin⟩ <;> cases first
    exact .violated violation
  · rcases twin with violation' | ⟨effect' | outcome', twin⟩ <;> cases first
    refine .suspended effect fun result results => ?_
    have later := same (result :: results)
    dsimp only [feed] at later
    obtain ⟨steps, refusal⟩ := Prod.mk.inj later
    exact Prod.ext (List.cons.inj steps).2 refusal
  · rcases twin with violation' | ⟨effect' | outcome', twin⟩ <;> cases first
    exact .done outcome inner twin

-- Related states that go on alike for ever match; the induction is on the results that are fed.
theorem Matches.of_alike {related : program.State → other.State → Prop}
    (kept : ∀ inner twin result, related inner twin →
      Alike related (program.resume inner result) (other.resume twin result))
    {turn : Turn program} {twin : Turn other} (alike : Alike related turn twin) :
    Matches program other turn twin := by
  intro results
  induction results generalizing turn twin with
  | nil => cases alike <;> rfl
  | cons result results ih =>
    cases alike with
    | violated | done => rfl
    | suspended effect pair =>
      dsimp only [feed]
      rw [ih (kept _ _ result pair)]

end

-- A way to go on from a program: where it suspends, fails or refuses, so does the whole, which
-- takes over when the program comes to a value.
structure Extends (program : Program α) (whole : Program β) (on : Turn program → Turn whole) :
    Prop where
  violated (violation : Violation) : on (.error violation) = .error violation
  failed (error : EffectError) (inner : program.State) : ∃ outer,
    on (.ok (.done (.error error), inner)) = .ok (.done (.error error), outer)
  suspended (effect : Effect) (inner : program.State) : ∃ outer,
    on (.ok (.suspended effect, inner)) = .ok (.suspended effect, outer) ∧
      ∀ result, whole.resume outer result = on (program.resume inner result)

namespace Extends
variable {program other : Program α} {whole whole' : Program β} {last : Program γ}
  {on : Turn program → Turn whole} {on' : Turn other → Turn whole'}

theorem refl (program : Program α) : Extends program program fun turn => turn where
  violated _ := rfl
  failed _ inner := ⟨inner, rfl⟩
  suspended _ inner := ⟨inner, rfl, fun _ => rfl⟩

theorem boxed (program : Program α) : Extends program program.boxed fun turn => turn where
  violated _ := rfl
  failed _ inner := ⟨inner, rfl⟩
  suspended _ inner := ⟨inner, rfl, fun _ => rfl⟩

theorem map (program : Program α) (f : α → β) :
    Extends program (program.map f) (Map.step f false) where
  violated _ := rfl
  failed _ inner := ⟨(inner, true), rfl⟩
  suspended _ inner := ⟨(inner, false), rfl, fun _ => rfl⟩

theorem andThen (program : Program α) (next : α → Program β) :
    Extends program (program.andThen next) AndThen.afterFirst where
  violated _ := rfl
  failed _ _ := ⟨.finished, rfl⟩
  suspended _ inner := ⟨.first inner, rfl, fun _ => rfl⟩

theorem trans {later : Turn whole → Turn last} (inside : Extends program whole on)
    (outside : Extends whole last later) :
    Extends program last fun turn => later (on turn) where
  violated violation := by rw [inside.violated, outside.violated]
  failed error inner := by
    obtain ⟨middle, fails⟩ := inside.failed error inner
    obtain ⟨outer, failed⟩ := outside.failed error middle
    exact ⟨outer, by rw [fails, failed]⟩
  suspended effect inner := by
    obtain ⟨middle, suspends, resumes⟩ := inside.suspended effect inner
    obtain ⟨outer, shown, resumed⟩ := outside.suspended effect middle
    refine ⟨outer, by rw [suspends, shown], fun result => ?_⟩
    rw [resumed, resumes]

theorem go_on (one : Extends program whole on) (two : Extends other whole' on')
    (taken : ∀ value inner twin, Matches whole whole' (on (.ok (.done (.ok value), inner)))
      (on' (.ok (.done (.ok value), twin))))
    {turn : Turn program} {twin : Turn other} (same : Matches program other turn twin) :
    Matches whole whole' (on turn) (on' twin) := by
  have ends (outcome : Outcome α) (inner : program.State) (twin : other.State) :
      Matches whole whole' (on (.ok (.done outcome, inner))) (on' (.ok (.done outcome, twin))) := by
    cases outcome with
    | error error =>
      obtain ⟨outer, fails⟩ := one.failed error inner
      obtain ⟨outer', fails'⟩ := two.failed error twin
      rw [fails, fails']
      exact .done (.error error) outer outer'
    | ok value => exact taken value inner twin
  intro results
  induction results generalizing turn twin with
  | nil =>
    cases same.alike with
    | violated violation => rw [one.violated, two.violated, feed_violated, feed_violated]
    | done outcome inner twin => exact ends outcome inner twin []
    | @suspended effect inner twin later =>
      obtain ⟨outer, suspends, -⟩ := one.suspended effect inner
      obtain ⟨outer', suspends', -⟩ := two.suspended effect twin
      rw [suspends, suspends']
      rfl
  | cons result results ih =>
    cases same.alike with
    | violated violation => rw [one.violated, two.violated, feed_violated, feed_violated]
    | done outcome inner twin => exact ends outcome inner twin (result :: results)
    | @suspended effect inner twin later =>
      obtain ⟨outer, suspends, resumes⟩ := one.suspended effect inner
      obtain ⟨outer', suspends', resumes'⟩ := two.suspended effect twin
      rw [suspends, suspends']
      dsimp only [feed]
      rw [resumes, resumes', ih (later result)]

end Extends

section
variable {program other third : Program α} {next next' : α → Program β}

theorem afterFirst_matches (next : α → Program β) (value : α) (inner : program.State) :
    Matches (program.andThen next) (next value)
      (AndThen.afterFirst (.ok (.done (.ok value), inner)))
      ((next value).start (next value).initial) :=
  .of_alike (AndThen.serves_resume value) (AndThen.afterFirst_ok value inner)

theorem Matches.afterFirst (rest : ∀ value, Equivalent (next value) (next' value))
    {turn : Turn program} {twin : Turn other} (same : Matches program other turn twin) :
    Matches (program.andThen next) (other.andThen next') (AndThen.afterFirst turn)
      (AndThen.afterFirst twin) := by
  refine (Extends.andThen program next).go_on (.andThen other next') ?_ same
  intro value inner twin
  have second : Matches (next value) (next' value) _ _ := rest value
  exact (afterFirst_matches next value inner).trans
    (second.trans (afterFirst_matches next' value twin).symm)

theorem Matches.mapped (f : α → β) {turn : Turn program} {twin : Turn other}
    (same : Matches program other turn twin) :
    Matches (program.map f) (other.map f) (Map.step f false turn) (Map.step f false twin) :=
  (Extends.map program f).go_on (.map other f) (fun value _ _ => .done (.ok (f value)) _ _) same

namespace Equivalent

theorem refl (program : Program α) : Equivalent program program := fun _ => rfl

theorem symm (same : Equivalent program other) : Equivalent other program :=
  fun results => (same results).symm

theorem trans (same : Equivalent program other) (again : Equivalent other third) :
    Equivalent program third :=
  fun results => (same results).trans (again results)

instance : Trans (@Equivalent α) Equivalent Equivalent := ⟨trans⟩

theorem andThen (same : Equivalent program other)
    (rest : ∀ value, Equivalent (next value) (next' value)) :
    Equivalent (program.andThen next) (other.andThen next') :=
  Matches.afterFirst rest same

theorem map (same : Equivalent program other) (f : α → β) :
    Equivalent (program.map f) (other.map f) :=
  Matches.mapped f same

theorem transcript (same : Equivalent program other) (dispatcher : Dispatcher σ) (bound : Nat)
    (state : σ) :
    program.transcript dispatcher bound state = other.transcript dispatcher bound state := by
  have begun : Matches program other _ _ := same
  rw [transcript_eq_follow, transcript_eq_follow]
  exact follow_alike (fun _ _ result later => (later result).alike) dispatcher bound begun.alike
    state

theorem ends_iff (same : Equivalent program other) (dispatcher : Dispatcher σ) (state : σ)
    (trace : List (Effect × Outcome Result)) (outcome : Outcome α) (final : σ) :
    program.Ends dispatcher state trace outcome final ↔
      other.Ends dispatcher state trace outcome final := by
  simp only [ends_iff_transcript, same.transcript]

end Equivalent

-- A program that answers the calls in turn and refuses all others.
def KeepsProtocol (program : Program α) : Prop := ∃ holds, Conforms program holds

-- Programs that answer the same calls with the same steps, and refuse the same calls.
def AnswersAlike (program other : Program α) : Prop :=
  ∀ sequence : List Call,
    let made := program.calls sequence program.initial
    let again := other.calls sequence other.initial
    made.1 = again.1 ∧ made.2.isSome = again.2.isSome

-- Two programs at the same stage, which are seen to go on alike.
def Abreast (program other : Program α) : Stage → program.State → other.State → Prop
  | .fresh, state, twin =>
      Matches program other (program.start state) (other.start twin)
  | .suspended, state, twin =>
      ∀ result, Matches program other (program.resume state result) (other.resume twin result)
  | .done, _, _ => True

theorem Matches.abreast {step step' : Step α} {inner : program.State} {twin : other.State}
    (same : Matches program other (.ok (step, inner)) (.ok (step', twin))) :
    step = step' ∧ Abreast program other step.stage inner twin := by
  cases same.alike with
  | done outcome => exact ⟨rfl, trivial⟩
  | suspended effect later => exact ⟨rfl, later⟩

theorem Abreast.call {stage : Stage} {state : program.State} {twin : other.State}
    (abreast : Abreast program other stage state twin) {call : Call}
    (inTurn : stage.admits call = true) :
    Matches program other (program.call call state) (other.call call twin) := by
  cases stage with
  | fresh =>
    cases call with
    | start => exact abreast
    | resume => cases inTurn
  | suspended =>
    cases call with
    | start => cases inTurn
    | resume result => exact abreast result
  | done => cases call <;> cases inTurn

-- The stage tells which calls are answered; those that are, are answered by turns that match.
theorem calls_alike {holds : Stage → program.State → Prop} {holds' : Stage → other.State → Prop}
    (conforms : Conforms program holds) (conforms' : Conforms other holds') (sequence : List Call)
    {stage : Stage} {state : program.State} {twin : other.State} (valid : holds stage state)
    (valid' : holds' stage twin) (abreast : Abreast program other stage state twin) :
    (program.calls sequence state).1 = (other.calls sequence twin).1 ∧
      (program.calls sequence state).2.isSome = (other.calls sequence twin).2.isSome := by
  induction sequence generalizing stage state twin with
  | nil => exact ⟨rfl, rfl⟩
  | cons call rest ih =>
    dsimp only [calls]
    rcases inTurn : stage.admits call with _ | _
    · have refused := conforms.call_refused valid inTurn
      have refused' := conforms'.call_refused valid' inTurn
      generalize program.call call state = turn at refused ⊢
      generalize other.call call twin = turn' at refused' ⊢
      obtain ⟨violation⟩ := refused
      obtain ⟨violation'⟩ := refused'
      exact ⟨rfl, rfl⟩
    · have answered := conforms.call_answered valid inTurn
      have answered' := conforms'.call_answered valid' inTurn
      have same := abreast.call inTurn
      generalize program.call call state = turn at answered same ⊢
      generalize other.call call twin = turn' at answered' same ⊢
      obtain ⟨step, kept⟩ := answered
      obtain ⟨step', kept'⟩ := answered'
      obtain ⟨rfl, abreast⟩ := same.abreast
      obtain ⟨steps, refusal⟩ := ih kept kept' abreast
      exact ⟨congrArg (step :: ·) steps, refusal⟩

theorem Equivalent.answersAlike (same : Equivalent program other) (keeps : program.KeepsProtocol)
    (keeps' : other.KeepsProtocol) : AnswersAlike program other := by
  obtain ⟨_, conforms⟩ := keeps
  obtain ⟨_, conforms'⟩ := keeps'
  exact fun sequence => calls_alike conforms conforms' sequence conforms.initial conforms'.initial
    same

end
end Program
end EffectPrograms
