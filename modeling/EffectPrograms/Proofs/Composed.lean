import EffectPrograms.Program.Combinators
import EffectPrograms.Program.ReadThrough
import EffectPrograms.Proofs.Completion

set_option autoImplicit false

namespace EffectPrograms
variable {α β σ : Type}

def Effect.Fits (effect : Effect) (result : Result) : Prop :=
  ∃ response, effect.accept result = .ok response

namespace Program
variable {program : Program α}

-- Programs put together from `perform`, `pure`, `map`, `boxed`, `andThen`, `sequence` and
-- read-through.
inductive Composed : {α : Type} → Program α → Prop where
  | perform (effect : Effect) : Composed (perform effect)
  | pure {α : Type} (value : α) : Composed (pure value)
  | map {α β : Type} {program : Program α} (composed : Composed program) (f : α → β) :
      Composed (program.map f)
  | boxed {α : Type} {program : Program α} (composed : Composed program) : Composed program.boxed
  | andThen {α β : Type} {program : Program α} {next : α → Program β} (first : Composed program)
      (second : ∀ value, Composed (next value)) : Composed (program.andThen next)
  | sequence {α : Type} {programs : Array (Program α)}
      (each : ∀ program, program ∈ programs → Composed program) : Composed (sequence programs)
  | readThrough (source : ReadThrough) : Composed source.program

-- A turn that is no failure; where the program suspends, it waits for the effect that it shows.
inductive Proceeds {τ : Type} (waits : Effect → τ → Prop) :
    Except Violation (Step α × τ) → Prop where
  | violated (violation : Violation) : Proceeds waits (.error violation)
  | suspended {effect : Effect} {inner : τ} (pending : waits effect inner) :
      Proceeds waits (.ok (.suspended effect, inner))
  | done (value : α) (inner : τ) : Proceeds waits (.ok (.done (.ok value), inner))

-- An invariant that tells the effect that a program waits for, under which it does not fail.
structure Unfailing (program : Program α) (waits : Effect → program.State → Prop) : Prop where
  start : Proceeds waits (program.start program.initial)
  resume {effect : Effect} {state : program.State} (pending : waits effect state)
    {result : Result} (fits : effect.Fits result) : Proceeds waits (program.resume state result)

namespace Unfailing

theorem perform (effect : Effect) :
    Unfailing (perform effect) fun pending state => pending = effect ∧ state = .suspended where
  start := .suspended ⟨rfl, rfl⟩
  resume pending result fits := by
    obtain ⟨rfl, rfl⟩ := pending
    obtain ⟨response, accepts⟩ := fits
    dsimp only [Program.perform]
    rw [accepts]
    exact .done response _

theorem pure (value : α) : Unfailing (pure value) fun _ _ => False where
  start := .done value _
  resume pending _ _ := pending.elim

def readThroughWaits (source : ReadThrough) (effect : Effect) : ReadThrough.State → Prop
  | .checkingCache => effect = source.lookUp
  | .readingRecord => effect = source.read
  | .fillingCache value => effect = source.fill value
  | .ready | .finished => False

theorem readThrough (source : ReadThrough) :
    Unfailing source.program (readThroughWaits source) where
  start := .suspended rfl
  resume {effect state} pending result fits := by
    obtain ⟨response, accepts⟩ := fits
    cases state with
    | ready | finished => exact pending.elim
    | checkingCache =>
      obtain rfl : effect = source.lookUp := pending
      dsimp only [ReadThrough.program]
      rw [accepts]
      cases response with
      | miss => exact .suspended rfl
      | hit bytes =>
        dsimp only
        cases Document.decode? bytes with
        | some value => exact .done (some value) _
        | none => exact .suspended rfl
    | readingRecord =>
      obtain rfl : effect = source.read := pending
      dsimp only [ReadThrough.program]
      rw [accepts]
      cases response with
      | notFound => exact .done none _
      | found value => exact .suspended rfl
    | fillingCache value =>
      obtain rfl : effect = source.fill value := pending
      dsimp only [ReadThrough.program]
      rw [accepts]
      exact .done (some value) _

variable {waits : Effect → program.State → Prop}

theorem boxed (unfailing : Unfailing program waits) : Unfailing program.boxed waits where
  start := unfailing.start
  resume := unfailing.resume

theorem map_step (f : α → β) (spent : Bool) {turn : Except Violation (Step α × program.State)}
    (proceeds : Proceeds waits turn) :
    Proceeds (fun effect (state : program.State × Bool) => waits effect state.1)
      (Map.step f spent turn) := by
  cases proceeds with
  | violated violation => exact .violated violation
  | suspended pending => exact .suspended pending
  | done value inner =>
    cases spent with
    | false => exact .done (f value) _
    | true => exact .violated _

theorem map (unfailing : Unfailing program waits) (f : α → β) :
    Unfailing (program.map f) fun effect state => waits effect state.1 where
  start := map_step f false unfailing.start
  resume pending _ fits := map_step f _ (unfailing.resume pending fits)

section AndThen
variable {next : α → Program β} {later : ∀ value, Effect → (next value).State → Prop}

def AndThenWaits (waits : Effect → program.State → Prop)
    (later : ∀ value, Effect → (next value).State → Prop) (effect : Effect) :
    AndThen.State program next → Prop
  | .first inner => waits effect inner
  | .second value built => later value effect built.state
  | .finished => False

theorem afterFirst_proceeds (rest : ∀ value, Unfailing (next value) (later value))
    {turn : Except Violation (Step α × program.State)} (proceeds : Proceeds waits turn) :
    Proceeds (AndThenWaits waits later) (AndThen.afterFirst turn) := by
  cases proceeds with
  | violated violation => exact .violated violation
  | suspended pending => exact .suspended pending
  | done value inner =>
    have started := (rest value).start
    dsimp only [AndThen.afterFirst]
    generalize (next value).start (next value).initial = turn at started ⊢
    cases started with
    | violated violation => exact .violated violation
    | suspended pending => exact .suspended pending
    | done last inner => exact .done last _

theorem afterSecond_proceeds (value : α) (built : Started (next value))
    {turn : Except Violation (Step β × (next value).State)}
    (proceeds : Proceeds (later value) turn) :
    Proceeds (AndThenWaits waits later) (AndThen.afterSecond value built turn) := by
  cases proceeds with
  | violated violation => exact .violated violation
  | suspended pending => exact .suspended pending
  | done last inner => exact .done last _

theorem andThen (first : Unfailing program waits)
    (rest : ∀ value, Unfailing (next value) (later value)) :
    Unfailing (program.andThen next) (AndThenWaits waits later) where
  start := afterFirst_proceeds rest first.start
  resume {effect state} pending result fits := by
    rcases state with inner | ⟨value, built⟩ | _
    · exact afterFirst_proceeds rest (first.resume pending fits)
    · have resumed := (rest value).resume pending fits
      rw [← built.same] at resumed
      exact afterSecond_proceeds value built resumed
    · exact pending.elim

end AndThen

section Sequence
variable {programs : Array (Program α)}
  {each : ∀ program : Program α, Effect → program.State → Prop}

-- The program whose turn it is waits; the others are not looked at.
inductive SequenceWaits (each : ∀ program : Program α, Effect → program.State → Prop)
    (effect : Effect) : Sequence.State programs → Prop where
  | running (values : List α) {turn : Fin programs.size} {inner : _}
      (pending : each _ effect inner) : SequenceWaits each effect (.running values turn inner)

theorem advance_proceeds (values : List α) {turn : Fin programs.size}
    {startLater : List α → Sequence.Advance programs}
    (rest : ∀ values, Proceeds (SequenceWaits each) (startLater values)) {answer : _}
    (proceeds : Proceeds (each _) answer) :
    Proceeds (SequenceWaits each) (Sequence.advance values turn startLater answer) := by
  cases proceeds with
  | violated violation => exact .violated violation
  | suspended pending => exact .suspended (.running values pending)
  | done value inner => exact rest (value :: values)

theorem startFrom_proceeds
    (unfailing : ∀ program, program ∈ programs → Unfailing program (each program)) (place : Nat)
    (values : List α) :
    Proceeds (SequenceWaits each) (Sequence.startFrom programs place values) := by
  induction left : programs.size - place generalizing place values with
  | zero =>
    rw [Sequence.startFrom, dif_neg (by omega)]
    exact .done values.reverse _
  | succ left ih =>
    have inside : place < programs.size := by omega
    rw [Sequence.startFrom, dif_pos inside]
    exact advance_proceeds values (fun values => ih (place + 1) values (by omega))
      (unfailing _ (Array.getElem_mem inside)).start

theorem sequence
    (unfailing : ∀ program, program ∈ programs → Unfailing program (each program)) :
    Unfailing (sequence programs) (SequenceWaits each) where
  start := startFrom_proceeds unfailing 0 []
  resume waiting result fits := by
    cases waiting with
    | @running values turn _ pending =>
      exact advance_proceeds values (startFrom_proceeds unfailing _)
        ((unfailing _ (Array.getElem_mem turn.isLt)).resume pending fits)

end Sequence

end Unfailing

theorem Composed.unfailing (composed : Composed program) : ∃ waits, Unfailing program waits := by
  induction composed with
  | perform effect => exact ⟨_, .perform effect⟩
  | pure value => exact ⟨_, .pure value⟩
  | map _ f ih =>
    obtain ⟨_, unfailing⟩ := ih
    exact ⟨_, unfailing.map f⟩
  | boxed _ ih =>
    obtain ⟨_, unfailing⟩ := ih
    exact ⟨_, unfailing.boxed⟩
  | andThen _ _ ih rest =>
    obtain ⟨_, first⟩ := ih
    obtain ⟨_, rest⟩ := Classical.skolem.mp rest
    exact ⟨_, first.andThen rest⟩
  | @sequence α programs _ ih =>
    have each : ∀ program : Program α, ∃ waits, program ∈ programs → Unfailing program waits := by
      intro program
      by_cases member : program ∈ programs
      · obtain ⟨waits, unfailing⟩ := ih program member
        exact ⟨waits, fun _ => unfailing⟩
      · exact ⟨fun _ _ => False, fun present => absurd present member⟩
    obtain ⟨_, unfailing⟩ := Classical.skolem.mp each
    exact ⟨_, .sequence unfailing⟩
  | readThrough source => exact ⟨_, .readThrough source⟩

section Driving
variable {waits : Effect → program.State → Prop}

-- The invariant seen through the guard, which may only refuse a call.
def Guarded (waits : Effect → program.State → Prop) (effect : Effect)
    (execution : Execution program) : Prop :=
  waits effect execution.state

theorem observe_proceeds (execution : Execution program)
    {turn : Except Violation (Step α × program.State)} (proceeds : Proceeds waits turn) :
    Proceeds (Guarded waits) (execution.observe turn) := by
  cases proceeds with
  | violated violation => exact .violated violation
  | suspended pending => exact .suspended pending
  | done value inner => exact .done value _

theorem call_proceeds (execution : Execution program) (call : Call)
    (proceeds : Proceeds waits (program.call call execution.state)) :
    Proceeds (Guarded waits) (execution.call call) := by
  rw [Execution.call]
  cases execution.refusal? call with
  | some violation => exact .violated violation
  | none => exact observe_proceeds execution proceeds

def Point.Tended (waits : Effect → program.State → Prop) : Point program σ → Prop
  | .step turn _ => Proceeds (Guarded waits) turn
  | .answer effect execution _ => waits effect execution.state

theorem Unfailing.completes (unfailing : Unfailing program waits) {dispatcher : Dispatcher σ}
    (fits : ∀ effect ticket? state result,
      (dispatcher.ask effect ticket? state).1 = .ready (.ok result) → effect.Fits result)
    {point : Point program σ} {changes : List (σ → σ)} {trace : List (Effect × Outcome Result)}
    {error : EffectError} {left : σ}
    (completes : Completes dispatcher point changes trace (.error error) left)
    (tended : point.Tended waits) (asked : point.Asked dispatcher) :
    ∃ effect ticket? state, (dispatcher.ask effect ticket? state).1 = .ready (.error error) := by
  generalize ended : (Except.error error : Outcome α) = outcome at completes
  induction completes with
  | done outcome execution state changes =>
    cases ended
    cases tended
  | @presented effect execution state _ _ _ _ later ih =>
    cases tended with
    | suspended pending => exact ih pending ⟨none, state, rfl⟩ ended
  | @answered effect execution result state _ _ _ _ later ih =>
    obtain ⟨ticket?, before, given⟩ := asked
    have fit := fits effect ticket? before result (congrArg Prod.fst given.symm)
    have resumed := call_proceeds execution (.resume result) (unfailing.resume tended fit)
    exact ih resumed trivial ended
  | failed effect execution other state changes =>
    obtain ⟨ticket?, before, given⟩ := asked
    cases ended
    exact ⟨effect, ticket?, before, congrArg Prod.fst given.symm⟩
  | @waited effect execution ticket state _ change _ _ _ later ih =>
    exact ih tended ⟨some ticket, change state, rfl⟩ ended

theorem Composed.failed_by_effect (composed : Composed program) {dispatcher : Dispatcher σ}
    (fits : ∀ effect ticket? state result,
      (dispatcher.ask effect ticket? state).1 = .ready (.ok result) → effect.Fits result)
    {bound : Nat} {changes : List (σ → σ)} {state left : σ} {error : EffectError}
    (failed : program.runAmid dispatcher bound changes state = (.finished (.error error), left)) :
    ∃ effect ticket? asked, (dispatcher.ask effect ticket? asked).1 = .ready (.error error) := by
  obtain ⟨waits, unfailing⟩ := composed.unfailing
  obtain ⟨trace, traces⟩ := runAmid_traces failed
  have begun := call_proceeds (Execution.of program) .start unfailing.start
  exact unfailing.completes fits traces.completes begun trivial

end Driving
end Program
end EffectPrograms
