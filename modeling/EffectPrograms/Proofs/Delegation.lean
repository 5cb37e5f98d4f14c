import EffectPrograms.Program.Combinators
import EffectPrograms.Proofs.Transcript

set_option autoImplicit false

namespace EffectPrograms
variable {α β σ : Type}

namespace Transcript

def andThen (first : Transcript α σ) (later : α → σ → Transcript β σ) : Transcript β σ :=
  match first.standing with
  | .finished (.ok value) =>
      let second := later value first.state
      ⟨second.standing, first.trace ++ second.trace, second.state⟩
  | .finished (.error error) => ⟨.finished (.error error), first.trace, first.state⟩
  | .violated violation => ⟨.violated violation, first.trace, first.state⟩
  | .waiting effect ticket => ⟨.waiting effect ticket, first.trace, first.state⟩
  | .bounded effect => ⟨.bounded effect, first.trace, first.state⟩

theorem andThen_answered (effect : Effect) (result : Result) (first : Transcript α σ)
    (later : α → σ → Transcript β σ) :
    (first.answered effect result).andThen later =
      (first.andThen later).answered effect result := by
  rcases first with ⟨⟨error | value⟩ | violation | ⟨effect, ticket⟩ | effect, trace, state⟩
  all_goals rfl

end Transcript

namespace Program

-- A run that ends: its outcome and the state it leaves, with the effects it presents.
def Ends (program : Program α) (dispatcher : Dispatcher σ) (state : σ)
    (trace : List (Effect × Outcome Result)) (outcome : Outcome α) (final : σ) : Prop :=
  ∃ bound, program.run dispatcher bound state = (.finished outcome, final) ∧
    (program.transcript dispatcher bound state).trace = trace

variable {program : Program α}

theorem ends_iff_transcript (program : Program α) (dispatcher : Dispatcher σ) (state : σ)
    (trace : List (Effect × Outcome Result)) (outcome : Outcome α) (final : σ) :
    program.Ends dispatcher state trace outcome final ↔
      ∃ bound, program.transcript dispatcher bound state = ⟨.finished outcome, trace, final⟩ := by
  refine exists_congr fun bound => ?_
  obtain ⟨standing, left⟩ := run_eq_transcript program dispatcher bound state
  rcases shown : program.transcript dispatcher bound state with ⟨stands, effects, rest⟩
  rw [shown] at standing left
  constructor
  · rintro ⟨run, rfl⟩
    rw [run] at standing left
    exact Transcript.mk.injEq .. ▸ ⟨standing.symm, rfl, left.symm⟩
  · intro same
    obtain ⟨rfl, rfl, rfl⟩ := Transcript.mk.inj same
    exact ⟨Prod.ext (Progress.finished_of_standing standing) left, rfl⟩

theorem follow_finished {dispatcher : Dispatcher σ} {bound : Nat} {turn : Turn program}
    {state final : σ} {trace : List (Effect × Outcome Result)} {outcome : Outcome α}
    (ends : program.follow dispatcher bound turn state = ⟨.finished outcome, trace, final⟩)
    (other : Nat) (enough : trace.length ≤ other) :
    program.follow dispatcher other turn state = ⟨.finished outcome, trace, final⟩ := by
  induction bound, turn, state using follow_induction program dispatcher
    generalizing trace other with
  | violated bound violation state =>
    rw [follow_violated] at ends
    cases ends
  | done bound last inner state =>
    rw [← ends, follow_done, follow_done]
  | bounded effect inner state => cases ends
  | answered bound effect inner state result left interpreted ih =>
    rw [follow_ok interpreted] at ends
    rcases rest : program.follow dispatcher bound (program.resume inner result) left with
      ⟨standing, later, final⟩
    rw [rest] at ends
    cases ends
    obtain ⟨less, rfl⟩ := Nat.exists_eq_add_of_le' enough
    rw [List.length_cons, ← Nat.add_assoc, follow_ok interpreted,
      ih rest (less + later.length) (Nat.le_add_left _ _)]
    rfl
  | failed bound effect inner state error left interpreted =>
    rw [follow_error interpreted] at ends
    cases ends
    obtain ⟨less, rfl⟩ := Nat.exists_eq_add_of_le' enough
    rw [List.length_singleton, follow_error interpreted]
  | waits bound effect inner state ticket left interpreted =>
    rw [follow_waiting interpreted] at ends
    cases ends

variable {next : α → Program β}

-- In its second stage a delegation steps as the program built from the value does.
def AndThen.Serves (value : α) :
    (program.andThen next).State → (next value).State → Prop :=
  fun stage inner => ∃ built : Started (next value),
    stage = AndThen.State.second value built ∧ built.state = inner

theorem AndThen.serves_resume (value : α) (stage : (program.andThen next).State)
    (inner : (next value).State) (result : Result) (serves : Serves value stage inner) :
    Alike (Serves value) ((program.andThen next).resume stage result)
      ((next value).resume inner result) := by
  obtain ⟨built, rfl, rfl⟩ := serves
  have resumed : (program.andThen next).resume (.second value built) result =
      AndThen.afterSecond value built ((next value).resume built.state result) :=
    congrArg (AndThen.afterSecond value built) (congrFun (congrFun built.same built.state) result)
  rw [resumed]
  rcases (next value).resume built.state result with violation | ⟨effect | outcome, inner⟩
  · exact .violated violation
  · exact .suspended effect ⟨{ built with state := inner }, rfl, rfl⟩
  · exact .done outcome _ inner

theorem AndThen.afterFirst_ok (value : α) (inner : program.State) :
    Alike (AndThen.Serves value)
      (AndThen.afterFirst (.ok (.done (.ok value), inner)) : Turn (program.andThen next))
      ((next value).start (next value).initial) := by
  dsimp only [AndThen.afterFirst]
  rcases (next value).start (next value).initial with violation | ⟨effect | outcome, inner⟩
  · exact .violated violation
  · exact .suspended effect ⟨_, rfl, rfl⟩
  · exact .done outcome _ inner

theorem follow_afterFirst_ok (dispatcher : Dispatcher σ) (bound : Nat) (value : α)
    (inner : program.State) (state : σ) :
    (program.andThen next).follow dispatcher bound
        (AndThen.afterFirst (.ok (.done (.ok value), inner))) state =
      (next value).follow dispatcher bound ((next value).start (next value).initial) state :=
  follow_alike (AndThen.serves_resume value) dispatcher bound
    (AndThen.afterFirst_ok value inner) state

theorem follow_afterFirst (dispatcher : Dispatcher σ) (bound : Nat) (turn : Turn program)
    (state : σ) :
    let first := program.follow dispatcher bound turn state
    (program.andThen next).follow dispatcher bound (AndThen.afterFirst turn) state =
      first.andThen fun value middle =>
        (next value).follow dispatcher (bound - first.trace.length)
          ((next value).start (next value).initial) middle := by
  induction bound, turn, state using follow_induction program dispatcher with
  | violated bound violation state => cases bound <;> rfl
  | done bound outcome inner state =>
    rw [follow_done]
    cases outcome with
    | error error => exact follow_done ..
    | ok value => exact follow_afterFirst_ok dispatcher bound value inner state
  | bounded effect inner state => rfl
  | answered bound effect inner state result left interpreted ih =>
    dsimp only
    rw [follow_ok interpreted, Transcript.andThen_answered]
    simp only [Transcript.answered_trace, List.length_cons, Nat.add_sub_add_right]
    exact (follow_ok interpreted).trans (congrArg _ ih)
  | failed bound effect inner state error left interpreted =>
    rw [follow_error interpreted]
    exact follow_error interpreted
  | waits bound effect inner state ticket left interpreted =>
    rw [follow_waiting interpreted]
    exact follow_waiting interpreted

theorem transcript_andThen (program : Program α) (next : α → Program β)
    (dispatcher : Dispatcher σ) (bound : Nat) (state : σ) :
    let first := program.transcript dispatcher bound state
    (program.andThen next).transcript dispatcher bound state =
      first.andThen fun value middle =>
        (next value).transcript dispatcher (bound - first.trace.length) middle := by
  simp only [transcript_eq_follow]
  exact follow_afterFirst dispatcher bound (program.start program.initial) state

theorem transcript_finished {dispatcher : Dispatcher σ} {bound : Nat} {state final : σ}
    {trace : List (Effect × Outcome Result)} {outcome : Outcome α}
    (ends : program.transcript dispatcher bound state = ⟨.finished outcome, trace, final⟩)
    (other : Nat) (enough : trace.length ≤ other) :
    program.transcript dispatcher other state = ⟨.finished outcome, trace, final⟩ := by
  rw [transcript_eq_follow] at ends ⊢
  exact follow_finished ends other enough

theorem ends_of_andThen {next : α → Program β} {dispatcher : Dispatcher σ} {state final : σ}
    {trace : List (Effect × Outcome Result)} {outcome : Outcome β}
    (ends : (program.andThen next).Ends dispatcher state trace outcome final) :
    (∃ value middle before later, program.Ends dispatcher state before (.ok value) middle ∧
      (next value).Ends dispatcher middle later outcome final ∧ trace = before ++ later) ∨
    ∃ error, program.Ends dispatcher state trace (.error error) final ∧
      outcome = .error error := by
  obtain ⟨bound, ends⟩ := (ends_iff_transcript ..).mp ends
  rw [transcript_andThen] at ends
  rcases first : program.transcript dispatcher bound state with ⟨standing, before, middle⟩
  rw [first] at ends
  rcases standing with (error | value) | violation | ⟨effect, ticket⟩ | effect
  · right
    cases ends
    exact ⟨error, (ends_iff_transcript ..).mpr ⟨bound, first⟩, rfl⟩
  · left
    obtain ⟨stands, rfl, rfl⟩ := Transcript.mk.inj ends
    refine ⟨value, middle, before, _, (ends_iff_transcript ..).mpr ⟨bound, first⟩, ?_, rfl⟩
    refine (ends_iff_transcript ..).mpr ⟨bound - before.length, ?_⟩
    rw [← stands]
  · cases ends
  · cases ends
  · cases ends

theorem andThen_ends_value {dispatcher : Dispatcher σ} {state middle final : σ}
    {before later : List (Effect × Outcome Result)} {value : α} {outcome : Outcome β}
    (first : program.Ends dispatcher state before (.ok value) middle)
    (second : (next value).Ends dispatcher middle later outcome final) :
    (program.andThen next).Ends dispatcher state (before ++ later) outcome final := by
  obtain ⟨firstBound, first⟩ := (ends_iff_transcript ..).mp first
  obtain ⟨secondBound, second⟩ := (ends_iff_transcript ..).mp second
  refine (ends_iff_transcript ..).mpr ⟨before.length + later.length, ?_⟩
  rw [transcript_andThen, transcript_finished first _ (Nat.le_add_right _ _)]
  have rest := transcript_finished second later.length (Nat.le_refl _)
  simp only [Transcript.andThen, Nat.add_sub_cancel_left, rest]

theorem andThen_ends_error {next : α → Program β} {dispatcher : Dispatcher σ} {state final : σ}
    {trace : List (Effect × Outcome Result)} {error : EffectError}
    (first : program.Ends dispatcher state trace (.error error) final) :
    (program.andThen next).Ends dispatcher state trace (.error error) final := by
  obtain ⟨bound, first⟩ := (ends_iff_transcript ..).mp first
  refine (ends_iff_transcript ..).mpr ⟨bound, ?_⟩
  rw [transcript_andThen, first]
  rfl

/-- The composition ends exactly where the two runs do, one after the other, with the effects of the
first before those of the second; an error of the first is the end, whatever would have followed.
A run that has not ended yet, or never does, is divided the same way after any number of effects. -/
theorem andThen_run (program : Program α) (next : α → Program β) (dispatcher : Dispatcher σ)
    (state : σ) :
    (∀ trace outcome final,
      (program.andThen next).Ends dispatcher state trace outcome final ↔
        (∃ value middle before later, program.Ends dispatcher state before (.ok value) middle ∧
          (next value).Ends dispatcher middle later outcome final ∧ trace = before ++ later) ∨
        ∃ error, program.Ends dispatcher state trace (.error error) final ∧
          outcome = .error error) ∧
    ∀ bound,
      let first := program.transcript dispatcher bound state
      (program.andThen next).transcript dispatcher bound state =
        first.andThen fun value middle =>
          (next value).transcript dispatcher (bound - first.trace.length) middle := by
  refine ⟨fun trace outcome final => ⟨ends_of_andThen, ?_⟩, fun bound => ?_⟩
  · rintro (⟨value, middle, before, later, first, second, rfl⟩ | ⟨error, first, rfl⟩)
    · exact andThen_ends_value first second
    · exact andThen_ends_error first
  · exact transcript_andThen program next dispatcher bound state

end Program
end EffectPrograms
