import EffectPrograms.Proofs.MonadLaws

set_option autoImplicit false

namespace EffectPrograms
variable {α β σ : Type}

def Standing.map (f : α → β) : Standing α → Standing β
  | .finished outcome => .finished (outcome.map f)
  | .violated violation => .violated violation
  | .waiting effect ticket => .waiting effect ticket
  | .bounded effect => .bounded effect

namespace Transcript

def ended (outcome : Outcome α) (state : σ) : Transcript α σ := ⟨.finished outcome, [], state⟩

def map (f : α → β) (transcript : Transcript α σ) : Transcript β σ :=
  ⟨transcript.standing.map f, transcript.trace, transcript.state⟩

theorem andThen_ended (f : α → β) (transcript : Transcript α σ) :
    (transcript.andThen fun value state => ended (.ok (f value)) state) = transcript.map f := by
  rcases transcript with ⟨⟨error | value⟩ | violation | ⟨effect, ticket⟩ | effect, trace, state⟩
  case finished.ok => simp [andThen, ended, map, Standing.map, Except.map]
  all_goals rfl

end Transcript

namespace Program
variable {program : Program α}

theorem map_id (program : Program α) : Equivalent (program.map fun value => value) program :=
  (Extends.map program _).go_on (.refl program) (fun value _ _ => .done (.ok value) _ _) (.refl _)

theorem andThen_map (program : Program α) {γ : Type} (next : α → Program β) (f : β → γ) :
    Equivalent ((program.andThen next).map f)
      (program.andThen fun value => (next value).map f) := by
  have nested := (Extends.andThen program next).trans (.map _ f)
  refine nested.go_on (.andThen program fun value => (next value).map f) ?_ (.refl _)
  intro value inner twin
  have taken : Matches (program.andThen next) (next value) _ _ :=
    afterFirst_matches next value inner
  have mapped := afterFirst_matches (fun value => (next value).map f) value twin
  exact (taken.mapped f).trans mapped.symm

theorem map_andThen (program : Program α) {γ : Type} (f : α → β) (next : β → Program γ) :
    Equivalent ((program.map f).andThen next) (program.andThen fun value => next (f value)) := by
  have nested := (Extends.map program f).trans (.andThen _ next)
  refine nested.go_on (.andThen program fun value => next (f value)) ?_ (.refl _)
  intro value inner twin
  exact (afterFirst_matches next (f value) (inner, true)).trans
    (afterFirst_matches (fun value => next (f value)) value twin).symm

-- Programs delegated to one after another, with all their values.
def inOrder : List (Program α) → Program (List α)
  | [] => pure []
  | program :: later => program.andThen fun value => (inOrder later).map (value :: ·)

theorem inOrder_append (programs others : List (Program α)) :
    Equivalent (inOrder (programs ++ others))
      ((inOrder programs).andThen fun values => (inOrder others).map (values ++ ·)) := by
  let next (values : List α) : Program (List α) := (inOrder others).map (values ++ ·)
  induction programs with
  | nil =>
    calc
      Equivalent (inOrder others) (next []) := (map_id _).symm
      Equivalent _ ((pure []).andThen next) := (pure_andThen [] next).symm
  | cons program later ih =>
    have rest (value : α) : Equivalent ((inOrder (later ++ others)).map (value :: ·))
        (((inOrder later).map (value :: ·)).andThen next) := by
      calc
        Equivalent _ (((inOrder later).andThen next).map (value :: ·)) := ih.map _
        Equivalent _ ((inOrder later).andThen fun values => (next values).map (value :: ·)) :=
          andThen_map _ _ _
        Equivalent _ ((inOrder later).andThen fun values => next (value :: values)) :=
          .andThen (.refl _) fun values => map_map _ _ _
        Equivalent _ (((inOrder later).map (value :: ·)).andThen next) := (map_andThen _ _ _).symm
    calc
      Equivalent (inOrder (program :: later ++ others))
          (program.andThen fun value => ((inOrder later).map (value :: ·)).andThen next) :=
        .andThen (.refl program) rest
      Equivalent _ ((inOrder (program :: later)).andThen next) := (andThen_andThen _ _ _).symm

section Sequence
variable {programs : Array (Program α)}

theorem Extends.advance (values : List α) (turn : Fin programs.size) :
    Extends _ (sequence programs)
      (Sequence.advance values turn (Sequence.startFrom programs (turn + 1))) where
  violated _ := rfl
  failed _ _ := ⟨.stopped, rfl⟩
  suspended _ inner := ⟨.running values turn inner, rfl, fun _ => rfl⟩

-- The induction is on the number of programs that are left.
theorem startFrom_matches (programs : Array (Program α)) (place : Nat) (values : List α) :
    let rest := (inOrder (programs.toList.drop place)).map (values.reverse ++ ·)
    Matches (sequence programs) rest (Sequence.startFrom programs place values)
      (rest.start rest.initial) := by
  induction left : programs.size - place generalizing place values with
  | zero =>
    have none : programs.toList.drop place = [] := List.drop_eq_nil_of_le (by simp; omega)
    rw [none, Sequence.startFrom, dif_neg (by omega)]
    intro rest
    have last : Matches (sequence programs) rest
        (.ok (.done (.ok (values.reverse ++ [])), .stopped)) (rest.start rest.initial) :=
      .done _ _ _
    rwa [List.append_nil] at last
  | succ left ih =>
    have inside : place < programs.size := by omega
    have split := List.drop_eq_getElem_cons (l := programs.toList) (i := place) (by simpa)
    rw [split, Sequence.startFrom, dif_pos inside]
    let later : Program (List α) := inOrder (programs.toList.drop (place + 1))
    let prepended (value : α) : Program (List α) := later.map (value :: ·)
    have nested (program : Program α) :=
      (Extends.andThen program prepended).trans (.map _ (values.reverse ++ ·))
    refine (Extends.advance values ⟨place, inside⟩).go_on (nested _) ?_ (.refl _)
    intro value inner twin
    have next := ih (place + 1) (value :: values) (by omega)
    have taken : Matches (Program.andThen _ prepended) (prepended value) _ _ :=
      afterFirst_matches prepended value twin
    have grown : Equivalent ((prepended value).map (values.reverse ++ ·))
        (later.map ((value :: values).reverse ++ ·)) := by
      simpa using map_map later (value :: ·) (values.reverse ++ ·)
    exact next.trans (.trans grown.symm (taken.mapped _).symm)

theorem sequence_inOrder (programs : Array (Program α)) :
    Equivalent (sequence programs) (inOrder programs.toList) := by
  have begun : Equivalent (sequence programs) ((inOrder programs.toList).map ([] ++ ·)) :=
    startFrom_matches programs 0 []
  exact begun.trans (map_id _)

theorem sequence_append (programs others : Array (Program α)) :
    Equivalent (sequence (programs ++ others))
      ((sequence programs).andThen fun values => (sequence others).map (values ++ ·)) := by
  calc
    Equivalent (sequence (programs ++ others)) (inOrder (programs.toList ++ others.toList)) := by
      simpa using sequence_inOrder (programs ++ others)
    Equivalent _ ((inOrder programs.toList).andThen fun values =>
        (inOrder others.toList).map (values ++ ·)) := inOrder_append _ _
    Equivalent _ ((sequence programs).andThen fun values => (sequence others).map (values ++ ·)) :=
      .andThen (sequence_inOrder programs).symm fun values => (sequence_inOrder others).symm.map _

end Sequence

section Driving
variable (dispatcher : Dispatcher σ)

theorem transcript_pure (value : α) (bound : Nat) (state : σ) :
    (pure value).transcript dispatcher bound state = .ended (.ok value) state := by
  rw [transcript_eq_follow]
  exact follow_done ..

theorem transcript_map (program : Program α) (f : α → β) (bound : Nat) (state : σ) :
    (program.map f).transcript dispatcher bound state =
      (program.transcript dispatcher bound state).map f := by
  rw [(map_eq_andThen program f).transcript, transcript_andThen]
  simp only [transcript_pure, Transcript.andThen_ended]

-- The runs of programs one by one, each from the state that the one before left and with what that
-- one left of the bound, as far as the first that does not come to a value.
def oneByOne : List (Program α) → Nat → σ → Transcript (List α) σ
  | [], _, state => .ended (.ok []) state
  | program :: later, bound, state =>
      let first := program.transcript dispatcher bound state
      first.andThen fun value middle =>
        (oneByOne later (bound - first.trace.length) middle).map (value :: ·)

theorem transcript_inOrder (programs : List (Program α)) (bound : Nat) (state : σ) :
    (inOrder programs).transcript dispatcher bound state =
      oneByOne dispatcher programs bound state := by
  induction programs generalizing bound state with
  | nil => exact transcript_pure ..
  | cons program later ih => simp only [inOrder, transcript_andThen, transcript_map, ih, oneByOne]

-- Runs one by one that end: all with their values, or one with an error, and none after it is
-- started.
inductive EndOneByOne : σ → List (Program α) → List (Effect × Outcome Result) →
    Outcome (List α) → σ → Prop where
  | nil (state : σ) : EndOneByOne state [] [] (.ok []) state
  | failed {program : Program α} {state final : σ} {trace : List (Effect × Outcome Result)}
      {error : EffectError} (fails : program.Ends dispatcher state trace (.error error) final)
      (unstarted : List (Program α)) :
      EndOneByOne state (program :: unstarted) trace (.error error) final
  | cons {program : Program α} {later : List (Program α)} {state middle final : σ}
      {before trace : List (Effect × Outcome Result)} {value : α} {outcome : Outcome (List α)}
      (first : program.Ends dispatcher state before (.ok value) middle)
      (rest : EndOneByOne middle later trace outcome final) :
      EndOneByOne state (program :: later) (before ++ trace) (outcome.map (value :: ·)) final

variable {dispatcher}

theorem EndOneByOne.length_eq {state final : σ} {programs : List (Program α)}
    {trace : List (Effect × Outcome Result)} {values : List α}
    (ended : EndOneByOne dispatcher state programs trace (.ok values) final) :
    values.length = programs.length := by
  generalize shown : (Except.ok values : Outcome (List α)) = outcome at ended
  induction ended generalizing values with
  | nil => cases shown; rfl
  | failed => cases shown
  | @cons _ _ _ _ _ _ _ value outcome _ _ ih =>
    cases outcome with
    | error => cases shown
    | ok later =>
      cases shown
      exact congrArg Nat.succ (ih rfl)

theorem map_ends_iff (program : Program α) (f : α → β) {state final : σ}
    {trace : List (Effect × Outcome Result)} {outcome : Outcome β} :
    (program.map f).Ends dispatcher state trace outcome final ↔
      ∃ inner, program.Ends dispatcher state trace inner final ∧ outcome = inner.map f := by
  simp only [ends_iff_transcript, transcript_map]
  constructor
  · rintro ⟨bound, shown⟩
    rcases ran : program.transcript dispatcher bound state with ⟨standing, effects, left⟩
    rw [ran] at shown
    cases standing with
    | finished inner =>
      cases shown
      exact ⟨inner, ⟨bound, ran⟩, rfl⟩
    | violated | waiting | bounded => cases shown
  · rintro ⟨inner, ⟨bound, ran⟩, rfl⟩
    exact ⟨bound, by rw [ran]; rfl⟩

theorem inOrder_ends_iff {programs : List (Program α)} {state final : σ}
    {trace : List (Effect × Outcome Result)} {outcome : Outcome (List α)} :
    (inOrder programs).Ends dispatcher state trace outcome final ↔
      EndOneByOne dispatcher state programs trace outcome final := by
  induction programs generalizing state trace outcome with
  | nil =>
    simp only [inOrder, ends_iff_transcript, transcript_pure, Transcript.ended]
    constructor
    · rintro ⟨-, ⟨⟩⟩
      exact .nil _
    · rintro ⟨⟩
      exact ⟨0, rfl⟩
  | cons program later ih =>
    constructor
    · intro ends
      obtain ⟨value, middle, before, trace, first, rest, rfl⟩ | ⟨error, fails, rfl⟩ :=
        ends_of_andThen ends
      · obtain ⟨inner, ended, rfl⟩ := (map_ends_iff ..).mp rest
        exact .cons first (ih.mp ended)
      · exact .failed fails later
    · intro ends
      cases ends with
      | failed fails => exact andThen_ends_error fails
      | cons first rest =>
        exact andThen_ends_value first ((map_ends_iff ..).mpr ⟨_, ih.mpr rest, rfl⟩)

/-- A sequence ends exactly where its programs do when they are run one by one, with the effects of
each before those of the next. It has all their values, in order, or the first error, and what would
come after a program that fails is never started. After any number of effects, it stands where the
programs do one by one; and two sequences in one run as the one and then the other. -/
theorem sequence_run (programs : Array (Program α)) (dispatcher : Dispatcher σ) (state : σ) :
    (∀ trace outcome final,
      (sequence programs).Ends dispatcher state trace outcome final ↔
        EndOneByOne dispatcher state programs.toList trace outcome final) ∧
    (∀ trace values final,
      (sequence programs).Ends dispatcher state trace (.ok values) final →
        values.length = programs.size) ∧
    (∀ trace error final (unstarted : Array (Program α)),
      (sequence programs).Ends dispatcher state trace (.error error) final →
        (sequence (programs ++ unstarted)).Ends dispatcher state trace (.error error) final) ∧
    (∀ bound, (sequence programs).transcript dispatcher bound state =
      oneByOne dispatcher programs.toList bound state) ∧
    ∀ (others : Array (Program α)) (bound : Nat),
      let first := (sequence programs).transcript dispatcher bound state
      (sequence (programs ++ others)).transcript dispatcher bound state =
        first.andThen fun values middle =>
          ((sequence others).transcript dispatcher (bound - first.trace.length) middle).map
            (values ++ ·) := by
  have ends (trace : List (Effect × Outcome Result)) (outcome : Outcome (List α)) (final : σ) :
      (sequence programs).Ends dispatcher state trace outcome final ↔
        EndOneByOne dispatcher state programs.toList trace outcome final :=
    ((sequence_inOrder programs).ends_iff ..).trans inOrder_ends_iff
  refine ⟨ends, fun trace values final ended => ?_, fun trace error final unstarted fails => ?_,
    fun bound => ?_, fun others bound => ?_⟩
  · exact ((ends ..).mp ended).length_eq
  · exact ((sequence_append programs unstarted).ends_iff ..).mpr (andThen_ends_error fails)
  · rw [(sequence_inOrder programs).transcript, transcript_inOrder]
  · rw [(sequence_append programs others).transcript, transcript_andThen]
    simp only [transcript_map]

end Driving
end Program
end EffectPrograms
