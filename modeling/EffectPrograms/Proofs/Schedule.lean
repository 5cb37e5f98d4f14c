import EffectPrograms.Program.Schedule
import EffectPrograms.Proofs.Protocol

set_option autoImplicit false

namespace EffectPrograms
variable {α σ : Type}

inductive Ending.Of (program : Program α) : Ending α → Prop where
  | outcome {outcome : Outcome α} (driven : Program.Driven program (.finished outcome)) :
      Of program (.outcome outcome)
  | violation {violation : Violation} (driven : Program.Driven program (.violated violation)) :
      Of program (.violation violation)
  | bound {effect : Effect} {execution : Execution program}
      (driven : Program.Driven program (.bounded effect execution)) : Of program .bound

theorem Ending.Of.unviolated {program : Program α} {ending : Ending α} (told : ending.Of program)
    (built : Program.Built program) (violation : Violation) : ending ≠ .violation violation := by
  obtain ⟨holds, conforms⟩ := built.conforms
  cases told with
  | outcome | bound => simp
  | violation driven => exact (conforms.driven_sound driven).elim

-- A driver came to wait where the run waits.
def Waiting.Driven (run : Waiting α σ) : Prop :=
  Program.Driven run.program (.waiting run.effect run.ticket run.execution)

namespace Attempt

-- What becomes of a run that is started or tried: the ending of a driver's run on its program, or a
-- wait that a driver came to.
inductive Of (name : String) (program : Program α) (dispatcher : Dispatcher σ) :
    Attempt α σ → Prop where
  | ended {report : Report α} (named : report.name = name) (told : report.ending.Of program) :
      Of name program dispatcher (.ended report)
  | waiting {run : Waiting α σ} (driven : run.Driven) (named : run.name = name)
      (same : run.program = program) (under : run.dispatcher = dispatcher) :
      Of name program dispatcher (.waiting run)

theorem of_driven {program : Program α} {progress : Progress program}
    (driven : program.Driven progress) (name : String) (dispatcher : Dispatcher σ)
    (trace : Trace) :
    (Attempt.of name program dispatcher trace progress).Of name program dispatcher := by
  cases progress with
  | finished outcome => exact .ended rfl (.outcome driven)
  | violated violation => exact .ended rfl (.violation driven)
  | waiting effect ticket execution => exact .waiting driven rfl rfl rfl
  | bounded effect execution => exact .ended rfl (.bound driven)

end Attempt

namespace Waiting

-- Some run was tried, and this is what became of it.
def Became (run : Waiting α σ) (attempt : Attempt α σ) : Prop :=
  attempt.Of run.name run.program run.dispatcher

theorem Became.trans {run middle : Waiting α σ} {attempt : Attempt α σ}
    (before : run.Became (.waiting middle)) (after : middle.Became attempt) :
    run.Became attempt := by
  cases before with
  | waiting driven named same under =>
    rw [Became, named, same, under] at after
    exact after

theorem Driven.retry {run : Waiting α σ} (driven : run.Driven) (bound : Nat) (state : σ) :
    run.Became (run.retry bound state).1 :=
  Attempt.of_driven (.again driven run.dispatcher.recording bound (state, run.trace)) ..

end Waiting

section
variable {bound rounds : Nat} {runs : List (Waiting α σ)} {state : σ}

theorem settle_moved (moved : (Round.of bound runs state).1.moved = true) :
    settle bound (rounds + 1) runs state =
      let round := Round.of bound runs state
      let after := settle bound rounds round.1.waiting round.2
      ((round.1.reports ++ after.1.1, after.1.2), after.2) := by
  simp only [settle, moved, if_true]

theorem settle_unmoved (unmoved : (Round.of bound runs state).1.moved = false) :
    settle bound (rounds + 1) runs state =
      let round := Round.of bound runs state
      ((round.1.reports, round.1.waiting), round.2) := by
  simp only [settle, unmoved, Bool.false_eq_true, if_false]

end

-- Every report and every wait comes of one of the runs.
structure Comes (runs : List (Waiting α σ)) (reports : List (Report α))
    (waiting : List (Waiting α σ)) : Prop where
  reports : ∀ report ∈ reports, ∃ run ∈ runs, run.Became (.ended report)
  waiting : ∀ later ∈ waiting, ∃ run ∈ runs, run.Became (.waiting later)

namespace Comes
variable {runs middle left : List (Waiting α σ)} {first later : List (Report α)}

theorem refl (driven : ∀ run ∈ runs, run.Driven) : Comes runs [] runs where
  reports := by simp
  waiting run member := ⟨run, member, .waiting (driven run member) rfl rfl rfl⟩

theorem driven (comes : Comes runs first left) : ∀ run ∈ left, run.Driven := by
  intro run member
  obtain ⟨_, _, came⟩ := comes.waiting run member
  cases came with
  | waiting driven => exact driven

theorem trans (before : Comes runs first middle) (after : Comes middle later left) :
    Comes runs (first ++ later) left where
  reports report member := by
    rcases List.mem_append.mp member with early | late
    · exact before.reports report early
    · obtain ⟨run, among, came⟩ := after.reports report late
      obtain ⟨origin, given, waited⟩ := before.waiting run among
      exact ⟨origin, given, waited.trans came⟩
  waiting last member := by
    obtain ⟨run, among, came⟩ := after.waiting last member
    obtain ⟨origin, given, waited⟩ := before.waiting run among
    exact ⟨origin, given, waited.trans came⟩

theorem cons {run : Waiting α σ} {round : Round α σ} {attempt : Attempt α σ}
    (own : run.Became attempt) (others : Comes runs round.reports round.waiting) :
    Comes (run :: runs) (Round.cons run round attempt).reports
      (Round.cons run round attempt).waiting := by
  have older : Comes (run :: runs) round.reports round.waiting := by
    refine ⟨fun report member => ?_, fun later member => ?_⟩
    · obtain ⟨origin, among, came⟩ := others.reports report member
      exact ⟨origin, .tail _ among, came⟩
    · obtain ⟨origin, among, came⟩ := others.waiting later member
      exact ⟨origin, .tail _ among, came⟩
  cases attempt with
  | ended report =>
    refine ⟨?_, older.waiting⟩
    exact List.forall_mem_cons.mpr ⟨⟨run, .head _, own⟩, older.reports⟩
  | waiting later =>
    refine ⟨older.reports, ?_⟩
    exact List.forall_mem_cons.mpr ⟨⟨run, .head _, own⟩, older.waiting⟩

theorem round {runs : List (Waiting α σ)} (driven : ∀ run ∈ runs, run.Driven) (bound : Nat)
    (state : σ) :
    Comes runs (Round.of bound runs state).1.reports (Round.of bound runs state).1.waiting := by
  induction runs generalizing state with
  | nil => exact .refl driven
  | cons run rest ih =>
    obtain ⟨first, others⟩ := List.forall_mem_cons.mp driven
    exact (ih others _).cons (first.retry bound state)

-- The induction is on the rounds; each goes on from what the one before left waiting.
theorem settle {runs : List (Waiting α σ)} (driven : ∀ run ∈ runs, run.Driven) (bound rounds : Nat)
    (state : σ) :
    Comes runs (EffectPrograms.settle bound rounds runs state).1.1
      (EffectPrograms.settle bound rounds runs state).1.2 := by
  induction rounds generalizing runs state with
  | zero => exact .refl driven
  | succ rounds ih =>
    have comes := Comes.round driven bound state
    cases moved : (Round.of bound runs state).1.moved with
    | true =>
      rw [settle_moved moved]
      exact comes.trans (ih comes.driven _)
    | false =>
      rw [settle_unmoved moved]
      exact comes

end Comes

/-- No run of a built program that is tried among others meets a refusal. -/
theorem settle_unviolated {runs : List (Waiting α σ)} (driven : ∀ run ∈ runs, run.Driven)
    (built : ∀ run ∈ runs, Program.Built run.program) (bound rounds : Nat) (state : σ) :
    ∀ report ∈ (settle bound rounds runs state).1.1, ∀ violation,
      report.ending ≠ .violation violation := by
  intro report member
  obtain ⟨run, among, came⟩ := (Comes.settle driven bound rounds state).reports report member
  cases came with
  | ended named told => exact told.unviolated (built run among)

def Poll.waits {β : Type} (effect : Effect) : Poll β → List (Effect × Nat)
  | .ready _ => []
  | .waiting ticket => [(effect, ticket)]

def Progress.waits {program : Program α} : Progress program → List (Effect × Nat)
  | .waiting effect ticket _ => [(effect, ticket)]
  | _ => []

def Waiting.wait (run : Waiting α σ) : Effect × Nat := (run.effect, run.ticket)

def Attempt.runs : Attempt α σ → List (Waiting α σ)
  | .ended _ => []
  | .waiting run => [run]

def Attempt.waits (attempt : Attempt α σ) : List (Effect × Nat) := attempt.runs.map Waiting.wait

-- The tickets of a state: those below a number were given out, and so many waits have each.
structure Ledger (σ : Type) where
  issued : σ → Nat
  pending : σ → Effect × Nat → Nat

namespace Ledger
variable {ledger : Ledger σ} {state middle left : σ} {ended begun : List (Effect × Nat)}

def comap {τ : Type} (ledger : Ledger σ) (part : τ → σ) : Ledger τ :=
  ⟨fun whole => ledger.issued (part whole), fun whole => ledger.pending (part whole)⟩

-- Waits that end and waits that begin, with new tickets.
structure Exchanges (ledger : Ledger σ) (state : σ) (ended begun : List (Effect × Nat))
    (left : σ) : Prop where
  le : ledger.issued state ≤ ledger.issued left
  fresh : ∀ wait ∈ begun, ledger.issued state ≤ wait.2 ∧ wait.2 < ledger.issued left
  pending : ∀ wait,
    ledger.pending left wait ≤ ledger.pending state wait - ended.count wait + begun.count wait

theorem exchanges_comap {τ : Type} {part : τ → σ} {whole later : τ} :
    (ledger.comap part).Exchanges whole ended begun later ↔
      ledger.Exchanges (part whole) ended begun (part later) :=
  ⟨fun exchanges => ⟨exchanges.le, exchanges.fresh, exchanges.pending⟩,
    fun exchanges => ⟨exchanges.le, exchanges.fresh, exchanges.pending⟩⟩

theorem Exchanges.same : ledger.Exchanges state [] [] state :=
  ⟨Nat.le_refl _, by simp, fun _ => Nat.le_refl _⟩

theorem Exchanges.weaken (exchanges : ledger.Exchanges state ended [] left) :
    ledger.Exchanges state [] [] left :=
  ⟨exchanges.le, exchanges.fresh,
    fun wait => Nat.le_trans (exchanges.pending wait) (Nat.sub_le ..)⟩

theorem Exchanges.trans (first : ledger.Exchanges state ended [] middle)
    (second : ledger.Exchanges middle [] begun left) :
    ledger.Exchanges state ended begun left where
  le := Nat.le_trans first.le second.le
  fresh wait member :=
    ⟨Nat.le_trans first.le (second.fresh wait member).1, (second.fresh wait member).2⟩
  pending wait := Nat.le_trans (second.pending wait) (Nat.add_le_add_right (first.pending wait) _)

end Ledger

namespace Dispatcher

-- Every effect that waits is entered with a new ticket, until it is answered.
structure Keeps (dispatcher : Dispatcher σ) (ledger : Ledger σ) : Prop where
  interprets : ∀ effect state,
    ledger.Exchanges state [] ((dispatcher.interpret effect state).1.waits effect)
      (dispatcher.interpret effect state).2
  serves : ∀ effect ticket state answer left,
    dispatcher.again effect ticket state = (.ready answer, left) →
      ledger.Exchanges state [(effect, ticket)] [] left
  waits : ∀ effect ticket state later left,
    dispatcher.again effect ticket state = (.waiting later, left) → later = ticket ∧ left = state

variable {dispatcher : Dispatcher σ} {ledger : Ledger σ}

theorem record_eq (effect : Effect) (answer : Poll (Outcome Result) × σ) (known : Trace) :
    ∃ trace, record effect answer known = (answer.1, (answer.2, trace)) ∧
      ∀ ticket, answer.1 = .waiting ticket → trace = known := by
  rcases answer with ⟨outcome | ticket, state⟩
  · exact ⟨_, rfl, nofun⟩
  · exact ⟨_, rfl, fun _ _ => rfl⟩

theorem Keeps.recording (keeps : dispatcher.Keeps ledger) :
    dispatcher.recording.Keeps (ledger.comap Prod.fst) where
  interprets effect reached := by
    obtain ⟨trace, recorded, -⟩ :=
      record_eq effect (dispatcher.interpret effect reached.1) reached.2
    simp only [Dispatcher.recording, recorded]
    exact Ledger.exchanges_comap.mpr (keeps.interprets effect reached.1)
  serves effect ticket reached answer left served := by
    obtain ⟨trace, recorded, -⟩ :=
      record_eq effect (dispatcher.again effect ticket reached.1) reached.2
    obtain ⟨ready, rfl⟩ := Prod.mk.inj (recorded.symm.trans served)
    exact Ledger.exchanges_comap.mpr
      (keeps.serves effect ticket reached.1 answer _ (Prod.ext ready rfl))
  waits effect ticket reached later left waited := by
    obtain ⟨trace, recorded, kept⟩ :=
      record_eq effect (dispatcher.again effect ticket reached.1) reached.2
    obtain ⟨waits, rfl⟩ := Prod.mk.inj (recorded.symm.trans waited)
    obtain ⟨rfl, same⟩ := keeps.waits effect ticket reached.1 later _ (Prod.ext waits rfl)
    exact ⟨rfl, Prod.ext same (kept later waits)⟩

end Dispatcher

namespace Program
variable {program : Program α} {dispatcher : Dispatcher σ} {ledger : Ledger σ}

-- The induction is on the bound: an effect that is answered leaves no wait.
theorem drive_exchanges (keeps : dispatcher.Keeps ledger) (bound : Nat)
    (turn : Except Violation (Step α × Execution program)) (state : σ) :
    ledger.Exchanges state [] (drive dispatcher bound turn state).1.waits
      (drive dispatcher bound turn state).2 := by
  induction bound generalizing turn state with
  | zero => rcases turn with violation | ⟨effect | outcome, execution⟩ <;> exact .same
  | succ bound ih =>
    rcases turn with violation | ⟨effect | outcome, execution⟩
    · exact .same
    · have entered := keeps.interprets effect state
      rw [drive]
      generalize dispatcher.interpret effect state = answer at entered ⊢
      rcases answer with ⟨⟨error | result⟩ | ticket, left⟩
      · exact entered
      · exact entered.trans (ih _ left)
      · exact entered
    · exact .same

-- A run that is asked again waits on and nothing has changed, or it is past that wait.
theorem resumeWaiting_exchanges (keeps : dispatcher.Keeps ledger) (bound : Nat) (effect : Effect)
    (ticket : Nat) (execution : Execution program) (state : σ) :
    dispatcher.again effect ticket state = (.waiting ticket, state) ∨
      ledger.Exchanges state [(effect, ticket)]
        (resumeWaiting dispatcher bound effect ticket execution state).1.waits
        (resumeWaiting dispatcher bound effect ticket execution state).2 := by
  rw [resumeWaiting]
  rcases asked : dispatcher.again effect ticket state with ⟨⟨error | result⟩ | later, left⟩
  · exact .inr (keeps.serves effect ticket state _ left asked)
  · have served := keeps.serves effect ticket state _ left asked
    exact .inr (served.trans (drive_exchanges keeps bound _ left))
  · obtain ⟨rfl, rfl⟩ := keeps.waits effect ticket state later left asked
    exact .inl rfl

end Program

namespace Attempt

theorem waits_of (name : String) (program : Program α) (dispatcher : Dispatcher σ) (trace : Trace)
    (progress : Progress program) :
    (Attempt.of name program dispatcher trace progress).waits = progress.waits := by
  cases progress <;> rfl

end Attempt

namespace Waiting
variable {ledger : Ledger σ}

-- A driver came to wait with a ticket that was given out, under a dispatcher that keeps the ledger.
structure Held (ledger : Ledger σ) (state : σ) (run : Waiting α σ) : Prop where
  driven : run.Driven
  keeps : run.dispatcher.Keeps ledger
  given : run.ticket < ledger.issued state

theorem Held.mono {state left : σ} {run : Waiting α σ} (held : run.Held ledger state)
    (le : ledger.issued state ≤ ledger.issued left) : run.Held ledger left :=
  ⟨held.driven, held.keeps, Nat.lt_of_lt_of_le held.given le⟩

-- Asked again, the run waits on, and nothing changes.
def Rests (state : σ) (run : Waiting α σ) : Prop :=
  run.dispatcher.again run.effect run.ticket state = (.waiting run.ticket, state)

theorem Rests.retry {state : σ} {run : Waiting α σ} (rests : run.Rests state) (bound : Nat) :
    run.retry bound state = (.waiting run, state) := by
  have asked : run.dispatcher.recording.again run.effect run.ticket (state, run.trace) =
      (.waiting run.ticket, (state, run.trace)) := by
    rw [Rests] at rests
    simp only [Dispatcher.recording, rests, Dispatcher.record]
  simp only [Waiting.retry, Program.resumeWaiting, asked, Attempt.of]

theorem Held.retry {state : σ} {run : Waiting α σ} (held : run.Held ledger state) (bound : Nat) :
    run.Rests state ∨ ledger.Exchanges state [run.wait] (run.retry bound state).1.waits
      (run.retry bound state).2 := by
  rcases Program.resumeWaiting_exchanges held.keeps.recording bound run.effect run.ticket
    run.execution (state, run.trace) with asked | exchanges
  · left
    obtain ⟨trace, recorded, -⟩ := Dispatcher.record_eq run.effect
      (run.dispatcher.again run.effect run.ticket state) run.trace
    obtain ⟨waits, left⟩ := Prod.mk.inj (recorded.symm.trans asked)
    exact Prod.ext waits (congrArg Prod.fst left)
  · right
    rw [Waiting.retry]
    dsimp only
    rw [Attempt.waits_of]
    exact Ledger.exchanges_comap.mp exchanges

end Waiting

-- The waits of a state are those of the runs, and these have tickets that were given out.
structure Orderly (ledger : Ledger σ) (runs : List (Waiting α σ)) (state : σ) : Prop where
  held : ∀ run ∈ runs, run.Held ledger state
  manned : ∀ wait, ledger.pending state wait ≤ (runs.map Waiting.wait).count wait

namespace Round
variable {ledger : Ledger σ} {run : Waiting α σ} {rest runs : List (Waiting α σ)} {state : σ}

theorem of_cons (bound : Nat) (run : Waiting α σ) (rest : List (Waiting α σ)) (state : σ) :
    of bound (run :: rest) state =
      let attempt := run.retry bound state
      let tried := of bound rest attempt.2
      (cons run tried.1 attempt.1, tried.2) := by
  rfl

theorem waits_cons (run : Waiting α σ) (round : Round α σ) (attempt : Attempt α σ) :
    (cons run round attempt).waiting.map Waiting.wait =
      attempt.waits ++ round.waiting.map Waiting.wait := by
  cases attempt <;> rfl

-- A round that moves no run leaves all as it is.
theorem of_unmoved {bound : Nat} (held : ∀ run ∈ runs, run.Held ledger state)
    (unmoved : (of bound runs state).1.moved = false) :
    of bound runs state = (⟨false, [], runs⟩, state) ∧ ∀ run ∈ runs, run.Rests state := by
  induction runs generalizing state with
  | nil => exact ⟨rfl, by simp⟩
  | cons run rest ih =>
    obtain ⟨first, others⟩ := List.forall_mem_cons.mp held
    rw [of_cons] at unmoved ⊢
    rcases first.retry bound with rests | exchanges
    · rw [rests.retry] at unmoved ⊢
      have still : (of bound rest state).1.moved = false := by simpa [cons] using unmoved
      obtain ⟨same, resting⟩ := ih others still
      exact ⟨by simp [cons, same], List.forall_mem_cons.mpr ⟨rests, resting⟩⟩
    · exfalso
      have fresh := exchanges.fresh
      dsimp only at unmoved
      generalize (run.retry bound state).1 = attempt at fresh unmoved
      cases attempt with
      | ended report => cases unmoved
      | waiting later =>
        have new := (fresh later.wait (.head _)).1
        have same : later.ticket = run.ticket := by
          simpa [cons] using (Bool.or_eq_false_iff.mp unmoved).2
        exact absurd first.given (Nat.not_lt_of_le (same ▸ new))

-- One run is tried; the waits of others, which are not, may be among those of the state.
theorem retry_held (others : List (Effect × Nat)) (bound : Nat) (held : run.Held ledger state)
    (manned : ∀ wait, ledger.pending state wait ≤
      ((run :: rest).map Waiting.wait).count wait + others.count wait) :
    ledger.issued state ≤ ledger.issued (run.retry bound state).2 ∧
      (∀ later, (run.retry bound state).1 = .waiting later →
        later.Held ledger (run.retry bound state).2) ∧
      ∀ wait, ledger.pending (run.retry bound state).2 wait ≤
        (rest.map Waiting.wait).count wait +
          ((run.retry bound state).1.waits ++ others).count wait := by
  rcases held.retry bound with rests | exchanges
  · rw [rests.retry]
    refine ⟨Nat.le_refl _, ?_, fun wait => ?_⟩
    · rintro _ ⟨⟩
      exact held
    · have bounded := manned wait
      simp only [List.map_cons, List.count_cons, List.count_append, Attempt.waits, Attempt.runs,
        List.map_nil, List.count_nil] at bounded ⊢
      omega
  · refine ⟨exchanges.le, fun later waits => ?_, fun wait => ?_⟩
    · have came := held.driven.retry bound state
      have fresh := exchanges.fresh
      rw [waits] at came fresh
      cases came with
      | waiting driven named same under =>
        exact ⟨driven, under ▸ held.keeps, (fresh later.wait (.head _)).2⟩
    · have bounded := manned wait
      have left := exchanges.pending wait
      simp only [List.map_cons, List.count_cons, List.count_append, List.count_nil]
        at bounded left ⊢
      omega

theorem of_held (others : List (Effect × Nat)) (bound : Nat)
    (held : ∀ run ∈ runs, run.Held ledger state)
    (manned : ∀ wait,
      ledger.pending state wait ≤ (runs.map Waiting.wait).count wait + others.count wait) :
    let (round, left) := of bound runs state
    ledger.issued state ≤ ledger.issued left ∧
      (∀ run ∈ round.waiting, run.Held ledger left) ∧
      ∀ wait, ledger.pending left wait ≤
        (round.waiting.map Waiting.wait).count wait + others.count wait := by
  induction runs generalizing state others with
  | nil => exact ⟨Nat.le_refl _, held, manned⟩
  | cons run rest ih =>
    obtain ⟨first, rested⟩ := List.forall_mem_cons.mp held
    obtain ⟨le, waits, pending⟩ := retry_held others bound first manned
    rw [of_cons]
    dsimp only
    generalize run.retry bound state = answer at le waits pending
    obtain ⟨attempt, middle⟩ := answer
    obtain ⟨grown, later, kept⟩ := ih _ (fun other member => (rested other member).mono le) pending
    refine ⟨Nat.le_trans le grown, ?_, fun wait => ?_⟩
    · cases attempt with
      | ended report => exact later
      | waiting again => exact List.forall_mem_cons.mpr ⟨(waits again rfl).mono grown, later⟩
    · have bounded := kept wait
      rw [waits_cons]
      simp only [List.count_append] at bounded ⊢
      omega

theorem of_orderly (orderly : Orderly ledger runs state) (bound : Nat) :
    Orderly ledger (of bound runs state).1.waiting (of bound runs state).2 := by
  obtain ⟨-, held, manned⟩ :=
    of_held [] bound orderly.held (by simpa using orderly.manned)
  exact ⟨held, by simpa using manned⟩

end Round

-- So many rounds move a run each.
def Moving (bound : Nat) : Nat → List (Waiting α σ) → σ → Prop
  | 0, _, _ => True
  | rounds + 1, runs, state =>
      (Round.of bound runs state).1.moved = true ∧
        Moving bound rounds (Round.of bound runs state).1.waiting (Round.of bound runs state).2

-- What is left when the waiting runs have been tried: unless the rounds ran out, no run can go on.
theorem settle_orderly {ledger : Ledger σ} {runs : List (Waiting α σ)} {state : σ}
    (orderly : Orderly ledger runs state) (bound rounds : Nat) :
    let ((_, waiting), left) := settle bound rounds runs state
    Orderly ledger waiting left ∧
      (¬ Moving bound rounds runs state → ∀ run ∈ waiting, run.Rests left) := by
  induction rounds generalizing runs state with
  | zero => exact ⟨orderly, fun settled => absurd trivial settled⟩
  | succ rounds ih =>
    have later := Round.of_orderly orderly bound
    cases moved : (Round.of bound runs state).1.moved with
    | true =>
      rw [settle_moved moved]
      obtain ⟨kept, rests⟩ := ih later
      exact ⟨kept, fun settled => rests fun moving => settled ⟨moved, moving⟩⟩
    | false =>
      obtain ⟨same, rests⟩ := Round.of_unmoved orderly.held moved
      rw [settle_unmoved moved, same]
      exact ⟨orderly, fun _ => rests⟩

theorem Orderly.amid {ledger : Ledger σ} {runs : List (Waiting α σ)} {state left : σ}
    (orderly : Orderly ledger runs state) (amid : ledger.Exchanges state [] [] left) :
    Orderly ledger runs left :=
  ⟨fun run member => (orderly.held run member).mono amid.le,
    fun wait => Nat.le_trans (amid.pending wait) (orderly.manned wait)⟩

theorem start_orderly {ledger : Ledger σ} {runs : List (Waiting α σ)} {state : σ}
    {dispatcher : Dispatcher σ} (orderly : Orderly ledger runs state)
    (keeps : dispatcher.Keeps ledger) (name : String) (program : Program α) (bound : Nat) :
    let (attempt, left) := Attempt.start name program dispatcher bound state
    Orderly ledger (runs ++ attempt.runs) left ∧ attempt.Of name program dispatcher := by
  have exchanges : ledger.Exchanges state []
      (program.run dispatcher.recording bound (state, #[])).1.waits
      (program.run dispatcher.recording bound (state, #[])).2.1 :=
    Ledger.exchanges_comap.mp
      (Program.drive_exchanges keeps.recording bound (Execution.of program).start (state, #[]))
  have driven : program.Driven (program.run dispatcher.recording bound (state, #[])).1 := .run ..
  rw [Attempt.start]
  generalize program.run dispatcher.recording bound (state, #[]) = reached at exchanges driven
  obtain ⟨progress, left, trace⟩ := reached
  have became := Attempt.of_driven driven name dispatcher trace
  have waits := Attempt.waits_of name program dispatcher trace progress
  dsimp only at exchanges ⊢
  generalize Attempt.of name program dispatcher trace progress = attempt at became waits ⊢
  refine ⟨⟨fun run member => ?_, fun wait => ?_⟩, became⟩
  · rcases List.mem_append.mp member with earlier | last
    · exact (orderly.held run earlier).mono exchanges.le
    · cases became with
      | ended => cases last
      | waiting later named same under =>
        obtain rfl := List.mem_singleton.mp last
        rw [← waits] at exchanges
        exact ⟨later, under ▸ keeps, (exchanges.fresh run.wait (.head _)).2⟩
  · rw [List.map_append, List.count_append, ← Attempt.waits, waits]
    exact Nat.le_trans (exchanges.pending wait)
      (Nat.add_le_add_right (orderly.manned wait) _)

end EffectPrograms
