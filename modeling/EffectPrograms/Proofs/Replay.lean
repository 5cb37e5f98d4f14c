import EffectPrograms.Proofs.Adapters

set_option autoImplicit false

namespace EffectPrograms
variable {α σ : Type}

def Reply.script (trace : List (Effect × Outcome Result)) : List Reply :=
  trace.map fun entry => .ofOutcome entry.2

theorem Reply.outcome_ofOutcome {effect : Effect} {outcome : Outcome Result}
    (names : ∀ error, outcome = .error error → error.effect = effect) :
    (Reply.ofOutcome outcome).outcome effect = outcome := by
  cases outcome with
  | ok result => rfl
  | error error =>
    obtain rfl := names error rfl
    rfl

namespace Program
variable {program : Program α}

def Point.turn : Point program σ → Except Violation (Step α × Execution program)
  | .step turn _ => turn
  | .answer effect execution _ => .ok (.suspended effect, execution)

theorem drive_scripted (bound : Nat) (effect : Effect) (execution : Execution program)
    (reply : Reply) (rest : List Reply) (known : List Effect) :
    drive .scripted (bound + 1) (.ok (.suspended effect, execution)) ⟨reply :: rest, known⟩ =
      (Point.answer effect execution
        (.ready (reply.outcome effect), ⟨rest, known ++ [effect]⟩)).progress .scripted bound :=
  progress_suspended ..

variable {dispatcher : Dispatcher σ}

-- The induction is on the run that was traced; the replay needs no change from others.
theorem Completes.replays
    (names : ∀ effect ticket? state error,
      (dispatcher.ask effect ticket? state).1 = .ready (.error error) → error.effect = effect)
    {point : Point program σ} {changes : List (σ → σ)} {trace : List (Effect × Outcome Result)}
    {outcome : Outcome α} {left : σ}
    (completes : Completes dispatcher point changes trace outcome left)
    (asked : point.Asked dispatcher) (extra : Nat) (rest : List Reply) (known : List Effect) :
    drive .scripted (trace.length + extra) point.turn ⟨Reply.script trace ++ rest, known⟩ =
      (.finished outcome, ⟨rest, known ++ trace.map Prod.fst⟩) := by
  induction completes generalizing known with
  | done outcome execution state changes =>
    rw [Point.turn, drive_done]
    simp [Reply.script]
  | @presented effect execution state _ _ _ _ later ih => exact ih ⟨none, state, rfl⟩ known
  | @answered effect execution result state _ _ trace _ later ih =>
    have continues := ih trivial (known ++ [effect])
    rw [List.length_cons, Nat.succ_add, Point.turn, Reply.script, List.map_cons, List.cons_append,
      drive_scripted]
    rw [List.append_assoc] at continues
    exact continues
  | failed effect execution error state changes =>
    obtain ⟨ticket?, before, given⟩ := asked
    have named := names effect ticket? before error (congrArg Prod.fst given.symm)
    have reply : (Reply.ofOutcome (.error error)).outcome effect = .error error :=
      Reply.outcome_ofOutcome fun other same => Except.error.inj same ▸ named
    rw [List.length_singleton, Nat.add_comm, Point.turn, Reply.script, List.map_singleton,
      List.singleton_append, drive_scripted, reply]
    rfl
  | @waited effect execution ticket state _ change _ _ _ later ih =>
    exact ih ⟨some ticket, change state, rfl⟩ known

end Program

namespace Memory
open Program

variable {config : Config} {dispatcher : Dispatcher Backends}

theorem Backends.ask_names (valid : Backends.dispatcher config = .ok dispatcher)
    (between : Nat → Backends → Backends) (effect : Effect) (ticket? : Option Nat)
    (begun : Backends × Nat) (error : EffectError)
    (failed : ((dispatcher.preceded between).ask effect ticket? begun).1 =
      .ready (.error error)) :
    error.effect = effect := by
  obtain rfl := dispatcher_eq valid
  obtain ⟨backends, same⟩ := Dispatcher.ask_preceded _ between effect ticket? begun
  have shape := standard_inShape config collaborators effect ticket? backends
  rw [same, dispatcherFor] at failed
  rw [failed] at shape
  exact shape.names

/-- A run over the memory backends that finishes, with whatever failures are scheduled and whatever
others do before each of its effects and while it waits, finishes in the same way with a recorder
around the dispatcher. What is recorded are the effects that the run presents, with their outcomes; a
script of these outcomes leads the program past the same effects to the same outcome, and is then
used up. -/
theorem record_and_replay (valid : Backends.dispatcher config = .ok dispatcher)
    (program : Program α) {bound : Nat} {between : Nat → Backends → Backends}
    {changes : List (Backends → Backends)} {backends : Backends} {left : Backends × Nat}
    {outcome : Outcome α}
    (finishes : program.runAmid (dispatcher.preceded between) bound (unseen changes) (backends, 0) =
      (.finished outcome, left)) :
    ∃ trace : List (Effect × Outcome Result),
      Completes (dispatcher.preceded between) (.step (Execution.of program).start (backends, 0))
        (unseen changes) trace outcome left ∧
      program.runAmid (dispatcher.preceded between).recording bound (unseen (unseen changes))
          ((backends, 0), #[]) =
        (.finished outcome, (left, trace.toArray)) ∧
      ∀ extra, program.run .scripted (trace.length + extra) (.of (Reply.script trace)) =
        (.finished outcome, ⟨[], trace.map Prod.fst⟩) := by
  obtain ⟨trace, completes, recorded⟩ := runAmid_traces finishes
  refine ⟨trace, completes, ?_, fun extra => ?_⟩
  · have whole := recorded #[]
    rw [Array.empty_append] at whole
    exact whole
  · have replayed := completes.replays (Backends.ask_names valid between) trivial extra [] []
    rw [List.append_nil] at replayed
    exact replayed

-- A run that waits for a frame, which the client sends meanwhile, and then writes to a cache for
-- which a failure is scheduled between the two effects.
theorem record_and_replay_waiting :
    let program : Program Cache.Ack :=
      (Program.perform (.transport (.receive "conn-1"))).andThen fun _ =>
        Program.perform (.cache (.set "k" [1] none))
    let backends := { Backends.empty with sessions := .of SessionTable.empty.connect.2 }
    let between (number : Nat) (backends : Backends) : Backends :=
      if number = 1 then
        { backends with cache := backends.cache.failNext "set" (.unavailable "down") }
      else backends
    let frames (sessions : Faulty SessionTable) : Faulty SessionTable :=
      { sessions with store := (sessions.store.clientSend "conn-1" (.text "hi")).2 }
    let changes : List (Backends → Backends) :=
      [fun backends => { backends with sessions := frames backends.sessions }]
    let error := Config.error .default (.cache (.set "k" [1] none)) .unavailable
      "service unavailable: down"
    ∃ dispatcher left, Backends.dispatcher .default = .ok dispatcher ∧
      program.runAmid (dispatcher.preceded between) 2 (unseen changes) (backends, 0) =
        (.finished (.error error), left) ∧
      ∃ trace : List (Effect × Outcome Result),
        program.runAmid (dispatcher.preceded between).recording 2 (unseen (unseen changes))
            ((backends, 0), #[]) =
          (.finished (.error error), (left, trace.toArray)) ∧
        program.run .scripted trace.length (.of (Reply.script trace)) =
          (.finished (.error error), ⟨[], trace.map Prod.fst⟩) := by
  intro program backends between frames changes error
  have valid : Backends.dispatcher .default =
      .ok (Backends.dispatcherFor (fun _ => true) .default) := rfl
  have finishes : program.runAmid
      ((Backends.dispatcherFor (fun _ => true) .default).preceded between) 2 (unseen changes)
      (backends, 0) = (.finished (.error error), _) := rfl
  obtain ⟨trace, -, recorded, replayed⟩ := record_and_replay valid program finishes
  exact ⟨_, _, valid, finishes, trace, recorded, replayed 0⟩

end Memory
end EffectPrograms
