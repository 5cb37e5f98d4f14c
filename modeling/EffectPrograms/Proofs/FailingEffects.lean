import EffectPrograms.Proofs.Happenings
import EffectPrograms.Proofs.Refusals

set_option autoImplicit false

namespace EffectPrograms

namespace Effect

-- The subscription that a request takes to be attached.
def subscription? : Effect → Option String
  | messaging (.receive subscription) | messaging (.acknowledge subscription _) =>
      some subscription
  | _ => none

-- The connection that a request takes to have been given out.
def connection? : Effect → Option String
  | transport request => some request.connection
  | _ => none

end Effect

namespace Memory

section Tables
variable {failure : BackendError}

theorem BrokerTable.receive_error_iff (broker : BrokerTable) (name : String) :
    (broker.receive name).1 = .error failure ↔
      broker.subscriptions.get? name = none ∧ failure = unknownSubscription name := by
  cases known : broker.subscriptions.get? name with
  | none => simp [receive, known, eq_comm]
  | some subscription => cases taken : subscription.take? <;> simp [receive, known, taken]

theorem BrokerTable.acknowledge_error_iff (broker : BrokerTable) (name messageId : String) :
    (broker.acknowledge name messageId).1 = .error failure ↔
      broker.subscriptions.get? name = none ∧ failure = unknownSubscription name := by
  cases known : broker.subscriptions.get? name <;> simp [acknowledge, known, eq_comm]

variable (sessions : SessionTable) (id : String)

theorem SessionTable.send_error_iff (frame : Transport.Frame) :
    (sessions.send id frame).1 = .error failure ↔
      sessions.connections.get? id = none ∧ failure = unknownConnection id := by
  cases known : sessions.connections.get? id with
  | none => simp [send, known, eq_comm]
  | some connection =>
    simp only [send, known]
    split <;> simp

theorem SessionTable.receive_error_iff :
    (sessions.receive id).1 = .ready (.error failure) ↔
      sessions.connections.get? id = none ∧ failure = unknownConnection id := by
  cases known : sessions.connections.get? id with
  | none => simp [receive, known, eq_comm]
  | some connection =>
    have served : (sessions.receive id).1 ≠ .ready (.error failure) := by
      simp only [receive, known]
      split
      · simp
      · split
        · split
          · simp
          · exact Backends.enqueue_waits id connection sessions _
        · exact Backends.enqueue_waits id connection sessions _
    simp [served]

theorem SessionTable.close_error_iff (code : Nat) (reason : String) :
    (sessions.close id code reason).1 = .error failure ↔
      sessions.connections.get? id = none ∧ failure = unknownConnection id := by
  cases known : sessions.connections.get? id with
  | none => simp [close, known, eq_comm]
  | some connection =>
    simp only [close, known]
    split <;> simp

end Tables

theorem map_error_iff {α β : Type} {answer : Backed α} {f : α → β} {failure : BackendError} :
    answer.map f = .error failure ↔ answer = .error failure := by
  cases answer <;> simp [Except.map]

namespace Data
variable {data : Data} {config : Config} {effect : Effect} {failure : BackendError}

-- A request on something that the data know nothing of, with the failure that tells so.
inductive Unknown (data : Data) (effect : Effect) : BackendError → Prop where
  | subscription {name : String} (needed : effect.subscription? = some name)
      (unknown : data.broker.subscriptions.get? name = none) :
      Unknown data effect (BrokerTable.unknownSubscription name)
  | connection {id : String} (needed : effect.connection? = some id)
      (unknown : data.sessions.connections.get? id = none) :
      Unknown data effect (SessionTable.unknownConnection id)

theorem unknown_kind (unknown : data.Unknown effect failure) :
    failure.kind = .invalidRequest := by
  cases unknown <;> rfl

theorem unknown_iff : data.Unknown effect failure ↔
    (∃ name, effect.subscription? = some name ∧
      data.broker.subscriptions.get? name = none ∧
        failure = BrokerTable.unknownSubscription name) ∨
      ∃ id, effect.connection? = some id ∧ data.sessions.connections.get? id = none ∧
        failure = SessionTable.unknownConnection id := by
  constructor
  · rintro (⟨needed, unknown⟩ | ⟨needed, unknown⟩)
    · exact .inl ⟨_, needed, unknown, rfl⟩
    · exact .inr ⟨_, needed, unknown, rfl⟩
  · rintro (⟨name, needed, unknown, rfl⟩ | ⟨id, needed, unknown, rfl⟩)
    · exact .subscription needed unknown
    · exact .connection needed unknown

theorem work_error_iff :
    (data.work config effect).1 = .ready (.error failure) ↔ data.Unknown effect failure := by
  rw [unknown_iff]
  cases effect with
  | storage request | object request | cache request =>
    simp [work, Effect.subscription?, Effect.connection?]
  | messaging request =>
    cases request with
    | publish => simp [work, BrokerTable.work, Effect.subscription?, Effect.connection?]
    | receive subscription =>
      simp [work, BrokerTable.work, map_error_iff, BrokerTable.receive_error_iff,
        Effect.subscription?, Effect.connection?]
    | acknowledge subscription messageId =>
      simp [work, BrokerTable.work, map_error_iff, BrokerTable.acknowledge_error_iff,
        Effect.subscription?, Effect.connection?]
  | transport request =>
    cases request with
    | send connection frame =>
      simp [work, SessionTable.work, SessionTable.send_error_iff, Effect.subscription?,
        Effect.connection?, Transport.Request.connection]
    | receive connection =>
      simp [work, SessionTable.work, SessionTable.receive_error_iff, Effect.subscription?,
        Effect.connection?, Transport.Request.connection]
    | close connection code reason =>
      simp [work, SessionTable.work, SessionTable.close_error_iff, Effect.subscription?,
        Effect.connection?, Transport.Request.connection]

end Data

namespace Backends
variable {config : Config} {dispatcher : Dispatcher Backends} {effect : Effect}
  {backends left : Backends} {error : EffectError}

theorem map_outcome_error {answer : Poll (Backed effect.Response)}
    (failed : answer.map (config.outcome effect) = .ready (.error error)) :
    ∃ failure, answer = .ready (.error failure) ∧
      error = config.error effect failure.kind failure.message := by
  cases answer with
  | waiting ticket => cases failed
  | ready backed =>
    obtain ⟨failure, rfl, same⟩ := outcome_error (Poll.ready.inj failed)
    exact ⟨failure, rfl, same⟩

theorem interpret_error_iff (valid : Backends.dispatcher config = .ok dispatcher)
    (quiet : (backends.faultsOf effect.family).Quiet) :
    (∃ error left, dispatcher.interpret effect backends = (.ready (.error error), left)) ↔
      effect.Unfit config ∨ ∃ failure, backends.data.Unknown effect failure := by
  have accepted := Config.refusal?_eq_none_iff (fault?_of_dispatcher valid) effect
  cases refused : config.refusal? effect with
  | some refusal =>
    have unfit : effect.Unfit config := by
      by_contra fit
      rw [accepted.mpr fit] at refused
      cases refused
    exact iff_of_true ⟨_, _, interpret_refused valid refused backends⟩ (.inl unfit)
  | none =>
    rw [interpret_quiet valid refused quiet]
    constructor
    · rintro ⟨error, left, failed⟩
      obtain ⟨failure, struck, -⟩ := map_outcome_error (congrArg Prod.fst failed)
      exact .inr ⟨failure, Data.work_error_iff.mp struck⟩
    · rintro (unfit | ⟨failure, unknown⟩)
      · exact absurd unfit (accepted.mp refused)
      · rw [Data.work_error_iff.mpr unknown]
        exact ⟨_, _, rfl⟩

theorem refusal_kind (refusal : Refusal) :
    refusal.kind = .payloadTooLarge ∨ refusal.kind = .invalidRequest := by
  cases refusal with
  | tooLarge => exact .inl rfl
  | emptyName | zeroLimit | zeroTtl | longTtl | closeCode | longReason => exact .inr rfl

theorem interpret_error_kind (valid : Backends.dispatcher config = .ok dispatcher)
    (quiet : (backends.faultsOf effect.family).Quiet)
    (failed : dispatcher.interpret effect backends = (.ready (.error error), left)) :
    (error.kind = .payloadTooLarge ∨ error.kind = .invalidRequest) ∧
      error.retryable = config.isRetryable error.kind := by
  cases refused : config.refusal? effect with
  | some refusal =>
    rw [interpret_refused valid refused] at failed
    obtain rfl := Except.error.inj (Poll.ready.inj (congrArg Prod.fst failed))
    exact ⟨refusal_kind refusal, rfl⟩
  | none =>
    rw [interpret_quiet valid refused quiet] at failed
    obtain ⟨failure, struck, rfl⟩ := map_outcome_error (congrArg Prod.fst failed)
    exact ⟨.inr (Data.unknown_kind (Data.work_error_iff.mp struck)), rfl⟩

end Backends

namespace Happening
variable {config : Config} {dispatcher : Dispatcher Backends}

theorem unknown_iff (happenings : List Happening) (effect : Effect) :
    (∃ failure, (course happenings).2.data.Unknown effect failure) ↔
      (∃ name, effect.subscription? = some name ∧
        ∀ topic, .subscribe topic name ∉ happenings) ∨
      ∃ id, effect.connection? = some id ∧ id ∉ (course happenings).1 := by
  have recalls := course_recalls happenings
  have unsubscribed (name : String) :
      (course happenings).2.data.broker.subscriptions.get? name = none ↔
        ∀ topic, .subscribe topic name ∉ happenings := by
    rw [← Option.not_isSome_iff_eq_none, ← not_exists]
    exact not_congr (recalls.subscribed name)
  have unissued (id : String) :
      (course happenings).2.data.sessions.connections.get? id = none ↔
        id ∉ (course happenings).1 := by
    rw [← Option.not_isSome_iff_eq_none]
    exact not_congr (recalls.connected id)
  simp [Data.unknown_iff, exists_or, unsubscribed, unissued]

/-- Where no failure is scheduled, an effect fails if and only if its request is unfit, or it is on a
subscription that was never attached, or on a connection that was never given out. The error is of
one of two kinds, and the configuration tells whether it may be tried again. Only a receive waits,
and it is never answered by an error later. -/
theorem effect_fails_iff (valid : Backends.dispatcher config = .ok dispatcher)
    (happenings : List Happening) :
    let issued := (course happenings).1
    let reached := (course happenings).2
    (∀ effect, (reached.faultsOf effect.family).Quiet →
      ((∃ error left, dispatcher.interpret effect reached = (.ready (.error error), left)) ↔
        effect.Unfit config ∨
          (∃ name, effect.subscription? = some name ∧
            ∀ topic, .subscribe topic name ∉ happenings) ∨
          ∃ id, effect.connection? = some id ∧ id ∉ issued) ∧
      ∀ error left, dispatcher.interpret effect reached = (.ready (.error error), left) →
        (error.kind = .payloadTooLarge ∨ error.kind = .invalidRequest) ∧
          error.retryable = config.isRetryable error.kind) ∧
    (∀ effect ticket left, dispatcher.interpret effect reached = (.waiting ticket, left) →
      ∃ connection, effect = .transport (.receive connection)) ∧
    (∀ connection ticket error,
      (dispatcher.again (.transport (.receive connection)) ticket reached).1 ≠
        .ready (.error error)) ∧
    ((∀ family faults, .schedule family faults ∉ happenings) →
      ∀ family, (reached.faultsOf family).Quiet) := by
  intro issued reached
  refine ⟨fun effect quiet => ⟨?_, ?_⟩, ?_, ?_, course_quiet⟩
  · rw [Backends.interpret_error_iff valid quiet, unknown_iff]
  · exact fun error left failed => Backends.interpret_error_kind valid quiet failed
  · exact fun effect ticket left waits => Backends.interpret_waits valid waits
  · exact fun connection ticket error => Backends.again_served valid connection ticket reached error

-- A receive on a subscription that was attached does not fail, on another one it does.
theorem effect_fails_iff_attached :
    let happenings : List Happening := [.subscribe "jobs" "worker", .connect]
    let fails (effect : Effect) : Prop := ∃ dispatcher error left,
      Backends.dispatcher .default = .ok dispatcher ∧
        dispatcher.interpret effect (course happenings).2 = (.ready (.error error), left)
    fails (.messaging (.receive "other")) ∧ ¬ fails (.messaging (.receive "worker")) := by
  intro happenings fails
  have valid : Backends.dispatcher .default = .ok (Backends.dispatcherFor (fun _ => true) .default) :=
    rfl
  obtain ⟨exactly, -, -, quiet⟩ := effect_fails_iff valid happenings
  have unscheduled : ∀ family faults, Happening.schedule family faults ∉ happenings := by
    simp [happenings]
  constructor
  · have unsubscribed : ∀ topic, Happening.subscribe topic "other" ∉ happenings := by
      simp [happenings]
    obtain ⟨error, left, failed⟩ := (exactly (.messaging (.receive "other"))
      (quiet unscheduled _)).1.mpr (.inr (.inl ⟨"other", rfl, unsubscribed⟩))
    exact ⟨_, error, left, valid, failed⟩
  · rintro ⟨dispatcher, error, left, given, failed⟩
    obtain rfl := Except.ok.inj (valid.symm.trans given)
    rcases (exactly (.messaging (.receive "worker")) (quiet unscheduled _)).1.mp
      ⟨error, left, failed⟩ with unfit | ⟨name, needed, never⟩ | ⟨id, needed, -⟩
    · cases unfit with
      | emptyName empty => simp [Effect.names] at empty
      | tooLarge size sized => cases sized
      | outOfRange out => exact out
    · obtain rfl := Option.some.inj needed
      exact never "jobs" (by simp [happenings])
    · cases needed

end Happening
end Memory
end EffectPrograms
