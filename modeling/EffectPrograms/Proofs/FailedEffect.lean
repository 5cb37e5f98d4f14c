import EffectPrograms.Memory.Backends
import EffectPrograms.Program.Combinators
import EffectPrograms.Proofs.Faults
import EffectPrograms.Proofs.Preceded
import EffectPrograms.Proofs.Transcript

set_option autoImplicit false

namespace EffectPrograms

namespace Effect

-- The name under which a failure is scheduled with the store, which is not the operation's name.
def callName : Effect → String
  | storage (.get ..) | object (.get ..) | cache (.get ..) => "get"
  | storage (.put ..) | object (.put ..) => "put"
  | storage (.delete ..) | object (.delete ..) | cache (.delete ..) => "delete"
  | storage (.query ..) => "query"
  | object (.list ..) => "list"
  | cache (.set ..) => "set"
  | messaging (.publish ..) => "publish"
  | messaging (.receive ..) | transport (.receive ..) => "receive"
  | messaging (.acknowledge ..) => "acknowledge"
  | transport (.send ..) => "send"
  | transport (.close ..) => "close"

end Effect

namespace Program
variable {α σ : Type} {program : Program α}

-- A run that a failed effect ended. The effects before it were answered; what it left is told
-- against the state that it met.
inductive Stopped (dispatcher : Dispatcher σ) (kept : σ → σ → Prop) (begun : σ) (failed : Effect)
    (error : EffectError) : List (Effect × Outcome Result) → σ → Prop where
  | after {done : List (Effect × Result)} {middle left : σ}
      (before : Performs dispatcher begun done middle)
      (answer : dispatcher.interpret failed middle = (.ready (.error error), left))
      (spared : kept middle left) :
      Stopped dispatcher kept begun failed error (answers done ++ [(failed, .error error)]) left

-- How runs end by a failed effect, from their start and from where a receive is asked for again.
structure Stops (dispatcher : Dispatcher σ) (kept : σ → σ → Prop) : Prop where
  run : ∀ {α : Type} (program : Program α) bound state failed error,
    let transcript := program.transcript dispatcher bound state
    transcript.trace.getLast? = some (failed, .error error) →
      program.run dispatcher bound state = (.finished (.error error), transcript.state) ∧
        Stopped dispatcher kept state failed error transcript.trace transcript.state
  resumed : ∀ {α : Type} {program : Program α} (execution : Execution program) bound connection
    ticket state failed error,
    let receive := Effect.transport (.receive connection)
    let transcript := resumed dispatcher bound receive ticket execution state
    transcript.trace.getLast? = some (failed, .error error) →
      resumeWaiting dispatcher bound receive ticket execution state =
          (.finished (.error error), transcript.state) ∧
        ∃ result served later,
          dispatcher.again receive ticket state = (.ready (.ok result), served) ∧
            transcript.trace = (receive, .ok result) :: later ∧
              Stopped dispatcher kept served failed error later transcript.state

section
variable {dispatcher : Dispatcher σ} {kept : σ → σ → Prop} {failed : Effect} {error : EffectError}
  (spares : ∀ effect state error left,
    dispatcher.interpret effect state = (.ready (.error error), left) → kept state left)
include spares

theorem Traced.stopped {begun : σ} {transcript : Transcript α σ}
    (traced : Traced dispatcher begun transcript)
    (last : transcript.trace.getLast? = some (failed, .error error)) :
    transcript.standing = .finished (.error error) ∧
      Stopped dispatcher kept begun failed error transcript.trace transcript.state := by
  cases traced with
  | answered standing done final =>
    obtain ⟨entry, _, same⟩ := List.mem_map.mp (List.mem_of_getLast? last)
    cases same
  | failed before refused =>
    obtain ⟨rfl, rfl⟩ : _ = failed ∧ _ = error := by simpa using last
    exact ⟨rfl, .after before refused (spares _ _ _ _ refused)⟩

theorem run_stopped (program : Program α) {bound : Nat} {state : σ}
    (last : (program.transcript dispatcher bound state).trace.getLast? =
      some (failed, .error error)) :
    let transcript := program.transcript dispatcher bound state
    program.run dispatcher bound state = (.finished (.error error), transcript.state) ∧
      Stopped dispatcher kept state failed error transcript.trace transcript.state := by
  have traced : Traced dispatcher state (program.transcript dispatcher bound state) := by
    rw [transcript_eq_follow]
    exact follow_traced ..
  obtain ⟨stands, stopped⟩ := traced.stopped spares last
  obtain ⟨standing, left⟩ := program.run_eq_transcript dispatcher bound state
  have finished := Progress.finished_of_standing (standing.trans stands)
  exact ⟨Prod.ext finished left, stopped⟩

theorem resumed_stopped (execution : Execution program) {bound : Nat} {effect : Effect}
    {ticket : Nat} {state : σ}
    (served : ∀ error, (dispatcher.again effect ticket state).1 ≠ .ready (.error error))
    (last : (resumed dispatcher bound effect ticket execution state).trace.getLast? =
      some (failed, .error error)) :
    let transcript := resumed dispatcher bound effect ticket execution state
    resumeWaiting dispatcher bound effect ticket execution state =
        (.finished (.error error), transcript.state) ∧
      ∃ result served later,
        dispatcher.again effect ticket state = (.ready (.ok result), served) ∧
          transcript.trace = (effect, .ok result) :: later ∧
            Stopped dispatcher kept served failed error later transcript.state := by
  rcases asked : dispatcher.again effect ticket state with ⟨⟨refusal | result⟩ | later, left⟩
  · exact absurd (congrArg Prod.fst asked) (served refusal)
  · obtain ⟨turn, ⟨standing, reached⟩, shown⟩ := resumed_served bound execution asked
    have traced := follow_traced dispatcher bound turn left
    generalize program.follow dispatcher bound turn left = followed
      at standing reached shown traced
    rw [shown] at last
    dsimp only
    rw [shown]
    have within : followed.trace.getLast? = some (failed, .error error) := by
      cases rest : followed.trace with
      | nil => simp [rest] at last
      | cons entry entries => simpa [rest] using last
    obtain ⟨stands, stopped⟩ := traced.stopped spares within
    have finished := Progress.finished_of_standing (standing.trans stands)
    exact ⟨Prod.ext finished reached, result, left, followed.trace, rfl, rfl, stopped⟩
  · rw [resumed_waiting bound execution asked] at last
    cases last

theorem stops (served : ∀ connection ticket state error,
      (dispatcher.again (.transport (.receive connection)) ticket state).1 ≠
        .ready (.error error)) : Stops dispatcher kept where
  run program _ _ _ _ last := run_stopped spares program last
  resumed execution _ connection ticket state _ _ last :=
    resumed_stopped spares execution (served connection ticket state) last

end
end Program

namespace Memory

-- What the stores hold, without the failures that are scheduled.
structure Data where
  records : Records
  objects : ObjectTable
  cache : CacheTable
  broker : BrokerTable
  sessions : SessionTable

namespace Backends
variable {α β : Type}

def data (backends : Backends) : Data :=
  ⟨backends.records.store, backends.objects.store, backends.cache.store, backends.broker.store,
    backends.sessions.store⟩

def faultsOf (backends : Backends) : Family → Faults
  | .storage => backends.records.faults
  | .object => backends.objects.faults
  | .cache => backends.cache.faults
  | .messaging => backends.broker.faults
  | .transport => backends.sessions.faults

def withFaults (backends : Backends) (faults : Faults) : Family → Backends
  | .storage => { backends with records := { backends.records with faults } }
  | .object => { backends with objects := { backends.objects with faults } }
  | .cache => { backends with cache := { backends.cache with faults } }
  | .messaging => { backends with broker := { backends.broker with faults } }
  | .transport => { backends with sessions := { backends.sessions with faults } }

theorem data_withFaults (backends : Backends) (faults : Faults) (family : Family) :
    (backends.withFaults faults family).data = backends.data := by
  cases family <;> rfl

def dropFault (backends : Backends) (family : Family) (name : String) : Backends :=
  backends.withFaults ((backends.faultsOf family).dropHead name) family

inductive Met (backends : Backends) (effect : Effect) : BackendError → Backends → Prop where
  | oneShot {name : String} {failure : BackendError}
      (due : (backends.faultsOf effect.family).Due effect.callName name failure) :
      Met backends effect failure (backends.dropFault effect.family name)
  | undue (idle : ∀ name failure,
        ¬ (backends.faultsOf effect.family).Due effect.callName name failure)
      (failure : BackendError) : Met backends effect failure backends

structure Part (τ : Type) where
  family : Family
  read : Backends → Faulty τ
  write : Backends → Faulty τ → Backends
  faults_read (backends : Backends) : backends.faultsOf family = (read backends).faults
  write_read (backends : Backends) : write backends (read backends) = backends
  withFaults_eq (backends : Backends) (faults : Faults) :
    backends.withFaults faults family = write backends { read backends with faults }

namespace Part

def records : Part Records :=
  ⟨.storage, (·.records), fun backends records => { backends with records },
    fun _ => rfl, fun _ => rfl, fun _ _ => rfl⟩

def objects : Part ObjectTable :=
  ⟨.object, (·.objects), fun backends objects => { backends with objects },
    fun _ => rfl, fun _ => rfl, fun _ _ => rfl⟩

def cache : Part CacheTable :=
  ⟨.cache, (·.cache), fun backends cache => { backends with cache },
    fun _ => rfl, fun _ => rfl, fun _ _ => rfl⟩

def broker : Part BrokerTable :=
  ⟨.messaging, (·.broker), fun backends broker => { backends with broker },
    fun _ => rfl, fun _ => rfl, fun _ _ => rfl⟩

def sessions : Part SessionTable :=
  ⟨.transport, (·.sessions), fun backends sessions => { backends with sessions },
    fun _ => rfl, fun _ => rfl, fun _ _ => rfl⟩

theorem call_met {τ : Type} (part : Part τ) {backends : Backends} {effect : Effect}
    {form : BackendError → α} {work : τ → α × τ} {failure : BackendError}
    (own : effect.family = part.family)
    (distinct : ∀ {left right}, form left = form right → left = right)
    (steady : ∀ store, (work store).1 = form failure → (work store).2 = store)
    (failed : ((part.read backends).call effect.callName form work).1 = form failure) :
    backends.Met effect failure
      (part.write backends ((part.read backends).call effect.callName form work).2) := by
  have faults : backends.faultsOf effect.family = (part.read backends).faults := by
    rw [own, part.faults_read]
  have met := Faulty.call_met distinct steady failed
  generalize ((part.read backends).call effect.callName form work).2 = left at met ⊢
  cases met with
  | @oneShot name _ due =>
    rw [← faults] at due
    have dropped : backends.dropFault effect.family name = part.write backends
        ⟨(part.read backends).store, (part.read backends).faults.dropHead name⟩ := by
      rw [dropFault, faults, own, part.withFaults_eq]
    rw [← dropped]
    exact .oneShot due
  | undue idle =>
    rw [← faults] at idle
    rw [part.write_read]
    exact .undue idle failure

theorem always_met {τ : Type} (part : Part τ) {backends : Backends} {effect : Effect}
    {work : τ → α × τ} {failure : BackendError} (own : effect.family = part.family)
    (failed : ((part.read backends).call effect.callName .error fun store =>
      always (work store)).1 = .error failure) :
    backends.Met effect failure
      (part.write backends ((part.read backends).call effect.callName .error fun store =>
        always (work store)).2) :=
  part.call_met own Except.error.inj (fun _ refused => nomatch refused) failed

end Part

theorem error_of_map {answer : Backed α} {f : α → β} {failure : BackendError}
    (failed : answer.map f = .error failure) : answer = .error failure := by
  cases answer with
  | error other => exact congrArg _ (Except.error.inj failed)
  | ok value => cases failed

section Refusing
variable {failure : BackendError}

theorem receive_steady (name : String) (broker : BrokerTable)
    (refused : (broker.receive name).1 = .error failure) : (broker.receive name).2 = broker := by
  cases known : broker.subscriptions.get? name with
  | none => simp only [BrokerTable.receive, known]
  | some subscription =>
    cases taken : subscription.take? with
    | none => simp only [BrokerTable.receive, known, taken]
    | some next => simp [BrokerTable.receive, known, taken] at refused

theorem acknowledge_steady (name messageId : String) (broker : BrokerTable)
    (refused : (broker.acknowledge name messageId).1 = .error failure) :
    (broker.acknowledge name messageId).2 = broker := by
  cases known : broker.subscriptions.get? name with
  | none => simp only [BrokerTable.acknowledge, known]
  | some subscription => simp [BrokerTable.acknowledge, known] at refused

theorem send_steady (id : String) (frame : Transport.Frame) (sessions : SessionTable)
    (refused : (sessions.send id frame).1 = .error failure) :
    (sessions.send id frame).2 = sessions := by
  cases known : sessions.connections.get? id with
  | none => simp only [SessionTable.send, known]
  | some connection =>
    simp only [SessionTable.send, known] at refused
    split at refused <;> cases refused

theorem enqueue_waits (id : String) (connection : Connection) (sessions : SessionTable)
    (answer : Backed Transport.Incoming) :
    (sessions.enqueue id connection).1 ≠ .ready answer := by
  simp [SessionTable.enqueue]

theorem receiveFrame_steady (id : String) (sessions : SessionTable)
    (refused : (sessions.receive id).1 = .ready (.error failure)) :
    (sessions.receive id).2 = sessions := by
  cases known : sessions.connections.get? id with
  | none => simp only [SessionTable.receive, known]
  | some connection =>
    simp only [SessionTable.receive, known] at refused
    split at refused
    · cases refused
    · split at refused
      · split at refused
        · cases refused
        · exact absurd refused (enqueue_waits id connection sessions _)
      · exact absurd refused (enqueue_waits id connection sessions _)

theorem close_steady (id : String) (code : Nat) (reason : String) (sessions : SessionTable)
    (refused : (sessions.close id code reason).1 = .error failure) :
    (sessions.close id code reason).2 = sessions := by
  cases known : sessions.connections.get? id with
  | none => simp only [SessionTable.close, known]
  | some connection =>
    simp only [SessionTable.close, known] at refused
    split at refused <;> cases refused

end Refusing

section Families
variable {failure : BackendError}

theorem storage_met (request : Storage.Request) (backends : Backends)
    (failed : (recordStore.perform request backends).1 = .error failure) :
    backends.Met (.storage request) failure (recordStore.perform request backends).2 := by
  cases request with
  | get table key => exact Part.records.always_met rfl failed
  | put table key value expected => exact Part.records.always_met rfl failed
  | delete table key => exact Part.records.always_met rfl (error_of_map failed)
  | query table start limit => exact Part.records.always_met rfl failed

theorem object_met (request : Objects.Request) (backends : Backends)
    (failed : (objectStore.perform request backends).1 = .error failure) :
    backends.Met (.object request) failure (objectStore.perform request backends).2 := by
  cases request with
  | put bucket key body contentType => exact Part.objects.always_met rfl failed
  | get bucket key => exact Part.objects.always_met rfl (error_of_map failed)
  | delete bucket key => exact Part.objects.always_met rfl (error_of_map failed)
  | list bucket start => exact Part.objects.always_met rfl failed

theorem cached_met (config : Config) (request : Cache.Request) (backends : Backends)
    (failed : (cacheStore.perform config request backends).1 = .error failure) :
    backends.Met (.cache request) failure (cacheStore.perform config request backends).2 := by
  cases request with
  | get key => exact Part.cache.always_met rfl (error_of_map failed)
  | set key value ttl => exact Part.cache.always_met rfl (error_of_map failed)
  | delete key => exact Part.cache.always_met rfl (error_of_map failed)

theorem messaging_met (request : Messaging.Request) (backends : Backends)
    (failed : (messageBroker.perform request backends).1 = .error failure) :
    backends.Met (.messaging request) failure (messageBroker.perform request backends).2 := by
  cases request with
  | publish topic payload attributes => exact Part.broker.always_met rfl failed
  | receive subscription =>
    exact Part.broker.call_met rfl Except.error.inj (receive_steady subscription)
      (error_of_map failed)
  | acknowledge subscription messageId =>
    exact Part.broker.call_met rfl Except.error.inj (acknowledge_steady subscription messageId)
      (error_of_map failed)

theorem transport_met (request : Transport.Request) (backends : Backends)
    (failed : (sessionLayer.perform request backends).1 = .ready (.error failure)) :
    backends.Met (.transport request) failure (sessionLayer.perform request backends).2 := by
  cases request with
  | send connection frame =>
    exact Part.sessions.call_met rfl Except.error.inj (send_steady connection frame)
      (Poll.ready.inj failed)
  | receive connection =>
    exact Part.sessions.call_met rfl (fun same => Except.error.inj (Poll.ready.inj same))
      (receiveFrame_steady connection) failed
  | close connection code reason =>
    exact Part.sessions.call_met rfl Except.error.inj (close_steady connection code reason)
      (Poll.ready.inj failed)

theorem perform_met (config : Config) (effect : Effect) (backends : Backends)
    (failed : (collaborators.perform config effect backends).1 = .ready (.error failure)) :
    backends.Met effect failure (collaborators.perform config effect backends).2 := by
  cases effect with
  | storage request => exact storage_met request backends (Poll.ready.inj failed)
  | object request => exact object_met request backends (Poll.ready.inj failed)
  | cache request => exact cached_met config request backends (Poll.ready.inj failed)
  | messaging request => exact messaging_met request backends (Poll.ready.inj failed)
  | transport request => exact transport_met request backends failed

end Families

theorem Met.data_eq {backends left : Backends} {effect : Effect} {failure : BackendError}
    (met : backends.Met effect failure left) : left.data = backends.data := by
  cases met with
  | oneShot due => exact data_withFaults ..
  | undue => rfl

theorem outcome_error {config : Config} {effect : Effect} {answer : Backed effect.Response}
    {error : EffectError} (failed : config.outcome effect answer = .error error) :
    ∃ failure, answer = .error failure ∧
      error = config.error effect failure.kind failure.message := by
  cases answer with
  | ok response => cases failed
  | error failure => exact ⟨failure, rfl, (Except.error.inj failed).symm⟩

section Dispatching
variable {config : Config} {dispatcher : Dispatcher Backends}

theorem dispatcher_eq (valid : Backends.dispatcher config = .ok dispatcher) :
    dispatcher = dispatcherFor (fun _ => true) config := by
  unfold Backends.dispatcher at valid
  split at valid
  · cases valid
  · exact (Except.ok.inj valid).symm

theorem interpret_error {effect : Effect} {backends left : Backends} {error : EffectError}
    (valid : Backends.dispatcher config = .ok dispatcher)
    (failed : dispatcher.interpret effect backends = (.ready (.error error), left)) :
    (∃ refusal, config.refusal? effect = some refusal ∧ left = backends) ∨
      config.refusal? effect = none ∧ ∃ failure,
        error = config.error effect failure.kind failure.message ∧
          backends.Met effect failure left := by
  obtain rfl := dispatcher_eq valid
  simp only [dispatcherFor, Dispatcher.standard, if_true] at failed
  cases refused : config.refusal? effect with
  | some refusal =>
    rw [refused] at failed
    exact .inl ⟨refusal, rfl, (congrArg Prod.snd failed).symm⟩
  | none =>
    rw [refused] at failed
    have answer := congrArg Prod.fst failed
    have rest := congrArg Prod.snd failed
    dsimp only at answer rest
    subst rest
    rcases performed : (collaborators.perform config effect backends).1 with backed | ticket
    · rw [performed] at answer
      obtain ⟨failure, rfl, same⟩ := outcome_error (Poll.ready.inj answer)
      exact .inr ⟨rfl, failure, same, perform_met config effect backends performed⟩
    · rw [performed] at answer
      cases answer

-- What a failed effect leaves: the data in any case, everything if it was refused before its store
-- was called, and of the failures that are scheduled all but the one that was due.
structure Spared (config : Config) (effect : Effect) (error : EffectError)
    (backends left : Backends) : Prop where
  data : left.data = backends.data
  refused : (config.refusal? effect).isSome → left = backends
  undue : (∀ name failure, ¬ (backends.faultsOf effect.family).Due effect.callName name failure) →
    left = backends
  oneShot : config.refusal? effect = none → ∀ name failure,
    (backends.faultsOf effect.family).Due effect.callName name failure →
      error = config.error effect failure.kind failure.message ∧
        left = backends.dropFault effect.family name

theorem interpret_spared {effect : Effect} {backends left : Backends} {error : EffectError}
    (valid : Backends.dispatcher config = .ok dispatcher)
    (failed : dispatcher.interpret effect backends = (.ready (.error error), left)) :
    Spared config effect error backends left := by
  obtain ⟨refusal, refused, rfl⟩ | ⟨passed, failure, rfl, met⟩ := interpret_error valid failed
  · exact ⟨rfl, fun _ => rfl, fun _ => rfl, fun passed => by simp [refused] at passed⟩
  · refine ⟨met.data_eq, fun refused => by simp [passed] at refused, ?_, ?_⟩
    · intro idle
      cases met with
      | oneShot due => exact absurd due (idle _ _)
      | undue => rfl
    · intro _ name fault due
      cases met with
      | oneShot struck =>
        obtain ⟨rfl, rfl⟩ := struck.unique due
        exact ⟨rfl, rfl⟩
      | undue idle => exact absurd due (idle _ _)

theorem interpret_waits {effect : Effect} {backends left : Backends} {ticket : Nat}
    (valid : Backends.dispatcher config = .ok dispatcher)
    (waits : dispatcher.interpret effect backends = (.waiting ticket, left)) :
    ∃ connection, effect = .transport (.receive connection) := by
  obtain rfl := dispatcher_eq valid
  simp only [dispatcherFor, Dispatcher.standard, if_true] at waits
  cases refused : config.refusal? effect with
  | some refusal =>
    rw [refused] at waits
    cases waits
  | none =>
    rw [refused] at waits
    cases effect with
    | transport request =>
      cases request with
      | receive connection => exact ⟨connection, rfl⟩
      | send | close => cases waits
    | storage | object | cache | messaging => cases waits

theorem receiveAgain_served (sessions : SessionTable) (connection : String) (ticket : Nat)
    (failure : BackendError) :
    (sessions.receiveAgain connection ticket).1 ≠ .ready (.error failure) := by
  unfold SessionTable.receiveAgain
  split
  · exact nofun
  · split
    · split <;> exact nofun
    · exact nofun

theorem again_served (valid : Backends.dispatcher config = .ok dispatcher) (connection : String)
    (ticket : Nat) (backends : Backends) (error : EffectError) :
    (dispatcher.again (.transport (.receive connection)) ticket backends).1 ≠
      .ready (.error error) := by
  obtain rfl := dispatcher_eq valid
  intro refused
  have served := receiveAgain_served backends.sessions.store connection ticket
  simp only [dispatcherFor, Dispatcher.standard, Collaborators.performAgain,
    SessionLayer.performAgain, collaborators, sessionLayer] at refused
  rcases answer : (backends.sessions.store.receiveAgain connection ticket).1 with backed | later
  · rw [answer] at refused served
    obtain ⟨failure, rfl, _⟩ := outcome_error (Poll.ready.inj refused)
    exact served failure rfl
  · rw [answer] at refused
    cases refused

-- A failed effect leaves the data that it met; others may have changed them just before.
def SameData (middle left : Backends) : Prop := left.data = middle.data

def SameDataAmid (between : Nat → Backends → Backends) (middle left : Backends × Nat) : Prop :=
  SameData (between middle.2 middle.1) left.1

theorem stops_amid (valid : Backends.dispatcher config = .ok dispatcher)
    (between : Nat → Backends → Backends) :
    Program.Stops (dispatcher.preceded between) (SameDataAmid between) := by
  refine Program.stops ?_ ?_
  · intro effect begun error left failed
    have met := (Dispatcher.interpret_of_preceded failed).1
    exact (interpret_spared valid met).data
  · intro connection ticket begun error
    exact again_served valid connection ticket begun.1 error

/-- An effect that fails leaves the data as they were, and of the scheduled failures it uses up the
one that was due, if it came so far. A run that it ends leaves the data that the effects before it
left; if the run waited, those are the effects since it was last served. Where others change the data
between the effects, it leaves what the failed effect found. -/
theorem failed_effect_leaves (valid : Backends.dispatcher config = .ok dispatcher) :
    (∀ effect backends left error,
      dispatcher.interpret effect backends = (.ready (.error error), left) →
        Spared config effect error backends left) ∧
    Program.Stops dispatcher SameData ∧
    (∀ between, Program.Stops (dispatcher.preceded between) (SameDataAmid between)) ∧
    ∀ effect backends ticket left,
      dispatcher.interpret effect backends = (.waiting ticket, left) →
        ∃ connection, effect = .transport (.receive connection) := by
  refine ⟨fun _ _ _ _ => interpret_spared valid, ?_, stops_amid valid,
    fun _ _ _ _ => interpret_waits valid⟩
  exact Program.stops (fun _ _ _ _ failed => (interpret_spared valid failed).data)
    (again_served valid)

theorem failed_effect_leaves_get :
    let get := Effect.cache (.get "k")
    let program : Program Cache.Lookup :=
      (Program.perform (.cache (.set "k" [1] none))).andThen fun _ => Program.perform get
    let backends := { empty with cache := empty.cache.failNext "get" (.unavailable "down") }
    let written := { backends with
      cache := { backends.cache with store := backends.cache.store.set "k" [1] none } }
    let left := written.dropFault .cache "get"
    let error := Config.error .default get .unavailable "service unavailable: down"
    ∃ dispatcher, Backends.dispatcher .default = .ok dispatcher ∧
      Spared .default get error written left ∧
        program.run dispatcher 2 backends = (.finished (.error error), left) ∧
          Program.Stopped dispatcher SameData backends get error
            (program.transcript dispatcher 2 backends).trace left := by
  intro get program backends written left error
  have valid : Backends.dispatcher .default = .ok (dispatcherFor (fun _ => true) .default) := rfl
  obtain ⟨spared, stops, -⟩ := failed_effect_leaves valid
  obtain ⟨finished, stopped⟩ := stops.run program 2 backends get error rfl
  exact ⟨_, valid, spared _ _ _ _ rfl, finished, stopped⟩

end Dispatching
end Backends
end Memory
end EffectPrograms
