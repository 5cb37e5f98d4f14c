import EffectPrograms.Proofs.Namespaces

set_option autoImplicit false

namespace EffectPrograms.Memory

def Records.work (request : Storage.Request) (records : Records) : request.Response × Records :=
  match request with
  | .get table key => (records.get table key, records)
  | .put table key value expected => records.put table key value expected
  | .delete table key =>
      let (existed, left) := records.delete table key
      (Removal.ofExisted existed, left)
  | .query table start limit => (records.query table start limit, records)

def ObjectTable.work (request : Objects.Request) (objects : ObjectTable) :
    request.Response × ObjectTable :=
  match request with
  | .put bucket key body contentType => objects.put bucket key body contentType
  | .get bucket key => (ObjectStore.fetched (objects.get bucket key), objects)
  | .delete bucket key =>
      let (existed, left) := objects.delete bucket key
      (Removal.ofExisted existed, left)
  | .list bucket start => (objects.list bucket start, objects)

def CacheTable.work (config : Config) (request : Cache.Request) (cache : CacheTable) :
    request.Response × CacheTable :=
  (cache.response config request, ((CacheCall.ofRequest config request).work cache).2)

def BrokerTable.work (request : Messaging.Request) (broker : BrokerTable) :
    Backed request.Response × BrokerTable :=
  match request with
  | .publish topic payload attributes =>
      let (delivery, left) := broker.publish topic payload attributes
      (.ok delivery, left)
  | .receive subscription =>
      let (answer, left) := broker.receive subscription
      (answer.map Broker.opened, left)
  | .acknowledge subscription messageId =>
      let (answer, left) := broker.acknowledge subscription messageId
      (answer.map Broker.acknowledgment, left)

def SessionTable.work (request : Transport.Request) (sessions : SessionTable) :
    Poll (Backed request.Response) × SessionTable :=
  match request with
  | .send connection frame =>
      let (answer, left) := sessions.send connection frame
      (.ready answer, left)
  | .receive connection => sessions.receive connection
  | .close connection code reason =>
      let (answer, left) := sessions.close connection code reason
      (.ready answer, left)

namespace Data

def work (config : Config) (effect : Effect) (data : Data) :
    Poll (Backed effect.Response) × Data :=
  match effect with
  | .storage request =>
      let (answer, records) := data.records.work request
      (.ready (.ok answer), { data with records })
  | .object request =>
      let (answer, objects) := data.objects.work request
      (.ready (.ok answer), { data with objects })
  | .cache request =>
      let (answer, cache) := data.cache.work config request
      (.ready (.ok answer), { data with cache })
  | .messaging request =>
      let (answer, broker) := data.broker.work request
      (.ready answer, { data with broker })
  | .transport request =>
      let (answer, sessions) := data.sessions.work request
      (answer, { data with sessions })

end Data

-- No call of the store that a table is for meets a failure.
def Faults.Quiet (faults : Faults) : Prop := ∀ operation, (faults.check operation).1 = none

namespace Faults
variable {faults : Faults}

theorem quiet_empty : Quiet ∅ := fun _ => rfl

theorem Quiet.check_eq (quiet : faults.Quiet) (operation : String) :
    faults.check operation = (none, faults) := by
  have checked := faults.check_checked operation
  have idle := quiet operation
  generalize faults.check operation = answer at checked idle
  cases checked with
  | oneShot => cases idle
  | undue => exact Prod.ext idle rfl

end Faults

namespace Backends

-- The backends with other data, and the failures that are scheduled.
def withData (backends : Backends) (data : Data) : Backends where
  records := { backends.records with store := data.records }
  objects := { backends.objects with store := data.objects }
  cache := { backends.cache with store := data.cache }
  broker := { backends.broker with store := data.broker }
  sessions := { backends.sessions with store := data.sessions }

@[simp] theorem data_withData (backends : Backends) (data : Data) :
    (backends.withData data).data = data := rfl

@[simp] theorem faultsOf_withData (backends : Backends) (data : Data) (family : Family) :
    (backends.withData data).faultsOf family = backends.faultsOf family := by
  cases family <;> rfl

theorem withFaults_faultsOf (backends : Backends) (family : Family) :
    backends.withFaults (backends.faultsOf family) family = backends := by
  cases family <;> rfl

theorem perform_eq (config : Config) (effect : Effect) (backends : Backends) :
    collaborators.perform config effect backends =
      let (struck, faults) := (backends.faultsOf effect.family).check effect.callName
      let left := backends.withFaults faults effect.family
      match struck with
      | some failure => (.ready (.error failure), left)
      | none =>
          let (answer, data) := backends.data.work config effect
          (answer, left.withData data) := by
  rcases effect with request | request | request | request | request <;> cases request
  all_goals
    simp only [Collaborators.perform, collaborators, recordStore, objectStore, cacheStore,
      messageBroker, sessionLayer, RecordStore.perform, ObjectStore.perform, CacheStore.perform,
      Broker.perform, SessionLayer.perform, Faulty.call, faultsOf, Effect.family, Effect.callName]
    generalize Faults.check _ _ = checked
    rcases checked with ⟨_ | failure, faults⟩ <;> rfl

theorem perform_either {config : Config} {effect : Effect} {backends : Backends}
    {motive : Poll (Backed effect.Response) → Data → Prop}
    (struck : ∀ failure, motive (.ready (.error failure)) backends.data)
    (made : motive (backends.data.work config effect).1 (backends.data.work config effect).2) :
    motive (collaborators.perform config effect backends).1
      (collaborators.perform config effect backends).2.data := by
  rw [perform_eq]
  rcases (backends.faultsOf effect.family).check effect.callName with ⟨_ | failure, faults⟩
  · exact made
  · dsimp only
    rw [data_withFaults]
    exact struck failure

theorem perform_quiet {effect : Effect} {backends : Backends}
    (quiet : (backends.faultsOf effect.family).Quiet) (config : Config) :
    collaborators.perform config effect backends =
      ((backends.data.work config effect).1,
        backends.withData (backends.data.work config effect).2) := by
  rw [perform_eq, quiet.check_eq]
  dsimp only
  rw [withFaults_faultsOf]

section Dispatching
variable {config : Config} {dispatcher : Dispatcher Backends} {effect : Effect}
  {backends : Backends}

theorem interpret_data (valid : Backends.dispatcher config = .ok dispatcher) (effect : Effect)
    (backends : Backends) :
    (dispatcher.interpret effect backends).2.data = backends.data ∨
      config.refusal? effect = none ∧ (dispatcher.interpret effect backends).2.data =
        (backends.data.work config effect).2 := by
  cases refused : config.refusal? effect with
  | some refusal =>
    rw [interpret_refused valid refused]
    exact .inl rfl
  | none =>
    rw [interpret_accepted valid refused]
    exact perform_either (motive := fun _ left => left = backends.data ∨ _ ∧ left = _)
      (fun _ => .inl rfl) (.inr ⟨rfl, rfl⟩)

theorem interpret_answered (valid : Backends.dispatcher config = .ok dispatcher) {result : Result}
    {left : Backends}
    (answered : dispatcher.interpret effect backends = (.ready (.ok result), left)) :
    config.refusal? effect = none ∧
      (backends.data.work config effect).1.map (config.outcome effect) = .ready (.ok result) ∧
        left.data = (backends.data.work config effect).2 := by
  have shown := congrArg Prod.fst answered
  obtain rfl := congrArg Prod.snd answered
  cases refused : config.refusal? effect with
  | some refusal =>
    rw [interpret_refused valid refused] at shown
    cases shown
  | none =>
    rw [interpret_accepted valid refused] at shown ⊢
    refine ⟨rfl, ?_⟩
    revert shown
    let worked := backends.data.work config effect
    refine perform_either (motive := fun answer data =>
      answer.map (config.outcome effect) = .ready (.ok result) →
        worked.1.map (config.outcome effect) = .ready (.ok result) ∧ data = worked.2) ?_ ?_
    · intro failure struck
      cases struck
    · exact fun shown => ⟨shown, rfl⟩

theorem interpret_quiet (valid : Backends.dispatcher config = .ok dispatcher)
    (accepted : config.refusal? effect = none)
    (quiet : (backends.faultsOf effect.family).Quiet) :
    dispatcher.interpret effect backends =
      ((backends.data.work config effect).1.map (config.outcome effect),
        backends.withData (backends.data.work config effect).2) := by
  rw [interpret_accepted valid accepted, perform_quiet quiet]

end Dispatching
end Backends
end EffectPrograms.Memory
