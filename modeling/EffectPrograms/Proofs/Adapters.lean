import EffectPrograms.Proofs.Composed
import EffectPrograms.Proofs.FailedEffect

set_option autoImplicit false

namespace EffectPrograms
variable {α β σ : Type}

-- These two kinds are for programs and dispatchers to report.
theorem BackendError.kind_ne (failure : BackendError) :
    failure.kind ≠ .unexpectedResult ∧ failure.kind ≠ .unsupported := by
  cases failure <;> exact ⟨nofun, nofun⟩

def failureOf? : Backed α → Option BackendError
  | .ok _ => none
  | .error failure => some failure

def failureOfPoll? : Poll (Backed α) → Option BackendError
  | .ready answer => failureOf? answer
  | .waiting _ => none

theorem failureOf?_error {answer : Backed α} {failure : BackendError}
    (failed : answer = .error failure) : failureOf? answer = some failure := by
  rw [failed]
  rfl

theorem failureOfPoll?_error {answer : Poll (Backed α)} {failure : BackendError}
    (failed : answer = .ready (.error failure)) : failureOfPoll? answer = some failure := by
  rw [failed]
  rfl

-- The failure that a collaborator reports when it is called for a request.

def RecordStore.failure? (store : RecordStore σ) (state : σ) :
    Storage.Request → Option BackendError
  | .get table key => failureOf? (store.get table key state).1
  | .put table key value expected => failureOf? (store.put table key value expected state).1
  | .delete table key => failureOf? (store.delete table key state).1
  | .query table start limit => failureOf? (store.query table start limit state).1

def ObjectStore.failure? (store : ObjectStore σ) (state : σ) :
    Objects.Request → Option BackendError
  | .put bucket key body contentType => failureOf? (store.put bucket key body contentType state).1
  | .get bucket key => failureOf? (store.get bucket key state).1
  | .delete bucket key => failureOf? (store.delete bucket key state).1
  | .list bucket start => failureOf? (store.list bucket start state).1

def CacheStore.failure? (store : CacheStore σ) (config : Config) (state : σ) :
    Cache.Request → Option BackendError
  | .get key => failureOf? (store.get (config.cacheKey key) state).1
  | .set key value ttl =>
      failureOf? (store.set (config.cacheKey key) value (Refusal.appliedTtl config ttl) state).1
  | .delete key => failureOf? (store.delete (config.cacheKey key) state).1

def Broker.failure? (broker : Broker σ) (state : σ) : Messaging.Request → Option BackendError
  | .publish topic payload attributes =>
      failureOf? (broker.publish topic payload attributes state).1
  | .receive subscription => failureOf? (broker.receive subscription state).1
  | .acknowledge subscription messageId =>
      failureOf? (broker.acknowledge subscription messageId state).1

-- With a ticket, a receive is asked again.
def SessionLayer.failure? (sessions : SessionLayer σ) (ticket? : Option Nat) (state : σ) :
    Transport.Request → Option BackendError
  | .send connection frame => failureOf? (sessions.send connection frame state).1
  | .receive connection =>
      match ticket? with
      | none => failureOfPoll? (sessions.receive connection state).1
      | some ticket => failureOfPoll? (sessions.receiveAgain connection ticket state).1
  | .close connection code reason => failureOf? (sessions.close connection code reason state).1

namespace Collaborators

def failure? (collaborators : Collaborators σ) (config : Config) (ticket? : Option Nat)
    (state : σ) : Effect → Option BackendError
  | .storage request => collaborators.records.failure? state request
  | .object request => collaborators.objects.failure? state request
  | .cache request => collaborators.cache.failure? config state request
  | .messaging request => collaborators.broker.failure? state request
  | .transport request => collaborators.sessions.failure? ticket? state request

end Collaborators

section Failing
open Memory.Backends (error_of_map)
variable {state : σ} {failure : BackendError}

theorem RecordStore.failure?_of_error {store : RecordStore σ} {request : Storage.Request}
    (failed : (store.perform request state).1 = .error failure) :
    store.failure? state request = some failure := by
  cases request with
  | get | put | query => exact failureOf?_error failed
  | delete => exact failureOf?_error (error_of_map failed)

theorem ObjectStore.failure?_of_error {store : ObjectStore σ} {request : Objects.Request}
    (failed : (store.perform request state).1 = .error failure) :
    store.failure? state request = some failure := by
  cases request with
  | put | list => exact failureOf?_error failed
  | get | delete => exact failureOf?_error (error_of_map failed)

theorem CacheStore.failure?_of_error {store : CacheStore σ} {config : Config}
    {request : Cache.Request} (failed : (store.perform config request state).1 = .error failure) :
    store.failure? config state request = some failure := by
  cases request with
  | get | set | delete => exact failureOf?_error (error_of_map failed)

theorem Broker.failure?_of_error {broker : Broker σ} {request : Messaging.Request}
    (failed : (broker.perform request state).1 = .error failure) :
    broker.failure? state request = some failure := by
  cases request with
  | publish => exact failureOf?_error failed
  | receive | acknowledge => exact failureOf?_error (error_of_map failed)

theorem SessionLayer.failure?_of_error {sessions : SessionLayer σ} {request : Transport.Request}
    (failed : (sessions.perform request state).1 = .ready (.error failure)) :
    sessions.failure? none state request = some failure := by
  cases request with
  | send | close => exact failureOf?_error (Poll.ready.inj failed)
  | receive => exact failureOfPoll?_error failed

theorem SessionLayer.failure?_of_again {sessions : SessionLayer σ} {request : Transport.Request}
    {ticket : Nat}
    (failed : (sessions.performAgain request ticket state).1 = .ready (.error failure)) :
    sessions.failure? (some ticket) state request = some failure := by
  cases request with
  | send | close => exact failureOf?_error (Poll.ready.inj failed)
  | receive => exact failureOfPoll?_error failed

variable {collaborators : Collaborators σ} {config : Config} {effect : Effect}

theorem Collaborators.failure?_of_error
    (failed : (collaborators.perform config effect state).1 = .ready (.error failure)) :
    collaborators.failure? config none state effect = some failure := by
  cases effect with
  | storage request => exact RecordStore.failure?_of_error (Poll.ready.inj failed)
  | object request => exact ObjectStore.failure?_of_error (Poll.ready.inj failed)
  | cache request => exact CacheStore.failure?_of_error (Poll.ready.inj failed)
  | messaging request => exact Broker.failure?_of_error (Poll.ready.inj failed)
  | transport request => exact SessionLayer.failure?_of_error failed

theorem Collaborators.failure?_of_again {ticket : Nat}
    (failed : (collaborators.performAgain config effect ticket state).1 = .ready (.error failure)) :
    collaborators.failure? config (some ticket) state effect = some failure := by
  cases effect with
  | storage request => exact RecordStore.failure?_of_error (Poll.ready.inj failed)
  | object request => exact ObjectStore.failure?_of_error (Poll.ready.inj failed)
  | cache request => exact CacheStore.failure?_of_error (Poll.ready.inj failed)
  | messaging request => exact Broker.failure?_of_error (Poll.ready.inj failed)
  | transport request => exact SessionLayer.failure?_of_again failed

end Failing

-- An answer that an effect may get: a result that its request accepts, or an error that names it,
-- from a check of the request or from the collaborator.
inductive InShape (effect : Effect) (failure? : Option BackendError) :
    Poll (Outcome Result) → Prop where
  | accepted {result : Result} {response : effect.Response}
      (accepts : effect.accept result = .ok response) :
      InShape effect failure? (.ready (.ok result))
  | refused {error : EffectError} (names : error.effect = effect)
      (kind : error.kind = .invalidRequest ∨ error.kind = .payloadTooLarge) :
      InShape effect failure? (.ready (.error error))
  | failed {error : EffectError} {failure : BackendError} (reported : failure? = some failure)
      (names : error.effect = effect) (kind : error.kind = failure.kind) :
      InShape effect failure? (.ready (.error error))
  | waits (ticket : Nat) : InShape effect failure? (.waiting ticket)

namespace InShape
variable {effect : Effect} {failure? : Option BackendError}

theorem of_outcome (config : Config) {answer : Poll (Backed effect.Response)}
    (reported : ∀ failure, answer = .ready (.error failure) → failure? = some failure) :
    InShape effect failure? (answer.map (config.outcome effect)) := by
  rcases answer with ⟨failure | response⟩ | ticket
  · exact .failed (reported failure rfl) rfl rfl
  · have accepts : effect.accept (effect.answer response) = .ok response := by
      rw [Effect.accept, effect.accept?_answer]
    exact .accepted accepts
  · exact .waits ticket

theorem of_refusal (config : Config) (refusal : Refusal) :
    InShape effect failure? (.ready (.error (refusal.error config effect))) := by
  refine .refused rfl ?_
  cases refusal with
  | tooLarge => exact .inr rfl
  | _ => exact .inl rfl

theorem fits {result : Result} (shape : InShape effect failure? (.ready (.ok result))) :
    effect.Fits result := by
  cases shape with
  | accepted accepts => exact ⟨_, accepts⟩

theorem names {error : EffectError} (shape : InShape effect failure? (.ready (.error error))) :
    error.effect = effect := by
  cases shape with
  | refused names => exact names
  | failed _ names => exact names

theorem kind_ne {error : EffectError} (shape : InShape effect failure? (.ready (.error error))) :
    error.kind ≠ .unexpectedResult ∧ error.kind ≠ .unsupported := by
  cases shape with
  | refused _ kind => rcases kind with kind | kind <;> simp [kind]
  | @failed _ failure _ _ kind =>
    rw [kind]
    exact failure.kind_ne

end InShape

theorem standard_inShape (config : Config) (collaborators : Collaborators σ) (effect : Effect)
    (ticket? : Option Nat) (state : σ) :
    InShape effect (collaborators.failure? config ticket? state effect)
      ((Dispatcher.standard (fun _ => true) config collaborators).ask effect ticket? state).1 := by
  cases ticket? with
  | some ticket => exact .of_outcome config fun _ => Collaborators.failure?_of_again
  | none =>
    simp only [Dispatcher.ask, Dispatcher.standard, if_true]
    cases config.refusal? effect with
    | some refusal => exact .of_refusal config refusal
    | none => exact .of_outcome config fun _ => Collaborators.failure?_of_error

/-- Whatever the collaborators answer, the standard interpreters give every effect an answer in
shape, and no run of a composed program ends with a result that was not expected or a family that
is not served. -/
theorem adapters_serve (config : Config) (collaborators : Collaborators σ) :
    let dispatcher := Dispatcher.standard (fun _ => true) config collaborators
    (∀ effect ticket? state,
      InShape effect (collaborators.failure? config ticket? state effect)
        (dispatcher.ask effect ticket? state).1) ∧
    ∀ {α : Type} {program : Program α}, program.Composed → ∀ bound changes state error left,
      program.runAmid dispatcher bound changes state = (.finished (.error error), left) →
        error.kind ≠ .unexpectedResult ∧ error.kind ≠ .unsupported := by
  have shapes := standard_inShape config collaborators
  refine ⟨shapes, ?_⟩
  intro α program composed bound changes state error left failed
  have fits : ∀ effect ticket? asked result,
      ((Dispatcher.standard (fun _ => true) config collaborators).ask effect ticket? asked).1 =
        .ready (.ok result) → effect.Fits result := by
    intro effect ticket? asked result given
    have shape := shapes effect ticket? asked
    rw [given] at shape
    exact shape.fits
  obtain ⟨effect, ticket?, asked, given⟩ := composed.failed_by_effect fits failed
  have shape := shapes effect ticket? asked
  rw [given] at shape
  exact shape.kind_ne

theorem adapters_serve_failing :
    let get := Effect.cache (.get "k")
    let empty := Memory.Backends.empty
    let backends := { empty with cache := empty.cache.failNext "get" (.unavailable "down") }
    let dispatcher := Dispatcher.standard (fun _ => true) .default Memory.Backends.collaborators
    let error := Config.error .default get .unavailable "service unavailable: down"
    (Program.perform get).Composed ∧
      (Program.perform get).runAmid dispatcher 1 [] backends =
        (.finished (.error error), backends.dropFault .cache "get") ∧
      error.kind ≠ .unexpectedResult ∧ error.kind ≠ .unsupported := by
  intro get empty backends dispatcher error
  have composed : (Program.perform get).Composed := .perform get
  have failed : (Program.perform get).runAmid dispatcher 1 [] backends =
    (.finished (.error error), backends.dropFault .cache "get") := rfl
  have served := (adapters_serve .default Memory.Backends.collaborators).2 composed
  exact ⟨composed, failed, served 1 [] backends error _ failed⟩

end EffectPrograms
