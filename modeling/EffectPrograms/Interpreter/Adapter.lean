import EffectPrograms.Interpreter.Collaborators
import EffectPrograms.Interpreter.Refusal

set_option autoImplicit false

namespace EffectPrograms
variable {σ : Type}

namespace RecordStore

def perform (store : RecordStore σ) (request : Storage.Request) (state : σ) :
    Backed request.Response × σ :=
  match request with
  | .get table key => store.get table key state
  | .put table key value expected => store.put table key value expected state
  | .delete table key =>
      let (answer, state) := store.delete table key state
      (answer.map Removal.ofExisted, state)
  | .query table start limit => store.query table start limit state

end RecordStore

namespace ObjectStore

def fetched : Option Objects.Stored → Objects.Fetch
  | some object => .found object
  | none => .missing

def perform (store : ObjectStore σ) (request : Objects.Request) (state : σ) :
    Backed request.Response × σ :=
  match request with
  | .put bucket key body contentType => store.put bucket key body contentType state
  | .get bucket key =>
      let (answer, state) := store.get bucket key state
      (answer.map fetched, state)
  | .delete bucket key =>
      let (answer, state) := store.delete bucket key state
      (answer.map Removal.ofExisted, state)
  | .list bucket start => store.list bucket start state

end ObjectStore

namespace CacheStore

def looked : Option Bytes → Cache.Lookup
  | some value => .hit value
  | none => .miss

-- Keys carry the namespace; a write is acknowledged with the expiry that it got.
def perform (store : CacheStore σ) (config : Config) (request : Cache.Request) (state : σ) :
    Backed request.Response × σ :=
  match request with
  | .get key =>
      let (answer, state) := store.get (config.cacheKey key) state
      (answer.map looked, state)
  | .set key value ttl =>
      let applied := Refusal.appliedTtl config ttl
      let (answer, state) := store.set (config.cacheKey key) value applied state
      (answer.map fun _ => ⟨applied⟩, state)
  | .delete key =>
      let (answer, state) := store.delete (config.cacheKey key) state
      (answer.map Removal.ofExisted, state)

end CacheStore

namespace Broker

def opened : Option Messaging.Message → Messaging.Inbox
  | some message => .message message
  | none => .empty

def acknowledgment (inFlight : Bool) : Messaging.AckStatus :=
  if inFlight then .acknowledged else .unknown

def perform (broker : Broker σ) (request : Messaging.Request) (state : σ) :
    Backed request.Response × σ :=
  match request with
  | .publish topic payload attributes => broker.publish topic payload attributes state
  | .receive subscription =>
      let (answer, state) := broker.receive subscription state
      (answer.map opened, state)
  | .acknowledge subscription messageId =>
      let (answer, state) := broker.acknowledge subscription messageId state
      (answer.map acknowledgment, state)

end Broker

namespace SessionLayer

def perform (sessions : SessionLayer σ) (request : Transport.Request) (state : σ) :
    Poll (Backed request.Response) × σ :=
  match request with
  | .send connection frame =>
      let (answer, state) := sessions.send connection frame state
      (.ready answer, state)
  | .receive connection => sessions.receive connection state
  | .close connection code reason =>
      let (answer, state) := sessions.close connection code reason state
      (.ready answer, state)

def performAgain (sessions : SessionLayer σ) (request : Transport.Request) (ticket : Nat)
    (state : σ) : Poll (Backed request.Response) × σ :=
  match request with
  | .receive connection => sessions.receiveAgain connection ticket state
  | request => sessions.perform request state

end SessionLayer

namespace Collaborators

def immediately {α : Type} (answer : Backed α × σ) : Poll (Backed α) × σ :=
  (.ready answer.1, answer.2)

def perform (collaborators : Collaborators σ) (config : Config) :
    (effect : Effect) → σ → Poll (Backed effect.Response) × σ
  | .storage request, state => immediately (collaborators.records.perform request state)
  | .object request, state => immediately (collaborators.objects.perform request state)
  | .cache request, state => immediately (collaborators.cache.perform config request state)
  | .messaging request, state => immediately (collaborators.broker.perform request state)
  | .transport request, state => collaborators.sessions.perform request state

def performAgain (collaborators : Collaborators σ) (config : Config) (effect : Effect)
    (ticket : Nat) (state : σ) : Poll (Backed effect.Response) × σ :=
  match effect with
  | .transport request => collaborators.sessions.performAgain request ticket state
  | effect => collaborators.perform config effect state

end Collaborators

-- The outcome of a collaborator's answer: its failure keeps kind and message and gets the
-- configured retry policy.
def Config.outcome (config : Config) (effect : Effect) : Backed effect.Response → Outcome Result
  | .ok response => .ok (effect.answer response)
  | .error error => .error (config.error effect error.kind error.message)

namespace Dispatcher

def standard (families : Family → Bool) (config : Config) (collaborators : Collaborators σ) :
    Dispatcher σ where
  interpret effect state :=
    if families effect.family then
      match config.refusal? effect with
      | some refusal => (.ready (.error (refusal.error config effect)), state)
      | none =>
          let (answer, state) := collaborators.perform config effect state
          (answer.map (config.outcome effect), state)
    else (.ready (.error (.unsupported effect)), state)
  again effect ticket state :=
    let (answer, state) := collaborators.performAgain config effect ticket state
    (answer.map (config.outcome effect), state)

end Dispatcher
end EffectPrograms
