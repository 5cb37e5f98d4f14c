import EffectPrograms.Interpreter.Adapter
import EffectPrograms.Memory.Broker
import EffectPrograms.Memory.Cache
import EffectPrograms.Memory.Faults
import EffectPrograms.Memory.Objects
import EffectPrograms.Memory.Records
import EffectPrograms.Memory.Sessions

set_option autoImplicit false

namespace EffectPrograms.Memory

structure Backends where
  records : Faulty Records
  objects : Faulty ObjectTable
  cache : Faulty CacheTable
  broker : Faulty BrokerTable
  sessions : Faulty SessionTable
deriving DecidableEq

namespace Backends

def empty : Backends := ⟨.of .empty, .of .empty, .of .empty, .of .empty, .of .empty⟩

section
variable {α : Type} (backends : Backends)

def withRecords (answer : α × Faulty Records) : α × Backends :=
  (answer.1, { backends with records := answer.2 })

def withObjects (answer : α × Faulty ObjectTable) : α × Backends :=
  (answer.1, { backends with objects := answer.2 })

def withCache (answer : α × Faulty CacheTable) : α × Backends :=
  (answer.1, { backends with cache := answer.2 })

def withBroker (answer : α × Faulty BrokerTable) : α × Backends :=
  (answer.1, { backends with broker := answer.2 })

def withSessions (answer : α × Faulty SessionTable) : α × Backends :=
  (answer.1, { backends with sessions := answer.2 })

end

def always {α τ : Type} (answer : α × τ) : Backed α × τ := (.ok answer.1, answer.2)

def recordStore : RecordStore Backends where
  get table key b := b.withRecords <| b.records.call "get" .error fun records =>
    always (records.get table key, records)
  put table key value expected b := b.withRecords <| b.records.call "put" .error fun records =>
    always (records.put table key value expected)
  delete table key b := b.withRecords <| b.records.call "delete" .error fun records =>
    always (records.delete table key)
  query table start limit b := b.withRecords <| b.records.call "query" .error fun records =>
    always (records.query table start limit, records)

def objectStore : ObjectStore Backends where
  put bucket key body contentType b :=
    b.withObjects <| b.objects.call "put" .error fun objects =>
      always (objects.put bucket key body contentType)
  get bucket key b := b.withObjects <| b.objects.call "get" .error fun objects =>
    always (objects.get bucket key, objects)
  delete bucket key b := b.withObjects <| b.objects.call "delete" .error fun objects =>
    always (objects.delete bucket key)
  list bucket start b := b.withObjects <| b.objects.call "list" .error fun objects =>
    always (objects.list bucket start, objects)

def cacheStore : CacheStore Backends where
  get key b := b.withCache <| b.cache.call "get" .error fun cache => always (cache.get key)
  set key value ttl b := b.withCache <| b.cache.call "set" .error fun cache =>
    always ((), cache.set key value ttl)
  delete key b := b.withCache <| b.cache.call "delete" .error fun cache =>
    always (cache.delete key)

def messageBroker : Broker Backends where
  publish topic payload attributes b :=
    b.withBroker <| b.broker.call "publish" .error fun broker =>
      always (broker.publish topic payload attributes)
  receive subscription b := b.withBroker <| b.broker.call "receive" .error fun broker =>
    broker.receive subscription
  acknowledge subscription messageId b :=
    b.withBroker <| b.broker.call "acknowledge" .error fun broker =>
      broker.acknowledge subscription messageId

def sessionLayer : SessionLayer Backends where
  send connection frame b := b.withSessions <| b.sessions.call "send" .error fun sessions =>
    sessions.send connection frame
  receive connection b :=
    b.withSessions <| b.sessions.call "receive" (fun error => .ready (.error error))
      fun sessions => sessions.receive connection
  receiveAgain connection ticket b :=
    let (answer, sessions) := b.sessions.store.receiveAgain connection ticket
    (answer, { b with sessions := { b.sessions with store := sessions } })
  close connection code reason b :=
    b.withSessions <| b.sessions.call "close" .error fun sessions =>
      sessions.close connection code reason

def collaborators : Collaborators Backends :=
  ⟨recordStore, objectStore, cacheStore, messageBroker, sessionLayer⟩

-- A dispatcher for some families; the configuration is taken as it is.
def dispatcherFor (families : Family → Bool) (config : Config) : Dispatcher Backends :=
  .standard families config collaborators

-- The dispatcher for every family, unless the configuration contradicts itself.
def dispatcher (config : Config) : Except ConfigError (Dispatcher Backends) :=
  match config.validate with
  | .error error => .error error
  | .ok _ => .ok (dispatcherFor (fun _ => true) config)

def abandon (backends : Backends) (effect : Effect) (ticket : Nat) : Backends :=
  match effect with
  | .transport (.receive connection) =>
      { backends with
        sessions :=
          { backends.sessions with store := backends.sessions.store.abandon connection ticket } }
  | _ => backends

def clearFaults (backends : Backends) : Backends where
  records := backends.records.clear
  objects := backends.objects.clear
  cache := backends.cache.clear
  broker := backends.broker.clear
  sessions := backends.sessions.clear

end Backends
end EffectPrograms.Memory
