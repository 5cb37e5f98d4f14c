import EffectPrograms.Dispatch.Basic

set_option autoImplicit false

namespace EffectPrograms

abbrev Backed (α : Type) := Except BackendError α

structure RecordStore (σ : Type) where
  get : (table key : String) → σ → Backed Storage.Lookup × σ
  put : (table key : String) → Document → (expected : Option Nat) → σ → Backed Storage.Write × σ
  delete : (table key : String) → σ → Backed Bool × σ
  query : (table start : String) → (limit : Option Nat) → σ → Backed (List Storage.Entry) × σ

structure ObjectStore (σ : Type) where
  put : (bucket key : String) → Bytes → (contentType : Option String) → σ →
    Backed Objects.Handle × σ
  get : (bucket key : String) → σ → Backed (Option Objects.Stored) × σ
  delete : (bucket key : String) → σ → Backed Bool × σ
  list : (bucket : String) → (start : Option String) → σ → Backed (List Objects.Handle) × σ

structure CacheStore (σ : Type) where
  get : (key : String) → σ → Backed (Option Bytes) × σ
  set : (key : String) → Bytes → Option Duration → σ → Backed Unit × σ
  delete : (key : String) → σ → Backed Bool × σ

structure Broker (σ : Type) where
  publish : (topic : String) → Bytes → Dict String → σ → Backed Messaging.Delivery × σ
  receive : (subscription : String) → σ → Backed (Option Messaging.Message) × σ
  acknowledge : (subscription messageId : String) → σ → Backed Bool × σ

-- Sessions with peers; a receive with nothing to deliver waits.
structure SessionLayer (σ : Type) where
  send : (connection : String) → Transport.Frame → σ → Backed Transport.SendStatus × σ
  receive : (connection : String) → σ → Poll (Backed Transport.Incoming) × σ
  receiveAgain : (connection : String) → (ticket : Nat) → σ → Poll (Backed Transport.Incoming) × σ
  close : (connection : String) → (code : Nat) → (reason : String) → σ →
    Backed Transport.CloseStatus × σ

structure Collaborators (σ : Type) where
  records : RecordStore σ
  objects : ObjectStore σ
  cache : CacheStore σ
  broker : Broker σ
  sessions : SessionLayer σ

end EffectPrograms
