import EffectPrograms.Proofs.Broker.Accounts
import EffectPrograms.Proofs.Happenings
import EffectPrograms.Proofs.Refusals

set_option autoImplicit false

namespace EffectPrograms.Memory
open Messaging (Message)
open Transport (Frame)

section Records
variable {records : Records} {size : Nat}

def Records.Holds (records : Records) (size : Nat) : Prop :=
  ∃ table key record, records.record? table key = some record ∧
    record.value.encoded.length = size

theorem Records.holds_work {request : Storage.Request}
    (holds : (records.work request).2.Holds size) :
    records.Holds size ∨ (Effect.storage request).payloadSize? = some size := by
  obtain ⟨table, key, record, stored, sized⟩ := holds
  cases request with
  | get | query => exact .inl ⟨table, key, record, stored, sized⟩
  | delete other name =>
    change (records.delete other name).2.record? table key = some record at stored
    rw [record?_delete] at stored
    split at stored
    · cases stored
    · exact .inl ⟨table, key, record, stored, sized⟩
  | put other name value expected =>
    change (records.put other name value expected).2.record? table key = some record at stored
    rw [put] at stored
    split at stored
    · rw [record?_store] at stored
      split at stored
      · obtain rfl := Option.some.inj stored
        exact .inr (congrArg some sized)
      · exact .inl ⟨table, key, record, stored, sized⟩
    · rw [record?_touch] at stored
      exact .inl ⟨table, key, record, stored, sized⟩

end Records

section Objects
variable {objects : ObjectTable} {size : Nat}

def ObjectTable.Holds (objects : ObjectTable) (size : Nat) : Prop :=
  ∃ bucket key object, objects.get bucket key = some object ∧ object.body.length = size

theorem ObjectTable.holds_work {request : Objects.Request}
    (holds : (objects.work request).2.Holds size) :
    objects.Holds size ∨ (Effect.object request).payloadSize? = some size := by
  obtain ⟨bucket, key, object, stored, sized⟩ := holds
  cases request with
  | get | list => exact .inl ⟨bucket, key, object, stored, sized⟩
  | put other name body contentType =>
    change (objects.put other name body contentType).2.get bucket key = some object at stored
    rw [get_put] at stored
    split at stored
    · obtain rfl := Option.some.inj stored
      exact .inr (congrArg some sized)
    · exact .inl ⟨bucket, key, object, stored, sized⟩
  | delete other name =>
    change (objects.delete other name).2.get bucket key = some object at stored
    rw [get_delete] at stored
    split at stored
    · cases stored
    · exact .inl ⟨bucket, key, object, stored, sized⟩

end Objects

section Cache
variable {cache : CacheTable} {size : Nat}

-- A slot may have expired and still be there.
def CacheTable.Holds (cache : CacheTable) (size : Nat) : Prop :=
  ∃ key slot, cache.slots.get? key = some slot ∧ slot.value.length = size

theorem CacheTable.holds_work {config : Config} {request : Cache.Request}
    (holds : (cache.work config request).2.Holds size) :
    cache.Holds size ∨ (Effect.cache request).payloadSize? = some size := by
  obtain ⟨key, slot, stored, sized⟩ := holds
  cases request with
  | get name =>
    simp only [work, CacheCall.ofRequest, CacheCall.work, get] at stored
    split at stored
    · exact .inl ⟨key, slot, stored, sized⟩
    · exact .inl ⟨key, slot, Dict.get?_of_get?_erase stored, sized⟩
  | set name value ttl =>
    simp only [work, CacheCall.ofRequest, CacheCall.work, set, Dict.get?_insert] at stored
    split at stored
    · obtain rfl := Option.some.inj stored
      exact .inr (congrArg some sized)
    · exact .inl ⟨key, slot, stored, sized⟩
  | delete name => exact .inl ⟨key, slot, Dict.get?_of_get?_erase stored, sized⟩

end Cache

section Broker
variable {broker : BrokerTable} {size : Nat}

def BrokerTable.Holds (broker : BrokerTable) (size : Nat) : Prop :=
  ∃ name subscription, broker.subscriptions.get? name = some subscription ∧
    ∃ copy ∈ subscription.copies, copy.payload.length = size

theorem Subscription.Moves.copies {name : String} {current next : Option Subscription}
    {event : BrokerEvent} (moves : Subscription.Moves name current event next)
    {left : Subscription} (there : next = some left) {copy : Message}
    (held : copy ∈ left.copies) :
    (∃ subscription, current = some subscription ∧
      ∃ original ∈ subscription.copies, original.payload = copy.payload) ∨
    ∃ message, event.publication? = some message ∧ message.payload = copy.payload := by
  cases moves with
  | attached topic =>
    obtain rfl := Option.some.inj there
    cases held
  | offered current topic payload attributes delivery =>
    obtain ⟨subscription, rfl, rfl⟩ := Option.map_eq_some_iff.mp there
    rw [offer] at held
    split at held
    · rw [mem_copies, Array.toList_push, List.mem_append, List.mem_singleton] at held
      rcases held with flying | waits | rfl
      · exact .inl ⟨subscription, rfl, copy, (mem_copies ..).mpr (.inl flying), rfl⟩
      · exact .inl ⟨subscription, rfl, copy, (mem_copies ..).mpr (.inr waits), rfl⟩
      · exact .inr ⟨_, rfl, rfl⟩
    · exact .inl ⟨subscription, rfl, copy, held, rfl⟩
  | @handed subscription _ message taken =>
    obtain rfl := Option.some.inj there
    obtain ⟨first, ready, rfl, -, inFlight⟩ := take?_eq_some taken
    refine .inl ⟨subscription, rfl, ?_⟩
    rw [mem_copies, inFlight] at held
    rcases held with ⟨id, flying⟩ | waits
    · rw [Dict.get?_insert] at flying
      split at flying
      · obtain rfl := Option.some.inj flying
        exact ⟨first, (mem_copies ..).mpr (.inr (by rw [ready]; exact List.mem_cons_self)), rfl⟩
      · exact ⟨copy, (mem_copies ..).mpr (.inl ⟨id, flying⟩), rfl⟩
    · refine ⟨copy, (mem_copies ..).mpr (.inr ?_), rfl⟩
      rw [ready]
      exact List.mem_cons_of_mem first waits
  | settled subscription messageId =>
    obtain rfl := Option.some.inj there
    refine .inl ⟨subscription, rfl, copy, ?_, rfl⟩
    rw [mem_copies] at held ⊢
    exact held.imp_left (Exists.imp fun id flying => Dict.get?_of_get?_erase flying)
  | returned subscription =>
    obtain rfl := Option.some.inj there
    refine .inl ⟨subscription, rfl, copy, ?_, rfl⟩
    simpa [Subscription.copies, redelivered] using held
  | aside => exact .inl ⟨left, there, copy, held, rfl⟩

theorem BrokerTable.holds_moved {left : BrokerTable} {event : BrokerEvent}
    (moves : ∀ name, Subscription.Moves name (broker.subscriptions.get? name) event
      (left.subscriptions.get? name)) (holds : left.Holds size) :
    broker.Holds size ∨ ∃ message, event.publication? = some message ∧
      message.payload.length = size := by
  obtain ⟨name, subscription, attached, copy, held, sized⟩ := holds
  rcases (moves name).copies attached held with
    ⟨earlier, before, original, kept, same⟩ | ⟨message, published, same⟩
  · exact .inl ⟨name, earlier, before, original, kept, by rw [same, sized]⟩
  · exact .inr ⟨message, published, by rw [same, sized]⟩

theorem BrokerTable.holds_idle {left : BrokerTable} {event : BrokerEvent}
    (moves : ∀ name, Subscription.Moves name (broker.subscriptions.get? name) event
      (left.subscriptions.get? name)) (unpublished : event.publication? = none)
    (holds : left.Holds size) : broker.Holds size := by
  refine (holds_moved moves holds).resolve_right ?_
  rintro ⟨message, published, -⟩
  rw [unpublished] at published
  cases published

theorem BrokerTable.holds_work {request : Messaging.Request}
    (holds : (broker.work request).2.Holds size) :
    broker.Holds size ∨ (Effect.messaging request).payloadSize? = some size := by
  cases request with
  | publish topic payload attributes =>
    refine (holds_moved (fun name => broker.publish_moves name topic payload attributes)
      holds).imp_right ?_
    rintro ⟨message, published, sized⟩
    obtain rfl := Option.some.inj published
    exact congrArg some sized
  | receive subscription =>
    exact .inl (holds_idle (fun name => broker.receive_moves name subscription) rfl holds)
  | acknowledge subscription messageId =>
    exact .inl (holds_idle (fun name => broker.acknowledge_moves name subscription messageId) rfl
      holds)

end Broker

section Sessions
variable {sessions : SessionTable} {size : Nat}

def SessionTable.Holds (sessions : SessionTable) (size : Nat) : Prop :=
  ∃ id connection, sessions.connections.get? id = some connection ∧
    ∃ frame ∈ connection.outbound.toList, frame.size = size

theorem Connection.Moves.outbound {id : String} {current next : Option Connection}
    {event : SessionEvent} (moves : Connection.Moves id current event next) {left : Connection}
    (there : next = some left) {frame : Frame} (queued : frame ∈ left.outbound.toList) :
    (∃ connection, current = some connection ∧ frame ∈ connection.outbound.toList) ∨
      event = .sent id frame (.ok .delivered) := by
  cases moves with
  | opened =>
    obtain rfl := Option.some.inj there
    cases queued
  | sent connection other =>
    obtain rfl := Option.some.inj there
    rw [Array.toList_push, List.mem_append, List.mem_singleton] at queued
    rcases queued with earlier | rfl
    · exact .inl ⟨connection, rfl, earlier⟩
    · exact .inr rfl
  | clientReceived first =>
    obtain rfl := Option.some.inj there
    refine .inl ⟨_, rfl, ?_⟩
    rw [toList_of_first first]
    exact List.mem_cons_of_mem _ queued
  | received next | served _ next =>
    obtain rfl := Option.some.inj there
    obtain ⟨-, rfl⟩ | ⟨_, -, -, rfl⟩ := next?_eq_some next <;> exact .inl ⟨_, rfl, queued⟩
  | clientSent | queued | gaveUp | closed | hungUp =>
    obtain rfl := Option.some.inj there
    exact .inl ⟨_, rfl, queued⟩
  | aside => exact .inl ⟨left, there, queued⟩
  | absent => cases there

theorem SessionTable.Steps.holds {name : String} {event : SessionEvent} {left : SessionTable}
    (steps : sessions.Steps name event left) (holds : left.Holds size) :
    sessions.Holds size ∨ ∃ id frame, event = .sent id frame (.ok .delivered) ∧
      frame.size = size := by
  obtain ⟨id, connection, known, frame, queued, sized⟩ := holds
  rcases (steps.moves id).outbound known queued with ⟨earlier, before, kept⟩ | sent
  · exact .inl ⟨id, earlier, before, frame, kept, sized⟩
  · exact .inr ⟨id, frame, sent, sized⟩

theorem SessionTable.Steps.holds_idle {name : String} {event : SessionEvent} {left : SessionTable}
    (steps : sessions.Steps name event left)
    (unsent : ∀ id frame, event ≠ .sent id frame (.ok .delivered)) (holds : left.Holds size) :
    sessions.Holds size := by
  refine (steps.holds holds).resolve_right ?_
  rintro ⟨id, frame, sent, -⟩
  exact unsent id frame sent

theorem SessionTable.holds_work {request : Transport.Request}
    (holds : (sessions.work request).2.Holds size) :
    sessions.Holds size ∨ (Effect.transport request).payloadSize? = some size := by
  cases request with
  | send connection frame =>
    refine ((sessions.send_steps connection frame).holds holds).imp_right ?_
    rintro ⟨id, other, sent, sized⟩
    obtain ⟨-, rfl, -⟩ := SessionEvent.sent.inj sent
    exact congrArg some sized
  | receive connection =>
    exact .inl ((sessions.receive_steps connection).holds_idle (fun _ _ => nofun) holds)
  | close connection code reason =>
    exact .inl ((sessions.close_steps connection code reason).holds_idle (fun _ _ => nofun) holds)

theorem SessionTable.holds_connect (holds : sessions.connect.2.Holds size) :
    sessions.Holds size := by
  obtain ⟨id, connection, known, frame, queued, sized⟩ := holds
  rw [get?_connect] at known
  split at known
  · obtain rfl := Option.some.inj known
    cases queued
  · exact ⟨id, connection, known, frame, queued, sized⟩

theorem SessionTable.holds_dropClient {name : String}
    (holds : (sessions.dropClient name).Holds size) : sessions.Holds size := by
  unfold dropClient at holds
  split at holds
  · exact holds
  · next dropped there =>
    obtain ⟨id, connection, known, frame, queued, sized⟩ := holds
    rw [update, Dict.get?_insert] at known
    split at known
    · obtain rfl := Option.some.inj known
      exact ⟨name, dropped, there, frame, queued, sized⟩
    · exact ⟨id, connection, known, frame, queued, sized⟩

end Sessions

namespace Data
variable {data left : Data} {size : Nat}

-- Something of this size is kept in one of the stores.
inductive Holds (data : Data) (size : Nat) : Prop where
  | records (holds : data.records.Holds size)
  | objects (holds : data.objects.Holds size)
  | cache (holds : data.cache.Holds size)
  | broker (holds : data.broker.Holds size)
  | sessions (holds : data.sessions.Holds size)

theorem Holds.since {accounted : Prop} (holds : left.Holds size)
    (records : left.records.Holds size → data.records.Holds size ∨ accounted)
    (objects : left.objects.Holds size → data.objects.Holds size ∨ accounted)
    (cache : left.cache.Holds size → data.cache.Holds size ∨ accounted)
    (broker : left.broker.Holds size → data.broker.Holds size ∨ accounted)
    (sessions : left.sessions.Holds size → data.sessions.Holds size ∨ accounted) :
    data.Holds size ∨ accounted := by
  cases holds with
  | records holds => exact (records holds).imp_left .records
  | objects holds => exact (objects holds).imp_left .objects
  | cache holds => exact (cache holds).imp_left .cache
  | broker holds => exact (broker holds).imp_left .broker
  | sessions holds => exact (sessions holds).imp_left .sessions

theorem Holds.kept (holds : left.Holds size)
    (records : left.records.Holds size → data.records.Holds size)
    (objects : left.objects.Holds size → data.objects.Holds size)
    (cache : left.cache.Holds size → data.cache.Holds size)
    (broker : left.broker.Holds size → data.broker.Holds size)
    (sessions : left.sessions.Holds size → data.sessions.Holds size) : data.Holds size := by
  cases holds with
  | records holds => exact .records (records holds)
  | objects holds => exact .objects (objects holds)
  | cache holds => exact .cache (cache holds)
  | broker holds => exact .broker (broker holds)
  | sessions holds => exact .sessions (sessions holds)

theorem holds_work {config : Config} {effect : Effect}
    (holds : (data.work config effect).2.Holds size) :
    data.Holds size ∨ effect.payloadSize? = some size := by
  cases effect with
  | storage request => exact holds.since Records.holds_work .inl .inl .inl .inl
  | object request => exact holds.since .inl ObjectTable.holds_work .inl .inl .inl
  | cache request => exact holds.since .inl .inl CacheTable.holds_work .inl .inl
  | messaging request => exact holds.since .inl .inl .inl BrokerTable.holds_work .inl
  | transport request => exact holds.since .inl .inl .inl .inl SessionTable.holds_work

theorem not_holds_empty : ¬ Backends.empty.data.Holds size := by
  rintro (⟨_, _, _, stored, -⟩ | ⟨_, _, _, stored, -⟩ | ⟨_, _, stored, -⟩ | ⟨_, _, stored, -⟩ |
    ⟨_, _, stored, -⟩) <;> cases stored

end Data

theorem CacheTable.holds_advance {cache : CacheTable} {time : Duration} {size : Nat}
    (holds : (cache.advance time).Holds size) : cache.Holds size := by
  have same : (cache.advance time).slots = cache.slots := by rw [advance]
  obtain ⟨key, slot, stored, sized⟩ := holds
  rw [same] at stored
  exact ⟨key, slot, stored, sized⟩

namespace Happening
variable {happening : Happening} {data left : Data} {size : Nat}

theorem Changes.holds (changes : Changes data happening left) (holds : left.Holds size) :
    data.Holds size ∨ ∃ config effect, happening = .dispatch config effect ∧
      config.refusal? effect = none ∧ effect.payloadSize? = some size := by
  cases changes with
  | refused | unasked => exact .inl holds
  | made accepted =>
    cases happening with
    | dispatch config effect =>
      refine (Data.holds_work holds).imp_right fun sized => ?_
      exact ⟨config, effect, rfl, accepted config effect rfl, sized⟩
    | askAgain config connection ticket =>
      exact .inl (holds.kept id id id id
        ((data.sessions.receiveAgain_steps connection ticket).holds_idle fun _ _ => nofun))
    | giveUp connection ticket =>
      exact .inl (holds.kept id id id id
        ((data.sessions.abandon_steps connection ticket).holds_idle fun _ _ => nofun))
    | connect => exact .inl (holds.kept id id id id SessionTable.holds_connect)
    | clientSend connection frame =>
      exact .inl (holds.kept id id id id
        ((data.sessions.clientSend_steps connection frame).holds_idle fun _ _ => nofun))
    | clientReceive connection =>
      exact .inl (holds.kept id id id id
        ((data.sessions.clientReceive_steps connection).holds_idle fun _ _ => nofun))
    | hangUp connection =>
      exact .inl (holds.kept id id id id
        ((data.sessions.hangUp_steps connection).holds_idle fun _ _ => nofun))
    | dropClient connection =>
      exact .inl (holds.kept id id id id SessionTable.holds_dropClient)
    | subscribe topic name =>
      exact .inl (holds.kept id id id (BrokerTable.holds_idle
        (fun other => data.broker.subscribe_moves other topic name) rfl) id)
    | redeliver name =>
      exact .inl (holds.kept id id id (BrokerTable.holds_idle
        (fun other => data.broker.redeliver_moves other name) rfl) id)
    | advance time =>
      rw [work] at holds
      exact .inl (holds.kept id id CacheTable.holds_advance id id)
    | stamp | choose => exact .inl (holds.kept id id id id id)
    | schedule family faults => exact .inl holds

end Happening
end EffectPrograms.Memory
