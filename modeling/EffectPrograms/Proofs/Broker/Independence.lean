import EffectPrograms.Proofs.Broker.History

set_option autoImplicit false

namespace EffectPrograms.Memory
open Messaging (Message)

namespace BrokerCall

-- A publication, or a call that names the subscription.
def concerns (name : String) : BrokerCall → Bool
  | publish .. => true
  | subscribe _ other | receive other | acknowledge other _ | redeliver other => other == name
  | schedule _ => false

end BrokerCall

namespace BrokerEvent

def concerns (name : String) : BrokerEvent → Bool
  | published .. => true
  | subscribed _ other | received other _ | acknowledged other _ _ | redelivered other _ =>
      other == name
  | scheduled => false

-- An event but for the number of subscriptions that a publication reached.
def unspread : BrokerEvent → BrokerEvent
  | published topic payload attributes (.ok delivery) =>
      published topic payload attributes (.ok { delivery with fanout := 0 })
  | event => event

end BrokerEvent

theorem Subscription.Moves.elsewhere {name : String} {event : BrokerEvent}
    {current next : Option Subscription} (moves : Moves name current event next)
    (aside : event.concerns name = false) : next = current := by
  cases moves with
  | aside => rfl
  | offered => cases aside
  | attached | handed | settled | returned => simp [BrokerEvent.concerns] at aside

namespace BrokerTable
open Subscription (Moves)

-- Tables that hold the same of a subscription, after as many publications.
structure Alike (name : String) (left right : BrokerTable) : Prop where
  held : left.subscriptions.get? name = right.subscriptions.get? name
  published : left.published = right.published

variable {name : String} {left right middle : BrokerTable}

theorem Alike.refl (name : String) (broker : BrokerTable) : Alike name broker broker := ⟨rfl, rfl⟩

theorem Alike.trans (first : Alike name left middle) (second : Alike name middle right) :
    Alike name left right :=
  ⟨first.held.trans second.held, first.published.trans second.published⟩

theorem Counts.elsewhere {event : BrokerEvent} (counts : left.Counts event right)
    (aside : event.concerns name = false) : right.published = left.published := by
  cases counts with
  | kept _ same => exact same
  | drawn message published =>
    cases event with
    | published => cases aside
    | _ => cases published

section
variable (alike : Alike name left right)
include alike

theorem Alike.update (subscription : Subscription) :
    Alike name (left.update name subscription) (right.update name subscription) :=
  ⟨by rw [get?_update, get?_update, if_pos rfl, if_pos rfl], alike.published⟩

theorem Alike.subscribe (topic : String) :
    Alike name (left.subscribe topic name) (right.subscribe topic name) := by
  rw [BrokerTable.subscribe, BrokerTable.subscribe, ← alike.held]
  split
  · exact alike
  · exact alike.update _

theorem Alike.publish (topic : String) (payload : Bytes) (attributes : Dict String) :
    (left.publish topic payload attributes).1.messageId =
        (right.publish topic payload attributes).1.messageId ∧
      Alike name (left.publish topic payload attributes).2
        (right.publish topic payload attributes).2 := by
  refine ⟨congrArg (fun n => messageId (n + 1)) alike.published, ?_, ?_⟩
  · simp only [BrokerTable.publish, Dict.get?_map, alike.held, alike.published]
  · exact congrArg (· + 1) alike.published

theorem Alike.receive :
    (left.receive name).1 = (right.receive name).1 ∧
      Alike name (left.receive name).2 (right.receive name).2 := by
  rw [BrokerTable.receive, BrokerTable.receive, ← alike.held]
  cases left.subscriptions.get? name with
  | none => exact ⟨rfl, alike⟩
  | some subscription =>
    dsimp only
    cases subscription.take? with
    | none => exact ⟨rfl, alike⟩
    | some taken => exact ⟨rfl, alike.update _⟩

theorem Alike.acknowledge (messageId : String) :
    (left.acknowledge name messageId).1 = (right.acknowledge name messageId).1 ∧
      Alike name (left.acknowledge name messageId).2 (right.acknowledge name messageId).2 := by
  rw [BrokerTable.acknowledge, BrokerTable.acknowledge, ← alike.held]
  cases left.subscriptions.get? name with
  | none => exact ⟨rfl, alike⟩
  | some subscription => exact ⟨rfl, alike.update _⟩

theorem Alike.redeliver :
    (left.redeliver name).1 = (right.redeliver name).1 ∧
      Alike name (left.redeliver name).2 (right.redeliver name).2 := by
  rw [BrokerTable.redeliver, BrokerTable.redeliver, ← alike.held]
  cases left.subscriptions.get? name with
  | none => exact ⟨rfl, alike⟩
  | some subscription => exact ⟨rfl, alike.update _⟩

theorem Alike.backlog : left.backlog name = right.backlog name := by
  rw [BrokerTable.backlog, BrokerTable.backlog, alike.held]

theorem Alike.inFlight : left.inFlight name = right.inFlight name := by
  rw [BrokerTable.inFlight, BrokerTable.inFlight, alike.held]

end

end BrokerTable

namespace BrokerCall
open BrokerTable (Alike)

theorem perform_concerns (call : BrokerCall) (backends : Backends) (name : String) :
    (call.perform backends).1.concerns name = call.concerns name := by
  cases call <;> rfl

theorem perform_aside {call : BrokerCall} {name : String} (aside : call.concerns name = false)
    (backends : Backends) :
    Alike name (call.perform backends).2.broker.store backends.broker.store := by
  rw [← call.perform_concerns backends] at aside
  exact ⟨(call.perform_moves backends name).elsewhere aside,
    (call.perform_counts backends).elsewhere aside⟩

theorem perform_unstruck {call : BrokerCall} (unscheduled : ∀ faults, call ≠ .schedule faults)
    {backends : Backends} (unstruck : backends.broker.faults = ∅) :
    (call.perform backends).2.broker.faults = ∅ := by
  cases call with
  | schedule faults => exact absurd rfl (unscheduled faults)
  | publish | receive | acknowledge => exact Faulty.call_unstruck _ _ _ _ unstruck
  | _ => exact unstruck

theorem course_unstruck {calls : List BrokerCall}
    (unscheduled : ∀ call ∈ calls, ∀ faults, call ≠ .schedule faults) :
    (course calls).2.broker.faults = ∅ := by
  induction calls using List.reverseRecOn with
  | nil => rfl
  | append_singleton calls call ih =>
    rw [course_snoc]
    exact perform_unstruck (unscheduled call (by simp))
      (ih fun other member => unscheduled other (by simp [member]))

def work (call : BrokerCall) (broker : BrokerTable) : BrokerEvent × BrokerTable :=
  match call with
  | subscribe topic name => (.subscribed topic name, broker.subscribe topic name)
  | publish topic payload attributes =>
      let (delivery, left) := broker.publish topic payload attributes
      (.published topic payload attributes (.ok delivery), left)
  | receive name =>
      let (answer, left) := broker.receive name
      (.received name answer, left)
  | acknowledge name messageId =>
      let (answer, left) := broker.acknowledge name messageId
      (.acknowledged name messageId answer, left)
  | redeliver name =>
      let (count, left) := broker.redeliver name
      (.redelivered name count, left)
  | schedule _ => (.scheduled, broker)

theorem perform_eq (call : BrokerCall) {backends : Backends}
    (unstruck : backends.broker.faults = ∅) :
    ((call.perform backends).1, (call.perform backends).2.broker.store) =
      call.work backends.broker.store := by
  obtain ⟨records, objects, cache, ⟨store, faults⟩, sessions⟩ := backends
  obtain rfl : faults = ∅ := unstruck
  cases call <;> rfl

theorem work_own {call : BrokerCall} {name : String} (own : call.concerns name = true)
    {left right : BrokerTable} (alike : Alike name left right) :
    (call.work left).1.unspread = (call.work right).1.unspread ∧
      Alike name (call.work left).2 (call.work right).2 := by
  cases call with
  | schedule => cases own
  | publish topic payload attributes =>
    obtain ⟨same, kept⟩ := alike.publish topic payload attributes
    exact ⟨congrArg (fun id => BrokerEvent.published topic payload attributes (.ok ⟨topic, id, 0⟩))
      same, kept⟩
  | subscribe topic other =>
    obtain rfl : other = name := by simpa [concerns] using own
    exact ⟨rfl, alike.subscribe topic⟩
  | receive other =>
    obtain rfl : other = name := by simpa [concerns] using own
    obtain ⟨same, kept⟩ := alike.receive
    exact ⟨congrArg (fun answer => (BrokerEvent.received other answer).unspread) same, kept⟩
  | acknowledge other messageId =>
    obtain rfl : other = name := by simpa [concerns] using own
    obtain ⟨same, kept⟩ := alike.acknowledge messageId
    exact ⟨congrArg (fun answer => (BrokerEvent.acknowledged other messageId answer).unspread) same,
      kept⟩
  | redeliver other =>
    obtain rfl : other = name := by simpa [concerns] using own
    obtain ⟨same, kept⟩ := alike.redeliver
    exact ⟨congrArg (fun count => (BrokerEvent.redelivered other count).unspread) same, kept⟩

theorem perform_own {call : BrokerCall} {name : String} (own : call.concerns name = true)
    {left right : Backends} (leftUnstruck : left.broker.faults = ∅)
    (rightUnstruck : right.broker.faults = ∅)
    (alike : Alike name left.broker.store right.broker.store) :
    (call.perform left).1.unspread = (call.perform right).1.unspread ∧
      Alike name (call.perform left).2.broker.store (call.perform right).2.broker.store := by
  obtain ⟨leftEvent, leftStore⟩ := Prod.mk.inj (call.perform_eq leftUnstruck)
  obtain ⟨rightEvent, rightStore⟩ := Prod.mk.inj (call.perform_eq rightUnstruck)
  rw [leftEvent, leftStore, rightEvent, rightStore]
  exact work_own own alike

-- The same calls without those that name another subscription.
def only (name : String) (calls : List BrokerCall) : List BrokerCall :=
  calls.filter fun call => call.concerns name

theorem only_snoc (name : String) (calls : List BrokerCall) (call : BrokerCall) :
    only name (calls ++ [call]) =
      if call.concerns name then only name calls ++ [call] else only name calls := by
  rw [only, List.filter_append, ← only]
  cases own : call.concerns name <;> simp [own]

theorem course_only {calls : List BrokerCall} (name : String)
    (unscheduled : ∀ call ∈ calls, ∀ faults, call ≠ .schedule faults) :
    ((course calls).1.filter fun event => event.concerns name).map BrokerEvent.unspread =
        (course (only name calls)).1.map BrokerEvent.unspread ∧
      Alike name (course calls).2.broker.store (course (only name calls)).2.broker.store := by
  induction calls using List.reverseRecOn with
  | nil => exact ⟨rfl, .refl ..⟩
  | append_singleton calls call ih =>
    have earlier : ∀ other ∈ calls, ∀ faults, other ≠ .schedule faults :=
      fun other member => unscheduled other (by simp [member])
    obtain ⟨same, alike⟩ := ih earlier
    have event := call.perform_concerns (course calls).2 name
    rw [course_snoc, record, only_snoc, List.filter_append, List.map_append, same]
    cases own : call.concerns name with
    | false =>
      rw [own] at event
      exact ⟨by simp [event], (perform_aside own _).trans alike⟩
    | true =>
      rw [own] at event
      have rest : ∀ other ∈ only name calls, ∀ faults, other ≠ .schedule faults :=
        fun other member => earlier other (List.mem_filter.mp member).1
      obtain ⟨answer, kept⟩ :=
        perform_own own (course_unstruck earlier) (course_unstruck rest) alike
      rw [if_pos rfl, course_snoc, record]
      exact ⟨by simp [event, answer], kept⟩

/-- Without failures, a run of calls from which all calls are taken out that name other
subscriptions is answered as the whole run was, but for the number of subscriptions that a
publication reached; at its end as many messages wait on the subscription, and as many are in
flight. -/
theorem subscriptions_independent (calls : List BrokerCall) (name : String)
    (unscheduled : ∀ call ∈ calls, ∀ faults, call ≠ .schedule faults) :
    let whole := course calls
    let own := course (only name calls)
    (whole.1.filter fun event => event.concerns name).map BrokerEvent.unspread =
        own.1.map BrokerEvent.unspread ∧
      whole.2.broker.store.backlog name = own.2.broker.store.backlog name ∧
      whole.2.broker.store.inFlight name = own.2.broker.store.inFlight name := by
  obtain ⟨same, alike⟩ := course_only name unscheduled
  exact ⟨same, alike.backlog, alike.inFlight⟩

theorem subscriptions_independent_billing :
    let publication := publish "orders" [7] ∅
    let calls := [subscribe "orders" "audit", subscribe "orders" "billing", publication,
      receive "audit", receive "billing", publication, acknowledge "audit" "msg-00000001",
      redeliver "audit", redeliver "billing", receive "billing"]
    (∀ call ∈ calls, ∀ faults, call ≠ .schedule faults) ∧
    only "billing" calls = [subscribe "orders" "billing", publication, receive "billing",
      publication, redeliver "billing", receive "billing"] ∧
    ((course calls).1.filter fun event => event.concerns "billing").map BrokerEvent.unspread =
      (course (only "billing" calls)).1.map BrokerEvent.unspread ∧
    (course calls).2.broker.store.backlog "billing" = 1 ∧
    (course (only "billing" calls)).2.broker.store.backlog "billing" = 1 := by
  intro publication calls
  have unscheduled : ∀ call ∈ calls, ∀ faults, call ≠ .schedule faults := by
    simp [calls, publication]
  obtain ⟨same, backlog, -⟩ := subscriptions_independent calls "billing" unscheduled
  have waiting : (course calls).2.broker.store.backlog "billing" = 1 := by decide +kernel
  refine ⟨unscheduled, ?_, same, waiting, backlog.symm.trans waiting⟩
  simp [only, concerns, calls, publication]

end BrokerCall
end EffectPrograms.Memory
