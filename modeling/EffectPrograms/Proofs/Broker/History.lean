import EffectPrograms.Memory.Backends
import EffectPrograms.Proofs.Broker.Identifiers
import EffectPrograms.Proofs.Faults
import Mathlib.Data.List.Induction

set_option autoImplicit false

namespace EffectPrograms.Memory
open Messaging (Delivery Message)

-- What clients ask of a broker; in between, failures may be scheduled in any way.
inductive BrokerCall where
  | subscribe (topic name : String)
  | publish (topic : String) (payload : Bytes) (attributes : Dict String)
  | receive (name : String)
  | acknowledge (name messageId : String)
  | redeliver (name : String)
  | schedule (faults : Faults)

inductive BrokerEvent where
  | subscribed (topic name : String)
  | published (topic : String) (payload : Bytes) (attributes : Dict String)
      (answer : Backed Delivery)
  | received (name : String) (answer : Backed (Option Message))
  | acknowledged (name messageId : String) (answer : Backed Bool)
  | redelivered (name : String) (count : Nat)
  | scheduled

namespace BrokerEvent

-- The topic to which a call asks to attach the subscription.
def topicFor? (name : String) : BrokerEvent → Option String
  | subscribed topic other => if other = name then some topic else none
  | _ => none

-- The message of a publication that took place, before its first delivery.
def publication? : BrokerEvent → Option Message
  | published topic payload attributes (.ok delivery) =>
      some ⟨delivery.messageId, topic, payload, attributes, 0⟩
  | _ => none

-- The identifier that was acknowledged on the subscription.
def acknowledgment? (name : String) : BrokerEvent → Option String
  | acknowledged other messageId (.ok true) => if other = name then some messageId else none
  | _ => none

-- The message that was handed out on the subscription.
def delivery? (name : String) : BrokerEvent → Option Message
  | received other (.ok (some message)) => if other = name then some message else none
  | _ => none

theorem delivery?_eq_some {name : String} {event : BrokerEvent} {message : Message}
    (delivered : event.delivery? name = some message) :
    event = received name (.ok (some message)) := by
  unfold delivery? at delivered
  split at delivered
  · split at delivered
    · next own =>
      rw [own, Option.some.inj delivered]
    · cases delivered
  · cases delivered

end BrokerEvent

abbrev BrokerHistory := List BrokerEvent

namespace BrokerHistory

-- The topic of a subscription: that of the first call which named it.
def topicOf (name : String) (history : BrokerHistory) : Option String :=
  history.findSome? (BrokerEvent.topicFor? name)

def publications (history : BrokerHistory) : List Message :=
  history.filterMap BrokerEvent.publication?

-- What was published to the topic of a subscription since it was attached, in that order.
def owed (name : String) : BrokerHistory → List Message
  | [] => []
  | event :: later =>
      match event.topicFor? name with
      | some topic => (publications later).filter fun message => message.topic == topic
      | none => owed name later

def acknowledgedOn (name : String) (history : BrokerHistory) : List String :=
  history.filterMap (BrokerEvent.acknowledgment? name)

theorem topicOf_snoc (name : String) (history : BrokerHistory) (event : BrokerEvent) :
    topicOf name (history ++ [event]) = (topicOf name history).or (event.topicFor? name) := by
  simp only [topicOf, List.findSome?_append, List.findSome?_singleton]

theorem publications_snoc (history : BrokerHistory) (event : BrokerEvent) :
    publications (history ++ [event]) = publications history ++ event.publication?.toList := by
  cases shown : event.publication? <;> simp [publications, shown]

theorem acknowledgedOn_snoc (name : String) (history : BrokerHistory) (event : BrokerEvent) :
    acknowledgedOn name (history ++ [event]) =
      acknowledgedOn name history ++ (event.acknowledgment? name).toList := by
  cases shown : event.acknowledgment? name <;> simp [acknowledgedOn, shown]

theorem owed_snoc_of_none {name : String} {history : BrokerHistory}
    (unattached : topicOf name history = none) (event : BrokerEvent) :
    owed name (history ++ [event]) = [] := by
  induction history with
  | nil => cases shown : event.topicFor? name <;> simp [owed, publications, shown]
  | cons first later ih =>
    cases shown : first.topicFor? name with
    | none => simpa [owed, shown] using ih (by simpa [topicOf, shown] using unattached)
    | some topic => simp [topicOf, shown] at unattached

theorem owed_snoc_of_some {name topic : String} {history : BrokerHistory}
    (attached : topicOf name history = some topic) (event : BrokerEvent) :
    owed name (history ++ [event]) = owed name history ++
      event.publication?.toList.filter fun message => message.topic == topic := by
  induction history with
  | nil => cases attached
  | cons first later ih =>
    cases shown : first.topicFor? name with
    | none => simpa [owed, shown] using ih (by simpa [topicOf, shown] using attached)
    | some own =>
      obtain rfl : own = topic := by simpa [topicOf, shown] using attached
      simp [owed, shown, publications_snoc]

theorem owed_sublist (name : String) (history : BrokerHistory) :
    List.Sublist (owed name history) (publications history) := by
  induction history with
  | nil => exact .slnil
  | cons first later ih =>
    have tail : List.Sublist (publications later) (publications (first :: later)) :=
      (List.sublist_cons_self first later).filterMap _
    cases shown : first.topicFor? name with
    | none => simpa [owed, shown] using ih.trans tail
    | some topic => simpa [owed, shown] using List.filter_sublist.trans tail

theorem snoc_eq_append_cons {α : Type} {history before after : List α} {last event : α}
    (split : history ++ [last] = before ++ event :: after) :
    (history = before ∧ last = event ∧ after = []) ∨
      ∃ rest, history = before ++ event :: rest ∧ after = rest ++ [last] := by
  rcases List.eq_nil_or_concat after with rfl | ⟨rest, final, rfl⟩
  · obtain ⟨earlier, same⟩ := List.append_inj' split rfl
    exact .inl ⟨earlier, List.singleton_inj.mp same, rfl⟩
  · have regrouped : history ++ [last] = (before ++ event :: rest) ++ [final] := by
      simpa using split
    obtain ⟨earlier, same⟩ := List.append_inj' regrouped rfl
    exact .inr ⟨rest, earlier, by rw [List.singleton_inj.mp same, List.concat_eq_append]⟩

end BrokerHistory

namespace BrokerCall

def perform (call : BrokerCall) (backends : Backends) : BrokerEvent × Backends :=
  match call with
  | subscribe topic name =>
      let store := backends.broker.store.subscribe topic name
      (.subscribed topic name, { backends with broker := { backends.broker with store } })
  | publish topic payload attributes =>
      let (answer, left) := Backends.messageBroker.publish topic payload attributes backends
      (.published topic payload attributes answer, left)
  | receive name =>
      let (answer, left) := Backends.messageBroker.receive name backends
      (.received name answer, left)
  | acknowledge name messageId =>
      let (answer, left) := Backends.messageBroker.acknowledge name messageId backends
      (.acknowledged name messageId answer, left)
  | redeliver name =>
      let (count, store) := backends.broker.store.redeliver name
      (.redelivered name count, { backends with broker := { backends.broker with store } })
  | schedule faults =>
      (.scheduled, { backends with broker := { backends.broker with faults } })

def record (reached : BrokerHistory × Backends) (call : BrokerCall) : BrokerHistory × Backends :=
  (reached.1 ++ [(call.perform reached.2).1], (call.perform reached.2).2)

-- The history of calls that are made one after another, and what they leave.
def course (calls : List BrokerCall) : BrokerHistory × Backends :=
  calls.foldl record ([], .empty)

theorem course_snoc (calls : List BrokerCall) (call : BrokerCall) :
    course (calls ++ [call]) = record (course calls) call := by
  simp only [course, List.foldl_append, List.foldl_cons, List.foldl_nil]

theorem course_keeps {motive : BrokerHistory → Backends → Prop} (start : motive [] .empty)
    (kept : ∀ history backends (call : BrokerCall), motive history backends →
      motive (history ++ [(call.perform backends).1]) (call.perform backends).2)
    (calls : List BrokerCall) : motive (course calls).1 (course calls).2 := by
  induction calls using List.reverseRecOn with
  | nil => exact start
  | append_singleton calls call ih =>
    rw [course_snoc]
    exact kept _ _ call ih

theorem course_split {calls : List BrokerCall} {before after : BrokerHistory} {event : BrokerEvent}
    (split : (course calls).1 = before ++ event :: after) :
    ∃ (earlier : List BrokerCall) (call : BrokerCall), (course earlier).1 = before ∧
      (call.perform (course earlier).2).1 = event := by
  induction calls using List.reverseRecOn generalizing after with
  | nil => simp [course] at split
  | append_singleton calls call ih =>
    rw [course_snoc, record] at split
    rcases BrokerHistory.snoc_eq_append_cons split with ⟨earlier, last, -⟩ | ⟨rest, earlier, -⟩
    · exact ⟨calls, call, earlier, last⟩
    · exact ih earlier

end BrokerCall

namespace Subscription

-- How an event moves the subscription of a name, which may not be attached yet.
inductive Moves (name : String) :
    Option Subscription → BrokerEvent → Option Subscription → Prop where
  | attached (topic : String) :
      Moves name none (.subscribed topic name) (some ⟨topic, #[], ∅⟩)
  | offered (current : Option Subscription) (topic : String) (payload : Bytes)
      (attributes : Dict String) (delivery : Delivery) :
      Moves name current (.published topic payload attributes (.ok delivery))
        (current.map (offer ⟨delivery.messageId, topic, payload, attributes, 0⟩))
  | handed {subscription left : Subscription} {message : Message}
      (taken : subscription.take? = some (message, left)) :
      Moves name (some subscription) (.received name (.ok (some message))) (some left)
  | settled (subscription : Subscription) (messageId : String) :
      Moves name (some subscription)
        (.acknowledged name messageId (.ok (subscription.inFlight.contains messageId)))
        (some { subscription with inFlight := subscription.inFlight.erase messageId })
  | returned (subscription : Subscription) :
      Moves name (some subscription) (.redelivered name subscription.inFlight.size)
        (some subscription.redelivered)
  | aside (current : Option Subscription) {event : BrokerEvent}
      (unattached : event.topicFor? name = none ∨ current ≠ none)
      (unpublished : event.publication? = none)
      (unacknowledged : event.acknowledgment? name = none)
      (undelivered : event.delivery? name = none) : Moves name current event current

theorem Moves.of_received {name : String} {message : Message} {current next : Option Subscription}
    (moves : Moves name current (.received name (.ok (some message))) next) :
    ∃ subscription left, current = some subscription ∧ next = some left ∧
      subscription.take? = some (message, left) := by
  cases moves with
  | handed taken => exact ⟨_, _, rfl, rfl, taken⟩
  | aside _ unattached unpublished unacknowledged undelivered =>
    simp [BrokerEvent.delivery?] at undelivered

end Subscription

namespace BrokerTable

theorem get?_update (broker : BrokerTable) (other name : String) (subscription : Subscription) :
    (broker.update other subscription).subscriptions.get? name =
      if name = other then some subscription else broker.subscriptions.get? name :=
  Dict.get?_insert ..

open Subscription (Moves)

variable (broker : BrokerTable) (name : String)

theorem subscribe_moves (topic other : String) :
    Moves name (broker.subscriptions.get? name) (.subscribed topic other)
      ((broker.subscribe topic other).subscriptions.get? name) := by
  by_cases own : other = name
  · subst other
    cases known : broker.subscriptions.get? name with
    | none =>
      simp only [subscribe, known, get?_update, if_true]
      exact .attached topic
    | some subscription =>
      simp only [subscribe, known]
      exact .aside _ (.inr (by simp)) rfl rfl rfl
  · have same : (broker.subscribe topic other).subscriptions.get? name =
        broker.subscriptions.get? name := by
      rw [subscribe]
      split
      · rfl
      · rw [get?_update, if_neg (Ne.symm own)]
    rw [same]
    exact .aside _ (.inl (by simp [BrokerEvent.topicFor?, own])) rfl rfl rfl

theorem publish_moves (topic : String) (payload : Bytes) (attributes : Dict String) :
    let (delivery, left) := broker.publish topic payload attributes
    Moves name (broker.subscriptions.get? name)
      (.published topic payload attributes (.ok delivery)) (left.subscriptions.get? name) := by
  simp only [publish, Dict.get?_map]
  exact .offered ..

theorem receive_moves (other : String) :
    Moves name (broker.subscriptions.get? name) (.received other (broker.receive other).1)
      ((broker.receive other).2.subscriptions.get? name) := by
  cases known : broker.subscriptions.get? other with
  | none =>
    simp only [receive, known]
    exact .aside _ (.inl rfl) rfl rfl rfl
  | some subscription =>
    cases taken : subscription.take? with
    | none =>
      simp only [receive, known, taken]
      exact .aside _ (.inl rfl) rfl rfl rfl
    | some next =>
      simp only [receive, known, taken, get?_update]
      by_cases own : name = other
      · subst other
        simp only [if_true, known]
        exact .handed taken
      · rw [if_neg own]
        exact .aside _ (.inl rfl) rfl rfl (by simp [BrokerEvent.delivery?, Ne.symm own])

theorem acknowledge_moves (other messageId : String) :
    Moves name (broker.subscriptions.get? name)
      (.acknowledged other messageId (broker.acknowledge other messageId).1)
      ((broker.acknowledge other messageId).2.subscriptions.get? name) := by
  cases known : broker.subscriptions.get? other with
  | none =>
    simp only [acknowledge, known]
    exact .aside _ (.inl rfl) rfl rfl rfl
  | some subscription =>
    simp only [acknowledge, known, get?_update]
    by_cases own : name = other
    · subst other
      simp only [if_true, known]
      exact .settled subscription messageId
    · rw [if_neg own]
      refine .aside _ (.inl rfl) rfl ?_ rfl
      cases subscription.inFlight.contains messageId <;>
        simp [BrokerEvent.acknowledgment?, Ne.symm own]

theorem redeliver_moves (other : String) :
    Moves name (broker.subscriptions.get? name) (.redelivered other (broker.redeliver other).1)
      ((broker.redeliver other).2.subscriptions.get? name) := by
  cases known : broker.subscriptions.get? other with
  | none =>
    simp only [redeliver, known]
    exact .aside _ (.inl rfl) rfl rfl rfl
  | some subscription =>
    simp only [redeliver, known, get?_update]
    by_cases own : name = other
    · subst other
      simp only [if_true, known]
      exact .returned subscription
    · rw [if_neg own]
      exact .aside _ (.inl rfl) rfl rfl rfl

-- Publications that took place are numbered, and nothing else draws a number.
inductive Counts (broker : BrokerTable) (event : BrokerEvent) (left : BrokerTable) : Prop where
  | drawn (message : Message) (published : event.publication? = some message)
      (fresh : message.messageId = messageId (broker.published + 1))
      (next : left.published = broker.published + 1)
  | kept (unpublished : event.publication? = none) (same : left.published = broker.published)

theorem subscribe_published (topic other : String) :
    (broker.subscribe topic other).published = broker.published := by
  rw [subscribe]
  split <;> rfl

theorem receive_published (other : String) :
    (broker.receive other).2.published = broker.published := by
  rw [receive]
  split
  · rfl
  · split <;> rfl

theorem acknowledge_published (other messageId : String) :
    (broker.acknowledge other messageId).2.published = broker.published := by
  rw [acknowledge]
  split <;> rfl

theorem redeliver_published (other : String) :
    (broker.redeliver other).2.published = broker.published := by
  rw [redeliver]
  split <;> rfl

end BrokerTable

namespace BrokerCall

variable (call : BrokerCall) (backends : Backends)

theorem perform_moves (name : String) :
    Subscription.Moves name (backends.broker.store.subscriptions.get? name)
      (call.perform backends).1
      ((call.perform backends).2.broker.store.subscriptions.get? name) := by
  cases call with
  | subscribe topic other => exact backends.broker.store.subscribe_moves name topic other
  | redeliver other => exact backends.broker.store.redeliver_moves name other
  | schedule faults => exact .aside _ (.inl rfl) rfl rfl rfl
  | publish topic payload attributes =>
    exact Faulty.call_either _ _ _ _
      (motive := fun answer (left : BrokerTable) => Subscription.Moves name _
        (.published topic payload attributes answer) (left.subscriptions.get? name))
      (fun _ => .aside _ (.inl rfl) rfl rfl rfl)
      (backends.broker.store.publish_moves name topic payload attributes)
  | receive other =>
    exact Faulty.call_either _ _ _ _
      (motive := fun answer (left : BrokerTable) => Subscription.Moves name _ (.received other answer)
        (left.subscriptions.get? name))
      (fun _ => .aside _ (.inl rfl) rfl rfl rfl) (backends.broker.store.receive_moves name other)
  | acknowledge other messageId =>
    exact Faulty.call_either _ _ _ _
      (motive := fun answer (left : BrokerTable) => Subscription.Moves name _
        (.acknowledged other messageId answer) (left.subscriptions.get? name))
      (fun _ => .aside _ (.inl rfl) rfl rfl rfl)
      (backends.broker.store.acknowledge_moves name other messageId)

theorem perform_counts :
    backends.broker.store.Counts (call.perform backends).1
      (call.perform backends).2.broker.store := by
  cases call with
  | subscribe topic other => exact .kept rfl (backends.broker.store.subscribe_published ..)
  | redeliver other => exact .kept rfl (backends.broker.store.redeliver_published other)
  | schedule faults => exact .kept rfl rfl
  | publish topic payload attributes =>
    exact Faulty.call_either _ _ _ _
      (motive := fun answer (left : BrokerTable) => backends.broker.store.Counts
        (.published topic payload attributes answer) left)
      (fun _ => .kept rfl rfl) (.drawn _ rfl rfl rfl)
  | receive other =>
    exact Faulty.call_either _ _ _ _
      (motive := fun answer (left : BrokerTable) => backends.broker.store.Counts (.received other answer) left)
      (fun _ => .kept rfl rfl) (.kept rfl (backends.broker.store.receive_published other))
  | acknowledge other messageId =>
    exact Faulty.call_either _ _ _ _
      (motive := fun answer (left : BrokerTable) => backends.broker.store.Counts
        (.acknowledged other messageId answer) left)
      (fun _ => .kept rfl rfl) (.kept rfl (backends.broker.store.acknowledge_published ..))

end BrokerCall
end EffectPrograms.Memory
