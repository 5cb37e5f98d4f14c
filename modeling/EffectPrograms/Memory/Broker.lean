import EffectPrograms.Dict
import EffectPrograms.Effect.Messaging
import EffectPrograms.Failure.Backend

set_option autoImplicit false

namespace EffectPrograms.Memory
open Messaging (Delivery Message)

structure Subscription where
  topic : String
  ready : Array Message
  inFlight : Dict Message
deriving DecidableEq

namespace Subscription

def offer (message : Message) (subscription : Subscription) : Subscription :=
  if subscription.topic = message.topic then
    { subscription with ready := subscription.ready.push message }
  else subscription

-- Puts the messages in flight back to the front, in the order of their identifiers.
def redelivered (subscription : Subscription) : Subscription :=
  { subscription with
    ready := subscription.inFlight.values.toArray ++ subscription.ready
    inFlight := ∅ }

def take? (subscription : Subscription) : Option (Message × Subscription) :=
  match subscription.ready[0]? with
  | none => none
  | some message =>
      let message := { message with deliveryAttempt := message.deliveryAttempt + 1 }
      some (message,
        { subscription with
          ready := subscription.ready.extract 1
          inFlight := subscription.inFlight.insert message.messageId message })

end Subscription

-- Publications are counted without a bound, and so are the deliveries of a message: up to 2 to the 64
-- of the ones and 2 to the 32 of the others that is no difference.
structure BrokerTable where
  subscriptions : Dict Subscription
  published : Nat
deriving DecidableEq

namespace BrokerTable

def empty : BrokerTable := ⟨∅, 0⟩

-- The identifier of the n-th message: its number with at least eight digits.
def messageId (n : Nat) : String :=
  let digits := Nat.toDigits 10 n
  "msg-" ++ String.ofList (List.replicate (8 - digits.length) '0' ++ digits)

def unknownSubscription (name : String) : BackendError :=
  .invalidRequest ("unknown subscription " ++ name)

def update (broker : BrokerTable) (name : String) (subscription : Subscription) : BrokerTable :=
  { broker with subscriptions := broker.subscriptions.insert name subscription }

-- Attaches a subscription to a topic; one that is attached stays where it is.
def subscribe (broker : BrokerTable) (topic name : String) : BrokerTable :=
  match broker.subscriptions.get? name with
  | some _ => broker
  | none => broker.update name ⟨topic, #[], ∅⟩

def backlog (broker : BrokerTable) (name : String) : Nat :=
  match broker.subscriptions.get? name with
  | some subscription => subscription.ready.size
  | none => 0

def inFlight (broker : BrokerTable) (name : String) : Nat :=
  match broker.subscriptions.get? name with
  | some subscription => subscription.inFlight.size
  | none => 0

def redeliver (broker : BrokerTable) (name : String) : Nat × BrokerTable :=
  match broker.subscriptions.get? name with
  | some subscription =>
      (subscription.inFlight.size, broker.update name subscription.redelivered)
  | none => (0, broker)

def publish (broker : BrokerTable) (topic : String) (payload : Bytes) (attributes : Dict String) :
    Delivery × BrokerTable :=
  let id := messageId (broker.published + 1)
  let message : Message := ⟨id, topic, payload, attributes, 0⟩
  let reached := broker.subscriptions.filter fun subscription => subscription.topic == topic
  (⟨topic, id, reached.size⟩,
    ⟨broker.subscriptions.map (Subscription.offer message), broker.published + 1⟩)

def receive (broker : BrokerTable) (name : String) :
    Except BackendError (Option Message) × BrokerTable :=
  match broker.subscriptions.get? name with
  | none => (.error (unknownSubscription name), broker)
  | some subscription =>
      match subscription.take? with
      | none => (.ok none, broker)
      | some (message, subscription) => (.ok (some message), broker.update name subscription)

def acknowledge (broker : BrokerTable) (name messageId : String) :
    Except BackendError Bool × BrokerTable :=
  match broker.subscriptions.get? name with
  | none => (.error (unknownSubscription name), broker)
  | some subscription =>
      (.ok (subscription.inFlight.contains messageId),
        broker.update name
          { subscription with inFlight := subscription.inFlight.erase messageId })

end BrokerTable
end EffectPrograms.Memory
