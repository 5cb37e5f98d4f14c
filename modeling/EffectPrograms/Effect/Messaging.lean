import EffectPrograms.Dict
import EffectPrograms.Json.Part
import EffectPrograms.Text.Form

set_option autoImplicit false

namespace EffectPrograms.Messaging
open Json Text

-- Receipt for a publication: the fan-out counts the subscriptions that got the message.
structure Delivery where
  topic : String
  messageId : String
  fanout : Nat
deriving DecidableEq

-- A message handed to a consumer; the attempt is 1 at its first delivery.
structure Message where
  messageId : String
  topic : String
  payload : Bytes
  attributes : Dict String
  deliveryAttempt : Nat
deriving DecidableEq

inductive Inbox where
  | message (message : Message)
  | empty
deriving DecidableEq

-- An unknown message is not in flight: acknowledged before, or never delivered.
inductive AckStatus where
  | acknowledged
  | unknown
deriving DecidableEq

inductive Request where
  | publish (topic : String) (payload : Bytes) (attributes : Dict String)
  | receive (subscription : String)
  | acknowledge (subscription messageId : String)
deriving DecidableEq

inductive Result where
  | published (delivery : Delivery)
  | received (inbox : Inbox)
  | acknowledged (status : AckStatus)
deriving DecidableEq

def attributesJson (attributes : Dict String) : Json := .object (attributes.map Json.string).entries

def readAttributeList? : List (String × Json) → Option (List (String × String))
  | [] => some []
  | (name, .string value) :: rest => (readAttributeList? rest).map ((name, value) :: ·)
  | _ => none

def readAttributes? : Json → Option (Dict String)
  | .object members => (readAttributeList? members).map Dict.ofList
  | _ => none

def attributes? (part : Part) : Option (Dict String) := part.value?.bind readAttributes?

def attributesDebug (attributes : Dict String) : List Char :=
  Form.mapping (attributes.map quoted).entries

namespace Request

def operation : Request → String
  | publish .. => "publish"
  | receive .. => "receive"
  | acknowledge .. => "acknowledge"

@[reducible] def Response : Request → Type
  | publish .. => Delivery
  | receive .. => Inbox
  | acknowledge .. => AckStatus

def accept? : (request : Request) → Result → Option request.Response
  | publish .., .published delivery => some delivery
  | receive .., .received inbox => some inbox
  | acknowledge .., .acknowledged status => some status
  | _, _ => none

def answer : (request : Request) → request.Response → Result
  | publish .., delivery => .published delivery
  | receive .., inbox => .received inbox
  | acknowledge .., status => .acknowledged status

theorem accept?_answer (request : Request) (response : request.Response) :
    request.accept? (request.answer response) = some response := by
  cases request <;> rfl

theorem answer_of_accept? {request : Request} {result : Result} {response : request.Response}
    (accepted : request.accept? result = some response) : request.answer response = result := by
  cases request <;> cases result <;> cases accepted <;> rfl

def toJson : Request → Json
  | publish topic payload attributes =>
      .object [("op", .string "publish"), ("topic", .string topic), ("payload", bytes payload),
        ("attributes", attributesJson attributes)]
  | receive subscription =>
      .object [("op", .string "receive"), ("subscription", .string subscription)]
  | acknowledge subscription messageId =>
      .object [("op", .string "acknowledge"), ("subscription", .string subscription),
        ("message_id", .string messageId)]

def tags : List String := ["publish", "receive", "acknowledge"]

def read? (part : Part) : Option Request := do
  let (op, body) ← part.opened? "op" tags
  if op = "publish" then
    let [topic, payload, attributes] ← body.fields? ["topic", "payload", "attributes"] | none
    some (.publish (← neededField? Part.text? topic) (← neededField? Part.bytes? payload)
      (← neededField? attributes? attributes))
  else if op = "receive" then
    let [subscription] ← body.fields? ["subscription"] | none
    some (.receive (← neededField? Part.text? subscription))
  else if op = "acknowledge" then
    let [subscription, messageId] ← body.fields? ["subscription", "message_id"] | none
    some (.acknowledge (← neededField? Part.text? subscription)
      (← neededField? Part.text? messageId))
  else none

end Request

def Delivery.toJson (delivery : Delivery) : Json :=
  .object [("topic", .string delivery.topic), ("message_id", .string delivery.messageId),
    ("fanout", nat delivery.fanout)]

def Delivery.read? (part : Part) : Option Delivery := do
  let [topic, messageId, fanout] ← part.fields? ["topic", "message_id", "fanout"] | none
  some ⟨← neededField? Part.text? topic, ← neededField? Part.text? messageId,
    ← neededField? (Part.bits? 64) fanout⟩

def identifierDebug (messageId : String) : List Char :=
  Form.applied "MessageId" (quoted messageId)

def Delivery.debug (delivery : Delivery) : List Char :=
  Form.record "Delivery" [("topic", quoted delivery.topic),
    ("message_id", identifierDebug delivery.messageId), ("fanout", Nat.toDigits 10 delivery.fanout)]

def Message.toJson (message : Message) : Json :=
  .object [("message_id", .string message.messageId), ("topic", .string message.topic),
    ("payload", bytes message.payload), ("attributes", attributesJson message.attributes),
    ("delivery_attempt", nat message.deliveryAttempt)]

def Message.read? (part : Part) : Option Message := do
  let [messageId, topic, payload, attributes, attempt] ←
    part.fields? ["message_id", "topic", "payload", "attributes", "delivery_attempt"] | none
  some ⟨← neededField? Part.text? messageId, ← neededField? Part.text? topic,
    ← neededField? Part.bytes? payload, ← neededField? attributes? attributes,
    ← neededField? (Part.bits? 32) attempt⟩

def Message.debug (message : Message) : List Char :=
  Form.record "ReceivedMessage" [("message_id", identifierDebug message.messageId),
    ("topic", quoted message.topic), ("payload", message.payload.quoted),
    ("attributes", attributesDebug message.attributes),
    ("delivery_attempt", Nat.toDigits 10 message.deliveryAttempt)]

def Inbox.toJson : Inbox → Json
  | message value => tagged "status" "message" "message" value.toJson
  | empty => .object [("status", .string "empty")]

def Inbox.read? (part : Part) : Option Inbox := do
  let (status, content) ← part.tagged? "status" "message" ["message", "empty"]
  if status = "message" then (neededField? Message.read? content).map message
  else if status = "empty" then (emptyField? content).map fun _ => .empty
  else none

def Inbox.debug : Inbox → List Char
  | message value => Form.applied "Message" value.debug
  | empty => "Empty".toList

def AckStatus.toJson : AckStatus → Json
  | acknowledged => .string "acknowledged"
  | unknown => .string "unknown"

def AckStatus.read? (part : Part) : Option AckStatus := do
  let name ← part.name?
  if name = "acknowledged" then some acknowledged
  else if name = "unknown" then some unknown
  else none

def AckStatus.debug : AckStatus → List Char
  | acknowledged => "Acknowledged".toList
  | unknown => "Unknown".toList

namespace Result

def outcomeJson : Result → Json
  | published delivery => delivery.toJson
  | received inbox => inbox.toJson
  | acknowledged status => status.toJson

def op : Result → String
  | published _ => "published"
  | received _ => "received"
  | acknowledged _ => "acknowledged"

def toJson (result : Result) : Json := tagged "op" "outcome" result.op result.outcomeJson

def tags : List String := ["published", "received", "acknowledged"]

def read? (part : Part) : Option Result := do
  let (op, outcome) ← part.tagged? "op" "outcome" tags
  if op = "published" then (neededField? Delivery.read? outcome).map published
  else if op = "received" then (neededField? Inbox.read? outcome).map received
  else if op = "acknowledged" then (neededField? AckStatus.read? outcome).map acknowledged
  else none

def debug : Result → List Char
  | published delivery => Form.applied "Published" delivery.debug
  | received inbox => Form.applied "Received" inbox.debug
  | acknowledged status => Form.applied "Acknowledged" status.debug

end Result
end EffectPrograms.Messaging
