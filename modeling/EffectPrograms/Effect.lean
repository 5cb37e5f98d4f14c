import EffectPrograms.Effect.Cache
import EffectPrograms.Effect.Family
import EffectPrograms.Effect.Messaging
import EffectPrograms.Effect.Objects
import EffectPrograms.Effect.Storage
import EffectPrograms.Effect.Transport

set_option autoImplicit false

namespace EffectPrograms
open Json Text

inductive Effect where
  | storage (request : Storage.Request)
  | object (request : Objects.Request)
  | cache (request : Cache.Request)
  | messaging (request : Messaging.Request)
  | transport (request : Transport.Request)
deriving DecidableEq

inductive Result where
  | storage (result : Storage.Result)
  | object (result : Objects.Result)
  | cache (result : Cache.Result)
  | messaging (result : Messaging.Result)
  | transport (result : Transport.Result)
deriving DecidableEq

namespace Effect

def family : Effect → Family
  | storage _ => .storage
  | object _ => .object
  | cache _ => .cache
  | messaging _ => .messaging
  | transport _ => .transport

def operation : Effect → String
  | storage request => request.operation
  | object request => request.operation
  | cache request => request.operation
  | messaging request => request.operation
  | transport request => request.operation

def label (effect : Effect) : String := effect.family.name ++ "." ++ effect.operation

@[reducible] def Response : Effect → Type
  | storage request => request.Response
  | object request => request.Response
  | cache request => request.Response
  | messaging request => request.Response
  | transport request => request.Response

def accept? : (effect : Effect) → Result → Option effect.Response
  | storage request, .storage result => request.accept? result
  | object request, .object result => request.accept? result
  | cache request, .cache result => request.accept? result
  | messaging request, .messaging result => request.accept? result
  | transport request, .transport result => request.accept? result
  | _, _ => none

def answer : (effect : Effect) → effect.Response → Result
  | storage request, response => .storage (request.answer response)
  | object request, response => .object (request.answer response)
  | cache request, response => .cache (request.answer response)
  | messaging request, response => .messaging (request.answer response)
  | transport request, response => .transport (request.answer response)

theorem accept?_answer (effect : Effect) (response : effect.Response) :
    effect.accept? (effect.answer response) = some response := by
  cases effect with
  | storage request => exact request.accept?_answer response
  | object request => exact request.accept?_answer response
  | cache request => exact request.accept?_answer response
  | messaging request => exact request.accept?_answer response
  | transport request => exact request.accept?_answer response

theorem answer_of_accept? {effect : Effect} {result : Result} {response : effect.Response}
    (accepted : effect.accept? result = some response) : effect.answer response = result := by
  cases effect <;> cases result
  case storage.storage => exact congrArg _ (Storage.Request.answer_of_accept? accepted)
  case object.object => exact congrArg _ (Objects.Request.answer_of_accept? accepted)
  case cache.cache => exact congrArg _ (Cache.Request.answer_of_accept? accepted)
  case messaging.messaging => exact congrArg _ (Messaging.Request.answer_of_accept? accepted)
  case transport.transport => exact congrArg _ (Transport.Request.answer_of_accept? accepted)
  all_goals cases accepted

def requestJson : Effect → Json
  | storage request => request.toJson
  | object request => request.toJson
  | cache request => request.toJson
  | messaging request => request.toJson
  | transport request => request.toJson

def toJson (effect : Effect) : Json :=
  tagged "family" "request" effect.family.name effect.requestJson

def read? (part : Part) : Option Effect := do
  let (name, request) ← part.tagged? "family" "request" Family.names
  match ← Family.ofName? name with
  | .storage => (neededField? Storage.Request.read? request).map storage
  | .object => (neededField? Objects.Request.read? request).map object
  | .cache => (neededField? Cache.Request.read? request).map cache
  | .messaging => (neededField? Messaging.Request.read? request).map messaging
  | .transport => (neededField? Transport.Request.read? request).map transport

def text (effect : Effect) : String := effect.toJson.text

def ofJson? (value : Json) : Option Effect := read? (.given value)

def ofText? (text : String) : Option Effect :=
  (Source.ofText? text).bind fun source => read? (.written source Source.maxDepth)

-- Equality of effects; zeros of documents are equal whatever their sign.
def same : Effect → Effect → Bool
  | storage (.put table key value expected), storage (.put table' key' value' expected') =>
      table == table' && key == key' && expected == expected' && value.same value'
  | left, right => left == right

end Effect

namespace Result

def family : Result → Family
  | storage _ => .storage
  | object _ => .object
  | cache _ => .cache
  | messaging _ => .messaging
  | transport _ => .transport

def resultJson : Result → Json
  | storage result => result.toJson
  | object result => result.toJson
  | cache result => result.toJson
  | messaging result => result.toJson
  | transport result => result.toJson

def outcomeJson : Result → Json
  | storage result => result.outcomeJson
  | object result => result.outcomeJson
  | cache result => result.outcomeJson
  | messaging result => result.outcomeJson
  | transport result => result.outcomeJson

def toJson (result : Result) : Json := tagged "family" "result" result.family.name result.resultJson

def read? (part : Part) : Option Result := do
  let (name, result) ← part.tagged? "family" "result" Family.names
  match ← Family.ofName? name with
  | .storage => (neededField? Storage.Result.read? result).map storage
  | .object => (neededField? Objects.Result.read? result).map object
  | .cache => (neededField? Cache.Result.read? result).map cache
  | .messaging => (neededField? Messaging.Result.read? result).map messaging
  | .transport => (neededField? Transport.Result.read? result).map transport

def text (result : Result) : String := result.toJson.text

def ofJson? (value : Json) : Option Result := read? (.given value)

def ofText? (text : String) : Option Result :=
  (Source.ofText? text).bind fun source => read? (.written source Source.maxDepth)

def debug : Result → List Char
  | storage result => Form.applied "Storage" result.debug
  | object result => Form.applied "Object" result.debug
  | cache result => Form.applied "Cache" result.debug
  | messaging result => Form.applied "Messaging" result.debug
  | transport result => Form.applied "Transport" result.debug

def sameEntries : List Storage.Entry → List Storage.Entry → Bool
  | [], [] => true
  | entry :: rest, other :: others =>
      entry.key == other.key && entry.version == other.version && entry.value.same other.value &&
        sameEntries rest others
  | _, _ => false

-- Equality of results; zeros of documents are equal whatever their sign.
def same : Result → Result → Bool
  | storage (.lookup (.found value)), storage (.lookup (.found value')) => value.same value'
  | storage (.entries entries), storage (.entries entries') => sameEntries entries entries'
  | left, right => left == right

end Result
end EffectPrograms
