import EffectPrograms.Duration
import EffectPrograms.Effect.Removal
import EffectPrograms.Json.Part
import EffectPrograms.Text.Form

set_option autoImplicit false

namespace EffectPrograms.Cache
open Json Text

inductive Lookup where
  | hit (value : Bytes)
  | miss
deriving DecidableEq

structure Ack where
  ttl : Option Duration
deriving DecidableEq

-- A write without an expiry leaves it to the interpreter.
inductive Request where
  | get (key : String)
  | set (key : String) (value : Bytes) (ttl : Option Duration)
  | delete (key : String)
deriving DecidableEq

inductive Result where
  | lookup (value : Lookup)
  | stored (ack : Ack)
  | removal (value : Removal)
deriving DecidableEq

namespace Request

def operation : Request → String
  | get .. => "get"
  | set .. => "set"
  | delete .. => "delete"

@[reducible] def Response : Request → Type
  | get .. => Lookup
  | set .. => Ack
  | delete .. => Removal

def accept? : (request : Request) → Result → Option request.Response
  | get .., .lookup value => some value
  | set .., .stored ack => some ack
  | delete .., .removal value => some value
  | _, _ => none

def answer : (request : Request) → request.Response → Result
  | get .., value => .lookup value
  | set .., ack => .stored ack
  | delete .., value => .removal value

theorem accept?_answer (request : Request) (response : request.Response) :
    request.accept? (request.answer response) = some response := by
  cases request <;> rfl

theorem answer_of_accept? {request : Request} {result : Result} {response : request.Response}
    (accepted : request.accept? result = some response) : request.answer response = result := by
  cases request <;> cases result <;> cases accepted <;> rfl

def toJson : Request → Json
  | get key => .object [("op", .string "get"), ("key", .string key)]
  | set key value ttl =>
      .object [("op", .string "set"), ("key", .string key), ("value", bytes value),
        ("ttl", optional Duration.toJson ttl)]
  | delete key => .object [("op", .string "delete"), ("key", .string key)]

def tags : List String := ["get", "set", "delete"]

def read? (part : Part) : Option Request := do
  let (op, body) ← part.opened? "op" tags
  if op = "get" then
    let [key] ← body.fields? ["key"] | none
    some (.get (← neededField? Part.text? key))
  else if op = "set" then
    let [key, value, ttl] ← body.fields? ["key", "value", "ttl"] | none
    some (.set (← neededField? Part.text? key) (← neededField? Part.bytes? value)
      (← optionalField? Duration.read? ttl))
  else if op = "delete" then
    let [key] ← body.fields? ["key"] | none
    some (.delete (← neededField? Part.text? key))
  else none

end Request

def Lookup.toJson : Lookup → Json
  | hit value => tagged "status" "value" "hit" (bytes value)
  | miss => .object [("status", .string "miss")]

def Lookup.read? (part : Part) : Option Lookup := do
  let (status, content) ← part.tagged? "status" "value" ["hit", "miss"]
  if status = "hit" then (neededField? Part.bytes? content).map hit
  else if status = "miss" then (emptyField? content).map fun _ => .miss
  else none

def Lookup.debug : Lookup → List Char
  | hit value => Form.applied "Hit" value.quoted
  | miss => "Miss".toList

def Ack.toJson (ack : Ack) : Json := .object [("ttl", optional Duration.toJson ack.ttl)]

def Ack.read? (part : Part) : Option Ack := do
  let [ttl] ← part.fields? ["ttl"] | none
  some ⟨← optionalField? Duration.read? ttl⟩

def Ack.debug (ack : Ack) : List Char :=
  Form.record "CacheAck" [("ttl", Form.optional (ack.ttl.map Duration.debug))]

namespace Result

def outcomeJson : Result → Json
  | lookup value => value.toJson
  | stored ack => ack.toJson
  | removal value => value.toJson

def op : Result → String
  | lookup _ => "lookup"
  | stored _ => "stored"
  | removal _ => "removal"

def toJson (result : Result) : Json := tagged "op" "outcome" result.op result.outcomeJson

def tags : List String := ["lookup", "stored", "removal"]

def read? (part : Part) : Option Result := do
  let (op, outcome) ← part.tagged? "op" "outcome" tags
  if op = "lookup" then (neededField? Lookup.read? outcome).map lookup
  else if op = "stored" then (neededField? Ack.read? outcome).map stored
  else if op = "removal" then (neededField? Removal.read? outcome).map removal
  else none

def debug : Result → List Char
  | lookup value => Form.applied "Lookup" value.debug
  | stored ack => Form.applied "Stored" ack.debug
  | removal value => Form.applied "Removal" value.debug

end Result
end EffectPrograms.Cache
