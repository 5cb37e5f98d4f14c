import EffectPrograms.Document
import EffectPrograms.Effect.Removal
import EffectPrograms.Json.Part

set_option autoImplicit false

namespace EffectPrograms.Storage
open Json Text

inductive Lookup where
  | found (value : Document)
  | notFound
deriving DecidableEq

-- A write either takes place at a version or meets another current version.
inductive Write where
  | written (version : Nat)
  | conflict (current : Option Nat)
deriving DecidableEq

structure Entry where
  key : String
  value : Document
  version : Nat
deriving DecidableEq

-- A put may expect a version, 0 standing for an absent record. A query scans the keys that begin
-- with a text.
inductive Request where
  | get (table key : String)
  | put (table key : String) (value : Document) (expectedVersion : Option Nat)
  | delete (table key : String)
  | query (table start : String) (limit : Option Nat)
deriving DecidableEq

inductive Result where
  | lookup (value : Lookup)
  | write (value : Write)
  | removal (value : Removal)
  | entries (value : List Entry)
deriving DecidableEq

namespace Request

def operation : Request → String
  | get .. => "get_record"
  | put .. => "put_record"
  | delete .. => "delete_record"
  | query .. => "query_records"

@[reducible] def Response : Request → Type
  | get .. => Lookup
  | put .. => Write
  | delete .. => Removal
  | query .. => List Entry

def accept? : (request : Request) → Result → Option request.Response
  | get .., .lookup value => some value
  | put .., .write value => some value
  | delete .., .removal value => some value
  | query .., .entries value => some value
  | _, _ => none

def answer : (request : Request) → request.Response → Result
  | get .., value => .lookup value
  | put .., value => .write value
  | delete .., value => .removal value
  | query .., value => .entries value

theorem accept?_answer (request : Request) (response : request.Response) :
    request.accept? (request.answer response) = some response := by
  cases request <;> rfl

theorem answer_of_accept? {request : Request} {result : Result} {response : request.Response}
    (accepted : request.accept? result = some response) : request.answer response = result := by
  cases request <;> cases result <;> cases accepted <;> rfl

def toJson : Request → Json
  | get table key =>
      .object [("op", .string "get"), ("table", .string table), ("key", .string key)]
  | put table key value expected =>
      .object [("op", .string "put"), ("table", .string table), ("key", .string key),
        ("value", value.json), ("expected_version", optional nat expected)]
  | delete table key =>
      .object [("op", .string "delete"), ("table", .string table), ("key", .string key)]
  | query table start limit =>
      .object [("op", .string "query"), ("table", .string table), ("prefix", .string start),
        ("limit", optional nat limit)]

def tags : List String := ["get", "put", "delete", "query"]

def read? (part : Part) : Option Request := do
  let (op, body) ← part.opened? "op" tags
  if op = "get" then
    let [table, key] ← body.fields? ["table", "key"] | none
    some (.get (← neededField? Part.text? table) (← neededField? Part.text? key))
  else if op = "put" then
    let [table, key, value, expected] ← body.fields? ["table", "key", "value", "expected_version"]
      | none
    some (.put (← neededField? Part.text? table) (← neededField? Part.text? key)
      (← neededField? Document.read? value) (← optionalField? (Part.bits? 64) expected))
  else if op = "delete" then
    let [table, key] ← body.fields? ["table", "key"] | none
    some (.delete (← neededField? Part.text? table) (← neededField? Part.text? key))
  else if op = "query" then
    let [table, start, limit] ← body.fields? ["table", "prefix", "limit"] | none
    some (.query (← neededField? Part.text? table) (← neededField? Part.text? start)
      (← optionalField? (Part.bits? 64) limit))
  else none

end Request

def Lookup.toJson : Lookup → Json
  | found value => tagged "status" "value" "found" value.json
  | notFound => .object [("status", .string "not_found")]

def Lookup.read? (part : Part) : Option Lookup := do
  let (status, content) ← part.tagged? "status" "value" ["found", "not_found"]
  if status = "found" then (neededField? Document.read? content).map found
  else if status = "not_found" then (emptyField? content).map fun _ => .notFound
  else none

def Lookup.debug : Lookup → List Char
  | found value => Form.applied "Found" value.json.debug
  | notFound => "NotFound".toList

def Write.toJson : Write → Json
  | written version => .object [("written", .object [("version", nat version)])]
  | conflict current => .object [("conflict", .object [("current", optional nat current)])]

def Write.read? (part : Part) : Option Write := do
  let (name, body) ← part.single?
  if name = "written" then
    let [version] ← body.body? ["version"] | none
    some (.written (← neededField? (Part.bits? 64) version))
  else if name = "conflict" then
    let [current] ← body.body? ["current"] | none
    some (.conflict (← optionalField? (Part.bits? 64) current))
  else none

def Write.debug : Write → List Char
  | written version => Form.record "Written" [("version", Nat.toDigits 10 version)]
  | conflict current =>
      Form.record "Conflict" [("current", Form.optional (current.map (Nat.toDigits 10)))]

def Entry.toJson (entry : Entry) : Json :=
  .object [("key", .string entry.key), ("value", entry.value.json), ("version", nat entry.version)]

def Entry.read? (part : Part) : Option Entry := do
  let [key, value, version] ← part.fields? ["key", "value", "version"] | none
  some ⟨← neededField? Part.text? key, ← neededField? Document.read? value,
    ← neededField? (Part.bits? 64) version⟩

def Entry.debug (entry : Entry) : List Char :=
  Form.record "Entry" [("key", Text.quoted entry.key), ("value", entry.value.json.debug),
    ("version", Nat.toDigits 10 entry.version)]

namespace Result

def outcomeJson : Result → Json
  | lookup value => value.toJson
  | write value => value.toJson
  | removal value => value.toJson
  | entries value => .array (value.map Entry.toJson)

def op : Result → String
  | lookup _ => "lookup"
  | write _ => "write"
  | removal _ => "removal"
  | entries _ => "entries"

def toJson (result : Result) : Json := tagged "op" "outcome" result.op result.outcomeJson

def tags : List String := ["lookup", "write", "removal", "entries"]

def read? (part : Part) : Option Result := do
  let (op, outcome) ← part.tagged? "op" "outcome" tags
  if op = "lookup" then (neededField? Lookup.read? outcome).map lookup
  else if op = "write" then (neededField? Write.read? outcome).map write
  else if op = "removal" then (neededField? Removal.read? outcome).map removal
  else if op = "entries" then (neededField? (Part.list? Entry.read?) outcome).map entries
  else none

def debug : Result → List Char
  | lookup value => Form.applied "Lookup" value.debug
  | write value => Form.applied "Write" value.debug
  | removal value => Form.applied "Removal" value.debug
  | entries value => Form.applied "Entries" (Form.list (value.map Entry.debug))

end Result
end EffectPrograms.Storage
