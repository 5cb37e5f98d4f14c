import EffectPrograms.Effect.Removal
import EffectPrograms.Json.Part
import EffectPrograms.Text.Form
import EffectPrograms.Timestamp

set_option autoImplicit false

namespace EffectPrograms.Objects
open Json Text

structure Handle where
  bucket : String
  key : String
  etag : String
  size : Nat
  contentType : Option String
  lastModified : Timestamp
deriving DecidableEq

structure Stored where
  handle : Handle
  body : Bytes
deriving DecidableEq

inductive Fetch where
  | found (object : Stored)
  | missing
deriving DecidableEq

inductive Request where
  | put (bucket key : String) (body : Bytes) (contentType : Option String)
  | get (bucket key : String)
  | delete (bucket key : String)
  | list (bucket : String) (start : Option String)
deriving DecidableEq

inductive Result where
  | stored (handle : Handle)
  | fetch (value : Fetch)
  | removal (value : Removal)
  | listing (handles : List Handle)
deriving DecidableEq

namespace Request

def operation : Request → String
  | put .. => "put_object"
  | get .. => "get_object"
  | delete .. => "delete_object"
  | list .. => "list_objects"

@[reducible] def Response : Request → Type
  | put .. => Handle
  | get .. => Fetch
  | delete .. => Removal
  | list .. => List Handle

def accept? : (request : Request) → Result → Option request.Response
  | put .., .stored handle => some handle
  | get .., .fetch value => some value
  | delete .., .removal value => some value
  | list .., .listing handles => some handles
  | _, _ => none

def answer : (request : Request) → request.Response → Result
  | put .., handle => .stored handle
  | get .., value => .fetch value
  | delete .., value => .removal value
  | list .., handles => .listing handles

theorem accept?_answer (request : Request) (response : request.Response) :
    request.accept? (request.answer response) = some response := by
  cases request <;> rfl

theorem answer_of_accept? {request : Request} {result : Result} {response : request.Response}
    (accepted : request.accept? result = some response) : request.answer response = result := by
  cases request <;> cases result <;> cases accepted <;> rfl

def toJson : Request → Json
  | put bucket key body contentType =>
      .object [("op", .string "put"), ("bucket", .string bucket), ("key", .string key),
        ("body", bytes body), ("content_type", optional .string contentType)]
  | get bucket key =>
      .object [("op", .string "get"), ("bucket", .string bucket), ("key", .string key)]
  | delete bucket key =>
      .object [("op", .string "delete"), ("bucket", .string bucket), ("key", .string key)]
  | list bucket start =>
      .object [("op", .string "list"), ("bucket", .string bucket),
        ("prefix", optional .string start)]

def tags : List String := ["put", "get", "delete", "list"]

def read? (part : Part) : Option Request := do
  let (op, body) ← part.opened? "op" tags
  if op = "put" then
    let [bucket, key, content, contentType] ←
      body.fields? ["bucket", "key", "body", "content_type"] | none
    some (.put (← neededField? Part.text? bucket) (← neededField? Part.text? key)
      (← neededField? Part.bytes? content) (← optionalField? Part.text? contentType))
  else if op = "get" then
    let [bucket, key] ← body.fields? ["bucket", "key"] | none
    some (.get (← neededField? Part.text? bucket) (← neededField? Part.text? key))
  else if op = "delete" then
    let [bucket, key] ← body.fields? ["bucket", "key"] | none
    some (.delete (← neededField? Part.text? bucket) (← neededField? Part.text? key))
  else if op = "list" then
    let [bucket, start] ← body.fields? ["bucket", "prefix"] | none
    some (.list (← neededField? Part.text? bucket) (← optionalField? Part.text? start))
  else none

end Request

def timestamp? (part : Part) : Option Timestamp := part.text?.bind Timestamp.read?

def Handle.toJson (handle : Handle) : Json :=
  .object [("bucket", .string handle.bucket), ("key", .string handle.key),
    ("etag", .string handle.etag), ("size", nat handle.size),
    ("content_type", optional .string handle.contentType),
    ("last_modified", .string handle.lastModified.text)]

def Handle.read? (part : Part) : Option Handle := do
  let [bucket, key, etag, size, contentType, lastModified] ←
    part.fields? ["bucket", "key", "etag", "size", "content_type", "last_modified"] | none
  some ⟨← neededField? Part.text? bucket, ← neededField? Part.text? key,
    ← neededField? Part.text? etag, ← neededField? (Part.bits? 64) size,
    ← optionalField? Part.text? contentType, ← neededField? timestamp? lastModified⟩

def Handle.debug (handle : Handle) : List Char :=
  Form.record "ObjectHandle" [("bucket", quoted handle.bucket), ("key", quoted handle.key),
    ("etag", quoted handle.etag), ("size", Nat.toDigits 10 handle.size),
    ("content_type", Form.optional (handle.contentType.map quoted)),
    ("last_modified", handle.lastModified.written)]

def Stored.toJson (object : Stored) : Json :=
  .object [("handle", object.handle.toJson), ("body", bytes object.body)]

def Stored.read? (part : Part) : Option Stored := do
  let [handle, body] ← part.fields? ["handle", "body"] | none
  some ⟨← neededField? Handle.read? handle, ← neededField? Part.bytes? body⟩

def Stored.debug (object : Stored) : List Char :=
  Form.record "StoredObject" [("handle", object.handle.debug), ("body", object.body.quoted)]

def Fetch.toJson : Fetch → Json
  | found item => tagged "status" "object" "found" item.toJson
  | missing => .object [("status", .string "missing")]

def Fetch.read? (part : Part) : Option Fetch := do
  let (status, content) ← part.tagged? "status" "object" ["found", "missing"]
  if status = "found" then (neededField? Stored.read? content).map found
  else if status = "missing" then (emptyField? content).map fun _ => .missing
  else none

def Fetch.debug : Fetch → List Char
  | found item => Form.applied "Found" item.debug
  | missing => "Missing".toList

namespace Result

def outcomeJson : Result → Json
  | stored handle => handle.toJson
  | fetch value => value.toJson
  | removal value => value.toJson
  | listing handles => .array (handles.map Handle.toJson)

def op : Result → String
  | stored _ => "stored"
  | fetch _ => "fetch"
  | removal _ => "removal"
  | listing _ => "listing"

def toJson (result : Result) : Json := tagged "op" "outcome" result.op result.outcomeJson

def tags : List String := ["stored", "fetch", "removal", "listing"]

def read? (part : Part) : Option Result := do
  let (op, outcome) ← part.tagged? "op" "outcome" tags
  if op = "stored" then (neededField? Handle.read? outcome).map stored
  else if op = "fetch" then (neededField? Fetch.read? outcome).map fetch
  else if op = "removal" then (neededField? Removal.read? outcome).map removal
  else if op = "listing" then (neededField? (Part.list? Handle.read?) outcome).map listing
  else none

def debug : Result → List Char
  | stored handle => Form.applied "Stored" handle.debug
  | fetch value => Form.applied "Fetch" value.debug
  | removal value => Form.applied "Removal" value.debug
  | listing handles => Form.applied "Listing" (Form.list (handles.map Handle.debug))

end Result
end EffectPrograms.Objects
