import EffectPrograms.Json.Part
import EffectPrograms.Text.Form

set_option autoImplicit false

namespace EffectPrograms.Transport
open Json Text

inductive Frame where
  | text (data : String)
  | binary (data : Bytes)
deriving DecidableEq

def Frame.size : Frame → Nat
  | .text data => (Bytes.ofText data).length
  | .binary data => data.length

inductive SendStatus where
  | delivered
  | closed
deriving DecidableEq

inductive Incoming where
  | frame (frame : Frame)
  | closed
deriving DecidableEq

inductive CloseStatus where
  | closed
  | alreadyClosed
deriving DecidableEq

inductive Request where
  | send (connection : String) (frame : Frame)
  | receive (connection : String)
  | close (connection : String) (code : Nat) (reason : String)
deriving DecidableEq

inductive Result where
  | sent (status : SendStatus)
  | received (incoming : Incoming)
  | closed (status : CloseStatus)
deriving DecidableEq

def Frame.toJson : Frame → Json
  | .text data => tagged "kind" "data" "text" (.string data)
  | .binary data => tagged "kind" "data" "binary" (bytes data)

def Frame.read? (part : Part) : Option Frame := do
  let (kind, data) ← part.tagged? "kind" "data" ["text", "binary"]
  if kind = "text" then (neededField? Part.text? data).map .text
  else if kind = "binary" then (neededField? Part.bytes? data).map .binary
  else none

def Frame.debug : Frame → List Char
  | .text data => Form.applied "Text" (quoted data)
  | .binary data => Form.applied "Binary" data.quoted

namespace Request

def operation : Request → String
  | send .. => "send_frame"
  | receive .. => "receive_frame"
  | close .. => "close_connection"

def connection : Request → String
  | send connection _ => connection
  | receive connection => connection
  | close connection _ _ => connection

def normalCode : Nat := 1000

@[reducible] def Response : Request → Type
  | send .. => SendStatus
  | receive .. => Incoming
  | close .. => CloseStatus

def accept? : (request : Request) → Result → Option request.Response
  | send .., .sent status => some status
  | receive .., .received incoming => some incoming
  | close .., .closed status => some status
  | _, _ => none

def answer : (request : Request) → request.Response → Result
  | send .., status => .sent status
  | receive .., incoming => .received incoming
  | close .., status => .closed status

theorem accept?_answer (request : Request) (response : request.Response) :
    request.accept? (request.answer response) = some response := by
  cases request <;> rfl

theorem answer_of_accept? {request : Request} {result : Result} {response : request.Response}
    (accepted : request.accept? result = some response) : request.answer response = result := by
  cases request <;> cases result <;> cases accepted <;> rfl

def toJson : Request → Json
  | send connection frame =>
      .object [("op", .string "send"), ("connection", .string connection), ("frame", frame.toJson)]
  | receive connection => .object [("op", .string "receive"), ("connection", .string connection)]
  | close connection code reason =>
      .object [("op", .string "close"), ("connection", .string connection), ("code", nat code),
        ("reason", .string reason)]

def tags : List String := ["send", "receive", "close"]

def read? (part : Part) : Option Request := do
  let (op, body) ← part.opened? "op" tags
  if op = "send" then
    let [connection, frame] ← body.fields? ["connection", "frame"] | none
    some (.send (← neededField? Part.text? connection) (← neededField? Frame.read? frame))
  else if op = "receive" then
    let [connection] ← body.fields? ["connection"] | none
    some (.receive (← neededField? Part.text? connection))
  else if op = "close" then
    let [connection, code, reason] ← body.fields? ["connection", "code", "reason"] | none
    some (.close (← neededField? Part.text? connection)
      (← neededField? (Part.bits? 16) code) (← neededField? Part.text? reason))
  else none

end Request

def SendStatus.toJson : SendStatus → Json
  | delivered => .string "delivered"
  | closed => .string "closed"

def SendStatus.read? (part : Part) : Option SendStatus := do
  let name ← part.name?
  if name = "delivered" then some delivered
  else if name = "closed" then some closed
  else none

def SendStatus.debug : SendStatus → List Char
  | delivered => "Delivered".toList
  | closed => "Closed".toList

def Incoming.toJson : Incoming → Json
  | frame value => tagged "status" "frame" "frame" value.toJson
  | closed => .object [("status", .string "closed")]

def Incoming.read? (part : Part) : Option Incoming := do
  let (status, content) ← part.tagged? "status" "frame" ["frame", "closed"]
  if status = "frame" then (neededField? Frame.read? content).map frame
  else if status = "closed" then (emptyField? content).map fun _ => .closed
  else none

def Incoming.debug : Incoming → List Char
  | frame value => Form.applied "Frame" value.debug
  | closed => "Closed".toList

def CloseStatus.toJson : CloseStatus → Json
  | closed => .string "closed"
  | alreadyClosed => .string "already_closed"

def CloseStatus.read? (part : Part) : Option CloseStatus := do
  let name ← part.name?
  if name = "closed" then some closed
  else if name = "already_closed" then some alreadyClosed
  else none

def CloseStatus.debug : CloseStatus → List Char
  | closed => "Closed".toList
  | alreadyClosed => "AlreadyClosed".toList

namespace Result

def outcomeJson : Result → Json
  | sent status => status.toJson
  | received incoming => incoming.toJson
  | closed status => status.toJson

def op : Result → String
  | sent _ => "sent"
  | received _ => "received"
  | closed _ => "closed"

def toJson (result : Result) : Json := tagged "op" "outcome" result.op result.outcomeJson

def tags : List String := ["sent", "received", "closed"]

def read? (part : Part) : Option Result := do
  let (op, outcome) ← part.tagged? "op" "outcome" tags
  if op = "sent" then (neededField? SendStatus.read? outcome).map sent
  else if op = "received" then (neededField? Incoming.read? outcome).map received
  else if op = "closed" then (neededField? CloseStatus.read? outcome).map closed
  else none

def debug : Result → List Char
  | sent status => Form.applied "Sent" status.debug
  | received incoming => Form.applied "Received" incoming.debug
  | closed status => Form.applied "Closed" status.debug

end Result
end EffectPrograms.Transport
