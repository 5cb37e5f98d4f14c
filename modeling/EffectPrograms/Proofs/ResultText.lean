import EffectPrograms.Proofs.EffectText
import EffectPrograms.Proofs.Timestamps

set_option autoImplicit false

namespace EffectPrograms
open Json

section
variable {manner : Manner}

namespace Removal

theorem read?_part (removal : Removal) : read? (manner.part removal.toJson) = some removal := by
  cases removal with
  | removed | absent => simp [read?, toJson]

theorem isExact_toJson (removal : Removal) : removal.toJson.isExact = true := by
  cases removal <;> rfl

end Removal

namespace Storage

namespace Lookup
variable {lookup : Lookup}

def InRange : Lookup → Prop
  | found value => value.isExact = true
  | notFound => True

-- A document that is null is found all the same: its member stands in the text.
theorem read?_part (room : manner.Admits lookup.toJson) :
    read? (manner.part lookup.toJson) = some lookup := by
  cases lookup with
  | found value =>
    rw [read?, toJson, tagged?_part _ room]
    simp [neededField?, Document.read?_part room.content]
  | notFound =>
    rw [read?, toJson, tagged?_bare _ room]
    simp [emptyField?]

theorem isExact_toJson (inRange : lookup.InRange) : lookup.toJson.isExact = true := by
  cases lookup with
  | found value => exact isExact_tagged inRange
  | notFound => rfl

end Lookup

namespace Write
variable {write : Write}

def InRange : Write → Prop
  | written version => Fits 64 version
  | conflict current => ∀ version ∈ current, Fits 64 version

theorem read?_part (inRange : write.InRange) (room : manner.Admits write.toJson) :
    read? (manner.part write.toJson) = some write := by
  cases write with
  | written version =>
    have body := fields?_part ["version"] (room.member _ (List.mem_singleton_self _)) rfl (by simp)
    rw [read?, toJson, single?_part room]
    simp [body?_part, body, neededField?, bits?_part (show Fits 64 version from inRange)]
  | conflict current =>
    have body := fields?_part ["current"] (room.member _ (List.mem_singleton_self _)) rfl (by simp)
    rw [read?, toJson, single?_part room]
    simp [body?_part, body, optionalField?, optionalBits?_part inRange]

theorem isExact_toJson (inRange : write.InRange) : write.toJson.isExact = true := by
  cases write with
  | written version =>
    simp [toJson, isExact, membersAreExact, isExact_nat (show Fits 64 version from inRange)]
  | conflict current => simp [toJson, isExact, membersAreExact, isExact_optionalNat inRange]

end Write

namespace Entry
variable {entry : Entry}

structure InRange (entry : Entry) : Prop where
  value : entry.value.isExact = true
  version : Fits 64 entry.version

theorem read?_part (inRange : entry.InRange) (room : manner.Admits entry.toJson) :
    read? (manner.part entry.toJson) = some entry := by
  have document : manner.inner.Admits entry.value.json := room.member "value" (by simp)
  rw [read?, toJson, fields?_part ["key", "value", "version"] room rfl (by simp)]
  simp [neededField?, Document.read?_part document, bits?_part inRange.version]

theorem isExact_toJson (inRange : entry.InRange) : entry.toJson.isExact = true := by
  have document : entry.value.json.isExact = true := inRange.value
  simp [toJson, isExact, membersAreExact, document, isExact_nat inRange.version]

end Entry

namespace Result
variable {result : Result}

def InRange : Result → Prop
  | lookup value => value.InRange
  | write value => value.InRange
  | removal _ => True
  | entries value => ∀ entry ∈ value, entry.InRange

theorem read?_part (inRange : result.InRange) (room : manner.Admits result.toJson) :
    read? (manner.part result.toJson) = some result := by
  have inside : manner.inner.Admits result.outcomeJson := room.content
  rw [read?, toJson, tagged?_part tags room]
  cases result with
  | lookup value => exact congrArg (Option.map lookup) (Lookup.read?_part inside)
  | write value => exact congrArg (Option.map write) (Write.read?_part inRange inside)
  | removal value => exact congrArg (Option.map removal) value.read?_part
  | entries value =>
    exact congrArg (Option.map entries)
      (list?_part inside fun entry member => Entry.read?_part (inRange entry member))

theorem isExact_toJson (inRange : result.InRange) : result.toJson.isExact = true := by
  refine isExact_tagged ?_
  cases result with
  | lookup value => exact Lookup.isExact_toJson inRange
  | write value => exact Write.isExact_toJson inRange
  | removal value => exact value.isExact_toJson
  | entries value => exact areExact_map fun entry member => Entry.isExact_toJson (inRange entry member)

end Result
end Storage

namespace Objects

namespace Handle
variable {handle : Handle}

structure InRange (handle : Handle) : Prop where
  size : Fits 64 handle.size
  lastModified : handle.lastModified.Plain

theorem read?_part (inRange : handle.InRange) (room : manner.Admits handle.toJson) :
    read? (manner.part handle.toJson) = some handle := by
  rw [read?, toJson,
    fields?_part ["bucket", "key", "etag", "size", "content_type", "last_modified"] room rfl
      (by simp)]
  simp [neededField?, optionalField?, bits?_part inRange.size, optionalText?_part, timestamp?,
    Timestamp.read?_text inRange.lastModified]

theorem isExact_toJson (inRange : handle.InRange) : handle.toJson.isExact = true := by
  simp [toJson, isExact, membersAreExact, isExact_nat inRange.size, isExact_optionalText]

end Handle

namespace Stored
variable {object : Stored}

theorem read?_part (inRange : object.handle.InRange) (room : manner.Admits object.toJson) :
    read? (manner.part object.toJson) = some object := by
  have handle : manner.inner.Admits object.handle.toJson := room.member "handle" (by simp)
  have body : manner.inner.Admits (bytes object.body) := room.member "body" (by simp)
  rw [read?, toJson, fields?_part ["handle", "body"] room rfl (by simp)]
  simp [neededField?, Handle.read?_part inRange handle, bytes?_part body]

theorem isExact_toJson (inRange : object.handle.InRange) : object.toJson.isExact = true := by
  simp [toJson, isExact, membersAreExact, Handle.isExact_toJson inRange, isExact_bytes]

end Stored

namespace Fetch
variable {fetch : Fetch}

def InRange : Fetch → Prop
  | found item => item.handle.InRange
  | missing => True

theorem read?_part (inRange : fetch.InRange) (room : manner.Admits fetch.toJson) :
    read? (manner.part fetch.toJson) = some fetch := by
  cases fetch with
  | found item =>
    rw [read?, toJson, tagged?_part _ room]
    simp [neededField?, Stored.read?_part inRange room.content]
  | missing =>
    rw [read?, toJson, tagged?_bare _ room]
    simp [emptyField?]

theorem isExact_toJson (inRange : fetch.InRange) : fetch.toJson.isExact = true := by
  cases fetch with
  | found item => exact isExact_tagged (Stored.isExact_toJson inRange)
  | missing => rfl

end Fetch

namespace Result
variable {result : Result}

def InRange : Result → Prop
  | stored handle => handle.InRange
  | fetch value => value.InRange
  | removal _ => True
  | listing handles => ∀ handle ∈ handles, handle.InRange

theorem read?_part (inRange : result.InRange) (room : manner.Admits result.toJson) :
    read? (manner.part result.toJson) = some result := by
  have inside : manner.inner.Admits result.outcomeJson := room.content
  rw [read?, toJson, tagged?_part tags room]
  cases result with
  | stored handle => exact congrArg (Option.map stored) (Handle.read?_part inRange inside)
  | fetch value => exact congrArg (Option.map fetch) (Fetch.read?_part inRange inside)
  | removal value => exact congrArg (Option.map removal) value.read?_part
  | listing handles =>
    exact congrArg (Option.map listing)
      (list?_part inside fun handle member => Handle.read?_part (inRange handle member))

theorem isExact_toJson (inRange : result.InRange) : result.toJson.isExact = true := by
  refine isExact_tagged ?_
  cases result with
  | stored handle => exact Handle.isExact_toJson inRange
  | fetch value => exact Fetch.isExact_toJson inRange
  | removal value => exact value.isExact_toJson
  | listing handles =>
    exact areExact_map fun handle member => Handle.isExact_toJson (inRange handle member)

end Result
end Objects

namespace Cache

namespace Lookup
variable {lookup : Lookup}

theorem read?_part (room : manner.Admits lookup.toJson) :
    read? (manner.part lookup.toJson) = some lookup := by
  cases lookup with
  | hit value =>
    rw [read?, toJson, tagged?_part _ room]
    simp [neededField?, bytes?_part room.content]
  | miss =>
    rw [read?, toJson, tagged?_bare _ room]
    simp [emptyField?]

theorem isExact_toJson (lookup : Lookup) : lookup.toJson.isExact = true := by
  cases lookup with
  | hit value => exact isExact_tagged (isExact_bytes value)
  | miss => rfl

end Lookup

namespace Ack
variable {ack : Ack}

def InRange (ack : Ack) : Prop := ∀ d ∈ ack.ttl, d.InRange

theorem read?_part (inRange : ack.InRange) (room : manner.Admits ack.toJson) :
    read? (manner.part ack.toJson) = some ack := by
  have ttl : manner.inner.Admits (optional Duration.toJson ack.ttl) := room.member "ttl" (by simp)
  rw [read?, toJson, fields?_part ["ttl"] room rfl (by simp)]
  simp [optionalField?, Duration.optional?_part inRange ttl]

theorem isExact_toJson (inRange : ack.InRange) : ack.toJson.isExact = true := by
  simp [toJson, isExact, membersAreExact, Duration.isExact_optional inRange]

end Ack

namespace Result
variable {result : Result}

def InRange : Result → Prop
  | stored ack => ack.InRange
  | lookup _ | removal _ => True

theorem read?_part (inRange : result.InRange) (room : manner.Admits result.toJson) :
    read? (manner.part result.toJson) = some result := by
  have inside : manner.inner.Admits result.outcomeJson := room.content
  rw [read?, toJson, tagged?_part tags room]
  cases result with
  | lookup value => exact congrArg (Option.map lookup) (Lookup.read?_part inside)
  | stored ack => exact congrArg (Option.map stored) (Ack.read?_part inRange inside)
  | removal value => exact congrArg (Option.map removal) value.read?_part

theorem isExact_toJson (inRange : result.InRange) : result.toJson.isExact = true := by
  refine isExact_tagged ?_
  cases result with
  | lookup value => exact value.isExact_toJson
  | stored ack => exact Ack.isExact_toJson inRange
  | removal value => exact value.isExact_toJson

end Result
end Cache

namespace Messaging

namespace Delivery
variable {delivery : Delivery}

def InRange (delivery : Delivery) : Prop := Fits 64 delivery.fanout

theorem read?_part (inRange : delivery.InRange) (room : manner.Admits delivery.toJson) :
    read? (manner.part delivery.toJson) = some delivery := by
  have fanout : Fits 64 delivery.fanout := inRange
  rw [read?, toJson, fields?_part ["topic", "message_id", "fanout"] room rfl (by simp)]
  simp [neededField?, bits?_part fanout]

theorem isExact_toJson (inRange : delivery.InRange) : delivery.toJson.isExact = true := by
  have fanout : Fits 64 delivery.fanout := inRange
  simp [toJson, isExact, membersAreExact, isExact_nat fanout]

end Delivery

namespace Message
variable {message : Message}

def InRange (message : Message) : Prop := Fits 32 message.deliveryAttempt

theorem read?_part (inRange : message.InRange) (room : manner.Admits message.toJson) :
    read? (manner.part message.toJson) = some message := by
  have payload : manner.inner.Admits (bytes message.payload) := room.member "payload" (by simp)
  have attributes : manner.inner.Admits (attributesJson message.attributes) :=
    room.member "attributes" (by simp)
  have attempt : Fits 32 message.deliveryAttempt := inRange
  rw [read?, toJson,
    fields?_part ["message_id", "topic", "payload", "attributes", "delivery_attempt"] room rfl
      (by simp)]
  simp [neededField?, bytes?_part payload, attributes?_part attributes,
    bits?_part attempt]

theorem isExact_toJson (inRange : message.InRange) : message.toJson.isExact = true := by
  have attempt : Fits 64 message.deliveryAttempt := Fits.mono inRange (by decide)
  simp [toJson, isExact, membersAreExact, isExact_bytes, isExact_attributesJson,
    isExact_nat attempt]

end Message

namespace Inbox
variable {inbox : Inbox}

def InRange : Inbox → Prop
  | message value => value.InRange
  | empty => True

theorem read?_part (inRange : inbox.InRange) (room : manner.Admits inbox.toJson) :
    read? (manner.part inbox.toJson) = some inbox := by
  cases inbox with
  | message value =>
    rw [read?, toJson, tagged?_part _ room]
    simp [neededField?, Message.read?_part inRange room.content]
  | empty =>
    rw [read?, toJson, tagged?_bare _ room]
    simp [emptyField?]

theorem isExact_toJson (inRange : inbox.InRange) : inbox.toJson.isExact = true := by
  cases inbox with
  | message value => exact isExact_tagged (Message.isExact_toJson inRange)
  | empty => rfl

end Inbox

namespace AckStatus

theorem read?_part (status : AckStatus) : read? (manner.part status.toJson) = some status := by
  cases status <;> simp [read?, toJson]

theorem isExact_toJson (status : AckStatus) : status.toJson.isExact = true := by
  cases status <;> rfl

end AckStatus

namespace Result
variable {result : Result}

def InRange : Result → Prop
  | published delivery => delivery.InRange
  | received inbox => inbox.InRange
  | acknowledged _ => True

theorem read?_part (inRange : result.InRange) (room : manner.Admits result.toJson) :
    read? (manner.part result.toJson) = some result := by
  have inside : manner.inner.Admits result.outcomeJson := room.content
  rw [read?, toJson, tagged?_part tags room]
  cases result with
  | published delivery =>
    exact congrArg (Option.map published) (Delivery.read?_part inRange inside)
  | received inbox => exact congrArg (Option.map received) (Inbox.read?_part inRange inside)
  | acknowledged status => exact congrArg (Option.map acknowledged) status.read?_part

theorem isExact_toJson (inRange : result.InRange) : result.toJson.isExact = true := by
  refine isExact_tagged ?_
  cases result with
  | published delivery => exact Delivery.isExact_toJson inRange
  | received inbox => exact Inbox.isExact_toJson inRange
  | acknowledged status => exact status.isExact_toJson

end Result
end Messaging

namespace Transport

namespace SendStatus

theorem read?_part (status : SendStatus) : read? (manner.part status.toJson) = some status := by
  cases status <;> simp [read?, toJson]

theorem isExact_toJson (status : SendStatus) : status.toJson.isExact = true := by
  cases status <;> rfl

end SendStatus

namespace Incoming
variable {incoming : Incoming}

theorem read?_part (room : manner.Admits incoming.toJson) :
    read? (manner.part incoming.toJson) = some incoming := by
  cases incoming with
  | frame value =>
    rw [read?, toJson, tagged?_part _ room]
    simp [neededField?, Frame.read?_part room.content]
  | closed =>
    rw [read?, toJson, tagged?_bare _ room]
    simp [emptyField?]

theorem isExact_toJson (incoming : Incoming) : incoming.toJson.isExact = true := by
  cases incoming with
  | frame value => exact isExact_tagged value.isExact_toJson
  | closed => rfl

end Incoming

namespace CloseStatus

theorem read?_part (status : CloseStatus) : read? (manner.part status.toJson) = some status := by
  cases status <;> simp [read?, toJson]

theorem isExact_toJson (status : CloseStatus) : status.toJson.isExact = true := by
  cases status <;> rfl

end CloseStatus

namespace Result

theorem read?_part {result : Result} (room : manner.Admits result.toJson) :
    read? (manner.part result.toJson) = some result := by
  have inside : manner.inner.Admits result.outcomeJson := room.content
  rw [read?, toJson, tagged?_part tags room]
  cases result with
  | sent status => exact congrArg (Option.map sent) status.read?_part
  | received incoming => exact congrArg (Option.map received) (Incoming.read?_part inside)
  | closed status => exact congrArg (Option.map closed) status.read?_part

theorem isExact_toJson (result : Result) : result.toJson.isExact = true := by
  refine isExact_tagged ?_
  cases result with
  | sent status => exact status.isExact_toJson
  | received incoming => exact incoming.isExact_toJson
  | closed status => exact status.isExact_toJson

end Result
end Transport

namespace Result
variable {result : Result}

def InRange : Result → Prop
  | storage result => result.InRange
  | object result => result.InRange
  | cache result => result.InRange
  | messaging result => result.InRange
  | transport _ => True

theorem read?_part (inRange : result.InRange) (room : manner.Admits result.toJson) :
    read? (manner.part result.toJson) = some result := by
  have inside : manner.inner.Admits result.resultJson := room.content
  rw [read?, toJson, tagged?_part Family.names room]
  simp only [Option.bind_eq_bind, Option.bind_some, Family.ofName?_name]
  cases result with
  | storage result =>
    exact congrArg (Option.map storage) (Storage.Result.read?_part inRange inside)
  | object result => exact congrArg (Option.map object) (Objects.Result.read?_part inRange inside)
  | cache result => exact congrArg (Option.map cache) (Cache.Result.read?_part inRange inside)
  | messaging result =>
    exact congrArg (Option.map messaging) (Messaging.Result.read?_part inRange inside)
  | transport result =>
    exact congrArg (Option.map transport) (Transport.Result.read?_part inside)

theorem isExact_toJson (inRange : result.InRange) : result.toJson.isExact = true := by
  refine isExact_tagged ?_
  cases result with
  | storage result => exact Storage.Result.isExact_toJson inRange
  | object result => exact Objects.Result.isExact_toJson inRange
  | cache result => exact Cache.Result.isExact_toJson inRange
  | messaging result => exact Messaging.Result.isExact_toJson inRange
  | transport result => exact Transport.Result.isExact_toJson result

/-- A result is read back from its own text, unless the text nests too deep. -/
theorem restored_from_text (inRange : result.InRange)
    (shallow : result.toJson.depth ≤ Source.maxDepth) : ofText? result.text = some result := by
  have room : (Manner.written Source.maxDepth).Admits result.toJson := shallow
  rw [ofText?, text, ofText?_text result.toJson (isExact_toJson inRange), Option.bind_some]
  exact read?_part inRange room

theorem restored_from_text_listing :
    let leapDay : Timestamp := ⟨⟨⟨0, 2, 29⟩, 23, 59, 59, 1⟩, by decide⟩
    let lastDay : Timestamp := ⟨⟨⟨9999, 12, 31⟩, 0, 5, 0, 500000000⟩, by decide⟩
    let result := Result.object (.listing
      [⟨"b", "k1", "", 0xffffffffffffffff, none, leapDay⟩, ⟨"b", "é\n", "e", 0, some "", lastDay⟩])
    result.InRange ∧ result.toJson.depth = 4 ∧ ofText? result.text = some result := by
  intro leapDay lastDay result
  have inRange : result.InRange := by
    intro handle member
    simp only [List.mem_cons, List.not_mem_nil, or_false] at member
    rcases member with rfl | rfl
    · exact ⟨by decide, by decide, by decide, by decide⟩
    · exact ⟨by decide, by decide, by decide, by decide⟩
  have depth : result.toJson.depth = 4 := by decide
  exact ⟨inRange, depth, restored_from_text inRange (by rw [depth]; decide)⟩

end Result
end
end EffectPrograms
