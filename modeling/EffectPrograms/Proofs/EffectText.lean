import EffectPrograms.Effect
import EffectPrograms.Proofs.Decoding

set_option autoImplicit false

namespace EffectPrograms
open Json

section
variable {manner : Manner}

namespace Storage.Request
variable {request : Request}

-- Versions and limits have 64 bits, and the numbers of a document are whole.
def InRange : Request → Prop
  | get .. | delete .. => True
  | put _ _ value expected => value.isExact = true ∧ ∀ version ∈ expected, Fits 64 version
  | query _ _ limit => ∀ count ∈ limit, Fits 64 count

theorem read?_part (inRange : request.InRange) (room : manner.Admits request.toJson) :
    read? (manner.part request.toJson) = some request := by
  cases request with
  | get table key =>
    rw [read?, toJson, opened?_part tags room (by simp)]
    simp [fields?_part, neededField?]
  | put table key value expected =>
    rw [read?, toJson, opened?_part tags room (by simp)]
    simp [fields?_part, neededField?, optionalField?, Document.read?_part,
      optionalBits?_part inRange.2]
  | delete table key =>
    rw [read?, toJson, opened?_part tags room (by simp)]
    simp [fields?_part, neededField?]
  | query table start limit =>
    rw [read?, toJson, opened?_part tags room (by simp)]
    simp [fields?_part, neededField?, optionalField?, optionalBits?_part inRange]

theorem isExact_toJson (inRange : request.InRange) : request.toJson.isExact = true := by
  cases request with
  | get table key | delete table key => rfl
  | put table key value expected =>
    have document : value.json.isExact = true := inRange.1
    simp [toJson, isExact, membersAreExact, document, isExact_optionalNat inRange.2]
  | query table start limit =>
    simp [toJson, isExact, membersAreExact, isExact_optionalNat inRange]

end Storage.Request

namespace Objects.Request

theorem read?_part {request : Request} (room : manner.Admits request.toJson) :
    read? (manner.part request.toJson) = some request := by
  cases request with
  | put bucket key body contentType =>
    rw [read?, toJson, opened?_part tags room (by simp)]
    simp [fields?_part, neededField?, optionalField?, bytes?_part, optionalText?_part]
  | get bucket key | delete bucket key =>
    rw [read?, toJson, opened?_part tags room (by simp)]
    simp [fields?_part, neededField?]
  | list bucket start =>
    rw [read?, toJson, opened?_part tags room (by simp)]
    simp [fields?_part, neededField?, optionalField?, optionalText?_part]

theorem isExact_toJson (request : Request) : request.toJson.isExact = true := by
  cases request with
  | get bucket key | delete bucket key => rfl
  | put bucket key body contentType =>
    simp [toJson, isExact, membersAreExact, isExact_bytes, isExact_optionalText]
  | list bucket start => simp [toJson, isExact, membersAreExact, isExact_optionalText]

end Objects.Request

namespace Cache.Request
variable {request : Request}

def InRange : Request → Prop
  | get .. | delete .. => True
  | set _ _ ttl => ∀ d ∈ ttl, d.InRange

theorem read?_part (inRange : request.InRange) (room : manner.Admits request.toJson) :
    read? (manner.part request.toJson) = some request := by
  cases request with
  | get key | delete key =>
    rw [read?, toJson, opened?_part tags room (by simp)]
    simp [fields?_part, neededField?]
  | set key value ttl =>
    rw [read?, toJson, opened?_part tags room (by simp)]
    simp [fields?_part, neededField?, optionalField?, bytes?_part,
      Duration.optional?_part inRange]

theorem isExact_toJson (inRange : request.InRange) : request.toJson.isExact = true := by
  cases request with
  | get key | delete key => rfl
  | set key value ttl =>
    simp [toJson, isExact, membersAreExact, isExact_bytes, Duration.isExact_optional inRange]

end Cache.Request

namespace Messaging

theorem readAttributeList?_map (entries : Entries String) :
    readAttributeList? (Entries.mapValues .string entries) = some entries := by
  induction entries with
  | nil => rfl
  | cons head rest ih =>
    rw [Entries.mapValues] at ih
    rw [Entries.mapValues, List.map_cons, readAttributeList?, ih, Option.map_some]

theorem attributes?_part {attributes : Dict String}
    (room : manner.Admits (attributesJson attributes)) :
    attributes? (manner.part (attributesJson attributes)) = some attributes := by
  have list := readAttributeList?_map attributes.entries
  have whole : Dict.ofList attributes.entries = attributes := by
    cases attributes with
    | mk entries sorted => simp [Dict.ofList, Entries.ofList_of_sorted sorted]
  rw [attributes?, value?_part room, Option.bind_some, attributesJson, readAttributes?]
  exact (congrArg (Option.map Dict.ofList) list).trans (congrArg some whole)

theorem membersAreExact_strings (entries : Entries String) :
    membersAreExact (Entries.mapValues .string entries) = true := by
  induction entries with
  | nil => rfl
  | cons head rest ih => exact ih

theorem isExact_attributesJson (attributes : Dict String) :
    (attributesJson attributes).isExact = true :=
  membersAreExact_strings attributes.entries

namespace Request

theorem read?_part {request : Request} (room : manner.Admits request.toJson) :
    read? (manner.part request.toJson) = some request := by
  cases request with
  | publish topic payload attributes =>
    rw [read?, toJson, opened?_part tags room (by simp)]
    simp [fields?_part, neededField?, bytes?_part, attributes?_part]
  | receive subscription =>
    rw [read?, toJson, opened?_part tags room (by simp)]
    simp [fields?_part, neededField?]
  | acknowledge subscription messageId =>
    rw [read?, toJson, opened?_part tags room (by simp)]
    simp [fields?_part, neededField?]

theorem isExact_toJson (request : Request) : request.toJson.isExact = true := by
  cases request with
  | receive subscription | acknowledge subscription messageId => rfl
  | publish topic payload attributes =>
    simp [toJson, isExact, membersAreExact, isExact_bytes, isExact_attributesJson]

end Request
end Messaging

namespace Transport

theorem Frame.read?_part {frame : Frame} (room : manner.Admits frame.toJson) :
    read? (manner.part frame.toJson) = some frame := by
  cases frame with
  | text data =>
    rw [Frame.read?, toJson, tagged?_part ["text", "binary"] room]
    simp [neededField?]
  | binary data =>
    rw [Frame.read?, toJson, tagged?_part ["text", "binary"] room]
    simp [neededField?, bytes?_part room.content]

theorem Frame.isExact_toJson (frame : Frame) : frame.toJson.isExact = true := by
  cases frame with
  | text data => exact isExact_tagged rfl
  | binary data => exact isExact_tagged (isExact_bytes data)

namespace Request
variable {request : Request}

def InRange : Request → Prop
  | send .. | receive .. => True
  | close _ code _ => Fits 16 code

theorem read?_part (inRange : request.InRange) (room : manner.Admits request.toJson) :
    read? (manner.part request.toJson) = some request := by
  cases request with
  | send connection frame =>
    rw [read?, toJson, opened?_part tags room (by simp)]
    simp [fields?_part, neededField?, Frame.read?_part]
  | receive connection =>
    rw [read?, toJson, opened?_part tags room (by simp)]
    simp [fields?_part, neededField?]
  | close connection code reason =>
    rw [read?, toJson, opened?_part tags room (by simp)]
    simp [fields?_part, neededField?, bits?_part (show Fits 16 code from inRange)]

theorem isExact_toJson (inRange : request.InRange) : request.toJson.isExact = true := by
  cases request with
  | send connection frame =>
    simp [toJson, isExact, membersAreExact, Frame.isExact_toJson]
  | receive connection => rfl
  | close connection code reason =>
    have wide : Fits 64 code := Fits.mono inRange (by decide)
    simp [toJson, isExact, membersAreExact, isExact_nat wide]

end Request
end Transport

namespace Effect
variable {effect : Effect}

def InRange : Effect → Prop
  | storage request => request.InRange
  | object _ => True
  | cache request => request.InRange
  | messaging _ => True
  | transport request => request.InRange

theorem read?_part (inRange : effect.InRange) (room : manner.Admits effect.toJson) :
    read? (manner.part effect.toJson) = some effect := by
  have inside : manner.inner.Admits effect.requestJson := room.content
  rw [read?, toJson, tagged?_part Family.names room]
  simp only [Option.bind_eq_bind, Option.bind_some, Family.ofName?_name]
  cases effect with
  | storage request =>
    exact congrArg (Option.map storage) (Storage.Request.read?_part inRange inside)
  | object request => exact congrArg (Option.map object) (Objects.Request.read?_part inside)
  | cache request =>
    exact congrArg (Option.map cache) (Cache.Request.read?_part inRange inside)
  | messaging request =>
    exact congrArg (Option.map messaging) (Messaging.Request.read?_part inside)
  | transport request =>
    exact congrArg (Option.map transport) (Transport.Request.read?_part inRange inside)

theorem isExact_toJson (inRange : effect.InRange) : effect.toJson.isExact = true := by
  refine isExact_tagged ?_
  cases effect with
  | storage request => exact Storage.Request.isExact_toJson inRange
  | object request => exact Objects.Request.isExact_toJson request
  | cache request => exact Cache.Request.isExact_toJson inRange
  | messaging request => exact Messaging.Request.isExact_toJson request
  | transport request => exact Transport.Request.isExact_toJson inRange

/-- An effect is read back from its own text, unless the text nests too deep. -/
theorem replayed_from_text (inRange : effect.InRange)
    (shallow : effect.toJson.depth ≤ Source.maxDepth) : ofText? effect.text = some effect := by
  have room : (Manner.written Source.maxDepth).Admits effect.toJson := shallow
  rw [ofText?, text, ofText?_text effect.toJson (isExact_toJson inRange), Option.bind_some]
  exact read?_part inRange room

theorem replayed_from_text_put :
    let lookalike : Json := .object [("family", .string "cache\n"),
      ("op", .array [.number (.whole (-0x8000000000000000)), .null])]
    let effect := Effect.storage
      (.put "users" "\"\x01é" (Document.ofJson lookalike) (some 0xffffffffffffffff))
    effect.InRange ∧ effect.toJson.depth = 4 ∧ ofText? effect.text = some effect := by
  intro lookalike effect
  have inRange : effect.InRange := ⟨by decide, by rintro _ ⟨⟩; decide⟩
  have depth : effect.toJson.depth = 4 := by decide
  exact ⟨inRange, depth, replayed_from_text inRange (by rw [depth]; decide)⟩

end Effect
end
end EffectPrograms
