import EffectPrograms.Duration
import EffectPrograms.Proofs.RoundTrip

set_option autoImplicit false

namespace EffectPrograms
namespace Json

def Fits (bits n : Nat) : Prop := n < Nat.pow 2 bits

instance (bits n : Nat) : Decidable (Fits bits n) :=
  inferInstanceAs (Decidable (n < Nat.pow 2 bits))

theorem Fits.mono {few many n : Nat} (fits : Fits few n) (fewer : few ≤ many) : Fits many n :=
  Nat.lt_of_lt_of_le fits (Nat.pow_le_pow_right (by decide) fewer)

-- How a written value is come by.
inductive Manner where
  | written (depth : Nat)
  | held
  | given

namespace Manner

def part : Manner → Json → Part
  | written depth, value => .written value.source depth
  | held, value => .held value
  | given, value => .given value

-- How the values inside a value are come by.
def inner : Manner → Manner
  | written depth => written (depth - 1)
  | held => held
  | given => given

-- A text limits the nesting of what it writes.
def Admits : Manner → Json → Prop
  | written depth, value => value.depth ≤ depth
  | held, _ | given, _ => True

@[simp] theorem admits_held (value : Json) : Manner.held.Admits value := trivial

@[simp] theorem inner_held : Manner.held.inner = .held := rfl

theorem depth_le_of_mem_items {items : List Json} {item : Json} (member : item ∈ items) :
    item.depth ≤ depthOfItems items := by
  induction items with
  | nil => cases member
  | cons head rest ih =>
    rcases List.mem_cons.mp member with rfl | later
    · exact Nat.le_max_left ..
    · exact Nat.le_trans (ih later) (Nat.le_max_right ..)

theorem depth_le_of_mem_members {members : List (String × Json)} {entry : String × Json}
    (member : entry ∈ members) : entry.2.depth ≤ depthOfMembers members := by
  induction members with
  | nil => cases member
  | cons head rest ih =>
    rcases List.mem_cons.mp member with rfl | later
    · exact Nat.le_max_left ..
    · exact Nat.le_trans (ih later) (Nat.le_max_right ..)

variable {manner : Manner}

theorem Admits.item {items : List Json} {item : Json} (room : manner.Admits (.array items))
    (member : item ∈ items) : manner.inner.Admits item := by
  cases manner with
  | written depth =>
    exact Nat.le_sub_one_of_lt (Nat.lt_of_le_of_lt (depth_le_of_mem_items member) room)
  | held | given => trivial

theorem Admits.member {members : List (String × Json)} {value : Json}
    (room : manner.Admits (.object members)) (name : String) (member : (name, value) ∈ members) :
    manner.inner.Admits value := by
  cases manner with
  | written depth =>
    exact Nat.le_sub_one_of_lt (Nat.lt_of_le_of_lt (depth_le_of_mem_members member) room)
  | held | given => trivial

theorem Admits.content {tag content name : String} {value : Json}
    (room : manner.Admits (tagged tag content name value)) : manner.inner.Admits value :=
  room.member content
    (List.mem_cons_of_mem (tag, .string name) (List.mem_singleton_self (content, value)))

theorem opens {depth inside : Nat} (room : inside + 1 ≤ depth) : ∃ left, depth = left + 1 :=
  ⟨depth - 1, by omega⟩

end Manner

section Simple
variable {α : Type} {manner : Manner}

theorem value?_part {value : Json} (room : manner.Admits value) :
    (manner.part value).value? = some value := by
  cases manner with
  | written depth => exact (value?_source value depth).trans (if_pos room)
  | held | given => rfl

theorem admits_string (text : String) : manner.Admits (.string text) := by
  cases manner with
  | written depth => exact Nat.zero_le depth
  | held | given => trivial

theorem admits_nat (n : Nat) : manner.Admits (nat n) := by
  cases manner with
  | written depth => exact Nat.zero_le depth
  | held | given => trivial

@[simp] theorem text?_part (text : String) : (manner.part (.string text)).text? = some text := by
  rw [Part.text?, value?_part (admits_string text)]
  rfl

@[simp] theorem name?_part (name : String) : (manner.part (.string name)).name? = some name := by
  rw [Part.name?, value?_part (admits_string name)]
  rfl

theorem bits?_part {bits n : Nat} (fits : Fits bits n) :
    (manner.part (nat n)).bits? bits = some n := by
  rw [Part.bits?, value?_part (admits_nat n)]
  exact if_pos fits

theorem isNull_part {value : Json} (solid : value ≠ .null) :
    (manner.part value).isNull = false := by
  cases manner <;> cases value <;> first | rfl | exact absurd rfl solid

theorem isNull_null : (manner.part .null).isNull = true := by
  cases manner <;> rfl

theorem readAll?_map {β : Type} {read : β → Option α} {write : α → β} {values : List α}
    (back : ∀ value ∈ values, read (write value) = some value) :
    readAll? read (values.map write) = some values := by
  induction values with
  | nil => rfl
  | cons first rest ih =>
    have others := ih fun value member => back value (List.mem_cons_of_mem _ member)
    simp [readAll?, back first List.mem_cons_self, others]

theorem readByte?_nat (b : UInt8) : readByte? (nat b.toNat) = some b := by
  have small : b.toNat < 256 := b.toNat_lt
  simp [readByte?, nat, readBelow?, small]

theorem bytes?_part {bytes : Bytes} (room : manner.Admits (Json.bytes bytes)) :
    (manner.part (Json.bytes bytes)).bytes? = some bytes := by
  have read : readBytes? (Json.bytes bytes) = some bytes :=
    readAll?_map fun b _ => readByte?_nat b
  have value : (manner.part (Json.bytes bytes)).value?.bind readBytes? = some bytes := by
    rw [value?_part room]
    exact read
  cases manner <;> exact value

theorem optional?_part {write : α → Json} {read : Part → Option α} {value : Option α}
    (solid : ∀ known, write known ≠ .null)
    (back : ∀ known ∈ value, read (manner.part (write known)) = some known) :
    (manner.part (optional write value)).optional? read = some value := by
  cases value with
  | none => rw [Part.optional?, optional, if_pos isNull_null]
  | some known =>
    rw [Part.optional?, optional, if_neg (by simp [isNull_part (solid known)]), back known rfl]
    rfl

theorem optionalText?_part (value : Option String) :
    (manner.part (optional .string value)).optional? Part.text? = some value :=
  optional?_part (by simp) fun text _ => text?_part text

theorem optionalBits?_part {bits : Nat} {value : Option Nat} (fits : ∀ n ∈ value, Fits bits n) :
    (manner.part (optional nat value)).optional? (Part.bits? bits) = some value :=
  optional?_part (by simp [nat]) fun n known => bits?_part (fits n known)

end Simple

section Containers
variable {α : Type} {manner : Manner}

theorem sources_eq_map (items : List Json) : sources items = items.map source := by
  induction items with
  | nil => rfl
  | cons item rest ih => rw [sources, ih, List.map_cons]

theorem items?_part {items : List Json} (room : manner.Admits (.array items)) :
    (manner.part (.array items)).items? = some (items.map manner.inner.part) := by
  cases manner with
  | written depth =>
    obtain ⟨left, rfl⟩ := Manner.opens room
    simp [Manner.part, source, Part.items?, sources_eq_map, Manner.inner]
  | held | given => rfl

theorem list?_part {write : α → Json} {read : Part → Option α} {values : List α}
    (room : manner.Admits (.array (values.map write)))
    (back : ∀ value ∈ values, manner.inner.Admits (write value) →
      read (manner.inner.part (write value)) = some value) :
    (manner.part (.array (values.map write))).list? read = some values := by
  rw [Part.list?, items?_part room, List.map_map]
  exact readAll?_map fun value member =>
    back value member (room.item (List.mem_map_of_mem member))

theorem writtenMembers?_source {names : List String} {members : List (String × Json)}
    (known : ∀ member ∈ members, member.1 ∈ names) (depth : Nat) :
    Part.writtenMembers? names depth (sourceMembers members) =
      some (members.map fun member => (member.1, .written member.2.source depth)) := by
  induction members with
  | nil => rfl
  | cons head rest ih =>
    rcases head with ⟨name, value⟩
    have here : name ∈ names := known (name, value) List.mem_cons_self
    have others := ih fun member found => known member (List.mem_cons_of_mem _ found)
    simp [sourceMembers, Part.writtenMembers?, plainLiteral, Literal.text?_plain, others, here]

theorem keptMembers_of_known {names : List String} {members : List (String × Json)}
    (known : ∀ member ∈ members, member.1 ∈ names) : Part.keptMembers names members = members :=
  List.filter_eq_self.mpr fun member found => List.contains_iff_mem.mpr (known member found)

theorem members?_part (names : List String) {members : List (String × Json)}
    (room : manner.Admits (.object members)) (known : ∀ member ∈ members, member.1 ∈ names) :
    (manner.part (.object members)).members? names =
      some (members.map fun member => (member.1, manner.inner.part member.2)) := by
  cases manner with
  | written depth =>
    obtain ⟨left, rfl⟩ := Manner.opens room
    exact writtenMembers?_source known left
  | held | given =>
    rw [Manner.part, Part.members?, keptMembers_of_known known]
    rfl

theorem named_eq_nil {β : Type} {name : String} {members : List (String × β)}
    (absent : name ∉ members.map Prod.fst) : Part.named name members = [] := by
  induction members with
  | nil => rfl
  | cons head rest ih =>
    rw [List.map_cons, List.mem_cons, not_or] at absent
    rw [Part.named, if_neg absent.1, ih absent.2]

theorem member?_cons_self {β : Type} {name : String} {value : β} {rest : List (String × β)}
    (absent : name ∉ rest.map Prod.fst) :
    Part.member? name ((name, value) :: rest) = some (some value) := by
  rw [Part.member?, Part.named, if_pos rfl, named_eq_nil absent]

theorem memberList?_cons_of_absent {β : Type} {name : String} {value : β}
    {rest : List (String × β)} {names : List String} (absent : name ∉ names) :
    Part.memberList? ((name, value) :: rest) names = Part.memberList? rest names := by
  induction names with
  | nil => rfl
  | cons other names ih =>
    rw [List.mem_cons, not_or] at absent
    rw [Part.memberList?, Part.memberList?, ih absent.2, Part.member?, Part.named,
      if_neg (Ne.symm absent.1)]
    rfl

theorem memberList?_names {β : Type} {members : List (String × β)}
    (distinct : (members.map Prod.fst).Nodup) :
    Part.memberList? members (members.map Prod.fst) = some (members.map fun member => some member.2) := by
  induction members with
  | nil => rfl
  | cons head rest ih =>
    rcases head with ⟨name, value⟩
    obtain ⟨absent, distinct⟩ := List.nodup_cons.mp distinct
    rw [List.map_cons, Part.memberList?, member?_cons_self absent,
      memberList?_cons_of_absent absent, ih distinct]
    rfl

theorem fields?_part (names : List String) {members : List (String × Json)}
    (room : manner.Admits (.object members)) (shape : members.map Prod.fst = names)
    (distinct : names.Nodup) :
    (manner.part (.object members)).fields? names =
      some (members.map fun member => some (manner.inner.part member.2)) := by
  subst shape
  have known : ∀ member ∈ members, member.1 ∈ members.map Prod.fst := fun member found =>
    List.mem_map_of_mem found
  have inside : (members.map fun member => (member.1, manner.inner.part member.2)).map Prod.fst =
      members.map Prod.fst := by
    rw [List.map_map]
    rfl
  have listed := memberList?_names (inside ▸ distinct)
  rw [inside, List.map_map] at listed
  rw [Part.fields?, members?_part _ room known]
  exact listed

theorem body?_part (names : List String) {members : List (String × Json)} :
    (manner.part (.object members)).body? names = (manner.part (.object members)).fields? names := by
  cases manner <;> rfl

theorem single?_part {name : String} {value : Json}
    (room : manner.Admits (.object [(name, value)])) :
    (manner.part (.object [(name, value)])).single? = some (name, manner.inner.part value) := by
  cases manner with
  | written depth =>
    obtain ⟨left, rfl⟩ := Manner.opens room
    simp [Manner.part, source, sourceMembers, Part.single?, plainLiteral, Literal.text?_plain,
      Manner.inner]
  | held | given => rfl

theorem tagged?_part {tag content name : String} {value : Json} (names : List String)
    (room : manner.Admits (tagged tag content name value)) :
    (manner.part (tagged tag content name value)).tagged? tag content names =
      some (name, some (manner.inner.part value)) := by
  have members := members?_part [tag, content] room (by simp)
  rw [Part.tagged?, tagged, members]
  simp

theorem tagged?_bare {tag content name : String} (names : List String)
    (room : manner.Admits (.object [(tag, .string name)])) :
    (manner.part (.object [(tag, .string name)])).tagged? tag content names =
      some (name, none) := by
  have members := members?_part [tag, content] room (by simp)
  rw [Part.tagged?, members]
  simp

theorem opened?_part {tag name : String} {fields : List (String × Json)} (names : List String)
    (room : manner.Admits (.object ((tag, .string name) :: fields)))
    (apart : tag ∉ fields.map Prod.fst) :
    (manner.part (.object ((tag, .string name) :: fields))).opened? tag names =
      some (name, Manner.held.part (.object fields)) := by
  have others : (((tag, .string name) :: fields).filter fun field => field.1 ≠ tag) = fields := by
    rw [List.filter_cons_of_neg (by simp)]
    exact List.filter_eq_self.mpr fun field found =>
      decide_eq_true fun same => apart (same ▸ List.mem_map_of_mem found)
  have chosen (part : Part) : (part.within (.string name)).choice? names = some name := by
    rw [Part.within]
    split <;> rfl
  simp only [Part.opened?, value?_part room, Option.bind_eq_bind, Option.bind_some, Part.named,
    if_true, named_eq_nil apart, chosen, Option.map_some, others]
  rfl

end Containers

section Exact

theorem isExact_nat {n : Nat} (fits : Fits 64 n) : (nat n).isExact = true := by
  have bound : (n : Int) < 0x10000000000000000 := Int.ofNat_lt.mpr fits
  exact (exactNumber_whole n).mpr ⟨by omega, bound⟩

theorem areExact_map {α : Type} {write : α → Json} {values : List α}
    (whole : ∀ value ∈ values, (write value).isExact = true) :
    areExact (values.map write) = true := by
  induction values with
  | nil => rfl
  | cons first rest ih =>
    have others := ih fun value member => whole value (List.mem_cons_of_mem _ member)
    simp [areExact, whole first List.mem_cons_self, others]

theorem isExact_bytes (bytes : Bytes) : (Json.bytes bytes).isExact = true :=
  areExact_map fun b _ => isExact_nat (Nat.lt_trans b.toNat_lt (by decide))

theorem isExact_optional {α : Type} {write : α → Json} {value : Option α}
    (whole : ∀ known ∈ value, (write known).isExact = true) :
    (optional write value).isExact = true := by
  cases value with
  | none => rfl
  | some known => exact whole known rfl

theorem isExact_optionalText (value : Option String) : (optional .string value).isExact = true :=
  isExact_optional fun _ _ => rfl

theorem isExact_optionalNat {value : Option Nat} (fits : ∀ n ∈ value, Fits 64 n) :
    (optional nat value).isExact = true :=
  isExact_optional fun n known => isExact_nat (fits n known)

theorem isExact_tagged {tag content name : String} {value : Json} (whole : value.isExact = true) :
    (tagged tag content name value).isExact = true := by
  simp [tagged, isExact, membersAreExact, whole]

end Exact
end Json

namespace Duration
open Json
variable {manner : Manner}

-- The seconds fit into 64 bits.
def InRange (d : Duration) : Prop := Fits 64 d.secs

theorem carried?_of_inRange {d : Duration} (inRange : d.InRange) :
    carried? d.secs d.nanos = some d := by
  have small := d.nanos_lt
  have whole : d.nanos / 1000000000 = 0 := Nat.div_eq_of_lt small
  have bound : d.secs < 0x10000000000000000 := inRange
  rw [carried?, if_pos (by omega)]
  simp [whole, Nat.mod_eq_of_lt small]

theorem read?_part {d : Duration} (inRange : d.InRange) (room : manner.Admits d.toJson) :
    read? (manner.part d.toJson) = some d := by
  have nanos : Fits 32 d.nanos := Nat.lt_trans d.nanos_lt (by decide)
  rw [read?, value?_part room, toJson, fields?_part ["secs", "nanos"] room rfl (by decide)]
  simp [neededField?, bits?_part (show Fits 64 d.secs from inRange), bits?_part nanos,
    carried?_of_inRange inRange]

theorem isExact_toJson {d : Duration} (inRange : d.InRange) : d.toJson.isExact = true := by
  have nanos : Fits 64 d.nanos := Nat.lt_trans d.nanos_lt (by decide)
  simp [toJson, isExact, membersAreExact, isExact_nat inRange, isExact_nat nanos]

theorem optional?_part {ttl : Option Duration} (inRange : ∀ d ∈ ttl, d.InRange)
    (room : manner.Admits (optional toJson ttl)) :
    (manner.part (optional toJson ttl)).optional? read? = some ttl := by
  refine Json.optional?_part (by simp [toJson]) ?_
  rintro d rfl
  exact read?_part (inRange d rfl) room

theorem isExact_optional {ttl : Option Duration} (inRange : ∀ d ∈ ttl, d.InRange) :
    (optional toJson ttl).isExact = true :=
  Json.isExact_optional fun d known => isExact_toJson (inRange d known)

end Duration

namespace Document
open Json

theorem read?_part {manner : Manner} {document : Document} (room : manner.Admits document.json) :
    read? (manner.part document.json) = some document := by
  rw [read?, value?_part room, Option.map_some, ofJson_json]

end Document
end EffectPrograms
