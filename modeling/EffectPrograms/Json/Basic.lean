import EffectPrograms.Entries
import EffectPrograms.Decimal.Binary64

set_option autoImplicit false

namespace EffectPrograms

inductive Number where
  | whole (value : Int)
  | float (value : Binary64)
deriving DecidableEq

inductive Json where
  | null
  | bool (value : Bool)
  | number (value : Number)
  | string (value : String)
  | array (items : List Json)
  | object (members : List (String × Json))

namespace Json

instance : Inhabited Json := ⟨.null⟩

def nat (n : Nat) : Json := .number (.whole n)

mutual
def decEq : (left right : Json) → Decidable (left = right)
  | .null, .null => isTrue rfl
  | .bool a, .bool b => decidable_of_iff (a = b) (by simp)
  | .number a, .number b => decidable_of_iff (a = b) (by simp)
  | .string a, .string b => decidable_of_iff (a = b) (by simp)
  | .array a, .array b =>
      match decEqItems a b with
      | isTrue same => isTrue (by rw [same])
      | isFalse apart => isFalse (by simpa using apart)
  | .object a, .object b =>
      match decEqMembers a b with
      | isTrue same => isTrue (by rw [same])
      | isFalse apart => isFalse (by simpa using apart)
  | .null, .bool _ | .null, .number _ | .null, .string _ | .null, .array _ | .null, .object _
  | .bool _, .null | .bool _, .number _ | .bool _, .string _ | .bool _, .array _
  | .bool _, .object _ | .number _, .null | .number _, .bool _ | .number _, .string _
  | .number _, .array _ | .number _, .object _ | .string _, .null | .string _, .bool _
  | .string _, .number _ | .string _, .array _ | .string _, .object _ | .array _, .null
  | .array _, .bool _ | .array _, .number _ | .array _, .string _ | .array _, .object _
  | .object _, .null | .object _, .bool _ | .object _, .number _ | .object _, .string _
  | .object _, .array _ => isFalse (by simp)
def decEqItems : (left right : List Json) → Decidable (left = right)
  | [], [] => isTrue rfl
  | a :: as, b :: bs =>
      match decEq a b, decEqItems as bs with
      | isTrue head, isTrue tail => isTrue (by rw [head, tail])
      | isFalse apart, _ => isFalse fun same => apart (List.cons.inj same).1
      | _, isFalse apart => isFalse fun same => apart (List.cons.inj same).2
  | [], _ :: _ | _ :: _, [] => isFalse (by simp)
def decEqMembers : (left right : List (String × Json)) → Decidable (left = right)
  | [], [] => isTrue rfl
  | (m, a) :: as, (n, b) :: bs =>
      match decEq a b, decEqMembers as bs with
      | isTrue head, isTrue tail =>
          decidable_of_iff (m = n) (by simp [head, tail])
      | isFalse apart, _ => isFalse fun same => apart (Prod.mk.inj (List.cons.inj same).1).2
      | _, isFalse apart => isFalse fun same => apart (List.cons.inj same).2
  | [], _ :: _ | _ :: _, [] => isFalse (by simp)
end

instance : DecidableEq Json := decEq

mutual
-- Members of every object stand in the order of their names, each name once.
def ordered : Json → Bool
  | .array items => orderedItems items
  | .object members => decide (Entries.Sorted members) && orderedMembers members
  | _ => true
def orderedItems : List Json → Bool
  | [] => true
  | item :: rest => ordered item && orderedItems rest
def orderedMembers : List (String × Json) → Bool
  | [] => true
  | (_, value) :: rest => ordered value && orderedMembers rest
end

mutual
def normal : Json → Json
  | .array items => .array (normalItems items)
  | .object members => .object (Entries.ofList (normalMembers members))
  | value => value
def normalItems : List Json → List Json
  | [] => []
  | item :: rest => normal item :: normalItems rest
def normalMembers : List (String × Json) → List (String × Json)
  | [] => []
  | (name, value) :: rest => (name, normal value) :: normalMembers rest
end

mutual
-- Every negative zero becomes the positive one: values equal up to the sign of a zero have one such
-- form.
def plainZeros : Json → Json
  | .number (.float x) => .number (.float x.plainZero)
  | .array items => .array (plainZerosItems items)
  | .object members => .object (plainZerosMembers members)
  | value => value
def plainZerosItems : List Json → List Json
  | [] => []
  | item :: rest => plainZeros item :: plainZerosItems rest
def plainZerosMembers : List (String × Json) → List (String × Json)
  | [] => []
  | (name, value) :: rest => (name, plainZeros value) :: plainZerosMembers rest
end

theorem orderedMembers_iff (members : List (String × Json)) :
    orderedMembers members = true ↔ ∀ member ∈ members, member.2.ordered = true := by
  induction members with
  | nil => simp [orderedMembers]
  | cons head rest ih =>
    rcases head with ⟨name, value⟩
    simp [orderedMembers, ih]

theorem mem_foldl_put (fresh known : Entries Json) {member : String × Json}
    (found : member ∈ fresh.foldl (fun known entry => Entries.put entry.1 entry.2 known) known) :
    member ∈ fresh ∨ member ∈ known := by
  induction fresh generalizing known with
  | nil => exact .inr found
  | cons head rest ih =>
    rcases ih _ found with later | before
    · exact .inl (List.mem_cons_of_mem _ later)
    · rcases Entries.mem_put before with first | old
      · exact .inl (by simp [first])
      · exact .inr old

theorem mem_of_mem_ofList {fresh : Entries Json} {member : String × Json}
    (found : member ∈ Entries.ofList fresh) : member ∈ fresh := by
  simpa using mem_foldl_put fresh [] found

mutual
theorem ordered_normal : (value : Json) → value.normal.ordered = true
  | .null | .bool _ | .number _ | .string _ => by simp [normal, ordered]
  | .array items => by simpa [normal, ordered] using orderedItems_normal items
  | .object members => by
      have kept := (orderedMembers_iff _).mp (orderedMembers_normal members)
      simp only [normal, ordered, Bool.and_eq_true, decide_eq_true_eq]
      exact ⟨Entries.sorted_ofList _,
        (orderedMembers_iff _).mpr fun member found => kept member (mem_of_mem_ofList found)⟩
theorem orderedItems_normal : (items : List Json) → orderedItems (normalItems items) = true
  | [] => rfl
  | item :: rest => by
      simp [normalItems, orderedItems, ordered_normal item, orderedItems_normal rest]
theorem orderedMembers_normal :
    (members : List (String × Json)) → orderedMembers (normalMembers members) = true
  | [] => rfl
  | (_, value) :: rest => by
      simp [normalMembers, orderedMembers, ordered_normal value, orderedMembers_normal rest]
end

mutual
theorem normal_of_ordered : (value : Json) → value.ordered = true → value.normal = value
  | .null, _ | .bool _, _ | .number _, _ | .string _, _ => by simp [normal]
  | .array items, kept => by
      rw [normal, normalItems_of_ordered items (by simpa [ordered] using kept)]
  | .object members, kept => by
      simp only [ordered, Bool.and_eq_true, decide_eq_true_eq] at kept
      rw [normal, normalMembers_of_ordered members kept.2, Entries.ofList_of_sorted kept.1]
theorem normalItems_of_ordered :
    (items : List Json) → orderedItems items = true → normalItems items = items
  | [], _ => rfl
  | item :: rest, kept => by
      simp only [orderedItems, Bool.and_eq_true] at kept
      rw [normalItems, normal_of_ordered item kept.1, normalItems_of_ordered rest kept.2]
theorem normalMembers_of_ordered :
    (members : List (String × Json)) → orderedMembers members = true →
      normalMembers members = members
  | [], _ => rfl
  | (name, value) :: rest, kept => by
      simp only [orderedMembers, Bool.and_eq_true] at kept
      rw [normalMembers, normal_of_ordered value kept.1, normalMembers_of_ordered rest kept.2]
end

end Json
end EffectPrograms
