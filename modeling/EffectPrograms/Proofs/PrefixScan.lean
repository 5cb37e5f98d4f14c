import EffectPrograms.Memory.Backends
import EffectPrograms.Proofs.ByteOrder
import EffectPrograms.Proofs.Faults

set_option autoImplicit false

namespace EffectPrograms

namespace Text

theorem prefix_of_between {start middle last : List Char} (above : ¬ middle < start)
    (below : middle < last) (begins : start <+: last) : start <+: middle := by
  induction start generalizing middle last with
  | nil => exact List.nil_prefix
  | cons c start ih =>
    obtain ⟨rest, rfl⟩ := begins
    cases middle with
    | nil => exact absurd List.Lex.nil above
    | cons d middle =>
      cases below with
      | rel less => exact absurd (List.Lex.rel less) above
      | cons later =>
        have within : ¬ middle < start := fun less => above (List.Lex.cons less)
        exact List.cons_prefix_cons.mpr ⟨rfl, ih within later ⟨rest, rfl⟩⟩

theorem beginsWith_iff_append (start text : String) :
    beginsWith start text = true ↔ ∃ rest, text = start ++ rest := by
  rw [beginsWith_iff]
  constructor
  · rintro ⟨rest, same⟩
    exact ⟨String.ofList rest, String.toList_injective (by simp [same])⟩
  · rintro ⟨rest, rfl⟩
    exact ⟨rest.toList, String.toList_append⟩

theorem not_lt_of_beginsWith {start text : String} (begins : beginsWith start text = true) :
    ¬ text < start := by
  obtain ⟨rest, same⟩ := (beginsWith_iff start text).mp begins
  rw [String.lt_iff, same]
  exact List.le_append_left

theorem beginsWith_of_between {start middle last : String} (above : ¬ middle < start)
    (below : middle < last) (begins : beginsWith start last = true) :
    beginsWith start middle = true := by
  rw [beginsWith, List.isPrefixOf_iff_prefix] at begins ⊢
  rw [String.lt_iff] at above below
  exact prefix_of_between above below begins

end Text

namespace Memory.Records

-- From the first key on that does not lie before the start, the keys that begin with it come first.
theorem takeWhile_eq_filter {start : String} {entries : Entries Versioned}
    (sorted : entries.Sorted) (above : ∀ entry ∈ entries, ¬ entry.1 < start) :
    (entries.takeWhile fun entry => Text.beginsWith start entry.1) =
      entries.filter fun entry => Text.beginsWith start entry.1 := by
  induction entries with
  | nil => rfl
  | cons head rest ih =>
    obtain ⟨less, tail⟩ := List.pairwise_cons.mp sorted
    rw [List.takeWhile_cons, List.filter_cons]
    split
    · rw [ih tail fun entry member => above entry (List.mem_cons_of_mem _ member)]
    · next other =>
      refine (List.filter_eq_nil_iff.mpr fun entry member begins => other ?_).symm
      exact Text.beginsWith_of_between (above head List.mem_cons_self) (less entry member) begins

theorem scan_eq_filter (table : Dict Versioned) (start : String) :
    scan table start = table.entries.filter fun entry => Text.beginsWith start entry.1 := by
  obtain ⟨entries, sorted⟩ := table
  rw [scan]
  induction entries with
  | nil => rfl
  | cons head rest ih =>
    obtain ⟨less, tail⟩ := List.pairwise_cons.mp sorted
    dsimp only at ih ⊢
    rw [List.dropWhile_cons]
    by_cases before : head.1 < start
    · have other : ¬ Text.beginsWith start head.1 = true := fun begins =>
        Text.not_lt_of_beginsWith begins before
      rw [if_pos (decide_eq_true before), List.filter_cons, if_neg other]
      exact ih tail
    · rw [if_neg (by simpa using before)]
      refine takeWhile_eq_filter sorted fun entry member => ?_
      rcases List.mem_cons.mp member with rfl | later
      · exact before
      · exact fun early => before (String.lt_trans (less entry later) early)

section
variable (records : Records)

def listing (table : String) : List Storage.Entry :=
  (records.table table).entries.map fun entry => ⟨entry.1, entry.2.value, entry.2.version⟩

theorem mem_listing {table : String} {entry : Storage.Entry} :
    entry ∈ records.listing table ↔
      records.record? table entry.key = some ⟨entry.value, entry.version⟩ := by
  rw [record?, ← Dict.mem_entries_iff, listing, List.mem_map]
  constructor
  · rintro ⟨⟨key, record⟩, member, rfl⟩
    exact member
  · exact fun member => ⟨_, member, rfl⟩

theorem listing_sorted (table : String) :
    (records.listing table).Pairwise fun first second => first.key < second.key :=
  List.pairwise_map.mpr (records.table table).sorted

-- As many as a limit allows; all where there is none.
def upTo {α : Type} : Option Nat → List α → List α
  | some count, found => found.take count
  | none, found => found

theorem query_eq (table start : String) (limit : Option Nat) :
    records.query table start limit =
      upTo limit ((records.listing table).filter fun entry => Text.beginsWith start entry.key) := by
  have whole : (records.listing table).filter (fun entry => Text.beginsWith start entry.key) =
      (scan (records.table table) start).map
        fun entry => ⟨entry.1, entry.2.value, entry.2.version⟩ := by
    rw [listing, List.filter_map, scan_eq_filter]
    rfl
  rw [whole]
  cases limit with
  | none => rfl
  | some count => exact List.map_take

end

end Memory.Records

namespace Memory.Backends

/-- A query lists the records of a table whose keys begin with a text, all of these and no others,
each with its value and version, in the order of the bytes of their keys; of this list it answers as
many as its limit allows. It leaves the records alone. -/
theorem query_lists (backends : Backends) (table start : String) (limit : Option Nat) :
    ∃ all : List Storage.Entry,
      (all.Pairwise fun first second => Bytes.ofText first.key < Bytes.ofText second.key) ∧
      (∀ entry, entry ∈ all ↔
        backends.records.store.record? table entry.key = some ⟨entry.value, entry.version⟩ ∧
          ∃ rest, entry.key = start ++ rest) ∧
      (recordStore.query table start limit backends).1 =
        (match (backends.records.faults.check "query").1 with
        | some failure => .error failure
        | none => .ok (Records.upTo limit all)) ∧
      (recordStore.query table start limit backends).2.records.store = backends.records.store := by
  let records := backends.records.store
  refine ⟨(records.listing table).filter fun entry => Text.beginsWith start entry.key, ?_, ?_, ?_, ?_⟩
  · exact ((records.listing_sorted table).filter _).imp Bytes.ofText_lt
  · intro entry
    rw [List.mem_filter, Records.mem_listing, Text.beginsWith_iff_append]
  · rw [← Records.query_eq]
    exact Faulty.call_answer ..
  · exact Faulty.call_idle _ _ _ _ rfl

end Memory.Backends
end EffectPrograms
