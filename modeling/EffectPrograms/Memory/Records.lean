import EffectPrograms.Dict
import EffectPrograms.Effect.Storage
import EffectPrograms.Text.Beginning

set_option autoImplicit false

namespace EffectPrograms.Memory

-- Versions have no bound, which up to 2 to the 64 writes of a key is no difference.
structure Versioned where
  value : Document
  version : Nat
deriving DecidableEq

structure Records where
  tables : Dict (Dict Versioned)
deriving DecidableEq

namespace Records

def empty : Records := ⟨∅⟩

def table (records : Records) (name : String) : Dict Versioned := (records.tables.get? name).getD ∅

def record? (records : Records) (table key : String) : Option Versioned :=
  (records.table table).get? key

def size (records : Records) (table : String) : Nat := (records.table table).size

def get (records : Records) (table key : String) : Storage.Lookup :=
  match records.record? table key with
  | some record => .found record.value
  | none => .notFound

def store (records : Records) (table key : String) (record : Versioned) : Records :=
  ⟨records.tables.insert table ((records.table table).insert key record)⟩

-- A table is there once it was written to, and stays empty where the write met a conflict.
def touch (records : Records) (table : String) : Records :=
  ⟨records.tables.insert table (records.table table)⟩

-- The current version of a key, 0 where there is no record.
def version (records : Records) (table key : String) : Nat :=
  match records.record? table key with
  | some record => record.version
  | none => 0

-- A write may expect a version, 0 standing for an absent record.
def put (records : Records) (table key : String) (value : Document) (expected : Option Nat) :
    Storage.Write × Records :=
  let current := records.version table key
  if expected = none ∨ expected = some current then
    (.written (current + 1), records.store table key ⟨value, current + 1⟩)
  else (.conflict ((records.record? table key).map (·.version)), records.touch table)

def delete (records : Records) (table key : String) : Bool × Records :=
  match records.record? table key with
  | some _ => (true, ⟨records.tables.insert table ((records.table table).erase key)⟩)
  | none => (false, records)

-- The records of a table from a key on, while their keys begin with it.
def scan (table : Dict Versioned) (start : String) : List (String × Versioned) :=
  (table.entries.dropWhile fun entry => decide (entry.1 < start)).takeWhile fun entry =>
    Text.beginsWith start entry.1

def query (records : Records) (table start : String) (limit : Option Nat) : List Storage.Entry :=
  let found := scan (records.table table) start
  let kept :=
    match limit with
    | some count => found.take count
    | none => found
  kept.map fun entry => ⟨entry.1, entry.2.value, entry.2.version⟩

section
variable (records : Records)

@[simp] theorem table_touch (name other : String) :
    (records.touch name).table other = records.table other := by
  by_cases own : other = name
  · simp [table, touch, own]
  · simp [table, touch, Dict.get?_insert, own]

@[simp] theorem record?_touch (table other key : String) :
    (records.touch table).record? other key = records.record? other key := by
  rw [record?, table_touch, record?]

theorem record?_store (table key other name : String) (record : Versioned) :
    (records.store table key record).record? other name =
      if other = table ∧ name = key then some record else records.record? other name := by
  by_cases own : other = table
  · subst other
    simp [record?, Records.table, store, Dict.get?_insert]
  · simp [record?, Records.table, store, Dict.get?_insert, own]

theorem record?_delete (table key other name : String) :
    (records.delete table key).2.record? other name =
      if other = table ∧ name = key then none else records.record? other name := by
  cases known : records.record? table key with
  | none =>
    simp only [delete, known]
    split
    · next own => rw [own.1, own.2, known]
    · rfl
  | some record =>
    simp only [delete, known]
    by_cases own : other = table
    · subst other
      simp [record?, Records.table, Dict.get?_erase]
    · simp [record?, Records.table, Dict.get?_insert, own]

theorem record?_of_mem_query {table start : String} {limit : Option Nat} {entry : Storage.Entry}
    (listed : entry ∈ records.query table start limit) :
    records.record? table entry.key = some ⟨entry.value, entry.version⟩ := by
  obtain ⟨⟨key, record⟩, kept, rfl⟩ := List.mem_map.mp listed
  have found : (key, record) ∈ scan (records.table table) start := by
    cases limit with
    | none => exact kept
    | some count => exact List.mem_of_mem_take kept
  have stored := (List.dropWhile_sublist _).subset ((List.takeWhile_sublist _).subset found)
  exact (Dict.mem_entries_iff ..).mp stored

end

end Records
end EffectPrograms.Memory
