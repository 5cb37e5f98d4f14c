import EffectPrograms.Entries

namespace EffectPrograms

structure Dict (β : Type) where
  entries : Entries β
  sorted : Entries.Sorted entries
deriving DecidableEq

namespace Dict
variable {β γ : Type}

def empty : Dict β := ⟨[], .nil⟩

instance : EmptyCollection (Dict β) := ⟨empty⟩
instance : Inhabited (Dict β) := ⟨empty⟩

-- Of values under one name the last stays.
def ofList (entries : Entries β) : Dict β :=
  ⟨Entries.ofList entries, Entries.sorted_ofList entries⟩

def get? (dict : Dict β) (name : String) : Option β := Entries.find name dict.entries
def contains (dict : Dict β) (name : String) : Bool := (dict.get? name).isSome
def size (dict : Dict β) : Nat := dict.entries.length
def values (dict : Dict β) : List β := dict.entries.map Prod.snd

def insert (dict : Dict β) (name : String) (value : β) : Dict β :=
  ⟨Entries.put name value dict.entries, Entries.sorted_put dict.sorted⟩

def erase (dict : Dict β) (name : String) : Dict β :=
  ⟨Entries.erase name dict.entries, Entries.sorted_erase dict.sorted⟩

def filter (dict : Dict β) (keep : β → Bool) : Dict β :=
  ⟨dict.entries.filter fun entry => keep entry.2, Entries.sorted_filter _ dict.sorted⟩

def map (dict : Dict β) (f : β → γ) : Dict γ :=
  ⟨Entries.mapValues f dict.entries, Entries.sorted_mapValues f dict.sorted⟩

@[simp] theorem get?_empty (name : String) : (empty : Dict β).get? name = none := rfl

@[simp] theorem entries_empty : (∅ : Dict β).entries = [] := rfl

@[simp] theorem values_empty : (∅ : Dict β).values = [] := rfl

theorem get?_insert (dict : Dict β) (name other : String) (value : β) :
    (dict.insert name value).get? other = if other = name then some value else dict.get? other :=
  Entries.find_put name other value dict.entries

@[simp] theorem get?_insert_self (dict : Dict β) (name : String) (value : β) :
    (dict.insert name value).get? name = some value := by
  simp [get?_insert]

theorem get?_erase (dict : Dict β) (name other : String) :
    (dict.erase name).get? other = if other = name then none else dict.get? other :=
  Entries.find_erase name other dict.entries

theorem get?_of_get?_erase {dict : Dict β} {name other : String} {value : β}
    (kept : (dict.erase name).get? other = some value) : dict.get? other = some value := by
  rw [get?_erase] at kept
  split at kept
  · cases kept
  · exact kept

@[simp] theorem get?_map (dict : Dict β) (f : β → γ) (name : String) :
    (dict.map f).get? name = (dict.get? name).map f :=
  Entries.find_mapValues f name dict.entries

theorem mem_entries_iff (dict : Dict β) (name : String) (value : β) :
    (name, value) ∈ dict.entries ↔ dict.get? name = some value :=
  ⟨Entries.find_of_mem dict.sorted, Entries.mem_of_find⟩

theorem get?_filter (dict : Dict β) (keep : β → Bool) (name : String) :
    (dict.filter keep).get? name = (dict.get? name).filter keep := by
  refine Option.ext fun value => ?_
  rw [Option.filter_eq_some_iff, ← mem_entries_iff, ← mem_entries_iff]
  exact List.mem_filter

theorem mem_names_iff (dict : Dict β) (name : String) :
    name ∈ dict.entries.map Prod.fst ↔ dict.contains name = true := by
  simp [contains, Option.isSome_iff_exists, mem_entries_iff]

theorem get?_eq_none_iff (dict : Dict β) (name : String) :
    dict.get? name = none ↔ name ∉ dict.entries.map Prod.fst := by
  simp [mem_names_iff, contains]

theorem perm_entries_insert {dict : Dict β} {name : String} (absent : dict.get? name = none)
    (value : β) : (dict.insert name value).entries.Perm ((name, value) :: dict.entries) :=
  Entries.perm_put absent

theorem perm_entries_erase {dict : Dict β} {name : String} {value : β}
    (found : dict.get? name = some value) :
    dict.entries.Perm ((name, value) :: (dict.erase name).entries) :=
  Entries.perm_erase dict.sorted found

theorem erase_of_absent {dict : Dict β} {name : String} (absent : dict.get? name = none) :
    dict.erase name = dict := by
  cases dict with
  | mk entries sorted => simp [erase, Entries.erase_of_absent (show _ = none from absent)]

theorem names_nodup (dict : Dict β) : (dict.entries.map Prod.fst).Nodup := by
  refine List.pairwise_map.mpr (List.Pairwise.imp ?_ dict.sorted)
  intro first second less same
  exact String.lt_irrefl second.1 (same ▸ less)

theorem ext {left right : Dict β} (same : ∀ name, left.get? name = right.get? name) :
    left = right := by
  cases left with
  | mk left leftSorted =>
    cases right with
    | mk right rightSorted => simp [Entries.ext_sorted leftSorted rightSorted same]

end Dict
end EffectPrograms
