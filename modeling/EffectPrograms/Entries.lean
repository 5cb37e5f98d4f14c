namespace EffectPrograms

abbrev Entries (β : Type) := List (String × β)

namespace Entries
variable {β γ : Type}

-- Names rise strictly, so each stands once.
def Sorted (entries : Entries β) : Prop := entries.Pairwise fun a b => a.1 < b.1

instance (entries : Entries β) : Decidable (Sorted entries) :=
  inferInstanceAs (Decidable (entries.Pairwise fun a b => a.1 < b.1))

def find (name : String) : Entries β → Option β
  | [] => none
  | (other, value) :: rest => if name = other then some value else find name rest

def put (name : String) (value : β) : Entries β → Entries β
  | [] => [(name, value)]
  | (other, old) :: rest =>
      if name = other then (name, value) :: rest
      else if name < other then (name, value) :: (other, old) :: rest
      else (other, old) :: put name value rest

def erase (name : String) : Entries β → Entries β
  | [] => []
  | (other, value) :: rest =>
      if name = other then erase name rest else (other, value) :: erase name rest

def ofList (entries : Entries β) : Entries β :=
  entries.foldl (fun known entry => put entry.1 entry.2 known) []

def mapValues (f : β → γ) (entries : Entries β) : Entries γ :=
  entries.map fun entry => (entry.1, f entry.2)

theorem less_of_not (a b : String) (different : a ≠ b) (notLess : ¬ a < b) : b < a := by
  rcases Std.le_total (a := a) (b := b) with le | le
  · exact absurd (String.le_antisymm le (String.not_lt.mp notLess)) different
  · exact String.not_le.mp fun ge => different (String.le_antisymm ge le)

theorem find_put (name other : String) (value : β) (entries : Entries β) :
    find other (put name value entries) =
      if other = name then some value else find other entries := by
  induction entries with
  | nil => simp [put, find]
  | cons entry rest ih =>
    rcases entry with ⟨head, old⟩
    by_cases same : name = head
    · subst head
      by_cases hit : other = name <;> simp [put, find, hit]
    · by_cases less : name < head
      · simp [put, same, less, find]
      · by_cases hit : other = head
        · have apart : other ≠ name := fun h => same (h.symm.trans hit)
          simp [put, same, less, find, hit, Ne.symm same]
        · simp [put, same, less, find, hit, ih]

theorem find_erase (name other : String) (entries : Entries β) :
    find other (erase name entries) = if other = name then none else find other entries := by
  induction entries with
  | nil => simp [erase, find]
  | cons entry rest ih =>
    rcases entry with ⟨head, old⟩
    by_cases same : name = head
    · subst head
      by_cases hit : other = name
      · rw [erase, if_pos rfl, ih, if_pos hit, if_pos hit]
      · simp [erase, find, hit, ih]
    · by_cases hit : other = head
      · simp [erase, same, find, hit, Ne.symm same]
      · simp [erase, same, find, hit, ih]

theorem mem_put {name : String} {value : β} {entries : Entries β} {entry : String × β}
    (member : entry ∈ put name value entries) : entry = (name, value) ∨ entry ∈ entries := by
  induction entries with
  | nil => simpa [put] using member
  | cons head rest ih =>
    rcases head with ⟨other, old⟩
    by_cases same : name = other
    · simp only [put, if_pos same, List.mem_cons] at member
      rcases member with fresh | known
      · exact .inl fresh
      · exact .inr (List.mem_cons_of_mem _ known)
    · by_cases less : name < other
      · simpa [put, same, less] using member
      · simp only [put, if_neg same, if_neg less, List.mem_cons] at member
        rcases member with known | deeper
        · exact .inr (by simp [known])
        · rcases ih deeper with fresh | known
          · exact .inl fresh
          · exact .inr (List.mem_cons_of_mem _ known)

theorem mem_erase {name : String} {entries : Entries β} {entry : String × β}
    (member : entry ∈ erase name entries) : entry ∈ entries := by
  induction entries with
  | nil => simp [erase] at member
  | cons head rest ih =>
    rcases head with ⟨other, old⟩
    by_cases same : name = other
    · exact List.mem_cons_of_mem _ (ih (by simpa [erase, same] using member))
    · simp only [erase, if_neg same, List.mem_cons] at member
      rcases member with known | deeper
      · simp [known]
      · exact List.mem_cons_of_mem _ (ih deeper)

theorem sorted_put {name : String} {value : β} {entries : Entries β} (sorted : Sorted entries) :
    Sorted (put name value entries) := by
  induction entries with
  | nil => simp [Sorted, put]
  | cons head rest ih =>
    rcases head with ⟨other, old⟩
    obtain ⟨above, tail⟩ := List.pairwise_cons.mp sorted
    by_cases same : name = other
    · subst other
      simp only [put]
      exact List.pairwise_cons.mpr ⟨above, tail⟩
    · by_cases less : name < other
      · simp only [put, if_neg same, if_pos less]
        refine List.pairwise_cons.mpr ⟨fun entry member => ?_, sorted⟩
        rcases List.mem_cons.mp member with first | later
        · simpa [first] using less
        · exact String.lt_trans less (above entry later)
      · simp only [put, if_neg same, if_neg less]
        refine List.pairwise_cons.mpr ⟨fun entry member => ?_, ih tail⟩
        rcases mem_put member with fresh | known
        · simpa [fresh] using less_of_not name other same less
        · exact above entry known

theorem sorted_erase {name : String} {entries : Entries β} (sorted : Sorted entries) :
    Sorted (erase name entries) := by
  induction entries with
  | nil => simp [Sorted, erase]
  | cons head rest ih =>
    rcases head with ⟨other, old⟩
    obtain ⟨above, tail⟩ := List.pairwise_cons.mp sorted
    by_cases same : name = other
    · simpa [erase, same] using ih tail
    · simp only [erase, if_neg same]
      exact List.pairwise_cons.mpr ⟨fun entry member => above entry (mem_erase member), ih tail⟩

theorem sorted_foldl_put (fresh known : Entries β) (sorted : Sorted known) :
    Sorted (fresh.foldl (fun known entry => put entry.1 entry.2 known) known) := by
  induction fresh generalizing known with
  | nil => exact sorted
  | cons head rest ih => exact ih _ (sorted_put sorted)

theorem sorted_ofList (entries : Entries β) : Sorted (ofList entries) :=
  sorted_foldl_put entries [] .nil

theorem sorted_filter {entries : Entries β} (keep : String × β → Bool) (sorted : Sorted entries) :
    Sorted (entries.filter keep) :=
  List.Pairwise.filter keep sorted

theorem sorted_mapValues {entries : Entries β} (f : β → γ) (sorted : Sorted entries) :
    Sorted (mapValues f entries) :=
  List.pairwise_map.mpr sorted

theorem mem_of_find {name : String} {value : β} {entries : Entries β}
    (found : find name entries = some value) : (name, value) ∈ entries := by
  induction entries with
  | nil => simp [find] at found
  | cons head rest ih =>
    rcases head with ⟨other, old⟩
    by_cases same : name = other
    · simp only [find, if_pos same, Option.some.injEq] at found
      simp [same, found]
    · exact List.mem_cons_of_mem _ (ih (by simpa [find, same] using found))

theorem find_eq_none_of_forall {name : String} {entries : Entries β}
    (absent : ∀ entry ∈ entries, name ≠ entry.1) : find name entries = none := by
  induction entries with
  | nil => rfl
  | cons head rest ih =>
    have first := absent head (by simp)
    simp [find, first, ih fun entry member => absent entry (List.mem_cons_of_mem _ member)]

theorem find_tail_of_sorted {name : String} {value : β} {rest : Entries β}
    (sorted : Sorted ((name, value) :: rest)) : find name rest = none :=
  find_eq_none_of_forall fun entry member same =>
    String.lt_irrefl entry.1 (by simpa [same] using (List.pairwise_cons.mp sorted).1 entry member)

theorem find_of_mem {name : String} {value : β} {entries : Entries β} (sorted : Sorted entries)
    (member : (name, value) ∈ entries) : find name entries = some value := by
  induction entries with
  | nil => simp at member
  | cons head rest ih =>
    rcases head with ⟨other, old⟩
    obtain ⟨above, tail⟩ := List.pairwise_cons.mp sorted
    rcases List.mem_cons.mp member with first | later
    · simp only [Prod.mk.injEq] at first
      simp [find, first]
    · have apart : name ≠ other := fun same =>
        String.lt_irrefl name (by simpa [same] using above _ later)
      simp [find, apart, ih tail later]

theorem find_mapValues (f : β → γ) (name : String) (entries : Entries β) :
    find name (mapValues f entries) = (find name entries).map f := by
  induction entries with
  | nil => rfl
  | cons head rest ih =>
    rcases head with ⟨other, old⟩
    by_cases same : name = other
    · simp [mapValues, find, same]
    · simpa [mapValues, find, same] using ih

theorem ext_sorted {left right : Entries β} (leftSorted : Sorted left) (rightSorted : Sorted right)
    (same : ∀ name, find name left = find name right) : left = right := by
  induction left generalizing right with
  | nil =>
    cases right with
    | nil => rfl
    | cons head rest => simpa [find] using same head.1
  | cons head rest ih =>
    rcases head with ⟨name, value⟩
    cases right with
    | nil => simpa [find] using same name
    | cons other tail =>
      rcases other with ⟨otherName, otherValue⟩
      have names : name = otherName := by
        apply Classical.byContradiction
        intro different
        have left := mem_of_find (by simpa [find] using same otherName :
          find otherName ((name, value) :: rest) = some otherValue)
        have right := mem_of_find (by simpa [find] using (same name).symm :
          find name ((otherName, otherValue) :: tail) = some value)
        have leftTail : (otherName, otherValue) ∈ rest := by
          simpa [different, Ne.symm different] using left
        have rightTail : (name, value) ∈ tail := by
          simpa [different, Ne.symm different] using right
        exact String.lt_asymm ((List.pairwise_cons.mp leftSorted).1 _ leftTail)
          ((List.pairwise_cons.mp rightSorted).1 _ rightTail)
      subst otherName
      have values : value = otherValue := by simpa [find] using same name
      subst otherValue
      have tails : ∀ query, find query rest = find query tail := by
        intro query
        by_cases hit : query = name
        · subst query
          rw [find_tail_of_sorted leftSorted, find_tail_of_sorted rightSorted]
        · simpa [find, hit] using same query
      rw [ih (List.pairwise_cons.mp leftSorted).2 (List.pairwise_cons.mp rightSorted).2 tails]

theorem put_of_above {name : String} {value : β} {entries : Entries β}
    (above : ∀ entry ∈ entries, entry.1 < name) :
    put name value entries = entries ++ [(name, value)] := by
  induction entries with
  | nil => rfl
  | cons head rest ih =>
    rcases head with ⟨other, old⟩
    have less : other < name := above (other, old) (by simp)
    have apart : name ≠ other := fun same => String.lt_irrefl other (same ▸ less)
    have notLess : ¬ name < other := fun back => String.lt_irrefl name (String.lt_trans back less)
    simp [put, apart, notLess, ih fun entry member => above entry (List.mem_cons_of_mem _ member)]

theorem perm_put {name : String} {value : β} {entries : Entries β}
    (absent : find name entries = none) :
    List.Perm (put name value entries) ((name, value) :: entries) := by
  induction entries with
  | nil => exact .refl _
  | cons head rest ih =>
    rcases head with ⟨other, old⟩
    by_cases same : name = other
    · simp [find, same] at absent
    · by_cases less : name < other
      · simp [put, same, less]
      · simp only [put, if_neg same, if_neg less]
        exact ((ih (by simpa [find, same] using absent)).cons _).trans (.swap ..)

theorem erase_of_absent {name : String} {entries : Entries β}
    (absent : find name entries = none) : erase name entries = entries := by
  induction entries with
  | nil => rfl
  | cons head rest ih =>
    rcases head with ⟨other, old⟩
    by_cases same : name = other
    · simp [find, same] at absent
    · simp [erase, same, ih (by simpa [find, same] using absent)]

theorem sublist_erase (name : String) (entries : Entries β) :
    List.Sublist (erase name entries) entries := by
  induction entries with
  | nil => exact .slnil
  | cons head rest ih =>
    rcases head with ⟨other, value⟩
    by_cases same : name = other
    · simpa [erase, same] using (same ▸ ih).cons (other, value)
    · simpa [erase, same] using ih

theorem perm_erase {name : String} {value : β} {entries : Entries β} (sorted : Sorted entries)
    (found : find name entries = some value) :
    List.Perm entries ((name, value) :: erase name entries) := by
  induction entries with
  | nil => simp [find] at found
  | cons head rest ih =>
    rcases head with ⟨other, old⟩
    by_cases same : name = other
    · subst other
      obtain rfl : old = value := by simpa [find] using found
      simp [erase, erase_of_absent (find_tail_of_sorted sorted)]
    · simp only [erase, if_neg same]
      have deeper := ih (List.pairwise_cons.mp sorted).2 (by simpa [find, same] using found)
      exact (deeper.cons _).trans (.swap ..)

theorem foldl_put_of_sorted (fresh known : Entries β) (sorted : Sorted (known ++ fresh)) :
    fresh.foldl (fun known entry => put entry.1 entry.2 known) known = known ++ fresh := by
  induction fresh generalizing known with
  | nil => simp
  | cons head rest ih =>
    have above : ∀ entry ∈ known, entry.1 < head.1 := fun entry member =>
      (List.pairwise_append.mp sorted).2.2 entry member head (by simp)
    have appended : put head.1 head.2 known = known ++ [head] := put_of_above above
    simp only [List.foldl_cons, appended]
    rw [ih (known ++ [head]) (by simpa using sorted)]
    simp

theorem ofList_of_sorted {entries : Entries β} (sorted : Sorted entries) :
    ofList entries = entries := by
  simpa [ofList] using foldl_put_of_sorted entries [] (by simpa using sorted)

end Entries
end EffectPrograms
