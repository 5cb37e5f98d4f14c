import EffectPrograms.Memory.Faults

set_option autoImplicit false

namespace EffectPrograms.Memory
namespace Faults

-- The one-shot failure that the next call of an operation meets, and the name it is queued under.
inductive Due (faults : Faults) (operation : String) : String → BackendError → Prop where
  | own {failure : BackendError} (head : (faults.plan operation).next.head? = some failure) :
      Due faults operation operation failure
  | shared {failure : BackendError} (idle : faults.plan operation = ⟨[], none⟩)
      (head : (faults.plan any).next.head? = some failure) : Due faults operation any failure

theorem Due.unique {faults : Faults} {operation name other : String}
    {failure unlike : BackendError} (due : faults.Due operation name failure)
    (twin : faults.Due operation other unlike) : name = other ∧ failure = unlike := by
  cases due with
  | own head =>
    cases twin with
    | own again => exact ⟨rfl, Option.some.inj (head.symm.trans again)⟩
    | shared idle _ => simp [idle] at head
  | shared idle head =>
    cases twin with
    | own again => simp [idle] at again
    | shared _ again => exact ⟨rfl, Option.some.inj (head.symm.trans again)⟩

def dropHead (faults : Faults) (name : String) : Faults :=
  let plan := faults.plan name
  faults.insert name { plan with next := plan.next.tail }

theorem plan_dropHead (faults : Faults) (name other : String) :
    (faults.dropHead name).plan other =
      if other = name then ⟨(faults.plan name).next.tail, (faults.plan name).always⟩
      else faults.plan other := by
  by_cases same : other = name <;> simp [plan, dropHead, Dict.get?_insert, same]

theorem draw_queued {faults : Faults} {name : String} {failure : BackendError}
    {rest : List BackendError} {always : Option BackendError}
    (planned : faults.plan name = ⟨failure :: rest, always⟩) :
    faults.draw name = (some failure, faults.dropHead name) := by
  rcases known : faults.get? name with _ | ⟨next, standing⟩
  · simp [plan, known] at planned
  · obtain ⟨rfl, rfl⟩ : next = failure :: rest ∧ standing = always := by
      simpa [plan, known] using planned
    simp [draw, dropHead, plan, known]

theorem draw_unqueued {faults : Faults} {name : String} {always : Option BackendError}
    (planned : faults.plan name = ⟨[], always⟩) : faults.draw name = (always, faults) := by
  rcases known : faults.get? name with _ | ⟨next, standing⟩
  · obtain rfl : none = always := by simpa [plan, known] using planned
    simp [draw, known]
  · obtain ⟨rfl, rfl⟩ : next = [] ∧ standing = always := by simpa [plan, known] using planned
    simp [draw, known]

inductive Checked (faults : Faults) (operation : String) :
    Option BackendError × Faults → Prop where
  | oneShot {name : String} {failure : BackendError} (due : faults.Due operation name failure) :
      Checked faults operation (some failure, faults.dropHead name)
  | undue (idle : ∀ name failure, ¬ faults.Due operation name failure) :
      Checked faults operation
        ((faults.plan operation).always.or (faults.plan any).always, faults)

theorem check_checked (faults : Faults) (operation : String) :
    Checked faults operation (faults.check operation) := by
  rcases own : faults.plan operation with ⟨_ | ⟨failure, rest⟩, _ | standing⟩
  · have passed : faults.check operation = faults.draw any := by
      rw [check, draw_unqueued own]
    rw [passed]
    rcases shared : faults.plan any with ⟨_ | ⟨failure, rest⟩, always⟩
    · have idle : ∀ name failure, ¬ faults.Due operation name failure := by
        rintro _ failure (head | ⟨_, head⟩)
        · simp [own] at head
        · simp [shared] at head
      have checked := Checked.undue idle
      rw [own, shared] at checked
      rw [draw_unqueued shared]
      exact checked
    · rw [draw_queued shared]
      exact .oneShot (.shared own (by rw [shared]; rfl))
  · have idle : ∀ name failure, ¬ faults.Due operation name failure := by
      rintro _ failure (head | ⟨idle, _⟩)
      · simp [own] at head
      · simp [own] at idle
    have checked := Checked.undue idle
    rw [own] at checked
    rw [check, draw_unqueued own]
    exact checked
  all_goals
    rw [check, draw_queued own]
    exact .oneShot (.own (by rw [own]; rfl))

-- The answer of a call, unless a failure strikes it first.
def unlessStruck {α : Type} (faults : Faults) (operation : String) (failed : BackendError → α)
    (answer : α) : α :=
  match (faults.check operation).1 with
  | some failure => failed failure
  | none => answer

end Faults

namespace Faulty
variable {τ α : Type}

section
variable (faulty : Faulty τ) (operation : String) (failed : BackendError → α)
  (work : τ → α × τ)

theorem call_answer :
    (faulty.call operation failed work).1 =
      faulty.faults.unlessStruck operation failed (work faulty.store).1 := by
  rw [Faulty.call, Faults.unlessStruck]
  rcases faulty.faults.check operation with ⟨_ | failure, faults⟩ <;> rfl

theorem call_unstruck (unstruck : faulty.faults = ∅) :
    (faulty.call operation failed work).2.faults = ∅ := by
  obtain ⟨store, faults⟩ := faulty
  cases unstruck
  rfl

theorem call_pair {β : Type} (event : α → β) :
    (event (faulty.call operation failed work).1, (faulty.call operation failed work).2.store) =
      match (faulty.faults.check operation).1 with
      | some failure => (event (failed failure), faulty.store)
      | none => (event (work faulty.store).1, (work faulty.store).2) := by
  rw [Faulty.call]
  rcases faulty.faults.check operation with ⟨_ | failure, faults⟩ <;> rfl

theorem call_either {motive : α → τ → Prop}
    (struck : ∀ failure, motive (failed failure) faulty.store)
    (made : motive (work faulty.store).1 (work faulty.store).2) :
    motive (faulty.call operation failed work).1 (faulty.call operation failed work).2.store := by
  rw [Faulty.call]
  rcases faulty.faults.check operation with ⟨_ | failure, faults⟩
  · exact made
  · exact struck failure

theorem call_idle (idle : (work faulty.store).2 = faulty.store) :
    (faulty.call operation failed work).2.store = faulty.store :=
  faulty.call_either operation failed work (motive := fun _ left => left = faulty.store)
    (fun _ => rfl) idle

end

-- What is left of a store and its failures when a call fails: the failure that was due is used up,
-- or nothing was due and nothing has changed.
inductive Met (faulty : Faulty τ) (operation : String) : BackendError → Faulty τ → Prop where
  | oneShot {name : String} {failure : BackendError}
      (due : faulty.faults.Due operation name failure) :
      Met faulty operation failure ⟨faulty.store, faulty.faults.dropHead name⟩
  | undue (idle : ∀ name failure, ¬ faulty.faults.Due operation name failure)
      (failure : BackendError) : Met faulty operation failure faulty

theorem Met.store_eq {faulty left : Faulty τ} {operation : String} {failure : BackendError}
    (met : faulty.Met operation failure left) : left.store = faulty.store := by
  cases met <;> rfl

-- The store may refuse a call itself, provided that it then stays as it is.
theorem call_met {faulty : Faulty τ} {operation : String} {failed : BackendError → α}
    {work : τ → α × τ} {failure : BackendError}
    (distinct : ∀ {left right}, failed left = failed right → left = right)
    (steady : ∀ store, (work store).1 = failed failure → (work store).2 = store)
    (refused : (faulty.call operation failed work).1 = failed failure) :
    Met faulty operation failure (faulty.call operation failed work).2 := by
  have checked := faulty.faults.check_checked operation
  dsimp only [call] at refused ⊢
  generalize faulty.faults.check operation = answer at checked refused ⊢
  cases checked with
  | oneShot due =>
    obtain rfl := distinct refused
    exact .oneShot due
  | undue idle =>
    generalize (faulty.faults.plan operation).always.or _ = standing at refused ⊢
    cases standing with
    | none =>
      rw [steady faulty.store refused]
      exact .undue idle failure
    | some standing => exact .undue idle failure

end Faulty
end EffectPrograms.Memory
