import EffectPrograms.Dict
import EffectPrograms.Failure.Backend

set_option autoImplicit false

namespace EffectPrograms.Memory

structure Plan where
  next : List BackendError
  always : Option BackendError
deriving DecidableEq

abbrev Faults := Dict Plan

namespace Faults

def any : String := "*"

def plan (faults : Faults) (operation : String) : Plan := (faults.get? operation).getD ⟨[], none⟩

def failNext (faults : Faults) (operation : String) (error : BackendError) : Faults :=
  let plan := faults.plan operation
  faults.insert operation { plan with next := plan.next ++ [error] }

def failAlways (faults : Faults) (operation : String) (error : BackendError) : Faults :=
  let plan := faults.plan operation
  faults.insert operation { plan with always := some error }

-- A queued failure goes before a standing one, and plans for the operation before those for any.
def draw (faults : Faults) (operation : String) : Option BackendError × Faults :=
  match faults.get? operation with
  | none => (none, faults)
  | some ⟨error :: rest, always⟩ => (some error, faults.insert operation ⟨rest, always⟩)
  | some ⟨[], always⟩ => (always, faults)

def check (faults : Faults) (operation : String) : Option BackendError × Faults :=
  match faults.draw operation with
  | (some error, faults) => (some error, faults)
  | (none, faults) => faults.draw any

end Faults

structure Faulty (τ : Type) where
  store : τ
  faults : Faults
deriving DecidableEq

namespace Faulty
variable {τ α : Type}

def of (store : τ) : Faulty τ := ⟨store, ∅⟩

def call (faulty : Faulty τ) (operation : String) (failed : BackendError → α)
    (work : τ → α × τ) : α × Faulty τ :=
  match faulty.faults.check operation with
  | (some error, faults) => (failed error, ⟨faulty.store, faults⟩)
  | (none, faults) =>
      let (answer, store) := work faulty.store
      (answer, ⟨store, faults⟩)

def failNext (faulty : Faulty τ) (operation : String) (error : BackendError) : Faulty τ :=
  { faulty with faults := faulty.faults.failNext operation error }

def failAlways (faulty : Faulty τ) (operation : String) (error : BackendError) : Faulty τ :=
  { faulty with faults := faulty.faults.failAlways operation error }

def clear (faulty : Faulty τ) : Faulty τ := { faulty with faults := ∅ }

end Faulty
end EffectPrograms.Memory
