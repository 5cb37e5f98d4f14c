import EffectPrograms.Outcome

set_option autoImplicit false

namespace EffectPrograms

inductive Poll (α : Type) where
  | ready (value : α)
  | waiting (ticket : Nat)
deriving DecidableEq

def Poll.map {α β : Type} (f : α → β) : Poll α → Poll β
  | ready value => ready (f value)
  | waiting ticket => waiting ticket

structure Dispatcher (σ : Type) where
  interpret : Effect → σ → Poll (Outcome Result) × σ
  again : Effect → Nat → σ → Poll (Outcome Result) × σ

namespace Dispatcher
variable {σ : Type}

def ofFunction (interpret : Effect → σ → Outcome Result × σ) : Dispatcher σ where
  interpret effect state := ((interpret effect state).1 |> .ready, (interpret effect state).2)
  again effect _ state := ((interpret effect state).1 |> .ready, (interpret effect state).2)

end Dispatcher
end EffectPrograms
