import EffectPrograms.Dispatch.Basic

set_option autoImplicit false

namespace EffectPrograms.Dispatcher
variable {σ : Type}

-- Others may change the state before each effect, by the change that has the number of the effect.
def preceded (dispatcher : Dispatcher σ) (changes : Nat → σ → σ) : Dispatcher (σ × Nat) where
  interpret effect state :=
    let (answer, left) := dispatcher.interpret effect (changes state.2 state.1)
    (answer, (left, state.2 + 1))
  again effect ticket state :=
    let (answer, left) := dispatcher.again effect ticket state.1
    (answer, (left, state.2))

variable {dispatcher : Dispatcher σ} {changes : Nat → σ → σ} {effect : Effect}
  {answer : Poll (Outcome Result)}

theorem preceded_interpret {state left : σ} {number : Nat}
    (interpreted : dispatcher.interpret effect (changes number state) = (answer, left)) :
    (dispatcher.preceded changes).interpret effect (state, number) =
      (answer, (left, number + 1)) := by
  simp only [preceded, interpreted]

theorem interpret_of_preceded {begun ended : σ × Nat}
    (interpreted : (dispatcher.preceded changes).interpret effect begun = (answer, ended)) :
    dispatcher.interpret effect (changes begun.2 begun.1) = (answer, ended.1) ∧
      ended.2 = begun.2 + 1 := by
  obtain ⟨same, left⟩ := Prod.mk.inj interpreted
  exact ⟨Prod.ext same (congrArg Prod.fst left), (congrArg Prod.snd left).symm⟩

end EffectPrograms.Dispatcher
