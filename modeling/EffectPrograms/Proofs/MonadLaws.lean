import EffectPrograms.Proofs.Equivalence

set_option autoImplicit false

namespace EffectPrograms
namespace Program
variable {α β γ : Type}

theorem pure_andThen (value : α) (next : α → Program β) :
    Equivalent ((pure value).andThen next) (next value) :=
  afterFirst_matches next value true

theorem fail_andThen (error : EffectError) (next : α → Program β) :
    Equivalent ((fail error).andThen next) (fail error) :=
  Matches.done (.error error) _ _

theorem boxed_equivalent (program : Program α) : Equivalent program.boxed program :=
  (Extends.boxed program).go_on (.refl program) (fun value _ _ => .done (.ok value) _ _) (.refl _)

theorem andThen_pure (program : Program α) : Equivalent (program.andThen pure) program := by
  refine (Extends.andThen program pure).go_on (.refl program) (fun value inner twin => ?_) (.refl _)
  exact (afterFirst_matches pure value inner).trans (.done (.ok value) _ _)

theorem andThen_andThen (program : Program α) (next : α → Program β) (last : β → Program γ) :
    Equivalent ((program.andThen next).andThen last)
      (program.andThen fun value => (next value).andThen last) := by
  have nested := (Extends.andThen program next).trans (.andThen _ last)
  refine nested.go_on (.andThen program fun value => (next value).andThen last) ?_ (.refl _)
  intro value inner twin
  have taken : Matches (program.andThen next) (next value) _ _ :=
    afterFirst_matches next value inner
  exact (taken.afterFirst fun value => .refl (last value)).trans
    (afterFirst_matches (fun value => (next value).andThen last) value twin).symm

theorem map_eq_andThen (program : Program α) (f : α → β) :
    Equivalent (program.map f) (program.andThen fun value => pure (f value)) := by
  refine (Extends.map program f).go_on (.andThen program fun value => pure (f value)) ?_ (.refl _)
  intro value inner twin
  exact .trans (.done (.ok (f value)) _ _) (afterFirst_matches _ value twin).symm

theorem map_map (program : Program α) (f : α → β) (g : β → γ) :
    Equivalent ((program.map f).map g) (program.map fun value => g (f value)) := by
  have nested := (Extends.map program f).trans (.map _ g)
  exact nested.go_on (.map program fun value => g (f value))
    (fun value _ _ => .done (.ok (g (f value))) _ _) (.refl _)

namespace KeepsProtocol
variable {program : Program α} {next : α → Program β}

theorem perform (effect : Effect) : (perform effect).KeepsProtocol := ⟨_, .perform effect⟩

theorem pure (value : α) : (pure value).KeepsProtocol := ⟨_, .finish (.ok value)⟩

theorem fail (error : EffectError) : (fail error : Program α).KeepsProtocol :=
  ⟨_, .finish (.error error)⟩

theorem map (keeps : program.KeepsProtocol) (f : α → β) : (program.map f).KeepsProtocol := by
  obtain ⟨_, conforms⟩ := keeps
  exact ⟨_, conforms.map f⟩

theorem boxed (keeps : program.KeepsProtocol) : program.boxed.KeepsProtocol := by
  obtain ⟨_, conforms⟩ := keeps
  exact ⟨_, conforms.boxed⟩

theorem andThen (keeps : program.KeepsProtocol) (rest : ∀ value, (next value).KeepsProtocol) :
    (program.andThen next).KeepsProtocol := by
  obtain ⟨_, conforms⟩ := keeps
  obtain ⟨_, later⟩ := Classical.skolem.mp rest
  exact ⟨_, conforms.andThen later⟩

end KeepsProtocol

-- The laws of a monad and its functor, up to a relation between programs.
structure Laws (same : ∀ {α : Type}, Program α → Program α → Prop) (program : Program α)
    (f : α → Program β) (g : β → Program γ) (h : α → β) (k : β → γ) (value : α)
    (error : EffectError) : Prop where
  pure_then : same ((pure value).andThen f) (f value)
  then_pure : same (program.andThen pure) program
  then_then : same ((program.andThen f).andThen g) (program.andThen fun x => (f x).andThen g)
  mapped : same (program.map h) (program.andThen fun x => pure (h x))
  mapped_twice : same ((program.map h).map k) (program.map fun x => k (h x))
  failed : same ((fail error).andThen f) (fail error)
  wrapped : same program.boxed program

/-- The combinators obey the laws of a monad. Both sides take the same steps up to their end,
whatever results they are fed, and for any programs at all. Where the programs keep the protocol,
the two sides also answer the same calls, and refuse the same, after their end and out of turn. -/
theorem combinators_lawful (program : Program α) (f : α → Program β) (g : β → Program γ)
    (h : α → β) (k : β → γ) (value : α) (error : EffectError) :
    Laws Equivalent program f g h k value error ∧
      (program.KeepsProtocol → (∀ value, (f value).KeepsProtocol) →
        (∀ value, (g value).KeepsProtocol) →
          Laws AnswersAlike program f g h k value error) := by
  have laws : Laws Equivalent program f g h k value error :=
    { pure_then := pure_andThen value f
      then_pure := andThen_pure program
      then_then := andThen_andThen program f g
      mapped := map_eq_andThen program h
      mapped_twice := map_map program h k
      failed := fail_andThen error f
      wrapped := boxed_equivalent program }
  refine ⟨laws, fun keeps next last => ?_⟩
  have composed (value : α) := (next value).andThen last
  exact
    { pure_then := laws.pure_then.answersAlike (.andThen (.pure value) next) (next value)
      then_pure := laws.then_pure.answersAlike (keeps.andThen .pure) keeps
      then_then := laws.then_then.answersAlike ((keeps.andThen next).andThen last)
        (keeps.andThen composed)
      mapped := laws.mapped.answersAlike (keeps.map h) (keeps.andThen fun x => .pure (h x))
      mapped_twice := laws.mapped_twice.answersAlike ((keeps.map h).map k) (keeps.map _)
      failed := laws.failed.answersAlike (.andThen (.fail error) next) (.fail error)
      wrapped := laws.wrapped.answersAlike keeps.boxed keeps }

theorem combinators_lawful_lookup :
    let program := perform (.cache (.get "k"))
    let f : Cache.Lookup → Program Cache.Lookup := fun _ => perform (.cache (.get "l"))
    let g : Cache.Lookup → Program Nat := fun _ => pure 0
    let calls := [.start, .resume (.cache (.lookup .miss)), .start]
    program.KeepsProtocol ∧ (∀ value, (f value).KeepsProtocol) ∧
      (∀ value, (g value).KeepsProtocol) ∧ AnswersAlike (program.andThen pure) program ∧
      ((program.andThen pure).calls calls (program.andThen pure).initial).1.length = 2 ∧
      (program.calls calls program.initial).2 = some .alreadyStarted := by
  intro program f g calls
  have keeps : program.KeepsProtocol := .perform _
  have next (value : Cache.Lookup) : (f value).KeepsProtocol := .perform _
  have last (value : Cache.Lookup) : (g value).KeepsProtocol := .pure 0
  have laws := (combinators_lawful program f g id (fun _ => 0) .miss
    (.unsupported (.cache (.get "k")))).2 keeps next last
  exact ⟨keeps, next, last, laws.then_pure, rfl, rfl⟩

end Program
end EffectPrograms
