import EffectPrograms.Memory.Backends
import EffectPrograms.Proofs.Refusals
import EffectPrograms.Proofs.Validation

set_option autoImplicit false

namespace EffectPrograms

def Duration.Admitted (ttl : Duration) : Prop :=
  0 < ttl.inNanos ∧ ttl.inNanos ≤ 365 * 24 * 60 * 60 * 1000000000

namespace Duration
variable {ttl : Duration}

theorem admitted_iff_inNanos_le :
    ttl.Admitted ↔ 0 < ttl.inNanos ∧ ttl.inNanos ≤ maxCacheTtl.inNanos := by
  rw [Admitted, maxCacheTtl, inNanos_ofSecs]

theorem admitted_iff_ceiling_le :
    ttl.Admitted ↔ 0 < ttl.ceiling ∧ ttl.ceiling ≤ maxCacheTtl.secs := by
  have lower := ttl.inNanos_le_iff_ceiling_le 0
  rw [admitted_iff_inNanos_le, maxCacheTtl, inNanos_ofSecs, inNanos_le_iff_ceiling_le, ofSecs]
  refine and_congr_left' ?_
  omega

theorem limitTtl_eq_none_iff_admitted : Refusal.limitTtl (some ttl) = none ↔ ttl.Admitted := by
  rw [Refusal.limitTtl_eq_none_iff, admitted_iff_inNanos_le]

theorem limitTtl_of_unadmitted (unadmitted : ¬ ttl.Admitted) :
    ∃ refusal, (refusal = .zeroTtl ∨ refusal = .longTtl ttl.secs) ∧
      Refusal.limitTtl (some ttl) = some refusal := by
  rw [← limitTtl_eq_none_iff_admitted] at unadmitted
  rw [Refusal.limitTtl] at unadmitted ⊢
  split
  · exact ⟨_, .inl rfl, rfl⟩
  · next positive =>
    split
    · exact ⟨_, .inr rfl, rfl⟩
    · next small => simp [positive, small] at unadmitted

end Duration

namespace Config

theorem validate_withDefaultCacheTtl_iff {config : Config} {ttl : Duration}
    (otherwise : { config with defaultTtlSecs := none }.validate = .ok ()) :
    (config.withDefaultCacheTtl ttl).validate = .ok () ↔ ttl.Admitted := by
  rw [validate_eq_ok_iff, fault?_eq_none_iff] at otherwise ⊢
  obtain ⟨positive, -, named, consistent⟩ := otherwise
  have timed : ttlFault? (some ttl.ceiling) = none ↔ ttl.Admitted := by
    simp [ttlFault?_eq_none_iff, Duration.admitted_iff_ceiling_le]
  exact ⟨fun ⟨_, fits, _⟩ => timed.mp fits,
    fun admitted => ⟨positive, timed.mpr admitted, named, consistent⟩⟩

section Writing
variable (config : Config) (key : String) (value : Bytes) (own : Option Duration)

-- What is answered to a write that the store was given with an expiry: that expiry, or the failure of
-- the store.
def written (applied : Option Duration) : Backed Unit → Outcome Result
  | .ok _ => .ok (.cache (.stored ⟨applied⟩))
  | .error failure =>
      .error (config.error (.cache (.set key value own)) failure.kind failure.message)

-- Whatever store the interpreter has, it gives a write to the store with this expiry.
def Writes (applied : Option Duration) : Prop :=
  ∀ (σ : Type) (families : Family → Bool) (collaborators : Collaborators σ) (state : σ),
    families .cache = true →
      let stored := collaborators.cache.set (config.cacheKey key) value applied state
      (Dispatcher.standard families config collaborators).interpret (.cache (.set key value own))
          state =
        (.ready (config.written key value own applied stored.1), stored.2)

-- Whatever store the interpreter has, it turns a write away and does not call the store.
def TurnsAway (refusal : Refusal) : Prop :=
  ∀ (σ : Type) (families : Family → Bool) (collaborators : Collaborators σ) (state : σ),
    families .cache = true →
      (Dispatcher.standard families config collaborators).interpret (.cache (.set key value own))
          state =
        (.ready (.error (refusal.error config (.cache (.set key value own)))), state)

end Writing

section
variable {config : Config} {key : String} {value : Bytes} {own : Option Duration}

theorem writes_of_accepted (accepted : config.refusal? (.cache (.set key value own)) = none) :
    config.Writes key value own (Refusal.appliedTtl config own) := by
  intro σ families collaborators state served stored
  have performed : collaborators.perform config (.cache (.set key value own)) state =
      (.ready (stored.1.map fun _ => ⟨Refusal.appliedTtl config own⟩), stored.2) := rfl
  simp only [Dispatcher.standard, Effect.family, served, accepted, if_true, performed]
  rcases stored with ⟨failure | _, left⟩ <;> rfl

theorem turnsAway_of_refused {refusal : Refusal}
    (refused : config.refusal? (.cache (.set key value own)) = some refusal) :
    config.TurnsAway key value own refusal := by
  intro σ families collaborators state served
  simp only [Dispatcher.standard, Effect.family, served, refused, if_true]

theorem not_turnsAway_of_writes {applied : Option Duration} {refusal : Refusal}
    (writes : config.Writes key value own applied) : ¬ config.TurnsAway key value own refusal := by
  intro turned
  have wrote := writes _ (fun _ => true) Memory.Backends.collaborators .empty rfl
  have refused := turned _ (fun _ => true) Memory.Backends.collaborators .empty rfl
  have same := wrote.symm.trans refused
  cases same

theorem refusal?_set (named : key ≠ "") (fits : value.length ≤ config.maxPayloadBytes)
    (own : Option Duration) :
    config.refusal? (.cache (.set key value own)) =
      Refusal.limitTtl (Refusal.appliedTtl config own) := by
  simp only [refusal?, Refusal.cache?, Refusal.requireName, Refusal.limitSize, if_neg named,
    if_neg (Nat.not_lt.mpr fits), Refusal.first]
  cases Refusal.limitTtl (Refusal.appliedTtl config own) <;> rfl

theorem turnsAway_unadmitted (named : key ≠ "") (fits : value.length ≤ config.maxPayloadBytes)
    {ttl : Duration} (unadmitted : ¬ ttl.Admitted) :
    ∃ refusal, (refusal = .zeroTtl ∨ refusal = .longTtl ttl.secs) ∧
      config.TurnsAway key value (some ttl) refusal := by
  have checked := refusal?_set named fits (some ttl)
  obtain ⟨refusal, either, limited⟩ := Duration.limitTtl_of_unadmitted unadmitted
  exact ⟨refusal, either, turnsAway_of_refused (checked.trans limited)⟩

theorem writes_iff_admitted (named : key ≠ "") (fits : value.length ≤ config.maxPayloadBytes)
    (ttl : Duration) : config.Writes key value (some ttl) (some ttl) ↔ ttl.Admitted := by
  constructor
  · intro writes
    by_contra unadmitted
    obtain ⟨refusal, -, turned⟩ := turnsAway_unadmitted named fits unadmitted
    exact not_turnsAway_of_writes writes turned
  · intro admitted
    have checked := refusal?_set named fits (some ttl)
    have within := Duration.limitTtl_eq_none_iff_admitted.mpr admitted
    exact writes_of_accepted (checked.trans within)

end

theorem defaultCacheTtl_withDefaultCacheTtl (config : Config) (ttl : Duration) :
    ∃ secs, (config.withDefaultCacheTtl ttl).defaultCacheTtl = some (.ofSecs secs) ∧
      ∀ other, ttl.inNanos ≤ (Duration.ofSecs other).inNanos ↔ secs ≤ other := by
  refine ⟨ttl.ceiling, rfl, fun other => ?_⟩
  rw [Duration.inNanos_ofSecs]
  exact ttl.inNanos_le_iff_ceiling_le other

structure WritesByDefault (config : Config) (key : String) (value : Bytes) : Prop where
  unnamed : key = "" → config.TurnsAway key value none (.emptyName "cache key")
  tooLarge : key ≠ "" → config.maxPayloadBytes < value.length →
    config.TurnsAway key value none
      (.tooLarge "cache value" value.length config.maxPayloadBytes)
  written : key ≠ "" → value.length ≤ config.maxPayloadBytes →
    config.Writes key value none config.defaultCacheTtl

theorem writesByDefault {config : Config} (valid : config.validate = .ok ()) (key : String)
    (value : Bytes) : config.WritesByDefault key value where
  unnamed empty := by
    refine turnsAway_of_refused ?_
    simp [refusal?, Refusal.cache?, Refusal.requireName, empty, Refusal.first]
  tooLarge named large := by
    refine turnsAway_of_refused ?_
    simp [refusal?, Refusal.cache?, Refusal.requireName, named, Refusal.limitSize, large,
      Refusal.first]
  written named fits := by
    have timed := defaultCacheTtl_fits ((validate_eq_ok_iff config).mp valid)
    have checked := refusal?_set named fits none
    exact writes_of_accepted (checked.trans timed)

end Config

/-- An expiry is admitted for a cache write exactly if it is admitted as the default, and exactly if
it is longer than nothing and at most 365 days. A default is kept in whole seconds, the least that
are not shorter. Under a valid configuration a write without an expiry of its own is turned away
only for its key or its value; else it comes to the store with the default, or with none if there is
none, and that is what it is told. -/
theorem expiries_agree (ttl : Duration) :
    (∀ (config : Config) (key : String) (value : Bytes), key ≠ "" →
      value.length ≤ config.maxPayloadBytes →
        (config.Writes key value (some ttl) (some ttl) ↔ ttl.Admitted) ∧
          (¬ ttl.Admitted → ∃ refusal, (refusal = .zeroTtl ∨ refusal = .longTtl ttl.secs) ∧
            config.TurnsAway key value (some ttl) refusal)) ∧
    (∀ config : Config, { config with defaultTtlSecs := none }.validate = .ok () →
      ((config.withDefaultCacheTtl ttl).validate = .ok () ↔ ttl.Admitted)) ∧
    (∀ config : Config, ∃ secs,
      (config.withDefaultCacheTtl ttl).defaultCacheTtl = some (.ofSecs secs) ∧
        ∀ other, ttl.inNanos ≤ (Duration.ofSecs other).inNanos ↔ secs ≤ other) ∧
    ∀ config : Config, config.validate = .ok () → ∀ (key : String) (value : Bytes),
      config.WritesByDefault key value := by
  refine ⟨fun config key value named fits => ⟨?_, ?_⟩, fun config otherwise => ?_, fun config => ?_,
    fun config valid key value => ?_⟩
  · exact Config.writes_iff_admitted named fits ttl
  · exact Config.turnsAway_unadmitted named fits
  · exact Config.validate_withDefaultCacheTtl_iff otherwise
  · exact config.defaultCacheTtl_withDefaultCacheTtl ttl
  · exact Config.writesByDefault valid key value

-- Half a second is admitted both ways; as a default it is kept as one second.
theorem expiries_agree_half_second :
    let ttl : Duration := ⟨0, 500000000, by decide⟩
    let config := Config.default.withDefaultCacheTtl ttl
    config.validate = .ok () ∧ config.Writes "k" [1] (some ttl) (some ttl) ∧
      config.Writes "k" [1] none (some (.ofSecs 1)) := by
  intro ttl config
  obtain ⟨written, validates, -, byDefault⟩ := expiries_agree ttl
  have admitted : ttl.Admitted := by simp [ttl, Duration.Admitted, Duration.inNanos]
  have valid := (validates .default rfl).mpr admitted
  exact ⟨valid, (written config "k" [1] (by decide) (by decide)).1.mpr admitted,
    (byDefault config valid "k" [1]).written (by decide) (by decide)⟩

end EffectPrograms
