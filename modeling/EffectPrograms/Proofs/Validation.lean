import EffectPrograms.Config

set_option autoImplicit false

namespace EffectPrograms.Config
variable {config : Config}

theorem ttlFault?_eq_none_iff (ttl : Option Nat) :
    ttlFault? ttl = none ↔ ∀ secs, ttl = some secs → 0 < secs ∧ secs ≤ maxCacheTtl.secs := by
  cases ttl with
  | none => simp [ttlFault?]
  | some secs =>
    rw [ttlFault?]
    split
    · next zero => simp [zero]
    · next positive =>
      have lower : 0 < secs := Nat.pos_of_ne_zero positive
      simp [lower]

theorem contradiction_eq_none_iff (retry : RetryOverrides) :
    (retry.always.find? fun kind => retry.never.contains kind) = none ↔
      ∀ kind ∈ retry.always, kind ∉ retry.never := by
  simp [List.find?_eq_none]

theorem fault?_eq_none_iff (config : Config) :
    config.fault? = none ↔
      config.maxPayloadBytes ≠ 0 ∧ ttlFault? config.defaultTtlSecs = none ∧
        config.cacheNamespace ≠ some "" ∧
        ∀ kind ∈ config.retry.always, kind ∉ config.retry.never := by
  rw [fault?, ← contradiction_eq_none_iff]
  split
  · next zero => simp [zero]
  · next positive =>
    cases timed : ttlFault? config.defaultTtlSecs with
    | some fault => simp
    | none =>
      dsimp only
      split
      · next empty => simp [empty]
      · next named => simp [positive, named]

theorem validate_eq_ok_iff (config : Config) : config.validate = .ok () ↔ config.fault? = none := by
  rw [validate]
  cases config.fault? <;> simp

theorem isRetryable_iff (config : Config) (kind : ErrorKind) :
    config.isRetryable kind = true ↔
      kind ∈ config.retry.always ∨ kind.isRetryable = true ∧ kind ∉ config.retry.never := by
  rw [isRetryable]
  by_cases always : kind ∈ config.retry.always
  · simp [always]
  · by_cases never : kind ∈ config.retry.never <;> simp [always, never]

theorem isRetryable_eq_never_first (sound : config.fault? = none) (kind : ErrorKind) :
    config.isRetryable kind =
      if kind ∈ config.retry.never then false
      else if kind ∈ config.retry.always then true
      else kind.isRetryable := by
  obtain ⟨-, -, -, consistent⟩ := (fault?_eq_none_iff config).mp sound
  rw [isRetryable]
  by_cases always : kind ∈ config.retry.always
  · simp [always, consistent kind always]
  · simp [always]

end EffectPrograms.Config
