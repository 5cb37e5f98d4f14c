import EffectPrograms.Proofs.Coherence

set_option autoImplicit false

namespace EffectPrograms

namespace Effect

-- The names that a request must give.
def names : Effect → List String
  | storage (.get table key) | storage (.put table key _ _) | storage (.delete table key) =>
      [table, key]
  | storage (.query table _ _) => [table]
  | object (.put bucket key _ _) | object (.get bucket key) | object (.delete bucket key) =>
      [bucket, key]
  | object (.list bucket _) => [bucket]
  | cache (.get key) | cache (.set key _ _) | cache (.delete key) => [key]
  | messaging (.publish topic _ _) => [topic]
  | messaging (.receive subscription) => [subscription]
  | messaging (.acknowledge subscription messageId) => [subscription, messageId]
  | transport request => [request.connection]

-- The size of what a request is to store or to send, in bytes.
def payloadSize? : Effect → Option Nat
  | storage (.put _ _ value _) => some value.encoded.length
  | object (.put _ _ body _) => some body.length
  | cache (.set _ value _) => some value.length
  | messaging (.publish _ payload _) => some payload.length
  | transport (.send _ frame) => some frame.size
  | _ => none

def OutOfRange : Effect → Prop
  | storage (.query _ _ limit) => limit = some 0
  | cache (.set _ _ (some ttl)) => ttl.inNanos = 0 ∨ maxCacheTtl.inNanos < ttl.inNanos
  | transport (.close _ code reason) =>
      code < 1000 ∨ 4999 < code ∨ 123 < (Bytes.ofText reason).length
  | _ => False

inductive Unfit (config : Config) (effect : Effect) : Prop where
  | emptyName (empty : "" ∈ effect.names)
  | tooLarge (size : Nat) (sized : effect.payloadSize? = some size)
      (large : config.maxPayloadBytes < size)
  | outOfRange (out : effect.OutOfRange)

theorem not_unfit_iff {config : Config} {effect : Effect} :
    ¬ effect.Unfit config ↔ "" ∉ effect.names ∧
      (∀ size, effect.payloadSize? = some size → size ≤ config.maxPayloadBytes) ∧
        ¬ effect.OutOfRange := by
  constructor
  · intro fit
    refine ⟨fun empty => fit (.emptyName empty), fun size sized => ?_,
      fun out => fit (.outOfRange out)⟩
    exact Nat.le_of_not_lt fun large => fit (.tooLarge size sized large)
  · rintro ⟨named, small, inRange⟩ (empty | ⟨size, sized, large⟩ | out)
    · exact named empty
    · exact Nat.not_lt.mpr (small size sized) large
    · exact inRange out

end Effect

namespace Refusal

theorem first_eq_none_iff (checks : List (Option Refusal)) :
    first checks = none ↔ ∀ check ∈ checks, check = none := by
  induction checks with
  | nil => simp [first]
  | cons check rest ih => cases check <;> simp [first, ih]

theorem requireName_eq_none_iff (field value : String) :
    requireName field value = none ↔ "" ≠ value := by
  rw [requireName, ne_comm]
  split <;> simp [*]

theorem limitSize_eq_none_iff (config : Config) (what : String) (size : Nat) :
    limitSize config what size = none ↔ size ≤ config.maxPayloadBytes := by
  rw [limitSize, ← Nat.not_lt]
  split <;> simp [*]

end Refusal

namespace Config
variable {config : Config}
open Refusal

-- The expiry of a cache write is checked where it is given; the default is in range.
theorem limitTtl_applied (sound : config.fault? = none) (key : String) (value : Bytes)
    (ttl : Option Duration) :
    limitTtl (appliedTtl config ttl) = none ↔ ¬ (Effect.cache (.set key value ttl)).OutOfRange := by
  cases ttl with
  | none => exact iff_of_true (defaultCacheTtl_fits sound) id
  | some ttl =>
    rw [appliedTtl, limitTtl_eq_none_iff, Effect.OutOfRange, not_or, Nat.not_lt,
      Nat.pos_iff_ne_zero]

theorem refusal?_eq_none_iff (sound : config.fault? = none) (effect : Effect) :
    config.refusal? effect = none ↔ ¬ effect.Unfit config := by
  rw [Effect.not_unfit_iff]
  rcases effect with request | request | request | request | request <;> cases request
  case cache.set key value ttl =>
    simp [refusal?, cache?, first_eq_none_iff, requireName_eq_none_iff, limitSize_eq_none_iff,
      limitTtl_applied sound key value ttl, Effect.names, Effect.payloadSize?]
  case transport.close connection code reason =>
    have fits : (Bytes.ofText reason).length ≤ maxReason ↔ (Bytes.ofText reason).length ≤ 123 := .rfl
    simp [refusal?, transport?, first_eq_none_iff, requireName_eq_none_iff, fits, Effect.names,
      Transport.Request.connection, Effect.payloadSize?, Effect.OutOfRange, and_assoc]
  all_goals
    simp [refusal?, storage?, object?, cache?, messaging?, transport?, first_eq_none_iff,
      requireName_eq_none_iff, limitSize_eq_none_iff, Effect.names, Effect.payloadSize?,
      Effect.OutOfRange, Transport.Request.connection, Document.size, and_assoc]

end Config
end EffectPrograms
