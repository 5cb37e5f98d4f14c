import EffectPrograms.Config
import EffectPrograms.Outcome

set_option autoImplicit false

namespace EffectPrograms

inductive Refusal where
  | emptyName (field : String)
  | tooLarge (what : String) (size limit : Nat)
  | zeroLimit
  | zeroTtl
  | longTtl (secs : Nat)
  | closeCode (code : Nat)
  | longReason
deriving DecidableEq

namespace Refusal

def kind : Refusal → ErrorKind
  | tooLarge .. => .payloadTooLarge
  | _ => .invalidRequest

def message : Refusal → String
  | emptyName field => field ++ " must not be empty"
  | tooLarge what size limit =>
      what ++ " is " ++ toString size ++ " bytes, limit is " ++ toString limit ++ " bytes"
  | zeroLimit => "query limit must be positive"
  | zeroTtl => "cache ttl must be positive"
  | longTtl secs =>
      "cache ttl is " ++ toString secs ++ "s, limit is " ++ toString maxCacheTtl.secs ++ "s"
  | closeCode code => "close code " ++ toString code ++ " is out of range"
  | longReason => "close reason exceeds 123 bytes"

def first : List (Option Refusal) → Option Refusal
  | [] => none
  | some refusal :: _ => some refusal
  | none :: rest => first rest

def requireName (field value : String) : Option Refusal :=
  if value = "" then some (.emptyName field) else none

def limitSize (config : Config) (what : String) (size : Nat) : Option Refusal :=
  if config.maxPayloadBytes < size then some (.tooLarge what size config.maxPayloadBytes) else none

def limitTtl : Option Duration → Option Refusal
  | none => none
  | some ttl =>
      if ttl.isZero then some .zeroTtl
      else if maxCacheTtl.inNanos < ttl.inNanos then some (.longTtl ttl.secs)
      else none

theorem limitTtl_eq_none_iff (ttl : Duration) :
    limitTtl (some ttl) = none ↔ 0 < ttl.inNanos ∧ ttl.inNanos ≤ maxCacheTtl.inNanos := by
  have zero := ttl.isZero_iff
  rw [limitTtl]
  split
  · next isZero => simp [zero.mp isZero]
  · next positive =>
    have lower : 0 < ttl.inNanos := Nat.pos_of_ne_zero fun none => positive (zero.mpr none)
    simp [lower]

-- The longest reason that fits a control frame, in bytes.
def maxReason : Nat := 123

def storage? (config : Config) : Storage.Request → Option Refusal
  | .get table key | .delete table key =>
      first [requireName "table" table, requireName "key" key]
  | .put table key value _ =>
      first [requireName "table" table, requireName "key" key,
        limitSize config "record" value.size]
  | .query table _ limit =>
      first [requireName "table" table, if limit = some 0 then some .zeroLimit else none]

def object? (config : Config) : Objects.Request → Option Refusal
  | .put bucket key body _ =>
      first [requireName "bucket" bucket, requireName "key" key,
        limitSize config "object body" body.length]
  | .get bucket key | .delete bucket key =>
      first [requireName "bucket" bucket, requireName "key" key]
  | .list bucket _ => requireName "bucket" bucket

def appliedTtl (config : Config) (ttl : Option Duration) : Option Duration :=
  match ttl with
  | some ttl => some ttl
  | none => config.defaultCacheTtl

def cache? (config : Config) : Cache.Request → Option Refusal
  | .get key | .delete key => requireName "cache key" key
  | .set key value ttl =>
      first [requireName "cache key" key, limitSize config "cache value" value.length,
        limitTtl (appliedTtl config ttl)]

def messaging? (config : Config) : Messaging.Request → Option Refusal
  | .publish topic payload _ =>
      first [requireName "topic" topic, limitSize config "message payload" payload.length]
  | .receive subscription => requireName "subscription" subscription
  | .acknowledge subscription messageId =>
      first [requireName "subscription" subscription, requireName "message id" messageId]

def transport? (config : Config) : Transport.Request → Option Refusal
  | .send connection frame =>
      first [requireName "connection id" connection, limitSize config "frame" frame.size]
  | .receive connection => requireName "connection id" connection
  | .close connection code reason =>
      first [requireName "connection id" connection,
        if 1000 ≤ code ∧ code ≤ 4999 then none else some (.closeCode code),
        if maxReason < (Bytes.ofText reason).length then some .longReason else none]

end Refusal

def Config.refusal? (config : Config) : Effect → Option Refusal
  | .storage request => Refusal.storage? config request
  | .object request => Refusal.object? config request
  | .cache request => Refusal.cache? config request
  | .messaging request => Refusal.messaging? config request
  | .transport request => Refusal.transport? config request

def Config.error (config : Config) (effect : Effect) (kind : ErrorKind) (message : String) :
    EffectError :=
  (EffectError.ofKind effect kind message).withRetryable (config.isRetryable kind)

def Refusal.error (config : Config) (effect : Effect) (refusal : Refusal) : EffectError :=
  config.error effect refusal.kind refusal.message

end EffectPrograms
