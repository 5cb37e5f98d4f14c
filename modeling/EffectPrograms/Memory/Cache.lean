import EffectPrograms.Dict
import EffectPrograms.Effect.Cache

set_option autoImplicit false

namespace EffectPrograms.Memory

structure Slot where
  value : Bytes
  deadline : Option Nat
deriving DecidableEq

namespace Slot

def isLive (now : Nat) (slot : Slot) : Bool :=
  match slot.deadline with
  | some deadline => decide (now < deadline)
  | none => true

section
variable {now later : Nat}

theorem isLive_of_le {slot : Slot} (past : now ≤ later) (live : slot.isLive later = true) :
    slot.isLive now = true := by
  rw [isLive] at live ⊢
  split
  · next deadline timed =>
    rw [timed] at live
    exact decide_eq_true (Nat.lt_of_le_of_lt past (of_decide_eq_true live))
  · rfl

theorem filter_isLive (past : now ≤ later) (slot : Option Slot) :
    (slot.filter (isLive now)).filter (isLive later) = slot.filter (isLive later) := by
  refine Option.ext fun kept => ?_
  simp only [Option.filter_eq_some_iff]
  exact ⟨fun ⟨⟨held, _⟩, live⟩ => ⟨held, live⟩,
    fun ⟨held, live⟩ => ⟨⟨held, isLive_of_le past live⟩, live⟩⟩

end

end Slot

structure CacheTable where
  slots : Dict Slot
  now : Nat
deriving DecidableEq

namespace CacheTable

def empty : CacheTable := ⟨∅, 0⟩

-- The first moment, in nanoseconds, that the clock cannot show.
def clockRange : Nat := 0x8000000000000000 * 1000000000

def advance (cache : CacheTable) (time : Duration) : CacheTable :=
  { cache with now := cache.now + time.inNanos }

def live? (cache : CacheTable) (key : String) : Option Slot :=
  (cache.slots.get? key).filter (Slot.isLive cache.now)

def contains (cache : CacheTable) (key : String) : Bool := (cache.live? key).isSome

def purgeExpired (cache : CacheTable) : Nat × CacheTable :=
  let kept := cache.slots.filter (Slot.isLive cache.now)
  (cache.slots.size - kept.size, { cache with slots := kept })

-- An expired slot is dropped when it is asked for.
def get (cache : CacheTable) (key : String) : Option Bytes × CacheTable :=
  match cache.live? key with
  | some slot => (some slot.value, cache)
  | none => (none, { cache with slots := cache.slots.erase key })

def deadline (now : Nat) : Option Duration → Option Nat
  | some ttl => if now + ttl.inNanos < clockRange then some (now + ttl.inNanos) else none
  | none => none

def set (cache : CacheTable) (key : String) (value : Bytes) (ttl : Option Duration) : CacheTable :=
  { cache with slots := cache.slots.insert key ⟨value, deadline cache.now ttl⟩ }

def delete (cache : CacheTable) (key : String) : Bool × CacheTable :=
  (cache.contains key, { cache with slots := cache.slots.erase key })

section
variable (cache : CacheTable)

theorem live?_set (key other : String) (value : Bytes) (ttl : Option Duration) :
    (cache.set key value ttl).live? other =
      if other = key then
        (some ⟨value, deadline cache.now ttl⟩ : Option Slot).filter (Slot.isLive cache.now)
      else cache.live? other := by
  generalize made : deadline cache.now ttl = expiry
  rw [live?, set, made, Dict.get?_insert]
  split
  · rfl
  · rfl

theorem live?_delete (key other : String) :
    (cache.delete key).2.live? other = if other = key then none else cache.live? other := by
  rw [live?, delete, Dict.get?_erase]
  split <;> rfl

-- The slot that a read drops was not live.
theorem live?_get (key other : String) : (cache.get key).2.live? other = cache.live? other := by
  rw [get]
  split
  · rfl
  · next expired =>
    rw [live?, Dict.get?_erase]
    split
    · next same => rw [same, expired]; rfl
    · rfl

theorem live?_purgeExpired (key : String) : cache.purgeExpired.2.live? key = cache.live? key := by
  rw [live?, purgeExpired, Dict.get?_filter]
  exact Slot.filter_isLive (Nat.le_refl cache.now) _

theorem live?_advance (time : Duration) (key : String) :
    (cache.advance time).live? key =
      (cache.live? key).filter (Slot.isLive (cache.now + time.inNanos)) := by
  rw [live?, live?, advance, Slot.filter_isLive (Nat.le_add_right ..)]

theorem get_fst (key : String) : (cache.get key).1 = (cache.live? key).map Slot.value := by
  rw [get]
  cases cache.live? key <;> rfl

end

end CacheTable
end EffectPrograms.Memory
