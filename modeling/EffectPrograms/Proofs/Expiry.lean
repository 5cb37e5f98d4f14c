import EffectPrograms.Memory.Backends
import Mathlib.Data.List.Induction

set_option autoImplicit false

namespace EffectPrograms.Memory

-- What is asked of a cache; time passes in between.
inductive CacheCall where
  | get (key : String)
  | set (key : String) (value : Bytes) (ttl : Option Duration)
  | delete (key : String)
  | contains (key : String)
  | purge
  | advance (time : Duration)

inductive CacheAnswer where
  | got (answer : Backed (Option Bytes))
  | stored (answer : Backed Unit)
  | deleted (answer : Backed Bool)
  | contained (answer : Bool)
  | purged (count : Nat)
  | advanced

namespace CacheCall

def perform (call : CacheCall) (backends : Backends) : CacheAnswer × Backends :=
  match call with
  | get key =>
      let (answer, left) := Backends.cacheStore.get key backends
      (.got answer, left)
  | set key value ttl =>
      let (answer, left) := Backends.cacheStore.set key value ttl backends
      (.stored answer, left)
  | delete key =>
      let (answer, left) := Backends.cacheStore.delete key backends
      (.deleted answer, left)
  | contains key => (.contained (backends.cache.store.contains key), backends)
  | purge =>
      let (count, left) := backends.cache.store.purgeExpired
      (.purged count, { backends with cache := { backends.cache with store := left } })
  | advance time =>
      let left := backends.cache.store.advance time
      (.advanced, { backends with cache := { backends.cache with store := left } })

-- Backends whose cache is empty, at a time that its clock shows; no failure is scheduled.
def begun (start : Nat) : Backends := { Backends.empty with cache := .of ⟨∅, start⟩ }

def reached (start : Nat) (calls : List CacheCall) : Backends :=
  calls.foldl (fun backends call => (call.perform backends).2) (begun start)

def elapsed : CacheCall → Nat
  | advance time => time.inNanos
  | _ => 0

def clock (start : Nat) (calls : List CacheCall) : Nat :=
  calls.foldl (fun now call => now + call.elapsed) start

def settles (key : String) : CacheCall → Bool
  | set other _ _ | delete other => decide (key = other)
  | _ => false

-- A call that is neither a read nor a purge.
def acts : CacheCall → Bool
  | set .. | delete _ | advance _ => true
  | _ => false

-- The last call that settled a key was to set a value, and was made at a time.
def LastSet (start : Nat) (calls : List CacheCall) (key : String) (value : Bytes)
    (ttl : Option Duration) (made : Nat) : Prop :=
  ∃ before after, calls = before ++ set key value ttl :: after ∧
    (∀ call ∈ after, call.settles key = false) ∧ made = clock start before

-- An expiry that has not come: there is none, or it lies ahead, or past the range of the clock.
def Unexpired (made : Nat) (ttl : Option Duration) (now : Nat) : Prop :=
  ∀ span, ttl = some span →
    now < made + span.inNanos ∨ CacheTable.clockRange ≤ made + span.inNanos

-- The value that a key must still have.
def Keeps (start : Nat) (calls : List CacheCall) (key : String) (value : Bytes) : Prop :=
  ∃ ttl made, LastSet start calls key value ttl made ∧ Unexpired made ttl (clock start calls)

section
variable {start made : Nat} {calls : List CacheCall} {call : CacheCall} {key : String}
  {value : Bytes} {ttl : Option Duration}

theorem lastSet_snoc :
    LastSet start (calls ++ [call]) key value ttl made ↔
      call = set key value ttl ∧ made = clock start calls ∨
        call.settles key = false ∧ LastSet start calls key value ttl made := by
  constructor
  · rintro ⟨before, after, split, idle, made⟩
    rcases List.eq_nil_or_concat after with rfl | ⟨after, last, rfl⟩
    · obtain ⟨rfl, same⟩ := List.append_inj' split rfl
      exact .inl ⟨List.singleton_inj.mp same, made⟩
    · have regrouped : calls ++ [call] = (before ++ set key value ttl :: after) ++ [last] := by
        simpa using split
      obtain ⟨earlier, same⟩ := List.append_inj' regrouped rfl
      obtain rfl := List.singleton_inj.mp same
      exact .inr ⟨idle call (by simp),
        before, after, earlier, fun other member => idle other (by simp [member]), made⟩
  · rintro (⟨rfl, rfl⟩ | ⟨aside, before, after, rfl, idle, made⟩)
    · exact ⟨calls, [], rfl, by simp, rfl⟩
    · refine ⟨before, after ++ [call], by simp, fun other member => ?_, made⟩
      rcases List.mem_append.mp member with earlier | last
      · exact idle other earlier
      · rwa [List.mem_singleton.mp last]

theorem lastSet_snoc_aside (aside : call.settles key = false) :
    LastSet start (calls ++ [call]) key value ttl made ↔ LastSet start calls key value ttl made := by
  refine lastSet_snoc.trans ⟨?_, fun earlier => .inr ⟨aside, earlier⟩⟩
  rintro (⟨rfl, -⟩ | ⟨-, earlier⟩)
  · simp [settles] at aside
  · exact earlier

theorem lastSet_snoc_settled (settled : call.settles key = true) :
    LastSet start (calls ++ [call]) key value ttl made ↔
      call = set key value ttl ∧ made = clock start calls := by
  refine lastSet_snoc.trans ⟨?_, .inl⟩
  rintro (newest | ⟨aside, -⟩)
  · exact newest
  · exact absurd (settled.symm.trans aside) Bool.true_eq_false.mp

end

end CacheCall

namespace CacheTable

theorem isLive_deadline (now made : Nat) (value : Bytes) (ttl : Option Duration) :
    Slot.isLive now ⟨value, deadline made ttl⟩ = true ↔ CacheCall.Unexpired made ttl now := by
  cases ttl with
  | none => simp [Slot.isLive, deadline, CacheCall.Unexpired]
  | some span =>
    rw [deadline]
    -- The range is a number too large to be counted out.
    generalize reach : clockRange = range
    have told : CacheCall.Unexpired made (some span) now ↔
        now < made + span.inNanos ∨ range ≤ made + span.inNanos := by
      simp [CacheCall.Unexpired, reach]
    rw [told]
    split
    · next shown => simp [Slot.isLive, Nat.not_le.mpr shown]
    · next beyond => simp [Slot.isLive, Nat.not_lt.mp beyond]

end CacheTable

-- What a key would hold, and the time, if no slot were ever dropped.
structure Held where
  now : Nat
  slot : Option Slot

namespace CacheCall

def settle (key : String) (held : Held) : CacheCall → Held
  | set other value ttl =>
      if key = other then ⟨held.now, some ⟨value, CacheTable.deadline held.now ttl⟩⟩ else held
  | delete other => if key = other then ⟨held.now, none⟩ else held
  | advance time => ⟨held.now + time.inNanos, held.slot⟩
  | get _ | contains _ | purge => held

-- What calls do to a cache when no failure is scheduled.
def work (call : CacheCall) (cache : CacheTable) : CacheAnswer × CacheTable :=
  match call with
  | get key => (.got (.ok (cache.get key).1), (cache.get key).2)
  | set key value ttl => (.stored (.ok ()), cache.set key value ttl)
  | delete key => (.deleted (.ok (cache.delete key).1), (cache.delete key).2)
  | contains key => (.contained (cache.contains key), cache)
  | purge => (.purged cache.purgeExpired.1, cache.purgeExpired.2)
  | advance time => (.advanced, cache.advance time)

theorem perform_eq (call : CacheCall) (backends : Backends) (cache : CacheTable) :
    call.perform { backends with cache := .of cache } =
      ((call.work cache).1, { backends with cache := .of (call.work cache).2 }) := by
  cases call <;> rfl

end CacheCall

-- A cache follows one that never drops a slot: they agree on the slot that is live.
structure Follows (key : String) (held : Held) (cache : CacheTable) : Prop where
  time : cache.now = held.now
  live : cache.live? key = held.slot.filter (Slot.isLive held.now)

namespace Follows
variable {key : String} {held : Held} {cache : CacheTable}

theorem step (follows : Follows key held cache) (call : CacheCall) :
    Follows key (call.settle key held) (call.work cache).2 := by
  obtain ⟨time, live⟩ := follows
  cases call with
  | get other =>
    refine ⟨?_, (cache.live?_get other key).trans live⟩
    rw [CacheCall.work, CacheTable.get]
    split <;> exact time
  | set other value ttl =>
    have shown := cache.live?_set other key value ttl
    rw [time] at shown
    by_cases own : key = other
    · rw [if_pos own] at shown
      rw [CacheCall.settle, if_pos own]
      exact ⟨time, shown⟩
    · rw [if_neg own, live] at shown
      rw [CacheCall.settle, if_neg own]
      exact ⟨time, shown⟩
  | delete other =>
    have shown := cache.live?_delete other key
    by_cases own : key = other
    · rw [if_pos own] at shown
      rw [CacheCall.settle, if_pos own]
      exact ⟨time, shown⟩
    · rw [if_neg own, live] at shown
      rw [CacheCall.settle, if_neg own]
      exact ⟨time, shown⟩
  | contains other => exact ⟨time, live⟩
  | purge => exact ⟨time, (cache.live?_purgeExpired key).trans live⟩
  | advance span =>
    have shown := cache.live?_advance span key
    rw [live, time, Slot.filter_isLive (Nat.le_add_right ..)] at shown
    dsimp only [CacheCall.work, CacheCall.settle]
    exact ⟨by rw [CacheTable.advance, time], shown⟩

theorem run (follows : Follows key held cache) (calls : List CacheCall) :
    Follows key (calls.foldl (CacheCall.settle key) held)
      (calls.foldl (fun cache call => (call.work cache).2) cache) := by
  induction calls generalizing held cache with
  | nil => exact follows
  | cons call later ih => exact ih (follows.step call)

end Follows

namespace CacheCall
variable {start : Nat} {calls : List CacheCall} {key : String}

def held (start : Nat) (calls : List CacheCall) (key : String) : Held :=
  calls.foldl (settle key) ⟨start, none⟩

def left (start : Nat) (calls : List CacheCall) : CacheTable :=
  calls.foldl (fun cache call => (call.work cache).2) ⟨∅, start⟩

theorem reached_eq (start : Nat) (calls : List CacheCall) :
    reached start calls = { Backends.empty with cache := .of (left start calls) } := by
  rw [reached, begun, left]
  generalize (⟨∅, start⟩ : CacheTable) = cache
  induction calls generalizing cache with
  | nil => rfl
  | cons call later ih => rw [List.foldl_cons, List.foldl_cons, perform_eq, ih]

theorem held_snoc (call : CacheCall) :
    held start (calls ++ [call]) key = call.settle key (held start calls key) := by
  rw [held, List.foldl_append]
  rfl

theorem settle_now (call : CacheCall) (held : Held) :
    (call.settle key held).now = held.now + call.elapsed := by
  cases call with
  | set | delete =>
    rw [settle]
    split <;> rfl
  | _ => rfl

theorem settle_slot_of_aside {call : CacheCall} (aside : call.settles key = false) (held : Held) :
    (call.settle key held).slot = held.slot := by
  cases call with
  | set other | delete other =>
    have apart : ¬ key = other := of_decide_eq_false aside
    rw [settle, if_neg apart]
  | _ => rw [settle]

theorem held_now (start : Nat) (calls : List CacheCall) (key : String) :
    (held start calls key).now = clock start calls := by
  induction calls using List.reverseRecOn with
  | nil => rfl
  | append_singleton calls call ih =>
    rw [held_snoc, settle_now, ih, clock, clock, List.foldl_append, List.foldl_cons, List.foldl_nil]

-- What a cache without evictions holds under a key is what was last set there.
theorem held_slot_iff {slot : Slot} :
    (held start calls key).slot = some slot ↔ ∃ value ttl made,
      LastSet start calls key value ttl made ∧ slot = ⟨value, CacheTable.deadline made ttl⟩ := by
  induction calls using List.reverseRecOn with
  | nil => simp [held, LastSet]
  | append_singleton calls call ih =>
    rw [held_snoc]
    cases settled : call.settles key with
    | false => simp only [settle_slot_of_aside settled, ih, lastSet_snoc_aside settled]
    | true =>
      simp only [lastSet_snoc_settled settled]
      cases call with
      | set other value ttl =>
        obtain rfl : key = other := of_decide_eq_true settled
        rw [settle, if_pos rfl, held_now]
        constructor
        · rintro ⟨⟩
          exact ⟨value, ttl, clock start calls, ⟨rfl, rfl⟩, rfl⟩
        · rintro ⟨_, _, _, ⟨⟨⟩, rfl⟩, rfl⟩
          rfl
      | delete other =>
        obtain rfl : key = other := of_decide_eq_true settled
        rw [settle, if_pos rfl]
        exact ⟨nofun, fun ⟨_, _, _, ⟨same, _⟩, _⟩ => nomatch same⟩
      | _ => cases settled

theorem left_follows (start : Nat) (calls : List CacheCall) (key : String) :
    Follows key (held start calls key) (left start calls) :=
  Follows.run ⟨rfl, rfl⟩ calls

theorem live_iff (value : Bytes) :
    ((left start calls).live? key).map Slot.value = some value ↔ Keeps start calls key value := by
  obtain ⟨-, live⟩ := left_follows start calls key
  rw [live, held_now, Option.map_eq_some_iff]
  simp only [Option.filter_eq_some_iff, held_slot_iff]
  constructor
  · rintro ⟨_, ⟨⟨_, ttl, made, last, rfl⟩, live⟩, rfl⟩
    exact ⟨ttl, made, last, (CacheTable.isLive_deadline ..).mp live⟩
  · rintro ⟨ttl, made, last, unexpired⟩
    exact ⟨_, ⟨⟨value, ttl, made, last, rfl⟩, (CacheTable.isLive_deadline ..).mpr unexpired⟩, rfl⟩

theorem contains_iff :
    (left start calls).contains key = true ↔ ∃ value, Keeps start calls key value := by
  simp only [← live_iff]
  rw [CacheTable.contains]
  cases (left start calls).live? key <;> simp

theorem settle_of_idle {call : CacheCall} (idle : call.acts = false) (held : Held) :
    call.settle key held = held := by
  cases call with
  | get | contains | purge => rfl
  | _ => cases idle

theorem held_filter (start : Nat) (calls : List CacheCall) (key : String) :
    held start (calls.filter acts) key = held start calls key := by
  rw [held, held, List.foldl_filter]
  congr
  funext held call
  split
  · rfl
  · next idle => exact (settle_of_idle (Bool.eq_false_iff.mpr idle) held).symm

theorem answer_congr {one other : CacheTable} (alike : ∀ key, one.live? key = other.live? key)
    {call : CacheCall} (kept : call ≠ purge) : (call.work one).1 = (call.work other).1 := by
  cases call with
  | get key => rw [work, work, CacheTable.get_fst, CacheTable.get_fst, alike]
  | contains key => rw [work, work, CacheTable.contains, CacheTable.contains, alike]
  | delete key =>
    rw [work, work, CacheTable.delete, CacheTable.delete, CacheTable.contains, CacheTable.contains,
      alike]
  | purge => exact absurd rfl kept
  | set | advance => rfl

/-- A key is answered by the value that was last set there, as long as its expiry has not come, and
by nothing otherwise. So of two runs that differ in reads and purges alone, no later answer tells
which one was made. -/
theorem expiry_unseen (start : Nat) (calls : List CacheCall) (key : String) :
    (∃ found, ((get key).perform (reached start calls)).1 = .got (.ok found) ∧
      ∀ value, found = some value ↔ Keeps start calls key value) ∧
    (∃ present, ((contains key).perform (reached start calls)).1 = .contained present ∧
      ((delete key).perform (reached start calls)).1 = .deleted (.ok present) ∧
      (present = true ↔ ∃ value, Keeps start calls key value)) ∧
    ∀ other, other.filter acts = calls.filter acts → ∀ call, call ≠ purge →
      (call.perform (reached start other)).1 = (call.perform (reached start calls)).1 := by
  simp only [reached_eq, perform_eq]
  refine ⟨⟨_, rfl, fun value => ?_⟩, ⟨_, rfl, rfl, contains_iff⟩, ?_⟩
  · rw [CacheTable.get_fst]
    exact live_iff value
  · intro other same call kept
    refine answer_congr (fun name => ?_) kept
    have alike : held start other name = held start calls name := by
      rw [← held_filter, same, held_filter]
    rw [(left_follows start other name).live, (left_follows start calls name).live, alike]

end CacheCall
end EffectPrograms.Memory
