import EffectPrograms.Proofs.Coherence
import EffectPrograms.Proofs.Expiry

set_option autoImplicit false

namespace EffectPrograms.Memory

-- What happens to a cache that is shared: either user asks something of it, or time passes.
inductive SharedUse where
  | one (request : Cache.Request)
  | other (request : Cache.Request)
  | passes (time : Duration)

namespace SharedUse

def isOther : SharedUse → Bool
  | other _ => true
  | one _ | passes _ => false

-- Uses without those of the other user.
def alone (uses : List SharedUse) : List SharedUse := uses.filter fun use => !use.isOther

section
variable (mine theirs : Dispatcher Backends)

def perform (use : SharedUse) (backends : Backends) :
    Option (Poll (Outcome Result)) × Backends :=
  match use with
  | one request =>
      let (outcome, left) := mine.interpret (.cache request) backends
      (some outcome, left)
  | other request => (none, (theirs.interpret (.cache request) backends).2)
  | passes time => (none, backends.advance time)

def outcomes : List SharedUse → Backends → List (Poll (Outcome Result))
  | [], _ => []
  | use :: later, backends =>
      let (outcome, left) := use.perform mine theirs backends
      outcome.toList ++ outcomes later left

-- What the one user gets does not depend on what the other does, whatever is in the cache.
def Isolated : Prop :=
  ∀ (start : Backends) (uses : List SharedUse), start.cache.faults = ∅ →
    outcomes mine theirs (alone uses) start = outcomes mine theirs uses start

end
end SharedUse

section
variable (config : Config)

-- The call of the cache that a request comes to.
def CacheCall.ofRequest : Cache.Request → CacheCall
  | .get key => .get (config.cacheKey key)
  | .set key value ttl => .set (config.cacheKey key) value (Refusal.appliedTtl config ttl)
  | .delete key => .delete (config.cacheKey key)

def CacheTable.response (cache : CacheTable) : (request : Cache.Request) → request.Response
  | .get key => CacheStore.looked (cache.get (config.cacheKey key)).1
  | .set _ _ ttl => ⟨Refusal.appliedTtl config ttl⟩
  | .delete key => Removal.ofExisted (cache.delete (config.cacheKey key)).1

-- What a request gets of a cache, and what it leaves of it.
def CacheTable.answer (request : Cache.Request) (cache : CacheTable) :
    Outcome Result × CacheTable :=
  match config.refusal? (.cache request) with
  | some refusal => (.error (refusal.error config (.cache request)), cache)
  | none =>
      (.ok (.cache (request.answer (cache.response config request))),
        ((CacheCall.ofRequest config request).work cache).2)

end

namespace Backends
variable {config : Config} {dispatcher : Dispatcher Backends}

theorem interpret_cache (valid : Backends.dispatcher config = .ok dispatcher) (start : Backends)
    (cache : CacheTable) (request : Cache.Request) :
    dispatcher.interpret (.cache request) (start.withTable cache) =
      (.ready (cache.answer config request).1,
        start.withTable (cache.answer config request).2) := by
  rw [CacheTable.answer]
  cases refused : config.refusal? (.cache request) with
  | some refusal => exact interpret_refused valid refused _
  | none =>
    rw [interpret_accepted valid refused]
    cases request <;> rfl

theorem withTable_of_unstruck {start : Backends} (unstruck : start.cache.faults = ∅) :
    start.withTable start.cache.store = start := by
  obtain ⟨records, objects, ⟨store, faults⟩, broker, sessions⟩ := start
  cases unstruck
  rfl

end Backends

section
variable {config : Config} {dispatcher : Dispatcher Backends} {key : String}

theorem CacheTable.answer_read (named : key ≠ "") (cache : CacheTable) :
    (cache.answer config (.get key)).1 =
      .ok (.cache (.lookup
        (CacheStore.looked ((cache.live? (config.cacheKey key)).map Slot.value)))) := by
  have accepted : config.refusal? (.cache (.get key)) = none := if_neg named
  simp only [answer, accepted, response, CacheTable.get_fst]
  rfl

theorem CacheTable.answer_write (valid : Backends.dispatcher config = .ok dispatcher)
    (named : key ≠ "") (cache : CacheTable) :
    (cache.answer config (.set key [] none)).2 =
      cache.set (config.cacheKey key) [] config.defaultCacheTtl := by
  have timed := Config.defaultCacheTtl_fits (Backends.fault?_of_dispatcher valid)
  have accepted : config.refusal? (.cache (.set key [] none)) = none := by
    simp [Config.refusal?, Refusal.cache?, Refusal.requireName, named, Refusal.limitSize,
      Refusal.appliedTtl, timed, Refusal.first]
  simp only [answer, accepted]
  rfl

theorem CacheTable.live?_write (valid : Backends.dispatcher config = .ok dispatcher)
    (cache : CacheTable) (name : String) :
    ((cache.set name [] config.defaultCacheTtl).live? name).map Slot.value = some [] := by
  have timed := Config.defaultCacheTtl_fits (Backends.fault?_of_dispatcher valid)
  have live := (isLive_deadline cache.now cache.now [] config.defaultCacheTtl).mpr <| by
    intro span given
    rw [given, Refusal.limitTtl_eq_none_iff] at timed
    exact .inl (Nat.lt_add_of_pos_right timed.1)
  rw [live?_set, if_pos rfl, Option.filter_some, if_pos live]
  rfl

end

-- Two caches that look alike to the user of some configuration: under each of its keys, both follow
-- one cache that never drops a slot.
def Alike (config : Config) (left right : CacheTable) : Prop :=
  ∀ key, ∃ held, Follows (config.cacheKey key) held left ∧ Follows (config.cacheKey key) held right

def KeysApart (config config' : Config) : Prop :=
  ∀ key key', config.cacheKey key ≠ config'.cacheKey key'

namespace Alike
variable {config config' : Config} {left right : CacheTable}

theorem refl (cache : CacheTable) : Alike config cache cache :=
  fun key => ⟨⟨cache.now, cache.slots.get? (config.cacheKey key)⟩, ⟨rfl, rfl⟩, ⟨rfl, rfl⟩⟩

theorem work (alike : Alike config left right) (call : CacheCall) :
    Alike config (call.work left).2 (call.work right).2 := by
  intro key
  obtain ⟨held, first, second⟩ := alike key
  exact ⟨call.settle _ held, first.step call, second.step call⟩

theorem response (alike : Alike config left right) (request : Cache.Request) :
    left.response config request = right.response config request := by
  have live (key : String) :
      left.live? (config.cacheKey key) = right.live? (config.cacheKey key) := by
    obtain ⟨held, first, second⟩ := alike key
    exact first.live.trans second.live.symm
  cases request with
  | get key => simp only [CacheTable.response, CacheTable.get_fst, live]
  | set key value ttl => rfl
  | delete key =>
    simp only [CacheTable.response, CacheTable.delete, CacheTable.contains, live]

theorem answer (alike : Alike config left right) (request : Cache.Request) :
    (left.answer config request).1 = (right.answer config request).1 ∧
      Alike config (left.answer config request).2 (right.answer config request).2 := by
  simp only [CacheTable.answer]
  split
  · exact ⟨rfl, alike⟩
  · exact ⟨by rw [alike.response request], alike.work _⟩

theorem aside (alike : Alike config left right) (apart : KeysApart config config')
    (request : Cache.Request) : Alike config left (right.answer config' request).2 := by
  simp only [CacheTable.answer]
  split
  · exact alike
  · intro key
    obtain ⟨held, first, second⟩ := alike key
    have kept : (CacheCall.ofRequest config' request).settle (config.cacheKey key) held = held := by
      cases request with
      | get other => rfl
      | set other value ttl => exact if_neg (apart key other)
      | delete other => exact if_neg (apart key other)
    have follows := second.step (CacheCall.ofRequest config' request)
    rw [kept] at follows
    exact ⟨held, first, follows⟩

end Alike

namespace SharedUse
variable {config config' : Config} {mine theirs : Dispatcher Backends}

section
variable (valid : Backends.dispatcher config = .ok mine)
  (valid' : Backends.dispatcher config' = .ok theirs)
include valid valid'

theorem outcomes_alike (apart : KeysApart config config') (start : Backends)
    (uses : List SharedUse) {left right : CacheTable} (alike : Alike config left right) :
    outcomes mine theirs (alone uses) (start.withTable left) =
      outcomes mine theirs uses (start.withTable right) := by
  induction uses generalizing left right with
  | nil => rfl
  | cons use later ih =>
    cases use with
    | one request =>
      obtain ⟨same, kept⟩ := alike.answer request
      simp only [alone, List.filter_cons, isOther, Bool.not_false, if_true, outcomes, perform,
        Backends.interpret_cache valid, same]
      exact congrArg _ (ih kept)
    | other request =>
      simp only [alone, List.filter_cons, isOther, Bool.not_true, Bool.false_eq_true, if_false,
        outcomes, perform, Backends.interpret_cache valid', Option.toList_none, List.nil_append]
      exact ih (alike.aside apart request)
    | passes time =>
      have waited (cache : CacheTable) : (start.withTable cache).advance time =
        start.withTable (cache.advance time) := rfl
      simp only [alone, List.filter_cons, isOther, Bool.not_false, if_true, outcomes, perform,
        waited, Option.toList_none, List.nil_append]
      exact ih (alike.work (.advance time))

theorem isolated_of_apart (apart : KeysApart config config') : Isolated mine theirs := by
  intro start uses unstruck
  rw [← Backends.withTable_of_unstruck unstruck]
  exact outcomes_alike valid valid' apart start uses (.refl _)

theorem outcomes_read (start : Backends) (cache : CacheTable) (request request' : Cache.Request) :
    outcomes mine theirs [.one request] (start.withTable cache) =
        [.ready (cache.answer config request).1] ∧
      outcomes mine theirs [.other request', .one request] (start.withTable cache) =
        [.ready ((cache.answer config' request').2.answer config request).1] := by
  simp only [outcomes, perform, Backends.interpret_cache valid, Backends.interpret_cache valid',
    Option.toList_none, Option.toList_some, List.nil_append, List.append_nil, and_self]

theorem not_isolated_of_meet {key key' : String} (named : key ≠ "") (named' : key' ≠ "")
    (meet : config.cacheKey key = config'.cacheKey key') : ¬ Isolated mine theirs := by
  intro isolated
  obtain ⟨without, after⟩ :=
    outcomes_read valid valid' .empty .empty (.get key) (.set key' [] none)
  have same := without.symm.trans ((isolated .empty _ rfl).trans after)
  rw [CacheTable.answer_read named, CacheTable.answer_read named,
    CacheTable.answer_write valid' named', meet, CacheTable.live?_write valid'] at same
  cases same

end
end SharedUse

-- A namespace within another continues it after the character that is put before a key.
def Within (inner outer : String) : Prop := ∃ rest, inner = outer ++ ":" ++ rest

theorem within_of_longer {name name' : String} {key key' between : List Char}
    (longer : name'.toList = name.toList ++ between)
    (left : ':' :: key = between ++ ':' :: key') : name' = name ∨ Within name' name := by
  cases between with
  | nil => exact .inl (String.toList_injective (longer.trans (List.append_nil _)))
  | cons first between =>
    obtain rfl := (List.cons.inj left).1
    refine .inr ⟨.ofList between, String.toList_injective ?_⟩
    simp [longer]

theorem within_of_meet {name name' key key' : String} (apart : name ≠ name')
    (meet : name ++ ":" ++ key = name' ++ ":" ++ key') : Within name' name ∨ Within name name' := by
  have same := congrArg String.toList meet
  simp only [String.toList_append, List.append_assoc] at same
  obtain ⟨between, longer, left⟩ | ⟨between, longer, left⟩ := List.append_eq_append_iff.mp same
  · exact .inl ((within_of_longer longer left).resolve_left apart.symm)
  · exact .inr ((within_of_longer longer left).resolve_left apart)

theorem Within.meet {name name' : String} (within : Within name name') :
    ∃ key key', key ≠ "" ∧ key' ≠ "" ∧ name ++ ":" ++ key = name' ++ ":" ++ key' := by
  obtain ⟨rest, rfl⟩ := within
  refine ⟨"k", rest ++ ":" ++ "k", by decide, by simp, ?_⟩
  simp only [String.append_assoc]

/-- Two users with namespaces of their own are isolated from each other exactly if neither namespace
lies within the other. -/
theorem namespaces_isolate {config config' : Config} {mine theirs : Dispatcher Backends}
    (valid : Backends.dispatcher config = .ok mine)
    (valid' : Backends.dispatcher config' = .ok theirs) {name name' : String}
    (set : config.cacheNamespace = some name) (set' : config'.cacheNamespace = some name')
    (apart : name ≠ name') :
    SharedUse.Isolated mine theirs ↔ ¬ Within name name' ∧ ¬ Within name' name := by
  have joined (key : String) : config.cacheKey key = name ++ ":" ++ key := by
    rw [Config.cacheKey, set]
  have joined' (key : String) : config'.cacheKey key = name' ++ ":" ++ key := by
    rw [Config.cacheKey, set']
  constructor
  · intro isolated
    constructor
    · intro inside
      obtain ⟨key, key', named, named', meet⟩ := inside.meet
      rw [← joined, ← joined'] at meet
      exact SharedUse.not_isolated_of_meet valid valid' named named' meet isolated
    · intro outside
      obtain ⟨key', key, named', named, meet⟩ := outside.meet
      rw [← joined, ← joined'] at meet
      exact SharedUse.not_isolated_of_meet valid valid' named named' meet.symm isolated
  · rintro ⟨outside, outside'⟩
    refine SharedUse.isolated_of_apart valid valid' fun key key' meet => ?_
    rw [joined, joined'] at meet
    exact (within_of_meet apart meet).elim outside' outside

theorem namespaces_isolate_beside :
    let config := Config.default.withCacheNamespace "one"
    let config' := Config.default.withCacheNamespace "one-two"
    ∃ mine theirs, Backends.dispatcher config = .ok mine ∧
      Backends.dispatcher config' = .ok theirs ∧
      config.cacheNamespace = some "one" ∧ config'.cacheNamespace = some "one-two" ∧
      "one" ≠ "one-two" ∧ SharedUse.Isolated mine theirs := by
  intro config config'
  have valid : Backends.dispatcher config =
      .ok (Backends.dispatcherFor (fun _ => true) config) := rfl
  have valid' : Backends.dispatcher config' =
      .ok (Backends.dispatcherFor (fun _ => true) config') := rfl
  have apart : "one" ≠ "one-two" := by decide
  refine ⟨_, _, valid, valid', rfl, rfl, apart,
    (namespaces_isolate valid valid' rfl rfl apart).mpr ⟨?_, ?_⟩⟩
  · rintro ⟨rest, same⟩
    have first := congrArg (fun name => name.toList[3]?) same
    simp at first
  · rintro ⟨rest, same⟩
    have first := congrArg (fun name => name.toList[3]?) same
    simp at first

-- Where one namespace lies within the other, what the other user wrote is read.
theorem namespaces_meet :
    let config := Config.default.withCacheNamespace "a"
    let config' := Config.default.withCacheNamespace "a:b"
    let uses : List SharedUse := [.other (.set "c" [120] none), .one (.get "b:c")]
    ∃ mine theirs, Backends.dispatcher config = .ok mine ∧
      Backends.dispatcher config' = .ok theirs ∧
      config.cacheNamespace = some "a" ∧ config'.cacheNamespace = some "a:b" ∧ "a" ≠ "a:b" ∧
      SharedUse.outcomes mine theirs uses .empty = [.ready (.ok (.cache (.lookup (.hit [120]))))] ∧
      SharedUse.outcomes mine theirs (SharedUse.alone uses) .empty =
        [.ready (.ok (.cache (.lookup .miss)))] ∧
      ¬ SharedUse.Isolated mine theirs := by
  intro config config' uses
  have valid : Backends.dispatcher config =
      .ok (Backends.dispatcherFor (fun _ => true) config) := rfl
  have valid' : Backends.dispatcher config' =
      .ok (Backends.dispatcherFor (fun _ => true) config') := rfl
  have meet : config.cacheKey "b:c" = config'.cacheKey "c" := by decide
  exact ⟨_, _, valid, valid', rfl, rfl, by decide, rfl, rfl,
    SharedUse.not_isolated_of_meet valid valid' (by decide) (by decide) meet⟩

end EffectPrograms.Memory
