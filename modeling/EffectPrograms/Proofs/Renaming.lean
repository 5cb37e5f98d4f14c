import EffectPrograms.Proofs.Confinement
import EffectPrograms.Proofs.FaultHistory
import EffectPrograms.Proofs.Preceded
import EffectPrograms.Proofs.Validation

set_option autoImplicit false

namespace EffectPrograms
variable {α β σ τ : Type}

namespace Dispatcher

-- Effects of some kind get the same answer in related states, and leave related states.
def Simulates (first : Dispatcher σ) (second : Dispatcher τ) (asked : Effect → Prop)
    (related : σ → τ → Prop) : Prop :=
  ∀ effect, asked effect → ∀ left right, related left right →
    (first.interpret effect left).1 = (second.interpret effect right).1 ∧
      related (first.interpret effect left).2 (second.interpret effect right).2

variable {first : Dispatcher σ} {second : Dispatcher τ} {asked : Effect → Prop}
  {related : σ → τ → Prop}

theorem Simulates.interpret (simulates : first.Simulates second asked related) {effect : Effect}
    (asks : asked effect) {left later : σ} {right : τ} (pair : related left right)
    {answer : Poll (Outcome Result)} (interpreted : first.interpret effect left = (answer, later)) :
    ∃ twin, second.interpret effect right = (answer, twin) ∧ related later twin := by
  obtain ⟨same, kept⟩ := simulates effect asks left right pair
  rw [interpreted] at same kept
  exact ⟨_, Prod.ext same.symm rfl, kept⟩

theorem Simulates.preceded (simulates : first.Simulates second asked related)
    {changes : Nat → σ → σ} {twins : Nat → τ → τ}
    (kept : ∀ number left right, related left right →
      related (changes number left) (twins number right)) :
    (first.preceded changes).Simulates (second.preceded twins) asked
      fun left right => left.2 = right.2 ∧ related left.1 right.1 := by
  rintro effect asks ⟨left, number⟩ ⟨right, _⟩ ⟨rfl, pair⟩
  obtain ⟨same, later⟩ := simulates effect asks _ _ (kept number left right pair)
  exact ⟨same, rfl, later⟩

end Dispatcher

namespace Program
variable {program : Program α} {asked : Effect → Prop}

-- A program is told the same in related states, so it goes on the same. The induction is on the run
-- over the first dispatcher.
theorem follow_simulates {first : Dispatcher σ} {second : Dispatcher τ} {related : σ → τ → Prop}
    (simulates : first.Simulates second asked related) (asks : program.Asks asked) (bound : Nat)
    {turn : Turn program} (comes : program.Comes turn) {left : σ} {right : τ}
    (pair : related left right) :
    let run := program.follow first bound turn left
    let twin := program.follow second bound turn right
    run.standing = twin.standing ∧ run.trace = twin.trace ∧ related run.state twin.state := by
  induction bound, turn, left using follow_induction program first generalizing right with
  | violated bound violation left => simpa using pair
  | done bound outcome inner left => simpa using pair
  | bounded effect inner left => exact ⟨rfl, rfl, pair⟩
  | answered bound effect inner left result later interpreted ih =>
    obtain ⟨twin, same, kept⟩ := simulates.interpret (asks effect inner comes) pair interpreted
    rw [follow_ok interpreted, follow_ok same]
    obtain ⟨standing, trace, states⟩ := ih (comes.resumed result) kept
    exact ⟨standing, congrArg _ trace, states⟩
  | failed bound effect inner left error later interpreted =>
    obtain ⟨twin, same, kept⟩ := simulates.interpret (asks effect inner comes) pair interpreted
    rw [follow_error interpreted, follow_error same]
    exact ⟨rfl, rfl, kept⟩
  | waits bound effect inner left ticket later interpreted =>
    obtain ⟨twin, same, kept⟩ := simulates.interpret (asks effect inner comes) pair interpreted
    rw [follow_waiting interpreted, follow_waiting same]
    exact ⟨rfl, rfl, kept⟩

theorem transcript_simulates {first : Dispatcher σ} {second : Dispatcher τ}
    {related : σ → τ → Prop} (simulates : first.Simulates second asked related)
    (asks : program.Asks asked) (bound : Nat) (left : σ) (right : τ) (pair : related left right) :
    let run := program.transcript first bound left
    let twin := program.transcript second bound right
    run.standing = twin.standing ∧ run.trace = twin.trace ∧ related run.state twin.state := by
  simp only [transcript_eq_follow]
  exact follow_simulates simulates asks bound .start pair

end Program

-- The first map has what the second has, each value under its new name, and nothing else.
structure Dict.Renames (rename : String → String) (first second : Dict β) : Prop where
  get?_rename : ∀ name, first.get? (rename name) = second.get? name
  renamed : ∀ name value, first.get? name = some value → ∃ former, name = rename former

namespace Dict.Renames
variable {rename : String → String} {first second : Dict β}

theorem get?_iff (renames : Renames rename first second) {name : String} {value : β} :
    first.get? name = some value ↔
      ∃ former, name = rename former ∧ second.get? former = some value := by
  constructor
  · intro found
    obtain ⟨former, rfl⟩ := renames.renamed name value found
    exact ⟨former, rfl, (renames.get?_rename former).symm.trans found⟩
  · rintro ⟨former, rfl, found⟩
    exact (renames.get?_rename former).trans found

theorem insert (renames : Renames rename first second) (apart : Function.Injective rename)
    (name : String) (value : β) :
    Renames rename (first.insert (rename name) value) (second.insert name value) where
  get?_rename other := by
    simp only [get?_insert, apart.eq_iff, renames.get?_rename]
  renamed other kept found := by
    rw [get?_insert] at found
    split at found
    · next same => exact ⟨name, same⟩
    · exact renames.renamed other kept found

theorem erase (renames : Renames rename first second) (apart : Function.Injective rename)
    (name : String) : Renames rename (first.erase (rename name)) (second.erase name) where
  get?_rename other := by
    simp only [get?_erase, apart.eq_iff, renames.get?_rename]
  renamed other kept found := renames.renamed other kept (get?_of_get?_erase found)

end Dict.Renames

namespace Config
variable {config : Config}

theorem cacheKey_of_bare (bare : config.cacheNamespace = none) (key : String) :
    config.cacheKey key = key := by
  rw [cacheKey, bare]

-- Requests are checked as they come: no check looks at the key that is stored.
theorem refusal?_withCacheNamespace (config : Config) (name : String) (effect : Effect) :
    (config.withCacheNamespace name).refusal? effect = config.refusal? effect := by
  rcases effect with request | request | request | request | request <;> cases request <;> rfl

theorem fault?_withCacheNamespace (sound : config.fault? = none) {name : String}
    (named : name ≠ "") : (config.withCacheNamespace name).fault? = none := by
  obtain ⟨positive, timed, -, consistent⟩ := config.fault?_eq_none_iff.mp sound
  exact (fault?_eq_none_iff _).mpr
    ⟨positive, timed, fun empty => named (Option.some.inj empty), consistent⟩

end Config

namespace Memory

-- Two caches at one time, of which the first has the entries of the second under new keys.
structure CacheTable.Renames (rename : String → String) (first second : CacheTable) : Prop where
  now_eq : first.now = second.now
  slots : first.slots.Renames rename second.slots

namespace CacheTable.Renames
variable {rename : String → String} {first second : CacheTable}

theorem live?_rename (renames : Renames rename first second) (key : String) :
    first.live? (rename key) = second.live? key := by
  rw [live?, live?, renames.slots.get?_rename, renames.now_eq]

theorem live?_iff (renames : Renames rename first second) {key : String} {slot : Slot} :
    first.live? key = some slot ↔
      ∃ former, key = rename former ∧ second.live? former = some slot := by
  simp only [live?, Option.filter_eq_some_iff, renames.slots.get?_iff, renames.now_eq]
  constructor
  · rintro ⟨⟨former, same, found⟩, live⟩
    exact ⟨former, same, found, live⟩
  · rintro ⟨former, same, found, live⟩
    exact ⟨⟨former, same, found⟩, live⟩

theorem advance (renames : Renames rename first second) (time : Duration) :
    Renames rename (first.advance time) (second.advance time) := by
  obtain ⟨now_eq, slots⟩ := renames
  -- Taken apart, so that the slots are compared without the sum of the nanoseconds.
  cases first
  cases second
  exact ⟨congrArg (· + time.inNanos) now_eq, slots⟩

section
variable (renames : Renames rename first second) (apart : Function.Injective rename) (key : String)
include renames apart

theorem get :
    (first.get (rename key)).1 = (second.get key).1 ∧
      Renames rename (first.get (rename key)).2 (second.get key).2 := by
  simp only [CacheTable.get, renames.live?_rename]
  cases second.live? key with
  | some slot => exact ⟨rfl, renames⟩
  | none => exact ⟨rfl, renames.now_eq, renames.slots.erase apart key⟩

theorem set (value : Bytes) (ttl : Option Duration) :
    Renames rename (first.set (rename key) value ttl) (second.set key value ttl) where
  now_eq := renames.now_eq
  slots := by
    rw [CacheTable.set, CacheTable.set, renames.now_eq]
    exact renames.slots.insert apart key _

theorem delete :
    (first.delete (rename key)).1 = (second.delete key).1 ∧
      Renames rename (first.delete (rename key)).2 (second.delete key).2 := by
  refine ⟨?_, renames.now_eq, renames.slots.erase apart key⟩
  rw [CacheTable.delete, CacheTable.delete, contains, contains, renames.live?_rename]

end

theorem work {config : Config} (bare : config.cacheNamespace = none) {name : String}
    (renames : Renames (config.withCacheNamespace name).cacheKey first second)
    (request : Cache.Request) :
    (first.work (config.withCacheNamespace name) request).1 = (second.work config request).1 ∧
      Renames (config.withCacheNamespace name).cacheKey
        (first.work (config.withCacheNamespace name) request).2 (second.work config request).2 := by
  have apart : Function.Injective (config.withCacheNamespace name).cacheKey :=
    fun _ _ => Config.cacheKey_injective
  cases request with
  | get key =>
    obtain ⟨same, kept⟩ := renames.get apart key
    simp only [CacheTable.work, response, CacheCall.ofRequest, CacheCall.work,
      Config.cacheKey_of_bare bare]
    exact ⟨congrArg CacheStore.looked same, kept⟩
  | set key value ttl =>
    simp only [CacheTable.work, response, CacheCall.ofRequest, CacheCall.work,
      Config.cacheKey_of_bare bare]
    exact ⟨rfl, renames.set apart key value _⟩
  | delete key =>
    obtain ⟨same, kept⟩ := renames.delete apart key
    simp only [CacheTable.work, response, CacheCall.ofRequest, CacheCall.work,
      Config.cacheKey_of_bare bare]
    exact ⟨congrArg Removal.ofExisted same, kept⟩

end CacheTable.Renames

-- What happens to a cache between two effects: time passes, and failures are scheduled.
structure Interlude where
  time : Duration
  calls : List FaultCall

def Interlude.pass (interlude : Interlude) (backends : Backends) : Backends :=
  (backends.advance interlude.time).withFaults
    (interlude.calls.foldl (fun faults call => call.perform faults) backends.cache.faults) .cache

namespace Backends

-- The first cache has the entries of the second, at the same time, under the keys of a namespace and
-- nothing else; the same failures are scheduled for both.
structure Spaced (name : String) (first second : Backends) : Prop where
  faults_eq : first.cache.faults = second.cache.faults
  store : first.cache.store.Renames (fun key => name ++ ":" ++ key) second.cache.store

namespace Spaced
variable {config : Config} {name : String} {first second : Backends}

theorem of_empty (same : first.cache = second.cache) (empty : second.cache.store.slots = ∅) :
    Spaced name first second where
  faults_eq := congrArg Faulty.faults same
  store := by
    refine ⟨congrArg (fun cache => cache.store.now) same, ?_⟩
    rw [same, empty]
    exact ⟨fun _ => rfl, nofun⟩

theorem pass (spaced : Spaced name first second) (interlude : Interlude) :
    Spaced name (interlude.pass first) (interlude.pass second) where
  faults_eq := by
    have passed (backends : Backends) : (interlude.pass backends).cache.faults =
      interlude.calls.foldl (fun faults call => call.perform faults) backends.cache.faults := rfl
    rw [passed, passed, spaced.faults_eq]
  store := spaced.store.advance interlude.time

theorem simulates {outer plain : Dispatcher Backends}
    (valid' : Backends.dispatcher (config.withCacheNamespace name) = .ok outer)
    (valid : Backends.dispatcher config = .ok plain) (bare : config.cacheNamespace = none) :
    outer.Simulates plain (fun effect => effect.family = .cache) (Spaced name) := by
  intro effect cached first second spaced
  obtain ⟨request, rfl⟩ : ∃ request, effect = .cache request := by
    cases effect <;> first | exact ⟨_, rfl⟩ | cases cached
  have refusal := config.refusal?_withCacheNamespace name (.cache request)
  cases refused : config.refusal? (.cache request) with
  | some fault =>
    rw [interpret_refused valid refused, interpret_refused valid' (refusal.trans refused)]
    exact ⟨rfl, spaced⟩
  | none =>
    rw [interpret_accepted valid refused, interpret_accepted valid' (refusal.trans refused)]
    have scheduled : first.faultsOf (Effect.cache request).family =
        second.faultsOf (Effect.cache request).family := spaced.faults_eq
    rw [perform_eq, perform_eq, scheduled]
    rcases (second.faultsOf _).check _ with ⟨_ | failure, faults⟩
    · obtain ⟨same, kept⟩ := spaced.store.work bare request
      simp only [Data.work, Backends.data]
      exact ⟨by rw [same]; rfl, rfl, kept⟩
    · exact ⟨rfl, rfl, spaced.store⟩

end Spaced

/-- A program that asks for nothing but the cache is not told whether its cache has a namespace:
started over an empty cache with one and over an empty cache without, it presents the same effects
and gets the same answers, whatever time passes and whatever failures are scheduled before each
effect. The live entries that it leaves are those without a namespace, under their longer keys; and
so it is for programs that run one after another. -/
theorem namespace_unseen {config : Config} {plain : Dispatcher Backends}
    (valid : Backends.dispatcher config = .ok plain) (bare : config.cacheNamespace = none)
    {name : String} (named : name ≠ "") :
    ∃ outer, Backends.dispatcher (config.withCacheNamespace name) = .ok outer ∧
      (∀ first second : Backends, first.cache = second.cache → second.cache.store.slots = ∅ →
        Spaced name first second) ∧
      ∀ {α : Type} (program : Program α), program.Asks (fun effect => effect.family = .cache) →
        ∀ (interludes : Nat → Interlude) (bound : Nat) (first second : Backends),
          Spaced name first second →
            let between := fun number => (interludes number).pass
            let run := program.transcript (outer.preceded between) bound (first, 0)
            let twin := program.transcript (plain.preceded between) bound (second, 0)
            run.standing = twin.standing ∧ run.trace = twin.trace ∧
              Spaced name run.state.1 twin.state.1 ∧
                ∀ stored slot, run.state.1.cache.store.live? stored = some slot ↔
                  ∃ key, stored = name ++ ":" ++ key ∧
                    twin.state.1.cache.store.live? key = some slot := by
  have valid' : Backends.dispatcher (config.withCacheNamespace name) =
      .ok (dispatcherFor (fun _ => true) (config.withCacheNamespace name)) := by
    rw [Backends.dispatcher, Config.validate,
      Config.fault?_withCacheNamespace (fault?_of_dispatcher valid) named]
  refine ⟨_, valid', fun first second => .of_empty, ?_⟩
  intro α program asks interludes bound first second spaced
  obtain ⟨standing, trace, -, kept⟩ := Program.transcript_simulates
    ((Spaced.simulates valid' valid bare).preceded fun number _ _ pair =>
      pair.pass (interludes number)) asks bound (first, 0) (second, 0) ⟨rfl, spaced⟩
  exact ⟨standing, trace, kept, fun stored slot => kept.store.live?_iff⟩

-- A value is written, and read while two seconds of its three are left; a read that is struck later
-- does not show the namespace either.
theorem namespace_unseen_app :
    let set := Effect.cache (.set "k" [1] (some (.ofSecs 3)))
    let get := Effect.cache (.get "k")
    let program : Program Cache.Lookup :=
      (Program.perform set).andThen fun _ => (Program.perform get).andThen fun _ =>
        Program.perform get
    let failure := BackendError.unavailable "down"
    let interludes (number : Nat) : Interlude :=
      ⟨.ofSecs 1, if number = 2 then [.failNext "get" failure] else []⟩
    let between := fun number => (interludes number).pass
    let error := Config.default.error get failure.kind failure.message
    let slot : Slot := ⟨[1], some 4000000000⟩
    ∃ plain outer, Backends.dispatcher .default = .ok plain ∧
      Backends.dispatcher (Config.default.withCacheNamespace "app") = .ok outer ∧
        let run := program.transcript (outer.preceded between) 3 (empty, 0)
        let twin := program.transcript (plain.preceded between) 3 (empty, 0)
        twin.trace = [(set, .ok (.cache (.stored ⟨some (.ofSecs 3)⟩))),
            (get, .ok (.cache (.lookup (.hit [1])))), (get, .error error)] ∧
          run.trace = twin.trace ∧ run.standing = .finished (.error error) ∧
            twin.state.1.cache.store.live? "k" = some slot ∧
              run.state.1.cache.store.live? "app:k" = some slot := by
  intro set get program failure interludes between error slot
  have valid : Backends.dispatcher .default = .ok (dispatcherFor (fun _ => true) .default) := rfl
  have asks : program.Asks fun effect => effect.family = .cache :=
    .andThen (Program.perform_asks rfl) fun _ =>
      .andThen (Program.perform_asks rfl) fun _ => Program.perform_asks rfl
  have named : "app" ≠ "" := by decide
  obtain ⟨outer, valid', spaced, unseen⟩ := namespace_unseen valid rfl named
  obtain ⟨standing, trace, -, live⟩ :=
    unseen program asks interludes 3 empty empty (spaced _ _ rfl rfl)
  have held : (program.transcript ((dispatcherFor (fun _ => true) .default).preceded between) 3
      (empty, 0)).state.1.cache.store.live? "k" = some slot := by decide +kernel
  exact ⟨_, outer, valid, valid', by decide +kernel, trace, standing.trans rfl, held,
    (live "app:k" slot).mpr ⟨"k", by decide, held⟩⟩

end Backends
end Memory
end EffectPrograms
