import EffectPrograms.Proofs.Happenings
import EffectPrograms.Proofs.Reading
import EffectPrograms.Proofs.Refusals

set_option autoImplicit false

namespace EffectPrograms.Memory

namespace CacheCall
variable {key : String}

theorem settled_slot_of_aside {calls : List CacheCall}
    (aside : ∀ call ∈ calls, call.settles key = false) (held : Held) :
    (calls.foldl (settle key) held).slot = held.slot := by
  induction calls generalizing held with
  | nil => rfl
  | cons call later ih =>
    obtain ⟨first, rest⟩ := List.forall_mem_cons.mp aside
    rw [List.foldl_cons, ih rest, settle_slot_of_aside first]

end CacheCall

namespace Backends

def called (backends : Backends) (call : CacheCall) : Backends :=
  { backends with cache :=
    { backends.cache with store := (call.work backends.cache.store).2 } }

theorem store_called (calls : List CacheCall) (backends : Backends) :
    (calls.foldl called backends).cache.store =
      calls.foldl (fun cache call => (call.work cache).2) backends.cache.store := by
  induction calls generalizing backends with
  | nil => rfl
  | cons call later ih =>
    rw [List.foldl_cons, List.foldl_cons, ih]
    rfl

theorem passing_interpret {dispatcher : Dispatcher Backends} {elapsed : Nat → Duration}
    {number : Nat} {effect : Effect} {backends left : Backends} {answer : Poll (Outcome Result)}
    (interpreted : dispatcher.interpret effect (backends.called (.advance (elapsed number))) =
      (answer, left)) :
    (dispatcher.preceded (passing elapsed)).interpret effect (backends, number) =
      (answer, (left, number + 1)) :=
  Dispatcher.preceded_interpret interpreted

-- The later backends have the cache of the earlier ones, except for calls that do not settle a key;
-- all else may have changed.
def LeavesAlone (key : String) (backends later : Backends) : Prop :=
  ∃ calls : List CacheCall, (∀ call ∈ calls, call.settles key = false) ∧
    later.cache.store = calls.foldl (fun cache call => (call.work cache).2) backends.cache.store

namespace LeavesAlone
variable {key : String} {backends middle later : Backends}

theorem of_eq (same : later.cache.store = backends.cache.store) :
    LeavesAlone key backends later :=
  ⟨[], by simp, same⟩

theorem of_call {call : CacheCall} (aside : call.settles key = false)
    (made : later.cache.store = (call.work backends.cache.store).2) :
    LeavesAlone key backends later :=
  ⟨[call], by simp [aside], made⟩

theorem trans (before : LeavesAlone key backends middle) (after : LeavesAlone key middle later) :
    LeavesAlone key backends later := by
  obtain ⟨calls, aside, reached⟩ := before
  obtain ⟨more, aside', reached'⟩ := after
  refine ⟨calls ++ more, ?_, by rw [reached', reached, List.foldl_append]⟩
  intro call member
  exact (List.mem_append.mp member).elim (aside call) (aside' call)

end LeavesAlone
end Backends

namespace Happening
variable {key : String}

-- A happening that does not ask the cache to set or to drop a key.
def Spares (key : String) : Happening → Prop
  | dispatch config (.cache request) => (CacheCall.ofRequest config request).settles key = false
  | _ => True

theorem Changes.leavesAlone {happening : Happening} {backends left : Backends}
    (changes : Changes backends.data happening left.data) (spares : happening.Spares key) :
    Backends.LeavesAlone key backends left := by
  generalize worked : left.data = data at changes
  have same : left.cache.store = data.cache := by rw [← worked]; rfl
  cases changes with
  | refused | unasked => exact .of_eq same
  | made =>
    cases happening with
    | dispatch config effect =>
      cases effect with
      | cache request => exact .of_call spares same
      | storage | object | messaging | transport => exact .of_eq same
    | advance time =>
      have aside : (CacheCall.advance time).settles key = false := rfl
      exact .of_call aside same
    | askAgain | giveUp | subscribe | redeliver | connect | clientSend | clientReceive | hangUp
    | dropClient | stamp | schedule | choose => exact .of_eq same

theorem leavesAlone {happenings : List Happening}
    (spare : ∀ happening ∈ happenings, happening.Spares key) (backends : Backends) :
    Backends.LeavesAlone key backends
      (happenings.foldl (fun backends happening => happening.perform backends) backends) := by
  induction happenings generalizing backends with
  | nil => exact .of_eq rfl
  | cons happening rest ih =>
    obtain ⟨first, later⟩ := List.forall_mem_cons.mp spare
    exact ((happening.perform_changes backends).leavesAlone first).trans (ih later _)

end Happening

theorem Records.record?_put {records : Records} {table key : String} {value : Document}
    {expected : Option Nat} {version : Nat}
    (written : (records.put table key value expected).1 = .written version) :
    (records.put table key value expected).2.record? table key = some ⟨value, version⟩ := by
  rw [put] at written ⊢
  by_cases due : expected = none ∨ expected = some (records.version table key)
  · rw [if_pos due] at written ⊢
    obtain rfl := Storage.Write.written.inj written
    rw [record?_store, if_pos ⟨rfl, rfl⟩]
  · rw [if_neg due] at written
    cases written

section
variable {config : Config} {dispatcher : Dispatcher Backends} {r : ReadThrough} {value : Document}
  {backends stored : Backends} {expected : Option Nat} {version : Nat}
  (valid : Backends.dispatcher config = .ok dispatcher)
include valid

theorem interpret_written
    (put : dispatcher.interpret (.storage (.put r.table r.key value expected)) backends =
      (.ready (.ok (.storage (.write (.written version)))), stored)) :
    (r.table ≠ "" ∧ r.key ≠ "" ∧ value.size ≤ config.maxPayloadBytes) ∧
      stored.records.store.record? r.table r.key = some ⟨value, version⟩ := by
  obtain ⟨accepted, worked, left⟩ := Backends.interpret_answered valid put
  constructor
  · have sound := Backends.fault?_of_dispatcher valid
    have fit := (Config.refusal?_eq_none_iff sound _).mp accepted
    obtain ⟨named, small, -⟩ := Effect.not_unfit_iff.mp fit
    have names : "" ≠ r.table ∧ "" ≠ r.key := by simpa [Effect.names] using named
    exact ⟨names.1.symm, names.2.symm, small _ rfl⟩
  · have written : (backends.data.records.put r.table r.key value expected).1 = .written version :=
      Storage.Result.write.inj (Result.storage.inj (Except.ok.inj (Poll.ready.inj worked)))
    have kept : stored.data.records =
        (backends.data.records.put r.table r.key value expected).2 := by
      rw [left]
      rfl
    exact (congrArg (·.record? r.table r.key) kept).trans (Records.record?_put written)

theorem interpret_asked {request : Cache.Request}
    (accepted : config.refusal? (.cache request) = none) (quiet : backends.cache.faults.Quiet) :
    dispatcher.interpret (.cache request) backends =
      (.ready (.ok (.cache (request.answer (backends.cache.store.response config request)))),
        backends.called (.ofRequest config request)) :=
  Backends.interpret_quiet valid accepted quiet

theorem interpret_missing (named : r.cacheKey ≠ "")
    (vacant : backends.cache.store.live? (config.cacheKey r.cacheKey) = none)
    (quiet : backends.cache.faults.Quiet) :
    dispatcher.interpret r.lookUp backends =
      (.ready (.ok (.cache (.lookup .miss))),
        backends.called (.get (config.cacheKey r.cacheKey))) := by
  have accepted := ReadThrough.lookUp_accepted config named
  have missed : (backends.cache.store.get (config.cacheKey r.cacheKey)).1 = none := by
    rw [CacheTable.get_fst, vacant, Option.map_none]
  refine (interpret_asked valid accepted quiet).trans ?_
  rw [CacheTable.response, missed]
  rfl

theorem interpret_kept (named : r.cacheKey ≠ "") {slot : Slot}
    (live : backends.cache.store.live? (config.cacheKey r.cacheKey) = some slot)
    (quiet : backends.cache.faults.Quiet) :
    dispatcher.interpret r.lookUp backends =
      (.ready (.ok (.cache (.lookup (.hit slot.value)))), backends) := by
  have accepted := ReadThrough.lookUp_accepted config named
  have found : backends.cache.store.get (config.cacheKey r.cacheKey) =
      (some slot.value, backends.cache.store) := by
    rw [CacheTable.get, live]
  refine (interpret_asked valid accepted quiet).trans ?_
  rw [CacheTable.response, Backends.called, CacheCall.ofRequest, CacheCall.work, found]
  rfl

theorem interpret_recorded (accepted : config.refusal? r.read = none)
    (quiet : backends.records.faults.Quiet)
    (recorded : backends.records.store.record? r.table r.key = some ⟨value, version⟩) :
    dispatcher.interpret r.read backends =
      (.ready (.ok (.storage (.lookup (.found value)))), backends) := by
  have worked : backends.data.work config (.storage (.get r.table r.key)) =
      (.ready (.ok (backends.records.store.get r.table r.key)), backends.data) := rfl
  rw [Records.get, recorded] at worked
  refine (Backends.interpret_quiet valid accepted quiet).trans ?_
  rw [ReadThrough.read, worked]
  rfl

theorem interpret_filled (accepted : config.refusal? (r.fill value) = none)
    (quiet : backends.cache.faults.Quiet) :
    let acknowledged := Refusal.appliedTtl config r.ttl
    dispatcher.interpret (r.fill value) backends =
      (.ready (.ok (.cache (.stored ⟨acknowledged⟩))),
        backends.called (.set (config.cacheKey r.cacheKey) value.encoded acknowledged)) :=
  interpret_asked valid accepted quiet

end

section
variable (config : Config) (r : ReadThrough) (value : Document) (elapsed : Nat → Duration)

-- What a reader that fills the cache asks of it, and what time passes before its effects.
def fillCalls : List CacheCall :=
  [.advance (elapsed 0), .get (config.cacheKey r.cacheKey),
    .advance (elapsed 1), .advance (elapsed 2),
    .set (config.cacheKey r.cacheKey) value.encoded (Refusal.appliedTtl config r.ttl)]

def Backends.filledBy (backends : Backends) : Backends :=
  (fillCalls config r value elapsed).foldl Backends.called backends

theorem fillCalls_held (held : Held) :
    let left := (fillCalls config r value elapsed).foldl
      (CacheCall.settle (config.cacheKey r.cacheKey)) held
    left.slot =
      some ⟨value.encoded, CacheTable.deadline left.now (Refusal.appliedTtl config r.ttl)⟩ := by
  have told (before : Held) (ttl : Option Duration) :
      CacheCall.settle (config.cacheKey r.cacheKey) before
        (.set (config.cacheKey r.cacheKey) value.encoded ttl) =
          { before with slot := some ⟨value.encoded, CacheTable.deadline before.now ttl⟩ } := by
    rw [CacheCall.settle, if_pos rfl]
  rw [fillCalls, List.foldl_cons, List.foldl_cons, List.foldl_cons, List.foldl_cons,
    List.foldl_cons, List.foldl_nil, told]

variable {config r value elapsed}

theorem live?_of_filledBy {backends later : Backends}
    (vacant : backends.cache.store.live? (config.cacheKey r.cacheKey) = none)
    (alone : (backends.filledBy config r value elapsed).LeavesAlone
      (config.cacheKey r.cacheKey) later)
    (unexpired : CacheCall.Unexpired (backends.filledBy config r value elapsed).cache.store.now
      (Refusal.appliedTtl config r.ttl) later.cache.store.now) :
    ∃ slot, later.cache.store.live? (config.cacheKey r.cacheKey) = some slot ∧
      slot.value = value.encoded := by
  obtain ⟨calls, aside, reached⟩ := alone
  have empty : Follows (config.cacheKey r.cacheKey) ⟨backends.cache.store.now, none⟩
      backends.cache.store := ⟨rfl, vacant⟩
  have filled := empty.run (fillCalls config r value elapsed)
  rw [← Backends.store_called] at filled
  obtain ⟨time, live⟩ := filled.run calls
  rw [Backends.filledBy] at reached unexpired
  rw [← reached] at time live
  rw [CacheCall.settled_slot_of_aside aside, fillCalls_held, ← time, ← filled.time] at live
  have fresh := (CacheTable.isLive_deadline _ _ value.encoded _).mpr unexpired
  exact ⟨_, live.trans (Option.filter_eq_some_iff.mpr ⟨rfl, fresh⟩), rfl⟩

end

-- The document of a reader is recorded, and no failure meets the reader.
structure Serves (r : ReadThrough) (value : Document) (backends : Backends) : Prop where
  quiet : backends.cache.faults.Quiet
  readable : backends.records.faults.Quiet
  recorded : ∃ version, backends.records.store.record? r.table r.key = some ⟨value, version⟩

theorem Serves.called {r : ReadThrough} {value : Document} {backends : Backends}
    (serves : Serves r value backends) (call : CacheCall) :
    Serves r value (backends.called call) :=
  ⟨serves.quiet, serves.readable, serves.recorded⟩

theorem Serves.fills {config : Config} {dispatcher : Dispatcher Backends} {r : ReadThrough}
    {value : Document} {start : Backends} (serves : Serves r value start)
    (valid : Backends.dispatcher config = .ok dispatcher) (named : r.cacheKey ≠ "")
    (reads : config.refusal? r.read = none) (stores : config.refusal? (r.fill value) = none)
    (vacant : start.cache.store.live? (config.cacheKey r.cacheKey) = none)
    (elapsed : Nat → Duration) :
    r.program.Ends (dispatcher.preceded (Backends.passing elapsed)) (start, 0)
      [(r.lookUp, .ok (.cache (.lookup .miss))),
        (r.read, .ok (.storage (.lookup (.found value)))),
        (r.fill value, .ok (.cache (.stored ⟨Refusal.appliedTtl config r.ttl⟩)))]
      (.ok (some value)) (start.filledBy config r value elapsed, 3) := by
  have unheld : (start.called (.advance (elapsed 0))).cache.store.live?
      (config.cacheKey r.cacheKey) = none := by
    refine (CacheTable.live?_advance ..).trans ?_
    rw [vacant, Option.filter_none]
  have waited := serves.called (.advance (elapsed 0))
  have looked := interpret_missing valid named unheld waited.quiet
  have missed := waited.called (.get (config.cacheKey r.cacheKey))
  have found := missed.called (.advance (elapsed 1))
  obtain ⟨version, recorded⟩ := found.recorded
  have read := interpret_recorded valid reads found.readable recorded
  have stored := interpret_filled valid stores (found.called (.advance (elapsed 2))).quiet
  exact ReadThrough.ends_filled (Backends.passing_interpret looked) rfl
    (Backends.passing_interpret read) (Backends.passing_interpret stored)

/-- A document that was put as a record is read, put into the cache and returned by a reader that
misses it there, whatever time passes before its effects. Until the acknowledged expiry, unless the
cache is told to set or to drop the key, the cache alone answers every reader of the key with this
document: whatever has become of the record, and whatever else has changed. -/
theorem fill_is_hit {config : Config} {dispatcher : Dispatcher Backends}
    (valid : Backends.dispatcher config = .ok dispatcher) {r : ReadThrough}
    (named : r.cacheKey ≠ "")
    (timed : ∀ ttl, r.ttl = some ttl → 0 < ttl.inNanos ∧ ttl.inNanos ≤ maxCacheTtl.inNanos)
    {value : Document} (whole : value.isExact = true) (shallow : value.json.depth ≤ 127)
    {earlier stored start : Backends} {expected : Option Nat} {version : Nat}
    (put : dispatcher.interpret (.storage (.put r.table r.key value expected)) earlier =
      (.ready (.ok (.storage (.write (.written version)))), stored))
    (kept : start.records.store.record? r.table r.key =
      stored.records.store.record? r.table r.key)
    (vacant : start.cache.store.live? (config.cacheKey r.cacheKey) = none)
    (quiet : start.cache.faults.Quiet) (readable : start.records.faults.Quiet)
    (elapsed : Nat → Duration) :
    let acknowledged := Refusal.appliedTtl config r.ttl
    let filled := start.filledBy config r value elapsed
    r.program.Ends (dispatcher.preceded (Backends.passing elapsed)) (start, 0)
        [(r.lookUp, .ok (.cache (.lookup .miss))),
          (r.read, .ok (.storage (.lookup (.found value)))),
          (r.fill value, .ok (.cache (.stored ⟨acknowledged⟩)))] (.ok (some value)) (filled, 3) ∧
      ∀ (again : ReadThrough) (later : Backends), again.cacheKey = r.cacheKey →
        filled.LeavesAlone (config.cacheKey r.cacheKey) later → later.cache.faults.Quiet →
        CacheCall.Unexpired filled.cache.store.now acknowledged later.cache.store.now →
          again.program.Ends dispatcher later
            [(again.lookUp, .ok (.cache (.lookup (.hit value.encoded))))] (.ok (some value))
            later := by
  have sound := Backends.fault?_of_dispatcher valid
  obtain ⟨⟨table, key, fits⟩, recorded⟩ := interpret_written valid put
  rw [← kept] at recorded
  constructor
  · have serves : Serves r value start := ⟨quiet, readable, version, recorded⟩
    exact serves.fills valid named (ReadThrough.read_accepted config table key)
      (ReadThrough.fill_accepted sound named fits timed) vacant elapsed
  · intro again later same alone quiet' unexpired
    obtain ⟨slot, live, filled⟩ := live?_of_filledBy vacant alone unexpired
    have decoded : ReadThrough.kept? (.hit value.encoded) = some value :=
      (value.decode?_encoded whole).trans (if_pos shallow)
    rw [← same] at live named
    have looked := interpret_kept valid named live quiet'
    rw [filled] at looked
    exact ReadThrough.ends_hit looked decoded

theorem fill_is_hit_after_delete :
    let alice : Document := ⟨.string "Alice", rfl⟩
    let reader := { ReadThrough.of "users" "alice" with ttl := some (.ofSecs 60) }
    let meanwhile : List Happening := [.dispatch .default (.storage (.delete "users" "alice")),
      .schedule .storage (Faults.failAlways ∅ "get" (.unavailable "moved")), .advance (.ofSecs 59)]
    let elapsed (number : Nat) : Duration := .ofSecs (7 * number)
    ∃ dispatcher, Backends.dispatcher .default = .ok dispatcher ∧
      let start := (dispatcher.interpret (.storage (.put "users" "alice" alice none)) .empty).2
      let filled := start.filledBy .default reader alice elapsed
      let later := meanwhile.foldl (fun backends happening => happening.perform backends) filled
      reader.program.Ends (dispatcher.preceded (Backends.passing elapsed)) (start, 0)
          [(reader.lookUp, .ok (.cache (.lookup .miss))),
            (reader.read, .ok (.storage (.lookup (.found alice)))),
            (reader.fill alice, .ok (.cache (.stored ⟨some (.ofSecs 60)⟩)))] (.ok (some alice))
          (filled, 3) ∧
        reader.program.Ends dispatcher later
          [(reader.lookUp, .ok (.cache (.lookup (.hit alice.encoded))))] (.ok (some alice))
          later := by
  intro alice reader meanwhile elapsed
  have valid : Backends.dispatcher .default =
      .ok (Backends.dispatcherFor (fun _ => true) .default) := rfl
  refine ⟨_, valid, ?_⟩
  intro start filled later
  have timed : ∀ ttl, reader.ttl = some ttl →
      0 < ttl.inNanos ∧ ttl.inNanos ≤ maxCacheTtl.inNanos := by
    intro ttl given
    obtain rfl := Option.some.inj given
    decide
  have put : (Backends.dispatcherFor (fun _ => true) .default).interpret
      (.storage (.put reader.table reader.key alice none)) .empty =
        (.ready (.ok (.storage (.write (.written 1)))), start) := rfl
  have named := ReadThrough.defaultKey_ne_empty "users" "alice"
  obtain ⟨fills, hits⟩ := fill_is_hit valid (r := reader) named timed rfl (by decide) put rfl rfl
    Faults.quiet_empty Faults.quiet_empty elapsed
  have spare : ∀ happening ∈ meanwhile,
      happening.Spares (Config.default.cacheKey reader.cacheKey) := by
    simp [meanwhile, Happening.Spares]
  have unexpired : CacheCall.Unexpired filled.cache.store.now (some (.ofSecs 60))
      later.cache.store.now := by
    rintro span ⟨⟩
    left
    decide
  exact ⟨fills, hits reader later rfl (Happening.leavesAlone spare filled) Faults.quiet_empty
    unexpired⟩

end EffectPrograms.Memory
