import EffectPrograms.Proofs.FailedEffect
import EffectPrograms.Proofs.Reading
import EffectPrograms.Proofs.RoundTrip
import EffectPrograms.Proofs.Validation
import Mathlib.Data.List.Induction

set_option autoImplicit false

namespace EffectPrograms

namespace Config
variable {config : Config}

theorem defaultCacheTtl_fits (sound : config.fault? = none) :
    Refusal.limitTtl config.defaultCacheTtl = none := by
  obtain ⟨-, timed, -, -⟩ := config.fault?_eq_none_iff.mp sound
  rw [defaultCacheTtl]
  cases shown : config.defaultTtlSecs with
  | none => rfl
  | some secs =>
    obtain ⟨positive, small⟩ := (ttlFault?_eq_none_iff _).mp timed secs shown
    refine (Refusal.limitTtl_eq_none_iff _).mpr ?_
    rw [maxCacheTtl, Duration.inNanos_ofSecs, Duration.inNanos_ofSecs]
    exact ⟨by omega, Nat.mul_le_mul_right _ small⟩

end Config

namespace ReadThrough
variable {config : Config} {r : ReadThrough} {value : Document}

theorem lookUp_accepted (config : Config) (named : r.cacheKey ≠ "") :
    config.refusal? r.lookUp = none := by
  simp [lookUp, Config.refusal?, Refusal.cache?, Refusal.requireName, named]

theorem read_accepted (config : Config) (table : r.table ≠ "") (key : r.key ≠ "") :
    config.refusal? r.read = none := by
  simp [read, Config.refusal?, Refusal.storage?, Refusal.requireName, Refusal.first, table, key]

theorem fill_accepted (sound : config.fault? = none) (named : r.cacheKey ≠ "")
    (fits : value.size ≤ config.maxPayloadBytes) (timed : ∀ ttl, r.ttl = some ttl →
      0 < ttl.inNanos ∧ ttl.inNanos ≤ maxCacheTtl.inNanos) :
    config.refusal? (r.fill value) = none := by
  have small : ¬ config.maxPayloadBytes < value.encoded.length := Nat.not_lt.mpr fits
  have within : Refusal.limitTtl (Refusal.appliedTtl config r.ttl) = none := by
    cases shown : r.ttl with
    | none => exact Config.defaultCacheTtl_fits sound
    | some ttl => exact (Refusal.limitTtl_eq_none_iff ttl).mpr (timed ttl shown)
  simp only [fill, Config.refusal?, Refusal.cache?, Refusal.requireName, Refusal.first,
    Refusal.limitSize, if_neg named, if_neg small, within]

end ReadThrough

namespace Memory

-- One use of a reader; before each of its effects some time may pass.
structure Visit where
  table : String
  key : String
  ttl : Option Duration
  elapsed : Nat → Duration

namespace Visit

def reader (visit : Visit) : ReadThrough :=
  { ReadThrough.of visit.table visit.key with ttl := visit.ttl }

-- The names are not empty, and an expiry lies within its limits.
structure Valid (visit : Visit) : Prop where
  table : visit.table ≠ ""
  key : visit.key ≠ ""
  ttl : ∀ ttl, visit.ttl = some ttl → 0 < ttl.inNanos ∧ ttl.inNanos ≤ maxCacheTtl.inNanos

theorem valid_of_untimed {visit : Visit} (table : visit.table ≠ "") (key : visit.key ≠ "")
    (untimed : visit.ttl = none) : visit.Valid :=
  ⟨table, key, fun ttl timed => absurd (untimed.symm.trans timed) (Option.some_ne_none ttl).symm⟩

theorem cacheKey_ne_empty (visit : Visit) : visit.reader.cacheKey ≠ "" :=
  ReadThrough.defaultKey_ne_empty visit.table visit.key

def held (visit : Visit) (records : Records) : Option Document :=
  (records.record? visit.table visit.key).map (·.value)

end Visit

namespace Backends

def advance (backends : Backends) (time : Duration) : Backends :=
  { backends with cache := { backends.cache with store := backends.cache.store.advance time } }

-- Nothing but the clock goes on before each effect.
def passing (elapsed : Nat → Duration) (number : Nat) (backends : Backends) : Backends :=
  backends.advance (elapsed number)

variable {config : Config} {dispatcher : Dispatcher Backends}

theorem fault?_of_dispatcher (valid : Backends.dispatcher config = .ok dispatcher) :
    config.fault? = none := by
  rw [Backends.dispatcher, Config.validate] at valid
  cases fault : config.fault? with
  | none => rfl
  | some fault => simp [fault] at valid

theorem interpret_accepted (valid : Backends.dispatcher config = .ok dispatcher) {effect : Effect}
    (accepted : config.refusal? effect = none) (backends : Backends) :
    dispatcher.interpret effect backends =
      let answered := collaborators.perform config effect backends
      (answered.1.map (config.outcome effect), answered.2) := by
  obtain rfl := dispatcher_eq valid
  simp only [dispatcherFor, Dispatcher.standard, if_true, accepted]

theorem interpret_refused (valid : Backends.dispatcher config = .ok dispatcher) {effect : Effect}
    {refusal : Refusal} (refused : config.refusal? effect = some refusal) (backends : Backends) :
    dispatcher.interpret effect backends =
      (.ready (.error (refusal.error config effect)), backends) := by
  obtain rfl := dispatcher_eq valid
  simp only [dispatcherFor, Dispatcher.standard, if_true, refused]

def withTable (start : Backends) (cache : CacheTable) : Backends :=
  { start with cache := .of cache }

variable (valid : Backends.dispatcher config = .ok dispatcher) (start : Backends)
  (cache : CacheTable) (visit : Visit)
include valid

theorem interpret_lookUp :
    dispatcher.interpret visit.reader.lookUp (start.withTable cache) =
      let (found, left) := cache.get (config.cacheKey visit.reader.cacheKey)
      (.ready (.ok (.cache (.lookup (CacheStore.looked found)))), start.withTable left) := by
  rw [interpret_accepted valid (ReadThrough.lookUp_accepted config visit.cacheKey_ne_empty)]
  rfl

variable {visit}

theorem interpret_read {records : Records} (sound : visit.Valid)
    (stock : start.records = .of records) :
    dispatcher.interpret visit.reader.read (start.withTable cache) =
      (.ready (.ok (.storage (.lookup (records.get visit.table visit.key)))),
        start.withTable cache) := by
  have accepted : config.refusal? visit.reader.read = none :=
    ReadThrough.read_accepted config sound.table sound.key
  rw [interpret_accepted valid accepted]
  cases start
  cases stock
  rfl

theorem interpret_fill {value : Document} (sound : visit.Valid)
    (fits : value.size ≤ config.maxPayloadBytes) :
    let applied := Refusal.appliedTtl config visit.ttl
    dispatcher.interpret (visit.reader.fill value) (start.withTable cache) =
      (.ready (.ok (.cache (.stored ⟨applied⟩))), start.withTable
        (cache.set (config.cacheKey visit.reader.cacheKey) value.encoded applied)) := by
  have accepted : config.refusal? (visit.reader.fill value) = none :=
    ReadThrough.fill_accepted (fault?_of_dispatcher valid) visit.cacheKey_ne_empty fits sound.ttl
  rw [interpret_accepted valid accepted]
  rfl

end Backends

-- Every record is of whole numbers and within the size that the interpreters admit.
def Stocked (config : Config) (records : Records) : Prop :=
  ∀ table key record, records.record? table key = some record →
    record.value.isExact = true ∧ record.value.size ≤ config.maxPayloadBytes

-- Every slot of the cache holds, under the key of a visit, the record that the visit reads.
def Mirrors (config : Config) (visits : List Visit) (records : Records) (cache : CacheTable) :
    Prop :=
  ∀ name slot, cache.slots.get? name = some slot → ∃ visit ∈ visits, ∃ value,
    name = config.cacheKey visit.reader.cacheKey ∧ visit.held records = some value ∧
      slot.value = value.encoded

-- No two records are read under one key of the cache.
def Apart (visits : List Visit) : Prop :=
  ∀ one ∈ visits, ∀ other ∈ visits, one.reader.cacheKey = other.reader.cacheKey →
    one.table = other.table ∧ one.key = other.key

section
variable {config : Config} {dispatcher : Dispatcher Backends} {visits : List Visit}
  {records : Records} {start : Backends} {cache : CacheTable} {visit : Visit}

theorem mirrors_empty : Mirrors config visits records .empty := by
  rintro _ _ ⟨⟩

theorem Mirrors.advance (mirrors : Mirrors config visits records cache) (time : Duration) :
    Mirrors config visits records (cache.advance time) := by
  cases cache
  exact fun name slot found => mirrors name slot found

theorem Mirrors.get (mirrors : Mirrors config visits records cache) (name : String) :
    Mirrors config visits records (cache.get name).2 := by
  rw [CacheTable.get]
  split
  · exact mirrors
  · exact fun other slot found => mirrors other slot (Dict.get?_of_get?_erase found)

theorem Mirrors.set (mirrors : Mirrors config visits records cache) (member : visit ∈ visits)
    {value : Document} (held : visit.held records = some value) (ttl : Option Duration) :
    Mirrors config visits records
      (cache.set (config.cacheKey visit.reader.cacheKey) value.encoded ttl) := by
  intro name slot found
  rw [CacheTable.set, Dict.get?_insert] at found
  split at found
  · next same =>
    obtain rfl := Option.some.inj found
    exact ⟨visit, member, value, same, held, rfl⟩
  · exact mirrors name slot found

theorem Mirrors.held (mirrors : Mirrors config visits records cache) (apart : Apart visits)
    (member : visit ∈ visits) (bytes : Bytes)
    (found : (cache.get (config.cacheKey visit.reader.cacheKey)).1 = some bytes) :
    ∃ value, visit.held records = some value ∧ bytes = value.encoded := by
  rw [CacheTable.get] at found
  split at found
  · next slot live =>
    obtain rfl := Option.some.inj found
    obtain ⟨other, listed, value, same, held, encoded⟩ :=
      mirrors _ slot (Option.filter_eq_some_iff.mp live).1
    obtain ⟨table, key⟩ := apart visit member other listed (Config.cacheKey_injective same)
    rw [Visit.held, ← table, ← key] at held
    exact ⟨value, held, encoded⟩
  · cases found

variable (valid : Backends.dispatcher config = .ok dispatcher)
  (stock : start.records = .of records) (stocked : Stocked config records)
  (member : visit ∈ visits) (sound : visit.Valid)
include valid stock stocked member sound

-- Where the cache has no document to offer, the record is read, and mirrored if there is one.
theorem Mirrors.missed (mirrors : Mirrors config visits records cache) {begun : Backends × Nat}
    {number : Nat} {found : Cache.Lookup} (unkept : ReadThrough.kept? found = none)
    (looked : (dispatcher.preceded (Backends.passing visit.elapsed)).interpret visit.reader.lookUp
      begun = (.ready (.ok (.cache (.lookup found))), (start.withTable cache, number))) :
    ∃ left last, Mirrors config visits records left ∧
      visit.reader.Reads (dispatcher.preceded (Backends.passing visit.elapsed)) begun
        (visit.held records) (start.withTable left, last) := by
  have waited := mirrors.advance (visit.elapsed number)
  have read := Backends.interpret_read valid start (cache.advance (visit.elapsed number)) sound stock
  cases known : records.record? visit.table visit.key with
  | none =>
    have held : visit.held records = none := by rw [Visit.held, known, Option.map_none]
    rw [Records.get, known] at read
    rw [held]
    exact ⟨_, _, waited, .absent looked unkept (Dispatcher.preceded_interpret read)⟩
  | some record =>
    have held : visit.held records = some record.value := by
      rw [Visit.held, known, Option.map_some]
    rw [Records.get, known] at read
    have fits := (stocked _ _ record known).2
    have stored := Backends.interpret_fill valid start
      ((cache.advance (visit.elapsed number)).advance (visit.elapsed (number + 1))) sound fits
    have mirrored := (waited.advance (visit.elapsed (number + 1))).set member held
    rw [held]
    exact ⟨_, _, mirrored _, .filled looked unkept (Dispatcher.preceded_interpret read)
      (Dispatcher.preceded_interpret stored)⟩

theorem Mirrors.reads (mirrors : Mirrors config visits records cache) (apart : Apart visits) :
    ∃ left last, Mirrors config visits records left ∧
      visit.reader.Reads (dispatcher.preceded (Backends.passing visit.elapsed))
        (start.withTable cache, 0) (visit.held records) (start.withTable left, last) := by
  have waited := mirrors.advance (visit.elapsed 0)
  have looked := Backends.interpret_lookUp valid start (cache.advance (visit.elapsed 0)) visit
  have kept := waited.get (config.cacheKey visit.reader.cacheKey)
  have known := waited.held apart member
  generalize (cache.advance (visit.elapsed 0)).get (config.cacheKey visit.reader.cacheKey) = answer
    at looked kept known
  obtain ⟨found, left⟩ := answer
  have asked : (dispatcher.preceded (Backends.passing visit.elapsed)).interpret
      visit.reader.lookUp (start.withTable cache, 0) =
        (.ready (.ok (.cache (.lookup (CacheStore.looked found)))), (start.withTable left, 1)) :=
    Dispatcher.preceded_interpret looked
  cases found with
  | none => exact kept.missed valid stock stocked member sound rfl asked
  | some bytes =>
    obtain ⟨value, held, rfl⟩ := known bytes rfl
    have whole : value.isExact = true := by
      obtain ⟨record, found, rfl⟩ := Option.map_eq_some_iff.mp held
      exact (stocked _ _ record found).1
    have decoded := value.decode?_encoded whole
    split at decoded
    · rw [held]
      exact ⟨left, _, kept, .hit asked decoded⟩
    · have unkept : ReadThrough.kept? (.hit value.encoded) = none := decoded
      exact kept.missed valid stock stocked member sound unkept asked

end

-- A document that is to be put, and the version that the write may expect.
structure Write where
  table : String
  key : String
  value : Document
  expected : Option Nat

def Write.effect (write : Write) : Effect :=
  .storage (.put write.table write.key write.value write.expected)

section
variable (dispatcher : Dispatcher Backends)

-- What writes leave of empty backends; those that are refused or meet a conflict leave no record.
def filled (writes : List Write) : Backends :=
  writes.foldl (fun backends write => (dispatcher.interpret write.effect backends).2) .empty

-- The answers of visits that are made one after another, while the clock goes on.
def answers (bound : Nat) : List Visit → Backends → List (Standing (Option Document))
  | [], _ => []
  | visit :: later, backends =>
      let (progress, left) := visit.reader.program.run
        (dispatcher.preceded (Backends.passing visit.elapsed)) bound (backends, 0)
      progress.standing :: answers bound later left.1

end

section
variable {config : Config} {dispatcher : Dispatcher Backends}

theorem Stocked.put {records : Records} (stocked : Stocked config records) (write : Write)
    (whole : write.value.isExact = true) (fits : write.value.size ≤ config.maxPayloadBytes) :
    Stocked config (records.put write.table write.key write.value write.expected).2 := by
  rw [Records.put]
  split
  · intro table key record found
    rw [Records.record?_store] at found
    split at found
    · obtain rfl := Option.some.inj found
      exact ⟨whole, fits⟩
    · exact stocked table key record found
  · intro table key record found
    exact stocked table key record (by rwa [Records.record?_touch] at found)

theorem fits_of_accepted {write : Write} (accepted : config.refusal? write.effect = none) :
    write.value.size ≤ config.maxPayloadBytes := by
  by_contra large
  have beyond := Nat.lt_of_not_le large
  simp only [Write.effect, Config.refusal?, Refusal.storage?, Refusal.limitSize, if_pos beyond,
    Refusal.requireName] at accepted
  split at accepted <;> split at accepted <;> cases accepted

theorem interpret_write (valid : Backends.dispatcher config = .ok dispatcher) {records : Records}
    (stocked : Stocked config records) (write : Write) (whole : write.value.isExact = true) :
    ∃ left, Stocked config left ∧
      (dispatcher.interpret write.effect { Backends.empty with records := .of records }).2 =
        { Backends.empty with records := .of left } := by
  cases refused : config.refusal? write.effect with
  | some refusal =>
    rw [Backends.interpret_refused valid refused]
    exact ⟨records, stocked, rfl⟩
  | none =>
    rw [Backends.interpret_accepted valid refused]
    exact ⟨_, stocked.put write whole (fits_of_accepted refused), rfl⟩

theorem filled_stocked (valid : Backends.dispatcher config = .ok dispatcher) (writes : List Write)
    (whole : ∀ write ∈ writes, write.value.isExact = true) :
    ∃ records, Stocked config records ∧
      filled dispatcher writes = { Backends.empty with records := .of records } := by
  induction writes using List.reverseRecOn with
  | nil => exact ⟨.empty, by rintro _ _ _ ⟨⟩, rfl⟩
  | append_singleton writes write ih =>
    obtain ⟨records, stocked, reached⟩ := ih fun other member => whole other (by simp [member])
    rw [filled, List.foldl_append, ← filled, reached]
    exact interpret_write valid stocked write (whole write (by simp))

theorem answers_held (valid : Backends.dispatcher config = .ok dispatcher) {visits : List Visit}
    {records : Records} {start : Backends} (stock : start.records = .of records)
    (stocked : Stocked config records) (apart : Apart visits) (extra : Nat) (later : List Visit)
    (listed : ∀ visit ∈ later, visit ∈ visits) (sound : ∀ visit ∈ later, visit.Valid)
    (cache : CacheTable) (mirrors : Mirrors config visits records cache) :
    answers dispatcher (extra + 3) later (start.withTable cache) =
      later.map fun visit => .finished (.ok (visit.held records)) := by
  induction later generalizing cache with
  | nil => rfl
  | cons visit later ih =>
    obtain ⟨left, last, kept, reads⟩ := mirrors.reads valid stock stocked
      (listed visit (.head _)) (sound visit (.head _)) apart
    rw [answers, reads.run extra]
    exact congrArg _ (ih (fun other member => listed other (.tail _ member))
      (fun other member => sound other (.tail _ member)) left kept)

/-- Readers of records that were put under a valid configuration answer what the records hold, in
whatever order they come and however the clock advances before each of their effects, if no two
records are read under one key of the cache. -/
theorem read_through_coherent (valid : Backends.dispatcher config = .ok dispatcher)
    {writes : List Write} (whole : ∀ write ∈ writes, write.value.isExact = true)
    {visits : List Visit} (sound : ∀ visit ∈ visits, visit.Valid) (apart : Apart visits)
    {bound : Nat} (enough : 3 ≤ bound) :
    let start := filled dispatcher writes
    answers dispatcher bound visits start =
      visits.map fun visit => .finished (.ok (visit.held start.records.store)) := by
  obtain ⟨records, stocked, reached⟩ := filled_stocked valid writes whole
  obtain ⟨extra, rfl⟩ := Nat.exists_eq_add_of_le' enough
  rw [reached]
  have stock : ({ Backends.empty with records := .of records } : Backends).records =
      .of records := rfl
  exact answers_held valid stock stocked apart extra visits (fun _ member => member) sound .empty
    mirrors_empty

end

theorem read_through_coherent_again :
    let alice : Document := ⟨.string "Alice", rfl⟩
    let writes : List Write := [⟨"users", "alice", alice, some 0⟩]
    let secs (number : Nat) : Duration := .ofSecs (25 * number)
    let visits : List Visit := [⟨"users", "alice", none, secs⟩,
      ⟨"users", "alice", some (.ofSecs 60), secs⟩, ⟨"users", "bob", none, secs⟩]
    ∃ dispatcher, Backends.dispatcher .default = .ok dispatcher ∧
      (∀ write ∈ writes, write.value.isExact = true) ∧ (∀ visit ∈ visits, visit.Valid) ∧
      Apart visits ∧
      answers dispatcher 3 visits (filled dispatcher writes) =
        [.finished (.ok (some alice)), .finished (.ok (some alice)), .finished (.ok none)] := by
  intro alice writes secs visits
  have valid : Backends.dispatcher .default =
      .ok (Backends.dispatcherFor (fun _ => true) .default) := rfl
  have whole : ∀ write ∈ writes, write.value.isExact = true := by
    simp only [writes, List.forall_mem_cons]
    exact ⟨rfl, by simp⟩
  have sound : ∀ visit ∈ visits, visit.Valid := by
    simp only [visits, List.forall_mem_cons]
    refine ⟨Visit.valid_of_untimed (by decide) (by decide) rfl, ⟨by decide, by decide, ?_⟩,
      Visit.valid_of_untimed (by decide) (by decide) rfl, by simp⟩
    intro ttl timed
    obtain rfl := Option.some.inj timed
    decide
  have apart : Apart visits := by
    rw [Apart]
    decide
  exact ⟨_, valid, whole, sound, apart, read_through_coherent valid whole sound apart (by decide)⟩

-- Two records that meet under one key of the cache: the second reader answers the first record.
theorem records_meet :
    let one : Document := ⟨.number (.whole 1), rfl⟩
    let two : Document := ⟨.number (.whole 2), rfl⟩
    let writes : List Write := [⟨"a:b", "c", one, none⟩, ⟨"a", "b:c", two, none⟩]
    let still (_ : Nat) : Duration := .ofSecs 0
    let first : Visit := ⟨"a:b", "c", none, still⟩
    let second : Visit := ⟨"a", "b:c", none, still⟩
    ∃ dispatcher, Backends.dispatcher .default = .ok dispatcher ∧
      (∀ write ∈ writes, write.value.isExact = true) ∧ first.Valid ∧ second.Valid ∧
      second.held (filled dispatcher writes).records.store = some two ∧
      answers dispatcher 3 [first, second] (filled dispatcher writes) =
        [.finished (.ok (some one)), .finished (.ok (some one))] ∧ one ≠ two := by
  refine ⟨Backends.dispatcherFor (fun _ => true) .default, rfl, ?_,
    Visit.valid_of_untimed (by decide) (by decide) rfl,
    Visit.valid_of_untimed (by decide) (by decide) rfl, ?_, ?_, by decide⟩
  · simp only [List.forall_mem_cons]
    exact ⟨rfl, rfl, by simp⟩
  · rfl
  · rfl

end Memory
end EffectPrograms
