import EffectPrograms.Proofs.FailingEffects
import EffectPrograms.Proofs.Holdings
import EffectPrograms.Proofs.Reading
import EffectPrograms.Proofs.Stepwise

set_option autoImplicit false

namespace EffectPrograms

namespace Refusal

-- A check that does not find a payload too large.
def Small (check : Option Refusal) : Prop :=
  ∀ refusal, check = some refusal → refusal.kind ≠ .payloadTooLarge

theorem ite_small {condition : Prop} [Decidable condition] {held unheld : Option Refusal}
    (first : Small held) (second : Small unheld) : Small (if condition then held else unheld) := by
  split
  · exact first
  · exact second

theorem none_small : Small none := fun _ => nofun

theorem some_small {refusal : Refusal} (small : refusal.kind ≠ .payloadTooLarge) :
    Small (some refusal) := by
  intro found same
  obtain rfl := Option.some.inj same
  exact small

theorem first_small {checks : List (Option Refusal)} (small : ∀ check ∈ checks, Small check) :
    Small (first checks) := by
  induction checks with
  | nil => exact none_small
  | cons check rest ih =>
    obtain ⟨head, tail⟩ := List.forall_mem_cons.mp small
    cases check with
    | none => exact ih tail
    | some refusal => exact head

theorem requireName_small (field value : String) : Small (requireName field value) :=
  ite_small (some_small nofun) none_small

theorem limitTtl_small (ttl : Option Duration) : Small (limitTtl ttl) := by
  cases ttl with
  | none => exact none_small
  | some ttl => exact ite_small (some_small nofun) (ite_small (some_small nofun) none_small)

theorem limitSize_small {config : Config} {size : Nat} (fits : size ≤ config.maxPayloadBytes)
    (what : String) : Small (limitSize config what size) := by
  rw [(limitSize_eq_none_iff config what size).mpr fits]
  exact none_small

end Refusal

open Refusal in
theorem Config.refusal?_small {config : Config} {effect : Effect}
    (fits : ∀ size, effect.payloadSize? = some size → size ≤ config.maxPayloadBytes) :
    Small (config.refusal? effect) := by
  cases effect with
  | storage request =>
    cases request with
    | get table key | delete table key => exact first_small (by simp [requireName_small])
    | put table key value expected =>
      have sized : Small (limitSize config "record" value.size) := limitSize_small (fits _ rfl) _
      exact first_small (by simp [requireName_small, sized])
    | query table start limit =>
      have zero : Small (if limit = some 0 then some .zeroLimit else none) :=
        ite_small (some_small nofun) none_small
      exact first_small (by simp [requireName_small, zero])
  | object request =>
    cases request with
    | put bucket key body contentType =>
      exact first_small (by simp [requireName_small, limitSize_small (fits _ rfl)])
    | get bucket key | delete bucket key => exact first_small (by simp [requireName_small])
    | list bucket start => exact requireName_small "bucket" bucket
  | cache request =>
    cases request with
    | get key | delete key => exact requireName_small "cache key" key
    | set key value ttl =>
      exact first_small
        (by simp [requireName_small, limitSize_small (fits _ rfl), limitTtl_small])
  | messaging request =>
    cases request with
    | publish topic payload attributes =>
      exact first_small (by simp [requireName_small, limitSize_small (fits _ rfl)])
    | receive subscription => exact requireName_small "subscription" subscription
    | acknowledge subscription messageId => exact first_small (by simp [requireName_small])
  | transport request =>
    cases request with
    | send connection frame =>
      exact first_small (by simp [requireName_small, limitSize_small (fits _ rfl)])
    | receive connection => exact requireName_small "connection id" connection
    | close connection code reason =>
      have numbered : Small (if 1000 ≤ code ∧ code ≤ 4999 then none else some (.closeCode code)) :=
        ite_small none_small (some_small nofun)
      have short : Small (if maxReason < (Bytes.ofText reason).length then some .longReason
          else none) := ite_small (some_small nofun) none_small
      exact first_small (by simp [requireName_small, numbered, short])

theorem BackendError.kind_ne_payloadTooLarge (failure : BackendError) :
    failure.kind ≠ .payloadTooLarge := by
  cases failure <;> exact nofun

namespace Memory

def Data.Within (limit : Nat) (data : Data) : Prop := ∀ size, data.Holds size → size ≤ limit

def Happening.Under (config : Config) : Happening → Prop
  | dispatch other _ | askAgain other _ _ => other = config
  | _ => True

section
variable {config : Config} {dispatcher : Dispatcher Backends}
  (valid : Backends.dispatcher config = .ok dispatcher)
include valid

theorem payload_fits {effect : Effect} {size : Nat} (accepted : config.refusal? effect = none)
    (sized : effect.payloadSize? = some size) : size ≤ config.maxPayloadBytes := by
  have fit := (Config.refusal?_eq_none_iff (Backends.fault?_of_dispatcher valid) effect).mp accepted
  exact (Effect.not_unfit_iff.mp fit).2.1 size sized

theorem interpret_fits {effect : Effect} {backends left : Backends} {error : EffectError}
    (fits : ∀ size, effect.payloadSize? = some size → size ≤ config.maxPayloadBytes)
    (failed : dispatcher.interpret effect backends = (.ready (.error error), left)) :
    error.kind ≠ .payloadTooLarge := by
  cases refused : config.refusal? effect with
  | some refusal =>
    rw [Backends.interpret_refused valid refused] at failed
    obtain rfl := Except.error.inj (Poll.ready.inj (congrArg Prod.fst failed))
    exact Config.refusal?_small fits refusal refused
  | none =>
    rw [Backends.interpret_accepted valid refused] at failed
    obtain ⟨failure, -, rfl⟩ := Backends.map_outcome_error (congrArg Prod.fst failed)
    exact failure.kind_ne_payloadTooLarge

theorem interpret_within (effect : Effect) {backends : Backends}
    (within : backends.data.Within config.maxPayloadBytes) :
    (dispatcher.interpret effect backends).2.data.Within config.maxPayloadBytes := by
  intro size holds
  rcases Backends.interpret_data valid effect backends with same | ⟨accepted, worked⟩
  · rw [same] at holds
    exact within size holds
  · rw [worked] at holds
    rcases Data.holds_work holds with earlier | sized
    · exact within size earlier
    · exact payload_fits valid accepted sized

theorem perform_within {happening : Happening} (under : happening.Under config)
    {backends : Backends} (within : backends.data.Within config.maxPayloadBytes) :
    (happening.perform backends).data.Within config.maxPayloadBytes := by
  intro size holds
  rcases (happening.perform_changes backends).holds holds with
    earlier | ⟨other, effect, rfl, accepted, sized⟩
  · exact within size earlier
  · obtain rfl : other = config := under
    exact payload_fits valid accepted sized

theorem course_within {happenings : List Happening}
    (under : ∀ happening ∈ happenings, happening.Under config) :
    (Happening.course happenings).2.data.Within config.maxPayloadBytes := by
  induction happenings using List.reverseRecOn with
  | nil => exact fun size holds => absurd holds Data.not_holds_empty
  | append_singleton happenings happening ih =>
    rw [Happening.course_snoc]
    have before := ih fun earlier member => under earlier (List.mem_append_left _ member)
    exact perform_within valid (under happening (by simp)) before

theorem interpret_found {table key : String} {value : Document} {backends left : Backends}
    (found : dispatcher.interpret (.storage (.get table key)) backends =
      (.ready (.ok (.storage (.lookup (.found value)))), left)) :
    backends.data.Holds value.encoded.length := by
  obtain ⟨-, worked, -⟩ := Backends.interpret_answered valid found
  have read : backends.data.records.get table key = .found value :=
    Storage.Result.lookup.inj (Result.storage.inj (Except.ok.inj (Poll.ready.inj worked)))
  rw [Records.get] at read
  split at read
  · next record known =>
    obtain rfl := Storage.Lookup.found.inj read
    exact .records ⟨table, key, record, known, rfl⟩
  · cases read

end
end Memory

namespace ReadThrough
open Memory (Backends Happening)

-- What a reader needs next, in the state that it is in; a document is put into the cache only if
-- it is within a limit.
inductive Needs (r : ReadThrough) (limit : Nat) : Effect → State → Prop where
  | looking : Needs r limit r.lookUp .checkingCache
  | reading : Needs r limit r.read .readingRecord
  | filling (value : Document) (small : value.encoded.length ≤ limit) :
      Needs r limit (r.fill value) (.fillingCache value)

-- An outcome that does not tell of a payload that is too large.
def Spares {α : Type} (outcome : Outcome α) : Prop :=
  ∀ error, outcome = .error error → error.kind ≠ .payloadTooLarge

inductive Proceeds (r : ReadThrough) (limit : Nat) : Program.Turn r.program → Prop where
  | suspended {effect : Effect} {inner : State} (needs : r.Needs limit effect inner) :
      Proceeds r limit (.ok (.suspended effect, inner))
  | done {outcome : Outcome (Option Document)} (inner : State) (spares : Spares outcome) :
      Proceeds r limit (.ok (.done outcome, inner))

inductive Sound (r : ReadThrough) (limit : Nat) : Progress r.program → Prop where
  | pending {progress : Progress r.program} {effect : Effect} {inner : State}
      (stands : Program.Shows progress (.ok (.suspended effect, inner)))
      (needs : r.Needs limit effect inner) : Sound r limit progress
  | finished {outcome : Outcome (Option Document)} (spares : Spares outcome) :
      Sound r limit (.finished outcome)

variable {r : ReadThrough} {limit : Nat}

theorem sound_of_shows {progress : Progress r.program} {turn : Program.Turn r.program}
    (stands : Program.Shows progress turn) (proceeds : r.Proceeds limit turn) :
    r.Sound limit progress := by
  cases proceeds with
  | suspended needs => exact .pending stands needs
  | done inner spares =>
    obtain ⟨execution, rfl⟩ := stands
    exact .finished spares

theorem begun_sound (r : ReadThrough) (limit : Nat) : r.Sound limit r.program.begun :=
  .pending (Program.begun_shows r.program) .looking

theorem spares_ok {α : Type} (value : α) : Spares (.ok value : Outcome α) := fun _ => nofun

theorem accept_spares (effect : Effect) (result : Result) : Spares (effect.accept result) := by
  intro error failed
  rw [Effect.accept] at failed
  split at failed
  · cases failed
  · obtain rfl := Except.error.inj failed
    intro same
    cases same

theorem Needs.fits {effect : Effect} {inner : State} (needs : r.Needs limit effect inner) :
    ∀ size, effect.payloadSize? = some size → size ≤ limit := by
  cases needs with
  | looking | reading => exact fun _ => nofun
  | filling value small =>
    intro size sized
    obtain rfl := Option.some.inj sized
    exact small

theorem Needs.untold {effect : Effect} {inner : State} (needs : r.Needs limit effect inner)
    (connection : String) : effect ≠ .transport (.receive connection) := by
  cases needs <;> exact nofun

theorem spares_error {α β : Type} {outcome : Outcome α} (spares : Spares outcome)
    {error : EffectError} (failed : outcome = .error error) : Spares (.error error : Outcome β) := by
  intro other same
  obtain rfl := Except.error.inj same
  exact spares error failed

theorem Needs.resumed {effect : Effect} {inner : State} (needs : r.Needs limit effect inner)
    {result : Result} (small : ∀ value, effect = r.read →
      result = .storage (.lookup (.found value)) → value.encoded.length ≤ limit) :
    r.Proceeds limit (r.program.resume inner result) := by
  cases needs with
  | looking =>
    have spares := accept_spares r.lookUp result
    simp only [program]
    split
    · next error refused => exact .done _ (spares_error spares refused)
    · exact .suspended .reading
    · split
      · exact .done _ (spares_ok _)
      · exact .suspended .reading
  | reading =>
    have spares := accept_spares r.read result
    simp only [program]
    split
    · next error refused => exact .done _ (spares_error spares refused)
    · exact .done _ (spares_ok _)
    · next value accepted =>
      exact .suspended (.filling value (small value rfl (Effect.answer_of_accept accepted).symm))
  | filling value =>
    have spares := accept_spares (r.fill value) result
    simp only [program]
    split
    · next error refused => exact .done _ (spares_error spares refused)
    · exact .done _ (spares_ok _)

section Advancing
variable {config : Config} {dispatcher : Dispatcher Backends}
  (valid : Backends.dispatcher config = .ok dispatcher)
include valid

theorem advance_sound {progress : Progress r.program} {backends : Backends}
    (within : backends.data.Within config.maxPayloadBytes)
    (sound : r.Sound config.maxPayloadBytes progress) :
    (progress.advance dispatcher backends).2.data.Within config.maxPayloadBytes ∧
      r.Sound config.maxPayloadBytes (progress.advance dispatcher backends).1 := by
  cases sound with
  | finished spares => exact ⟨within, .finished spares⟩
  | @pending _ effect inner stands needs =>
    have kept := Memory.interpret_within valid effect within
    rcases interpreted : dispatcher.interpret effect backends with
      ⟨⟨error | result⟩ | ticket, left⟩
    · rw [stands.failed interpreted]
      rw [interpreted] at kept
      refine ⟨kept, .finished fun other same => ?_⟩
      obtain rfl := Except.error.inj same
      exact Memory.interpret_fits valid needs.fits interpreted
    · obtain ⟨next, advanced, shown⟩ := stands.answered interpreted
      rw [advanced]
      rw [interpreted] at kept
      refine ⟨kept, sound_of_shows shown (needs.resumed fun value read found => ?_)⟩
      subst read found
      exact within _ (Memory.interpret_found valid interpreted)
    · obtain ⟨connection, same⟩ := Backends.interpret_waits valid interpreted
      exact absurd same (needs.untold connection)

theorem run_sound (r : ReadThrough) (bound : Nat) {backends : Backends}
    (within : backends.data.Within config.maxPayloadBytes) :
    (r.program.run dispatcher bound backends).2.data.Within config.maxPayloadBytes ∧
      r.Sound config.maxPayloadBytes (r.program.run dispatcher bound backends).1 := by
  induction bound with
  | zero =>
    rw [Program.run_zero]
    exact ⟨within, begun_sound r _⟩
  | succ bound ih =>
    rw [Program.run_succ]
    exact advance_sound valid ih.1 ih.2

omit valid in
theorem Sound.spares {outcome : Outcome (Option Document)}
    (sound : r.Sound limit (.finished outcome)) : Spares outcome := by
  generalize shown : (Progress.finished outcome : Progress r.program) = progress at sound
  cases sound with
  | finished spares =>
    obtain rfl := Progress.finished.inj shown
    exact spares
  | pending stands =>
    obtain ⟨execution, rfl⟩ := stands
    cases shown

end Advancing

-- A reader amid other things that happen: in each moment it has one more effect, or one of them
-- happens.
def moment (r : ReadThrough) (dispatcher : Dispatcher Backends)
    (reached : Progress r.program × Backends) :
    Option Happening → Progress r.program × Backends
  | none => reached.1.advance dispatcher reached.2
  | some happening => (reached.1, happening.perform reached.2)

def amid (r : ReadThrough) (dispatcher : Dispatcher Backends) (moments : List (Option Happening)) :
    Progress r.program × Backends :=
  moments.foldl (r.moment dispatcher) (r.program.begun, .empty)

theorem amid_sound {config : Config} {dispatcher : Dispatcher Backends}
    (valid : Backends.dispatcher config = .ok dispatcher) (r : ReadThrough)
    {moments : List (Option Happening)}
    (under : ∀ happening, some happening ∈ moments → happening.Under config) :
    (r.amid dispatcher moments).2.data.Within config.maxPayloadBytes ∧
      r.Sound config.maxPayloadBytes (r.amid dispatcher moments).1 := by
  induction moments using List.reverseRecOn with
  | nil => exact ⟨fun size holds => absurd holds Memory.Data.not_holds_empty, begun_sound r _⟩
  | append_singleton moments last ih =>
    obtain ⟨within, sound⟩ := ih fun happening earlier =>
      under happening (List.mem_append_left _ earlier)
    rw [amid, List.foldl_append, ← amid]
    cases last with
    | none => exact advance_sound valid within sound
    | some happening =>
      have own : happening.Under config := under happening (by simp)
      exact ⟨Memory.perform_within valid own within, sound⟩

end ReadThrough

namespace Memory
open Happening (course)

/-- Nothing that the stores hold is over the payload limit, whatever has happened under one
configuration. A reader that is driven on such stores, at once or amid all that happens, never
fails for a payload that is too large. -/
theorem payload_limit_kept {config : Config} {dispatcher : Dispatcher Backends}
    (valid : Backends.dispatcher config = .ok dispatcher) :
    (∀ happenings : List Happening, (∀ happening ∈ happenings, happening.Under config) →
      (∀ size, (course happenings).2.data.Holds size → size ≤ config.maxPayloadBytes) ∧
      ∀ (r : ReadThrough) bound error left,
        r.program.run dispatcher bound (course happenings).2 = (.finished (.error error), left) →
          error.kind ≠ .payloadTooLarge) ∧
    ∀ (r : ReadThrough) (moments : List (Option Happening)),
      (∀ happening, some happening ∈ moments → happening.Under config) →
      (∀ size, (r.amid dispatcher moments).2.data.Holds size → size ≤ config.maxPayloadBytes) ∧
      ∀ error, (r.amid dispatcher moments).1 = .finished (.error error) →
        error.kind ≠ .payloadTooLarge := by
  refine ⟨fun happenings under => ?_, fun r moments under => ?_⟩
  · have within := course_within valid under
    refine ⟨within, fun r bound error left failed => ?_⟩
    have sound := (r.run_sound valid bound within).2
    rw [failed] at sound
    exact sound.spares error rfl
  · obtain ⟨within, sound⟩ := r.amid_sound valid under
    refine ⟨within, fun error failed => ?_⟩
    rw [failed] at sound
    exact sound.spares error rfl

-- A document of four bytes is stored where four are the limit, and a longer one would not be.
theorem payload_limit_kept_null :
    let config := Config.default.withMaxPayloadBytes 4
    let happenings : List Happening :=
      [.dispatch config (.storage (.put "users" "ada" .null none)),
        .dispatch config (.storage (.put "users" "bob" (.ofJson (.string "long")) none))]
    (course happenings).2.data.Holds 4 ∧
      ∀ size, (course happenings).2.data.Holds size → size ≤ 4 := by
  intro config happenings
  have valid : Backends.dispatcher config =
      .ok (Backends.dispatcherFor (fun _ => true) config) := rfl
  have under : ∀ happening ∈ happenings, happening.Under config := by
    simp [happenings, Happening.Under]
  have stored : (course happenings).2.data.records.record? "users" "ada" =
      some ⟨.null, 1⟩ := by decide
  exact ⟨.records ⟨"users", "ada", ⟨.null, 1⟩, stored, by decide⟩,
    ((payload_limit_kept valid).1 happenings under).1⟩

end Memory
end EffectPrograms
