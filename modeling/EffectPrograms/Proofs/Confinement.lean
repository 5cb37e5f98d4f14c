import EffectPrograms.Proofs.Interleaving
import EffectPrograms.Proofs.Work
import Mathlib.Data.Set.Defs

set_option autoImplicit false

namespace EffectPrograms

-- The record that a request is for.
def Storage.Request.record? : Storage.Request → Option (String × String)
  | get table key | put table key _ _ | delete table key => some (table, key)
  | query .. => none

def Effect.record? : Effect → Option (String × String)
  | storage request => request.record?
  | _ => none

namespace Program
variable {α β : Type} {program : Program α} {next : α → Program β} {asked : Effect → Prop}

-- Whatever results it gets, the program asks for effects of this kind and for nothing else.
def Asks (program : Program α) (asked : Effect → Prop) : Prop :=
  ∀ effect inner, program.Comes (.ok (.suspended effect, inner)) → asked effect

theorem perform_asks {effect : Effect} (asks : asked effect) : (perform effect).Asks asked := by
  rintro suspended inner comes
  generalize stands : (Except.ok (Step.suspended suspended, inner) : Turn (perform effect)) = turn
    at comes
  cases comes with
  | start =>
    cases stands
    exact asks
  | @resumed _ before _ result => cases before <;> cases stands

-- What a delegation may come to: what one of its two programs may come to.
inductive AndThen.Stands (program : Program α) (next : α → Program β) (effect : Effect) :
    AndThen.State program next → Prop where
  | first {inner : program.State} (comes : program.Comes (.ok (.suspended effect, inner))) :
      Stands program next effect (.first inner)
  | second {value : α} {built : Started (next value)}
      (comes : (next value).Comes (.ok (.suspended effect, built.state))) :
      Stands program next effect (.second value built)

theorem AndThen.afterFirst_stands {turn : Turn program} (comes : program.Comes turn)
    {effect : Effect} {stage : AndThen.State program next}
    (shown : AndThen.afterFirst turn = .ok (.suspended effect, stage)) :
    Stands program next effect stage := by
  rcases turn with violation | ⟨suspended | error | value, inner⟩
  · cases shown
  · cases shown
    exact .first comes
  · cases shown
  · simp only [afterFirst] at shown
    split at shown
    · cases shown
    · next step state started =>
      cases shown
      refine .second ?_
      dsimp only
      rw [← started]
      exact .start

theorem AndThen.afterSecond_stands {value : α} {built : Started (next value)}
    {turn : Turn (next value)} (comes : (next value).Comes turn) {effect : Effect}
    {stage : AndThen.State program next}
    (shown : AndThen.afterSecond value built turn = .ok (.suspended effect, stage)) :
    Stands program next effect stage := by
  rcases turn with violation | ⟨suspended | outcome, inner⟩
  · cases shown
  · cases shown
    exact .second comes
  · cases shown

theorem andThen_stands {effect : Effect} {stage : AndThen.State program next}
    (comes : (program.andThen next).Comes (.ok (.suspended effect, stage))) :
    AndThen.Stands program next effect stage := by
  generalize stood : (Except.ok (Step.suspended effect, stage) : Turn (program.andThen next)) = turn
    at comes
  induction comes generalizing effect stage with
  | start => exact AndThen.afterFirst_stands .start stood.symm
  | resumed before result ih =>
    cases ih rfl with
    | first earlier => exact AndThen.afterFirst_stands (earlier.resumed result) stood.symm
    | @second value built earlier =>
      have resumes : (program.andThen next).resume (.second value built) result =
          AndThen.afterSecond value built ((next value).resume built.state result) := by
        rw [← built.same]
        rfl
      rw [resumes] at stood
      exact AndThen.afterSecond_stands (earlier.resumed result) stood.symm

theorem Asks.andThen (first : program.Asks asked) (later : ∀ value, (next value).Asks asked) :
    (program.andThen next).Asks asked := by
  intro effect stage comes
  cases andThen_stands comes with
  | first earlier => exact first effect _ earlier
  | second earlier => exact later _ effect _ earlier

section
variable {own : Set (String × String)}

-- Whatever results it gets, the program asks for records of this set and for nothing else.
def Confined (program : Program α) (own : Set (String × String)) : Prop :=
  ∀ effect inner, program.Comes (.ok (.suspended effect, inner)) →
    ∃ record ∈ own, effect.record? = some record

theorem perform_confined {effect : Effect} {record : String × String} (member : record ∈ own)
    (asked : effect.record? = some record) : (perform effect).Confined own :=
  perform_asks ⟨record, member, asked⟩

theorem Confined.andThen (first : program.Confined own) (later : ∀ value, (next value).Confined own) :
    (program.andThen next).Confined own :=
  Asks.andThen first later

end

end Program

namespace Memory

namespace Records
variable {request : Storage.Request} {table key : String}

theorem work_congr (asked : request.record? = some (table, key)) {left right : Records}
    (same : left.record? table key = right.record? table key) :
    (left.work request).1 = (right.work request).1 ∧
      (left.work request).2.record? table key = (right.work request).2.record? table key := by
  cases request with
  | get =>
    obtain ⟨rfl, rfl⟩ := Prod.mk.inj (Option.some.inj asked)
    exact ⟨by simp only [work, get, same], same⟩
  | put other name value expected =>
    obtain ⟨rfl, rfl⟩ := Prod.mk.inj (Option.some.inj asked)
    have current : left.version other name = right.version other name := by
      simp only [version, same]
    simp only [work, put, current, same]
    split <;> simp [record?_store, same]
  | delete other name =>
    obtain ⟨rfl, rfl⟩ := Prod.mk.inj (Option.some.inj asked)
    have existed : (left.delete other name).1 = (right.delete other name).1 := by
      simp only [delete, same]
      cases right.record? other name <;> rfl
    exact ⟨congrArg Removal.ofExisted existed, by simp [work, record?_delete]⟩
  | query => cases asked

theorem work_elsewhere (asked : request.record? = some (table, key)) {other name : String}
    (elsewhere : ¬ (other = table ∧ name = key)) (records : Records) :
    (records.work request).2.record? other name = records.record? other name := by
  cases request with
  | get => rfl
  | put _ _ value expected =>
    obtain ⟨rfl, rfl⟩ := Prod.mk.inj (Option.some.inj asked)
    simp only [work, put]
    split
    · rw [record?_store, if_neg elsewhere]
    · exact record?_touch ..
  | delete =>
    obtain ⟨rfl, rfl⟩ := Prod.mk.inj (Option.some.inj asked)
    simp only [work]
    rw [record?_delete, if_neg elsewhere]
  | query => rfl

end Records

namespace Backends

-- Backends that look alike to a program with records of its own, where no failure meets it.
structure Agree (own : Set (String × String)) (left right : Backends) : Prop where
  quiet : left.records.faults.Quiet
  quiet' : right.records.faults.Quiet
  same : ∀ table key, (table, key) ∈ own →
    left.records.store.record? table key = right.records.store.record? table key

section
variable {config : Config} {dispatcher : Dispatcher Backends} {own : Set (String × String)}
  {effect : Effect} {table key : String} {left right : Backends}

theorem interpret_storage (valid : Backends.dispatcher config = .ok dispatcher)
    {backends : Backends} (quiet : backends.records.faults.Quiet) (request : Storage.Request) :
    dispatcher.interpret (.storage request) backends =
      match config.refusal? (.storage request) with
      | some refusal => (.ready (.error (refusal.error config (.storage request))), backends)
      | none =>
          let (response, records) := backends.records.store.work request
          (.ready (.ok (.storage (request.answer response))),
            { backends with records := { backends.records with store := records } }) := by
  cases refused : config.refusal? (.storage request) with
  | some refusal => exact interpret_refused valid refused backends
  | none => exact interpret_quiet valid refused quiet

theorem Agree.interpret (agree : Agree own left right)
    (valid : Backends.dispatcher config = .ok dispatcher)
    (asked : effect.record? = some (table, key)) (mine : (table, key) ∈ own) :
    (dispatcher.interpret effect left).1 = (dispatcher.interpret effect right).1 ∧
      Agree own (dispatcher.interpret effect left).2 (dispatcher.interpret effect right).2 := by
  cases effect with
  | object | cache | messaging | transport => cases asked
  | storage request =>
    obtain ⟨told, kept⟩ := Records.work_congr asked (agree.same table key mine)
    rw [interpret_storage valid agree.quiet, interpret_storage valid agree.quiet']
    cases config.refusal? (.storage request) with
    | some refusal => exact ⟨rfl, agree⟩
    | none =>
      refine ⟨?_, agree.quiet, agree.quiet', fun other name member => ?_⟩
      · dsimp only
        rw [told]
      · by_cases own : other = table ∧ name = key
        · obtain ⟨rfl, rfl⟩ := own
          exact kept
        · dsimp only
          rw [Records.work_elsewhere asked own, Records.work_elsewhere asked own,
            agree.same other name member]

theorem Agree.aside (agree : Agree own left right)
    (valid : Backends.dispatcher config = .ok dispatcher)
    (asked : effect.record? = some (table, key)) (theirs : (table, key) ∉ own) :
    Agree own left (dispatcher.interpret effect right).2 := by
  cases effect with
  | object | cache | messaging | transport => cases asked
  | storage request =>
    rw [interpret_storage valid agree.quiet']
    cases config.refusal? (.storage request) with
    | some refusal => exact agree
    | none =>
      refine ⟨agree.quiet, agree.quiet', fun other name member => ?_⟩
      have elsewhere : ¬ (other = table ∧ name = key) := by
        rintro ⟨rfl, rfl⟩
        exact theirs member
      dsimp only
      rw [Records.work_elsewhere asked elsewhere, agree.same other name member]

end
end Backends

theorem blind_of_confined {ι : Type} {α : ι → Type} {programs : (i : ι) → Program (α i)}
    {own : ι → Set (String × String)} {config : Config} {dispatcher : Dispatcher Backends}
    (valid : Backends.dispatcher config = .ok dispatcher)
    (apart : ∀ i j record, record ∈ own i → record ∈ own j → i = j)
    (confined : ∀ i, (programs i).Confined (own i)) :
    Blind programs dispatcher fun i => Backends.Agree (own i) where
  answered := by
    intro i effect inner comes left right agree
    obtain ⟨⟨table, key⟩, mine, asked⟩ := confined i effect inner comes
    exact agree.interpret valid asked mine
  aside := by
    intro i j other effect inner comes left right agree
    obtain ⟨⟨table, key⟩, theirs, asked⟩ := confined j effect inner comes
    exact agree.aside valid asked fun mine => other (apart i j _ mine theirs)

/-- Programs that keep to records of their own, none of them shared, do not disturb each other. In
whatever order they have their effects, each is told what it is told alone, and finds its records as
it leaves them alone; one that finishes has the outcome that it has alone. -/
theorem programs_undisturbed {ι : Type} [DecidableEq ι] {α : ι → Type}
    {programs : (i : ι) → Program (α i)} {own : ι → Set (String × String)} {config : Config}
    {dispatcher : Dispatcher Backends} (valid : Backends.dispatcher config = .ok dispatcher)
    (apart : ∀ i j record, record ∈ own i → record ∈ own j → i = j)
    (confined : ∀ i, (programs i).Confined (own i)) {start : Backends}
    (quiet : start.records.faults.Quiet) (schedule : List ι) (i : ι) :
    let shared := interleave programs dispatcher schedule start
    let alone := (programs i).alone dispatcher (schedule.count i) start
    shared.threads i = alone.1 ∧
    (∀ table key, (table, key) ∈ own i →
      shared.state.records.store.record? table key = alone.2.records.store.record? table key) ∧
    ∀ outcome, (shared.threads i).progress = .finished outcome →
      ∀ bound, schedule.count i ≤ bound → (programs i).alone dispatcher bound start = alone ∧
        (programs i).run dispatcher bound start = (.finished outcome, alone.2) := by
  intro shared alone
  have blind := blind_of_confined valid apart confined
  obtain ⟨thread, agree⟩ :=
    interleave_alone blind (fun i => ⟨quiet, quiet, fun _ _ _ => rfl⟩) schedule i
  refine ⟨thread, fun table key mine => (agree.same table key mine).symm,
    fun outcome finished bound enough => ?_⟩
  obtain ⟨extra, rfl⟩ := Nat.exists_eq_add_of_le enough
  have ended : alone.1.progress = .finished outcome := by rw [← thread, finished]
  have settled := Program.alone_finished ended extra
  refine ⟨settled, ?_⟩
  rw [Program.run_alone, settled]
  exact congrArg (·, alone.2) ended

-- Two programs each write a record and read it back.
theorem programs_undisturbed_pair :
    let key (late : Bool) : String := if late then "k01" else "k00"
    let write (late : Bool) : Effect :=
      .storage (.put "counters" (key late) (.ofJson (.bool late)) none)
    let read (late : Bool) : Effect := .storage (.get "counters" (key late))
    let programs (late : Bool) := (Program.perform (write late)).andThen fun _ =>
      Program.perform (read late)
    let own (late : Bool) : Set (String × String) := {("counters", key late)}
    let dispatcher := Backends.dispatcherFor (fun _ => true) .default
    Backends.dispatcher .default = .ok dispatcher ∧
      (∀ i j record, record ∈ own i → record ∈ own j → i = j) ∧
      (∀ i, (programs i).Confined (own i)) ∧
      Backends.empty.records.faults.Quiet ∧
      let shared := interleave programs dispatcher [true, false, false, true] .empty
      let alone := (programs true).alone dispatcher 2 .empty
      (shared.threads true).trace.toList.map Prod.snd =
          [.ok (.storage (.write (.written 1))),
            .ok (.storage (.lookup (.found (.ofJson (.bool true)))))] ∧
        shared.threads true = alone.1 ∧
        shared.state.records.store.record? "counters" "k01" =
          alone.2.records.store.record? "counters" "k01" := by
  intro key write read programs own dispatcher
  have valid : Backends.dispatcher .default = .ok dispatcher := rfl
  have apart : ∀ i j record, record ∈ own i → record ∈ own j → i = j := by
    have told : ∀ i j, key i = key j → i = j := by decide
    rintro i j record rfl same
    exact told i j (Prod.mk.inj same).2
  have confined (i : Bool) : (programs i).Confined (own i) :=
    .andThen (Program.perform_confined rfl rfl) fun _ => Program.perform_confined rfl rfl
  have quiet : Backends.empty.records.faults.Quiet := Faults.quiet_empty
  have undisturbed :=
    programs_undisturbed valid apart confined quiet [true, false, false, true] true
  exact ⟨valid, apart, confined, quiet, by decide, undisturbed.1, undisturbed.2.1 _ _ rfl⟩

end Memory
end EffectPrograms
