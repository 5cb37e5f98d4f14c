import EffectPrograms.Memory.Backends
import EffectPrograms.Proofs.Faults

set_option autoImplicit false

namespace EffectPrograms.Memory

-- What a client asks of the records; in between, failures may be scheduled in any way.
inductive RecordCall where
  | get (client table key : String)
  | put (client table key : String) (value : Document) (expected : Option Nat)
  | delete (client table key : String)
  | query (client table start : String) (limit : Option Nat)
  | schedule (faults : Faults)

inductive RecordEvent where
  | got (client table key : String) (answer : Backed Storage.Lookup)
  | put (client table key : String) (value : Document) (expected : Option Nat)
      (answer : Backed Storage.Write)
  | deleted (client table key : String) (answer : Backed Bool)
  | queried (client table start : String) (limit : Option Nat) (answer : Backed (List Storage.Entry))
  | scheduled

abbrev RecordHistory := List RecordEvent

namespace RecordEvent

def writes (table key : String) : RecordEvent → Bool
  | put _ other name _ _ (.ok (.written _)) => decide (table = other ∧ key = name)
  | _ => false

def removes (table key : String) : RecordEvent → Bool
  | deleted _ other name (.ok true) => decide (table = other ∧ key = name)
  | _ => false

-- A client learns a version from the answer to its own write, or from a record that it was listed.
inductive Teaches (client table key : String) (version : Nat) : RecordEvent → Prop where
  | written (value : Document) (expected : Option Nat) :
      Teaches client table key version
        (.put client table key value expected (.ok (.written version)))
  | listed (start : String) (limit : Option Nat) {entries : List Storage.Entry} (value : Document)
      (member : ⟨key, value, version⟩ ∈ entries) :
      Teaches client table key version (.queried client table start limit (.ok entries))

-- How an event moves the version of a key.
inductive Moves (table key : String) : Nat → RecordEvent → Nat → Prop where
  | written (client : String) (value : Document) {expected : Option Nat} {version : Nat}
      (met : expected = none ∨ expected = some version) :
      Moves table key version
        (.put client table key value expected (.ok (.written (version + 1)))) (version + 1)
  | removed (client : String) (version : Nat) :
      Moves table key version (.deleted client table key (.ok true)) 0
  | aside (version : Nat) {event : RecordEvent} (unwritten : event.writes table key = false)
      (unremoved : event.removes table key = false)
      (known : ∀ client taught, Teaches client table key taught event → taught = version) :
      Moves table key version event version

variable {table key client : String} {first next learned written : Nat} {event : RecordEvent}

theorem Moves.taught (moves : Moves table key first event next)
    (lesson : event.Teaches client table key learned) : learned = next := by
  cases moves with
  | written _ value met => cases lesson with | written => rfl
  | removed => cases lesson
  | aside _ unwritten unremoved known => exact known _ _ lesson

theorem Moves.of_expected {value : Document}
    (moves : Moves table key first
      (.put client table key value (some learned) (.ok (.written written))) next) :
    first = learned ∧ written = learned + 1 := by
  cases moves with
  | written _ _ met =>
    obtain rfl := Option.some.inj (met.resolve_left nofun)
    exact ⟨rfl, rfl⟩
  | aside _ unwritten => simp [writes] at unwritten

end RecordEvent

namespace RecordCall

def perform (call : RecordCall) (backends : Backends) : RecordEvent × Backends :=
  match call with
  | get client table key =>
      let (answer, left) := Backends.recordStore.get table key backends
      (.got client table key answer, left)
  | put client table key value expected =>
      let (answer, left) := Backends.recordStore.put table key value expected backends
      (.put client table key value expected answer, left)
  | delete client table key =>
      let (answer, left) := Backends.recordStore.delete table key backends
      (.deleted client table key answer, left)
  | query client table start limit =>
      let (answer, left) := Backends.recordStore.query table start limit backends
      (.queried client table start limit answer, left)
  | schedule faults =>
      (.scheduled, { backends with records := { backends.records with faults } })

def course : List RecordCall → Backends → RecordHistory × Backends
  | [], backends => ([], backends)
  | call :: later, backends =>
      let (event, left) := call.perform backends
      let (history, reached) := course later left
      (event :: history, reached)

end RecordCall

namespace Records
open RecordEvent (Moves)

variable (records : Records) {table key : String}

theorem put_elsewhere {client other name : String} (elsewhere : ¬ (table = other ∧ key = name))
    (value : Document) (expected : Option Nat) (answer : Backed Storage.Write) (version : Nat) :
    Moves table key version (.put client other name value expected answer) version := by
  refine .aside version ?_ rfl ?_
  · rcases answer with _ | (_ | _)
    · rfl
    · exact decide_eq_false elsewhere
    · rfl
  · rintro _ _ ⟨⟩
    exact absurd ⟨rfl, rfl⟩ elsewhere

theorem put_moves (client other name : String) (value : Document) (expected : Option Nat) :
    Moves table key (records.version table key)
      (.put client other name value expected (.ok (records.put other name value expected).1))
      ((records.put other name value expected).2.version table key) := by
  rw [put]
  split
  · next met =>
    by_cases own : table = other ∧ key = name
    · obtain ⟨rfl, rfl⟩ := own
      have left : (records.store table key ⟨value, records.version table key + 1⟩).version
          table key = records.version table key + 1 := by
        simp [version, record?_store]
      rw [left]
      exact .written client value met
    · have left : (records.store other name ⟨value, records.version other name + 1⟩).version
          table key = records.version table key := by
        simp only [version, record?_store, if_neg own]
      rw [left]
      exact put_elsewhere own ..
  · have left : (records.touch other).version table key = records.version table key := by
      simp only [version, record?_touch]
    rw [left]
    exact .aside _ rfl rfl (by rintro _ _ ⟨⟩)

theorem delete_moves (client other name : String) :
    Moves table key (records.version table key)
      (.deleted client other name (.ok (records.delete other name).1))
      ((records.delete other name).2.version table key) := by
  by_cases own : table = other ∧ key = name
  · obtain ⟨rfl, rfl⟩ := own
    have left : (records.delete table key).2.version table key = 0 := by
      simp [version, record?_delete]
    cases known : records.record? table key with
    | none =>
      have absent : (records.delete table key).1 = false := by simp [delete, known]
      have before : records.version table key = 0 := by simp [version, known]
      rw [left, absent, before]
      exact .aside 0 rfl rfl (by rintro _ _ ⟨⟩)
    | some record =>
      have present : (records.delete table key).1 = true := by simp [delete, known]
      rw [left, present]
      exact .removed client _
  · have left : (records.delete other name).2.version table key = records.version table key := by
      simp only [version, record?_delete, if_neg own]
    rw [left]
    refine .aside _ rfl ?_ (by rintro _ _ ⟨⟩)
    cases (records.delete other name).1
    · rfl
    · exact decide_eq_false own

theorem query_moves (client other start : String) (limit : Option Nat) :
    Moves table key (records.version table key)
      (.queried client other start limit (.ok (records.query other start limit)))
      (records.version table key) := by
  refine .aside _ rfl rfl ?_
  rintro _ taught (_ | ⟨_, _, value, member⟩)
  rw [version, record?_of_mem_query records member]

end Records

namespace RecordCall

theorem perform_moves (call : RecordCall) (backends : Backends) (table key : String) :
    RecordEvent.Moves table key (backends.records.store.version table key)
      (call.perform backends).1 ((call.perform backends).2.records.store.version table key) := by
  cases call with
  | get client other name =>
    exact Faulty.call_either _ _ _ _
      (motive := fun answer (left : Records) => RecordEvent.Moves table key _
        (.got client other name answer) (left.version table key))
      (fun _ => .aside _ rfl rfl (by rintro _ _ ⟨⟩)) (.aside _ rfl rfl (by rintro _ _ ⟨⟩))
  | put client other name value expected =>
    exact Faulty.call_either _ _ _ _
      (motive := fun answer (left : Records) => RecordEvent.Moves table key _
        (.put client other name value expected answer) (left.version table key))
      (fun _ => .aside _ rfl rfl (by rintro _ _ ⟨⟩))
      (backends.records.store.put_moves client other name value expected)
  | delete client other name =>
    exact Faulty.call_either _ _ _ _
      (motive := fun answer (left : Records) => RecordEvent.Moves table key _
        (.deleted client other name answer) (left.version table key))
      (fun _ => .aside _ rfl rfl (by rintro _ _ ⟨⟩))
      (backends.records.store.delete_moves client other name)
  | query client other start limit =>
    exact Faulty.call_either _ _ _ _
      (motive := fun answer (left : Records) => RecordEvent.Moves table key _
        (.queried client other start limit answer) (left.version table key))
      (fun _ => .aside _ rfl rfl (by rintro _ _ ⟨⟩))
      (backends.records.store.query_moves client other start limit)
  | schedule faults => exact .aside _ rfl rfl (by rintro _ _ ⟨⟩)

end RecordCall

namespace RecordHistory

def writes (table key : String) (history : RecordHistory) : Nat :=
  history.countP (·.writes table key)

-- A stretch of calls in which the key is neither written nor removed.
def Idle (table key : String) (history : RecordHistory) : Prop :=
  ∀ event ∈ history, event.writes table key = false ∧ event.removes table key = false

-- A stretch in which the key is removed and then written anew, as often as the version says.
def Reissues (table key : String) (version : Nat) (history : RecordHistory) : Prop :=
  ∃ before removal after, history = before ++ removal :: after ∧
    removal.removes table key = true ∧ (∀ event ∈ after, event.removes table key = false) ∧
    writes table key after = version

-- How a history moves the version of a key.
inductive Evolves (table key : String) : Nat → RecordHistory → Nat → Prop where
  | nil (version : Nat) : Evolves table key version [] version
  | cons {first next last : Nat} {event : RecordEvent} {later : RecordHistory}
      (moves : event.Moves table key first next) (evolves : Evolves table key next later last) :
      Evolves table key first (event :: later) last

variable {table key : String} {first last : Nat}

theorem Evolves.split {before after : RecordHistory}
    (evolves : Evolves table key first (before ++ after) last) :
    ∃ middle, Evolves table key first before middle ∧ Evolves table key middle after last := by
  induction before generalizing first with
  | nil => exact ⟨first, .nil first, evolves⟩
  | cons event before ih =>
    cases evolves with
    | cons moves later =>
      obtain ⟨middle, left, right⟩ := ih later
      exact ⟨middle, .cons moves left, right⟩

-- A version counts the writes since the last removal, and those before where there was none.
theorem Evolves.counts {history : RecordHistory} (evolves : Evolves table key first history last) :
    ((∀ event ∈ history, event.removes table key = false) ∧
        last = first + history.writes table key) ∨
      Reissues table key last history := by
  induction evolves with
  | nil version => exact .inl ⟨by simp, by simp [writes]⟩
  | @cons first next last event later moves evolves ih =>
    rcases ih with ⟨kept, count⟩ | ⟨before, removal, after, rfl, rest⟩
    · cases moves with
      | written client value met =>
        refine .inl ⟨?_, ?_⟩
        · simpa [RecordEvent.removes] using kept
        · simp only [writes, List.countP_cons, RecordEvent.writes] at count ⊢
          simp only [and_self, decide_true, if_true]
          omega
      | removed client =>
        refine .inr ⟨[], _, later, rfl, by simp [RecordEvent.removes], kept, ?_⟩
        rw [count, Nat.zero_add]
      | aside _ unwritten unremoved known =>
        refine .inl ⟨by simpa [unremoved] using kept, ?_⟩
        simpa [writes, unwritten] using count
    · exact .inr ⟨event :: before, removal, after, rfl, rest⟩

end RecordHistory

namespace RecordCall
open RecordHistory (Evolves)

theorem course_evolves (calls : List RecordCall) (backends : Backends) (table key : String) :
    Evolves table key (backends.records.store.version table key) (course calls backends).1
      ((course calls backends).2.records.store.version table key) := by
  induction calls generalizing backends with
  | nil => exact .nil _
  | cons call later ih => exact .cons (call.perform_moves backends table key) (ih _)

/-- When a write takes place that expects a version its client has learned, the key was neither
written nor removed in between, unless it was removed and written anew as often as that version
says. -/
theorem expected_version_met {calls : List RecordCall} {backends : Backends}
    {before between after : RecordHistory} {client table key : String} {value : Document}
    {learned written : Nat} {lesson : RecordEvent}
    (taken : (course calls backends).1 = before ++ lesson :: (between ++
      .put client table key value (some learned) (.ok (.written written)) :: after))
    (taught : lesson.Teaches client table key learned) :
    written = learned + 1 ∧
      (RecordHistory.Idle table key between ∨
        RecordHistory.Reissues table key learned between) := by
  have evolves := course_evolves calls backends table key
  rw [taken] at evolves
  obtain ⟨first, -, onward⟩ := evolves.split
  cases onward with
  | cons teaching onward =>
    obtain ⟨current, passed, met⟩ := onward.split
    cases met with
    | cons moves _ =>
      obtain ⟨rfl, rfl⟩ := moves.of_expected
      obtain rfl := teaching.taught taught
      rcases passed.counts with ⟨kept, count⟩ | reissued
      · refine ⟨rfl, .inl fun event member => ⟨?_, kept event member⟩⟩
        have unwritten : RecordHistory.writes table key between = 0 := by omega
        simpa using List.countP_eq_zero.mp unwritten event member
      · exact ⟨rfl, .inr reissued⟩

theorem expected_version_met_again :
    let balance (n : Nat) : Document := ⟨.number (.whole n), rfl⟩
    let calls := [put "ann" "accounts" "a1" (balance 10) none, delete "ben" "accounts" "a2",
      put "ben" "accounts" "a1" (balance 15) (some 0),
      put "ann" "accounts" "a1" (balance 20) (some 1)]
    let lesson : RecordEvent := .put "ann" "accounts" "a1" (balance 10) none (.ok (.written 1))
    let between : RecordHistory := [.deleted "ben" "accounts" "a2" (.ok false),
      .put "ben" "accounts" "a1" (balance 15) (some 0) (.ok (.conflict (some 1)))]
    (course calls .empty).1 = [] ++ lesson :: (between ++
      [.put "ann" "accounts" "a1" (balance 20) (some 1) (.ok (.written 2))]) ∧
    lesson.Teaches "ann" "accounts" "a1" 1 ∧
    (RecordHistory.Idle "accounts" "a1" between ∨
      RecordHistory.Reissues "accounts" "a1" 1 between) := by
  intro balance calls lesson between
  have taken : (course calls .empty).1 = [] ++ lesson :: (between ++
      [.put "ann" "accounts" "a1" (balance 20) (some 1) (.ok (.written 2))]) := rfl
  have taught : lesson.Teaches "ann" "accounts" "a1" 1 := .written (balance 10) none
  exact ⟨taken, taught, (expected_version_met taken taught).2⟩

-- The version of a removed record is issued again, and the write that expects it takes place.
theorem version_comes_back :
    let balance (n : Nat) : Document := ⟨.number (.whole n), rfl⟩
    let calls := [put "ann" "accounts" "a1" (balance 10) none, delete "ben" "accounts" "a1",
      put "ben" "accounts" "a1" (balance 20) none,
      put "ann" "accounts" "a1" (balance 30) (some 1)]
    ∃ lesson removal rewrite : RecordEvent,
      (course calls .empty).1 = [lesson, removal, rewrite,
        .put "ann" "accounts" "a1" (balance 30) (some 1) (.ok (.written 2))] ∧
      lesson.Teaches "ann" "accounts" "a1" 1 ∧
      removal.removes "accounts" "a1" = true ∧ rewrite.writes "accounts" "a1" = true := by
  intro balance calls
  exact ⟨_, _, _, rfl, .written (balance 10) none, rfl, rfl⟩

end RecordCall
end EffectPrograms.Memory
