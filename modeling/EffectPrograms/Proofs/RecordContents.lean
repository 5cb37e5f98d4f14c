import EffectPrograms.Proofs.PrefixScan
import EffectPrograms.Proofs.Versions
import Mathlib.Data.List.Induction

set_option autoImplicit false

namespace EffectPrograms.Memory

namespace RecordEvent
variable (table key : String)

def written? : RecordEvent → Option Document
  | put _ other name value _ (.ok (.written _)) =>
      if table = other ∧ key = name then some value else none
  | _ => none

-- A write that took place, or a removal that found something.
def mutates (event : RecordEvent) : Bool := event.writes table key || event.removes table key

-- What an event leaves under a key.
def leaves (event : RecordEvent) (known : Option Versioned) : Option Versioned :=
  match event.written? table key with
  | some value => some ⟨value, (known.map Versioned.version).getD 0 + 1⟩
  | none => if event.removes table key then none else known

variable {table key}

theorem writes_eq (event : RecordEvent) :
    event.writes table key = (event.written? table key).isSome := by
  cases event with
  | put client other name value expected answer =>
    rcases answer with _ | (_ | _)
    · rfl
    · by_cases own : table = other ∧ key = name <;> simp [writes, written?, own]
    · rfl
  | _ => rfl

theorem unremoved_of_written {event : RecordEvent} {value : Document}
    (written : event.written? table key = some value) : event.removes table key = false := by
  unfold written? at written
  split at written
  · rfl
  · cases written

end RecordEvent

namespace RecordHistory
variable (table key : String)

-- The last event that changed what stands under a key.
def lastMutation? (history : RecordHistory) : Option RecordEvent :=
  history.reverse.find? fun event => event.mutates table key

-- How often the key was written since it was last removed.
def version (history : RecordHistory) : Nat :=
  (history.reverse.takeWhile fun event => !event.removes table key).countP (·.writes table key)

-- The record that stands under a key: the last mutation must be a write of its value.
def standing? (history : RecordHistory) : Option Versioned :=
  ((history.lastMutation? table key).bind (·.written? table key)).map fun value =>
    ⟨value, history.version table key⟩

variable {table key}

theorem lastMutation?_snoc (history : RecordHistory) (event : RecordEvent) :
    lastMutation? table key (history ++ [event]) =
      if event.mutates table key then some event else history.lastMutation? table key := by
  rw [lastMutation?, List.reverse_append, List.reverse_singleton, List.singleton_append,
    List.find?_cons]
  cases event.mutates table key <;> rfl

theorem version_snoc (history : RecordHistory) (event : RecordEvent) :
    version table key (history ++ [event]) =
      if event.removes table key then 0
      else if event.writes table key then history.version table key + 1
      else history.version table key := by
  rw [version, List.reverse_append, List.reverse_singleton, List.singleton_append,
    List.takeWhile_cons]
  cases event.removes table key
  · rw [Bool.not_false, if_pos rfl, List.countP_cons, if_neg Bool.false_ne_true, ← version]
    split <;> rfl
  · rfl

section
variable (history : RecordHistory) {event : RecordEvent}

theorem standing?_written {value : Document} (written : event.written? table key = some value) :
    standing? table key (history ++ [event]) =
      some ⟨value, history.version table key + 1⟩ := by
  have writes : event.writes table key = true := by rw [RecordEvent.writes_eq, written]; rfl
  have kept := RecordEvent.unremoved_of_written written
  simp [standing?, lastMutation?_snoc, version_snoc, RecordEvent.mutates, writes, kept, written]

theorem standing?_removed (unwritten : event.written? table key = none)
    (removed : event.removes table key = true) :
    standing? table key (history ++ [event]) = none := by
  simp [standing?, lastMutation?_snoc, RecordEvent.mutates, removed, unwritten]

theorem standing?_aside (unwritten : event.written? table key = none)
    (kept : event.removes table key = false) :
    standing? table key (history ++ [event]) = history.standing? table key := by
  have idle : event.writes table key = false := by rw [RecordEvent.writes_eq, unwritten]; rfl
  simp [standing?, lastMutation?_snoc, version_snoc, RecordEvent.mutates, idle, kept]

end

theorem version_standing? (history : RecordHistory) :
    ((history.standing? table key).map Versioned.version).getD 0 = history.version table key := by
  induction history using List.reverseRecOn with
  | nil => rfl
  | append_singleton history event ih =>
    cases written : event.written? table key with
    | some value =>
      have kept := RecordEvent.unremoved_of_written written
      rw [standing?_written history written, version_snoc, kept, RecordEvent.writes_eq, written]
      rfl
    | none =>
      cases removed : event.removes table key with
      | true => rw [standing?_removed history written removed, version_snoc, removed]; rfl
      | false =>
        rw [standing?_aside history written removed, version_snoc, removed,
          RecordEvent.writes_eq, written, ih]
        rfl

theorem standing?_snoc (history : RecordHistory) (event : RecordEvent) :
    standing? table key (history ++ [event]) =
      event.leaves table key (history.standing? table key) := by
  rw [RecordEvent.leaves]
  cases written : event.written? table key with
  | some value => rw [standing?_written history written, version_standing?]
  | none =>
    cases removed : event.removes table key with
    | true => rw [standing?_removed history written removed]; rfl
    | false => rw [standing?_aside history written removed]; rfl

end RecordHistory

namespace Records
variable (records : Records) {table key : String}

theorem version_eq (table key : String) :
    records.version table key = ((records.record? table key).map Versioned.version).getD 0 := by
  rw [version]
  cases records.record? table key <;> rfl

theorem put_leaves (client other name : String) (value : Document) (expected : Option Nat) :
    (records.put other name value expected).2.record? table key =
      RecordEvent.leaves table key
        (.put client other name value expected (.ok (records.put other name value expected).1))
        (records.record? table key) := by
  rw [put]
  split
  · rw [record?_store, version_eq]
    by_cases own : table = other ∧ key = name
    · obtain ⟨rfl, rfl⟩ := own
      simp [RecordEvent.leaves, RecordEvent.written?]
    · simp [RecordEvent.leaves, RecordEvent.written?, RecordEvent.removes, own]
  · exact record?_touch ..

theorem delete_leaves (client other name : String) :
    (records.delete other name).2.record? table key =
      RecordEvent.leaves table key (.deleted client other name (.ok (records.delete other name).1))
        (records.record? table key) := by
  rw [record?_delete]
  by_cases own : table = other ∧ key = name
  · obtain ⟨rfl, rfl⟩ := own
    cases known : records.record? table key <;>
      simp [delete, known, RecordEvent.leaves, RecordEvent.written?, RecordEvent.removes]
  · cases (records.delete other name).1 <;>
      simp [RecordEvent.leaves, RecordEvent.written?, RecordEvent.removes, own]

theorem table_congr {left right : Records} {table : String}
    (same : ∀ key, left.record? table key = right.record? table key) :
    left.table table = right.table table :=
  Dict.ext same

end Records

namespace RecordEvent

def conflicts : RecordEvent → Bool
  | put _ _ _ _ _ (.ok (.conflict _)) => true
  | _ => false

def fails : RecordEvent → Bool
  | got _ _ _ (.error _) | put _ _ _ _ _ (.error _) => true
  | deleted _ _ _ (.error _) | queried _ _ _ _ (.error _) => true
  | _ => false

theorem leaves_known {event : RecordEvent} (vain : event.conflicts = true ∨ event.fails = true)
    (table key : String) (known : Option Versioned) : event.leaves table key known = known := by
  cases event with
  | put client other name value expected answer =>
    rcases answer with _ | (_ | _)
    · rfl
    · simp [conflicts, fails] at vain
    · rfl
  | deleted client other name answer =>
    rcases answer with _ | _
    · rfl
    · simp [conflicts, fails] at vain
  | _ => rfl

end RecordEvent

namespace RecordHistory

-- How a history answers a call that no failure meets.
inductive Answers (history : RecordHistory) : RecordCall → RecordEvent → Prop where
  | found {client table key : String} {record : Versioned}
      (stands : history.standing? table key = some record) :
      Answers history (.get client table key)
        (.got client table key (.ok (.found record.value)))
  | missing {client table key : String} (absent : history.standing? table key = none) :
      Answers history (.get client table key) (.got client table key (.ok .notFound))
  | written {client table key : String} {value : Document} {expected : Option Nat}
      (met : expected = none ∨ expected = some (history.version table key)) :
      Answers history (.put client table key value expected)
        (.put client table key value expected (.ok (.written (history.version table key + 1))))
  | conflicted {client table key : String} {value : Document} {expected : Nat}
      (unmet : expected ≠ history.version table key) :
      Answers history (.put client table key value (some expected))
        (.put client table key value (some expected)
          (.ok (.conflict ((history.standing? table key).map Versioned.version))))
  | deleted (client table key : String) :
      Answers history (.delete client table key)
        (.deleted client table key (.ok (history.standing? table key).isSome))
  | listed {client table start : String} {limit : Option Nat} {all : List Storage.Entry}
      (ordered : all.Pairwise fun first second => first.key < second.key)
      (stand : ∀ entry, entry ∈ all ↔
        history.standing? table entry.key = some ⟨entry.value, entry.version⟩ ∧
          Text.beginsWith start entry.key = true) :
      Answers history (.query client table start limit)
        (.queried client table start limit (.ok (Records.upTo limit all)))
  | scheduled (faults : Faults) : Answers history (.schedule faults) .scheduled

-- What the records must be after a history.
structure Explains (history : RecordHistory) (records : Records) : Prop where
  holds : ∀ table key, records.record? table key = history.standing? table key
  counts : ∀ table, ∃ keys : List String, keys.Nodup ∧
    (∀ key, key ∈ keys ↔ (history.standing? table key).isSome = true) ∧
    records.size table = keys.length

theorem Explains.of_holds {history : RecordHistory} {records : Records}
    (holds : ∀ table key, records.record? table key = history.standing? table key) :
    history.Explains records where
  holds := holds
  counts := by
    intro table
    refine ⟨(records.table table).entries.map Prod.fst, Dict.names_nodup _, fun key => ?_, ?_⟩
    · rw [Dict.mem_names_iff, ← holds]
      rfl
    · rw [List.length_map]
      rfl

section
variable {history : RecordHistory} {records : Records} (explains : history.Explains records)
include explains

theorem Explains.version_eq (table key : String) :
    records.version table key = history.version table key := by
  rw [Records.version_eq, explains.holds, version_standing?]

theorem Explains.get (client table key : String) :
    history.Answers (.get client table key)
      (.got client table key (.ok (records.get table key))) := by
  rw [Records.get]
  split
  · next record known => exact .found (by rw [← explains.holds, known])
  · next unknown => exact .missing (by rw [← explains.holds, unknown])

theorem Explains.put (client table key : String) (value : Document) (expected : Option Nat) :
    history.Answers (.put client table key value expected)
      (.put client table key value expected (.ok (records.put table key value expected).1)) := by
  rw [Records.put, explains.version_eq, explains.holds]
  split
  · next met => exact .written met
  · next unmet =>
    obtain ⟨given, other⟩ := not_or.mp unmet
    obtain ⟨expected, rfl⟩ := Option.ne_none_iff_exists'.mp given
    exact .conflicted fun same => other (congrArg some same)

theorem Explains.delete (client table key : String) :
    history.Answers (.delete client table key)
      (.deleted client table key (.ok (records.delete table key).1)) := by
  have removed : (records.delete table key).1 = (history.standing? table key).isSome := by
    rw [Records.delete, explains.holds]
    cases history.standing? table key <;> rfl
  rw [removed]
  exact .deleted client table key

theorem Explains.query (client table start : String) (limit : Option Nat) :
    history.Answers (.query client table start limit)
      (.queried client table start limit (.ok (records.query table start limit))) := by
  rw [Records.query_eq]
  refine .listed ((records.listing_sorted table).filter _) fun entry => ?_
  rw [List.mem_filter, Records.mem_listing, explains.holds]

end

end RecordHistory

namespace RecordCall
open RecordHistory (standing? standing?_snoc)

def operation? : RecordCall → Option String
  | get .. => some "get"
  | put .. => some "put"
  | delete .. => some "delete"
  | query .. => some "query"
  | schedule _ => none

def due? (call : RecordCall) (backends : Backends) : Option BackendError :=
  call.operation?.bind fun operation => (backends.records.faults.check operation).1

def failed (failure : BackendError) : RecordCall → RecordEvent
  | get client table key => .got client table key (.error failure)
  | put client table key value expected => .put client table key value expected (.error failure)
  | delete client table key => .deleted client table key (.error failure)
  | query client table start limit => .queried client table start limit (.error failure)
  | schedule _ => .scheduled

-- What a call does to the records when no failure meets it.
def work (call : RecordCall) (records : Records) : RecordEvent × Records :=
  match call with
  | get client table key => (.got client table key (.ok (records.get table key)), records)
  | put client table key value expected =>
      let (answer, left) := records.put table key value expected
      (.put client table key value expected (.ok answer), left)
  | delete client table key =>
      let (answer, left) := records.delete table key
      (.deleted client table key (.ok answer), left)
  | query client table start limit =>
      (.queried client table start limit (.ok (records.query table start limit)), records)
  | schedule _ => (.scheduled, records)

theorem perform_eq (call : RecordCall) (backends : Backends) :
    ((call.perform backends).1, (call.perform backends).2.records.store) =
      match call.due? backends with
      | some failure => (call.failed failure, backends.records.store)
      | none => call.work backends.records.store := by
  cases call with
  | get client table key => exact Faulty.call_pair _ _ _ _ (RecordEvent.got client table key)
  | put client table key value expected =>
    exact Faulty.call_pair _ _ _ _ (RecordEvent.put client table key value expected)
  | delete client table key => exact Faulty.call_pair _ _ _ _ (RecordEvent.deleted client table key)
  | query client table start limit =>
    exact Faulty.call_pair _ _ _ _ (RecordEvent.queried client table start limit)
  | schedule faults => rfl

theorem work_leaves (call : RecordCall) (records : Records) (table key : String) :
    (call.work records).2.record? table key =
      (call.work records).1.leaves table key (records.record? table key) := by
  cases call with
  | put client other name value expected => exact records.put_leaves client other name value expected
  | delete client other name => exact records.delete_leaves client other name
  | _ => rfl

theorem failed_leaves (call : RecordCall) (failure : BackendError) (table key : String)
    (known : Option Versioned) : (call.failed failure).leaves table key known = known := by
  cases call <;> rfl

theorem perform_leaves (call : RecordCall) (backends : Backends) (table key : String) :
    (call.perform backends).2.records.store.record? table key =
      (call.perform backends).1.leaves table key (backends.records.store.record? table key) := by
  have outcome := call.perform_eq backends
  cases due : call.due? backends with
  | some failure =>
    obtain ⟨event, left⟩ := Prod.mk.inj (outcome.trans (by rw [due]))
    rw [event, left, failed_leaves]
  | none =>
    obtain ⟨event, left⟩ := Prod.mk.inj (outcome.trans (by rw [due]))
    rw [event, left, work_leaves]

theorem course_snoc (calls : List RecordCall) (call : RecordCall) (backends : Backends) :
    course (calls ++ [call]) backends =
      let (history, reached) := course calls backends
      let (event, left) := call.perform reached
      (history ++ [event], left) := by
  induction calls generalizing backends with
  | nil => rfl
  | cons first later ih =>
    dsimp only [List.cons_append, course]
    rw [ih]

theorem course_explains (calls : List RecordCall) :
    (course calls .empty).1.Explains (course calls .empty).2.records.store := by
  refine .of_holds fun table key => ?_
  induction calls using List.reverseRecOn with
  | nil => rfl
  | append_singleton calls call ih =>
    rw [course_snoc]
    dsimp only
    rw [perform_leaves, standing?_snoc, ih]

theorem work_answers {history : RecordHistory} {records : Records}
    (explains : history.Explains records) (call : RecordCall) :
    history.Answers call (call.work records).1 := by
  cases call with
  | get client table key => exact explains.get client table key
  | put client table key value expected => exact explains.put client table key value expected
  | delete client table key => exact explains.delete client table key
  | query client table start limit => exact explains.query client table start limit
  | schedule faults => exact .scheduled faults

/-- After any calls the records are the ones that the history of these calls leaves standing; a call
that no failure meets is answered by that history, and a call in vain changes no record. -/
theorem records_follow_history (calls : List RecordCall) (call : RecordCall) :
    let history := (course calls .empty).1
    let reached := (course calls .empty).2
    let event := (call.perform reached).1
    let left := (call.perform reached).2
    history.Explains reached.records.store ∧
      (match call.due? reached with
        | some failure => event = call.failed failure
        | none => history.Answers call event) ∧
      (event.conflicts = true ∨ event.fails = true → ∀ table,
        left.records.store.size table = reached.records.store.size table ∧
        ∀ key, left.records.store.record? table key = reached.records.store.record? table key) := by
  intro history reached event left
  have explains : history.Explains reached.records.store := course_explains calls
  have outcome := call.perform_eq reached
  refine ⟨explains, ?_, fun vain table => ?_⟩
  · split
    · next failure due => exact (Prod.mk.inj (outcome.trans (by rw [due]))).1
    · next undue =>
      have made : event = (call.work reached.records.store).1 :=
        (Prod.mk.inj (outcome.trans (by rw [undue]))).1
      rw [made]
      exact work_answers explains call
  · have same (key : String) : left.records.store.record? table key =
        reached.records.store.record? table key :=
      (call.perform_leaves reached table key).trans (RecordEvent.leaves_known vain table key _)
    exact ⟨congrArg Dict.size (Records.table_congr same), same⟩

end RecordCall
end EffectPrograms.Memory
