import EffectPrograms.Memory.Backends
import EffectPrograms.Proofs.PrefixScan
import Mathlib.Data.List.Induction

set_option autoImplicit false

namespace EffectPrograms.Memory

-- What is asked of the objects; in between, failures may be scheduled and the time may change in
-- any way.
inductive ObjectCall where
  | put (bucket key : String) (body : Bytes) (contentType : Option String)
  | get (bucket key : String)
  | delete (bucket key : String)
  | list (bucket : String) (start : Option String)
  | schedule (faults : Faults)
  | tell (time : Timestamp)

inductive ObjectEvent where
  | put (bucket key : String) (body : Bytes) (contentType : Option String)
      (answer : Backed Objects.Handle)
  | got (bucket key : String) (answer : Backed (Option Objects.Stored))
  | deleted (bucket key : String) (answer : Backed Bool)
  | listed (bucket : String) (start : Option String) (answer : Backed (List Objects.Handle))
  | scheduled
  | told

abbrev ObjectHistory := List ObjectEvent

namespace ObjectEvent

-- What an event leaves under a key, if it is one that changes it: a body under the handle that was
-- answered, or nothing.
def leaves? (bucket key : String) : ObjectEvent → Option (Option Objects.Stored)
  | put other name body _ (.ok handle) =>
      if bucket = other ∧ key = name then some (some ⟨handle, body⟩) else none
  | deleted other name (.ok true) => if bucket = other ∧ key = name then some none else none
  | _ => none

variable {bucket key other name : String} (elsewhere : ¬ (bucket = other ∧ key = name))
include elsewhere

theorem leaves?_put_elsewhere (body : Bytes) (contentType : Option String)
    (answer : Backed Objects.Handle) :
    leaves? bucket key (.put other name body contentType answer) = none := by
  cases answer with
  | error => rfl
  | ok handle => exact if_neg elsewhere

theorem leaves?_deleted_elsewhere (answer : Backed Bool) :
    leaves? bucket key (.deleted other name answer) = none := by
  rcases answer with _ | _ | _
  · rfl
  · rfl
  · exact if_neg elsewhere

end ObjectEvent

namespace ObjectHistory
variable (bucket key : String)

-- What stands under a key: what the last event has left there that changed it.
def standing? (history : ObjectHistory) : Option Objects.Stored :=
  (history.reverse.findSome? fun event => event.leaves? bucket key).getD none

theorem standing?_snoc (history : ObjectHistory) (event : ObjectEvent) :
    standing? bucket key (history ++ [event]) =
      (event.leaves? bucket key).getD (history.standing? bucket key) := by
  rw [standing?, List.reverse_append, List.reverse_singleton, List.singleton_append,
    List.findSome?_cons]
  cases event.leaves? bucket key <;> rfl

end ObjectHistory

namespace ObjectCall

def perform (call : ObjectCall) (backends : Backends) : ObjectEvent × Backends :=
  match call with
  | put bucket key body contentType =>
      let (answer, left) := Backends.objectStore.put bucket key body contentType backends
      (.put bucket key body contentType answer, left)
  | get bucket key =>
      let (answer, left) := Backends.objectStore.get bucket key backends
      (.got bucket key answer, left)
  | delete bucket key =>
      let (answer, left) := Backends.objectStore.delete bucket key backends
      (.deleted bucket key answer, left)
  | list bucket start =>
      let (answer, left) := Backends.objectStore.list bucket start backends
      (.listed bucket start answer, left)
  | schedule faults =>
      (.scheduled, { backends with objects := { backends.objects with faults } })
  | tell time =>
      let store := { backends.objects.store with time }
      (.told, { backends with objects := { backends.objects with store } })

def record (reached : ObjectHistory × Backends) (call : ObjectCall) : ObjectHistory × Backends :=
  (reached.1 ++ [(call.perform reached.2).1], (call.perform reached.2).2)

def course (calls : List ObjectCall) : ObjectHistory × Backends := calls.foldl record ([], .empty)

theorem course_snoc (calls : List ObjectCall) (call : ObjectCall) :
    course (calls ++ [call]) = record (course calls) call := by
  simp only [course, List.foldl_append, List.foldl_cons, List.foldl_nil]

def place? : ObjectCall → Option (String × String)
  | put bucket key _ _ | delete bucket key => some (bucket, key)
  | get .. | list .. | schedule _ | tell _ => none

end ObjectCall

namespace ObjectTable

-- A stored object whose handle tells where it stands, its digest and its size.
structure Genuine (bucket key : String) (object : Objects.Stored) : Prop where
  bucket_eq : object.handle.bucket = bucket
  key_eq : object.handle.key = key
  etag_eq : object.handle.etag = etag object.body
  size_eq : object.handle.size = object.body.length

def AllGenuine (objects : ObjectTable) : Prop :=
  ∀ bucket key object, objects.get bucket key = some object → Genuine bucket key object

section
variable (objects : ObjectTable) {bucket key : String}

theorem put_leaves (other name : String) (body : Bytes) (contentType : Option String) :
    (objects.put other name body contentType).2.get bucket key =
      (ObjectEvent.leaves? bucket key (.put other name body contentType
        (.ok (objects.put other name body contentType).1))).getD (objects.get bucket key) := by
  rw [get_put, ObjectEvent.leaves?]
  split <;> rfl

theorem delete_fst (bucket key : String) :
    (objects.delete bucket key).1 = (objects.get bucket key).isSome := by
  cases known : objects.get bucket key <;> simp [delete, known]

theorem delete_leaves (other name : String) :
    (objects.delete other name).2.get bucket key =
      (ObjectEvent.leaves? bucket key (.deleted other name
        (.ok (objects.delete other name).1))).getD (objects.get bucket key) := by
  rw [get_delete, delete_fst]
  cases known : objects.get other name with
  | none =>
    split
    · next own => rw [own.1, own.2, known]; rfl
    · rfl
  | some object =>
    rw [Option.isSome_some, ObjectEvent.leaves?]
    split <;> rfl

end

section
variable {objects : ObjectTable} (genuine : objects.AllGenuine)
include genuine

theorem AllGenuine.put (other name : String) (body : Bytes) (contentType : Option String) :
    (objects.put other name body contentType).2.AllGenuine := by
  intro bucket key object stored
  rw [get_put] at stored
  split at stored
  · next own =>
    obtain ⟨rfl, rfl⟩ := own
    obtain rfl := Option.some.inj stored
    exact ⟨rfl, rfl, rfl, rfl⟩
  · exact genuine bucket key object stored

theorem AllGenuine.delete (other name : String) :
    (objects.delete other name).2.AllGenuine := by
  intro bucket key object stored
  rw [get_delete] at stored
  split at stored
  · cases stored
  · exact genuine bucket key object stored

variable (bucket : String) (start : Option String)

theorem AllGenuine.key_eq {entry : String × Objects.Stored}
    (member : entry ∈ (objects.bucket bucket).entries) : entry.2.handle.key = entry.1 :=
  (genuine bucket entry.1 entry.2 ((Dict.mem_entries_iff ..).mp member)).key_eq

-- As handles name their keys, a listing is a part of the bucket, in the order of its keys.
theorem AllGenuine.list_eq :
    objects.list bucket start =
      ((objects.bucket bucket).entries.filter fun entry =>
        Text.beginsWith (start.getD "") entry.1).map fun entry => entry.2.handle := by
  rw [list, Dict.values, List.map_map, List.filter_map]
  refine congrArg _ (List.filter_congr fun entry member => ?_)
  simp only [Function.comp_apply, genuine.key_eq bucket member]

theorem AllGenuine.list_sorted :
    (objects.list bucket start).Pairwise fun first second =>
      Bytes.ofText first.key < Bytes.ofText second.key := by
  rw [genuine.list_eq, List.pairwise_map]
  refine List.Pairwise.imp_of_mem ?_ ((objects.bucket bucket).sorted.filter _)
  intro first second left right less
  rw [genuine.key_eq bucket (List.mem_filter.mp left).1,
    genuine.key_eq bucket (List.mem_filter.mp right).1]
  exact Bytes.ofText_lt less

theorem AllGenuine.mem_list (handle : Objects.Handle) :
    handle ∈ objects.list bucket start ↔
      (∃ body, objects.get bucket handle.key = some ⟨handle, body⟩) ∧
        ∃ rest, handle.key = start.getD "" ++ rest := by
  rw [genuine.list_eq, List.mem_map]
  constructor
  · rintro ⟨⟨key, object⟩, member, rfl⟩
    obtain ⟨stored, begins⟩ := List.mem_filter.mp member
    obtain rfl : object.handle.key = key := genuine.key_eq bucket stored
    exact ⟨⟨object.body, (Dict.mem_entries_iff ..).mp stored⟩,
      (Text.beginsWith_iff_append ..).mp begins⟩
  · rintro ⟨⟨body, found⟩, begins⟩
    refine ⟨(handle.key, ⟨handle, body⟩), List.mem_filter.mpr ⟨?_, ?_⟩, rfl⟩
    · exact (Dict.mem_entries_iff ..).mpr found
    · exact (Text.beginsWith_iff_append ..).mpr begins

end

end ObjectTable

namespace ObjectCall
open ObjectHistory (standing? standing?_snoc)

section
variable (call : ObjectCall) (backends : Backends)

theorem perform_leaves (bucket key : String) :
    (call.perform backends).2.objects.store.get bucket key =
      ((call.perform backends).1.leaves? bucket key).getD
        (backends.objects.store.get bucket key) := by
  cases call with
  | put other name body contentType =>
    exact Faulty.call_either _ _ _ _
      (motive := fun answer (left : ObjectTable) => left.get bucket key =
        (ObjectEvent.leaves? bucket key (.put other name body contentType answer)).getD
          (backends.objects.store.get bucket key))
      (fun _ => rfl) (backends.objects.store.put_leaves other name body contentType)
  | delete other name =>
    exact Faulty.call_either _ _ _ _
      (motive := fun answer (left : ObjectTable) => left.get bucket key =
        (ObjectEvent.leaves? bucket key (.deleted other name answer)).getD
          (backends.objects.store.get bucket key))
      (fun _ => rfl) (backends.objects.store.delete_leaves other name)
  | get | list =>
    exact congrArg (ObjectTable.get · bucket key) (Faulty.call_idle _ _ _ _ rfl)
  | schedule | tell => rfl

theorem perform_genuine (genuine : backends.objects.store.AllGenuine) :
    (call.perform backends).2.objects.store.AllGenuine := by
  cases call with
  | put other name body contentType =>
    exact Faulty.call_either _ _ _ _ (motive := fun _ (left : ObjectTable) => left.AllGenuine)
      (fun _ => genuine) (genuine.put other name body contentType)
  | delete other name =>
    exact Faulty.call_either _ _ _ _ (motive := fun _ (left : ObjectTable) => left.AllGenuine)
      (fun _ => genuine) (genuine.delete other name)
  | get | list =>
    exact Faulty.call_either _ _ _ _ (motive := fun _ (left : ObjectTable) => left.AllGenuine)
      (fun _ => genuine) genuine
  | schedule | tell => exact genuine

theorem perform_elsewhere {bucket key : String} (elsewhere : call.place? ≠ some (bucket, key)) :
    (call.perform backends).2.objects.store.get bucket key =
      backends.objects.store.get bucket key := by
  have unchanged : (call.perform backends).1.leaves? bucket key = none := by
    cases call with
    | put other name body contentType =>
      refine ObjectEvent.leaves?_put_elsewhere (fun own => elsewhere ?_) ..
      rw [own.1, own.2, place?]
    | delete other name =>
      refine ObjectEvent.leaves?_deleted_elsewhere (fun own => elsewhere ?_) _
      rw [own.1, own.2, place?]
    | get | list | schedule | tell => rfl
  rw [perform_leaves, unchanged, Option.getD_none]

end

theorem course_holds (calls : List ObjectCall) (bucket key : String) :
    (course calls).2.objects.store.get bucket key = (course calls).1.standing? bucket key := by
  induction calls using List.reverseRecOn with
  | nil => rfl
  | append_singleton calls call ih =>
    rw [course_snoc, record, perform_leaves, standing?_snoc, ih]

theorem course_genuine (calls : List ObjectCall) :
    (course calls).2.objects.store.AllGenuine := by
  induction calls using List.reverseRecOn with
  | nil => exact fun _ _ _ stored => by cases stored
  | append_singleton calls call ih =>
    rw [course_snoc]
    exact call.perform_genuine _ ih

/-- After any calls, with any failures scheduled in between, what stands under a key is what was last
put there, unless it was deleted since, and its handle names its place, its digest and its size. A
call that no failure strikes is answered by what stands: a listing has the handles of the objects
that stand in the bucket under keys that begin with the text, in the order of the bytes of the keys.
A call changes nothing but the key that it puts or deletes. -/
theorem objects_follow_history (calls : List ObjectCall) (bucket key : String) :
    let history := (course calls).1
    let reached := (course calls).2
    let objects := reached.objects.store
    let faults := reached.objects.faults
    objects.get bucket key = history.standing? bucket key ∧
    (∀ object, history.standing? bucket key = some object →
      ObjectTable.Genuine bucket key object) ∧
    (∀ body contentType, ((put bucket key body contentType).perform reached).1 =
      .put bucket key body contentType (faults.unlessStruck "put" .error
        (.ok ⟨bucket, key, ObjectTable.etag body, body.length, contentType, objects.time⟩))) ∧
    ((get bucket key).perform reached).1 =
      .got bucket key (faults.unlessStruck "get" .error (.ok (history.standing? bucket key))) ∧
    ((delete bucket key).perform reached).1 =
      .deleted bucket key
        (faults.unlessStruck "delete" .error (.ok (history.standing? bucket key).isSome)) ∧
    (∀ start, ∃ handles : List Objects.Handle,
      (handles.Pairwise fun first second => Bytes.ofText first.key < Bytes.ofText second.key) ∧
      (∀ handle, handle ∈ handles ↔
        (∃ body, history.standing? bucket handle.key = some ⟨handle, body⟩) ∧
          ∃ rest, handle.key = start.getD "" ++ rest) ∧
      ((list bucket start).perform reached).1 =
        .listed bucket start (faults.unlessStruck "list" .error (.ok handles))) ∧
    (∀ call : ObjectCall, call.place? ≠ some (bucket, key) →
      (call.perform reached).2.objects.store.get bucket key = objects.get bucket key) ∧
    ∀ call : ObjectCall, (∀ name, call.place? ≠ some (bucket, name)) →
      ∀ start, (call.perform reached).2.objects.store.list bucket start =
        objects.list bucket start := by
  intro history reached objects faults
  have holds (name : String) : objects.get bucket name = history.standing? bucket name :=
    course_holds calls bucket name
  have genuine : objects.AllGenuine := course_genuine calls
  refine ⟨holds key, ?_, ?_, ?_, ?_, ?_, ?_, ?_⟩
  · intro object stands
    exact genuine bucket key object ((holds key).trans stands)
  · intro body contentType
    exact congrArg _ (Faulty.call_answer ..)
  · rw [← holds]
    exact congrArg _ (Faulty.call_answer ..)
  · rw [← holds, ← ObjectTable.delete_fst]
    exact congrArg _ (Faulty.call_answer ..)
  · intro start
    refine ⟨objects.list bucket start, genuine.list_sorted bucket start, fun handle => ?_, ?_⟩
    · rw [genuine.mem_list, holds]
    · exact congrArg _ (Faulty.call_answer ..)
  · exact fun call elsewhere => call.perform_elsewhere reached elsewhere
  · intro call elsewhere start
    have same : (call.perform reached).2.objects.store.bucket bucket = objects.bucket bucket :=
      Dict.ext fun name => call.perform_elsewhere reached (elsewhere name)
    rw [ObjectTable.list, same, ObjectTable.list]

end ObjectCall
end EffectPrograms.Memory
