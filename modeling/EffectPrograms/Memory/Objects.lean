import EffectPrograms.Dict
import EffectPrograms.Digest
import EffectPrograms.Effect.Objects
import EffectPrograms.Text.Beginning

set_option autoImplicit false

namespace EffectPrograms.Memory

structure ObjectTable where
  buckets : Dict (Dict Objects.Stored)
  time : Timestamp
deriving DecidableEq

namespace ObjectTable

def empty : ObjectTable := ⟨∅, .epoch⟩

def etag (body : Bytes) : String := (Digest.sha256 body).hex

def bucket (objects : ObjectTable) (name : String) : Dict Objects.Stored :=
  (objects.buckets.get? name).getD ∅

def get (objects : ObjectTable) (bucket key : String) : Option Objects.Stored :=
  (objects.bucket bucket).get? key

def put (objects : ObjectTable) (bucket key : String) (body : Bytes)
    (contentType : Option String) : Objects.Handle × ObjectTable :=
  let handle : Objects.Handle :=
    { bucket, key, etag := etag body, size := body.length, contentType,
      lastModified := objects.time }
  let content := (objects.bucket bucket).insert key ⟨handle, body⟩
  (handle, { objects with buckets := objects.buckets.insert bucket content })

def delete (objects : ObjectTable) (bucket key : String) : Bool × ObjectTable :=
  match objects.get bucket key with
  | some _ =>
      let rest := (objects.bucket bucket).erase key
      (true, { objects with buckets := objects.buckets.insert bucket rest })
  | none => (false, objects)

-- The handles of a bucket in the order of the keys, all or those whose key begins with a text.
def list (objects : ObjectTable) (bucket : String) (start : Option String) : List Objects.Handle :=
  let handles := (objects.bucket bucket).values.map (·.handle)
  handles.filter fun handle => Text.beginsWith (start.getD "") handle.key

section
variable (objects : ObjectTable)

theorem bucket_insert (name other : String) (content : Dict Objects.Stored) :
    ({ objects with buckets := objects.buckets.insert name content } : ObjectTable).bucket other =
      if other = name then content else objects.bucket other := by
  rw [bucket, Dict.get?_insert]
  split <;> rfl

theorem get_put (bucket key other name : String) (body : Bytes) (contentType : Option String) :
    (objects.put bucket key body contentType).2.get other name =
      if other = bucket ∧ name = key then
        some ⟨(objects.put bucket key body contentType).1, body⟩
      else objects.get other name := by
  rw [put, get, bucket_insert]
  by_cases own : other = bucket
  · subst other
    simp [get, Dict.get?_insert]
  · simp [get, own]

theorem get_delete (bucket key other name : String) :
    (objects.delete bucket key).2.get other name =
      if other = bucket ∧ name = key then none else objects.get other name := by
  cases known : objects.get bucket key with
  | none =>
    simp only [delete, known]
    split
    · next own => rw [own.1, own.2, known]
    · rfl
  | some object =>
    simp only [delete, known]
    rw [get, bucket_insert]
    by_cases own : other = bucket
    · subst other
      simp [get, Dict.get?_erase]
    · simp [get, own]

end

end ObjectTable
end EffectPrograms.Memory
