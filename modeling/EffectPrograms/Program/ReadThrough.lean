import EffectPrograms.Program.Basic

set_option autoImplicit false

namespace EffectPrograms

structure ReadThrough where
  table : String
  key : String
  cacheKey : String
  ttl : Option Duration
deriving DecidableEq

namespace ReadThrough

def defaultKey (table key : String) : String := table ++ ":" ++ key

def of (table key : String) : ReadThrough := ⟨table, key, defaultKey table key, none⟩

theorem defaultKey_ne_empty (table key : String) : defaultKey table key ≠ "" := by
  intro empty
  have length := congrArg String.length empty
  simp [defaultKey] at length

def lookUp (r : ReadThrough) : Effect := .cache (.get r.cacheKey)
def read (r : ReadThrough) : Effect := .storage (.get r.table r.key)
def fill (r : ReadThrough) (value : Document) : Effect :=
  .cache (.set r.cacheKey value.encoded r.ttl)

inductive State where
  | ready
  | checkingCache
  | readingRecord
  | fillingCache (value : Document)
  | finished
deriving DecidableEq

def program (r : ReadThrough) : Program (Option Document) where
  State := State
  initial := .ready
  start
    | .ready => .ok (.suspended r.lookUp, .checkingCache)
    | _ => .error .alreadyStarted
  resume
    | .ready, _ => .error .notStarted
    | .finished, _ => .error .alreadyCompleted
    | .checkingCache, result =>
        match r.lookUp.accept result with
        | .error error => .ok (.done (.error error), .finished)
        | .ok .miss => .ok (.suspended r.read, .readingRecord)
        | .ok (.hit bytes) =>
            match Document.decode? bytes with
            | some value => .ok (.done (.ok (some value)), .finished)
            | none => .ok (.suspended r.read, .readingRecord)
    | .readingRecord, result =>
        match r.read.accept result with
        | .error error => .ok (.done (.error error), .finished)
        | .ok .notFound => .ok (.done (.ok none), .finished)
        | .ok (.found value) => .ok (.suspended (r.fill value), .fillingCache value)
    | .fillingCache value, result =>
        match (r.fill value).accept result with
        | .error error => .ok (.done (.error error), .finished)
        | .ok _ => .ok (.done (.ok (some value)), .finished)

end ReadThrough
end EffectPrograms
