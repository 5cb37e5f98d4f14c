import EffectPrograms.Proofs.Faults
import Mathlib.Data.List.Induction

set_option autoImplicit false

namespace EffectPrograms.Memory

inductive FaultCall where
  | failNext (name : String) (failure : BackendError)
  | failAlways (name : String) (failure : BackendError)
  | clear
  | check (operation : String)

namespace FaultCall

def perform (call : FaultCall) (faults : Faults) : Faults :=
  match call with
  | failNext name failure => faults.failNext name failure
  | failAlways name failure => faults.failAlways name failure
  | clear => ∅
  | check operation => (faults.check operation).2

def course (calls : List FaultCall) : Faults :=
  calls.foldl (fun faults call => call.perform faults) ∅

def isClear : FaultCall → Bool
  | clear => true
  | _ => false

-- The failure that a call queues under a name.
def queues? (name : String) : FaultCall → Option BackendError
  | failNext other failure => if name = other then some failure else none
  | _ => none

-- The failure that a call sets to stand for a name.
def sets? (name : String) : FaultCall → Option BackendError
  | failAlways other failure => if name = other then some failure else none
  | _ => none

-- The calls since the last clear, each with its place among all calls.
def sinceClear (calls : List FaultCall) : List (FaultCall × Nat) :=
  (calls.zipIdx.reverse.takeWhile fun entry => !entry.1.isClear).reverse

-- The one-shot failures that were queued since the last clear, the oldest first, with the places of
-- the calls that queued them.
def queued (name : String) (calls : List FaultCall) : List (Nat × BackendError) :=
  (sinceClear calls).filterMap fun entry => (entry.1.queues? name).map (entry.2, ·)

-- The standing failure that was set last since the last clear.
def standing? (name : String) (calls : List FaultCall) : Option BackendError :=
  (sinceClear calls).reverse.findSome? fun entry => entry.1.sets? name

section
variable (name : String) (calls : List FaultCall) (call : FaultCall)

theorem course_snoc : course (calls ++ [call]) = call.perform (course calls) := by
  rw [course, List.foldl_append]
  rfl

theorem sinceClear_snoc :
    sinceClear (calls ++ [call]) =
      if call.isClear then [] else sinceClear calls ++ [(call, calls.length)] := by
  rw [sinceClear, List.zipIdx_append, List.reverse_append]
  cases cleared : call.isClear <;> simp [cleared, sinceClear]

theorem queued_snoc :
    queued name (calls ++ [call]) =
      if call.isClear then [] else
        queued name calls ++ ((call.queues? name).map (calls.length, ·)).toList := by
  rw [queued, sinceClear_snoc]
  split
  · rfl
  · rw [List.filterMap_append, queued]
    cases queues : call.queues? name <;> simp [queues]

theorem standing?_snoc :
    standing? name (calls ++ [call]) =
      if call.isClear then none else (call.sets? name).or (standing? name calls) := by
  rw [standing?, sinceClear_snoc]
  split
  · rfl
  · rw [List.reverse_append, List.reverse_singleton, List.singleton_append, List.findSome?_cons]
    cases call.sets? name <;> rfl

end

theorem getElem?_of_mem_queued {name : String} {calls : List FaultCall} {place : Nat}
    {failure : BackendError} (member : (place, failure) ∈ queued name calls) :
    calls[place]? = some (.failNext name failure) := by
  obtain ⟨⟨call, found⟩, since, noted⟩ := List.mem_filterMap.mp member
  obtain ⟨shown, queues, same⟩ := Option.map_eq_some_iff.mp noted
  obtain ⟨rfl, rfl⟩ := Prod.mk.inj same
  have among : (call, found) ∈ calls.zipIdx :=
    List.mem_reverse.mp ((List.takeWhile_sublist _).subset (List.mem_reverse.mp since))
  refine (List.mem_zipIdx_iff_getElem?.mp among).trans (congrArg some ?_)
  cases call with
  | failNext other queued =>
    obtain ⟨rfl, rfl⟩ : name = other ∧ queued = shown := by simpa [queues?] using queues
    rfl
  | failAlways | clear | check => cases queues

theorem lt_of_mem_queued {name : String} {calls : List FaultCall} {place : Nat}
    {failure : BackendError} (member : (place, failure) ∈ queued name calls) :
    place < calls.length :=
  (List.getElem?_eq_some_iff.mp (getElem?_of_mem_queued member)).1

theorem queued_places_nodup (name : String) (calls : List FaultCall) :
    ((queued name calls).map Prod.fst).Nodup := by
  induction calls using List.reverseRecOn with
  | nil => exact List.nodup_nil
  | append_singleton calls call ih =>
    rw [queued_snoc]
    split
    · exact List.nodup_nil
    · cases call.queues? name with
      | none => simpa using ih
      | some failure =>
        have older : ∀ place earlier, (place, earlier) ∈ queued name calls →
            place ≠ calls.length :=
          fun _ _ member => Nat.ne_of_lt (lt_of_mem_queued member)
        simpa [List.nodup_append, ih] using older

-- What a call changes of the plans: only a check may take a failure away, and only a clear drops them.
theorem plan_perform {call : FaultCall} {faults : Faults}
    (kept : ∀ operation, call = check operation → (faults.check operation).2 = faults)
    (name : String) :
    (call.perform faults).plan name =
      if call.isClear then ⟨[], none⟩ else
        ⟨(faults.plan name).next ++ (call.queues? name).toList,
          (call.sets? name).or (faults.plan name).always⟩ := by
  cases call with
  | failNext other failure =>
    by_cases own : name = other <;>
      simp [perform, Faults.failNext, Faults.plan, Dict.get?_insert, own, isClear, queues?, sets?]
  | failAlways other failure =>
    by_cases own : name = other <;>
      simp [perform, Faults.failAlways, Faults.plan, Dict.get?_insert, own, isClear, queues?, sets?]
  | clear => rfl
  | check operation =>
    rw [perform, kept operation rfl]
    simp [isClear, queues?, sets?]

end FaultCall

-- A call, and the place of the one-shot failure that it used up.
structure FaultEntry where
  call : FaultCall
  used : Option Nat

abbrev FaultAccount := List FaultEntry

namespace FaultAccount

def calls (account : FaultAccount) : List FaultCall := account.map FaultEntry.call

def used (account : FaultAccount) : List Nat := account.filterMap FaultEntry.used

-- The one-shot failures that wait under a name, the oldest first.
def waiting (name : String) (account : FaultAccount) : List (Nat × BackendError) :=
  (FaultCall.queued name account.calls).filter fun entry => !account.used.contains entry.1

def standing? (name : String) (account : FaultAccount) : Option BackendError :=
  FaultCall.standing? name account.calls

section
variable (past : FaultAccount) (entry : FaultEntry)

theorem calls_snoc : calls (past ++ [entry]) = past.calls ++ [entry.call] := by
  simp [calls]

theorem used_snoc : used (past ++ [entry]) = past.used ++ entry.used.toList := by
  cases spent : entry.used <;> simp [used, spent]

end

-- What a check is answered after what is past, and the place of the failure that it uses up.
inductive Fires (past : FaultAccount) (operation : String) :
    Option Nat → Option BackendError → Prop where
  | own {place : Nat} {failure : BackendError} {rest : List (Nat × BackendError)}
      (oldest : past.waiting operation = (place, failure) :: rest) :
      Fires past operation (some place) (some failure)
  | ownStanding {failure : BackendError} (unqueued : past.waiting operation = [])
      (stands : past.standing? operation = some failure) : Fires past operation none (some failure)
  | shared {place : Nat} {failure : BackendError} {rest : List (Nat × BackendError)}
      (unqueued : past.waiting operation = []) (unset : past.standing? operation = none)
      (oldest : past.waiting Faults.any = (place, failure) :: rest) :
      Fires past operation (some place) (some failure)
  | sharedStanding {failure : BackendError} (unqueued : past.waiting operation = [])
      (unset : past.standing? operation = none) (sharedUnqueued : past.waiting Faults.any = [])
      (stands : past.standing? Faults.any = some failure) :
      Fires past operation none (some failure)
  | success (unqueued : past.waiting operation = []) (unset : past.standing? operation = none)
      (sharedUnqueued : past.waiting Faults.any = [])
      (sharedUnset : past.standing? Faults.any = none) : Fires past operation none none

-- A table that has what waits and what stands, under every name, and nothing else.
def Holds (account : FaultAccount) (faults : Faults) : Prop :=
  ∀ name, faults.plan name = ⟨(account.waiting name).map Prod.snd, account.standing? name⟩

section
variable {past : FaultAccount} {faults : Faults} {name : String} {place : Nat}
  {failure : BackendError} {rest : List (Nat × BackendError)}

theorem mem_queued_of_waiting (oldest : past.waiting name = (place, failure) :: rest) :
    (place, failure) ∈ FaultCall.queued name past.calls ∧ place ∉ past.used := by
  have member : (place, failure) ∈ past.waiting name := by simp [oldest]
  simpa [waiting] using member

theorem Holds.waiting_of_head (holds : past.Holds faults)
    (head : (faults.plan name).next.head? = some failure) :
    ∃ place rest, past.waiting name = (place, failure) :: rest := by
  rw [holds name] at head
  rcases waits : past.waiting name with _ | ⟨⟨place, oldest⟩, rest⟩
  · simp [waits] at head
  · obtain rfl : oldest = failure := by simpa [waits] using head
    exact ⟨place, rest, rfl⟩

theorem Holds.waiting_eq_nil (holds : past.Holds faults)
    (idle : ∀ failure, (faults.plan name).next.head? ≠ some failure) : past.waiting name = [] := by
  rcases waits : past.waiting name with _ | ⟨⟨place, oldest⟩, rest⟩
  · rfl
  · exact absurd (by simp [holds name, waits]) (idle oldest)

theorem Holds.of_idle (holds : past.Holds faults) (idle : faults.plan name = ⟨[], none⟩) :
    past.waiting name = [] ∧ past.standing? name = none := by
  rw [holds name] at idle
  simpa using idle

theorem Holds.check (holds : past.Holds faults) (operation : String) :
    (Fires past operation none (faults.check operation).1 ∧ (faults.check operation).2 = faults) ∨
      ∃ name place failure rest, (name = operation ∨ name = Faults.any) ∧
        past.waiting name = (place, failure) :: rest ∧
          Fires past operation (some place) (faults.check operation).1 ∧
            (faults.check operation).2 = faults.dropHead name := by
  have checked := faults.check_checked operation
  generalize faults.check operation = answer at checked ⊢
  cases checked with
  | oneShot due =>
    right
    cases due with
    | own head =>
      obtain ⟨place, rest, oldest⟩ := holds.waiting_of_head head
      exact ⟨operation, place, _, rest, .inl rfl, oldest, .own oldest, rfl⟩
    | shared idle head =>
      obtain ⟨unqueued, unset⟩ := holds.of_idle idle
      obtain ⟨place, rest, oldest⟩ := holds.waiting_of_head head
      exact ⟨Faults.any, place, _, rest, .inr rfl, oldest, .shared unqueued unset oldest, rfl⟩
  | undue idle =>
    refine .inl ⟨?_, rfl⟩
    have unqueued : past.waiting operation = [] :=
      holds.waiting_eq_nil fun failure head => idle _ _ (.own head)
    rw [holds operation, holds Faults.any]
    cases stands : past.standing? operation with
    | some failure => exact .ownStanding unqueued stands
    | none =>
      have planned : faults.plan operation = ⟨[], none⟩ := by
        rw [holds operation, unqueued, stands]
        rfl
      have sharedUnqueued : past.waiting Faults.any = [] :=
        holds.waiting_eq_nil fun failure head => idle _ _ (.shared planned head)
      cases sharedStands : past.standing? Faults.any with
      | some failure => exact .sharedStanding unqueued stands sharedUnqueued sharedStands
      | none => exact .success unqueued stands sharedUnqueued sharedStands

end

section Going
variable {past : FaultAccount} {faults : Faults}

-- The places that are used up are places of calls that were made.
def Bounded (past : FaultAccount) : Prop := ∀ place ∈ past.used, place < past.length

theorem standing?_snoc (past : FaultAccount) (name : String) (entry : FaultEntry) :
    standing? name (past ++ [entry]) =
      if entry.call.isClear then none else (entry.call.sets? name).or (past.standing? name) := by
  rw [standing?, calls_snoc, FaultCall.standing?_snoc]
  rfl

theorem waiting_snoc (bounded : past.Bounded) (name : String) (call : FaultCall) :
    waiting name (past ++ [⟨call, none⟩]) =
      if call.isClear then [] else
        past.waiting name ++ ((call.queues? name).map (past.length, ·)).toList := by
  have kept : used (past ++ [⟨call, none⟩]) = past.used := by simp [used_snoc]
  rw [waiting, calls_snoc, kept, FaultCall.queued_snoc]
  split
  · rfl
  · have fresh : past.length ∉ past.used := fun spent => Nat.lt_irrefl _ (bounded _ spent)
    have length : past.calls.length = past.length := List.length_map _
    rw [List.filter_append, length]
    cases call.queues? name <;> simp [waiting, fresh]

theorem waiting_spent {name : String} {place : Nat} {failure : BackendError}
    {rest : List (Nat × BackendError)} (oldest : past.waiting name = (place, failure) :: rest)
    (operation other : String) :
    waiting other (past ++ [⟨.check operation, some place⟩]) =
      if other = name then rest else past.waiting other := by
  have spends : used (past ++ [⟨.check operation, some place⟩]) = past.used ++ [place] := by
    simp [used_snoc]
  have left : waiting other (past ++ [⟨.check operation, some place⟩]) =
      (past.waiting other).filter fun entry => !decide (entry.1 = place) := by
    rw [waiting, calls_snoc, spends, FaultCall.queued_snoc, waiting, List.filter_filter]
    simp [FaultCall.isClear, FaultCall.queues?, Bool.and_comm]
  rw [left]
  split
  · next own =>
    have apart : ((past.waiting name).map Prod.fst).Nodup :=
      (FaultCall.queued_places_nodup name past.calls).sublist (List.filter_sublist.map _)
    rw [oldest, List.map_cons, List.nodup_cons] at apart
    have others : ∀ entry ∈ rest, entry.1 ≠ place := fun entry member same =>
      apart.1 (List.mem_map.mpr ⟨entry, member, same⟩)
    rw [own, oldest, List.filter_cons_of_neg (by simp)]
    exact List.filter_eq_self.mpr fun entry member => by simp [others entry member]
  · next elsewhere =>
    refine List.filter_eq_self.mpr fun entry member => ?_
    have waits := FaultCall.getElem?_of_mem_queued (List.mem_filter.mp member).1
    have spent := FaultCall.getElem?_of_mem_queued (mem_queued_of_waiting oldest).1
    have differs : entry.1 ≠ place := by
      intro same
      rw [same, spent] at waits
      exact elsewhere (FaultCall.failNext.inj (Option.some.inj waits)).1.symm
    simp [differs]

theorem standing?_checked (past : FaultAccount) (name operation : String) (used : Option Nat) :
    standing? name (past ++ [⟨.check operation, used⟩]) = past.standing? name :=
  past.standing?_snoc name _

theorem Holds.spent (holds : past.Holds faults) {name : String} {place : Nat}
    {failure : BackendError} {rest : List (Nat × BackendError)}
    (oldest : past.waiting name = (place, failure) :: rest) (operation : String) :
    Holds (past ++ [⟨.check operation, some place⟩]) (faults.dropHead name) := by
  intro other
  rw [Faults.plan_dropHead, waiting_spent oldest, standing?_checked, holds name, holds other]
  split
  · next own => simp [own, oldest]
  · rfl

theorem Holds.unspent (holds : past.Holds faults) (bounded : past.Bounded) {call : FaultCall}
    (kept : ∀ operation, call = .check operation → (faults.check operation).2 = faults) :
    Holds (past ++ [⟨call, none⟩]) (call.perform faults) := by
  intro name
  rw [FaultCall.plan_perform kept, waiting_snoc bounded, standing?_snoc, holds name]
  split
  · rfl
  · cases call.queues? name <;> simp

end Going

-- What an entry of an account says is so after what is past: a check is answered by what it used up,
-- and no other call uses anything up.
def Follows (past : FaultAccount) (entry : FaultEntry) : Prop :=
  match entry.call with
  | .check operation =>
      Fires past operation entry.used ((FaultCall.course past.calls).check operation).1
  | _ => entry.used = none

-- An account that tells how a run went and what it has left.
structure Explains (account : FaultAccount) (calls : List FaultCall) : Prop where
  calls_eq : account.calls = calls
  follows : ∀ place entry, account[place]? = some entry → Follows (account.take place) entry
  spent_once : account.used.Nodup
  bounded : account.Bounded
  holds : account.Holds (FaultCall.course calls)

namespace Explains
variable {account : FaultAccount} {calls : List FaultCall}

theorem nil : Explains [] [] where
  calls_eq := rfl
  follows := nofun
  spent_once := List.nodup_nil
  bounded := nofun
  holds _ := rfl

theorem snoc (explains : Explains account calls) (entry : FaultEntry)
    (follows : Follows account entry) (unspent : ∀ place ∈ entry.used, place ∉ account.used)
    (bounded : ∀ place ∈ entry.used, place < account.length)
    (holds : Holds (account ++ [entry]) (entry.call.perform (FaultCall.course calls))) :
    Explains (account ++ [entry]) (calls ++ [entry.call]) where
  calls_eq := by rw [calls_snoc, explains.calls_eq]
  follows place other found := by
    rcases Nat.lt_or_ge place account.length with earlier | last
    · rw [List.getElem?_append_left earlier] at found
      rw [List.take_append_of_le_length (Nat.le_of_lt earlier)]
      exact explains.follows place other found
    · rw [List.getElem?_append_right last, List.getElem?_singleton] at found
      split at found
      · next same =>
        obtain rfl := Option.some.inj found
        obtain rfl : place = account.length := Nat.le_antisymm (Nat.le_of_sub_eq_zero same) last
        rwa [List.take_left]
      · cases found
  spent_once := by
    rw [used_snoc]
    refine List.nodup_append.mpr ⟨explains.spent_once, ?_, ?_⟩
    · cases entry.used <;> simp
    · rintro place earlier _ new rfl
      exact unspent place (Option.mem_toList.mp new) earlier
  bounded place spent := by
    rw [used_snoc, List.mem_append, Option.mem_toList] at spent
    rw [List.length_append, List.length_singleton]
    refine Nat.lt_succ_of_lt ?_
    exact spent.elim (explains.bounded place) (bounded place)
  holds := by
    rw [FaultCall.course_snoc]
    exact holds

theorem exists_explains (calls : List FaultCall) :
    ∃ account : FaultAccount, account.Explains calls := by
  induction calls using List.reverseRecOn with
  | nil => exact ⟨[], .nil⟩
  | append_singleton calls call ih =>
    obtain ⟨account, explains⟩ := ih
    have holds := explains.holds
    have unspent (follows : Follows account ⟨call, none⟩)
        (kept : ∀ operation, call = .check operation →
          ((FaultCall.course calls).check operation).2 = FaultCall.course calls) :
        ∃ account : FaultAccount, account.Explains (calls ++ [call]) :=
      ⟨_, explains.snoc _ follows nofun nofun (holds.unspent explains.bounded kept)⟩
    cases call with
    | check operation =>
      have past : FaultCall.course account.calls = FaultCall.course calls := by
        rw [explains.calls_eq]
      rcases holds.check operation with ⟨fires, kept⟩ | ⟨name, place, _, _, _, oldest, fires, left⟩
      · rw [← past] at fires
        exact unspent fires fun other same => FaultCall.check.inj same ▸ kept
      · rw [← past] at fires
        have waits := mem_queued_of_waiting oldest
        have made : place < account.length :=
          Nat.lt_of_lt_of_eq (FaultCall.lt_of_mem_queued waits.1) (List.length_map _)
        refine ⟨_, explains.snoc ⟨.check operation, some place⟩ fires ?_ ?_ ?_⟩
        · rintro _ ⟨⟩
          exact waits.2
        · rintro _ ⟨⟩
          exact made
        · rw [FaultCall.perform, left]
          exact holds.spent oldest operation
    | failNext | failAlways | clear => exact unspent rfl nofun

theorem fires (explains : Explains account calls) {place : Nat} {operation : String}
    {used : Option Nat} (noted : account[place]? = some ⟨.check operation, used⟩) :
    Fires (account.take place) operation used
      ((FaultCall.course (calls.take place)).check operation).1 := by
  have follows := explains.follows place _ noted
  have past : FaultAccount.calls (account.take place) = calls.take place := by
    rw [FaultAccount.calls, List.map_take, ← FaultAccount.calls, explains.calls_eq]
  rwa [Follows, past] at follows

end Explains

theorem Fires.used {past : FaultAccount} {operation : String} {place : Nat}
    {answer : Option BackendError} (fires : Fires past operation (some place) answer) :
    ∃ name failure, (name = operation ∨ name = Faults.any) ∧
      (place, failure) ∈ FaultCall.queued name past.calls ∧ answer = some failure := by
  cases fires with
  | own oldest => exact ⟨operation, _, .inl rfl, (mem_queued_of_waiting oldest).1, rfl⟩
  | shared _ _ oldest => exact ⟨Faults.any, _, .inr rfl, (mem_queued_of_waiting oldest).1, rfl⟩

end FaultAccount

theorem Faults.plan_check_elsewhere (faults : Faults) {operation other : String}
    (apart : other ≠ operation) (named : other ≠ Faults.any) :
    (faults.check operation).2.plan other = faults.plan other := by
  have checked := faults.check_checked operation
  generalize faults.check operation = answer at checked ⊢
  cases checked with
  | oneShot due =>
    rw [plan_dropHead, if_neg]
    cases due with
    | own => exact apart
    | shared => exact named
  | undue => rfl

namespace FaultCall

/-- Every run of calls has an account of which check used up which one-shot failure. A check is
answered by the oldest failure that waits under its own name, else by the one that stands there, and
else by those for all operations in the same way. A failure is used up once at most, by a check that
it answers; all others that were queued since the last clear are still in the table, and a check
leaves alone what is planned for other operations. -/
theorem failures_fire_as_scheduled (calls : List FaultCall) :
    ∃ account : FaultAccount, account.calls = calls ∧
      (∀ place operation used, account[place]? = some ⟨.check operation, used⟩ →
        FaultAccount.Fires (account.take place) operation used
          ((course (calls.take place)).check operation).1) ∧
      (∀ place operation spent, account[place]? = some ⟨.check operation, some spent⟩ →
        ∃ name failure, (name = operation ∨ name = Faults.any) ∧
          (spent, failure) ∈ queued name (calls.take place) ∧
            ((course (calls.take place)).check operation).1 = some failure) ∧
      (∀ entry ∈ account, (∀ operation, entry.call ≠ .check operation) → entry.used = none) ∧
      account.used.Nodup ∧
      account.Holds (course calls) ∧
      ∀ operation other, other ≠ operation → other ≠ Faults.any →
        ((course calls).check operation).2.plan other = (course calls).plan other := by
  obtain ⟨account, explains⟩ := FaultAccount.Explains.exists_explains calls
  refine ⟨account, explains.calls_eq, fun place operation used noted => explains.fires noted,
    fun place operation spent noted => ?_, fun entry member other => ?_, explains.spent_once,
    explains.holds, fun operation other => Faults.plan_check_elsewhere _⟩
  · have used := (explains.fires noted).used
    rwa [FaultAccount.calls, List.map_take, ← FaultAccount.calls, explains.calls_eq] at used
  · obtain ⟨place, found⟩ := List.getElem?_of_mem member
    have follows := explains.follows place entry found
    rw [FaultAccount.Follows] at follows
    split at follows
    · next operation same => exact absurd same (other operation)
    · exact follows

end FaultCall
end EffectPrograms.Memory
