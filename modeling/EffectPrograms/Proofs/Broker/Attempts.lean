import EffectPrograms.Proofs.Broker.Accounts

set_option autoImplicit false

namespace EffectPrograms.Memory
open Messaging (Message)
open BrokerHistory

namespace BrokerHistory

def deliveriesOn (name : String) (history : BrokerHistory) : List Message :=
  history.filterMap (BrokerEvent.delivery? name)

def timesDelivered (name id : String) (history : BrokerHistory) : Nat :=
  (deliveriesOn name history).countP fun message => message.messageId == id

-- A message has been redelivered on a subscription since each of its deliveries there.
def ReturnedSince (name id : String) (history : BrokerHistory) : Prop :=
  ∀ before message after, history = before ++ .received name (.ok (some message)) :: after →
    message.messageId = id → ∃ count, .redelivered name count ∈ after

variable {name id : String} {history : BrokerHistory} {event : BrokerEvent}

theorem deliveriesOn_snoc (name : String) (history : BrokerHistory) (event : BrokerEvent) :
    deliveriesOn name (history ++ [event]) =
      deliveriesOn name history ++ (event.delivery? name).toList := by
  cases shown : event.delivery? name <;> simp [deliveriesOn, shown]

theorem timesDelivered_snoc (name id : String) (history : BrokerHistory) (event : BrokerEvent) :
    timesDelivered name id (history ++ [event]) = timesDelivered name id history +
      (event.delivery? name).toList.countP fun message => message.messageId == id := by
  rw [timesDelivered, deliveriesOn_snoc, List.countP_append, timesDelivered]

theorem timesDelivered_received (name id : String) (history : BrokerHistory) (message : Message) :
    timesDelivered name id (history ++ [.received name (.ok (some message))]) =
      timesDelivered name id history + if message.messageId = id then 1 else 0 := by
  rw [timesDelivered_snoc]
  by_cases own : message.messageId = id <;> simp [BrokerEvent.delivery?, own]

theorem ReturnedSince.snoc (returned : ReturnedSince name id history)
    (other : ∀ message, event = .received name (.ok (some message)) → message.messageId ≠ id) :
    ReturnedSince name id (history ++ [event]) := by
  intro before message after split same
  rcases snoc_eq_append_cons split with ⟨-, rfl, -⟩ | ⟨rest, earlier, rfl⟩
  · exact absurd same (other message rfl)
  · obtain ⟨count, member⟩ := returned before message rest earlier same
    exact ⟨count, List.mem_append_left _ member⟩

theorem returnedSince_redelivered (name id : String) (history : BrokerHistory) (count : Nat) :
    ReturnedSince name id (history ++ [.redelivered name count]) := by
  intro before message after split _
  rcases snoc_eq_append_cons split with ⟨-, last, -⟩ | ⟨rest, -, rfl⟩
  · cases last
  · exact ⟨count, by simp⟩

theorem returnedSince_of_undelivered (undelivered : timesDelivered name id history = 0) :
    ReturnedSince name id history := by
  rintro before message after rfl rfl
  simp [timesDelivered, deliveriesOn, BrokerEvent.delivery?] at undelivered

end BrokerHistory

namespace Subscription

-- What the copies that a subscription holds tell of the deliveries in its history.
structure Attempts (name : String) (history : BrokerHistory) (subscription : Subscription) : Prop where
  counted : ∀ copy ∈ subscription.copies,
    copy.deliveryAttempt = timesDelivered name copy.messageId history
  returned : ∀ copy ∈ subscription.ready.toList, ReturnedSince name copy.messageId history

variable {name : String} {history : BrokerHistory} {event : BrokerEvent}
  {subscription left : Subscription} {message : Message} {owed : List Message}
  {acknowledged : List String}

theorem attempts_attached (name topic : String) (history : BrokerHistory) :
    Attempts name history ⟨topic, #[], ∅⟩ :=
  ⟨by rintro _ ⟨⟩, by rintro _ ⟨⟩⟩

theorem Attempts.passed (attempts : subscription.Attempts name history)
    (undelivered : event.delivery? name = none)
    (copies : ∀ copy ∈ left.copies, copy ∈ subscription.copies)
    (ready : ∀ copy ∈ left.ready.toList, copy ∈ subscription.ready.toList) :
    left.Attempts name (history ++ [event]) where
  counted copy member := by
    rw [timesDelivered_snoc, undelivered]
    exact attempts.counted copy (copies copy member)
  returned copy member := by
    refine (attempts.returned copy (ready copy member)).snoc fun message delivered => ?_
    rw [delivered] at undelivered
    simp [BrokerEvent.delivery?] at undelivered

theorem Attempts.offered (attempts : subscription.Attempts name history)
    (unattempted : message.deliveryAttempt = 0)
    (fresh : timesDelivered name message.messageId history = 0)
    (undelivered : event.delivery? name = none) :
    (subscription.offer message).Attempts name (history ++ [event]) := by
  have passed := attempts.passed undelivered (fun _ held => held) (fun _ waits => waits)
  have unmet : timesDelivered name message.messageId (history ++ [event]) = 0 := by
    rw [timesDelivered_snoc, undelivered, fresh]
    rfl
  rw [offer]
  split
  · refine ⟨fun copy member => ?_, fun copy member => ?_⟩
    · rw [copies_push, List.mem_append, List.mem_singleton] at member
      rcases member with held | rfl
      · exact passed.counted copy held
      · rw [unattempted, unmet]
    · simp only [Array.toList_push, List.mem_append, List.mem_singleton] at member
      rcases member with waits | rfl
      · exact passed.returned copy waits
      · exact returnedSince_of_undelivered unmet
  · exact passed

-- The message that is handed out is none of the others that the subscription holds, so their
-- counts stay.
theorem Attempts.handed (attempts : subscription.Attempts name history)
    (accounts : subscription.Accounts owed acknowledged)
    (distinct : (owed.map (·.messageId)).Nodup)
    (taken : subscription.take? = some (message, left)) :
    left.Attempts name (history ++ [.received name (.ok (some message))]) := by
  obtain ⟨first, ready, rfl, -, inFlight⟩ := take?_eq_some taken
  obtain ⟨-, beside, behind⟩ := accounts.first_apart distinct ready
  have waits {copy : Message} (member : copy ∈ left.ready.toList) :
      copy ∈ subscription.ready.toList ∧ first.messageId ≠ copy.messageId := by
    refine ⟨by simp [ready, member], fun same => behind ?_⟩
    exact same ▸ List.mem_map_of_mem member
  have kept {copy : Message} (held : copy ∈ subscription.copies)
      (apart : first.messageId ≠ copy.messageId) : copy.deliveryAttempt = timesDelivered name
        copy.messageId (history ++ [.received name (.ok (some
          { first with deliveryAttempt := first.deliveryAttempt + 1 }))]) := by
    rw [timesDelivered_received, if_neg apart]
    exact attempts.counted copy held
  refine ⟨fun copy member => ?_, fun copy member => ?_⟩
  · rcases (mem_copies ..).mp member with ⟨id, found⟩ | waiting
    · rw [inFlight, Dict.get?_insert] at found
      split at found
      · obtain rfl := Option.some.inj found
        rw [timesDelivered_received, if_pos rfl]
        exact congrArg (· + 1)
          (attempts.counted first ((mem_copies ..).mpr (.inr (by simp [ready]))))
      · next apart =>
        refine kept ((mem_copies ..).mpr (.inl ⟨id, found⟩)) ?_
        rw [accounts.keyed id copy found]
        exact Ne.symm apart
    · exact kept ((mem_copies ..).mpr (.inr (waits waiting).1)) (waits waiting).2
  · refine (attempts.returned copy (waits member).1).snoc fun message delivered => ?_
    cases delivered
    exact (waits member).2

theorem Attempts.settled (attempts : subscription.Attempts name history)
    (undelivered : event.delivery? name = none) (messageId : String) :
    Attempts name (history ++ [event])
      { subscription with inFlight := subscription.inFlight.erase messageId } := by
  refine attempts.passed undelivered (fun copy member => ?_) fun _ waits => waits
  rcases (mem_copies ..).mp member with ⟨id, kept⟩ | waits
  · exact (mem_copies ..).mpr (.inl ⟨id, Dict.get?_of_get?_erase kept⟩)
  · exact (mem_copies ..).mpr (.inr waits)

theorem Attempts.redelivered (attempts : subscription.Attempts name history) (count : Nat) :
    subscription.redelivered.Attempts name (history ++ [.redelivered name count]) where
  counted copy member := by
    rw [copies_redelivered] at member
    rw [timesDelivered_snoc]
    exact attempts.counted copy member
  returned copy _ := returnedSince_redelivered name copy.messageId history count

theorem Attempts.moves {current next : Option Subscription}
    (moves : Moves name current event next) (accounted : Accounted name history current)
    (distinct : ((publications history).map (·.messageId)).Nodup)
    (fresh : ∀ message, event.publication? = some message →
      timesDelivered name message.messageId history = 0)
    (attempts : ∀ subscription, current = some subscription →
      subscription.Attempts name history) :
    ∀ left, next = some left → left.Attempts name (history ++ [event]) := by
  intro left reached
  cases moves with
  | attached topic =>
    obtain rfl := Option.some.inj reached
    exact attempts_attached name topic _
  | offered current topic payload attributes delivery =>
    obtain ⟨subscription, known, rfl⟩ := Option.map_eq_some_iff.mp reached
    exact (attempts subscription known).offered rfl (fresh _ rfl) rfl
  | handed taken =>
    obtain rfl := Option.some.inj reached
    cases accounted with
    | attached own accounts =>
      exact (attempts _ rfl).handed accounts (((owed_sublist name history).map _).nodup distinct)
        taken
  | settled subscription messageId =>
    obtain rfl := Option.some.inj reached
    exact (attempts _ rfl).settled rfl messageId
  | returned subscription =>
    obtain rfl := Option.some.inj reached
    exact (attempts _ rfl).redelivered _
  | aside current unattached unpublished unacknowledged undelivered =>
    exact (attempts left reached).passed undelivered (fun _ held => held) fun _ waits => waits

end Subscription

namespace BrokerCall

theorem delivered_published {calls : List BrokerCall} {name : String} {message : Message}
    (delivered : message ∈ deliveriesOn name (course calls).1) :
    message.messageId ∈ (publications (course calls).1).map (·.messageId) := by
  obtain ⟨event, member, shown⟩ := List.mem_filterMap.mp delivered
  obtain rfl := BrokerEvent.delivery?_eq_some shown
  obtain ⟨before, after, split⟩ := List.mem_iff_append.mp member
  obtain ⟨earlier, call, rfl, received⟩ := course_split split
  have owes := (owed_sublist name _).subset (received_owed earlier received)
  rw [split, publications, List.filterMap_append, List.map_append]
  exact List.mem_append_left _ (List.mem_map.mpr ⟨asPublished message, owes, rfl⟩)

theorem undelivered_of_published {calls : List BrokerCall} {call : BrokerCall} {message : Message}
    (published : (call.perform (course calls).2).1.publication? = some message) (name : String) :
    timesDelivered name message.messageId (course calls).1 = 0 := by
  have distinct := (course_numbered (calls ++ [call])).nodup
  rw [course_snoc, record, publications_snoc, published, Option.toList_some, List.map_append]
    at distinct
  refine List.countP_eq_zero.mpr fun earlier delivered same => ?_
  exact (List.nodup_append.mp distinct).2.2 _ (delivered_published delivered) message.messageId
    (by simp) (by simpa using same)

theorem course_attempts (calls : List BrokerCall) (name : String) :
    ∀ subscription, (course calls).2.broker.store.subscriptions.get? name = some subscription →
      subscription.Attempts name (course calls).1 := by
  induction calls using List.reverseRecOn with
  | nil => rintro _ ⟨⟩
  | append_singleton calls call ih =>
    rw [course_snoc]
    exact Subscription.Attempts.moves (call.perform_moves (course calls).2 name)
      (course_accounted calls name) (course_numbered calls).nodup
      (fun _ published => undelivered_of_published published name) ih

theorem delivered_after {calls : List BrokerCall} {name : String} {before after : BrokerHistory}
    {message : Message}
    (split : (course calls).1 = before ++ .received name (.ok (some message)) :: after) :
    message.deliveryAttempt = timesDelivered name message.messageId before + 1 ∧
      ReturnedSince name message.messageId before ∧
      message.messageId ∉ acknowledgedOn name before := by
  obtain ⟨earlier, call, rfl, received⟩ := course_split split
  have moves := call.perform_moves (course earlier).2 name
  rw [received] at moves
  obtain ⟨subscription, left, known, -, taken⟩ := moves.of_received
  have attempts := course_attempts earlier name subscription known
  have accounted := course_accounted earlier name
  rw [known] at accounted
  cases accounted with
  | attached own accounts =>
    obtain ⟨first, ready, rfl, -, -⟩ := Subscription.take?_eq_some taken
    have distinct := ((owed_sublist name _).map _).nodup (course_numbered earlier).nodup
    have waits : first ∈ subscription.ready.toList := by simp [ready]
    refine ⟨?_, attempts.returned first waits, (accounts.first_apart distinct ready).1⟩
    exact congrArg (· + 1) (attempts.counted first ((Subscription.mem_copies ..).mpr (.inr waits)))

/-- After any calls, with any failures scheduled in between: a message that a subscription hands out
for the n-th time is at its n-th attempt; between two deliveries of a message on a subscription all
that was in flight there was redelivered; and no message is delivered there after it was
acknowledged. -/
theorem attempts_count_deliveries (calls : List BrokerCall) (name : String) :
    let history := (course calls).1
    (∀ (before after : BrokerHistory) (message : Message),
      history = before ++ .received name (.ok (some message)) :: after →
      message.deliveryAttempt = timesDelivered name message.messageId before + 1) ∧
    (∀ (before between after : BrokerHistory) (first second : Message),
      history = before ++ .received name (.ok (some first)) :: between ++
        .received name (.ok (some second)) :: after →
      first.messageId = second.messageId → ∃ count, .redelivered name count ∈ between) ∧
    ∀ (before between after : BrokerHistory) (id : String) (message : Message),
      history = before ++ .acknowledged name id (.ok true) :: between ++
        .received name (.ok (some message)) :: after →
      message.messageId ≠ id := by
  refine ⟨?_, ?_, ?_⟩
  · intro before after message split
    exact (delivered_after split).1
  · intro before between after first second split same
    exact (delivered_after split).2.1 before first between rfl same
  · rintro before between after id message split rfl
    refine (delivered_after split).2.2 ?_
    simp [acknowledgedOn, BrokerEvent.acknowledgment?]

end BrokerCall
end EffectPrograms.Memory
