import EffectPrograms.Proofs.Broker.Accounts

set_option autoImplicit false

namespace EffectPrograms.Memory
open Messaging (Delivery Message)
open BrokerHistory

namespace Subscription

def copyIds (subscription : Subscription) : List String :=
  subscription.copies.map (·.messageId)

-- Messages in flight before those that wait, each part in the order of the identifiers.
def Ordered (subscription : Subscription) : Prop := subscription.copyIds.Pairwise (· < ·)

variable {subscription left : Subscription} {message : Message} {owed : List Message}
  {acknowledged : List String}

theorem Accounts.copyIds_eq (accounts : subscription.Accounts owed acknowledged) :
    subscription.copyIds = subscription.inFlightIds ++ subscription.waitingIds := by
  rw [copyIds, copies, List.map_append, accounts.inFlightIds_eq, waitingIds]

theorem copyIds_returned (subscription : Subscription) :
    subscription.redelivered.copyIds = subscription.copyIds := by
  rw [copyIds, copies_redelivered, copyIds]

-- A message that is handed out comes after those in flight, so its entry is the last.
theorem Ordered.copyIds_handed (ordered : subscription.Ordered)
    (accounts : subscription.Accounts owed acknowledged)
    (taken : subscription.take? = some (message, left)) : left.copyIds = subscription.copyIds := by
  obtain ⟨first, ready, rfl, -, inFlight⟩ := take?_eq_some taken
  have above : ∀ entry ∈ subscription.inFlight.entries, entry.1 < first.messageId := by
    intro entry member
    rw [Ordered, accounts.copyIds_eq, waitingIds, ready] at ordered
    exact (List.pairwise_append.mp ordered).2.2 entry.1 (List.mem_map_of_mem member) _ (by simp)
  simp only [copyIds, copies, Dict.values, ready, inFlight, Dict.insert,
    Entries.put_of_above above, List.map_append]
  simp

theorem Ordered.offered (ordered : subscription.Ordered)
    (above : ∀ id ∈ subscription.copyIds, id < message.messageId) :
    (subscription.offer message).Ordered := by
  rw [offer]
  split
  · have longer : copyIds { subscription with ready := subscription.ready.push message } =
        subscription.copyIds ++ [message.messageId] := by
      simp [copyIds, copies_push]
    rw [Ordered, longer]
    exact List.pairwise_append.mpr ⟨ordered, List.pairwise_singleton .., by simpa using above⟩
  · exact ordered

theorem Ordered.settled (ordered : subscription.Ordered) (messageId : String) :
    Ordered { subscription with inFlight := subscription.inFlight.erase messageId } := by
  refine List.Pairwise.sublist (List.Sublist.map _ ?_) ordered
  exact List.Sublist.append_right ((Entries.sublist_erase ..).map _) _

theorem Ordered.moves {name : String} {event : BrokerEvent} {current next : Option Subscription}
    {history : BrokerHistory} (moves : Moves name current event next)
    (accounted : Accounted name history current)
    (above : ∀ message, event.publication? = some message →
      ∀ earlier ∈ publications history, earlier.messageId < message.messageId)
    (ordered : ∀ subscription, current = some subscription → subscription.Ordered) :
    ∀ left, next = some left → left.Ordered := by
  intro left reached
  cases moves with
  | attached topic =>
    obtain rfl := Option.some.inj reached
    exact .nil
  | offered current topic payload attributes delivery =>
    obtain ⟨subscription, known, rfl⟩ := Option.map_eq_some_iff.mp reached
    rw [known] at accounted
    cases accounted with
    | attached own accounts =>
      refine (ordered subscription known).offered fun id member => ?_
      obtain ⟨copy, held, rfl⟩ := List.mem_map.mp member
      exact above _ rfl (asPublished copy)
        ((owed_sublist name history).subset (accounts.genuine copy held))
  | handed taken =>
    obtain rfl := Option.some.inj reached
    cases accounted with
    | attached own accounts =>
      rw [Ordered, (ordered _ rfl).copyIds_handed accounts taken]
      exact ordered _ rfl
  | settled subscription messageId =>
    obtain rfl := Option.some.inj reached
    exact (ordered _ rfl).settled messageId
  | returned subscription =>
    obtain rfl := Option.some.inj reached
    rw [Ordered, copyIds_returned]
    exact ordered _ rfl
  | aside => exact ordered left reached

theorem Ordered.first_of (ordered : subscription.Ordered)
    (accounts : subscription.Accounts owed acknowledged)
    (taken : subscription.take? = some (message, left)) {earlier : Message}
    (member : earlier ∈ owed) (less : earlier.messageId < message.messageId) :
    earlier.messageId ∉ left.waitingIds ∧
      (earlier.messageId ∈ acknowledged ∨ earlier.messageId ∈ left.inFlightIds) := by
  obtain ⟨first, ready, rfl, -, inFlight⟩ := take?_eq_some taken
  have waiting : subscription.waitingIds = first.messageId :: left.waitingIds := by
    simp [waitingIds, ready]
  have behind : ∀ id ∈ left.waitingIds, first.messageId < id := by
    rw [Ordered, accounts.copyIds_eq, waiting] at ordered
    exact (List.pairwise_cons.mp (List.pairwise_append.mp ordered).2.1).1
  have absent : earlier.messageId ∉ left.waitingIds := fun waits =>
    String.lt_asymm less (behind _ waits)
  refine ⟨absent, ?_⟩
  have placed := accounts.balance.mem_iff.mpr (List.mem_map_of_mem member)
  rw [waiting, List.mem_append, List.mem_append, List.mem_cons] at placed
  rcases placed with (settled | flying) | same | waits
  · exact .inl settled
  · refine .inr ?_
    rw [inFlightIds, Dict.mem_names_iff, Dict.contains] at flying ⊢
    rw [inFlight, Dict.get?_insert]
    split
    · rfl
    · exact flying
  · exact absurd (same ▸ less) (String.lt_irrefl _)
  · exact absurd waits absent

theorem Ordered.waitingIds_returned (ordered : subscription.Ordered)
    (accounts : subscription.Accounts owed acknowledged)
    (sorted : (owed.map (·.messageId)).Pairwise (· < ·)) :
    subscription.redelivered.waitingIds =
      (owed.map (·.messageId)).filter fun id => id ∉ acknowledged := by
  have returned : subscription.redelivered.waitingIds = subscription.copyIds := by
    simp [redelivered, waitingIds, copyIds, copies]
  have distinct : (acknowledged ++ subscription.copyIds).Nodup := by
    rw [accounts.copyIds_eq, ← List.append_assoc]
    exact accounts.balance.nodup_iff.mpr (sorted.imp String.ne_of_lt)
  have unsettled : (acknowledged ++ subscription.copyIds).filter (fun id => id ∉ acknowledged) =
      subscription.copyIds := by
    rw [List.filter_append, List.filter_eq_nil_iff.mpr (by simp), List.nil_append,
      List.filter_eq_self]
    intro id held
    simpa using fun settled => (List.nodup_append.mp distinct).2.2 id settled id held rfl
  have same : subscription.copyIds.Perm
      ((owed.map (·.messageId)).filter fun id => id ∉ acknowledged) := by
    rw [← unsettled, accounts.copyIds_eq, ← List.append_assoc]
    exact accounts.balance.filter _
  rw [returned]
  exact same.eq_of_pairwise (fun a b _ _ less more => absurd more (String.lt_asymm less)) ordered
    (sorted.filter _)

end Subscription

theorem BrokerTable.get?_redeliver (broker : BrokerTable) (name : String) :
    (broker.redeliver name).2.subscriptions.get? name =
      (broker.subscriptions.get? name).map Subscription.redelivered := by
  cases known : broker.subscriptions.get? name with
  | none => simp only [redeliver, known, Option.map_none]
  | some subscription => simp [redeliver, known, get?_update]

namespace BrokerHistory

theorem owed_append_of_none {name : String} {history : BrokerHistory}
    (unattached : topicOf name history = none) (later : BrokerHistory) :
    owed name (history ++ later) = owed name later := by
  induction history with
  | nil => rfl
  | cons first rest ih =>
    cases shown : first.topicFor? name with
    | none => simpa [owed, shown] using ih (by simpa [topicOf, shown] using unattached)
    | some topic => simp [topicOf, shown] at unattached

-- While identifiers are of one length, a later publication has the greater one.
theorem Numbered.sorted {history : BrokerHistory} {published : Nat}
    (numbered : Numbered history published) (few : published < BrokerTable.idRange) :
    ((publications history).map (·.messageId)).Pairwise (· < ·) := by
  rw [numbered]
  refine List.pairwise_map.mpr (List.Pairwise.imp_of_mem ?_ List.pairwise_lt_range)
  intro m n _ member less
  have bound := List.mem_range.mp member
  exact BrokerTable.messageId_lt (Nat.succ_lt_succ less) (by omega)

end BrokerHistory

namespace BrokerCall

theorem course_ordered (calls : List BrokerCall) (name : String)
    (few : (publications (course calls).1).length < BrokerTable.idRange) :
    ∀ subscription, (course calls).2.broker.store.subscriptions.get? name = some subscription →
      subscription.Ordered := by
  induction calls using List.reverseRecOn with
  | nil => rintro _ ⟨⟩
  | append_singleton calls call ih =>
    have numbered := course_numbered (calls ++ [call])
    rw [course_snoc] at few numbered ⊢
    have before : (publications (course calls).1).length < BrokerTable.idRange := by
      refine Nat.lt_of_le_of_lt ?_ few
      rw [record, publications_snoc, List.length_append]
      exact Nat.le_add_right ..
    refine Subscription.Ordered.moves (call.perform_moves (course calls).2 name)
      (course_accounted calls name) ?_ (ih before)
    intro message published earlier member
    have sorted := numbered.sorted (numbered.length ▸ few)
    rw [record, publications_snoc, published, Option.toList_some, List.map_append] at sorted
    exact (List.pairwise_append.mp sorted).2.2 _ (List.mem_map_of_mem member) _ (by simp)

/-- While fewer publications took place than have identifiers of one length, a subscription hands its
messages out in the order of their publication: whatever was published before the message that is
handed out is acknowledged or in flight. A redelivery queues all that is not acknowledged in that
order. -/
theorem deliveries_in_order (calls : List BrokerCall) (name : String)
    (few : (publications (course calls).1).length < BrokerTable.idRange) :
    let history := (course calls).1
    let received := (receive name).perform (course calls).2
    let redelivered := (redeliver name).perform (course calls).2
    (∀ message, received.1 = .received name (.ok (some message)) →
      ∃ before after left, owed name history = before ++ asPublished message :: after ∧
        received.2.broker.store.subscriptions.get? name = some left ∧
        ∀ earlier ∈ before, earlier.messageId ∉ left.waitingIds ∧
          (earlier.messageId ∈ acknowledgedOn name history ∨
            earlier.messageId ∈ left.inFlightIds)) ∧
    ∀ left, redelivered.2.broker.store.subscriptions.get? name = some left →
      left.waitingIds = ((owed name history).map (·.messageId)).filter fun id =>
        id ∉ acknowledgedOn name history := by
  have numbered := course_numbered calls
  have sorted : ((owed name (course calls).1).map (·.messageId)).Pairwise (· < ·) :=
    (numbered.sorted (numbered.length ▸ few)).sublist ((owed_sublist name _).map _)
  have ordered := course_ordered calls name few
  have accounted := course_accounted calls name
  refine ⟨?_, ?_⟩
  · intro message received
    have owes := received_owed calls received
    obtain ⟨before, after, split⟩ := List.mem_iff_append.mp owes
    have moves := (receive name).perform_moves (course calls).2 name
    rw [received] at moves
    generalize (course calls).2.broker.store.subscriptions.get? name = current at *
    generalize ((receive name).perform (course calls).2).2.broker.store.subscriptions.get? name =
      next at *
    cases moves with
    | handed taken =>
      cases accounted with
      | attached own accounts =>
        refine ⟨before, after, _, split, rfl, fun earlier member => ?_⟩
        refine (ordered _ rfl).first_of accounts taken (split ▸ List.mem_append_left _ member) ?_
        rw [split, List.map_append] at sorted
        exact (List.pairwise_append.mp sorted).2.2 _ (List.mem_map_of_mem member) _
          (by simp [asPublished])
    | aside current unattached unpublished unacknowledged undelivered =>
      simp [BrokerEvent.delivery?] at undelivered
  · intro left reached
    obtain ⟨subscription, known, rfl⟩ :=
      Option.map_eq_some_iff.mp ((BrokerTable.get?_redeliver ..).symm.trans reached)
    rw [known] at accounted
    cases accounted with
    | attached own accounts => exact (ordered _ known).waitingIds_returned accounts sorted

theorem deliveries_in_order_again :
    let publication := publish "orders" [] ∅
    let calls := [subscribe "orders" "billing", publication, publication, publication,
      receive "billing", receive "billing", acknowledge "billing" "msg-00000001",
      redeliver "billing"]
    let second : Message := ⟨"msg-00000002", "orders", [], ∅, 2⟩
    ((receive "billing").perform (course calls).2).1 = .received "billing" (.ok (some second)) ∧
    ∃ before after left, owed "billing" (course calls).1 = before ++ asPublished second :: after ∧
      ((receive "billing").perform (course calls).2).2.broker.store.subscriptions.get? "billing" =
        some left ∧
      ∀ earlier ∈ before, earlier.messageId ∉ left.waitingIds ∧
        (earlier.messageId ∈ acknowledgedOn "billing" (course calls).1 ∨
          earlier.messageId ∈ left.inFlightIds) :=
  ⟨rfl, (deliveries_in_order _ "billing" (by decide +kernel)).1 _ rfl⟩

theorem foldl_record (history : BrokerHistory) (backends : Backends) (calls : List BrokerCall) :
    calls.foldl record (history, backends) =
      (history ++ (calls.foldl record ([], backends)).1, (calls.foldl record ([], backends)).2) := by
  induction calls generalizing history backends with
  | nil => simp
  | cons call calls ih =>
    simp only [List.foldl_cons, record]
    rw [ih, ih ([] ++ _)]
    simp

section
variable (topic : String) (payload : Bytes) (attributes : Dict String) (n : Nat)

-- What publications leave that no subscription is there to receive.
def unheard : Backends := { Backends.empty with broker := .of ⟨∅, n⟩ }

theorem course_replicate_publish :
    (course (List.replicate n (publish topic payload attributes))).2 = unheard n := by
  induction n with
  | zero => rfl
  | succ n ih =>
    rw [List.replicate_succ', course_snoc, record, ih]
    rfl

theorem course_after_publications (calls : List BrokerCall) (name : String) :
    let reached := course (List.replicate n (publish topic payload attributes) ++ calls)
    let later := calls.foldl record ([], unheard n)
    reached.2 = later.2 ∧ owed name reached.1 = owed name later.1 ∧
      acknowledgedOn name reached.1 = acknowledgedOn name later.1 := by
  have accounted := course_accounted (List.replicate n (publish topic payload attributes)) name
  have split : course (List.replicate n (publish topic payload attributes) ++ calls) =
      calls.foldl record (course (List.replicate n (publish topic payload attributes))) :=
    List.foldl_append ..
  rw [split]
  have left := course_replicate_publish topic payload attributes n
  generalize course (List.replicate n (publish topic payload attributes)) = start at *
  rcases start with ⟨history, backends⟩
  obtain rfl : backends = unheard n := left
  rw [foldl_record]
  cases accounted with
  | unattached never nothing =>
    refine ⟨rfl, owed_append_of_none never _, ?_⟩
    rw [acknowledgedOn, List.filterMap_append]
    exact congrArg (· ++ _) nothing

end

theorem longer_identifier_overtakes :
    let publication := publish "orders" [] ∅
    let calls := List.replicate 99999998 publication ++ [subscribe "orders" "billing", publication,
      publication, receive "billing", receive "billing", redeliver "billing"]
    let received := (receive "billing").perform (course calls).2
    let left := received.2.broker.store.subscriptions.get? "billing"
    let first : Message := ⟨"msg-99999999", "orders", [], ∅, 0⟩
    let second : Message := ⟨"msg-100000000", "orders", [], ∅, 0⟩
    owed "billing" (course calls).1 = [first, second] ∧
      received.1.delivery? "billing" = some { second with deliveryAttempt := 2 } ∧
      first.messageId ∉ acknowledgedOn "billing" (course calls).1 ∧
      left.map (·.inFlightIds) = some [second.messageId] ∧
      left.map (·.waitingIds) = some [first.messageId] := by
  intro publication calls received left first second
  obtain ⟨reached, owes, settled⟩ := course_after_publications "orders" [] ∅ 99999998
    [subscribe "orders" "billing", publication, publication, receive "billing", receive "billing",
      redeliver "billing"] "billing"
  -- The many publications are passed over; what comes after them is computed.
  simp only [left, received, calls, publication, -List.reduceReplicate]
  rw [owes, settled, reached]
  decide +kernel

end BrokerCall
end EffectPrograms.Memory
