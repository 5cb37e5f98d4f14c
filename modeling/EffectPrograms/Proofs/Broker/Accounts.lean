import EffectPrograms.Proofs.Broker.History
import Mathlib.Data.Set.Card

set_option autoImplicit false

namespace EffectPrograms.Memory
open Messaging (Delivery Message)
open BrokerHistory

theorem Dict.size_filter {β : Type} (dict : Dict β) (keep : β → Bool) :
    (dict.filter keep).size =
      Set.ncard {name | ∃ value, dict.get? name = some value ∧ keep value = true} := by
  have nodup := (dict.filter keep).names_nodup
  have names : {name | ∃ value, dict.get? name = some value ∧ keep value = true} =
      ((dict.filter keep).entries.map Prod.fst).toFinset := by
    ext name
    simp [Dict.filter, Dict.mem_entries_iff]
  rw [names, Set.ncard_coe_finset, List.toFinset_card_of_nodup nodup, List.length_map, Dict.size]

-- A copy of a message as it was published.
def asPublished (message : Message) : Message := { message with deliveryAttempt := 0 }

namespace Subscription

def waitingIds (subscription : Subscription) : List String :=
  subscription.ready.toList.map (·.messageId)

def inFlightIds (subscription : Subscription) : List String :=
  subscription.inFlight.entries.map Prod.fst

def copies (subscription : Subscription) : List Message :=
  subscription.inFlight.values ++ subscription.ready.toList

theorem mem_copies (subscription : Subscription) (copy : Message) :
    copy ∈ subscription.copies ↔
      (∃ id, subscription.inFlight.get? id = some copy) ∨ copy ∈ subscription.ready.toList := by
  simp [copies, Dict.values, Dict.mem_entries_iff]

theorem copies_push (subscription : Subscription) (message : Message) :
    copies { subscription with ready := subscription.ready.push message } =
      subscription.copies ++ [message] := by
  simp [copies]

theorem copies_redelivered (subscription : Subscription) :
    subscription.redelivered.copies = subscription.copies := by
  simp [redelivered, copies]

-- Every message owed stands in one of three places, once, and every copy is genuine.
structure Accounts (subscription : Subscription) (owed : List Message)
    (acknowledged : List String) : Prop where
  keyed : ∀ id copy, subscription.inFlight.get? id = some copy → copy.messageId = id
  balance : (acknowledged ++ subscription.inFlightIds ++ subscription.waitingIds).Perm
    (owed.map (·.messageId))
  genuine : ∀ copy ∈ subscription.copies, asPublished copy ∈ owed

variable {subscription left : Subscription} {message : Message} {owed : List Message}
  {acknowledged : List String}

theorem Accounts.inFlightIds_eq (accounts : subscription.Accounts owed acknowledged) :
    subscription.inFlight.values.map (·.messageId) = subscription.inFlightIds := by
  rw [Dict.values, List.map_map, inFlightIds]
  refine List.map_congr_left fun entry member => ?_
  exact accounts.keyed entry.1 entry.2 ((Dict.mem_entries_iff ..).mp member)

theorem accounts_attached (topic : String) : Accounts ⟨topic, #[], ∅⟩ [] [] :=
  ⟨by rintro _ _ ⟨⟩, .refl _, by rintro _ ⟨⟩⟩

theorem Accounts.offered (accounts : subscription.Accounts owed acknowledged)
    (fresh : asPublished message = message) :
    (subscription.offer message).Accounts
      (owed ++ [message].filter fun message => message.topic == subscription.topic)
      acknowledged := by
  by_cases own : subscription.topic = message.topic
  · have kept : ([message].filter fun message => message.topic == subscription.topic) =
        [message] := by
      simp [own]
    rw [kept, offer, if_pos own]
    refine ⟨accounts.keyed, ?_, ?_⟩
    · simpa [waitingIds, inFlightIds] using accounts.balance.append_right [message.messageId]
    · intro copy member
      rw [copies_push, List.mem_append, List.mem_singleton] at member
      rcases member with held | rfl
      · exact List.mem_append_left _ (accounts.genuine copy held)
      · exact List.mem_append_right _ (by simp [fresh])
  · have dropped : ([message].filter fun message => message.topic == subscription.topic) = [] := by
      simp [Ne.symm own]
    rw [dropped, offer, if_neg own, List.append_nil]
    exact accounts

theorem take?_eq_some (taken : subscription.take? = some (message, left)) :
    ∃ first, subscription.ready.toList = first :: left.ready.toList ∧
      message = { first with deliveryAttempt := first.deliveryAttempt + 1 } ∧
      left.topic = subscription.topic ∧
      left.inFlight = subscription.inFlight.insert message.messageId message := by
  rw [take?] at taken
  rcases shown : subscription.ready.toList with _ | ⟨first, rest⟩
  · have empty : subscription.ready[0]? = none := by simp [← Array.getElem?_toList, shown]
    simp [empty] at taken
  · have head : subscription.ready[0]? = some first := by simp [← Array.getElem?_toList, shown]
    rw [head] at taken
    obtain ⟨rfl, rfl⟩ := Prod.mk.inj (Option.some.inj taken)
    have tail : (subscription.ready.extract 1).toList = rest := by
      rw [Array.toList_extract, shown]
      simp [← Array.length_toList, shown]
    exact ⟨first, by rw [tail], rfl, rfl, rfl⟩

theorem Accounts.first_apart (accounts : subscription.Accounts owed acknowledged)
    (distinct : (owed.map (·.messageId)).Nodup) {first : Message} {rest : List Message}
    (ready : subscription.ready.toList = first :: rest) :
    first.messageId ∉ acknowledged ∧ first.messageId ∉ subscription.inFlightIds ∧
      first.messageId ∉ rest.map (·.messageId) := by
  have once := accounts.balance.nodup_iff.mpr distinct
  rw [waitingIds, ready, List.map_cons] at once
  obtain ⟨-, waits, apart⟩ := List.nodup_append.mp once
  refine ⟨fun settled => ?_, fun flying => ?_, (List.nodup_cons.mp waits).1⟩
  · exact apart _ (List.mem_append_left _ settled) _ List.mem_cons_self rfl
  · exact apart _ (List.mem_append_right _ flying) _ List.mem_cons_self rfl

theorem Accounts.handed (accounts : subscription.Accounts owed acknowledged)
    (distinct : (owed.map (·.messageId)).Nodup)
    (taken : subscription.take? = some (message, left)) : left.Accounts owed acknowledged := by
  obtain ⟨first, ready, rfl, -, inFlight⟩ := take?_eq_some taken
  have waiting : subscription.waitingIds = first.messageId :: left.waitingIds := by
    simp [waitingIds, ready]
  obtain ⟨-, absent, -⟩ := accounts.first_apart distinct ready
  have entries := Dict.perm_entries_insert ((Dict.get?_eq_none_iff ..).mpr absent)
    { first with deliveryAttempt := first.deliveryAttempt + 1 }
  refine ⟨?_, ?_, ?_⟩
  · intro id copy found
    rw [inFlight, Dict.get?_insert] at found
    split at found
    · next same => exact same ▸ (Option.some.inj found) ▸ rfl
    · exact accounts.keyed id copy found
  · have ids : left.inFlightIds.Perm (first.messageId :: subscription.inFlightIds) := by
      rw [inFlightIds, inFlight]
      exact entries.map Prod.fst
    refine List.Perm.trans ?_ accounts.balance
    rw [waiting]
    refine ((ids.append_left acknowledged).append_right _).trans ?_
    simpa using List.perm_middle.symm.append_left acknowledged
  · intro copy member
    rcases (mem_copies ..).mp member with ⟨id, found⟩ | waits
    · rw [inFlight, Dict.get?_insert] at found
      split at found
      · obtain rfl := Option.some.inj found
        exact accounts.genuine first ((mem_copies ..).mpr (.inr (by simp [ready])))
      · exact accounts.genuine copy ((mem_copies ..).mpr (.inl ⟨id, found⟩))
    · exact accounts.genuine copy ((mem_copies ..).mpr (.inr (by simp [ready, waits])))

theorem Accounts.settled (accounts : subscription.Accounts owed acknowledged) (messageId : String) :
    Accounts { subscription with inFlight := subscription.inFlight.erase messageId } owed
      (acknowledged ++ if subscription.inFlight.contains messageId then [messageId] else []) := by
  cases found : subscription.inFlight.get? messageId with
  | none =>
    have absent : subscription.inFlight.contains messageId = false := by
      rw [Dict.contains, found]
      rfl
    simpa [Dict.erase_of_absent found, absent] using accounts
  | some copy =>
    have present : subscription.inFlight.contains messageId = true := by
      rw [Dict.contains, found]
      rfl
    have entries := Dict.perm_entries_erase found
    refine ⟨?_, ?_, ?_⟩
    · exact fun id other kept => accounts.keyed id other (Dict.get?_of_get?_erase kept)
    · refine List.Perm.trans ?_ accounts.balance
      rw [present, if_pos rfl]
      refine List.Perm.append_right _ ?_
      rw [List.append_assoc]
      exact ((entries.map Prod.fst).symm).append_left acknowledged
    · intro other member
      rcases (mem_copies ..).mp member with ⟨id, kept⟩ | waits
      · exact accounts.genuine other
          ((mem_copies ..).mpr (.inl ⟨id, Dict.get?_of_get?_erase kept⟩))
      · exact accounts.genuine other ((mem_copies ..).mpr (.inr waits))

theorem Accounts.returned (accounts : subscription.Accounts owed acknowledged) :
    subscription.redelivered.Accounts owed acknowledged := by
  have ids : subscription.redelivered.waitingIds =
      subscription.inFlightIds ++ subscription.waitingIds := by
    simp [redelivered, waitingIds, ← accounts.inFlightIds_eq]
  refine ⟨by rintro _ _ ⟨⟩, ?_, ?_⟩
  · rw [ids]
    simpa [redelivered, inFlightIds] using accounts.balance
  · rw [copies_redelivered]
    exact accounts.genuine

theorem offer_topic (message : Message) (subscription : Subscription) :
    (subscription.offer message).topic = subscription.topic := by
  rw [offer]
  split <;> rfl

end Subscription

namespace BrokerHistory

-- The publications are numbered from one on, in their order.
def Numbered (history : BrokerHistory) (published : Nat) : Prop :=
  (publications history).map (·.messageId) =
    (List.range published).map fun n => BrokerTable.messageId (n + 1)

theorem Numbered.nodup {history : BrokerHistory} {published : Nat}
    (numbered : Numbered history published) :
    ((publications history).map (·.messageId)).Nodup := by
  rw [numbered]
  exact List.nodup_range.map fun _ _ same => Nat.succ.inj (BrokerTable.messageId_injective same)

theorem Numbered.length {history : BrokerHistory} {published : Nat}
    (numbered : Numbered history published) : (publications history).length = published := by
  simpa using congrArg List.length numbered

theorem Numbered.counts {history : BrokerHistory} {broker left : BrokerTable} {event : BrokerEvent}
    (numbered : Numbered history broker.published) (counts : broker.Counts event left) :
    Numbered (history ++ [event]) left.published := by
  cases counts with
  | drawn message published fresh next =>
    simp only [Numbered] at numbered ⊢
    simp [publications_snoc, published, fresh, next, numbered, List.range_succ]
  | kept unpublished same =>
    simpa [Numbered, publications_snoc, unpublished, same] using numbered

-- What the history says of a subscription, against what the broker holds of it.
inductive Accounted (name : String) (history : BrokerHistory) : Option Subscription → Prop where
  | unattached (never : topicOf name history = none) (nothing : acknowledgedOn name history = []) :
      Accounted name history none
  | attached {subscription : Subscription} (topic : topicOf name history = some subscription.topic)
      (accounts : subscription.Accounts (owed name history) (acknowledgedOn name history)) :
      Accounted name history (some subscription)

variable {name : String} {history : BrokerHistory} {event : BrokerEvent}

theorem Accounted.topicOf_eq {current : Option Subscription}
    (accounted : Accounted name history current) :
    topicOf name history = current.map (·.topic) := by
  cases accounted with
  | unattached never nothing => exact never
  | attached topic accounts => exact topic

theorem Accounted.snoc {subscription left : Subscription}
    (topic : topicOf name history = some subscription.topic) (same : left.topic = subscription.topic)
    (accounts : left.Accounts
      (owed name history ++
        event.publication?.toList.filter fun message => message.topic == subscription.topic)
      (acknowledgedOn name history ++ (event.acknowledgment? name).toList)) :
    Accounted name (history ++ [event]) (some left) := by
  refine .attached ?_ ?_
  · rw [topicOf_snoc, topic, same]
    rfl
  · rwa [owed_snoc_of_some topic, acknowledgedOn_snoc]

theorem acknowledgment?_own (name messageId : String) (flag : Bool) :
    ((BrokerEvent.acknowledged name messageId (.ok flag)).acknowledgment? name).toList =
      if flag then [messageId] else [] := by
  cases flag <;> simp [BrokerEvent.acknowledgment?]

theorem Accounted.moves {current next : Option Subscription}
    (accounted : Accounted name history current)
    (distinct : ((publications history).map (·.messageId)).Nodup)
    (moves : Subscription.Moves name current event next) :
    Accounted name (history ++ [event]) next := by
  have owedDistinct : ((owed name history).map (·.messageId)).Nodup :=
    ((owed_sublist name history).map _).nodup distinct
  cases moves with
  | attached topic =>
    cases accounted with
    | unattached never nothing =>
      refine .attached ?_ ?_
      · simp [topicOf_snoc, never, BrokerEvent.topicFor?]
      · rw [owed_snoc_of_none never, acknowledgedOn_snoc, nothing]
        exact Subscription.accounts_attached topic
  | offered current topic payload attributes delivery =>
    cases accounted with
    | unattached never nothing =>
      refine .unattached ?_ ?_
      · rw [topicOf_snoc, never]
        rfl
      · rw [acknowledgedOn_snoc, nothing]
        rfl
    | attached own accounts =>
      refine .snoc own (Subscription.offer_topic ..) ?_
      simp only [BrokerEvent.publication?, BrokerEvent.acknowledgment?, Option.toList_none,
        Option.toList_some, List.append_nil]
      exact accounts.offered rfl
  | handed taken =>
    cases accounted with
    | attached own accounts =>
      obtain ⟨-, -, -, same, -⟩ := Subscription.take?_eq_some taken
      refine .snoc own same ?_
      simpa [BrokerEvent.publication?, BrokerEvent.acknowledgment?] using
        accounts.handed owedDistinct taken
  | settled subscription messageId =>
    cases accounted with
    | attached own accounts =>
      refine .snoc own rfl ?_
      rw [acknowledgment?_own]
      simpa [BrokerEvent.publication?] using accounts.settled messageId
  | returned subscription =>
    cases accounted with
    | attached own accounts =>
      refine .snoc own rfl ?_
      simpa [BrokerEvent.publication?, BrokerEvent.acknowledgment?] using accounts.returned
  | aside current unattached unpublished unacknowledged undelivered =>
    cases accounted with
    | unattached never nothing =>
      have idle : event.topicFor? name = none := unattached.resolve_right (by simp)
      refine .unattached ?_ ?_
      · rw [topicOf_snoc, never, idle]
        rfl
      · rw [acknowledgedOn_snoc, nothing, unacknowledged]
        rfl
    | attached own accounts =>
      refine .snoc own rfl ?_
      simpa [unpublished, unacknowledged] using accounts

end BrokerHistory

namespace BrokerCall

theorem course_numbered (calls : List BrokerCall) :
    Numbered (course calls).1 (course calls).2.broker.store.published :=
  course_keeps (motive := fun history backends => Numbered history backends.broker.store.published)
    rfl (fun _ backends call numbered => numbered.counts (call.perform_counts backends)) calls

theorem course_accounted (calls : List BrokerCall) (name : String) :
    Accounted name (course calls).1 ((course calls).2.broker.store.subscriptions.get? name) := by
  refine (course_keeps (motive := fun history backends =>
    Numbered history backends.broker.store.published ∧
      Accounted name history (backends.broker.store.subscriptions.get? name)) ⟨rfl, ?_⟩ ?_ calls).2
  · exact .unattached rfl rfl
  · intro history backends call ⟨numbered, accounted⟩
    exact ⟨numbered.counts (call.perform_counts backends),
      accounted.moves numbered.nodup (call.perform_moves backends name)⟩

section
variable (calls : List BrokerCall)

theorem course_fanout (topic : String) :
    ((course calls).2.broker.store.subscriptions.filter fun subscription =>
      subscription.topic == topic).size =
        {name | topicOf name (course calls).1 = some topic}.ncard := by
  rw [Dict.size_filter]
  congr 1
  ext name
  simp [(course_accounted calls name).topicOf_eq, Option.map_eq_some_iff]

theorem publish_answer (topic : String) (payload : Bytes) (attributes : Dict String) :
    ((publish topic payload attributes).perform (course calls).2).1 =
      .published topic payload attributes
        (match ((course calls).2.broker.faults.check "publish").1 with
        | some failure => .error failure
        | none =>
            .ok ⟨topic, BrokerTable.messageId ((publications (course calls).1).length + 1),
              {name | topicOf name (course calls).1 = some topic}.ncard⟩) := by
  rw [(course_numbered calls).length, ← course_fanout]
  exact congrArg (BrokerEvent.published topic payload attributes) (Faulty.call_answer ..)

theorem acknowledge_answer (name messageId : String) :
    ((acknowledge name messageId).perform (course calls).2).1 =
      .acknowledged name messageId
        (match ((course calls).2.broker.faults.check "acknowledge").1 with
        | some failure => .error failure
        | none =>
            match (course calls).2.broker.store.subscriptions.get? name with
            | none => .error (BrokerTable.unknownSubscription name)
            | some subscription => .ok (decide (messageId ∈ subscription.inFlightIds))) := by
  refine congrArg (BrokerEvent.acknowledged name messageId) ((Faulty.call_answer ..).trans ?_)
  rw [Faults.unlessStruck]
  cases ((course calls).2.broker.faults.check "acknowledge").1 with
  | some failure => rfl
  | none =>
    cases known : (course calls).2.broker.store.subscriptions.get? name with
    | none => simp only [BrokerTable.acknowledge, known]
    | some subscription =>
      have same : subscription.inFlight.contains messageId =
          decide (messageId ∈ subscription.inFlightIds) :=
        Bool.eq_iff_iff.mpr ((Dict.mem_names_iff ..).symm.trans decide_eq_true_iff.symm)
      simp only [BrokerTable.acknowledge, known, same]

theorem received_owed {call : BrokerCall} {name : String} {message : Message}
    (received : (call.perform (course calls).2).1 = .received name (.ok (some message))) :
    asPublished message ∈ owed name (course calls).1 := by
  have moves := call.perform_moves (course calls).2 name
  have accounted := course_accounted calls name
  rw [received] at moves
  obtain ⟨subscription, left, known, -, taken⟩ := moves.of_received
  rw [known] at accounted
  cases accounted with
  | attached own accounts =>
    obtain ⟨first, ready, rfl, -, -⟩ := Subscription.take?_eq_some taken
    exact accounts.genuine first ((Subscription.mem_copies ..).mpr (.inr (by simp [ready])))

end

/-- After any calls, with any failures scheduled in between, what a subscription is owed is
acknowledged, in flight or waiting: each message in one place, once, as it was published. No two
publications share an identifier, a publication reaches the subscriptions attached to its topic,
and an acknowledgment succeeds for what is in flight and for nothing else. -/
theorem message_accounts (calls : List BrokerCall) :
    let history := (course calls).1
    let broker := (course calls).2.broker
    ((publications history).map (·.messageId)).Nodup ∧
    (∀ name topic, topicOf name history = some topic →
      ∃ subscription, broker.store.subscriptions.get? name = some subscription ∧
        subscription.topic = topic ∧
        (acknowledgedOn name history ++ subscription.inFlightIds ++ subscription.waitingIds).Nodup ∧
        (∀ id, id ∈ acknowledgedOn name history ++ subscription.inFlightIds ++
            subscription.waitingIds ↔ ∃ message ∈ owed name history, message.messageId = id) ∧
        (∀ id copy, subscription.inFlight.get? id = some copy → copy.messageId = id) ∧
        ∀ copy ∈ subscription.copies, asPublished copy ∈ owed name history) ∧
    (∀ name, topicOf name history = none →
      broker.store.subscriptions.get? name = none ∧ acknowledgedOn name history = []) ∧
    (∀ topic payload attributes,
      ((publish topic payload attributes).perform (course calls).2).1 =
        .published topic payload attributes
          (match (broker.faults.check "publish").1 with
          | some failure => .error failure
          | none =>
              .ok ⟨topic, BrokerTable.messageId ((publications history).length + 1),
                {name | topicOf name history = some topic}.ncard⟩)) ∧
    (∀ name message,
      ((receive name).perform (course calls).2).1 = .received name (.ok (some message)) →
        asPublished message ∈ owed name history) ∧
    ∀ name messageId,
      ((acknowledge name messageId).perform (course calls).2).1 =
        .acknowledged name messageId
          (match (broker.faults.check "acknowledge").1 with
          | some failure => .error failure
          | none =>
              match broker.store.subscriptions.get? name with
              | none => .error (BrokerTable.unknownSubscription name)
              | some subscription => .ok (decide (messageId ∈ subscription.inFlightIds))) := by
  have distinct := (course_numbered calls).nodup
  refine ⟨distinct, ?_, ?_, publish_answer calls, fun _ _ => received_owed calls,
    acknowledge_answer calls⟩
  · intro name topic attached
    have accounted := course_accounted calls name
    rw [accounted.topicOf_eq] at attached
    obtain ⟨subscription, known, rfl⟩ := Option.map_eq_some_iff.mp attached
    rw [known] at accounted
    cases accounted with
    | attached own accounts =>
      have owedDistinct := ((owed_sublist name (course calls).1).map (·.messageId)).nodup distinct
      refine ⟨subscription, known, rfl, accounts.balance.nodup_iff.mpr owedDistinct, fun id => ?_,
        accounts.keyed, accounts.genuine⟩
      rw [accounts.balance.mem_iff, List.mem_map]
  · intro name never
    have accounted := course_accounted calls name
    rw [accounted.topicOf_eq, Option.map_eq_none_iff] at never
    rw [never] at accounted
    cases accounted with
    | unattached _ nothing => exact ⟨never, nothing⟩

end BrokerCall
end EffectPrograms.Memory
