import EffectPrograms.Proofs.Broker.History
import EffectPrograms.Proofs.Sessions.Lifecycle
import EffectPrograms.Proofs.Work

set_option autoImplicit false

namespace EffectPrograms.Memory
open Transport (Frame)

-- One thing that happens. Effects may be dispatched under several configurations; a receive that
-- waits is asked for again, or given up; the runtime chooses what such a receive takes first.
inductive Happening where
  | dispatch (config : Config) (effect : Effect)
  | askAgain (config : Config) (connection : String) (ticket : Nat)
  | giveUp (connection : String) (ticket : Nat)
  | subscribe (topic name : String)
  | redeliver (name : String)
  | connect
  | clientSend (connection : String) (frame : Frame)
  | clientReceive (connection : String)
  | hangUp (connection : String)
  | dropClient (connection : String)
  | advance (time : Duration)
  | stamp (time : Timestamp)
  | schedule (family : Family) (faults : Faults)
  | choose (framesFirst : Bool)

namespace Happening

-- What comes of the data if the happening is carried out.
def work (happening : Happening) (data : Data) : Data :=
  match happening with
  | dispatch config effect => (data.work config effect).2
  | askAgain _ connection ticket =>
      { data with sessions := (data.sessions.receiveAgain connection ticket).2 }
  | giveUp connection ticket => { data with sessions := data.sessions.abandon connection ticket }
  | subscribe topic name => { data with broker := data.broker.subscribe topic name }
  | redeliver name => { data with broker := (data.broker.redeliver name).2 }
  | connect => { data with sessions := data.sessions.connect.2 }
  | clientSend connection frame =>
      { data with sessions := (data.sessions.clientSend connection frame).2 }
  | clientReceive connection =>
      { data with sessions := (data.sessions.clientReceive connection).2 }
  | hangUp connection => { data with sessions := data.sessions.hangUp connection }
  | dropClient connection => { data with sessions := data.sessions.dropClient connection }
  | advance time => { data with cache := data.cache.advance time }
  | stamp time => { data with objects := { data.objects with time } }
  | schedule _ _ => data
  | choose framesFirst => { data with sessions := { data.sessions with framesFirst } }

-- Effects go through the dispatcher of their configuration, if it gives one.
def perform (happening : Happening) (backends : Backends) : Backends :=
  match happening with
  | dispatch config effect =>
      match Backends.dispatcher config with
      | .ok dispatcher => (dispatcher.interpret effect backends).2
      | .error _ => backends
  | askAgain config connection ticket =>
      match Backends.dispatcher config with
      | .ok dispatcher => (dispatcher.again (.transport (.receive connection)) ticket backends).2
      | .error _ => backends
  | giveUp connection ticket => backends.abandon (.transport (.receive connection)) ticket
  | schedule family faults => backends.withFaults faults family
  | happening => backends.withData (happening.work backends.data)

def issues? (happening : Happening) (data : Data) : Option String :=
  match happening with
  | connect => some data.sessions.connect.1
  | _ => none

def record (reached : List String × Backends) (happening : Happening) : List String × Backends :=
  (reached.1 ++ (happening.issues? reached.2.data).toList, happening.perform reached.2)

def course (happenings : List Happening) : List String × Backends :=
  happenings.foldl record ([], .empty)

theorem course_snoc (happenings : List Happening) (happening : Happening) :
    course (happenings ++ [happening]) = record (course happenings) happening := by
  rw [course, List.foldl_append]
  rfl

-- How the data change: as the happening would have it, but an effect may be refused or struck.
inductive Changes (data : Data) : Happening → Data → Prop where
  | made {happening : Happening}
      (accepted : ∀ config effect, happening = .dispatch config effect →
        config.refusal? effect = none) : Changes data happening (happening.work data)
  | refused (config : Config) (effect : Effect) : Changes data (.dispatch config effect) data
  | unasked (config : Config) (connection : String) (ticket : Nat) :
      Changes data (.askAgain config connection ticket) data

theorem Changes.undispatched {happening : Happening} {data : Data}
    (other : ∀ config effect, happening ≠ .dispatch config effect) :
    Changes data happening (happening.work data) :=
  .made fun config effect same => absurd same (other config effect)

theorem perform_changes (happening : Happening) (backends : Backends) :
    Changes backends.data happening (happening.perform backends).data := by
  cases happening with
  | dispatch config effect =>
    rw [perform]
    split
    · next dispatcher valid =>
      rcases Backends.interpret_data valid effect backends with same | ⟨accepted, worked⟩
      · rw [same]
        exact .refused config effect
      · rw [worked]
        refine .made fun other request same => ?_
        obtain ⟨rfl, rfl⟩ := Happening.dispatch.inj same
        exact accepted
    · exact .refused config effect
  | askAgain config connection ticket =>
    rw [perform]
    split
    · next dispatcher valid =>
      obtain rfl := Backends.dispatcher_eq valid
      exact .undispatched fun _ _ => nofun
    · exact .unasked config connection ticket
  | schedule family faults =>
    rw [perform, Backends.data_withFaults]
    exact .undispatched fun _ _ => nofun
  | giveUp | subscribe | redeliver | connect | clientSend | clientReceive | hangUp | dropClient
  | advance | stamp | choose => exact .undispatched fun _ _ => nofun

end Happening

section Names
variable {name : String}

theorem Subscription.Moves.isSome_iff {current next : Option Subscription} {event : BrokerEvent}
    (moves : Subscription.Moves name current event next) :
    next.isSome = true ↔ current.isSome = true ∨ event.topicFor? name ≠ none := by
  cases moves with
  | attached topic => simp [BrokerEvent.topicFor?]
  | offered current topic payload attributes delivery => simp [BrokerEvent.topicFor?]
  | handed | settled | returned => simp
  | aside _ unattached =>
    rcases unattached with unattached | attached
    · simp [unattached]
    · simp [Option.isSome_iff_ne_none.mpr attached]

theorem BrokerTable.contains_subscribe (broker : BrokerTable) (topic other : String) :
    (broker.subscribe topic other).subscriptions.contains name = true ↔
      broker.subscriptions.contains name = true ∨ other = name := by
  refine (broker.subscribe_moves name topic other).isSome_iff.trans ?_
  simp [Dict.contains, BrokerEvent.topicFor?]

theorem BrokerTable.contains_redeliver (broker : BrokerTable) (other : String) :
    (broker.redeliver other).2.subscriptions.contains name = true ↔
      broker.subscriptions.contains name = true := by
  refine (broker.redeliver_moves name other).isSome_iff.trans ?_
  simp [Dict.contains, BrokerEvent.topicFor?]

theorem BrokerTable.contains_work (broker : BrokerTable) (request : Messaging.Request) :
    (broker.work request).2.subscriptions.contains name = true ↔
      broker.subscriptions.contains name = true := by
  cases request with
  | publish topic payload attributes =>
    refine (broker.publish_moves name topic payload attributes).isSome_iff.trans ?_
    simp [Dict.contains, BrokerEvent.topicFor?]
  | receive subscription =>
    refine (broker.receive_moves name subscription).isSome_iff.trans ?_
    simp [Dict.contains, BrokerEvent.topicFor?]
  | acknowledge subscription messageId =>
    refine (broker.acknowledge_moves name subscription messageId).isSome_iff.trans ?_
    simp [Dict.contains, BrokerEvent.topicFor?]

theorem SessionTable.contains_work (sessions : SessionTable) (request : Transport.Request) :
    (sessions.work request).2.connections.contains name =
      sessions.connections.contains name := by
  cases request with
  | send connection frame => exact (sessions.send_steps connection frame).names name
  | receive connection => exact (sessions.receive_steps connection).names name
  | close connection code reason =>
    exact (sessions.close_steps connection code reason).names name

theorem SessionTable.contains_connect (sessions : SessionTable) :
    sessions.connect.2.connections.contains name = true ↔
      sessions.connections.contains name = true ∨ sessions.connect.1 = name := by
  rw [Dict.contains, get?_connect]
  by_cases own : name = sessions.connect.1
  · simp [own]
  · simp [own, Ne.symm own, Dict.contains]

end Names

namespace Happening
variable {happening : Happening} {data left : Data} {name : String}

theorem contains_subscriptions (changes : Changes data happening left) :
    left.broker.subscriptions.contains name = true ↔
      data.broker.subscriptions.contains name = true ∨
        ∃ topic, happening = .subscribe topic name := by
  have idle {happening : Happening} {left : Data}
      (unattached : ∀ topic, happening ≠ .subscribe topic name)
      (kept : left.broker.subscriptions.contains name = true ↔
        data.broker.subscriptions.contains name = true) :
      left.broker.subscriptions.contains name = true ↔
        data.broker.subscriptions.contains name = true ∨
          ∃ topic, happening = .subscribe topic name := by
    simp [kept, unattached]
  have aside {happening : Happening} {left : Data}
      (unattached : ∀ topic, happening ≠ .subscribe topic name)
      (same : left.broker = data.broker) := idle unattached (by rw [same])
  cases changes with
  | refused | unasked => exact aside nofun rfl
  | made =>
    cases happening with
    | subscribe topic other =>
      refine (data.broker.contains_subscribe topic other).trans (or_congr_right ?_)
      simp
    | redeliver other => exact idle nofun (data.broker.contains_redeliver other)
    | dispatch config effect =>
      cases effect with
      | messaging request => exact idle nofun (data.broker.contains_work request)
      | storage | object | cache | transport => exact aside nofun rfl
    | askAgain | giveUp | connect | clientSend | clientReceive | hangUp | dropClient | advance
    | stamp | schedule | choose => exact aside nofun (by rw [work])

theorem contains_connections (changes : Changes data happening left) :
    left.sessions.connections.contains name = true ↔
      data.sessions.connections.contains name = true ∨ happening.issues? data = some name := by
  have idle {happening : Happening} {left : Data} (unissued : happening.issues? data = none)
      (kept : left.sessions.connections.contains name =
        data.sessions.connections.contains name) :
      left.sessions.connections.contains name = true ↔
        data.sessions.connections.contains name = true ∨
          happening.issues? data = some name := by
    simp [kept, unissued]
  have aside {happening : Happening} {left : Data} (unissued : happening.issues? data = none)
      (same : left.sessions = data.sessions) := idle unissued (by rw [same])
  cases changes with
  | refused | unasked => exact aside rfl rfl
  | made =>
    cases happening with
    | connect =>
      refine data.sessions.contains_connect.trans (or_congr_right ?_)
      simp [issues?]
    | dispatch config effect =>
      cases effect with
      | transport request => exact idle rfl (data.sessions.contains_work request)
      | storage | object | cache | messaging => exact aside rfl rfl
    | askAgain config connection ticket =>
      exact idle rfl ((data.sessions.receiveAgain_steps connection ticket).names name)
    | giveUp connection ticket =>
      exact idle rfl ((data.sessions.abandon_steps connection ticket).names name)
    | clientSend connection frame =>
      exact idle rfl ((data.sessions.clientSend_steps connection frame).names name)
    | clientReceive connection =>
      exact idle rfl ((data.sessions.clientReceive_steps connection).names name)
    | hangUp connection => exact idle rfl ((data.sessions.hangUp_steps connection).names name)
    | dropClient connection => exact idle rfl (data.sessions.contains_dropClient connection)
    | choose framesFirst => exact idle rfl rfl
    | subscribe | redeliver | advance | stamp | schedule => exact aside rfl (by rw [work])

-- What is known of subscriptions and connections, against all that has happened.
structure Recalls (happenings : List Happening) (issued : List String) (data : Data) : Prop where
  subscribed : ∀ name, data.broker.subscriptions.contains name = true ↔
    ∃ topic, .subscribe topic name ∈ happenings
  connected : ∀ id, data.sessions.connections.contains id = true ↔ id ∈ issued

theorem course_recalls (happenings : List Happening) :
    Recalls happenings (course happenings).1 (course happenings).2.data := by
  induction happenings using List.reverseRecOn with
  | nil =>
    refine ⟨fun name => ?_, fun id => ?_⟩
    · exact ⟨nofun, fun ⟨_, attached⟩ => nomatch attached⟩
    · exact ⟨nofun, nofun⟩
  | append_singleton happenings happening ih =>
    rw [course_snoc]
    have changes := happening.perform_changes (course happenings).2
    refine ⟨fun name => ?_, fun id => ?_⟩
    · refine (contains_subscriptions changes).trans ?_
      rw [ih.subscribed]
      simp [exists_or, eq_comm]
    · refine (contains_connections changes).trans ?_
      rw [ih.connected, record, List.mem_append, Option.mem_toList]

theorem perform_faultsOf {backends : Backends}
    (quiet : ∀ family, (backends.faultsOf family).Quiet)
    (unscheduled : ∀ family faults, happening ≠ .schedule family faults) (family : Family) :
    (happening.perform backends).faultsOf family = backends.faultsOf family := by
  cases happening with
  | schedule other faults => exact absurd rfl (unscheduled other faults)
  | dispatch config effect =>
    rw [perform]
    split
    · next dispatcher valid =>
      cases refused : config.refusal? effect with
      | some refusal => rw [Backends.interpret_refused valid refused]
      | none => rw [Backends.interpret_quiet valid refused (quiet _), Backends.faultsOf_withData]
    · rfl
  | askAgain config connection ticket =>
    rw [perform]
    split
    · next dispatcher valid =>
      obtain rfl := Backends.dispatcher_eq valid
      cases family <;> rfl
    · rfl
  | giveUp connection ticket => cases family <;> rfl
  | subscribe | redeliver | connect | clientSend | clientReceive | hangUp | dropClient | advance
  | stamp | choose => exact Backends.faultsOf_withData ..

theorem course_quiet {happenings : List Happening}
    (unscheduled : ∀ family faults, .schedule family faults ∉ happenings) (family : Family) :
    ((course happenings).2.faultsOf family).Quiet := by
  induction happenings using List.reverseRecOn generalizing family with
  | nil => cases family <;> exact Faults.quiet_empty
  | append_singleton happenings happening ih =>
    have before : ∀ family faults, .schedule family faults ∉ happenings := by
      intro family faults earlier
      exact unscheduled family faults (List.mem_append_left _ earlier)
    have aside : ∀ family faults, happening ≠ .schedule family faults := by
      rintro family faults rfl
      exact unscheduled family faults (by simp)
    rw [course_snoc, record, perform_faultsOf (ih before) aside]
    exact ih before family

end Happening
end EffectPrograms.Memory
