import EffectPrograms.Proofs.FailedEffect
import EffectPrograms.Proofs.Sessions.Frames
import Mathlib.Data.List.Nodup

set_option autoImplicit false

namespace EffectPrograms.Memory
open Transport (Frame SendStatus Incoming CloseStatus)

-- What is done with sessions: they are called, or a client lets go of its end.
inductive SessionUse where
  | call (made : SessionCall)
  | drop (id : String)

namespace SessionUse

def session? : SessionUse → Option String
  | call made => made.session?
  | drop id => some id

def perform (use : SessionUse) (backends : Backends) : Option SessionEvent × Backends :=
  match use with
  | call made =>
      let (event, left) := made.perform backends
      (some event, left)
  | drop id =>
      let store := backends.sessions.store.dropClient id
      (none, { backends with sessions := { backends.sessions with store } })

def record (reached : SessionHistory × Backends) (use : SessionUse) : SessionHistory × Backends :=
  (reached.1 ++ (use.perform reached.2).1.toList, (use.perform reached.2).2)

def course (uses : List SessionUse) : SessionHistory × Backends := uses.foldl record ([], .empty)

end SessionUse

namespace SessionEvent

def opening? : SessionEvent → Option String
  | connected id => some id
  | _ => none

-- The session that a close has ended, with the code and the reason.
def ending? : SessionEvent → Option (String × CloseFrame)
  | closed id code reason (.ok .closed) => some (id, ⟨code, reason⟩)
  | _ => none

def endingOf? (id : String) (event : SessionEvent) : Option CloseFrame :=
  (event.ending?.filter fun ending => ending.1 = id).map Prod.snd

theorem endingOf?_eq_some {event : SessionEvent} {id : String} {frame : CloseFrame} :
    event.endingOf? id = some frame ↔
      event = .closed id frame.code frame.reason (.ok .closed) := by
  constructor
  · intro ended
    unfold endingOf? ending? at ended
    split at ended
    · next other code reason =>
      obtain ⟨rfl, rfl⟩ : other = id ∧ (⟨code, reason⟩ : CloseFrame) = frame := by
        simpa [Option.filter_some, Option.ite_none_right_eq_some] using ended
      rfl
    · cases ended
  · rintro rfl
    simp [endingOf?, ending?]

def failure? : SessionEvent → Option BackendError
  | sent _ _ (.error failure) | received _ (.ready (.error failure))
  | askedAgain _ _ (.ready (.error failure)) | closed _ _ _ (.error failure) => some failure
  | _ => none

theorem error_of_sent {id : String} {frame : Frame} {answer : Backed SendStatus}
    {failure : BackendError} (failed : (sent id frame answer).failure? = some failure) :
    answer = .error failure := by
  cases answer with
  | error other => exact congrArg _ (Option.some.inj failed)
  | ok status => cases failed

theorem error_of_received {id : String} {answer : Poll (Backed Incoming)} {failure : BackendError}
    (failed : (received id answer).failure? = some failure) :
    answer = .ready (.error failure) := by
  rcases answer with (other | incoming) | ticket
  · exact congrArg _ (congrArg _ (Option.some.inj failed))
  · cases failed
  · cases failed

theorem error_of_askedAgain {id : String} {ticket : Nat} {answer : Poll (Backed Incoming)}
    {failure : BackendError} (failed : (askedAgain id ticket answer).failure? = some failure) :
    answer = .ready (.error failure) := by
  rcases answer with (other | incoming) | ticket
  · exact congrArg _ (congrArg _ (Option.some.inj failed))
  · cases failed
  · cases failed

theorem error_of_closed {id : String} {code : Nat} {reason : String} {answer : Backed CloseStatus}
    {failure : BackendError} (failed : (closed id code reason answer).failure? = some failure) :
    answer = .error failure := by
  cases answer with
  | error other => exact congrArg _ (Option.some.inj failed)
  | ok status => cases failed

end SessionEvent

namespace SessionHistory

def opened (history : SessionHistory) : List String := history.filterMap SessionEvent.opening?

def endings (history : SessionHistory) : List (String × CloseFrame) :=
  history.filterMap SessionEvent.ending?

-- How a session was ended, each time it was.
def endingsOf (id : String) (history : SessionHistory) : List CloseFrame :=
  (history.endings.filter fun ending => ending.1 = id).map Prod.snd

theorem opened_snoc (history : SessionHistory) (event : SessionEvent) :
    opened (history ++ [event]) = opened history ++ event.opening?.toList := by
  rw [opened, List.filterMap_append]
  cases opening : event.opening? <;> simp [opened, opening]

theorem endingsOf_snoc (id : String) (history : SessionHistory) (event : SessionEvent) :
    endingsOf id (history ++ [event]) = endingsOf id history ++ (event.endingOf? id).toList := by
  rw [endingsOf, endings, List.filterMap_append, List.filter_append, List.map_append, endingsOf,
    endings, SessionEvent.endingOf?]
  congr 1
  cases shown : event.ending? with
  | none => simp [shown]
  | some ending => by_cases own : ending.1 = id <;> simp [shown, own, Option.filter_some]

theorem count_endings (history : SessionHistory) (id : String) :
    (history.endings.map Prod.fst).count id = (history.endingsOf id).length := by
  rw [List.count_eq_countP, List.countP_map, List.countP_eq_length_filter, endingsOf,
    List.length_map]
  rfl

end SessionHistory

namespace SessionTable
variable (sessions : SessionTable) (id : String)

def Open : Prop :=
  ∃ connection, sessions.connections.get? id = some connection ∧ connection.isClosed = false

def Ended : Prop :=
  ∃ connection, sessions.connections.get? id = some connection ∧ connection.isClosed = true

def openNames : List String :=
  (sessions.connections.filter fun connection => !connection.isClosed).entries.map Prod.fst

theorem mem_openNames : id ∈ sessions.openNames ↔ sessions.Open id := by
  rw [openNames, Dict.mem_names_iff, Dict.contains, Dict.get?_filter, Option.isSome_iff_exists]
  simp [Open, Option.filter_eq_some_iff]

variable {sessions id}

theorem ended_iff : sessions.Ended id ↔ (sessions.closeFrame id).isSome = true := by
  rw [Ended, closeFrame]
  cases sessions.connections.get? id <;> simp [Connection.isClosed]

theorem contains_iff : sessions.connections.contains id = true ↔
    sessions.Open id ∨ sessions.Ended id := by
  rw [Dict.contains, Open, Ended]
  cases sessions.connections.get? id with
  | none => simp
  | some connection => cases closed : connection.isClosed <;> simp [closed]

theorem not_open_of_ended (ended : sessions.Ended id) : ¬ sessions.Open id := by
  obtain ⟨connection, known, closed⟩ := ended
  rintro ⟨other, again, unclosed⟩
  obtain rfl := Option.some.inj (known.symm.trans again)
  rw [closed] at unclosed
  cases unclosed

theorem closeFrame_of_open (isOpen : sessions.Open id) : sessions.closeFrame id = none := by
  rw [← Option.not_isSome_iff_eq_none, ← ended_iff]
  exact fun ended => not_open_of_ended ended isOpen

theorem closeFrame_dropClient (name : String) :
    (sessions.dropClient name).closeFrame id = sessions.closeFrame id := by
  unfold dropClient
  split
  · rfl
  · next connection known =>
    rw [closeFrame, closeFrame, update, Dict.get?_insert]
    split
    · next own => rw [own, known]; rfl
    · rfl

theorem contains_dropClient (name : String) :
    (sessions.dropClient name).connections.contains id = sessions.connections.contains id := by
  unfold dropClient
  split
  · rfl
  · next connection known =>
    rw [Dict.contains, Dict.contains, update, Dict.get?_insert]
    split
    · next own => rw [own, known]; rfl
    · rfl

theorem issued_dropClient (name : String) :
    (sessions.dropClient name).issued = sessions.issued := by
  unfold dropClient
  split <;> rfl

theorem close_open {code : Nat} {reason : String}
    (ended : (sessions.close id code reason).1 = .ok .closed) : sessions.Open id := by
  unfold close at ended
  split at ended
  · cases ended
  · next connection known =>
    split at ended
    · cases ended
    · next unclosed => exact ⟨connection, known, Bool.eq_false_iff.mpr unclosed⟩

end SessionTable

namespace Connection

theorem endingOf?_of_silent {id : String} {event : SessionEvent}
    (silent : ∀ tally, SessionHistory.noted id tally event = tally) :
    event.endingOf? id = none := by
  cases ended : event.endingOf? id with
  | none => rfl
  | some frame =>
    obtain rfl := SessionEvent.endingOf?_eq_some.mp ended
    have unchanged := silent (some .start)
    simp [SessionHistory.noted, SessionEvent.session?, Tally.note, Tally.start] at unchanged

theorem Moves.closeFrame {id : String} {current next : Option Connection} {event : SessionEvent}
    (moves : Moves id current event next) (there : current = none → event.endingOf? id = none) :
    next.bind (·.closedWith) = (event.endingOf? id).or (current.bind (·.closedWith)) := by
  cases moves with
  | opened | sent | clientReceived | clientSent | queued | gaveUp | hungUp => rfl
  | received next | served _ next =>
    obtain ⟨-, rfl⟩ | ⟨_, -, -, rfl⟩ := next?_eq_some next <;> rfl
  | closed connection code reason =>
    have ended : (SessionEvent.closed id code reason (.ok .closed)).endingOf? id =
        some ⟨code, reason⟩ := SessionEvent.endingOf?_eq_some.mpr rfl
    rw [ended]
    rfl
  | aside _ silent => rw [endingOf?_of_silent silent, Option.none_or]
  | absent => rw [there rfl, Option.none_or]

end Connection

namespace SessionCall
open SessionTable (connectionId)
variable {backends : Backends} {call : SessionCall} {id : String}

theorem open_of_ending {frame : CloseFrame}
    (ended : (call.perform backends).1.endingOf? id = some frame) :
    backends.sessions.store.Open id := by
  cases call with
  | close other code reason =>
    obtain ⟨own, -, -, answer⟩ :=
      SessionEvent.closed.inj (SessionEvent.endingOf?_eq_some.mp ended)
    obtain rfl := own
    exact Faulty.call_either _ _ .error _
      (motive := fun (answer : Backed CloseStatus) (_ : SessionTable) =>
        answer = .ok .closed → backends.sessions.store.Open other)
      (fun _ => nofun) SessionTable.close_open answer
  | _ => cases SessionEvent.endingOf?_eq_some.mp ended

theorem perform_closeFrame (known : backends.sessions.store.Issued) (call : SessionCall)
    (id : String) :
    (call.perform backends).2.sessions.store.closeFrame id =
      ((call.perform backends).1.endingOf? id).or (backends.sessions.store.closeFrame id) := by
  refine (perform_moves known call id).closeFrame ?_
  intro unknown
  rw [Option.eq_none_iff_forall_not_mem]
  intro frame ended
  obtain ⟨connection, there, -⟩ := open_of_ending ended
  rw [unknown] at there
  cases there

end SessionCall

-- What a history says of the sessions that are there: the names that were given out, in order, and
-- how each session was ended.
structure Lived (history : SessionHistory) (sessions : SessionTable) : Prop where
  issued : sessions.Issued
  opened : history.opened =
    (List.range sessions.issued).map fun n => SessionTable.connectionId (n + 1)
  ended : ∀ id, history.endingsOf id = (sessions.closeFrame id).toList

namespace Lived
open SessionTable (connectionId)
variable {history : SessionHistory} {sessions : SessionTable} {backends : Backends} {id : String}

theorem start : Lived [] .empty := ⟨SessionTable.empty_issued, rfl, fun _ => rfl⟩

theorem called (lived : Lived history backends.sessions.store) (call : SessionCall) :
    Lived (history ++ [(call.perform backends).1]) (call.perform backends).2.sessions.store where
  issued := call.perform_issued lived.issued
  opened := by
    rw [SessionHistory.opened_snoc, lived.opened]
    cases about : call.session? with
    | some name =>
      have idle : (call.perform backends).1.opening? = none := by
        cases call <;> first | rfl | cases about
      rw [idle, (SessionCall.perform_steps about backends).issued]
      exact List.append_nil _
    | none =>
      cases call with
      | connect =>
        change _ ++ [connectionId _] = (List.range (backends.sessions.store.issued + 1)).map _
        rw [List.range_succ, List.map_append]
        rfl
      | schedule | choose => exact List.append_nil _
      | _ => cases about
  ended id := by
    rw [SessionHistory.endingsOf_snoc, lived.ended, SessionCall.perform_closeFrame lived.issued]
    cases ended : (call.perform backends).1.endingOf? id with
    | none => rw [Option.none_or, Option.toList_none, List.append_nil]
    | some frame =>
      rw [SessionTable.closeFrame_of_open (SessionCall.open_of_ending ended)]
      rfl

theorem dropped (lived : Lived history sessions) (name : String) :
    Lived history (sessions.dropClient name) where
  issued id := by
    rw [SessionTable.contains_dropClient, SessionTable.issued_dropClient]
    exact lived.issued id
  opened := by
    rw [SessionTable.issued_dropClient]
    exact lived.opened
  ended id := by
    rw [SessionTable.closeFrame_dropClient]
    exact lived.ended id

theorem used (lived : Lived history backends.sessions.store) (use : SessionUse) :
    Lived (SessionUse.record (history, backends) use).1
      (SessionUse.record (history, backends) use).2.sessions.store := by
  cases use with
  | call made => exact lived.called made
  | drop name =>
    rw [SessionUse.record, SessionUse.perform, Option.toList_none, List.append_nil]
    exact lived.dropped name

theorem course (uses : List SessionUse) :
    Lived (SessionUse.course uses).1 (SessionUse.course uses).2.sessions.store := by
  induction uses using List.reverseRecOn with
  | nil => exact start
  | append_singleton uses use ih =>
    rw [SessionUse.course, List.foldl_append, ← SessionUse.course]
    exact ih.used use

theorem nodup (lived : Lived history sessions) : history.opened.Nodup := by
  rw [lived.opened]
  refine List.nodup_range.map fun m n same => ?_
  exact Nat.succ.inj (SessionTable.connectionId_injective same)

theorem mem_opened (lived : Lived history sessions) :
    id ∈ history.opened ↔ sessions.Open id ∨ sessions.Ended id := by
  rw [← SessionTable.contains_iff, lived.issued id, lived.opened]
  simp [eq_comm]

theorem mem_endings (lived : Lived history sessions) :
    id ∈ history.endings.map Prod.fst ↔ sessions.Ended id := by
  rw [← List.count_pos_iff, SessionHistory.count_endings, lived.ended, SessionTable.ended_iff]
  cases sessions.closeFrame id <;> simp

theorem nodup_endings (lived : Lived history sessions) :
    (history.endings.map Prod.fst).Nodup := by
  rw [List.nodup_iff_count_le_one]
  intro id
  rw [SessionHistory.count_endings, lived.ended]
  cases sessions.closeFrame id <;> simp

theorem split (lived : Lived history sessions) :
    history.opened.Perm (sessions.openNames ++ history.endings.map Prod.fst) := by
  have apart : sessions.openNames.Disjoint (history.endings.map Prod.fst) := by
    intro id isOpen ended
    rw [SessionTable.mem_openNames] at isOpen
    rw [lived.mem_endings] at ended
    exact SessionTable.not_open_of_ended ended isOpen
  have once : (sessions.openNames ++ history.endings.map Prod.fst).Nodup :=
    (Dict.names_nodup _).append lived.nodup_endings apart
  rw [List.perm_ext_iff_of_nodup lived.nodup once]
  intro id
  rw [lived.mem_opened, List.mem_append, SessionTable.mem_openNames, lived.mem_endings]

theorem balance (lived : Lived history sessions) :
    sessions.openConnections + history.endings.length = history.opened.length := by
  rw [lived.split.length_eq, List.length_append, List.length_map, SessionTable.openNames,
    List.length_map]
  rfl

theorem ended_used (lived : Lived history backends.sessions.store) {frame : CloseFrame}
    (ended : backends.sessions.store.closeFrame id = some frame) (use : SessionUse) :
    (use.perform backends).2.sessions.store.closeFrame id = some frame := by
  cases use with
  | drop name => exact (SessionTable.closeFrame_dropClient name).trans ended
  | call made =>
    have kept := SessionCall.perform_closeFrame lived.issued made id
    cases again : (made.perform backends).1.endingOf? id with
    | none =>
      rw [again, Option.none_or, ended] at kept
      exact kept
    | some other =>
      rw [SessionTable.closeFrame_of_open (SessionCall.open_of_ending again)] at ended
      cases ended

theorem ended_later (uses later : List SessionUse) {frame : CloseFrame}
    (ended : (SessionUse.course uses).2.sessions.store.closeFrame id = some frame) :
    (SessionUse.course (uses ++ later)).2.sessions.store.closeFrame id = some frame := by
  induction later using List.reverseRecOn with
  | nil => rwa [List.append_nil]
  | append_singleton later use ih =>
    rw [← List.append_assoc, SessionUse.course, List.foldl_append, ← SessionUse.course]
    exact (course (uses ++ later)).ended_used ih use

end Lived

namespace SessionTable
variable {sessions : SessionTable} {id : String}

theorem close_known (known : sessions.connections.contains id = true) (code : Nat)
    (reason : String) :
    (sessions.close id code reason).1 =
      .ok (if (sessions.closeFrame id).isSome then .alreadyClosed else .closed) := by
  obtain ⟨connection, there⟩ := Option.isSome_iff_exists.mp known
  have ended : sessions.closeFrame id = connection.closedWith := by rw [closeFrame, there]; rfl
  rw [close, there, ended]
  by_cases closed : connection.closedWith.isSome = true <;> simp [Connection.isClosed, closed]

theorem send_ended (ended : sessions.Ended id) (frame : Frame) :
    (sessions.send id frame).1 = .ok .closed := by
  obtain ⟨connection, known, closed⟩ := ended
  simp [send, known, closed]

theorem receive_ended (ended : sessions.Ended id) :
    (sessions.receive id).1 = .ready (.ok .closed) := by
  obtain ⟨connection, known, closed⟩ := ended
  simp [receive, known, closed]

section Unknown
variable (unknown : sessions.connections.get? id = none)
include unknown

theorem send_unknown (frame : Frame) :
    sessions.send id frame = (.error (unknownConnection id), sessions) := by
  rw [send, unknown]

theorem receive_unknown :
    sessions.receive id = (.ready (.error (unknownConnection id)), sessions) := by
  rw [receive, unknown]

theorem close_unknown (code : Nat) (reason : String) :
    sessions.close id code reason = (.error (unknownConnection id), sessions) := by
  rw [close, unknown]

end Unknown
end SessionTable

-- What the calls on a session answer, by how it was ended, unless a failure strikes them.
structure Lives (backends : Backends) (id : String) : Prop where
  closed : ∀ code reason, ((SessionCall.close id code reason).perform backends).1 =
    .closed id code reason (backends.sessions.faults.unlessStruck "close" .error
      (.ok (if (backends.sessions.store.closeFrame id).isSome then .alreadyClosed else .closed)))
  sentLate : backends.sessions.store.Ended id → ∀ frame,
    ((SessionCall.send id frame).perform backends).1 =
      .sent id frame (backends.sessions.faults.unlessStruck "send" .error (.ok .closed))
  receivedLate : backends.sessions.store.Ended id →
    ((SessionCall.receive id).perform backends).1 =
      .received id (backends.sessions.faults.unlessStruck "receive"
        (fun failure => .ready (.error failure)) (.ready (.ok .closed)))

-- What the calls on a name answer that was never given out, unless a failure strikes them; nothing
-- comes of any use of it.
structure Refuses (backends : Backends) (id : String) : Prop where
  closed : ∀ code reason, ((SessionCall.close id code reason).perform backends).1 =
    .closed id code reason (backends.sessions.faults.unlessStruck "close" .error
      (.error (.invalidRequest ("unknown connection " ++ id))))
  sent : ∀ frame, ((SessionCall.send id frame).perform backends).1 =
    .sent id frame (backends.sessions.faults.unlessStruck "send" .error
      (.error (.invalidRequest ("unknown connection " ++ id))))
  received : ((SessionCall.receive id).perform backends).1 =
    .received id (backends.sessions.faults.unlessStruck "receive"
      (fun failure => .ready (.error failure))
      (.ready (.error (.invalidRequest ("unknown connection " ++ id)))))
  unchanged : ∀ use : SessionUse, use.session? = some id →
    (use.perform backends).2.sessions.store = backends.sessions.store

namespace SessionCall
variable {backends : Backends} {id : String}

theorem lives (known : backends.sessions.store.connections.contains id = true) :
    Lives backends id where
  closed code reason := by
    rw [← SessionTable.close_known known code reason]
    exact congrArg (SessionEvent.closed id code reason) (Faulty.call_answer ..)
  sentLate ended frame := by
    rw [← SessionTable.send_ended ended frame]
    exact congrArg (SessionEvent.sent id frame) (Faulty.call_answer ..)
  receivedLate ended := by
    rw [← SessionTable.receive_ended ended]
    exact congrArg (SessionEvent.received id) (Faulty.call_answer ..)

theorem perform_unknown (unknown : backends.sessions.store.connections.get? id = none)
    {call : SessionCall} (about : call.session? = some id) :
    (call.perform backends).2.sessions.store = backends.sessions.store := by
  cases call with
  | connect | schedule | choose => cases about
  | send other frame =>
    obtain rfl := Option.some.inj about
    exact Faulty.call_idle _ _ _ _ (congrArg Prod.snd (SessionTable.send_unknown unknown frame))
  | receive other =>
    obtain rfl := Option.some.inj about
    exact Faulty.call_idle _ _ _ _ (congrArg Prod.snd (SessionTable.receive_unknown unknown))
  | close other code reason =>
    obtain rfl := Option.some.inj about
    exact Faulty.call_idle _ _ _ _
      (congrArg Prod.snd (SessionTable.close_unknown unknown code reason))
  | receiveAgain other ticket =>
    obtain rfl := Option.some.inj about
    change (SessionTable.receiveAgain _ other ticket).2 = _
    rw [SessionTable.receiveAgain, unknown]
  | giveUp other ticket =>
    obtain rfl := Option.some.inj about
    change SessionTable.abandon _ other ticket = _
    rw [SessionTable.abandon, unknown]
  | clientSend other frame =>
    obtain rfl := Option.some.inj about
    change (SessionTable.clientSend _ other frame).2 = _
    rw [SessionTable.clientSend, unknown]
  | clientReceive other =>
    obtain rfl := Option.some.inj about
    change (SessionTable.clientReceive _ other).2 = _
    rw [SessionTable.clientReceive, unknown]
  | hangUp other =>
    obtain rfl := Option.some.inj about
    change SessionTable.hangUp _ other = _
    rw [SessionTable.hangUp, unknown]

theorem refuses (unknown : backends.sessions.store.connections.get? id = none) :
    Refuses backends id where
  closed code reason := by
    have refused : (backends.sessions.store.close id code reason).1 =
        .error (.invalidRequest ("unknown connection " ++ id)) :=
      congrArg Prod.fst (SessionTable.close_unknown unknown code reason)
    rw [← refused]
    exact congrArg (SessionEvent.closed id code reason) (Faulty.call_answer ..)
  sent frame := by
    have refused : (backends.sessions.store.send id frame).1 =
        .error (.invalidRequest ("unknown connection " ++ id)) :=
      congrArg Prod.fst (SessionTable.send_unknown unknown frame)
    rw [← refused]
    exact congrArg (SessionEvent.sent id frame) (Faulty.call_answer ..)
  received := by
    have refused : (backends.sessions.store.receive id).1 =
        .ready (.error (.invalidRequest ("unknown connection " ++ id))) :=
      congrArg Prod.fst (SessionTable.receive_unknown unknown)
    rw [← refused]
    exact congrArg (SessionEvent.received id) (Faulty.call_answer ..)
  unchanged use about := by
    cases use with
    | call made => exact perform_unknown unknown about
    | drop name =>
      obtain rfl := Option.some.inj about
      change SessionTable.dropClient _ name = _
      rw [SessionTable.dropClient, unknown]

theorem perform_failed {call : SessionCall} {failure : BackendError}
    (failed : (call.perform backends).1.failure? = some failure) :
    (call.perform backends).2.sessions.store = backends.sessions.store := by
  cases call with
  | send id frame =>
    have refused := SessionEvent.error_of_sent failed
    exact (Faulty.call_met Except.error.inj (Backends.send_steady id frame) refused).store_eq
  | receive id =>
    have refused := SessionEvent.error_of_received failed
    exact (Faulty.call_met (fun same => Except.error.inj (Poll.ready.inj same))
      (Backends.receiveFrame_steady id) refused).store_eq
  | receiveAgain id ticket =>
    have refused := SessionEvent.error_of_askedAgain failed
    exact absurd refused (Backends.receiveAgain_served backends.sessions.store id ticket failure)
  | close id code reason =>
    have refused := SessionEvent.error_of_closed failed
    exact (Faulty.call_met Except.error.inj (Backends.close_steady id code reason)
      refused).store_eq
  | connect | giveUp | clientSend | clientReceive | hangUp | schedule | choose => cases failed

end SessionCall

namespace SessionUse
open SessionTable (connectionId)

/-- The sessions that were opened have the names conn-1, conn-2 and so on. Each of them is open, or
a close ended it, once; what it was ended with is told ever after, and it is never open again. A
close ends a session that is open, and calls on one that was ended, or on a name that was never given
out, are told so. A call that fails does nothing. -/
theorem session_lifecycle (uses : List SessionUse) :
    let history := (course uses).1
    let backends := (course uses).2
    let sessions := backends.sessions.store
    history.opened = (List.range history.opened.length).map (fun n => connectionId (n + 1)) ∧
      history.opened.Nodup ∧
      (∀ id, (id ∈ history.opened ↔ sessions.Open id ∨ sessions.Ended id) ∧
        ¬ (sessions.Open id ∧ sessions.Ended id)) ∧
      sessions.openConnections + history.endings.length = history.opened.length ∧
      (∀ id, history.endingsOf id = (sessions.closeFrame id).toList) ∧
      (∀ id ∈ history.opened, Lives backends id) ∧
      (∀ id, id ∉ history.opened → Refuses backends id) ∧
      (∀ id frame later, sessions.closeFrame id = some frame →
        (course (uses ++ later)).2.sessions.store.closeFrame id = some frame ∧
          ¬ (course (uses ++ later)).2.sessions.store.Open id) ∧
      ∀ call failure, (SessionCall.perform call backends).1.failure? = some failure →
        (SessionCall.perform call backends).2.sessions.store = sessions := by
  intro history backends sessions
  have lived : Lived history sessions := Lived.course uses
  have split (id : String) : id ∈ history.opened ↔ sessions.connections.contains id = true := by
    rw [lived.mem_opened, SessionTable.contains_iff]
  refine ⟨?_, lived.nodup, ?_, lived.balance, lived.ended, ?_, ?_, ?_, ?_⟩
  · rw [lived.opened, List.length_map, List.length_range]
  · intro id
    refine ⟨lived.mem_opened, ?_⟩
    rintro ⟨isOpen, ended⟩
    exact SessionTable.not_open_of_ended ended isOpen
  · intro id opened
    exact SessionCall.lives ((split id).mp opened)
  · intro id unopened
    refine SessionCall.refuses (Option.not_isSome_iff_eq_none.mp ?_)
    exact fun known => unopened ((split id).mpr known)
  · intro id frame later ended
    have kept := Lived.ended_later uses later ended
    refine ⟨kept, SessionTable.not_open_of_ended (SessionTable.ended_iff.mpr ?_)⟩
    rw [kept]
    rfl
  · intro call failure failed
    exact SessionCall.perform_failed failed

end SessionUse
end EffectPrograms.Memory
