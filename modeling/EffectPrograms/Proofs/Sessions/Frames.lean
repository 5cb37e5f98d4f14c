import EffectPrograms.Proofs.Sessions.History

set_option autoImplicit false

namespace EffectPrograms.Memory
open Transport (Frame SendStatus Incoming CloseStatus)

namespace Tally

-- What the client is told when it asks for a frame: the next that was delivered, else the end if
-- the server has closed, else nothing yet.
def clientNext? (tally : Tally) : Option (Option Frame) :=
  match tally.delivered[tally.clientGot.length]? with
  | some frame => some (some frame)
  | none => if tally.isClosed then some none else none

-- The server has closed and none of its receives waits: what the client sends has no way to go.
def isReleased (tally : Tally) : Bool := tally.isClosed && tally.waiting.isEmpty

-- What a receive of the server is told in its turn, if there is anything to tell. One that waited
-- when the server closed may still get a frame.
def serverNext? (tally : Tally) (framesFirst : Bool) : Option Incoming :=
  match tally.accepted[tally.serverGot.length]? with
  | some frame => if tally.isClosed && !framesFirst then some .closed else some (.frame frame)
  | none => if tally.isClosed || tally.hungUp then some .closed else none

def turn (tally : Tally) (framesFirst : Bool) (ticket : Nat) : Poll (Backed Incoming) :=
  match tally.serverNext? framesFirst with
  | some incoming => .ready (.ok incoming)
  | none => .waiting ticket

end Tally

theorem toList_of_first {α : Type} {xs : Array α} {x : α} (first : xs[0]? = some x) :
    xs.toList = x :: (xs.extract 1).toList := by
  rw [← Array.getElem?_toList] at first
  rcases shown : xs.toList with _ | ⟨y, ys⟩
  · simp [shown] at first
  · obtain rfl : y = x := by simpa [shown] using first
    simp [shown, ← Array.length_toList]

theorem getElem?_after {α : Type} (xs : List α) (ys : Array α) :
    (xs ++ ys.toList)[xs.length]? = ys[0]? := by
  rw [List.getElem?_append_right (Nat.le_refl _), Nat.sub_self, Array.getElem?_toList]

namespace Connection

theorem next?_eq_some {connection left : Connection} {framesFirst : Bool} {incoming : Incoming}
    (next : connection.next? framesFirst = some (incoming, left)) :
    incoming = .closed ∧ left = connection ∨
      ∃ frame, incoming = .frame frame ∧ connection.inbound[0]? = some frame ∧
        left = { connection with inbound := connection.inbound.extract 1 } := by
  rw [next?] at next
  split at next
  · next frame first =>
    split at next
    · obtain ⟨rfl, rfl⟩ := Prod.mk.inj (Option.some.inj next)
      exact .inl ⟨rfl, rfl⟩
    · obtain ⟨rfl, rfl⟩ := Prod.mk.inj (Option.some.inj next)
      exact .inr ⟨frame, rfl, first, rfl⟩
  · split at next
    · obtain ⟨rfl, rfl⟩ := Prod.mk.inj (Option.some.inj next)
      exact .inl ⟨rfl, rfl⟩
    · cases next

theorem next?_waiting {connection left : Connection} {framesFirst : Bool} {incoming : Incoming}
    (next : connection.next? framesFirst = some (incoming, left)) :
    left.waiting = connection.waiting := by
  obtain ⟨-, rfl⟩ | ⟨frame, -, -, rfl⟩ := next?_eq_some next <;> rfl

-- What a history says of a session, against what there is of it: the frames that one side sent and
-- the other has not got are those that are queued.
structure Told (connection : Connection) (tally : Tally) : Prop where
  outward : tally.delivered = tally.clientGot ++ connection.outbound.toList
  inward : tally.accepted = tally.serverGot ++ connection.inbound.toList
  closedWith : connection.closedWith = tally.closedWith
  hungUp : connection.hungUp = tally.hungUp
  waiting : connection.waiting = tally.waiting
  present : connection.abandoned = false

inductive Kept : Option Tally → Option Connection → Prop where
  | unopened : Kept none none
  | opened {tally : Tally} {connection : Connection} (told : connection.Told tally) :
      Kept (some tally) (some connection)

variable {connection left : Connection} {tally : Tally} {framesFirst : Bool} {incoming : Incoming}

theorem Told.served (told : connection.Told tally)
    (next : connection.next? framesFirst = some (incoming, left)) (id : String) :
    left.Told (tally.note (.received id (.ready (.ok incoming)))) := by
  obtain ⟨rfl, rfl⟩ | ⟨frame, rfl, first, rfl⟩ := next?_eq_some next
  · exact told
  · refine { told with inward := ?_ }
    rw [Tally.note, told.inward, toList_of_first first]
    simp

theorem Kept.noted {id : String} {event : SessionEvent} (about : event.session? = some id)
    (unopened : ∀ other, event ≠ .connected other) (told : left.Told (tally.note event)) :
    Kept (SessionHistory.noted id (some tally) event) (some left) := by
  rw [SessionHistory.noted_own about unopened]
  exact .opened told

theorem Kept.moves {id : String} {known : Option Tally} {current next : Option Connection}
    {event : SessionEvent} (kept : Kept known current) (moves : Moves id current event next) :
    Kept (SessionHistory.noted id known event) next := by
  cases moves with
  | aside _ silent =>
    rw [silent]
    exact kept
  | absent unopened =>
    cases kept with
    | unopened =>
      rw [SessionHistory.noted_absent unopened]
      exact .unopened
  | opened =>
    cases kept with
    | unopened =>
      have fresh : SessionHistory.noted id none (.connected id) = some .start := by
        simp [SessionHistory.noted, SessionEvent.session?]
      rw [fresh]
      exact .opened ⟨rfl, rfl, rfl, rfl, rfl, rfl⟩
  | sent connection frame =>
    cases kept with
    | opened told =>
      refine .noted rfl (by simp) { told with outward := ?_ }
      simp [Tally.note, told.outward]
  | clientReceived first =>
    cases kept with
    | opened told =>
      refine .noted rfl (by simp) { told with outward := ?_ }
      rw [Tally.note, told.outward, toList_of_first first]
      simp
  | clientSent connection frame =>
    cases kept with
    | opened told =>
      refine .noted rfl (by simp) { told with inward := ?_ }
      simp [Tally.note, told.inward]
  | received next =>
    cases kept with
    | opened told => exact .noted rfl (by simp) (told.served next id)
  | queued connection ticket =>
    cases kept with
    | opened told =>
      refine .noted rfl (by simp) { told with waiting := ?_ }
      simp [Tally.note, told.waiting]
  | @served connection left framesFirst ticket incoming first next =>
    cases kept with
    | @opened tally _ told =>
      have served := told.served next id
      refine .noted rfl (by simp) ?_
      have rest : tally.waiting.erase ticket = left.waiting.tail := by
        rw [next?_waiting next, ← told.waiting]
        obtain ⟨later, shown⟩ := List.head?_eq_some_iff.mp first
        rw [shown, List.erase_cons_head, List.tail_cons]
      cases incoming with
      | frame frame => exact { served with waiting := rest.symm }
      | closed => exact { served with waiting := rest.symm }
  | gaveUp connection ticket =>
    cases kept with
    | opened told =>
      refine .noted rfl (by simp) { told with waiting := ?_ }
      simp [Tally.note, told.waiting]
  | closed connection code reason =>
    cases kept with
    | opened told => exact .noted rfl (by simp) { told with closedWith := rfl }
  | hungUp connection =>
    cases kept with
    | opened told => exact .noted rfl (by simp) { told with hungUp := rfl }

-- What is said of the two ends depends on what was told alone.

theorem Told.isClosed (told : connection.Told tally) : connection.isClosed = tally.isClosed := by
  rw [Connection.isClosed, Tally.isClosed, told.closedWith]

theorem Told.isReleased (told : connection.Told tally) :
    connection.isReleased = tally.isReleased := by
  rw [Connection.isReleased, Tally.isReleased, told.isClosed, told.waiting]

theorem Told.next? (told : connection.Told tally) (framesFirst : Bool) :
    (connection.next? framesFirst).map Prod.fst = tally.serverNext? framesFirst := by
  have first : tally.accepted[tally.serverGot.length]? = connection.inbound[0]? := by
    rw [told.inward, getElem?_after]
  rw [Connection.next?, Tally.serverNext?, first, told.isClosed, told.hungUp]
  cases connection.inbound[0]? with
  | some frame => cases tally.isClosed && !framesFirst <;> rfl
  | none => cases tally.isClosed || tally.hungUp <;> rfl

theorem Told.clientNext? (told : connection.Told tally) :
    tally.clientNext? =
      match connection.outbound[0]? with
      | some frame => some (some frame)
      | none => if connection.isClosed then some none else none := by
  have first : tally.delivered[tally.clientGot.length]? = connection.outbound[0]? := by
    rw [told.outward, getElem?_after]
  rw [Tally.clientNext?, first, told.isClosed]

end Connection

namespace SessionTable
variable {sessions : SessionTable} {id : String} {connection : Connection} {tally : Tally}
  (known : sessions.connections.get? id = some connection) (told : connection.Told tally)
include known told

theorem send_told (frame : Frame) :
    (sessions.send id frame).1 = .ok (if tally.isClosed then .closed else .delivered) := by
  simp only [send, known, told.isClosed, told.present, Bool.or_false]
  split <;> rfl

theorem clientSend_told (frame : Frame) :
    (sessions.clientSend id frame).1 = !(tally.isReleased || tally.hungUp) := by
  simp only [clientSend, known, told.isReleased, told.hungUp]
  cases tally.isReleased || tally.hungUp <;> rfl

theorem clientReceive_told : (sessions.clientReceive id).1 = tally.clientNext? := by
  simp only [clientReceive, known, told.clientNext?]
  cases connection.outbound[0]? <;> rfl

theorem close_told (code : Nat) (reason : String) :
    (sessions.close id code reason).1 =
      .ok (if tally.isClosed then .alreadyClosed else .closed) := by
  simp only [close, known, told.isClosed]
  split <;> rfl

theorem receive_told :
    (sessions.receive id).1 =
      if tally.isClosed then .ready (.ok .closed)
      else if tally.waiting.isEmpty then tally.turn sessions.framesFirst sessions.tickets
      else .waiting sessions.tickets := by
  simp only [receive, known, told.isClosed, told.waiting, Tally.turn, ← told.next?]
  cases tally.isClosed with
  | true => rfl
  | false =>
    cases tally.waiting.isEmpty with
    | true => cases connection.next? sessions.framesFirst <;> rfl
    | false => rfl

theorem receiveAgain_told (ticket : Nat) :
    (sessions.receiveAgain id ticket).1 =
      if tally.waiting.head? = some ticket then tally.turn sessions.framesFirst ticket
      else .waiting ticket := by
  simp only [receiveAgain, known, told.waiting, Tally.turn, ← told.next?]
  split
  · cases connection.next? sessions.framesFirst <;> rfl
  · rfl

end SessionTable

namespace SessionCall
open SessionHistory (tally?)

theorem course_kept (calls : List SessionCall) (id : String) :
    Connection.Kept (tally? id (course calls).1)
      ((course calls).2.sessions.store.connections.get? id) := by
  refine (course_keeps (motive := fun history backends =>
    Connection.Kept (tally? id history) (backends.sessions.store.connections.get? id)) .unopened
    (fun history backends call issued kept => ?_) calls).2
  rw [SessionHistory.tally?_snoc]
  exact kept.moves (perform_moves issued call id)

theorem perform_unstruck {call : SessionCall} (unscheduled : ∀ faults, call ≠ .schedule faults)
    {backends : Backends} (unstruck : backends.sessions.faults = ∅) :
    (call.perform backends).2.sessions.faults = ∅ := by
  cases call with
  | schedule faults => exact absurd rfl (unscheduled faults)
  | send | receive | close => exact Faulty.call_unstruck _ _ _ _ unstruck
  | _ => exact unstruck

theorem course_unstruck {calls : List SessionCall}
    (unscheduled : ∀ call ∈ calls, ∀ faults, call ≠ .schedule faults) :
    (course calls).2.sessions.faults = ∅ := by
  induction calls using List.reverseRecOn with
  | nil => rfl
  | append_singleton calls call ih =>
    have before := ih fun other member => unscheduled other (by simp [member])
    rw [course, List.foldl_append, ← course]
    exact perform_unstruck (unscheduled call (by simp)) before

theorem perform_elsewhere {backends : Backends} (issued : backends.sessions.store.Issued)
    {id : String} {connection : Connection}
    (known : backends.sessions.store.connections.get? id = some connection) {call : SessionCall}
    (elsewhere : call.session? ≠ some id) :
    (call.perform backends).2.sessions.store.connections.get? id = some connection := by
  cases about : call.session? with
  | some name =>
    rw [(perform_steps about backends).others id, known]
    rintro rfl
    exact elsewhere about
  | none =>
    have moves := perform_moves issued call id
    rw [known] at moves
    cases call with
    | connect =>
      generalize (connect.perform backends).2.sessions.store.connections.get? id = next at moves
      cases moves with
      | aside => rfl
    | schedule | choose => exact known
    | _ => cases about

theorem connect_elsewhere {backends : Backends} (issued : backends.sessions.store.Issued)
    {id : String} {connection : Connection}
    (known : backends.sessions.store.connections.get? id = some connection) :
    (connect.perform backends).1 ≠ .connected id := by
  intro again
  have moves := perform_moves issued connect id
  rw [known, again] at moves
  generalize (connect.perform backends).2.sessions.store.connections.get? id = next at moves
  cases moves with
  | aside _ silent =>
    have opened := silent none
    simp [SessionHistory.noted, SessionEvent.session?] at opened

-- What the calls on a session answer, by what its history says of it. A failure may strike what the
-- server asks for; what others ask for leaves the session alone. A receive that waits when the
-- server closes keeps the way from the client open until it is served or given up.
structure Answered (backends : Backends) (id : String) (tally : Tally) : Prop where
  sent : ∀ frame, ((send id frame).perform backends).1 =
    .sent id frame (backends.sessions.faults.unlessStruck "send" .error
      (.ok (if tally.isClosed then .closed else .delivered)))
  received : ((receive id).perform backends).1 =
    .received id (backends.sessions.faults.unlessStruck "receive"
      (fun failure => .ready (.error failure))
      (if tally.isClosed then .ready (.ok .closed)
        else if tally.waiting.isEmpty then
          tally.turn backends.sessions.store.framesFirst backends.sessions.store.tickets
        else .waiting backends.sessions.store.tickets))
  askedAgain : ∀ ticket, ((receiveAgain id ticket).perform backends).1 =
    .askedAgain id ticket
      (if tally.waiting.head? = some ticket then
        tally.turn backends.sessions.store.framesFirst ticket
      else .waiting ticket)
  closed : ∀ code reason, ((close id code reason).perform backends).1 =
    .closed id code reason (backends.sessions.faults.unlessStruck "close" .error
      (.ok (if tally.isClosed then .alreadyClosed else .closed)))
  clientSent : ∀ frame, ((clientSend id frame).perform backends).1 =
    .clientSent id frame !(tally.isReleased || tally.hungUp)
  clientReceived : ((clientReceive id).perform backends).1 = .clientReceived id tally.clientNext?
  connected : (connect.perform backends).1 ≠ .connected id
  apart : ∀ call : SessionCall, call.session? ≠ some id →
    (call.perform backends).2.sessions.store.connections.get? id =
      backends.sessions.store.connections.get? id

theorem answered_of_told {backends : Backends} (issued : backends.sessions.store.Issued)
    {id : String} {connection : Connection}
    (known : backends.sessions.store.connections.get? id = some connection) {tally : Tally}
    (told : connection.Told tally) : Answered backends id tally where
  sent frame := by
    rw [← SessionTable.send_told known told frame]
    exact congrArg (SessionEvent.sent id frame) (Faulty.call_answer ..)
  received := by
    rw [← SessionTable.receive_told known told]
    exact congrArg (SessionEvent.received id) (Faulty.call_answer ..)
  askedAgain ticket := congrArg _ (SessionTable.receiveAgain_told known told ticket)
  closed code reason := by
    rw [← SessionTable.close_told known told code reason]
    exact congrArg (SessionEvent.closed id code reason) (Faulty.call_answer ..)
  clientSent frame := congrArg _ (SessionTable.clientSend_told known told frame)
  clientReceived := congrArg _ (SessionTable.clientReceive_told known told)
  connected := connect_elsewhere issued known
  apart _ elsewhere := (perform_elsewhere issued known elsewhere).trans known.symm

/-- The frames that the client got are the first of those that the server's sends delivered, and the
frames that the server got are the first of those that the client's sends put in. What a call on the
session answers follows from these, from how either side ended it and from the receives that wait,
as long as no failure is scheduled: a close ends the client's sends and the receives of the server,
those excepted that wait already. -/
theorem frames_in_order (calls : List SessionCall) (id : String) {tally : Tally}
    (connected : tally? id (course calls).1 = some tally) :
    tally.clientGot <+: tally.delivered ∧ tally.serverGot <+: tally.accepted ∧
      Answered (course calls).2 id tally ∧
      ((∀ call ∈ calls, ∀ faults, call ≠ .schedule faults) →
        ∀ operation, ((course calls).2.sessions.faults.check operation).1 = none) := by
  have kept := course_kept calls id
  have issued :=
    (course_keeps (motive := fun _ _ => True) trivial (fun _ _ _ _ _ => trivial) calls).1
  rw [connected] at kept
  generalize known : (course calls).2.sessions.store.connections.get? id = current at kept
  cases kept with
  | @opened _ connection told =>
    refine ⟨⟨_, told.outward.symm⟩, ⟨_, told.inward.symm⟩, answered_of_told issued known told, ?_⟩
    intro unscheduled operation
    rw [course_unstruck unscheduled]
    rfl

-- The server gets what was sent before a hang-up, the client what was sent before a close.
theorem frames_in_order_ended :
    let calls : List SessionCall := [.connect, .connect,
      .clientSend "conn-1" (.text "in"), .send "conn-2" (.text "out"),
      .hangUp "conn-1", .close "conn-2" 1000 "done"]
    let one : Tally := { Tally.start with accepted := [.text "in"], hungUp := true }
    let two : Tally :=
      { Tally.start with delivered := [.text "out"], closedWith := some ⟨1000, "done"⟩ }
    tally? "conn-1" (course calls).1 = some one ∧ tally? "conn-2" (course calls).1 = some two ∧
      ((receive "conn-1").perform (course calls).2).1 =
        .received "conn-1" (.ready (.ok (.frame (.text "in")))) ∧
      ((clientReceive "conn-2").perform (course calls).2).1 =
        .clientReceived "conn-2" (some (some (.text "out"))) := by
  intro calls one two
  have first : tally? "conn-1" (course calls).1 = some one := by decide
  have second : tally? "conn-2" (course calls).1 = some two := by decide
  obtain ⟨-, -, hungUp, -⟩ := frames_in_order calls "conn-1" first
  obtain ⟨-, -, closed, -⟩ := frames_in_order calls "conn-2" second
  refine ⟨first, second, ?_, closed.clientReceived⟩
  rw [hungUp.received]
  rfl

-- The server has closed, and what the client sends is taken and received all the same.
theorem late_frame_accepted :
    let late : Frame := .text "late"
    (course [.connect, .receive "conn-1", .close "conn-1" 1000 "", .clientSend "conn-1" late,
        .choose true, .receiveAgain "conn-1" 0]).1 =
      [.connected "conn-1", .received "conn-1" (.waiting 0),
        .closed "conn-1" 1000 "" (.ok .closed), .clientSent "conn-1" late true, .chosen,
        .askedAgain "conn-1" 0 (.ready (.ok (.frame late)))] := by
  rfl

-- A frame that was sent before a hang-up is lost where the server closes without a receive.
example :
    (course [.connect, .clientSend "conn-1" (.text "x"), .hangUp "conn-1",
        .close "conn-1" 1000 "", .receive "conn-1"]).1 =
      [.connected "conn-1", .clientSent "conn-1" (.text "x") true, .hungUp "conn-1",
        .closed "conn-1" 1000 "" (.ok .closed), .received "conn-1" (.ready (.ok .closed))] := by
  rfl

end SessionCall
end EffectPrograms.Memory
