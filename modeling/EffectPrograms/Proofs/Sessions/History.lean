import EffectPrograms.Memory.Backends
import EffectPrograms.Proofs.Faults
import EffectPrograms.Proofs.Numerals
import Mathlib.Data.List.Induction

set_option autoImplicit false

namespace EffectPrograms.Memory
open Transport (Frame SendStatus Incoming CloseStatus)

-- What is asked of sessions. A receive that waits is asked for again, or given up; in between,
-- failures may be scheduled in any way, and the runtime may choose anew what comes first.
inductive SessionCall where
  | connect
  | send (id : String) (frame : Frame)
  | receive (id : String)
  | receiveAgain (id : String) (ticket : Nat)
  | giveUp (id : String) (ticket : Nat)
  | close (id : String) (code : Nat) (reason : String)
  | clientSend (id : String) (frame : Frame)
  | clientReceive (id : String)
  | hangUp (id : String)
  | schedule (faults : Faults)
  | choose (framesFirst : Bool)

inductive SessionEvent where
  | connected (id : String)
  | sent (id : String) (frame : Frame) (answer : Backed SendStatus)
  | received (id : String) (answer : Poll (Backed Incoming))
  | askedAgain (id : String) (ticket : Nat) (answer : Poll (Backed Incoming))
  | gaveUp (id : String) (ticket : Nat)
  | closed (id : String) (code : Nat) (reason : String) (answer : Backed CloseStatus)
  | clientSent (id : String) (frame : Frame) (accepted : Bool)
  | clientReceived (id : String) (answer : Option (Option Frame))
  | hungUp (id : String)
  | scheduled
  | chosen

def SessionEvent.session? : SessionEvent → Option String
  | connected id | sent id .. | received id _ | askedAgain id .. | gaveUp id _ | closed id ..
  | clientSent id .. | clientReceived id _ | hungUp id => some id
  | scheduled | chosen => none

abbrev SessionHistory := List SessionEvent

-- What a history says of one session: the frames that either side sent with success and those that
-- the other got, how the server closed it, whether the client hung up, and the receives that wait.
structure Tally where
  delivered : List Frame
  clientGot : List Frame
  accepted : List Frame
  serverGot : List Frame
  closedWith : Option CloseFrame
  hungUp : Bool
  waiting : List Nat
deriving DecidableEq

namespace Tally

def start : Tally := ⟨[], [], [], [], none, false, []⟩

def isClosed (tally : Tally) : Bool := tally.closedWith.isSome

def note (tally : Tally) : SessionEvent → Tally
  | .sent _ frame (.ok .delivered) => { tally with delivered := tally.delivered ++ [frame] }
  | .clientReceived _ (some (some frame)) => { tally with clientGot := tally.clientGot ++ [frame] }
  | .clientSent _ frame true => { tally with accepted := tally.accepted ++ [frame] }
  | .received _ (.ready (.ok (.frame frame))) =>
      { tally with serverGot := tally.serverGot ++ [frame] }
  | .received _ (.waiting ticket) => { tally with waiting := tally.waiting ++ [ticket] }
  | .askedAgain _ ticket (.ready (.ok (.frame frame))) =>
      { tally with
        serverGot := tally.serverGot ++ [frame]
        waiting := tally.waiting.erase ticket }
  | .askedAgain _ ticket (.ready _) => { tally with waiting := tally.waiting.erase ticket }
  | .gaveUp _ ticket => { tally with waiting := tally.waiting.filter fun other => other ≠ ticket }
  | .closed _ code reason (.ok .closed) => { tally with closedWith := some ⟨code, reason⟩ }
  | .hungUp _ => { tally with hungUp := true }
  | _ => tally

end Tally

namespace SessionHistory

-- The tally of a session after one more event; a session has none before it is connected.
def noted (id : String) (current : Option Tally) (event : SessionEvent) : Option Tally :=
  if event.session? = some id then
    match event with
    | .connected _ => some .start
    | event => current.map fun tally => tally.note event
  else current

def tally? (id : String) (history : SessionHistory) : Option Tally :=
  history.foldl (noted id) none

theorem tally?_snoc (id : String) (history : SessionHistory) (event : SessionEvent) :
    tally? id (history ++ [event]) = noted id (tally? id history) event := by
  rw [tally?, List.foldl_append]
  rfl

theorem noted_elsewhere {id : String} {event : SessionEvent} (elsewhere : event.session? ≠ some id)
    (current : Option Tally) : noted id current event = current := by
  unfold noted
  exact if_neg elsewhere

theorem noted_absent {id : String} {event : SessionEvent} (unopened : event ≠ .connected id) :
    noted id none event = none := by
  unfold noted
  split
  · next about =>
    split
    · exact absurd (congrArg _ (Option.some.inj about)) unopened
    · rfl
  · rfl

theorem noted_own {id : String} {event : SessionEvent} (about : event.session? = some id)
    (unopened : ∀ other, event ≠ .connected other) (tally : Tally) :
    noted id (some tally) event = some (tally.note event) := by
  unfold noted
  rw [if_pos about]
  split
  · exact absurd rfl (unopened _)
  · rfl

theorem noted_idle {id : String} {event : SessionEvent}
    (unopened : ∀ other, event ≠ .connected other)
    (idle : ∀ tally : Tally, tally.note event = tally)
    (current : Option Tally) : noted id current event = current := by
  unfold noted
  split
  · split
    · exact absurd rfl (unopened _)
    · simp [idle]
  · rfl

end SessionHistory

namespace Connection
open SessionHistory (noted)

-- How an event moves the session of a name, which may not be there yet.
inductive Moves (id : String) : Option Connection → SessionEvent → Option Connection → Prop where
  | opened : Moves id none (.connected id) (some .fresh)
  | sent (connection : Connection) (frame : Frame) :
      Moves id (some connection) (.sent id frame (.ok .delivered))
        (some { connection with outbound := connection.outbound.push frame })
  | clientReceived {connection : Connection} {frame : Frame}
      (first : connection.outbound[0]? = some frame) :
      Moves id (some connection) (.clientReceived id (some (some frame)))
        (some { connection with outbound := connection.outbound.extract 1 })
  | clientSent (connection : Connection) (frame : Frame) :
      Moves id (some connection) (.clientSent id frame true)
        (some { connection with inbound := connection.inbound.push frame })
  | received {connection left : Connection} {framesFirst : Bool} {incoming : Incoming}
      (next : connection.next? framesFirst = some (incoming, left)) :
      Moves id (some connection) (.received id (.ready (.ok incoming))) (some left)
  | queued (connection : Connection) (ticket : Nat) :
      Moves id (some connection) (.received id (.waiting ticket))
        (some { connection with waiting := connection.waiting ++ [ticket] })
  | served {connection left : Connection} {framesFirst : Bool} {ticket : Nat}
      {incoming : Incoming} (first : connection.waiting.head? = some ticket)
      (next : connection.next? framesFirst = some (incoming, left)) :
      Moves id (some connection) (.askedAgain id ticket (.ready (.ok incoming)))
        (some { left with waiting := left.waiting.tail })
  | gaveUp (connection : Connection) (ticket : Nat) :
      Moves id (some connection) (.gaveUp id ticket)
        (some { connection with
          waiting := connection.waiting.filter fun other => other ≠ ticket })
  | closed (connection : Connection) (code : Nat) (reason : String) :
      Moves id (some connection) (.closed id code reason (.ok .closed))
        (some { connection with closedWith := some ⟨code, reason⟩ })
  | hungUp (connection : Connection) :
      Moves id (some connection) (.hungUp id) (some { connection with hungUp := true })
  | aside (current : Option Connection) {event : SessionEvent}
      (silent : ∀ tally, noted id tally event = tally) : Moves id current event current
  | absent {event : SessionEvent} (unopened : event ≠ .connected id) : Moves id none event none

end Connection

namespace SessionTable
open Connection (Moves)

theorem connectionId_injective {m n : Nat} (same : connectionId m = connectionId n) : m = n := by
  have digits := congrArg String.toList ((String.append_right_inj _).mp same)
  rw [String.toList_ofList, String.toList_ofList] at digits
  rw [← Nat.ofDigitChars_ten_toDigits (n := m), digits, Nat.ofDigitChars_ten_toDigits]

-- The names in use are those that were given out.
def Issued (sessions : SessionTable) : Prop :=
  ∀ id, sessions.connections.contains id = true ↔
    ∃ n, n < sessions.issued ∧ id = connectionId (n + 1)

theorem empty_issued : empty.Issued := by
  intro id
  constructor
  · rintro ⟨⟩
  · rintro ⟨n, less, -⟩
    exact absurd less (Nat.not_lt_zero n)

-- What a call on the session of one name does to a table of sessions.
structure Steps (sessions : SessionTable) (name : String) (event : SessionEvent)
    (left : SessionTable) : Prop where
  about : event.session? = some name
  own : Moves name (sessions.connections.get? name) event (left.connections.get? name)
  others : ∀ id, id ≠ name → left.connections.get? id = sessions.connections.get? id
  names : ∀ id, left.connections.contains id = sessions.connections.contains id
  issued : left.issued = sessions.issued

variable {sessions left : SessionTable} {name id : String} {event : SessionEvent}

theorem Steps.kept (about : event.session? = some name)
    (unopened : ∀ other, event ≠ .connected other)
    (idle : ∀ tally : Tally, tally.note event = tally) : sessions.Steps name event sessions :=
  ⟨about, .aside _ (SessionHistory.noted_idle unopened idle), fun _ _ => rfl, fun _ => rfl, rfl⟩

theorem Steps.absent (about : event.session? = some name)
    (unknown : sessions.connections.get? name = none) (unopened : event ≠ .connected name) :
    sessions.Steps name event sessions :=
  ⟨about, by rw [unknown]; exact .absent unopened, fun _ _ => rfl, fun _ => rfl, rfl⟩

theorem Steps.updated (about : event.session? = some name) {connection later : Connection}
    (known : sessions.connections.get? name = some connection)
    (moves : Moves name (some connection) event (some later))
    (put : left.connections = sessions.connections.insert name later)
    (issued : left.issued = sessions.issued) : sessions.Steps name event left := by
  refine ⟨about, ?_, ?_, ?_, issued⟩
  · rw [known, put, Dict.get?_insert_self]
    exact moves
  · intro id apart
    rw [put, Dict.get?_insert, if_neg apart]
  · intro id
    rw [put, Dict.contains, Dict.contains, Dict.get?_insert]
    split
    · next same => rw [same, known]; rfl
    · rfl

theorem Steps.moves (steps : sessions.Steps name event left) (id : String) :
    Moves id (sessions.connections.get? id) event (left.connections.get? id) := by
  by_cases own : id = name
  · exact own ▸ steps.own
  · rw [steps.others id own]
    refine .aside _ (SessionHistory.noted_elsewhere ?_)
    rw [steps.about]
    exact fun same => own (Option.some.inj same).symm

theorem Steps.issuedNames (steps : sessions.Steps name event left) (known : sessions.Issued) :
    left.Issued := by
  intro id
  rw [steps.names, steps.issued]
  exact known id

section Calls
variable (sessions : SessionTable) (id : String)

theorem send_steps (frame : Frame) :
    sessions.Steps id (.sent id frame (sessions.send id frame).1) (sessions.send id frame).2 := by
  cases known : sessions.connections.get? id with
  | none =>
    simp only [send, known]
    exact .kept rfl (by simp) fun _ => rfl
  | some connection =>
    simp only [send, known]
    split
    · exact .kept rfl (by simp) fun _ => rfl
    · exact .updated rfl known (.sent connection frame) rfl rfl

theorem enqueue_steps {connection : Connection}
    (known : sessions.connections.get? id = some connection) :
    sessions.Steps id (.received id (sessions.enqueue id connection).1)
      (sessions.enqueue id connection).2 :=
  .updated rfl known (.queued connection sessions.tickets) rfl rfl

theorem receive_steps :
    sessions.Steps id (.received id (sessions.receive id).1) (sessions.receive id).2 := by
  cases known : sessions.connections.get? id with
  | none =>
    simp only [receive, known]
    exact .kept rfl (by simp) fun _ => rfl
  | some connection =>
    simp only [receive, known]
    split
    · exact .kept rfl (by simp) fun _ => rfl
    · split
      · split
        · next incoming left next => exact .updated rfl known (.received next) rfl rfl
        · exact sessions.enqueue_steps id known
      · exact sessions.enqueue_steps id known

theorem receiveAgain_steps (ticket : Nat) :
    sessions.Steps id (.askedAgain id ticket (sessions.receiveAgain id ticket).1)
      (sessions.receiveAgain id ticket).2 := by
  cases known : sessions.connections.get? id with
  | none =>
    simp only [receiveAgain, known]
    exact .kept rfl (by simp) fun _ => rfl
  | some connection =>
    simp only [receiveAgain, known]
    split
    · next first =>
      split
      · next incoming left next => exact .updated rfl known (.served first next) rfl rfl
      · exact .kept rfl (by simp) fun _ => rfl
    · exact .kept rfl (by simp) fun _ => rfl

theorem abandon_steps (ticket : Nat) :
    sessions.Steps id (.gaveUp id ticket) (sessions.abandon id ticket) := by
  cases known : sessions.connections.get? id with
  | none =>
    simp only [abandon, known]
    exact .absent rfl known (by simp)
  | some connection =>
    simp only [abandon, known]
    exact .updated rfl known (.gaveUp connection ticket) rfl rfl

theorem close_steps (code : Nat) (reason : String) :
    sessions.Steps id (.closed id code reason (sessions.close id code reason).1)
      (sessions.close id code reason).2 := by
  cases known : sessions.connections.get? id with
  | none =>
    simp only [close, known]
    exact .kept rfl (by simp) fun _ => rfl
  | some connection =>
    simp only [close, known]
    split
    · exact .kept rfl (by simp) fun _ => rfl
    · exact .updated rfl known (.closed connection code reason) rfl rfl

theorem clientSend_steps (frame : Frame) :
    sessions.Steps id (.clientSent id frame (sessions.clientSend id frame).1)
      (sessions.clientSend id frame).2 := by
  cases known : sessions.connections.get? id with
  | none =>
    simp only [clientSend, known]
    exact .kept rfl (by simp) fun _ => rfl
  | some connection =>
    simp only [clientSend, known]
    split
    · exact .kept rfl (by simp) fun _ => rfl
    · exact .updated rfl known (.clientSent connection frame) rfl rfl

theorem clientReceive_steps :
    sessions.Steps id (.clientReceived id (sessions.clientReceive id).1)
      (sessions.clientReceive id).2 := by
  cases known : sessions.connections.get? id with
  | none =>
    simp only [clientReceive, known]
    exact .kept rfl (by simp) fun _ => rfl
  | some connection =>
    simp only [clientReceive, known]
    split
    · next frame first => exact .updated rfl known (.clientReceived first) rfl rfl
    · split
      · exact .kept rfl (by simp) fun _ => rfl
      · exact .kept rfl (by simp) fun _ => rfl

theorem hangUp_steps : sessions.Steps id (.hungUp id) (sessions.hangUp id) := by
  cases known : sessions.connections.get? id with
  | none =>
    simp only [hangUp, known]
    exact .absent rfl known (by simp)
  | some connection =>
    simp only [hangUp, known]
    exact .updated rfl known (.hungUp connection) rfl rfl

end Calls

theorem get?_connect (sessions : SessionTable) (id : String) :
    sessions.connect.2.connections.get? id =
      if id = sessions.connect.1 then some .fresh else sessions.connections.get? id :=
  Dict.get?_insert ..

theorem connect_moves (known : sessions.Issued) (id : String) :
    Moves id (sessions.connections.get? id) (.connected sessions.connect.1)
      (sessions.connect.2.connections.get? id) := by
  rw [get?_connect]
  split
  · next own =>
    have unused : sessions.connections.get? id = none := by
      cases used : sessions.connections.get? id with
      | none => rfl
      | some connection =>
        obtain ⟨n, less, same⟩ := (known id).mp (by rw [Dict.contains, used]; rfl)
        have last : n = sessions.issued :=
          Nat.succ.inj (connectionId_injective (same.symm.trans own))
        exact absurd less (last ▸ Nat.lt_irrefl _)
    rw [unused, ← own]
    exact .opened
  · next other =>
    refine .aside _ (SessionHistory.noted_elsewhere ?_)
    exact fun same => other (Option.some.inj same).symm

theorem connect_issued (known : sessions.Issued) : sessions.connect.2.Issued := by
  intro id
  rw [Dict.contains, get?_connect]
  constructor
  · split
    · next own => exact fun _ => ⟨sessions.issued, Nat.lt_succ_self _, own⟩
    · intro used
      obtain ⟨n, less, same⟩ := (known id).mp used
      exact ⟨n, Nat.lt_succ_of_lt less, same⟩
  · rintro ⟨n, less, same⟩
    split
    · rfl
    · next other =>
      refine (known id).mpr ⟨n, Nat.lt_of_le_of_ne (Nat.le_of_lt_succ less) ?_, same⟩
      rintro rfl
      exact other same

end SessionTable

namespace SessionCall

-- The session layer of the backends; the clients' ends are not among its calls.
def perform (call : SessionCall) (backends : Backends) : SessionEvent × Backends :=
  let sessions := backends.sessions.store
  let put (store : SessionTable) : Backends :=
    { backends with sessions := { backends.sessions with store } }
  match call with
  | connect => (.connected sessions.connect.1, put sessions.connect.2)
  | send id frame =>
      let (answer, left) := Backends.sessionLayer.send id frame backends
      (.sent id frame answer, left)
  | receive id =>
      let (answer, left) := Backends.sessionLayer.receive id backends
      (.received id answer, left)
  | receiveAgain id ticket =>
      let (answer, left) := Backends.sessionLayer.receiveAgain id ticket backends
      (.askedAgain id ticket answer, left)
  | giveUp id ticket =>
      (.gaveUp id ticket, backends.abandon (.transport (.receive id)) ticket)
  | close id code reason =>
      let (answer, left) := Backends.sessionLayer.close id code reason backends
      (.closed id code reason answer, left)
  | clientSend id frame =>
      (.clientSent id frame (sessions.clientSend id frame).1,
        put (sessions.clientSend id frame).2)
  | clientReceive id =>
      (.clientReceived id (sessions.clientReceive id).1, put (sessions.clientReceive id).2)
  | hangUp id => (.hungUp id, put (sessions.hangUp id))
  | schedule faults => (.scheduled, { backends with sessions := { backends.sessions with faults } })
  | choose framesFirst => (.chosen, put { sessions with framesFirst })

def session? : SessionCall → Option String
  | send id _ | receive id | receiveAgain id _ | giveUp id _ | close id _ _ | clientSend id _
  | clientReceive id | hangUp id => some id
  | connect | schedule _ | choose _ => none

theorem perform_steps {call : SessionCall} {id : String} (about : call.session? = some id)
    (backends : Backends) :
    backends.sessions.store.Steps id (call.perform backends).1
      (call.perform backends).2.sessions.store := by
  cases call with
  | connect | schedule | choose => cases about
  | send other frame =>
    obtain rfl := Option.some.inj about
    exact Faulty.call_either _ _ _ _
      (motive := fun answer (left : SessionTable) =>
        SessionTable.Steps _ other (.sent other frame answer) left)
      (fun _ => .kept rfl (by simp) fun _ => rfl) (SessionTable.send_steps _ other frame)
  | receive other =>
    obtain rfl := Option.some.inj about
    exact Faulty.call_either _ _ _ _
      (motive := fun answer (left : SessionTable) =>
        SessionTable.Steps _ other (.received other answer) left)
      (fun _ => .kept rfl (by simp) fun _ => rfl) (SessionTable.receive_steps _ other)
  | receiveAgain other ticket =>
    obtain rfl := Option.some.inj about
    exact SessionTable.receiveAgain_steps _ other ticket
  | giveUp other ticket =>
    obtain rfl := Option.some.inj about
    exact SessionTable.abandon_steps _ other ticket
  | close other code reason =>
    obtain rfl := Option.some.inj about
    exact Faulty.call_either _ _ _ _
      (motive := fun answer (left : SessionTable) =>
        SessionTable.Steps _ other (.closed other code reason answer) left)
      (fun _ => .kept rfl (by simp) fun _ => rfl) (SessionTable.close_steps _ other code reason)
  | clientSend other frame =>
    obtain rfl := Option.some.inj about
    exact SessionTable.clientSend_steps _ other frame
  | clientReceive other =>
    obtain rfl := Option.some.inj about
    exact SessionTable.clientReceive_steps _ other
  | hangUp other =>
    obtain rfl := Option.some.inj about
    exact SessionTable.hangUp_steps _ other

variable {backends : Backends}

theorem perform_moves (known : backends.sessions.store.Issued) (call : SessionCall) (id : String) :
    Connection.Moves id (backends.sessions.store.connections.get? id) (call.perform backends).1
      ((call.perform backends).2.sessions.store.connections.get? id) := by
  cases about : call.session? with
  | some name => exact (perform_steps about backends).moves id
  | none =>
    cases call with
    | connect => exact SessionTable.connect_moves known id
    | schedule | choose => exact .aside _ (SessionHistory.noted_elsewhere nofun)
    | _ => cases about

theorem perform_issued (known : backends.sessions.store.Issued) (call : SessionCall) :
    (call.perform backends).2.sessions.store.Issued := by
  cases about : call.session? with
  | some name => exact (perform_steps about backends).issuedNames known
  | none =>
    cases call with
    | connect => exact SessionTable.connect_issued known
    | schedule | choose => exact known
    | _ => cases about

def record (reached : SessionHistory × Backends) (call : SessionCall) :
    SessionHistory × Backends :=
  (reached.1 ++ [(call.perform reached.2).1], (call.perform reached.2).2)

def course (calls : List SessionCall) : SessionHistory × Backends :=
  calls.foldl record ([], .empty)

theorem course_keeps {motive : SessionHistory → Backends → Prop} (start : motive [] .empty)
    (kept : ∀ history backends (call : SessionCall), backends.sessions.store.Issued →
      motive history backends →
        motive (history ++ [(call.perform backends).1]) (call.perform backends).2)
    (calls : List SessionCall) :
    (course calls).2.sessions.store.Issued ∧ motive (course calls).1 (course calls).2 := by
  induction calls using List.reverseRecOn with
  | nil => exact ⟨SessionTable.empty_issued, start⟩
  | append_singleton calls call ih =>
    obtain ⟨issued, held⟩ := ih
    rw [course, List.foldl_append, ← course]
    exact ⟨perform_issued issued call, kept _ _ call issued held⟩

end SessionCall
end EffectPrograms.Memory
