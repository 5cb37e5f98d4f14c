import EffectPrograms.Dict
import EffectPrograms.Dispatch.Basic

set_option autoImplicit false

namespace EffectPrograms.Memory
open Transport (Frame SendStatus Incoming CloseStatus)

structure CloseFrame where
  code : Nat
  reason : String
deriving DecidableEq

structure Connection where
  outbound : Array Frame
  inbound : Array Frame
  hungUp : Bool
  abandoned : Bool
  closedWith : Option CloseFrame
  waiting : List Nat
deriving DecidableEq

namespace Connection

def fresh : Connection := ⟨#[], #[], false, false, none, []⟩

def isClosed (connection : Connection) : Bool := connection.closedWith.isSome

-- A receive that waits outlives a close, and keeps what the peer sends from being refused.
def isReleased (connection : Connection) : Bool :=
  connection.isClosed && connection.waiting.isEmpty

-- What a receive that has its turn gets now, if it gets anything. Where the server has closed and a
-- frame is queued, either may come first.
def next? (connection : Connection) (framesFirst : Bool) : Option (Incoming × Connection) :=
  match connection.inbound[0]? with
  | some frame =>
      if connection.isClosed && !framesFirst then some (.closed, connection)
      else some (.frame frame, { connection with inbound := connection.inbound.extract 1 })
  | none => if connection.isClosed || connection.hungUp then some (.closed, connection) else none

end Connection

-- `framesFirst` is the runtime's choice where a receive could get a frame or the end; it may change
-- at any time. Sessions are counted without a bound: no difference up to 2 to the 64 of them.
structure SessionTable where
  connections : Dict Connection
  issued : Nat
  tickets : Nat
  framesFirst : Bool
deriving DecidableEq

namespace SessionTable

def empty : SessionTable := ⟨∅, 0, 0, false⟩

def connectionId (n : Nat) : String := "conn-" ++ String.ofList (Nat.toDigits 10 n)

def unknownConnection (id : String) : BackendError := .invalidRequest ("unknown connection " ++ id)

def update (sessions : SessionTable) (id : String) (connection : Connection) : SessionTable :=
  { sessions with connections := sessions.connections.insert id connection }

def connect (sessions : SessionTable) : String × SessionTable :=
  let id := connectionId (sessions.issued + 1)
  (id, { sessions.update id .fresh with issued := sessions.issued + 1 })

def openConnections (sessions : SessionTable) : Nat :=
  (sessions.connections.filter fun connection => !connection.isClosed).size

def send (sessions : SessionTable) (id : String) (frame : Frame) :
    Except BackendError SendStatus × SessionTable :=
  match sessions.connections.get? id with
  | none => (.error (unknownConnection id), sessions)
  | some connection =>
      if connection.isClosed || connection.abandoned then (.ok .closed, sessions)
      else
        (.ok .delivered,
          sessions.update id { connection with outbound := connection.outbound.push frame })

def enqueue (sessions : SessionTable) (id : String) (connection : Connection) :
    Poll (Except BackendError Incoming) × SessionTable :=
  let ticket := sessions.tickets
  let queued := { connection with waiting := connection.waiting ++ [ticket] }
  (.waiting ticket, { sessions.update id queued with tickets := ticket + 1 })

def receive (sessions : SessionTable) (id : String) :
    Poll (Except BackendError Incoming) × SessionTable :=
  match sessions.connections.get? id with
  | none => (.ready (.error (unknownConnection id)), sessions)
  | some connection =>
      if connection.isClosed then (.ready (.ok .closed), sessions)
      else if connection.waiting.isEmpty then
        match connection.next? sessions.framesFirst with
        | some (incoming, connection) => (.ready (.ok incoming), sessions.update id connection)
        | none => sessions.enqueue id connection
      else sessions.enqueue id connection

-- A receive that waits is served when it is the first of its connection.
def receiveAgain (sessions : SessionTable) (id : String) (ticket : Nat) :
    Poll (Except BackendError Incoming) × SessionTable :=
  match sessions.connections.get? id with
  | none => (.waiting ticket, sessions)
  | some connection =>
      if connection.waiting.head? = some ticket then
        match connection.next? sessions.framesFirst with
        | some (incoming, connection) =>
            (.ready (.ok incoming),
              sessions.update id { connection with waiting := connection.waiting.tail })
        | none => (.waiting ticket, sessions)
      else (.waiting ticket, sessions)

def abandon (sessions : SessionTable) (id : String) (ticket : Nat) : SessionTable :=
  match sessions.connections.get? id with
  | none => sessions
  | some connection =>
      sessions.update id
        { connection with waiting := connection.waiting.filter fun other => other ≠ ticket }

def close (sessions : SessionTable) (id : String) (code : Nat) (reason : String) :
    Except BackendError CloseStatus × SessionTable :=
  match sessions.connections.get? id with
  | none => (.error (unknownConnection id), sessions)
  | some connection =>
      if connection.isClosed then (.ok .alreadyClosed, sessions)
      else
        (.ok .closed, sessions.update id { connection with closedWith := some ⟨code, reason⟩ })

def clientSend (sessions : SessionTable) (id : String) (frame : Frame) : Bool × SessionTable :=
  match sessions.connections.get? id with
  | none => (false, sessions)
  | some connection =>
      if connection.isReleased || connection.hungUp then (false, sessions)
      else
        (true, sessions.update id { connection with inbound := connection.inbound.push frame })

-- A frame, or none once the server has closed; the outer none stands for nothing to deliver yet.
def clientReceive (sessions : SessionTable) (id : String) : Option (Option Frame) × SessionTable :=
  match sessions.connections.get? id with
  | none => (some none, sessions)
  | some connection =>
      match connection.outbound[0]? with
      | some frame =>
          (some (some frame),
            sessions.update id { connection with outbound := connection.outbound.extract 1 })
      | none => (if connection.isClosed then some none else none, sessions)

def hangUp (sessions : SessionTable) (id : String) : SessionTable :=
  match sessions.connections.get? id with
  | none => sessions
  | some connection => sessions.update id { connection with hungUp := true }

-- The peer is gone: it neither sends nor receives any more.
def dropClient (sessions : SessionTable) (id : String) : SessionTable :=
  match sessions.connections.get? id with
  | none => sessions
  | some connection => sessions.update id { connection with hungUp := true, abandoned := true }

def closeFrame (sessions : SessionTable) (id : String) : Option CloseFrame :=
  (sessions.connections.get? id).bind (·.closedWith)

end SessionTable
end EffectPrograms.Memory
