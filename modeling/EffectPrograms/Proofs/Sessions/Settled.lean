import EffectPrograms.Proofs.Happenings
import EffectPrograms.Proofs.Schedule
import EffectPrograms.Proofs.Sessions.Frames

set_option autoImplicit false

namespace EffectPrograms

theorem Poll.waits_map {β γ : Type} (effect : Effect) (answer : Poll β) (f : β → γ) :
    (answer.map f).waits effect = answer.waits effect := by
  cases answer <;> rfl

namespace Memory
open Transport (Frame)

namespace SessionTable

def pending (sessions : SessionTable) (wait : Effect × Nat) : Nat :=
  match wait.1 with
  | .transport (.receive id) =>
      match sessions.connections.get? id with
      | some connection => connection.waiting.count wait.2
      | none => 0
  | _ => 0

def ledger : Ledger SessionTable := ⟨(·.tickets), pending⟩

variable {sessions : SessionTable} {id : String} {connection later : Connection}

theorem pending_receive (known : sessions.connections.get? id = some connection) (ticket : Nat) :
    sessions.pending (.transport (.receive id), ticket) = connection.waiting.count ticket := by
  simp only [pending, known]

theorem pending_empty (wait : Effect × Nat) : empty.pending wait = 0 := by
  rw [pending]
  split <;> rfl

theorem pending_of_insert {left : SessionTable}
    (put : left.connections = sessions.connections.insert id later) (wait : Effect × Nat) :
    left.pending wait =
      if wait.1 = .transport (.receive id) then later.waiting.count wait.2
      else sessions.pending wait := by
  obtain ⟨effect, ticket⟩ := wait
  split
  · next same =>
    obtain rfl : effect = .transport (.receive id) := same
    exact pending_receive (by rw [put, Dict.get?_insert_self]) ticket
  · next other =>
    rw [pending, pending]
    split
    · next name own =>
      have apart : name ≠ id := fun same => other (same ▸ own)
      rw [put, Dict.get?_insert, if_neg apart]
    · rfl

theorem exchanges_put (known : sessions.connections.get? id = some connection)
    (fewer : ∀ ticket, later.waiting.count ticket ≤ connection.waiting.count ticket) :
    ledger.Exchanges sessions [] [] (sessions.update id later) := by
  refine ⟨Nat.le_refl _, by simp, fun wait => ?_⟩
  obtain ⟨effect, ticket⟩ := wait
  change (sessions.update id later).pending _ ≤ sessions.pending _ - 0 + 0
  rw [pending_of_insert rfl]
  split
  · next own =>
    obtain rfl : effect = .transport (.receive id) := own
    rw [pending_receive known]
    exact fewer ticket
  · exact Nat.le_refl _

theorem exchanges_kept (known : sessions.connections.get? id = some connection)
    (same : later.waiting = connection.waiting) :
    ledger.Exchanges sessions [] [] (sessions.update id later) :=
  exchanges_put known fun _ => Nat.le_of_eq (by rw [same])

theorem enqueue_exchanges (known : sessions.connections.get? id = some connection) :
    ledger.Exchanges sessions []
      ((sessions.enqueue id connection).1.waits (.transport (.receive id)))
      (sessions.enqueue id connection).2 := by
  refine ⟨Nat.le_succ _, ?_, fun wait => ?_⟩
  · rintro wait (_ | ⟨_, ⟨⟩⟩)
    exact ⟨Nat.le_refl _, Nat.lt_succ_self _⟩
  · obtain ⟨effect, ticket⟩ := wait
    change (sessions.enqueue id connection).2.pending _ ≤ sessions.pending _ - 0 + _
    rw [pending_of_insert rfl]
    split
    · next own =>
      obtain rfl : effect = .transport (.receive id) := own
      rw [pending_receive known]
      simp [enqueue, Poll.waits, List.count_cons]
    · exact Nat.le_add_right _ _

theorem send_exchanges (sessions : SessionTable) (id : String) (frame : Frame) :
    ledger.Exchanges sessions [] [] (sessions.send id frame).2 := by
  cases known : sessions.connections.get? id with
  | none =>
    simp only [send, known]
    exact .same
  | some connection =>
    simp only [send, known]
    split
    · exact .same
    · exact exchanges_kept known rfl

theorem close_exchanges (sessions : SessionTable) (id : String) (code : Nat) (reason : String) :
    ledger.Exchanges sessions [] [] (sessions.close id code reason).2 := by
  cases known : sessions.connections.get? id with
  | none =>
    simp only [close, known]
    exact .same
  | some connection =>
    simp only [close, known]
    split
    · exact .same
    · exact exchanges_kept known rfl

theorem receive_exchanges (sessions : SessionTable) (id : String) :
    ledger.Exchanges sessions [] ((sessions.receive id).1.waits (.transport (.receive id)))
      (sessions.receive id).2 := by
  cases known : sessions.connections.get? id with
  | none =>
    simp only [receive, known]
    exact .same
  | some connection =>
    simp only [receive, known]
    split
    · exact .same
    · split
      · split
        · next next => exact exchanges_kept known (Connection.next?_waiting next)
        · exact enqueue_exchanges known
      · exact enqueue_exchanges known

theorem work_exchanges (sessions : SessionTable) (request : Transport.Request) :
    ledger.Exchanges sessions [] ((sessions.work request).1.waits (.transport request))
      (sessions.work request).2 := by
  cases request with
  | send id frame => exact sessions.send_exchanges id frame
  | receive id => exact sessions.receive_exchanges id
  | close id code reason => exact sessions.close_exchanges id code reason

section Others
variable (sessions : SessionTable) (id : String)

theorem connect_exchanges : ledger.Exchanges sessions [] [] sessions.connect.2 := by
  refine ⟨Nat.le_refl _, by simp, fun wait => ?_⟩
  change sessions.connect.2.pending wait ≤ sessions.pending wait - 0 + 0
  have put : sessions.connect.2.connections =
      sessions.connections.insert sessions.connect.1 .fresh := rfl
  rw [pending_of_insert put]
  split
  · exact Nat.zero_le _
  · exact Nat.le_refl _

theorem abandon_exchanges (ticket : Nat) :
    ledger.Exchanges sessions [] [] (sessions.abandon id ticket) := by
  cases known : sessions.connections.get? id with
  | none =>
    simp only [abandon, known]
    exact .same
  | some connection =>
    simp only [abandon, known]
    exact exchanges_put known fun other => List.filter_sublist.count_le other

theorem clientSend_exchanges (frame : Frame) :
    ledger.Exchanges sessions [] [] (sessions.clientSend id frame).2 := by
  cases known : sessions.connections.get? id with
  | none =>
    simp only [clientSend, known]
    exact .same
  | some connection =>
    simp only [clientSend, known]
    split
    · exact .same
    · exact exchanges_kept known rfl

theorem clientReceive_exchanges :
    ledger.Exchanges sessions [] [] (sessions.clientReceive id).2 := by
  cases known : sessions.connections.get? id with
  | none =>
    simp only [clientReceive, known]
    exact .same
  | some connection =>
    simp only [clientReceive, known]
    split
    · exact exchanges_kept known rfl
    · exact .same

theorem hangUp_exchanges : ledger.Exchanges sessions [] [] (sessions.hangUp id) := by
  cases known : sessions.connections.get? id with
  | none =>
    simp only [hangUp, known]
    exact .same
  | some connection =>
    simp only [hangUp, known]
    exact exchanges_kept known rfl

theorem dropClient_exchanges : ledger.Exchanges sessions [] [] (sessions.dropClient id) := by
  cases known : sessions.connections.get? id with
  | none =>
    simp only [dropClient, known]
    exact .same
  | some connection =>
    simp only [dropClient, known]
    exact exchanges_kept known rfl

end Others

theorem receiveAgain_exchanges {ticket : Nat} {answer : Backed Transport.Incoming}
    {left : SessionTable} (served : sessions.receiveAgain id ticket = (.ready answer, left)) :
    ledger.Exchanges sessions [(.transport (.receive id), ticket)] [] left := by
  rw [receiveAgain] at served
  split at served
  · cases served
  · next connection known =>
    split at served
    · next first =>
      split at served
      · next incoming connection' next =>
        cases served
        refine ⟨Nat.le_refl _, by simp, fun wait => ?_⟩
        obtain ⟨effect, other⟩ := wait
        change (sessions.update id _).pending _ ≤ sessions.pending _ - _ + 0
        rw [pending_of_insert rfl]
        split
        · next own =>
          obtain rfl : effect = .transport (.receive id) := own
          rw [pending_receive known, Connection.next?_waiting next]
          obtain ⟨rest, queued⟩ := List.head?_eq_some_iff.mp first
          rw [queued]
          simp [List.count_cons]
        · next apart => simp [Ne.symm apart]
      · cases served
    · cases served

theorem receiveAgain_waits {ticket given : Nat} {left : SessionTable}
    (waited : sessions.receiveAgain id ticket = (.waiting given, left)) :
    given = ticket ∧ left = sessions := by
  rw [receiveAgain] at waited
  split at waited
  · cases waited
    exact ⟨rfl, rfl⟩
  · split at waited
    · split at waited
      · cases waited
      · cases waited
        exact ⟨rfl, rfl⟩
    · cases waited
      exact ⟨rfl, rfl⟩

theorem idle_of_waits {ticket : Nat} (known : sessions.connections.get? id = some connection)
    (first : connection.waiting.head? = some ticket)
    (waits : (sessions.receiveAgain id ticket).1 = .waiting ticket) :
    connection.isClosed = false ∧ connection.hungUp = false ∧ connection.inbound = #[] := by
  simp only [receiveAgain, known, first, if_true] at waits
  split at waits
  · cases waits
  · next blocked =>
    rw [Connection.next?] at blocked
    split at blocked
    · split at blocked <;> cases blocked
    · next empty =>
      split at blocked
      · cases blocked
      · next still =>
        obtain ⟨opened, there⟩ : connection.isClosed = false ∧ connection.hungUp = false := by
          simpa using still
        exact ⟨opened, there, by simpa using empty⟩

-- Where no receive waits on a closed session, the client is refused once either end has closed.
theorem clientSend_of_idle (known : sessions.connections.get? id = some connection)
    (idle : connection.waiting ≠ [] → connection.isClosed = false) (frame : Frame) :
    (sessions.clientSend id frame).1 = !(connection.isClosed || connection.hungUp) := by
  have released : connection.isReleased = connection.isClosed := by
    cases waiting : connection.waiting with
    | nil => simp [Connection.isReleased, waiting]
    | cons ticket rest =>
      have opened := idle (by simp [waiting])
      simp [Connection.isReleased, opened]
  simp only [clientSend, known, released]
  cases connection.isClosed <;> cases connection.hungUp <;> rfl

end SessionTable

namespace Backends

def ledger : Ledger Backends := SessionTable.ledger.comap fun backends => backends.sessions.store

theorem perform_exchanges (config : Config) (effect : Effect) (backends : Backends) :
    ledger.Exchanges backends []
      ((collaborators.perform config effect backends).1.waits effect)
      (collaborators.perform config effect backends).2 := by
  refine Ledger.exchanges_comap.mpr ?_
  refine perform_either (motive := fun answer data => SessionTable.ledger.Exchanges
    backends.sessions.store [] (answer.waits effect) data.sessions) (fun _ => .same) ?_
  cases effect with
  | transport request => exact backends.sessions.store.work_exchanges request
  | storage | object | cache | messaging => exact .same

section Again
variable {config : Config} {effect : Effect} {ticket : Nat} {backends left : Backends}

theorem performAgain_other (other : ∀ id, effect ≠ .transport (.receive id)) (config : Config)
    (ticket : Nat) (backends : Backends) :
    collaborators.performAgain config effect ticket backends =
        collaborators.perform config effect backends ∧
      (collaborators.perform config effect backends).1.waits effect = [] := by
  cases effect with
  | transport request =>
    cases request with
    | receive id => exact absurd rfl (other id)
    | send | close => exact ⟨rfl, rfl⟩
  | storage | object | cache | messaging => exact ⟨rfl, rfl⟩

theorem pending_other (other : ∀ id, effect ≠ .transport (.receive id)) (backends : Backends)
    (ticket : Nat) : ledger.pending backends (effect, ticket) = 0 := by
  change backends.sessions.store.pending (effect, ticket) = 0
  rw [SessionTable.pending]
  split
  · next id same => exact absurd same (other id)
  · rfl

theorem performAgain_receive (id : String) :
    collaborators.performAgain config (.transport (.receive id)) ticket backends =
      let asked := backends.sessions.store.receiveAgain id ticket
      (asked.1, { backends with sessions := { backends.sessions with store := asked.2 } }) := by
  rfl

theorem performAgain_serves {answer : Backed effect.Response}
    (served : collaborators.performAgain config effect ticket backends = (.ready answer, left)) :
    ledger.Exchanges backends [(effect, ticket)] [] left := by
  by_cases receives : ∃ id, effect = .transport (.receive id)
  · obtain ⟨id, rfl⟩ := receives
    rw [performAgain_receive] at served
    obtain ⟨ready, rfl⟩ := Prod.mk.inj served
    exact Ledger.exchanges_comap.mpr (SessionTable.receiveAgain_exchanges (Prod.ext ready rfl))
  · have other := not_exists.mp receives
    obtain ⟨same, idle⟩ := performAgain_other other config ticket backends
    have exchanges := perform_exchanges config effect backends
    rw [idle, ← same, served] at exchanges
    refine ⟨exchanges.le, exchanges.fresh, fun wait => ?_⟩
    by_cases own : wait = (effect, ticket)
    · rw [own, pending_other other]
      exact Nat.zero_le _
    · simpa [Ne.symm own] using exchanges.pending wait

theorem performAgain_waits {given : Nat}
    (waited : collaborators.performAgain config effect ticket backends = (.waiting given, left)) :
    given = ticket ∧ left = backends := by
  by_cases receives : ∃ id, effect = .transport (.receive id)
  · obtain ⟨id, rfl⟩ := receives
    rw [performAgain_receive] at waited
    obtain ⟨waits, rfl⟩ := Prod.mk.inj waited
    obtain ⟨rfl, same⟩ := SessionTable.receiveAgain_waits (Prod.ext waits rfl)
    let put (sessions : SessionTable) : Backends :=
      { backends with sessions := { backends.sessions with store := sessions } }
    exact ⟨rfl, congrArg put same⟩
  · obtain ⟨same, idle⟩ := performAgain_other (not_exists.mp receives) config ticket
      backends
    rw [← same, waited] at idle
    cases idle

end Again

theorem again_eq (families : Family → Bool) (config : Config) (effect : Effect) (ticket : Nat)
    (backends : Backends) :
    (dispatcherFor families config).again effect ticket backends =
      let asked := collaborators.performAgain config effect ticket backends
      (asked.1.map (config.outcome effect), asked.2) := by
  rfl

theorem dispatcherFor_keeps (families : Family → Bool) (config : Config) :
    (dispatcherFor families config).Keeps ledger where
  interprets effect backends := by
    simp only [dispatcherFor, Dispatcher.standard]
    split
    · split
      · exact .same
      · rw [Poll.waits_map]
        exact perform_exchanges config effect backends
    · exact .same
  serves effect ticket backends outcome left served := by
    rw [again_eq] at served
    obtain ⟨ready, rfl⟩ := Prod.mk.inj served
    rcases answer : (collaborators.performAgain config effect ticket backends).1 with backed | given
    · exact performAgain_serves (Prod.ext answer rfl)
    · rw [answer] at ready
      cases ready
  waits effect ticket backends later left waited := by
    rw [again_eq] at waited
    obtain ⟨waits, rfl⟩ := Prod.mk.inj waited
    rcases answer : (collaborators.performAgain config effect ticket backends).1 with backed | given
    · rw [answer] at waits
      cases waits
    · rw [answer] at waits
      obtain rfl := Poll.waiting.inj waits
      exact performAgain_waits (Prod.ext answer rfl)

theorem idle_of_rests {α : Type} {run : Waiting α Backends} {families : Family → Bool}
    {config : Config} {backends : Backends} {id : String} {connection : Connection}
    (under : run.dispatcher = dispatcherFor families config) (rests : run.Rests backends)
    (receives : run.effect = .transport (.receive id))
    (known : backends.sessions.store.connections.get? id = some connection)
    (first : connection.waiting.head? = some run.ticket) :
    connection.isClosed = false ∧ connection.hungUp = false ∧ connection.inbound = #[] := by
  rw [Waiting.Rests, under, receives] at rests
  have answered := congrArg Prod.fst rests
  refine SessionTable.idle_of_waits known first ?_
  change Poll.map _ (backends.sessions.store.receiveAgain id run.ticket).1 = _ at answered
  rcases asked : (backends.sessions.store.receiveAgain id run.ticket).1 with backed | given
  · rw [asked] at answered
    cases answered
  · rw [asked] at answered
    exact congrArg _ (Poll.waiting.inj answered)

theorem dispatch_amid {config : Config} {dispatcher : Dispatcher Backends} {effect : Effect}
    (valid : Backends.dispatcher config = .ok dispatcher)
    (other : ∀ id, effect ≠ .transport (.receive id)) (backends : Backends) :
    ledger.Exchanges backends [] [] (dispatcher.interpret effect backends).2 := by
  have exchanges :=
    (dispatcher_eq valid ▸ dispatcherFor_keeps _ config).interprets effect backends
  rcases answer : dispatcher.interpret effect backends with ⟨outcome | ticket, left⟩
  · rwa [answer] at exchanges
  · obtain ⟨id, receives⟩ := interpret_waits valid answer
    exact absurd receives (other id)

theorem askAgain_amid {config : Config} {dispatcher : Dispatcher Backends}
    (valid : Backends.dispatcher config = .ok dispatcher) (effect : Effect) (ticket : Nat)
    (backends : Backends) :
    ledger.Exchanges backends [] [] (dispatcher.again effect ticket backends).2 := by
  have keeps : dispatcher.Keeps ledger := dispatcher_eq valid ▸ dispatcherFor_keeps _ config
  rcases answer : dispatcher.again effect ticket backends with ⟨outcome | later, left⟩
  · exact (keeps.serves effect ticket backends outcome left answer).weaken
  · obtain ⟨-, rfl⟩ := keeps.waits effect ticket backends later left answer
    exact .same

theorem exchanges_of_store {backends left : Backends}
    (same : left.sessions.store = backends.sessions.store) :
    ledger.Exchanges backends [] [] left := by
  refine Ledger.exchanges_comap.mpr ?_
  rw [same]
  exact .same

theorem happening_amid {happening : Happening}
    (other : ∀ config id, happening ≠ .dispatch config (.transport (.receive id)))
    (backends : Backends) :
    ledger.Exchanges backends [] [] (happening.perform backends) := by
  cases happening with
  | dispatch config effect =>
    rw [Happening.perform]
    split
    · next valid =>
      exact dispatch_amid valid (fun id same => other config id (congrArg _ same)) backends
    · exact .same
  | askAgain config connection ticket =>
    rw [Happening.perform]
    split
    · next valid => exact askAgain_amid valid _ ticket backends
    · exact .same
  | giveUp id ticket =>
    exact Ledger.exchanges_comap.mpr (backends.sessions.store.abandon_exchanges id ticket)
  | connect => exact Ledger.exchanges_comap.mpr backends.sessions.store.connect_exchanges
  | clientSend id frame =>
    exact Ledger.exchanges_comap.mpr (backends.sessions.store.clientSend_exchanges id frame)
  | clientReceive id =>
    exact Ledger.exchanges_comap.mpr (backends.sessions.store.clientReceive_exchanges id)
  | hangUp id => exact Ledger.exchanges_comap.mpr (backends.sessions.store.hangUp_exchanges id)
  | dropClient id =>
    exact Ledger.exchanges_comap.mpr (backends.sessions.store.dropClient_exchanges id)
  | schedule family faults =>
    refine exchanges_of_store ?_
    cases family <;> rfl
  | choose => exact ⟨Nat.le_refl _, by simp, fun _ => Nat.le_refl _⟩
  | subscribe | redeliver | stamp => exact exchanges_of_store rfl
  | advance time =>
    -- Through the data, as the sum of the nanoseconds must not be computed.
    have kept := congrArg Data.sessions
      (data_withData backends ((Happening.advance time).work backends.data))
    exact exchanges_of_store kept

-- Runs that are started and tried in turn, while other things happen.
inductive Shared {α : Type} : List (Waiting α Backends) → Backends → Prop where
  | empty : Shared [] .empty
  | happens {runs : List (Waiting α Backends)} {backends : Backends}
      (reached : Shared runs backends) {happening : Happening}
      (other : ∀ config id, happening ≠ .dispatch config (.transport (.receive id))) :
      Shared runs (happening.perform backends)
  | starts {runs : List (Waiting α Backends)} {backends : Backends}
      (reached : Shared runs backends) (families : Family → Bool) (config : Config)
      {name : String} {program : Program α} {bound : Nat} {attempt : Attempt α Backends}
      {left : Backends}
      (started : Attempt.start name program (dispatcherFor families config) bound backends =
        (attempt, left)) :
      Shared (runs ++ attempt.runs) left
  | tried {runs : List (Waiting α Backends)} {backends : Backends}
      (reached : Shared runs backends) {bound rounds : Nat} {reports : List (Report α)}
      {waiting : List (Waiting α Backends)} {left : Backends}
      (settled : settle bound rounds runs backends = ((reports, waiting), left)) :
      Shared waiting left

namespace Shared
variable {α : Type} {runs : List (Waiting α Backends)} {backends : Backends}

-- The invariant of what is shared, by induction on how it was reached.
theorem orderly (shared : Shared runs backends) :
    Orderly ledger runs backends ∧
      ∀ run ∈ runs, ∃ families config, run.dispatcher = dispatcherFor families config := by
  induction shared with
  | empty =>
    refine ⟨⟨by simp, fun wait => ?_⟩, by simp⟩
    exact Nat.le_of_eq (SessionTable.pending_empty wait)
  | happens _ other ih => exact ⟨ih.1.amid (happening_amid other _), ih.2⟩
  | @starts _ backends _ families config name program bound attempt left started ih =>
    have begun := start_orderly ih.1 (dispatcherFor_keeps families config) name program bound
    rw [started] at begun
    obtain ⟨orderly, became⟩ := begun
    refine ⟨orderly, fun run member => ?_⟩
    rcases List.mem_append.mp member with earlier | last
    · exact ih.2 run earlier
    · cases became with
      | ended => cases last
      | waiting driven named same under =>
        obtain rfl := List.mem_singleton.mp last
        exact ⟨families, config, under⟩
  | @tried runs backends _ bound rounds reports waiting left settled ih =>
    have later := settle_orderly ih.1 bound rounds
    have comes := Comes.settle (fun run member => (ih.1.held run member).driven) bound rounds
      backends
    rw [settled] at later comes
    refine ⟨later.1, fun run member => ?_⟩
    obtain ⟨origin, given, came⟩ := comes.waiting run member
    obtain ⟨families, config, below⟩ := ih.2 origin given
    cases came with
    | waiting driven named equal above => exact ⟨families, config, above.trans below⟩

/-- Where the waiting runs are tried until none can go on, a receive waits only on a session that is
open, with no frame queued and no hang-up to tell. So a frame from the client is then refused exactly
where the session was closed or hung up. -/
theorem settle_idle (shared : Shared runs backends) {bound rounds : Nat}
    (settled : ¬ Moving bound rounds runs backends) (id : String) (connection : Connection) :
    let left := (settle bound rounds runs backends).2
    left.sessions.store.connections.get? id = some connection →
      (connection.waiting ≠ [] → connection.isClosed = false ∧ connection.hungUp = false ∧
          connection.inbound = #[]) ∧
        ∀ frame, (left.sessions.store.clientSend id frame).1 =
          !(connection.isClosed || connection.hungUp) := by
  intro left known
  have reached : Shared (settle bound rounds runs backends).1.2 left := shared.tried rfl
  obtain ⟨later, under⟩ := reached.orderly
  obtain ⟨-, rests⟩ := settle_orderly shared.orderly.1 bound rounds
  have idle : connection.waiting ≠ [] → connection.isClosed = false ∧ connection.hungUp = false ∧
      connection.inbound = #[] := by
    intro waits
    obtain ⟨ticket, rest, queued⟩ := List.exists_cons_of_ne_nil waits
    have own : ledger.pending left (.transport (.receive id), ticket) =
        connection.waiting.count ticket := SessionTable.pending_receive known ticket
    have pending : 0 < ledger.pending left (.transport (.receive id), ticket) := by
      rw [own, queued]
      simp
    have among := List.count_pos_iff.mp (Nat.lt_of_lt_of_le pending (later.manned _))
    obtain ⟨run, member, same⟩ := List.mem_map.mp among
    obtain ⟨receives, rfl⟩ := Prod.mk.inj same
    obtain ⟨families, config, below⟩ := under run member
    exact idle_of_rests below (rests settled run member) receives known (by rw [queued]; rfl)
  exact ⟨idle, SessionTable.clientSend_of_idle known fun waits => (idle waits).1⟩

end Shared
end Backends
end Memory
end EffectPrograms
