import FitzClient.ConnectionOpeners
import FitzClient.LabelledSystem

/-!
# Manual connects and reconnects coalesce

At most one `_open_and_authenticate` is in progress, none starts while the
connection is authenticated, and an authenticated connection has closed every
other transport of the factory.

Two interleavings break this.  The tail of a loss handler looks at the
reconnect task only, so it starts a loop although a `connect` made meanwhile
is under way or has authenticated.  And a handler that waits for the old
receive loop closes its transport only afterwards, when a `connect` made
meanwhile may have authenticated already.
-/

namespace FitzClient

namespace Connection

variable {connection next : Connection} {origin : LossOrigin} {opener : Opener}
  {attempt : OpenAttempt}

/-- One attempt at a time, none while authenticated, and no second transport
left open. -/
structure Coalesced (connection : Connection) : Prop where
  oneAttempt : connection.attempt .connect = none ∨ connection.attempt .reconnect = none
  startedAuthenticated : connection.startedAuthenticated = false
  othersClosed : connection.state = .authenticated →
    ∀ (transport : Nat) (cell : TransportCell),
      connection.transports[transport]? = some cell →
      connection.transport ≠ some transport → cell.closed = true

/-- The tail of a loss handler starts a reconnect loop only while no connect
task is unfinished and the connection is not authenticated, and an attempt
authenticates only while no loss handler still has to close a transport. -/
def Coalesces (connection : Connection) : ConnectionAction → Prop
  | .resumeHandler origin => connection.handlerPhase origin = some .notifying →
      connection.startsLoop = true →
        connection.connectTask = .idle ∧ connection.state ≠ .authenticated
  | .resumeOpen opener => ∀ attempt, connection.attempt opener = some attempt →
      connection.ownsTransport attempt.transport = true →
      connection.answered attempt = true →
        ∀ origin transport,
          connection.handlerPhase origin = some (.gathering (some transport)) →
            connection.leftOpen transport = false
  | _ => True

theorem Coalesces.startsAlone {action : ConnectionAction}
    (coalesces : connection.Coalesces action) : connection.StartsAlone action := by
  cases action with
  | resumeHandler origin => exact fun phase starts => (coalesces phase starts).1
  | _ => trivial

/-- A pending attempt uses this transport. -/
def OpensOn (connection : Connection) (transport : Nat) : Prop :=
  ∃ opener attempt, connection.attempt opener = some attempt ∧
    attempt.phase.pending = true ∧ attempt.transport = transport

/-- Somebody will still close this transport, or it is the current one. -/
def Held (connection : Connection) (transport : Nat) : Prop :=
  connection.state = .authenticated ∧ connection.transport = some transport ∨
    connection.OpensOn transport ∨
    connection.state ≠ .authenticated ∧
      ∃ origin, connection.handlerPhase origin = some (.gathering (some transport))

/-- The current transport is that of the pending attempt, its receive loop is
the current one, and so a receive loop never waits for another. -/
structure TransportOwned (connection : Connection) : Prop where
  opens : ∀ transport current, connection.OpensOn transport →
    connection.transport = some current → current = transport
  receives : ∀ transport, connection.transport = some transport →
    connection.receiver transport ≠ none → connection.receiveTask = some transport
  gathers : ∀ transport taken,
    connection.handlerPhase (.receiver transport) ≠ some (.gathering taken)

structure CoalescedInvariant (connection : Connection) : Prop where
  apart : connection.OpenersApart
  owned : connection.TransportOwned
  held : connection.closed = false → ∀ transport,
    connection.leftOpen transport = true → connection.Held transport
  scheduled : connection.reconnectTask = .scheduled → connection.state ≠ .authenticated
  started : connection.startedAuthenticated = false

/-- By exclusion, the attempt that is resumed is the pending one. -/
theorem OpenersApart.opensOn_iff {transport : Nat} (apart : connection.OpenersApart)
    (found : connection.attempt opener = some attempt) :
    connection.OpensOn transport ↔
      attempt.phase.pending = true ∧ attempt.transport = transport := by
  constructor
  · rintro ⟨other, otherAttempt, otherFound, pending, rfl⟩
    obtain rfl := apart.exclusive other opener (unfinished_of_attempt otherFound)
      (unfinished_of_attempt found)
    obtain rfl := Option.some.inj (otherFound.symm.trans found)
    exact ⟨pending, rfl⟩
  · rintro ⟨pending, rfl⟩
    exact ⟨opener, attempt, found, pending, rfl⟩

theorem OpenersApart.not_opensOn {transport : Nat} (apart : connection.OpenersApart)
    (opener : Opener) (runs : connection.unfinished opener = true)
    (rests : connection.attempt opener = none) : ¬ connection.OpensOn transport := by
  rintro ⟨other, attempt, found, _⟩
  obtain rfl := apart.exclusive other opener (unfinished_of_attempt found) runs
  simp [rests] at found

theorem not_opensOn_of_rests {transport : Nat}
    (rests : ∀ opener, connection.attempt opener = none) : ¬ connection.OpensOn transport := by
  rintro ⟨opener, attempt, found, _⟩
  simp [rests opener] at found

theorem opensOn_congr (same : ∀ opener, next.attempt opener = connection.attempt opener)
    (transport : Nat) : next.OpensOn transport ↔ connection.OpensOn transport := by
  simp [OpensOn, same]

/-- The transports, their receive loops and the loss handlers are untouched. -/
structure SameTransports (connection next : Connection) : Prop where
  transport : next.transport = connection.transport
  transports : next.transports = connection.transports
  receiveTask : next.receiveTask = connection.receiveTask
  heartbeats : next.heartbeats = connection.heartbeats
  lossTask : next.lossTask = connection.lossTask

theorem SameTransports.leftOpen (same : connection.SameTransports next) (transport : Nat) :
    next.leftOpen transport = connection.leftOpen transport := by
  simp [Connection.leftOpen, same.transports]

theorem SameTransports.receiver (same : connection.SameTransports next) (transport : Nat) :
    next.receiver transport = connection.receiver transport := by
  simp [Connection.receiver, same.transports]

theorem SameTransports.handlerPhase (same : connection.SameTransports next)
    (origin : LossOrigin) : next.handlerPhase origin = connection.handlerPhase origin := by
  cases origin <;>
    simp [Connection.handlerPhase, same.receiver, same.heartbeats, same.lossTask]

/-- A handler that gathers runs in a heartbeat or in the loss task. -/
theorem TransportOwned.gathering_of_same (owned : connection.TransportOwned)
    (heartbeats : next.heartbeats = connection.heartbeats)
    (lossTask : next.lossTask = connection.lossTask) {taken : Option Nat}
    (phase : connection.handlerPhase origin = some (.gathering taken)) :
    next.handlerPhase origin = some (.gathering taken) := by
  cases origin with
  | receiver transport => exact (owned.gathers transport taken phase).elim
  | heartbeat heartbeat =>
      simp only [handlerPhase, heartbeats] at phase ⊢
      exact phase
  | lossTask =>
      simp only [handlerPhase, lossTask] at phase ⊢
      exact phase

theorem TransportOwned.of_frame (owned : connection.TransportOwned)
    (opens : ∀ transport, next.OpensOn transport → connection.OpensOn transport)
    (transports : ∀ transport, next.transport = some transport →
      connection.transport = some transport)
    (receiveTask : next.receiveTask = connection.receiveTask)
    (receivers : ∀ transport, next.receiver transport ≠ none →
      connection.receiver transport ≠ none)
    (gathers : ∀ transport taken,
      next.handlerPhase (.receiver transport) = some (.gathering taken) →
        connection.handlerPhase (.receiver transport) = some (.gathering taken)) :
    next.TransportOwned where
  opens transport current opensNext found :=
    owned.opens transport current (opens transport opensNext) (transports current found)
  receives transport found present := by
    rw [receiveTask]
    exact owned.receives transport (transports transport found) (receivers transport present)
  gathers transport taken phase := owned.gathers transport taken (gathers transport taken phase)

theorem TransportOwned.cancelReceiver (owned : connection.TransportOwned) (transport : Nat) :
    (connection.cancelReceiver transport).TransportOwned := by
  refine owned.of_frame (fun _ => id) (fun _ => id) rfl (fun other present => ?_)
    (fun other taken phase => ?_)
  · rw [receiver_cancelReceiver] at present
    split_ifs at present
    · simpa using present
    · exact present
  · rw [handlerPhase_cancelReceiver] at phase
    split_ifs at phase
    exact phase

theorem noteStart_startedAuthenticated (started : connection.startedAuthenticated = false)
    (state : connection.state ≠ .authenticated) :
    connection.noteStart.startedAuthenticated = false := by
  simp [noteStart, started, state]

namespace CoalescedInvariant

/-- A transition that touches the tasks and the state only. -/
theorem of_same (invariant : connection.CoalescedInvariant)
    (same : connection.SameTransports next) (apart : next.OpenersApart)
    (opens : ∀ transport, next.OpensOn transport ↔ connection.OpensOn transport)
    (state : next.state = connection.state ∨
      connection.state ≠ .authenticated ∧ next.state ≠ .authenticated)
    (closed : next.closed = false → connection.closed = false)
    (scheduled : next.reconnectTask = .scheduled → next.state ≠ .authenticated)
    (started : next.startedAuthenticated = false) : next.CoalescedInvariant where
  apart := apart
  owned := invariant.owned.of_frame (fun transport => (opens transport).mp)
    (fun transport found => by rwa [same.transport] at found) same.receiveTask
    (fun transport present => by rwa [same.receiver] at present)
    (fun transport taken phase => by rwa [same.handlerPhase] at phase)
  held usable transport left := by
    rw [same.leftOpen] at left
    unfold Held
    rw [opens, same.transport]
    simp only [same.handlerPhase]
    rcases invariant.held (closed usable) transport left with current | pending | gathering
    · rcases state with unchanged | ⟨before, _⟩
      · exact Or.inl ⟨unchanged.trans current.1, current.2⟩
      · exact (before current.1).elim
    · exact Or.inr (Or.inl pending)
    · refine Or.inr (Or.inr ⟨?_, gathering.2⟩)
      rcases state with unchanged | ⟨_, after⟩
      · rw [unchanged]
        exact gathering.1
      · exact after
  scheduled := scheduled
  started := started

/-- Suspending the attempt elsewhere, before it has authenticated. -/
theorem setPhase (invariant : connection.CoalescedInvariant) (opener : Opener)
    (found : connection.attempt opener = some attempt) (phase : OpenPhase)
    (state : connection.state ≠ .authenticated)
    (pends : phase.pending = true → attempt.phase.pending = true)
    (drops : connection.closed = false → attempt.phase.pending = true →
      phase.pending = true ∨ connection.leftOpen attempt.transport = false) :
    (connection.setPhase opener phase).CoalescedInvariant := by
  have apart := invariant.apart.setPhase opener found phase fun _ => state
  have opens_iff : ∀ transport, (connection.setPhase opener phase).OpensOn transport ↔
      phase.pending = true ∧ attempt.transport = transport :=
    fun transport => apart.opensOn_iff (attempt_setPhase found phase)
  refine ⟨apart, ?_, ?_, fun _ => state, invariant.started⟩
  · refine invariant.owned.of_frame (fun transport opens => ?_) (fun _ => id) rfl
      (fun _ => id) (fun _ _ => id)
    obtain ⟨pending, same⟩ := (opens_iff transport).mp opens
    exact (invariant.apart.opensOn_iff found).mpr ⟨pends pending, same⟩
  · intro usable transport left
    have left_before : connection.leftOpen transport = true := left
    rcases invariant.held usable transport left with current | opens | gathering
    · exact (state current.1).elim
    · obtain ⟨pending, rfl⟩ := (invariant.apart.opensOn_iff found).mp opens
      rcases drops usable pending with stays | dropped
      · exact Or.inr (Or.inl ((opens_iff _).mpr ⟨stays, rfl⟩))
      · simp [dropped] at left_before
    · exact Or.inr (Or.inr gathering)

theorem failOpen (invariant : connection.CoalescedInvariant) (opener : Opener)
    (found : connection.attempt opener = some attempt)
    (state : connection.state ≠ .authenticated) (error : OpenError) :
    (connection.failOpen opener attempt.transport error).CoalescedInvariant := by
  have cleared : ({ connection with
      transport := if connection.transport = some attempt.transport then none
        else connection.transport }.closeTransport attempt.transport).CoalescedInvariant := by
    refine ⟨invariant.apart.of_same rfl rfl rfl rfl (Or.inl rfl), ?_, ?_, invariant.scheduled,
      invariant.started⟩
    · refine invariant.owned.of_frame (fun _ => id) ?_ rfl ?_ ?_
      · intro transport current
        simp only [closeTransport] at current
        split_ifs at current
        exact current
      · intro transport present
        rwa [receiver_closeTransport] at present
      · intro transport taken phase
        rwa [handlerPhase_closeTransport] at phase
    · intro usable transport left
      rw [leftOpen_closeTransport, Bool.and_eq_true] at left
      rcases invariant.held usable transport left.1 with current | pending | gathering
      · exact (state current.1).elim
      · exact Or.inr (Or.inl pending)
      · obtain ⟨notAuthenticated, origin, phase⟩ := gathering
        refine Or.inr (Or.inr ⟨notAuthenticated, origin, ?_⟩)
        rw [handlerPhase_closeTransport]
        exact phase
  refine cleared.setPhase opener found _ state (by rintro ⟨⟩) fun _ _ => Or.inr ?_
  simp

/-- A transition that ends or prolongs a task without a pending attempt, in a
connection that is not authenticated. -/
theorem of_resting (invariant : connection.CoalescedInvariant) (opener : Opener)
    (runs : connection.unfinished opener = true)
    (rests : ∀ attempt, connection.attempt opener = some attempt →
      attempt.phase.pending = false)
    (state : connection.state ≠ .authenticated) (apart : next.OpenersApart)
    (same : connection.SameTransports next)
    (next_rests : ∀ opener, next.attempt opener = none)
    (next_state : next.state ≠ .authenticated)
    (closed : next.closed = false → connection.closed = false)
    (started : next.startedAuthenticated = false) : next.CoalescedInvariant := by
  refine invariant.of_same same apart (fun transport => ?_) (Or.inr ⟨state, next_state⟩) closed
    (fun _ => next_state) started
  constructor
  · intro opens
    exact (not_opensOn_of_rests next_rests opens).elim
  · rintro ⟨other, attempt, found, pending, _⟩
    obtain rfl := invariant.apart.exclusive other opener (unfinished_of_attempt found) runs
    simp [rests attempt found] at pending

theorem giveUp (invariant : connection.CoalescedInvariant)
    (runs : connection.unfinished .reconnect = true)
    (rests : ∀ attempt, connection.attempt .reconnect = some attempt →
      attempt.phase.pending = false)
    (state : connection.state ≠ .authenticated) : connection.giveUp.CoalescedInvariant := by
  refine invariant.of_resting .reconnect runs rests state (invariant.apart.giveUp runs)
    ⟨rfl, rfl, rfl, rfl, rfl⟩ (invariant.apart.rests_of_reconnect runs rfl ?_)
    (setState_ne_authenticated state (by decide)) id invariant.started
  simp only [Connection.giveUp]
  split_ifs <;> rfl

theorem endReconnect (invariant : connection.CoalescedInvariant)
    (runs : connection.unfinished .reconnect = true)
    (rests : ∀ attempt, connection.attempt .reconnect = some attempt →
      attempt.phase.pending = false)
    (state : connection.state ≠ .authenticated) :
    { connection with reconnectTask := .idle }.CoalescedInvariant :=
  invariant.of_resting .reconnect runs rests state (invariant.apart.endReconnect runs)
    ⟨rfl, rfl, rfl, rfl, rfl⟩ (invariant.apart.rests_of_reconnect runs rfl rfl) state id
    invariant.started

theorem nextAttempt (invariant : connection.CoalescedInvariant)
    (runs : connection.unfinished .reconnect = true)
    (rests : ∀ attempt, connection.attempt .reconnect = some attempt →
      attempt.phase.pending = false)
    (state : connection.state ≠ .authenticated) (count : Nat) :
    (connection.nextAttempt count).CoalescedInvariant := by
  have apart := invariant.apart.nextAttempt runs count
  unfold Connection.nextAttempt at apart ⊢
  split_ifs with closed goesOn
  · exact invariant.endReconnect runs rests state
  · simp only [closed, goesOn, if_true, if_false, Bool.false_eq_true] at apart
    exact invariant.of_resting .reconnect runs rests state apart ⟨rfl, rfl, rfl, rfl, rfl⟩
      (invariant.apart.rests_of_reconnect runs rfl rfl)
      (setState_ne_authenticated state (by decide)) id
      (noteStart_startedAuthenticated invariant.started state)
  · exact invariant.giveUp runs rests state

theorem exceptAttempt (invariant : connection.CoalescedInvariant)
    (runs : connection.unfinished .reconnect = true)
    (rests : ∀ attempt, connection.attempt .reconnect = some attempt →
      attempt.phase.pending = false)
    (state : connection.state ≠ .authenticated) (count : Nat) (error : OpenError) :
    (connection.exceptAttempt count error).CoalescedInvariant := by
  have apart := invariant.apart.exceptAttempt runs count error
  cases error with
  | cancelled => exact invariant.endReconnect runs rests state
  | authentication =>
      exact invariant.of_resting .reconnect runs rests state apart ⟨rfl, rfl, rfl, rfl, rfl⟩
        (invariant.apart.rests_of_reconnect runs rfl rfl)
        (by simp [Connection.exceptAttempt, Connection.setState]) nofun invariant.started
  | versionMismatch => exact invariant.giveUp runs rests state
  | other => exact invariant.nextAttempt runs rests state count

theorem returnOpen (invariant : connection.CoalescedInvariant) (opener : Opener)
    (found : connection.attempt opener = some attempt)
    (rests : attempt.phase.pending = false) :
    (connection.returnOpen opener).CoalescedInvariant := by
  have apart := invariant.apart.returnOpen opener found
  refine invariant.of_same ⟨rfl, rfl, rfl, rfl, rfl⟩ apart (fun transport => ?_) (Or.inl rfl) id
    ?_ invariant.started
  · rw [invariant.apart.opensOn_iff found, rests]
    have none_opens : ¬ (connection.returnOpen opener).OpensOn transport :=
      not_opensOn_of_rests (invariant.apart.rests_of_returnOpen found)
    simpa using none_opens
  · intro scheduled
    cases opener with
    | connect => exact invariant.scheduled scheduled
    | reconnect => cases scheduled

theorem raiseOpen (invariant : connection.CoalescedInvariant) (opener : Opener)
    (found : connection.attempt opener = some attempt)
    (rests : attempt.phase.pending = false)
    (state : connection.state ≠ .authenticated) (error : OpenError) :
    (connection.raiseOpen opener error).CoalescedInvariant := by
  cases opener with
  | connect => exact invariant.returnOpen .connect found rests
  | reconnect =>
      obtain ⟨count, task⟩ := attempt_reconnect.mp found
      simp only [Connection.raiseOpen, task]
      refine invariant.exceptAttempt (unfinished_of_attempt found) (fun other otherFound => ?_)
        state count error
      rw [Option.some.inj (otherFound.symm.trans found)]
      exact rests

/-- Changing the state of a connection that stays unauthenticated. -/
theorem setState (invariant : connection.CoalescedInvariant) {state : ConnectionState}
    (before : connection.state ≠ .authenticated) (after : state ≠ .authenticated) :
    (connection.setState state).CoalescedInvariant :=
  invariant.of_same ⟨rfl, rfl, rfl, rfl, rfl⟩ (invariant.apart.setState state after)
    (fun _ => Iff.rfl) (Or.inr ⟨before, setState_ne_authenticated before after⟩) id
    (fun _ => setState_ne_authenticated before after) invariant.started

theorem concludeOpen (invariant : connection.CoalescedInvariant) (opener : Opener)
    (found : connection.attempt opener = some attempt)
    (rests : attempt.phase.pending = false) (opens : attempt.phase ≠ .restartingHeartbeat)
    (error : OpenError) : (connection.concludeOpen opener error).CoalescedInvariant := by
  have state := invariant.apart.state_ne opener found opens
  unfold Connection.concludeOpen
  split_ifs
  · have closing : { connection with closed := true }.CoalescedInvariant :=
      invariant.of_same ⟨rfl, rfl, rfl, rfl, rfl⟩
        ⟨invariant.apart.exclusive, invariant.apart.busy, fun _ => state, fun _ => rfl⟩
        (fun _ => Iff.rfl) (Or.inl rfl) nofun invariant.scheduled invariant.started
    exact closing.setPhase opener found _ state nofun nofun
  · exact invariant.raiseOpen opener found rests state error
  · exact (invariant.setState state (by decide)).raiseOpen opener found rests
      (setState_ne_authenticated state (by decide)) error

/-- A transition into the authenticated state. -/
theorem of_authenticated (invariant : connection.CoalescedInvariant)
    (apart : next.OpenersApart) (state : next.state = .authenticated)
    (transport : next.transport = connection.transport)
    (transports : next.transports = connection.transports)
    (receiveTask : next.receiveTask = connection.receiveTask)
    (rests : ∀ transport, ¬ next.OpensOn transport)
    (scheduled : next.reconnectTask ≠ .scheduled)
    (started : next.startedAuthenticated = connection.startedAuthenticated)
    (only_current : ∀ transport, connection.leftOpen transport = true →
      connection.transport = some transport) : next.CoalescedInvariant := by
  have receiver_same : ∀ transport, next.receiver transport = connection.receiver transport := by
    simp [receiver, transports]
  refine ⟨apart, ?_, ?_, fun isScheduled => (scheduled isScheduled).elim,
    started.trans invariant.started⟩
  · refine invariant.owned.of_frame (fun transport opens => (rests transport opens).elim)
      (fun other found => by rwa [transport] at found) receiveTask
      (fun other present => by rwa [receiver_same] at present)
      (fun other taken phase => ?_)
    simp only [handlerPhase, receiver_same] at phase ⊢
    exact phase
  · intro _ other left
    refine Or.inl ⟨state, ?_⟩
    rw [transport]
    refine only_current other ?_
    simpa [leftOpen, transports] using left

/-- The attempt authenticates: its transport is the current one, and by the
condition no handler holds another. -/
theorem startHeartbeat (invariant : connection.CoalescedInvariant) (opener : Opener)
    (found : connection.attempt opener = some attempt)
    (opens : attempt.phase ≠ .restartingHeartbeat)
    (owns : connection.ownsTransport attempt.transport = true)
    (closes : ∀ origin transport,
      connection.handlerPhase origin = some (.gathering (some transport)) →
        connection.leftOpen transport = false) :
    (connection.authenticate.startHeartbeat opener).CoalescedInvariant := by
  obtain ⟨usable, current, _⟩ := ownsTransport_iff.mp owns
  have apart := invariant.apart.startHeartbeat opener found usable
  have state := invariant.apart.state_ne opener found opens
  have authenticated : connection.authenticate.state = .authenticated := by
    simp [authenticate, Connection.setState, usable]
  have only_current : ∀ transport, connection.leftOpen transport = true →
      connection.transport = some transport := by
    intro transport left
    rcases invariant.held usable transport left with authenticated | pending | gathering
    · exact (state authenticated.1).elim
    · obtain ⟨_, rfl⟩ := (invariant.apart.opensOn_iff found).mp pending
      exact current
    · obtain ⟨_, origin, phase⟩ := gathering
      simp [closes origin transport phase] at left
  have not_scheduled : connection.reconnectTask ≠ .scheduled := by
    rcases invariant.apart.reconnectTask_cases found with idle | ⟨count, task⟩
    · simp [idle]
    · simp [task]
  have return_scheduled : (connection.returnOpen opener).reconnectTask ≠ .scheduled := by
    cases opener with
    | connect => exact not_scheduled
    | reconnect => rintro ⟨⟩
  have return_rests : ∀ other, (connection.returnOpen opener).attempt other = none :=
    invariant.apart.rests_of_returnOpen found
  unfold Connection.startHeartbeat at apart ⊢
  split_ifs at apart ⊢
  · split at apart
    · exact invariant.of_authenticated apart authenticated rfl rfl rfl
        (fun _ => not_opensOn_of_rests return_rests) return_scheduled rfl only_current
    · next previous _ =>
      have running : (connection.authenticate.setHandler (.heartbeat previous) none).attempt
          opener = some attempt := found
      refine invariant.of_authenticated apart authenticated rfl rfl rfl (fun other opened => ?_)
        ?_ rfl only_current
      · have pending := (apart.opensOn_iff (attempt_setPhase running _)).mp opened
        cases pending.1
      · cases opener with
        | connect => exact not_scheduled
        | reconnect =>
            rw [Ne, Connection.setPhase, ReconnectTask.setPhase_eq_scheduled]
            exact not_scheduled
  · exact invariant.of_authenticated apart authenticated rfl rfl rfl
      (fun _ => not_opensOn_of_rests return_rests) return_scheduled rfl only_current

/-- Fields that no loss handler and no opener looks at. -/
theorem of_fields (invariant : connection.CoalescedInvariant)
    (same : connection.SameTransports next)
    (connectTask : next.connectTask = connection.connectTask)
    (reconnectTask : next.reconnectTask = connection.reconnectTask)
    (closed : next.closed = connection.closed)
    (closeStarted : next.closeStarted = connection.closeStarted)
    (state : next.state = connection.state)
    (started : next.startedAuthenticated = connection.startedAuthenticated) :
    next.CoalescedInvariant := by
  have attempt_same : ∀ opener, next.attempt opener = connection.attempt opener := by
    intro opener
    cases opener <;> simp [Connection.attempt, connectTask, reconnectTask]
  refine invariant.of_same same
    (invariant.apart.of_same connectTask reconnectTask closed closeStarted (Or.inl state))
    (fun transport => ?_) (Or.inl state) (fun usable => by rwa [closed] at usable)
    (fun scheduled => ?_) (started.trans invariant.started)
  · simp [OpensOn, attempt_same]
  · rw [state]
    exact invariant.scheduled (reconnectTask ▸ scheduled)

/-- A transition that keeps the attempts and the handlers that gather, and
closes no transport. -/
theorem of_receivers (invariant : connection.CoalescedInvariant)
    (owned : next.TransportOwned)
    (connectTask : next.connectTask = connection.connectTask)
    (reconnectTask : next.reconnectTask = connection.reconnectTask)
    (closed : next.closed = connection.closed)
    (closeStarted : next.closeStarted = connection.closeStarted)
    (transport : next.transport = connection.transport)
    (leftOpen : ∀ transport, next.leftOpen transport = connection.leftOpen transport)
    (gathers : ∀ origin transport,
      connection.handlerPhase origin = some (.gathering (some transport)) →
        next.handlerPhase origin = some (.gathering (some transport)))
    (state : next.state = connection.state ∨
      connection.state ≠ .authenticated ∧ next.state ≠ .authenticated)
    (started : next.startedAuthenticated = connection.startedAuthenticated) :
    next.CoalescedInvariant := by
  have attempt_same : ∀ opener, next.attempt opener = connection.attempt opener := by
    intro opener
    cases opener <;> simp [Connection.attempt, connectTask, reconnectTask]
  refine ⟨invariant.apart.of_same connectTask reconnectTask closed closeStarted
    (state.imp_right And.right), owned, ?_, ?_, started.trans invariant.started⟩
  · intro usable other left
    rw [closed] at usable
    rw [leftOpen] at left
    rcases invariant.held usable other left with current | opens | gathering
    · rcases state with same | ⟨before, _⟩
      · exact Or.inl ⟨same.trans current.1, transport.trans current.2⟩
      · exact (before current.1).elim
    · refine Or.inr (Or.inl ?_)
      obtain ⟨opener, attempt, found, rest⟩ := opens
      exact ⟨opener, attempt, (attempt_same opener).trans found, rest⟩
    · obtain ⟨before, origin, phase⟩ := gathering
      refine Or.inr (Or.inr ⟨?_, origin, gathers origin other phase⟩)
      rcases state with same | ⟨_, after⟩
      · rw [same]
        exact before
      · exact after
  · intro scheduled
    rcases state with same | ⟨_, after⟩
    · rw [same]
      exact invariant.scheduled (reconnectTask ▸ scheduled)
    · exact after

theorem startReceiving (invariant : connection.CoalescedInvariant) (opener : Opener)
    (found : connection.attempt opener = some attempt)
    (pending : attempt.phase.pending = true) :
    (connection.startReceiving attempt.transport).CoalescedInvariant := by
  have state := invariant.apart.state_ne opener found (ne_restartingHeartbeat pending)
  refine invariant.of_receivers ⟨?_, ?_, ?_⟩ rfl rfl rfl rfl rfl ?_
    (fun _ _ phase => invariant.owned.gathering_of_same (by rfl) (by rfl) phase)
    (Or.inr ⟨state, ?_⟩) rfl
  · exact invariant.owned.opens
  · intro transport current _
    have opens : connection.OpensOn attempt.transport := ⟨opener, attempt, found, pending, rfl⟩
    rw [invariant.owned.opens _ transport opens current]
    rfl
  · intro transport taken
    rw [handlerPhase_startReceiving]
    split_ifs
    · exact nofun
    · exact invariant.owned.gathers transport taken
  · intro transport
    simp only [Connection.leftOpen, Connection.startReceiving, List.getElem?_modify]
    cases connection.transports[transport]? with
    | none => rfl
    | some cell =>
        by_cases same : attempt.transport = transport
        · simp [same]
        · simp [same]
  · exact setState_ne_authenticated (setState_ne_authenticated state (by decide)) (by decide)

theorem cancelReceiver (invariant : connection.CoalescedInvariant) (transport : Nat) :
    (connection.cancelReceiver transport).CoalescedInvariant := by
  exact invariant.of_receivers (invariant.owned.cancelReceiver transport) rfl rfl rfl rfl rfl
    (leftOpen_cancelReceiver _ _)
    (fun _ _ phase => invariant.owned.gathering_of_same (by rfl) (by rfl) phase) (Or.inl rfl) rfl

theorem newHeartbeat (invariant : connection.CoalescedInvariant) :
    connection.newHeartbeat.CoalescedInvariant := by
  refine invariant.of_receivers ?_ rfl rfl rfl rfl rfl (fun _ => rfl) ?_ (Or.inl rfl) rfl
  · exact invariant.owned.of_frame (fun _ => id) (fun _ => id) rfl (fun _ => id) fun _ _ => id
  · intro origin transport phase
    cases origin with
    | receiver other => exact phase
    | heartbeat heartbeat =>
        simp only [handlerPhase, Option.bind_eq_some_iff] at phase ⊢
        obtain ⟨task, found, gathers⟩ := phase
        exact ⟨task, getElem?_concat_eq_some.mpr (Or.inl found), gathers⟩
    | lossTask => exact phase

/-- Every transition of an attempt keeps the invariant. -/
theorem openStep {raised : Option OpenError} (invariant : connection.CoalescedInvariant)
    (opener : Opener) (found : connection.attempt opener = some attempt)
    (closes : raised = none → connection.ownsTransport attempt.transport = true →
      connection.answered attempt = true → ∀ origin transport,
        connection.handlerPhase origin = some (.gathering (some transport)) →
          connection.leftOpen transport = false)
    (opened : connection.OpenStep opener attempt raised next) : next.CoalescedInvariant := by
  cases opened with
  | connected phase =>
      have pending : attempt.phase.pending = true := by rw [phase]; rfl
      have receiving := invariant.startReceiving opener found pending
      exact receiving.setPhase opener found _
        (receiving.apart.state_ne opener found (by rw [phase]; decide)) (fun _ => pending)
        fun _ _ => Or.inl rfl
  | waits future phase =>
      exact invariant.setPhase opener found _
        (invariant.apart.state_ne opener found (by rw [phase]; decide))
        (fun _ => by rw [phase]; rfl) fun _ _ => Or.inl rfl
  | restores pending again =>
      have restoring : { connection with
          authError := none
          generation := connection.generation + 1
          restoring := true }.CoalescedInvariant :=
        invariant.of_fields ⟨rfl, rfl, rfl, rfl, rfl⟩ rfl rfl rfl rfl rfl rfl
      exact restoring.setPhase opener found _
        (invariant.apart.state_ne opener found (ne_restartingHeartbeat pending))
        (fun _ => pending) fun _ _ => Or.inl rfl
  | authenticated authError generation restoring resumed pending answers owns =>
      have established : { connection with
          authError, generation, restoring }.CoalescedInvariant :=
        invariant.of_fields ⟨rfl, rfl, rfl, rfl, rfl⟩ rfl rfl rfl rfl rfl rfl
      exact established.startHeartbeat opener found (ne_restartingHeartbeat pending) owns
        (closes resumed owns answers)
  | replaced phase => exact invariant.newHeartbeat.returnOpen opener found (by rw [phase]; rfl)
  | failed authError generation restoring error source fails =>
      have restored : { connection with authError, generation, restoring }.CoalescedInvariant :=
        invariant.of_fields ⟨rfl, rfl, rfl, rfl, rfl⟩ rfl rfl rfl rfl rfl rfl
      refine restored.failOpen opener found ?_ _
      rcases fails with pending | ⟨_, closed⟩
      · exact invariant.apart.state_ne opener found (ne_restartingHeartbeat pending)
      · exact invariant.apart.closed closed
  | cancels error phase =>
      exact (invariant.cancelReceiver _).setPhase opener found _
        (invariant.apart.state_ne opener found (by rw [phase]; rintro ⟨⟩)) (by rintro ⟨⟩)
        fun _ pending => by simp [phase, OpenPhase.pending] at pending
  | concluded error phase =>
      rcases phase with closing | gathering
      · exact invariant.concludeOpen opener found (by rw [closing]; rfl)
          (by rw [closing]; rintro ⟨⟩) error
      · exact invariant.concludeOpen opener found (by rw [gathering]; rfl)
          (by rw [gathering]; rintro ⟨⟩) error
  | rejected phase =>
      have state := invariant.apart.state_ne opener found (by rw [phase]; decide)
      exact (invariant.setState state (by decide)).raiseOpen opener found (by rw [phase]; rfl)
        (setState_ne_authenticated state (by decide)) _
  | cancelled closed cleans opens => exact invariant.returnOpen opener found cleans

end CoalescedInvariant

theorem TransportOwned.setHandler (owned : connection.TransportOwned)
    (hosts : connection.Hosts origin) (phase : Option HandlerPhase)
    (rests : ∀ transport taken, origin = .receiver transport →
      phase ≠ some (.gathering taken)) : (connection.setHandler origin phase).TransportOwned := by
  refine owned.of_frame (fun _ => id) (fun _ => id) rfl (fun transport present => ?_)
    (fun transport taken gathering => ?_)
  · exact fun absent => present (receiver_setHandler_eq_none hosts absent)
  · by_cases same : LossOrigin.receiver transport = origin
    · rw [same, handlerPhase_setHandler_self hosts] at gathering
      exact (rests transport taken same.symm gathering).elim
    · rwa [handlerPhase_setHandler_of_ne same] at gathering

namespace CoalescedInvariant

/-- The handler in this task moves on, and lets go of no transport that is
still open. -/
theorem setHandler (invariant : connection.CoalescedInvariant)
    (hosts : connection.Hosts origin) (phase : Option HandlerPhase)
    (rests : ∀ transport taken, origin = .receiver transport →
      phase ≠ some (.gathering taken))
    (drops : ∀ transport, connection.handlerPhase origin = some (.gathering (some transport)) →
      connection.leftOpen transport = false) :
    (connection.setHandler origin phase).CoalescedInvariant := by
  refine ⟨invariant.apart.of_same rfl rfl rfl rfl (Or.inl rfl),
    invariant.owned.setHandler hosts phase rests, ?_, invariant.scheduled, invariant.started⟩
  intro usable transport left
  rw [leftOpen_setHandler] at left
  rcases invariant.held usable transport left with current | opens | gathering
  · exact Or.inl current
  · exact Or.inr (Or.inl opens)
  · obtain ⟨state, other, gathers⟩ := gathering
    refine Or.inr (Or.inr ⟨state, other, ?_⟩)
    by_cases same : other = origin
    · rw [same] at gathers
      simp [drops transport gathers] at left
    · rw [handlerPhase_setHandler_of_ne same]
      exact gathers

theorem closeTransport (invariant : connection.CoalescedInvariant) (transport : Nat) :
    (connection.closeTransport transport).CoalescedInvariant := by
  refine ⟨invariant.apart.of_same rfl rfl rfl rfl (Or.inl rfl), ?_, ?_, invariant.scheduled,
    invariant.started⟩
  · refine invariant.owned.of_frame (fun _ => id) (fun _ => id) rfl (fun other present => ?_)
      fun other taken phase => ?_
    · rwa [receiver_closeTransport] at present
    · rwa [handlerPhase_closeTransport] at phase
  · intro usable other left
    rw [leftOpen_closeTransport, Bool.and_eq_true] at left
    rcases invariant.held usable other left.1 with current | opens | gathering
    · exact Or.inl current
    · exact Or.inr (Or.inl opens)
    · obtain ⟨state, origin, phase⟩ := gathering
      refine Or.inr (Or.inr ⟨state, origin, ?_⟩)
      rw [handlerPhase_closeTransport]
      exact phase

/-- A handler that gathered closes the transport it took. -/
theorem closeLost (invariant : connection.CoalescedInvariant)
    (hosts : connection.Hosts origin) {taken : Option Nat}
    (gathering : ∀ transport, connection.handlerPhase origin = some (.gathering (some transport)) →
      taken = some transport) :
    (connection.closeLost origin taken).CoalescedInvariant := by
  cases taken with
  | none =>
      refine invariant.setHandler hosts _ (fun _ _ _ => nofun) fun transport phase => ?_
      cases gathering transport phase
  | some transport =>
      have closed := invariant.closeTransport transport
      refine closed.setHandler ?_ _ (fun _ _ _ => nofun) fun other phase => ?_
      · exact hosts.closeTransport transport
      · rw [handlerPhase_closeTransport] at phase
        obtain rfl := Option.some.inj (gathering other phase)
        simp

/-- `_connection_lost` takes the transport, which its handler already holds or
has closed. -/
theorem loseTransport (invariant : connection.CoalescedInvariant)
    (keeps : ∀ transport, connection.transport = some transport →
      connection.leftOpen transport = true →
        ∃ origin, connection.handlerPhase origin = some (.gathering (some transport))) :
    connection.loseTransport.CoalescedInvariant := by
  refine ⟨invariant.apart.loseTransport, ?_, ?_, ?_, invariant.started⟩
  · exact invariant.owned.of_frame (fun _ => id) nofun rfl (fun _ => id) fun _ _ => id
  · intro usable transport left
    have disconnected : connection.loseTransport.state ≠ .authenticated := by
      have usable_before : connection.closed = false := usable
      simp [Connection.loseTransport, Connection.setState, usable_before]
    rcases invariant.held usable transport left with current | opens | gathering
    · exact Or.inr (Or.inr ⟨disconnected, keeps transport current.2 left⟩)
    · exact Or.inr (Or.inl opens)
    · exact Or.inr (Or.inr ⟨disconnected, gathering.2⟩)
  · intro scheduled
    exact setState_ne_authenticated (invariant.scheduled scheduled) (by decide)

/-- Every transition of a task that may run the loss handler, up to the
handler's tail. -/
theorem lossStep (invariant : connection.CoalescedInvariant)
    (stepped : connection.LossStep origin next) : next.CoalescedInvariant := by
  cases stepped with
  | ended futures failures hosts quiet =>
      have resolved : { connection with authFutures := futures }.CoalescedInvariant :=
        invariant.of_fields ⟨rfl, rfl, rfl, rfl, rfl⟩ rfl rfl rfl rfl rfl rfl
      refine resolved.setHandler hosts _ (fun _ _ _ => nofun) fun transport phase => ?_
      cases quiet.symm.trans phase
  | gathers receiver loses live receives other =>
      have notReceiver : ∀ transport, origin ≠ .receiver transport := by
        rintro transport rfl
        obtain ⟨running, _, current, _⟩ := loses
        have present : connection.receiver transport ≠ none := by simp [running]
        have own := invariant.owned.receives transport current present
        rw [Option.some.inj (receives.symm.trans own)] at other
        exact other rfl
      have holding := invariant.setHandler loses.hosts (some (.gathering connection.transport))
        (fun transport _ same => (notReceiver transport same).elim)
        fun transport phase => by cases loses.quiet.symm.trans phase
      have lost := (holding.loseTransport fun transport current _ => ⟨origin, by
        rw [handlerPhase_setHandler_self loses.hosts]
        exact congrArg (fun taken => some (HandlerPhase.gathering taken)) current⟩).cancelReceiver
          receiver
      cases origin with
      | receiver transport => exact (notReceiver transport rfl).elim
      | heartbeat _ => exact lost
      | lossTask => exact lost
  | closes loses live own =>
      cases current : connection.transport with
      | none =>
          have lost := invariant.loseTransport fun transport found => by simp [current] at found
          exact lost.closeLost loses.hosts fun transport phase => by
            cases loses.quiet.symm.trans phase
      | some transport =>
          have closed := invariant.closeTransport transport
          have lost := closed.loseTransport fun other found left => by
            obtain rfl := Option.some.inj (current.symm.trans found)
            simp at left
          refine lost.setHandler (loses.hosts.closeTransport transport) _ (fun _ _ _ => nofun)
            fun other phase => ?_
          have phase_before : (connection.closeTransport transport).handlerPhase origin =
              some (.gathering (some other)) := phase
          rw [handlerPhase_closeTransport] at phase_before
          cases loses.quiet.symm.trans phase_before
  | gathered taken phase =>
      refine invariant.closeLost (hosts_of_handlerPhase phase) fun transport gathering => ?_
      cases phase.symm.trans gathering
      rfl
  | closed phase =>
      refine invariant.setHandler (hosts_of_handlerPhase phase) _ (fun _ _ _ => nofun)
        fun transport gathering => ?_
      cases phase.symm.trans gathering

/-- The tail of the handler, under the condition on the loop it starts. -/
theorem startReconnect (invariant : connection.CoalescedInvariant)
    (coalesces : connection.startsLoop = true →
      connection.connectTask = .idle ∧ connection.state ≠ .authenticated) :
    connection.startReconnect.CoalescedInvariant := by
  have apart := invariant.apart.startReconnect fun starts => (coalesces starts).1
  unfold Connection.startReconnect at apart ⊢
  split_ifs at apart ⊢ with exempt idle
  · exact invariant
  · have state := (coalesces (by simp_all [startsLoop, wantsReconnect])).2
    refine invariant.of_same ⟨rfl, rfl, rfl, rfl, rfl⟩ apart (opensOn_congr fun opener => ?_)
      (Or.inl rfl) id (fun _ => state) invariant.started
    cases opener with
    | connect => rfl
    | reconnect => simp [Connection.attempt, idle, ReconnectTask.attempt]
  · exact invariant

theorem connect (invariant : connection.CoalescedInvariant) :
    connection.connect.CoalescedInvariant := by
  have apart := invariant.apart.connect
  unfold Connection.connect at apart ⊢
  split_ifs at apart ⊢ with refused idle
  · exact invariant
  · refine invariant.of_same ⟨rfl, rfl, rfl, rfl, rfl⟩ apart (opensOn_congr fun opener => ?_)
      (Or.inl rfl) id invariant.scheduled invariant.started
    cases opener with
    | connect => simp [Connection.attempt, idle, ConnectTask.attempt]
    | reconnect => rfl
  · exact invariant

/-- A task without a transport opens one. -/
theorem opened (invariant : connection.CoalescedInvariant) (opener : Opener)
    (runs : connection.unfinished opener = true) (rests : connection.attempt opener = none)
    (state : connection.state ≠ .authenticated) (apart : next.OpenersApart)
    (found : next.attempt opener = some { transport := connection.transports.length })
    (transport : next.transport = some connection.transports.length)
    (transports : next.transports = connection.transports ++ [({} : TransportCell)])
    (heartbeats : next.heartbeats = connection.heartbeats)
    (lossTask : next.lossTask = connection.lossTask)
    (closed : next.closed = connection.closed) (next_state : next.state ≠ .authenticated)
    (started : next.startedAuthenticated = false) : next.CoalescedInvariant := by
  refine ⟨apart, ⟨?_, ?_, ?_⟩, ?_, fun _ => next_state, started⟩
  · intro other current opens atCurrent
    obtain ⟨_, rfl⟩ := (apart.opensOn_iff found).mp opens
    exact Option.some.inj (atCurrent.symm.trans transport)
  · intro other atOther present
    obtain rfl := Option.some.inj (transport.symm.trans atOther)
    simp [Connection.receiver, transports] at present
  · intro other taken phase
    rw [handlerPhase, receiver_of_concat transports] at phase
    exact invariant.owned.gathers other taken phase
  · intro usable other left
    by_cases fresh : other = connection.transports.length
    · exact Or.inr (Or.inl ((apart.opensOn_iff found).mpr ⟨rfl, fresh.symm⟩))
    · have left_before : connection.leftOpen other = true := by
        simp only [leftOpen, transports] at left ⊢
        cases cell : (connection.transports ++ [({} : TransportCell)])[other]? with
        | none => simp [cell] at left
        | some before =>
            rcases getElem?_concat_eq_some.mp cell with old | ⟨atEnd, -⟩
            · rwa [cell, ← old] at left
            · exact (fresh atEnd).elim
      rcases invariant.held (closed ▸ usable) other left_before with current | opens | gathering
      · exact (state current.1).elim
      · exact (invariant.apart.not_opensOn opener runs rests opens).elim
      · obtain ⟨_, origin, phase⟩ := gathering
        exact Or.inr (Or.inr ⟨next_state, origin,
          invariant.owned.gathering_of_same heartbeats lossTask phase⟩)

/-- After `close` nothing is claimed about the transports left open. -/
theorem of_closed (invariant : connection.CoalescedInvariant) (apart : next.OpenersApart)
    (owned : next.TransportOwned) (closed : next.closed = true)
    (started : next.startedAuthenticated = connection.startedAuthenticated) :
    next.CoalescedInvariant :=
  ⟨apart, owned, by simp [closed], fun _ => apart.closed closed,
    started.trans invariant.started⟩

theorem close (invariant : connection.CoalescedInvariant) :
    connection.close.CoalescedInvariant := by
  have apart := invariant.apart.close
  unfold Connection.close at apart ⊢
  split_ifs at apart ⊢
  · exact invariant
  · refine invariant.of_closed apart ?_ rfl rfl
    exact invariant.owned.of_frame (fun _ => id) (fun _ => id) rfl (fun _ => id) fun _ _ => id

theorem cancelOpen (invariant : connection.CoalescedInvariant) (opener : Opener) :
    (connection.cancelOpen opener).CoalescedInvariant := by
  unfold Connection.cancelOpen
  cases raised : connection.raiseInOpen opener .cancelled with
  | none => exact invariant
  | some next =>
      obtain ⟨attempt, found, opened⟩ := openStep_of_raiseInOpen raised
      exact invariant.openStep opener found (fun resumed => by cases resumed) opened

theorem cancelReconnect (invariant : connection.CoalescedInvariant) :
    connection.cancelReconnect.CoalescedInvariant := by
  have apart := invariant.apart.cancelReconnect
  unfold Connection.cancelReconnect at apart ⊢
  split at apart
  · exact invariant.cancelOpen .reconnect
  · next other =>
    refine invariant.of_same ⟨rfl, rfl, rfl, rfl, rfl⟩ apart (opensOn_congr fun opener => ?_)
      (Or.inl rfl) id nofun invariant.started
    cases opener with
    | connect => rfl
    | reconnect =>
        cases task : connection.reconnectTask with
        | opening count attempt => exact (other count attempt task).elim
        | _ => simp [Connection.attempt, task, ReconnectTask.attempt]

theorem cancelBackground (invariant : connection.CoalescedInvariant)
    (closed : connection.closed = true) : connection.cancelBackground.CoalescedInvariant := by
  have apart := invariant.apart.cancelBackground
  have heartbeat_owned : ∀ heartbeat,
      (connection.setHandler (.heartbeat heartbeat) none).TransportOwned := fun heartbeat =>
    invariant.owned.of_frame (fun _ => id) (fun _ => id) rfl (fun _ => id) fun _ _ => id
  have forget : ∀ {before : Connection}, before.TransportOwned →
      { before with lossTask := .idle }.TransportOwned := fun owned =>
    owned.of_frame (fun _ => id) (fun _ => id) rfl (fun _ => id) fun _ _ => id
  unfold Connection.cancelBackground at apart ⊢
  split at apart
  · next heartbeat _ =>
    dsimp only at apart ⊢
    split at apart
    · exact invariant.of_closed apart
        (forget ((heartbeat_owned heartbeat).cancelReceiver _)) closed rfl
    · exact invariant.of_closed apart (forget (heartbeat_owned heartbeat)) closed rfl
  · dsimp only at apart ⊢
    split at apart
    · exact invariant.of_closed apart (forget (invariant.owned.cancelReceiver _)) closed rfl
    · exact invariant.of_closed apart (forget invariant.owned) closed rfl

theorem closeTasks (invariant : connection.CoalescedInvariant)
    (closed : connection.closed = true) : connection.closeTasks.CoalescedInvariant := by
  have cancelled_closed : (connection.cancelOpen .connect).cancelReconnect.closed = true := by
    rw [closed_cancelReconnect, closed_cancelOpen]
    exact closed
  have cancelled := (invariant.cancelOpen .connect).cancelReconnect.cancelBackground
    cancelled_closed
  have background_closed :
      (connection.cancelOpen .connect).cancelReconnect.cancelBackground.closed = true := by
    rw [closed_cancelBackground]
    exact cancelled_closed
  have apart := invariant.apart.closeTasks
  unfold Connection.closeTasks at apart ⊢
  dsimp only at apart ⊢
  split at apart
  · next transport _ =>
    refine cancelled.of_closed apart ?_ background_closed rfl
    exact (cancelled.closeTransport transport).owned.of_frame (fun _ => id) nofun rfl
      (fun _ => id) fun _ _ => id
  · exact cancelled.of_fields ⟨rfl, rfl, rfl, rfl, rfl⟩ rfl rfl rfl rfl rfl rfl

theorem step {action : ConnectionAction} (invariant : connection.CoalescedInvariant)
    (coalesces : connection.Coalesces action)
    (stepped : connection.step action = some next) : next.CoalescedInvariant := by
  have apart := invariant.apart.step coalesces.startsAlone stepped
  cases action with
  | connect =>
      obtain rfl := Option.some.inj stepped
      exact invariant.connect
  | startConnect raised =>
      simp only [Connection.step] at stepped
      split_ifs at stepped with scheduled refused <;> obtain rfl := Option.some.inj stepped
      · refine invariant.of_same ⟨rfl, rfl, rfl, rfl, rfl⟩ apart (opensOn_congr fun opener => ?_)
          (Or.inl rfl) id invariant.scheduled invariant.started
        cases opener with
        | connect => simp [Connection.attempt, scheduled, ConnectTask.attempt]
        | reconnect => rfl
      · have state : connection.state ≠ .authenticated :=
          invariant.apart.busy .connect (by simp [Connection.busy, scheduled, ConnectTask.busy])
        exact invariant.opened .connect (by simp [unfinished, scheduled])
          (by simp [Connection.attempt, scheduled, ConnectTask.attempt]) state apart rfl rfl rfl
          rfl rfl rfl (setState_ne_authenticated state (by decide))
          (noteStart_startedAuthenticated invariant.started state)
  | startReconnect =>
      simp only [Connection.step] at stepped
      split_ifs at stepped with scheduled
      obtain rfl := Option.some.inj stepped
      refine invariant.nextAttempt (by simp [unfinished, scheduled.1]) (fun attempt found => ?_)
        (invariant.scheduled scheduled.1) 0
      simp [Connection.attempt, scheduled.1, ReconnectTask.attempt] at found
  | wakeReconnect raised =>
      simp only [Connection.step] at stepped
      split at stepped
      · next count sleeping =>
        have runs : connection.unfinished .reconnect = true := by simp [unfinished, sleeping]
        have rests : connection.attempt .reconnect = none := by
          simp [Connection.attempt, sleeping, ReconnectTask.attempt]
        have state : connection.state ≠ .authenticated :=
          invariant.apart.busy .reconnect
            (by simp [Connection.busy, sleeping, ReconnectTask.busy])
        split_ifs at stepped with closed
        · obtain rfl := Option.some.inj stepped
          exact invariant.endReconnect runs (by simp [rests]) state
        · split at stepped <;> obtain rfl := Option.some.inj stepped
          · exact invariant.exceptAttempt runs (by simp [rests]) state count _
          · exact invariant.opened .reconnect runs rests state apart rfl rfl rfl rfl rfl rfl
              (setState_ne_authenticated state (by decide))
              (noteStart_startedAuthenticated invariant.started state)
      · cases stepped
  | resumeOpen opener =>
      obtain ⟨attempt, found, opened⟩ := openStep_of_resumeOpen stepped
      exact invariant.openStep opener found (fun _ => coalesces attempt found) opened
  | raiseInOpen opener error =>
      obtain ⟨attempt, found, opened⟩ := openStep_of_raiseInOpen stepped
      exact invariant.openStep opener found (fun resumed => by cases resumed) opened
  | notifiedClose =>
      simp only [Connection.step] at stepped
      split_ifs at stepped with notifying
      obtain rfl := Option.some.inj stepped
      refine invariant.of_same ⟨rfl, rfl, rfl, rfl, rfl⟩ apart (opensOn_congr fun opener => ?_)
        (Or.inl rfl) id (by rintro ⟨⟩) invariant.started
      cases opener with
      | connect => rfl
      | reconnect => simp [Connection.attempt, notifying, ReconnectTask.attempt]
  | receiveHello transport =>
      simp only [Connection.step, receiveHello] at stepped
      split_ifs at stepped
      obtain rfl := Option.some.inj stepped
      exact invariant.of_fields ⟨rfl, rfl, rfl, rfl, rfl⟩ rfl rfl rfl rfl rfl rfl
  | raiseInReceiver transport error =>
      exact invariant.lossStep (lossStep_of_raiseInReceiver stepped)
  | returnReceiver transport =>
      exact invariant.lossStep (lossStep_of_returnReceiver stepped)
  | stepHeartbeat heartbeat fails =>
      exact invariant.lossStep (lossStep_of_stepHeartbeat stepped)
  | scheduleLoss =>
      simp only [Connection.step] at stepped
      split_ifs at stepped with idle
      obtain rfl := Option.some.inj stepped
      refine invariant.of_receivers ?_ rfl rfl rfl rfl rfl (fun _ => rfl) ?_ (Or.inl rfl) rfl
      · exact invariant.owned.of_frame (fun _ => id) (fun _ => id) rfl (fun _ => id) fun _ _ => id
      · intro origin transport phase
        cases origin with
        | receiver _ => exact phase
        | heartbeat _ => exact phase
        | lossTask => simp [handlerPhase, idle, LossTask.phase?] at phase
  | startLoss =>
      simp only [Connection.step] at stepped
      split_ifs at stepped with scheduled
      obtain rfl := Option.some.inj stepped
      exact invariant.lossStep (lossStep_connectionLost scheduled)
  | resumeHandler origin =>
      rcases lossStep_of_resumeHandler stepped with handled | ⟨phase, rfl⟩
      · exact invariant.lossStep handled
      · have left := invariant.setHandler (hosts_of_handlerPhase phase) none
          (by rintro _ _ _ ⟨⟩) fun transport gathering => by cases phase.symm.trans gathering
        exact left.startReconnect (coalesces phase)
  | cancelHandler origin =>
      obtain ⟨taken, rfl⟩ := cancelHandler_eq_some stepped
      have hosts : connection.Hosts origin := by
        rcases taken with phase | phase <;> exact hosts_of_handlerPhase phase
      refine invariant.setHandler hosts none (by rintro _ _ _ ⟨⟩) fun transport gathering => ?_
      rcases taken with phase | phase <;> cases phase.symm.trans gathering
  | close =>
      obtain rfl := Option.some.inj stepped
      exact invariant.close
  | closeTasks =>
      simp only [Connection.step] at stepped
      split_ifs at stepped with started
      obtain rfl := Option.some.inj stepped
      exact invariant.closeTasks (invariant.apart.closeStarted started)

theorem new (config : ConnectionConfig) :
    ({ config } : Connection).CoalescedInvariant where
  apart := .new config
  owned := ⟨by simp, by simp, by simp [handlerPhase, receiver]⟩
  held := by simp [leftOpen]
  scheduled := by simp
  started := rfl

theorem coalesced (invariant : connection.CoalescedInvariant) : connection.Coalesced where
  oneAttempt := by
    cases found : connection.attempt .connect with
    | none => exact Or.inl rfl
    | some attempt =>
        exact Or.inr (invariant.apart.attempt_eq_none (unfinished_of_attempt found) (by decide))
  startedAuthenticated := invariant.started
  othersClosed authenticated transport cell found other := by
    have usable : connection.closed = false := by
      by_contra closed
      exact invariant.apart.closed (by simpa using closed) authenticated
    by_contra notClosed
    have left : connection.leftOpen transport = true := by
      simpa [leftOpen, found] using notClosed
    rcases invariant.held usable transport left with current | opens | gathering
    · exact other current.2
    · obtain ⟨opener, attempt, foundAttempt, pending, _⟩ := opens
      exact invariant.apart.state_ne opener foundAttempt (ne_restartingHeartbeat pending)
        authenticated
    · exact gathering.1 authenticated

end CoalescedInvariant

/-- Connects and reconnects coalesce in every run whose steps meet the
condition. -/
theorem coalesced_of_reachable {config : ConnectionConfig}
    (reachable : (system config).ReachableUnder Coalesces connection) :
    connection.Coalesced := by
  have invariant : (system config).Invariant Coalesces CoalescedInvariant := {
    starts := fun first starts => by
      rw [starts]
      exact CoalescedInvariant.new config
    preserved := fun current action next holds admits stepped => holds.step admits stepped }
  exact (invariant.of_reachable reachable).coalesced

theorem coalesces_resumeOpen_of_quiet (quiet : connection.quiet = true) (opener : Opener) :
    connection.Coalesces (.resumeOpen opener) := by
  intro attempt _ _ _ origin transport gathering
  cases (handlerPhase_eq_none_of_quiet quiet origin).symm.trans gathering

/-- A session, its loss and the automatic reconnect. -/
theorem coalesced_reconnect :
    ∃ connection : Connection, connection.state = .authenticated ∧
      connection.transport = some 1 ∧ connection.transports.length = 2 ∧
      connection.Coalesced := by
  have opens : ∀ (connection : Connection) (opener : Opener), connection.quiet = true →
      connection.Coalesces (.resumeOpen opener) := fun _ opener quiet =>
    coalesces_resumeOpen_of_quiet quiet opener
  have meets : (system {}).StepsMeet Coalesces { config := {} }
      [.connect, .startConnect none, .resumeOpen .connect, .resumeOpen .connect,
        .receiveHello 0, .resumeOpen .connect, .raiseInReceiver 0 .other,
        .resumeHandler (.receiver 0), .resumeHandler (.receiver 0), .startReconnect,
        .wakeReconnect none, .resumeOpen .reconnect, .resumeOpen .reconnect, .receiveHello 1,
        .resumeOpen .reconnect, .resumeOpen .reconnect, .resumeOpen .reconnect] :=
    (system {}).stepsMeet_cons rfl trivial <| (system {}).stepsMeet_cons rfl trivial <|
      (system {}).stepsMeet_cons rfl (opens _ _ rfl) <|
      (system {}).stepsMeet_cons rfl (opens _ _ rfl) <|
      (system {}).stepsMeet_cons rfl trivial <|
      (system {}).stepsMeet_cons rfl (opens _ _ rfl) <|
      (system {}).stepsMeet_cons rfl trivial <|
      (system {}).stepsMeet_cons rfl (fun phase => by cases phase) <|
      (system {}).stepsMeet_cons rfl (fun _ _ => ⟨rfl, by decide⟩) <|
      (system {}).stepsMeet_cons rfl trivial <| (system {}).stepsMeet_cons rfl trivial <|
      (system {}).stepsMeet_cons rfl (opens _ _ rfl) <|
      (system {}).stepsMeet_cons rfl (opens _ _ rfl) <|
      (system {}).stepsMeet_cons rfl trivial <|
      (system {}).stepsMeet_cons rfl (opens _ _ rfl) <|
      (system {}).stepsMeet_cons rfl (opens _ _ rfl) <|
      (system {}).stepsMeet_cons rfl (opens _ _ rfl) trivial
  exact ⟨_, rfl, rfl, rfl, coalesced_of_reachable
    ((system {}).reachableUnder_of_run rfl _ rfl meets)⟩

/-- `connect` is called while the loss handler of the first session notifies
its listeners, and the handler starts a loop all the same: two attempts are in
progress. -/
theorem exists_overlapping_attempts :
    ∃ connection : Connection, (system {}).Reachable connection ∧
      ¬ connection.Coalesced := by
  refine ⟨_, (system {}).reachable_of_run rfl
    [.connect, .startConnect none, .resumeOpen .connect, .resumeOpen .connect,
      .receiveHello 0, .resumeOpen .connect, .raiseInReceiver 0 .other,
      .resumeHandler (.receiver 0), .connect, .startConnect none,
      .resumeHandler (.receiver 0), .startReconnect, .wakeReconnect none] rfl, ?_⟩
  intro coalesced
  rcases coalesced.oneAttempt with connect | reconnect
  · cases connect
  · cases reconnect

end Connection

end FitzClient
