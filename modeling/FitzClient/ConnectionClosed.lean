import FitzClient.ConnectionTasks

/-!
# Closed connections

`_closed` is set by `_close` and by an authentication rejection, and nothing
resets it.  Other tasks may be suspended in the middle of an attempt, of a loss
or of a reconnect loop at that time.  Each of them comes to one of three
guards: `_set_state` lets nothing but CLOSED pass, the ownership check raises,
and so does `_open_and_authenticate` before it makes a transport.
-/

namespace FitzClient

/-- What `connect` does before it waits for a task. -/
inductive ConnectOutcome
  | raises
  | returns
  | waits
  deriving DecidableEq, Repr

namespace Connection

variable {connection middle next : Connection} {opener : Opener}

/-- `_ensure_authenticated` does not raise. -/
def ensureAuthenticated (connection : Connection) : Bool :=
  !connection.closed && (connection.state == .authenticated || connection.restoring)

def connectOutcome (connection : Connection) : ConnectOutcome :=
  if connection.closed then .raises
  else if connection.state = .authenticated then .returns
  else .waits

/-- A closed connection stays closed: its state changes to CLOSED only, the
generation stays, no attempt opens a transport, and the reconnect loop sleeps
before no other attempt. -/
structure Sealed (connection next : Connection) : Prop where
  closed : next.closed = true
  state : next.state = connection.state ∨ next.state = .closed
  generation : next.generation = connection.generation
  transports : next.transports.length = connection.transports.length
  sleeping : ∀ count, next.reconnectTask = .sleeping count →
    connection.reconnectTask = .sleeping count

/-- The close flags only rise; once `_closed` is set the rest is sealed and
`close` starts nothing. -/
structure Advances (connection next : Connection) : Prop where
  closeNotified : connection.closeNotified = true → next.closeNotified = true
  sealed : connection.closed = true → Sealed connection next
  closeStarted : connection.closed = true → next.closeStarted = connection.closeStarted

namespace Advances

theorem trans (first : Advances connection middle) (second : Advances middle next) :
    Advances connection next where
  closeNotified notified := second.closeNotified (first.closeNotified notified)
  closeStarted closed :=
    (second.closeStarted (first.sealed closed).closed).trans (first.closeStarted closed)
  sealed closed := by
    have before := first.sealed closed
    have after := second.sealed before.closed
    refine ⟨after.closed, ?_, after.generation.trans before.generation,
      after.transports.trans before.transports, fun count sleeps =>
        before.sleeping count (after.sleeping count sleeps)⟩
    rcases after.state with same | ended
    · rw [same]
      exact before.state
    · exact Or.inr ended

/-- Neither the flags, nor the state, nor the number of transports change. -/
theorem of_same (closed : next.closed = connection.closed)
    (closeNotified : next.closeNotified = connection.closeNotified)
    (closeStarted : next.closeStarted = connection.closeStarted)
    (state : next.state = connection.state)
    (generation : next.generation = connection.generation)
    (transports : next.transports.length = connection.transports.length)
    (sleeping : ∀ count, next.reconnectTask = .sleeping count →
      connection.reconnectTask = .sleeping count) :
    Advances connection next where
  closeNotified notified := closeNotified.trans notified
  closeStarted _ := closeStarted
  sealed wasClosed := ⟨closed.trans wasClosed, Or.inl state, generation, transports, sleeping⟩

theorem refl (connection : Connection) : Advances connection connection :=
  of_same rfl rfl rfl rfl rfl rfl fun _ => id

/-- While the connection is not closed anything may follow that keeps the
notification. -/
theorem of_usable (usable : connection.closed = false)
    (closeNotified : connection.closeNotified = true → next.closeNotified = true) :
    Advances connection next where
  closeNotified := closeNotified
  sealed closed := by simp [usable] at closed
  closeStarted closed := by simp [usable] at closed

/-- `_set_state` -/
theorem setState (connection : Connection) (state : ConnectionState) :
    Advances connection (connection.setState state) where
  closeNotified := id
  closeStarted _ := rfl
  sealed closed := by
    refine ⟨closed, ?_, rfl, rfl, fun _ => id⟩
    simp only [Connection.setState, closed, true_and]
    split_ifs with other
    · exact Or.inl rfl
    · exact Or.inr (by simpa using other)

theorem setPhase (connection : Connection) (opener : Opener) (phase : OpenPhase) :
    Advances connection (connection.setPhase opener phase) := by
  refine of_same rfl rfl rfl rfl rfl rfl fun count sleeps => ?_
  cases opener with
  | connect => exact sleeps
  | reconnect =>
      change connection.reconnectTask.setPhase phase = .sleeping count at sleeps
      cases task : connection.reconnectTask <;> simp_all [ReconnectTask.setPhase]

theorem returnOpen (connection : Connection) (opener : Opener) :
    Advances connection (connection.returnOpen opener) := by
  refine of_same rfl rfl rfl rfl rfl rfl fun count sleeps => ?_
  cases opener with
  | connect => exact sleeps
  | reconnect => cases sleeps

theorem closeTransport (connection : Connection) (transport : Nat) :
    Advances connection (connection.closeTransport transport) :=
  of_same rfl rfl rfl rfl rfl (List.length_modify _ _ _) fun _ => id

theorem cancelReceiver (connection : Connection) (transport : Nat) :
    Advances connection (connection.cancelReceiver transport) :=
  of_same rfl rfl rfl rfl rfl (List.length_modify _ _ _) fun _ => id

theorem setHandler (connection : Connection) (origin : LossOrigin)
    (phase : Option HandlerPhase) : Advances connection (connection.setHandler origin phase) := by
  refine of_same rfl rfl rfl rfl rfl ?_ fun _ => id
  cases origin with
  | receiver transport => exact List.length_modify _ _ _
  | heartbeat _ => rfl
  | lossTask => rfl

theorem failOpen (connection : Connection) (opener : Opener) (transport : Nat)
    (error : OpenError) : Advances connection (connection.failOpen opener transport error) := by
  have detached (later : Connection) (current : Option Nat) :
      Advances later { later with transport := current } :=
    of_same rfl rfl rfl rfl rfl rfl fun _ => id
  exact ((detached connection _).trans (closeTransport _ transport)).trans (setPhase _ _ _)

theorem newHeartbeat (connection : Connection) :
    Advances connection connection.newHeartbeat :=
  of_same rfl rfl rfl rfl rfl rfl fun _ => id

theorem startHeartbeat (connection : Connection) (opener : Opener) :
    Advances connection (connection.startHeartbeat opener) := by
  unfold Connection.startHeartbeat
  split
  · split
    · exact (newHeartbeat connection).trans (returnOpen _ _)
    · exact (setHandler _ _ _).trans (setPhase _ _ _)
  · exact returnOpen _ _

theorem startReconnect (connection : Connection) :
    Advances connection connection.startReconnect := by
  unfold Connection.startReconnect
  split
  · exact refl connection
  · split
    · exact of_same rfl rfl rfl rfl rfl rfl nofun
    · exact refl connection

theorem closeLost (connection : Connection) (origin : LossOrigin) (taken : Option Nat) :
    Advances connection (connection.closeLost origin taken) := by
  unfold Connection.closeLost
  cases taken with
  | some transport => exact (closeTransport _ transport).trans (setHandler _ _ _)
  | none => exact setHandler _ _ _

theorem loseTransport (connection : Connection) :
    Advances connection connection.loseTransport :=
  (setState connection .disconnected).trans (of_same rfl rfl rfl rfl rfl rfl fun _ => id)

theorem connectionLost (connection : Connection) (origin : LossOrigin) :
    Advances connection (connection.connectionLost origin) := by
  unfold Connection.connectionLost
  split
  · exact setHandler _ _ _
  · split
    · split
      · exact (loseTransport connection).trans (closeLost _ _ _)
      · exact ((loseTransport connection).trans (cancelReceiver _ _)).trans (setHandler _ _ _)
    · exact (loseTransport connection).trans (closeLost _ _ _)

theorem giveUp (connection : Connection) : Advances connection connection.giveUp where
  closeNotified _ := rfl
  closeStarted _ := rfl
  sealed closed := by
    obtain ⟨stays, state, generation, transports, -⟩ :=
      (setState connection .disconnected).sealed closed
    refine ⟨stays, state, generation, transports, fun count sleeps => ?_⟩
    change (if connection.closeNotified then ReconnectTask.idle else .notifyingClose) =
      .sleeping count at sleeps
    split at sleeps <;> cases sleeps

theorem nextAttempt (connection : Connection) (count : Nat) :
    Advances connection (connection.nextAttempt count) := by
  unfold Connection.nextAttempt
  split
  · exact of_same rfl rfl rfl rfl rfl rfl nofun
  · split
    · next usable _ => exact of_usable (by simpa using usable) id
    · exact giveUp connection

theorem exceptAttempt (connection : Connection) (count : Nat) (error : OpenError) :
    Advances connection (connection.exceptAttempt count error) := by
  cases error with
  | cancelled => exact of_same rfl rfl rfl rfl rfl rfl nofun
  | authentication =>
      refine ⟨id, fun _ => ⟨rfl, Or.inr ?_, rfl, rfl, nofun⟩, fun _ => rfl⟩
      simp [Connection.exceptAttempt, Connection.setState]
  | versionMismatch => exact giveUp connection
  | other => exact nextAttempt connection count

theorem raiseOpen (connection : Connection) (opener : Opener) (error : OpenError) :
    Advances connection (connection.raiseOpen opener error) := by
  unfold Connection.raiseOpen
  cases opener with
  | connect => exact of_same rfl rfl rfl rfl rfl rfl fun _ => id
  | reconnect =>
      dsimp only
      split
      · exact exceptAttempt _ _ _
      · exact refl connection

theorem concludeOpen (connection : Connection) (opener : Opener) (error : OpenError) :
    Advances connection (connection.concludeOpen opener error) := by
  unfold Connection.concludeOpen
  split
  · have marked : Advances connection { connection with closed := true } :=
      ⟨id, fun _ => ⟨rfl, Or.inl rfl, rfl, rfl, fun _ => id⟩, fun _ => rfl⟩
    exact marked.trans (setPhase _ _ _)
  · split
    · exact raiseOpen _ _ _
    · exact (setState _ _).trans (raiseOpen _ _ _)

theorem startReceiving (connection : Connection) (transport : Nat) :
    Advances connection (connection.startReceiving transport) :=
  ((setState connection .connected).trans (setState _ .authenticating)).trans
    (of_same rfl rfl rfl rfl rfl (List.length_modify _ _ _) fun _ => id)

theorem declareAuthenticated (connection : Connection) (opener : Opener) (transport : Nat) :
    Advances connection (connection.declareAuthenticated opener transport) := by
  unfold Connection.declareAuthenticated
  split
  · next owns =>
    have usable := (ownsTransport_iff.mp owns).1
    refine of_usable usable fun notified => ?_
    exact (startHeartbeat connection.authenticate opener).closeNotified notified
  · exact failOpen _ _ _ _

theorem resumeAuth (connection : Connection) (opener : Opener) (transport : Nat) :
    Advances connection (connection.resumeAuth opener transport) := by
  unfold Connection.resumeAuth
  split
  · exact failOpen _ _ _ _
  · exact failOpen _ _ _ _
  · split
    · next owns =>
      refine of_usable (ownsTransport_iff.mp owns).1 fun notified => ?_
      cases opener with
      | connect =>
          exact (declareAuthenticated { connection with
            authError := none, generation := connection.generation + 1 } .connect
            transport).closeNotified notified
      | reconnect => exact notified
    · have forgotten : Advances connection { connection with authError := none } :=
        of_same rfl rfl rfl rfl rfl rfl fun _ => id
      exact forgotten.trans (failOpen _ _ _ _)

theorem awaitAuth (connection : Connection) (opener : Opener) (transport future : Nat) :
    Advances connection (connection.awaitAuth opener transport future) := by
  unfold Connection.awaitAuth
  split
  · exact resumeAuth _ _ _
  · exact failOpen _ _ _ _
  · exact setPhase _ _ _

theorem resumeOpen (resumed : connection.resumeOpen opener = some next) :
    Advances connection next := by
  unfold Connection.resumeOpen at resumed
  split at resumed
  · cases resumed
  · next attempt _ =>
    split at resumed
    · obtain rfl := Option.some.inj resumed
      exact (startReceiving _ _).trans (setPhase _ _ _)
    · split at resumed <;> obtain rfl := Option.some.inj resumed
      · exact awaitAuth _ _ _ _
      · exact failOpen _ _ _ _
    · split at resumed
      · obtain rfl := Option.some.inj resumed
        exact resumeAuth _ _ _
      · obtain rfl := Option.some.inj resumed
        exact failOpen _ _ _ _
      · cases resumed
    · obtain rfl := Option.some.inj resumed
      have restored : Advances connection { connection with restoring := false } :=
        of_same rfl rfl rfl rfl rfl rfl fun _ => id
      exact restored.trans (declareAuthenticated _ _ _)
    · obtain rfl := Option.some.inj resumed
      exact (newHeartbeat connection).trans (returnOpen _ _)
    · split at resumed <;> obtain rfl := Option.some.inj resumed
      · exact concludeOpen _ _ _
      · exact (cancelReceiver _ _).trans (setPhase _ _ _)
    · obtain rfl := Option.some.inj resumed
      exact concludeOpen _ _ _
    · obtain rfl := Option.some.inj resumed
      exact (setState _ _).trans (raiseOpen _ _ _)

theorem raiseInOpen {error : OpenError}
    (raised : connection.raiseInOpen opener error = some next) : Advances connection next := by
  unfold Connection.raiseInOpen at raised
  split at raised
  · cases raised
  · next attempt _ =>
    split at raised
    · obtain rfl := Option.some.inj raised
      exact failOpen _ _ _ _
    · obtain rfl := Option.some.inj raised
      exact failOpen _ _ _ _
    · obtain rfl := Option.some.inj raised
      exact failOpen _ _ _ _
    · split at raised
      · obtain rfl := Option.some.inj raised
        have restored : Advances connection { connection with restoring := false } :=
          of_same rfl rfl rfl rfl rfl rfl fun _ => id
        exact restored.trans (failOpen _ _ _ _)
      · cases raised
    · split at raised
      · obtain rfl := Option.some.inj raised
        exact failOpen _ _ _ _
      · cases raised
    all_goals
      split at raised
      · obtain rfl := Option.some.inj raised
        exact returnOpen _ _
      · cases raised

theorem connect (connection : Connection) : Advances connection connection.connect := by
  unfold Connection.connect
  split
  · exact refl connection
  · split
    · exact of_same rfl rfl rfl rfl rfl rfl fun _ => id
    · exact refl connection

theorem close (connection : Connection) : Advances connection connection.close := by
  unfold Connection.close
  split
  · exact refl connection
  · next usable => exact of_usable (by simpa using usable) id

theorem cancelOpen (connection : Connection) (opener : Opener) :
    Advances connection (connection.cancelOpen opener) := by
  unfold Connection.cancelOpen
  cases raised : connection.raiseInOpen opener .cancelled with
  | none => exact refl connection
  | some next => exact raiseInOpen raised

theorem cancelReconnect (connection : Connection) :
    Advances connection connection.cancelReconnect := by
  unfold Connection.cancelReconnect
  split
  · exact cancelOpen _ _
  · exact of_same rfl rfl rfl rfl rfl rfl nofun

theorem cancelBackground (connection : Connection) :
    Advances connection connection.cancelBackground := by
  have ended (later : Connection) : Advances later { later with lossTask := .idle } :=
    of_same rfl rfl rfl rfl rfl rfl fun _ => id
  unfold Connection.cancelBackground
  cases connection.heartbeatTask with
  | none =>
      dsimp only
      cases connection.receiveTask with
      | none => exact ended connection
      | some transport => exact (cancelReceiver connection transport).trans (ended _)
  | some heartbeat =>
      have stopped := setHandler connection (.heartbeat heartbeat) none
      dsimp only
      split
      · exact (stopped.trans (cancelReceiver _ _)).trans (ended _)
      · exact stopped.trans (ended _)

theorem closeTasks (connection : Connection) : Advances connection connection.closeTasks := by
  have cancelled := ((cancelOpen connection .connect).trans (cancelReconnect _)).trans
    (cancelBackground _)
  have notified (later : Connection) : Advances later { later with closeNotified := true } :=
    ⟨fun _ => rfl, fun closed => ⟨closed, Or.inl rfl, rfl, rfl, fun _ => id⟩, fun _ => rfl⟩
  unfold Connection.closeTasks
  dsimp only
  split
  · next transport _ =>
    have detached (later : Connection) : Advances later { later with transport := none } :=
      of_same rfl rfl rfl rfl rfl rfl fun _ => id
    exact ((cancelled.trans (closeTransport _ transport)).trans (detached _)).trans (notified _)
  · exact cancelled.trans (notified _)

/-- What any transition does to the close flags, and to a closed connection. -/
theorem step {action : ConnectionAction} (stepped : connection.step action = some next) :
    Advances connection next := by
  cases action with
  | connect =>
      obtain rfl := Option.some.inj stepped
      exact connect connection
  | startConnect raised =>
      simp only [Connection.step] at stepped
      split_ifs at stepped with scheduled refused <;> obtain rfl := Option.some.inj stepped
      · exact of_same rfl rfl rfl rfl rfl rfl fun _ => id
      · refine of_usable ?_ id
        by_contra closed
        exact refused (Or.inl (by simpa using closed))
  | startReconnect =>
      simp only [Connection.step] at stepped
      split_ifs at stepped
      obtain rfl := Option.some.inj stepped
      exact nextAttempt connection 0
  | wakeReconnect raised =>
      simp only [Connection.step] at stepped
      split at stepped
      · next count _ =>
        split_ifs at stepped with closed
        · obtain rfl := Option.some.inj stepped
          exact of_same rfl rfl rfl rfl rfl rfl nofun
        · split at stepped <;> obtain rfl := Option.some.inj stepped
          · exact exceptAttempt _ _ _
          · exact of_usable (by simpa using closed) id
      · cases stepped
  | resumeOpen opener => exact resumeOpen stepped
  | raiseInOpen opener error => exact raiseInOpen stepped
  | notifiedClose =>
      simp only [Connection.step] at stepped
      split_ifs at stepped
      obtain rfl := Option.some.inj stepped
      exact of_same rfl rfl rfl rfl rfl rfl nofun
  | receiveHello transport =>
      simp only [Connection.step, receiveHello] at stepped
      split_ifs at stepped
      obtain rfl := Option.some.inj stepped
      exact of_same rfl rfl rfl rfl rfl rfl fun _ => id
  | raiseInReceiver transport error =>
      simp only [Connection.step, raiseInReceiver] at stepped
      split_ifs at stepped <;> obtain rfl := Option.some.inj stepped
      · exact setHandler _ _ _
      · exact of_same rfl rfl rfl rfl rfl (List.length_modify _ _ _) fun _ => id
      · exact connectionLost _ _
      · exact setHandler _ _ _
  | returnReceiver transport =>
      simp only [Connection.step, returnReceiver] at stepped
      split_ifs at stepped
      obtain rfl := Option.some.inj stepped
      exact setHandler _ _ _
  | stepHeartbeat heartbeat fails =>
      simp only [Connection.step, stepHeartbeat] at stepped
      split_ifs at stepped <;> obtain rfl := Option.some.inj stepped
      · exact connectionLost _ _
      · exact setHandler _ _ _
  | scheduleLoss =>
      simp only [Connection.step] at stepped
      split_ifs at stepped
      obtain rfl := Option.some.inj stepped
      exact of_same rfl rfl rfl rfl rfl rfl fun _ => id
  | startLoss =>
      simp only [Connection.step] at stepped
      split_ifs at stepped
      obtain rfl := Option.some.inj stepped
      exact connectionLost _ _
  | resumeHandler origin =>
      simp only [Connection.step, resumeHandler] at stepped
      split at stepped
      · cases stepped
      · obtain rfl := Option.some.inj stepped
        exact closeLost _ _ _
      · obtain rfl := Option.some.inj stepped
        exact setHandler _ _ _
      · obtain rfl := Option.some.inj stepped
        exact (setHandler _ _ _).trans (startReconnect _)
  | cancelHandler origin =>
      obtain ⟨-, rfl⟩ := cancelHandler_eq_some stepped
      exact setHandler _ _ _
  | close =>
      obtain rfl := Option.some.inj stepped
      exact close connection
  | closeTasks =>
      simp only [Connection.step] at stepped
      split_ifs at stepped
      obtain rfl := Option.some.inj stepped
      exact closeTasks connection

theorem leads {config : ConnectionConfig} {admitted : Connection → ConnectionAction → Prop}
    (leads : (system config).LeadsUnder admitted connection next) : Advances connection next :=
  leads.induct (fun _ _ _ advances _ stepped => advances.trans (step stepped)) (refl connection)

end Advances

/-- Whatever is suspended when `_closed` is set, the state is set to nothing
but CLOSED from then on, no generation begins, no attempt gets past its closed
check, requests and sends are refused, and `connect` raises. -/
theorem closed_absorbing {config : ConnectionConfig} {later : Connection}
    (closed : connection.closed = true) (actions : List ConnectionAction)
    (ran : (system config).run connection actions = some later) :
    Sealed connection later ∧ later.ensureAuthenticated = false ∧
      later.connectOutcome = .raises := by
  have leads : (system config).LeadsUnder (fun _ _ => True) connection later :=
    (system config).leadsUnder_of_run actions ran
      ((system config).stepsMeet_of_forall (fun _ _ => trivial) _ _)
  have stays := (Advances.leads leads).sealed closed
  refine ⟨stays, ?_, ?_⟩
  · simp [ensureAuthenticated, stays.closed]
  · simp [connectOutcome, stays.closed]

/-- `close` is called while the reconnect loop restores the registrations, and
the restoration ends afterwards. -/
theorem closed_absorbing_during_restoration :
    ∃ closing later : Connection,
      (system {}).run { config := {} }
        [.connect, .startConnect none, .resumeOpen .connect, .resumeOpen .connect,
          .receiveHello 0, .resumeOpen .connect, .raiseInReceiver 0 .other,
          .resumeHandler (.receiver 0), .resumeHandler (.receiver 0), .startReconnect,
          .wakeReconnect none, .resumeOpen .reconnect, .resumeOpen .reconnect,
          .receiveHello 1, .resumeOpen .reconnect, .close] = some closing ∧
      (system {}).run closing [.resumeOpen .reconnect, .resumeOpen .reconnect] = some later ∧
      Sealed closing later ∧ later.ensureAuthenticated = false ∧
      later.connectOutcome = .raises :=
  ⟨_, _, rfl, rfl, @closed_absorbing _ {} _ rfl
    [.resumeOpen .reconnect, .resumeOpen .reconnect] rfl⟩

end Connection

end FitzClient
