import FitzClient.Connection
import FitzClient.IndexedCells

/-!
# The tasks of a connection

What the operations of the lifecycle do to the receive loops, the suspended
loss handlers and the attempts.  `OpenStep` and `LossStep` say once what an
attempt and a loss handler can do between two awaits; invariants are proved by
cases on them.
-/

namespace FitzClient

/-- The attempt has neither authenticated nor failed. -/
def OpenPhase.pending : OpenPhase → Bool
  | .connecting | .sendingConnect | .awaitingAuth _ | .restoring => true
  | .restartingHeartbeat | .closing _ | .gathering _ | .rejecting => false

/-- The `except` block of an attempt runs. -/
def OpenPhase.cleaning : OpenPhase → Bool
  | .closing _ | .gathering _ | .rejecting => true
  | _ => false

/-- The task has taken the connection over and has not authenticated. -/
def ConnectTask.busy : ConnectTask → Bool
  | .idle => false
  | .scheduled => true
  | .opening attempt => attempt.phase ≠ .restartingHeartbeat

def ReconnectTask.busy : ReconnectTask → Bool
  | .idle | .scheduled | .notifyingClose => false
  | .sleeping _ => true
  | .opening _ attempt => attempt.phase ≠ .restartingHeartbeat

@[simp]
theorem ConnectTask.setPhase_eq_idle (task : ConnectTask) (phase : OpenPhase) :
    task.setPhase phase = .idle ↔ task = .idle := by
  cases task <;> simp [ConnectTask.setPhase]

@[simp]
theorem ReconnectTask.setPhase_eq_idle (task : ReconnectTask) (phase : OpenPhase) :
    task.setPhase phase = .idle ↔ task = .idle := by
  cases task <;> simp [ReconnectTask.setPhase]

@[simp]
theorem ReconnectTask.setPhase_eq_scheduled (task : ReconnectTask) (phase : OpenPhase) :
    task.setPhase phase = .scheduled ↔ task = .scheduled := by
  cases task <;> simp [ReconnectTask.setPhase]

namespace Connection

variable {connection next : Connection} {origin : LossOrigin} {opener : Opener}

/-- `close()` was never called on this transport of the factory. -/
def leftOpen (connection : Connection) (transport : Nat) : Bool :=
  connection.transports[transport]?.any (!·.closed)

/-- The task in which this handler would run exists. -/
def Hosts (connection : Connection) : LossOrigin → Prop
  | .receiver transport => connection.receiver transport ≠ none
  | .heartbeat heartbeat => connection.heartbeats[heartbeat]? ≠ none
  | .lossTask => True

theorem receiver_modify (connection : Connection) (transport other : Nat)
    (update : TransportCell → TransportCell) :
    { connection with transports := connection.transports.modify transport update }.receiver
        other =
      (connection.transports[other]?.map fun cell =>
        if transport = other then update cell else cell).bind (·.receiver) := by
  simp [receiver, List.getElem?_modify]

@[simp]
theorem receiver_closeTransport (connection : Connection) (transport other : Nat) :
    (connection.closeTransport transport).receiver other = connection.receiver other := by
  rw [closeTransport, receiver_modify, receiver]
  cases connection.transports[other]? with
  | none => rfl
  | some cell =>
      by_cases same : transport = other
      · simp [same]
      · simp [same]

@[simp]
theorem receiver_cancelReceiver (connection : Connection) (transport other : Nat) :
    (connection.cancelReceiver transport).receiver other =
      if transport = other then (connection.receiver other).map fun _ => .done
      else connection.receiver other := by
  rw [cancelReceiver, receiver_modify, receiver]
  cases connection.transports[other]? with
  | none => simp
  | some cell =>
      by_cases same : transport = other
      · simp [same]
      · simp [same]

/-- A new transport has no receive loop. -/
theorem receiver_of_concat
    (transports : next.transports = connection.transports ++ [({} : TransportCell)])
    (transport : Nat) : next.receiver transport = connection.receiver transport := by
  rw [receiver, receiver, transports]
  rcases Nat.lt_trichotomy transport connection.transports.length with old | rfl | absent
  · rw [List.getElem?_append_left old]
  · simp
  · rw [List.getElem?_eq_none (by simp; omega), List.getElem?_eq_none (by omega)]

@[simp]
theorem leftOpen_closeTransport (connection : Connection) (transport other : Nat) :
    (connection.closeTransport transport).leftOpen other =
      (connection.leftOpen other && other != transport) := by
  simp only [leftOpen, closeTransport, List.getElem?_modify]
  cases connection.transports[other]? with
  | none => rfl
  | some cell =>
      by_cases same : transport = other
      · simp [same]
      · simp [same, Ne.symm same]

@[simp]
theorem leftOpen_cancelReceiver (connection : Connection) (transport other : Nat) :
    (connection.cancelReceiver transport).leftOpen other = connection.leftOpen other := by
  simp only [leftOpen, cancelReceiver, List.getElem?_modify]
  cases connection.transports[other]? with
  | none => rfl
  | some cell =>
      by_cases same : transport = other
      · simp [same]
      · simp [same]

@[simp]
theorem leftOpen_setHandler (connection : Connection) (origin : LossOrigin)
    (phase : Option HandlerPhase) (transport : Nat) :
    (connection.setHandler origin phase).leftOpen transport =
      connection.leftOpen transport := by
  cases origin with
  | receiver owner =>
      simp only [leftOpen, setHandler, List.getElem?_modify]
      cases connection.transports[transport]? with
      | none => rfl
      | some cell =>
          by_cases same : owner = transport
          · simp [same]
          · simp [same]
  | heartbeat _ => rfl
  | lossTask => rfl

theorem receiver_setHandler (connection : Connection) (phase : Option HandlerPhase)
    (transport other : Nat) (present : connection.receiver other ≠ none) :
    (connection.setHandler (.receiver transport) phase).receiver other =
      if transport = other then some ((phase.map .handling).getD .done)
      else connection.receiver other := by
  simp only [setHandler, receiver_modify]
  unfold receiver at present ⊢
  cases found : connection.transports[other]? with
  | none => simp [found] at present
  | some cell =>
      by_cases same : transport = other
      · simp [same]
      · simp [same]

theorem receiver_setHandler_eq_none (hosts : connection.Hosts origin)
    {phase : Option HandlerPhase} {transport : Nat}
    (absent : connection.receiver transport = none) :
    (connection.setHandler origin phase).receiver transport = none := by
  cases origin with
  | receiver other =>
      have different : other ≠ transport := by
        rintro rfl
        exact hosts absent
      simp only [receiver, setHandler]
      rw [List.getElem?_modify_ne _ _ different]
      exact absent
  | heartbeat _ => exact absent
  | lossTask => exact absent

theorem handlerPhase_setHandler_self (hosts : connection.Hosts origin)
    (phase : Option HandlerPhase) :
    (connection.setHandler origin phase).handlerPhase origin = phase := by
  cases origin with
  | receiver transport =>
      rw [handlerPhase, receiver_setHandler _ _ _ _ hosts]
      cases phase <;> simp [BackgroundTask.phase?]
  | heartbeat heartbeat =>
      obtain ⟨task, found⟩ := Option.ne_none_iff_exists'.mp hosts
      simp only [handlerPhase, setHandler, List.getElem?_modify, found]
      cases phase <;> simp [BackgroundTask.phase?]
  | lossTask => cases phase <;> rfl

theorem handlerPhase_setHandler_of_ne {other : LossOrigin} (apart : other ≠ origin)
    (phase : Option HandlerPhase) :
    (connection.setHandler origin phase).handlerPhase other =
      connection.handlerPhase other := by
  cases origin with
  | receiver transport =>
      cases other with
      | receiver second =>
          have different : transport ≠ second := fun same => apart (by rw [same])
          simp only [handlerPhase, receiver, setHandler]
          rw [List.getElem?_modify_ne _ _ different]
      | heartbeat _ => rfl
      | lossTask => rfl
  | heartbeat heartbeat =>
      cases other with
      | receiver _ => rfl
      | heartbeat second =>
          have different : heartbeat ≠ second := fun same => apart (by rw [same])
          simp only [handlerPhase, setHandler]
          rw [List.getElem?_modify_ne _ _ different]
      | lossTask => rfl
  | lossTask =>
      cases other with
      | receiver _ => rfl
      | heartbeat _ => rfl
      | lossTask => exact (apart rfl).elim

@[simp]
theorem handlerPhase_closeTransport (connection : Connection) (transport : Nat)
    (origin : LossOrigin) :
    (connection.closeTransport transport).handlerPhase origin =
      connection.handlerPhase origin := by
  cases origin with
  | receiver other => rw [handlerPhase, receiver_closeTransport, handlerPhase]
  | heartbeat _ => rfl
  | lossTask => rfl

/-- Cancelling a receive loop ends its loss handler and no other. -/
theorem handlerPhase_cancelReceiver (connection : Connection) (transport : Nat)
    (origin : LossOrigin) :
    (connection.cancelReceiver transport).handlerPhase origin =
      if origin = .receiver transport then none else connection.handlerPhase origin := by
  cases origin with
  | receiver other =>
      rw [handlerPhase, receiver_cancelReceiver, handlerPhase]
      by_cases same : transport = other
      · cases found : connection.receiver other <;> simp [same, BackgroundTask.phase?]
      · simp [same, Ne.symm same]
  | heartbeat _ => rfl
  | lossTask => rfl

theorem receiver_startReceiving_of_ne {transport other : Nat} (different : transport ≠ other) :
    (connection.startReceiving transport).receiver other = connection.receiver other := by
  simp only [receiver, startReceiving]
  rw [List.getElem?_modify_ne _ _ different]

/-- A receive loop that starts runs no loss handler. -/
theorem handlerPhase_startReceiving (connection : Connection) (transport : Nat)
    (origin : LossOrigin) :
    (connection.startReceiving transport).handlerPhase origin =
      if origin = .receiver transport then none else connection.handlerPhase origin := by
  cases origin with
  | receiver other =>
      by_cases same : transport = other
      · subst same
        simp only [handlerPhase, receiver, startReceiving, List.getElem?_modify_eq, if_true]
        cases connection.transports[transport]? <;> simp [BackgroundTask.phase?]
      · rw [handlerPhase, receiver_startReceiving_of_ne same, handlerPhase]
        simp [Ne.symm same]
  | heartbeat _ => rfl
  | lossTask => rfl

theorem Hosts.closeTransport (hosts : connection.Hosts origin) (transport : Nat) :
    (connection.closeTransport transport).Hosts origin := by
  cases origin with
  | receiver other =>
      rw [Hosts, receiver_closeTransport]
      exact hosts
  | heartbeat _ => exact hosts
  | lossTask => trivial

theorem Hosts.cancelReceiver (hosts : connection.Hosts origin) (transport : Nat) :
    (connection.cancelReceiver transport).Hosts origin := by
  cases origin with
  | receiver other =>
      rw [Hosts, receiver_cancelReceiver]
      split_ifs
      · simpa [Hosts] using hosts
      · exact hosts
  | heartbeat _ => exact hosts
  | lossTask => trivial

theorem hosts_of_handlerPhase {phase : HandlerPhase}
    (found : connection.handlerPhase origin = some phase) : connection.Hosts origin := by
  cases origin with
  | receiver transport =>
      intro absent
      simp [handlerPhase, absent] at found
  | heartbeat heartbeat =>
      intro absent
      simp [handlerPhase, absent] at found
  | lossTask => trivial

/-- No task runs the loss handler. -/
def quiet (connection : Connection) : Bool :=
  connection.transports.all (fun cell => cell.receiver.all (·.phase?.isNone)) &&
    connection.heartbeats.all (·.phase?.isNone) && connection.lossTask.phase?.isNone

theorem handlerPhase_eq_none_of_quiet (quiet : connection.quiet = true) (origin : LossOrigin) :
    connection.handlerPhase origin = none := by
  simp only [Connection.quiet, Bool.and_eq_true, List.all_eq_true, Option.isNone_iff_eq_none]
    at quiet
  obtain ⟨⟨receivers, heartbeats⟩, lossTask⟩ := quiet
  cases origin with
  | receiver transport =>
      rw [handlerPhase, receiver]
      cases found : connection.transports[transport]? with
      | none => rfl
      | some cell =>
          have rests := receivers cell (List.mem_of_getElem? found)
          cases task : cell.receiver with
          | none => simp [task]
          | some task' =>
              rw [task] at rests
              simpa [task] using rests
  | heartbeat heartbeat =>
      rw [handlerPhase]
      cases found : connection.heartbeats[heartbeat]? with
      | none => rfl
      | some task => exact heartbeats task (List.mem_of_getElem? found)
  | lossTask => exact lossTask

/-- The task is not done. -/
def unfinished (connection : Connection) : Opener → Bool
  | .connect => connection.connectTask ≠ .idle
  | .reconnect => connection.reconnectTask ≠ .idle

def busy (connection : Connection) : Opener → Bool
  | .connect => connection.connectTask.busy
  | .reconnect => connection.reconnectTask.busy

/-- The `except` block of the attempt in this task runs. -/
def cleaning (connection : Connection) (opener : Opener) : Bool :=
  (connection.attempt opener).any (·.phase.cleaning)

variable {attempt : OpenAttempt}

theorem attempt_connect :
    connection.attempt .connect = some attempt ↔ connection.connectTask = .opening attempt := by
  simp only [Connection.attempt]
  cases connection.connectTask <;> simp [ConnectTask.attempt]

theorem attempt_reconnect :
    connection.attempt .reconnect = some attempt ↔
      ∃ count, connection.reconnectTask = .opening count attempt := by
  simp only [Connection.attempt]
  cases connection.reconnectTask <;> simp [ReconnectTask.attempt]

theorem unfinished_of_busy (busy : connection.busy opener = true) :
    connection.unfinished opener = true := by
  cases opener with
  | connect =>
      simp only [Connection.busy, unfinished] at busy ⊢
      cases task : connection.connectTask <;> simp_all [ConnectTask.busy]
  | reconnect =>
      simp only [Connection.busy, unfinished] at busy ⊢
      cases task : connection.reconnectTask <;> simp_all [ReconnectTask.busy]

theorem unfinished_of_attempt (found : connection.attempt opener = some attempt) :
    connection.unfinished opener = true := by
  cases opener with
  | connect => simp [unfinished, attempt_connect.mp found]
  | reconnect =>
      obtain ⟨count, task⟩ := attempt_reconnect.mp found
      simp [unfinished, task]

theorem busy_of_attempt (found : connection.attempt opener = some attempt) :
    connection.busy opener = decide (attempt.phase ≠ .restartingHeartbeat) := by
  cases opener with
  | connect => simp [busy, attempt_connect.mp found, ConnectTask.busy]
  | reconnect =>
      obtain ⟨count, task⟩ := attempt_reconnect.mp found
      simp [busy, task, ReconnectTask.busy]

theorem cleaning_of_attempt (found : connection.attempt opener = some attempt) :
    connection.cleaning opener = attempt.phase.cleaning := by
  simp [cleaning, found]

theorem attempt_setPhase (found : connection.attempt opener = some attempt)
    (phase : OpenPhase) :
    (connection.setPhase opener phase).attempt opener = some { attempt with phase } := by
  cases opener with
  | connect =>
      rw [attempt_connect] at found ⊢
      simp [setPhase, found, ConnectTask.setPhase]
  | reconnect =>
      rw [attempt_reconnect] at found ⊢
      obtain ⟨count, task⟩ := found
      exact ⟨count, by simp [setPhase, task, ReconnectTask.setPhase]⟩

theorem unfinished_setPhase (connection : Connection) (opener other : Opener)
    (phase : OpenPhase) :
    (connection.setPhase opener phase).unfinished other = connection.unfinished other := by
  cases opener with
  | connect =>
      cases other with
      | connect => simp [setPhase, unfinished]
      | reconnect => rfl
  | reconnect =>
      cases other with
      | connect => rfl
      | reconnect => simp [setPhase, unfinished]

theorem unfinished_returnOpen_of_ne {other : Opener} (different : other ≠ opener)
    (connection : Connection) :
    (connection.returnOpen opener).unfinished other = connection.unfinished other := by
  cases opener with
  | connect =>
      cases other with
      | connect => exact (different rfl).elim
      | reconnect => rfl
  | reconnect =>
      cases other with
      | connect => rfl
      | reconnect => exact (different rfl).elim

theorem busy_returnOpen (connection : Connection) (opener : Opener) :
    (connection.returnOpen opener).busy opener = false := by
  cases opener <;> rfl

theorem ownsTransport_iff {transport : Nat} :
    connection.ownsTransport transport = true ↔
      connection.closed = false ∧ connection.transport = some transport ∧
        connection.receiveTask = some transport ∧
        connection.receiver transport ≠ some .done ∧ connection.state ≠ .disconnected := by
  simp [ownsTransport, and_assoc]

theorem ne_restartingHeartbeat (pending : attempt.phase.pending = true) :
    attempt.phase ≠ .restartingHeartbeat := by
  intro phase
  simp [phase, OpenPhase.pending] at pending

/-- The broker has accepted the attempt, and all it still awaited is done. -/
def answered (connection : Connection) (attempt : OpenAttempt) : Bool :=
  match attempt.phase with
  | .sendingConnect =>
      connection.authError.bind (connection.authFutures[·]?) == some .accepted
  | .awaitingAuth future => connection.authFutures[future]? == some .accepted
  | .restoring => true
  | _ => false

/-- A transition of a suspended attempt, into which an exception may be
raised. -/
inductive OpenStep (connection : Connection) (opener : Opener) (attempt : OpenAttempt)
    (raised : Option OpenError) : Connection → Prop
  | connected (phase : attempt.phase = .connecting) :
      OpenStep connection opener attempt raised
        ((connection.startReceiving attempt.transport).setPhase opener .sendingConnect)
  | waits (future : Nat) (phase : attempt.phase = .sendingConnect) :
      OpenStep connection opener attempt raised
        (connection.setPhase opener (.awaitingAuth future))
  | restores (phase : attempt.phase.pending = true) (again : opener = .reconnect) :
      OpenStep connection opener attempt raised
        ({ connection with
            authError := none
            generation := connection.generation + 1
            restoring := true }.setPhase opener .restoring)
  | authenticated (authError : Option Nat) (generation : Nat) (restoring : Bool)
      (resumed : raised = none) (pending : attempt.phase.pending = true)
      (answers : connection.answered attempt = true)
      (owns : connection.ownsTransport attempt.transport = true) :
      OpenStep connection opener attempt raised
        ({ connection with authError, generation, restoring }.authenticate.startHeartbeat opener)
  | replaced (phase : attempt.phase = .restartingHeartbeat) :
      OpenStep connection opener attempt raised (connection.newHeartbeat.returnOpen opener)
  | failed (authError : Option Nat) (generation : Nat) (restoring : Bool) (error : OpenError)
      (source : raised = some error ∨ error = .other ∨
        ∃ future : Nat, connection.authFutures[future]? = some (.failed error))
      (fails : attempt.phase.pending = true ∨
        attempt.phase = .restartingHeartbeat ∧ connection.closed = true) :
      OpenStep connection opener attempt raised
        ({ connection with authError, generation, restoring }.failOpen opener
          attempt.transport error)
  | cancels (error : OpenError) (phase : attempt.phase = .closing error) :
      OpenStep connection opener attempt raised
        ((connection.cancelReceiver attempt.transport).setPhase opener (.gathering error))
  | concluded (error : OpenError)
      (phase : attempt.phase = .closing error ∨ attempt.phase = .gathering error) :
      OpenStep connection opener attempt raised (connection.concludeOpen opener error)
  | rejected (phase : attempt.phase = .rejecting) :
      OpenStep connection opener attempt raised
        ((connection.setState .closed).raiseOpen opener .authentication)
  | cancelled (closed : connection.closed = true)
      (cleans : attempt.phase.pending = false)
      (opens : attempt.phase ≠ .restartingHeartbeat) :
      OpenStep connection opener attempt raised (connection.returnOpen opener)

theorem openStep_of_declareAuthenticated (authError : Option Nat) (generation : Nat)
    (restoring : Bool) (pending : attempt.phase.pending = true)
    (answers : connection.answered attempt = true) :
    connection.OpenStep opener attempt none
      ({ connection with authError, generation, restoring }.declareAuthenticated opener
        attempt.transport) := by
  unfold declareAuthenticated
  split_ifs with owns
  · exact .authenticated authError generation restoring rfl pending answers owns
  · exact .failed authError generation restoring .other (Or.inr (Or.inl rfl)) (Or.inl pending)

theorem openStep_of_resumeAuth (pending : attempt.phase.pending = true)
    (answers : connection.answered attempt = true) :
    connection.OpenStep opener attempt none
      (connection.resumeAuth opener attempt.transport) := by
  unfold resumeAuth
  split
  · exact .failed connection.authError connection.generation connection.restoring .other
      (Or.inr (Or.inl rfl)) (Or.inl pending)
  · next error answer =>
    obtain ⟨future, _, failed⟩ := Option.bind_eq_some_iff.mp answer
    exact .failed connection.authError connection.generation connection.restoring error
      (Or.inr (Or.inr ⟨future, failed⟩)) (Or.inl pending)
  · split_ifs
    · cases opener with
      | connect => exact openStep_of_declareAuthenticated _ _ _ pending answers
      | reconnect => exact .restores pending rfl
    · exact .failed none connection.generation connection.restoring .other
        (Or.inr (Or.inl rfl)) (Or.inl pending)

theorem openStep_of_resumeOpen (resumed : connection.resumeOpen opener = some next) :
    ∃ attempt, connection.attempt opener = some attempt ∧
      connection.OpenStep opener attempt none next := by
  unfold resumeOpen at resumed
  split at resumed
  · cases resumed
  · next attempt found =>
    refine ⟨attempt, found, ?_⟩
    split at resumed
    · next phase =>
      obtain rfl := Option.some.inj resumed
      exact .connected phase
    · next phase =>
      have pending : attempt.phase.pending = true := by rw [phase]; rfl
      split at resumed <;> obtain rfl := Option.some.inj resumed
      · next future expected =>
        unfold awaitAuth
        split
        · next accepted =>
          exact openStep_of_resumeAuth pending (by simp [answered, phase, expected, accepted])
        · next error answer =>
          exact .failed connection.authError connection.generation connection.restoring error
            (Or.inr (Or.inr ⟨future, answer⟩)) (Or.inl pending)
        · exact .waits future phase
      · exact .failed connection.authError connection.generation connection.restoring .other
          (Or.inr (Or.inl rfl)) (Or.inl pending)
    · next future phase =>
      have pending : attempt.phase.pending = true := by rw [phase]; rfl
      split at resumed
      · next accepted =>
        obtain rfl := Option.some.inj resumed
        exact openStep_of_resumeAuth pending (by simp [answered, phase, accepted])
      · next error answer =>
        obtain rfl := Option.some.inj resumed
        exact .failed connection.authError connection.generation connection.restoring error
          (Or.inr (Or.inr ⟨future, answer⟩)) (Or.inl pending)
      · cases resumed
    · next phase =>
      obtain rfl := Option.some.inj resumed
      exact openStep_of_declareAuthenticated _ _ _ (by rw [phase]; rfl)
        (by simp [answered, phase])
    · next phase =>
      obtain rfl := Option.some.inj resumed
      exact .replaced phase
    · next error phase =>
      split_ifs at resumed <;> obtain rfl := Option.some.inj resumed
      · exact .concluded error (Or.inl phase)
      · exact .cancels error phase
    · next error phase =>
      obtain rfl := Option.some.inj resumed
      exact .concluded error (Or.inr phase)
    · next phase =>
      obtain rfl := Option.some.inj resumed
      exact .rejected phase

theorem openStep_of_raiseInOpen {error : OpenError}
    (raised : connection.raiseInOpen opener error = some next) :
    ∃ attempt, connection.attempt opener = some attempt ∧
      connection.OpenStep opener attempt (some error) next := by
  unfold raiseInOpen at raised
  split at raised
  · cases raised
  · next attempt found =>
    refine ⟨attempt, found, ?_⟩
    split at raised
    · next phase =>
      obtain rfl := Option.some.inj raised
      exact .failed _ _ connection.restoring error (Or.inl rfl) (Or.inl (by rw [phase]; rfl))
    · next phase =>
      obtain rfl := Option.some.inj raised
      exact .failed _ _ connection.restoring error (Or.inl rfl) (Or.inl (by rw [phase]; rfl))
    · next phase =>
      obtain rfl := Option.some.inj raised
      exact .failed _ _ connection.restoring error (Or.inl rfl) (Or.inl (by rw [phase]; rfl))
    · next phase =>
      split_ifs at raised
      obtain rfl := Option.some.inj raised
      exact .failed _ _ false error (Or.inl rfl) (Or.inl (by rw [phase]; rfl))
    · next phase =>
      split_ifs at raised with closing
      obtain rfl := Option.some.inj raised
      exact .failed _ _ connection.restoring error (Or.inl rfl) (Or.inr ⟨phase, closing.1⟩)
    · next phase =>
      split_ifs at raised with closing
      obtain rfl := Option.some.inj raised
      exact .cancelled closing.1 (by rw [phase]; rfl) (by rw [phase]; nofun)
    · next phase =>
      split_ifs at raised with closing
      obtain rfl := Option.some.inj raised
      exact .cancelled closing.1 (by rw [phase]; rfl) (by rw [phase]; nofun)
    · next phase =>
      split_ifs at raised with closing
      obtain rfl := Option.some.inj raised
      exact .cancelled closing.1 (by rw [phase]; rfl) (by rw [phase]; nofun)

/-- The running task reaches `_connection_lost` here. -/
def Loses (connection : Connection) : LossOrigin → Prop
  | .receiver transport =>
      connection.receiver transport = some .running ∧ connection.closed = false ∧
        connection.transport = some transport ∧
        ¬ (connection.state = .authenticating ∧ connection.authError ≠ none)
  | .heartbeat heartbeat => connection.heartbeats[heartbeat]? = some .running
  | .lossTask => connection.lossTask = .scheduled

/-- `_connection_lost` does not return at once. -/
def Live (connection : Connection) : Prop :=
  connection.state ≠ .disconnected ∧ connection.state ≠ .reconnecting ∧
    connection.state ≠ .closed

/-- A transition of a task that runs or may run the loss handler, before the
handler's tail. -/
inductive LossStep (connection : Connection) (origin : LossOrigin) : Connection → Prop
  | ended (futures : List AuthFuture)
      (failures : ∀ (future : Nat) (error : OpenError), futures[future]? = some (.failed error) →
        connection.authFutures[future]? = some (.failed error) ∨ error ≠ .cancelled)
      (hosts : connection.Hosts origin) (quiet : connection.handlerPhase origin = none) :
      LossStep connection origin
        ({ connection with authFutures := futures }.setHandler origin none)
  | gathers (receiver : Nat) (loses : connection.Loses origin) (live : connection.Live)
      (receives : connection.receiveTask = some receiver)
      (other : origin ≠ .receiver receiver) :
      LossStep connection origin
        ((connection.loseTransport.cancelReceiver receiver).setHandler origin
          (some (.gathering connection.transport)))
  | closes (loses : connection.Loses origin) (live : connection.Live)
      (own : ∀ receiver, connection.receiveTask = some receiver → origin = .receiver receiver) :
      LossStep connection origin (connection.loseTransport.closeLost origin connection.transport)
  | gathered (taken : Option Nat)
      (phase : connection.handlerPhase origin = some (.gathering taken)) :
      LossStep connection origin (connection.closeLost origin taken)
  | closed (phase : connection.handlerPhase origin = some .closing) :
      LossStep connection origin (connection.setHandler origin (some .notifying))

theorem Loses.hosts (loses : connection.Loses origin) : connection.Hosts origin := by
  cases origin with
  | receiver transport => simp [Hosts, loses.1]
  | heartbeat heartbeat =>
      have found : connection.heartbeats[heartbeat]? = some .running := loses
      simp [Hosts, found]
  | lossTask => trivial

theorem Loses.quiet (loses : connection.Loses origin) :
    connection.handlerPhase origin = none := by
  cases origin with
  | receiver transport => simp [handlerPhase, loses.1, BackgroundTask.phase?]
  | heartbeat heartbeat =>
      have found : connection.heartbeats[heartbeat]? = some .running := loses
      simp [handlerPhase, found, BackgroundTask.phase?]
  | lossTask =>
      have task : connection.lossTask = .scheduled := loses
      simp [handlerPhase, task, LossTask.phase?]

/-- A task ends without touching a future. -/
theorem LossStep.endedSame (hosts : connection.Hosts origin)
    (quiet : connection.handlerPhase origin = none) :
    connection.LossStep origin (connection.setHandler origin none) :=
  .ended connection.authFutures (fun _ _ found => Or.inl found) hosts quiet

theorem lossStep_connectionLost (loses : connection.Loses origin) :
    connection.LossStep origin (connection.connectionLost origin) := by
  unfold connectionLost
  split_ifs with lost
  · exact .endedSame loses.hosts loses.quiet
  · have live : connection.Live := by simpa [Live] using lost
    split
    · next receiver receives =>
      split_ifs with own
      · refine .closes loses live fun other same => ?_
        rw [own, Option.some.inj (receives.symm.trans same)]
      · exact .gathers receiver loses live receives own
    · next nobody =>
      refine .closes loses live fun other same => ?_
      simp [nobody] at same

theorem getElem?_resolveAuth_eq_failed {outcome : AuthFuture} {future : Nat} {error : OpenError}
    (found : (connection.resolveAuth outcome).authFutures[future]? = some (.failed error)) :
    connection.authFutures[future]? = some (.failed error) ∨ outcome = .failed error := by
  unfold resolveAuth at found
  split at found
  · obtain ⟨before, old, same⟩ := getElem?_modify_eq_some.mp found
    split_ifs at same
    · exact Or.inr same.symm
    · exact Or.inl (by rw [old, same])
    · exact Or.inl (by rw [old, same])
  · exact Or.inl found

theorem lossStep_of_raiseInReceiver {transport : Nat} {error : OpenError}
    (raised : connection.raiseInReceiver transport error = some next) :
    connection.LossStep (.receiver transport) next := by
  unfold raiseInReceiver at raised
  split_ifs at raised with running cancelled waiting current <;>
    obtain rfl := Option.some.inj raised
  all_goals
    have hosts : connection.Hosts (.receiver transport) := by simp [Hosts, running]
    have quiet : connection.handlerPhase (.receiver transport) = none := by
      simp [handlerPhase, running, BackgroundTask.phase?]
  · exact .endedSame hosts quiet
  · refine .ended _ (fun future failure found => ?_) hosts quiet
    rcases getElem?_resolveAuth_eq_failed found with old | new
    · exact Or.inl old
    · exact Or.inr (by rwa [← AuthFuture.failed.inj new])
  · exact lossStep_connectionLost
      ⟨running, by simpa using current.1, current.2, waiting⟩
  · exact .endedSame hosts quiet

theorem lossStep_of_returnReceiver {transport : Nat}
    (returned : connection.returnReceiver transport = some next) :
    connection.LossStep (.receiver transport) next := by
  unfold returnReceiver at returned
  split_ifs at returned with gone
  obtain rfl := Option.some.inj returned
  exact .endedSame (by simp [Hosts, gone.1])
    (by simp [handlerPhase, gone.1, BackgroundTask.phase?])

theorem lossStep_of_stepHeartbeat {heartbeat : Nat} {fails : Bool}
    (stepped : connection.stepHeartbeat heartbeat fails = some next) :
    connection.LossStep (.heartbeat heartbeat) next := by
  unfold stepHeartbeat at stepped
  split_ifs at stepped with running _ gone <;> obtain rfl := Option.some.inj stepped
  · exact lossStep_connectionLost running
  · exact .endedSame (by simp [Hosts, running])
      (by simp [handlerPhase, running, BackgroundTask.phase?])

theorem lossStep_of_resumeHandler (resumed : connection.resumeHandler origin = some next) :
    connection.LossStep origin next ∨
      connection.handlerPhase origin = some .notifying ∧
        next = (connection.setHandler origin none).startReconnect := by
  unfold resumeHandler at resumed
  split at resumed
  · cases resumed
  · next taken phase =>
    obtain rfl := Option.some.inj resumed
    exact Or.inl (.gathered taken phase)
  · next phase =>
    obtain rfl := Option.some.inj resumed
    exact Or.inl (.closed phase)
  · next phase => exact Or.inr ⟨phase, (Option.some.inj resumed).symm⟩

theorem cancelHandler_eq_some (cancelled : connection.cancelHandler origin = some next) :
    (connection.handlerPhase origin = some .closing ∨
        connection.handlerPhase origin = some .notifying) ∧
      next = connection.setHandler origin none := by
  unfold cancelHandler at cancelled
  split at cancelled
  · next phase => exact ⟨Or.inl phase, (Option.some.inj cancelled).symm⟩
  · next phase => exact ⟨Or.inr phase, (Option.some.inj cancelled).symm⟩
  · cases cancelled

end Connection

end FitzClient
