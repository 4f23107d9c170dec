import FitzClient.ConnectionOpeners
import FitzClient.LabelledSystem

/-!
# Every loss is picked up

After the client has authenticated once, an idle connection that has not given
up is authenticated or has a reconnect loop that will make an attempt.

The handler of a loss starts no loop if it finds an unfinished reconnect task.
That is right as long as the loop still decides about its next attempt.  It is
wrong while the loop only waits for the old heartbeat in `_start_heartbeat`,
after it has declared the connection authenticated: a loss in that window is
swallowed.
-/

namespace FitzClient

namespace Connection

variable {connection next : Connection} {origin : LossOrigin} {opener : Opener}
  {attempt : OpenAttempt}

/-- Nothing excuses the connection from reconnecting after a loss. -/
structure Owes (connection : Connection) : Prop where
  everAuthenticated : connection.everAuthenticated = true
  enabled : connection.config.reconnectEnabled = true
  usable : connection.closed = false
  hopeful : connection.gaveUp = false

/-- A reconnect loop exists and will make a further attempt. -/
def WillAttempt (connection : Connection) : Prop :=
  connection.reconnectTask = .scheduled ∧ connection.config.maxAttempts.all (0 < ·) = true ∨
    ∃ count, connection.reconnectTask = .sleeping count

/-- No loss is lost: when nothing executes, the connection is authenticated or
will reconnect. -/
def LossPickedUp (connection : Connection) : Prop :=
  connection.Owes → connection.config.maxAttempts ≠ some 0 →
    connection.connectTask = .idle → connection.attempt .reconnect = none →
    (∀ origin, connection.handlerPhase origin = none) →
      connection.state = .authenticated ∨ connection.WillAttempt

/-- The tail of a loss handler runs neither while the connect task is
unfinished nor, after another loss, while the reconnect loop restarts the
heartbeat; and nothing that a handler or the loop awaits raises a
`CancelledError` of its own. -/
def PicksUp (connection : Connection) : ConnectionAction → Prop
  | .resumeHandler origin => connection.handlerPhase origin = some .notifying →
      connection.wantsReconnect = true → connection.connectTask = .idle ∧
        ∀ attempt, connection.attempt .reconnect = some attempt →
          attempt.phase = .restartingHeartbeat → connection.state = .authenticated
  | .cancelHandler _ => connection.wantsReconnect = false
  | .raiseInOpen .reconnect error => error = .cancelled → connection.closed = true
  | .wakeReconnect raised => raised = some .cancelled → connection.closed = true
  | _ => True

theorem PicksUp.startsAlone {action : ConnectionAction}
    (picksUp : connection.PicksUp action) : connection.StartsAlone action := by
  cases action with
  | resumeHandler origin =>
      intro phase starts
      simp only [startsLoop, Bool.and_eq_true] at starts
      exact (picksUp phase starts.1).1
  | _ => trivial

theorem Owes.wantsReconnect (owes : connection.Owes) : connection.wantsReconnect = true := by
  simp [Connection.wantsReconnect, owes.everAuthenticated, owes.enabled, owes.usable]

/-- The loop has not authenticated and will go on after a failure. -/
def loopAlive (connection : Connection) : Bool :=
  match connection.reconnectTask with
  | .scheduled | .sleeping _ => true
  | .opening _ attempt => attempt.phase ≠ .restartingHeartbeat
  | .idle | .notifyingClose => false

/-- Somebody will bring the connection back, or it is not lost. -/
def Recovering (connection : Connection) : Prop :=
  connection.state = .authenticated ∨ connection.loopAlive = true ∨
    ∃ origin, connection.handlerPhase origin ≠ none

/-- The receive loop of a connect attempt runs no loss handler, which the
cleanup of the attempt would end: before the answer the future of the attempt
gets the exception, and after a failure the transport is gone. -/
def ConnectQuiet (connection : Connection) (attempt : OpenAttempt) : Prop :=
  match attempt.phase with
  | .connecting => connection.receiver attempt.transport = none
  | .sendingConnect | .awaitingAuth _ =>
      connection.handlerPhase (.receiver attempt.transport) = none ∧
        (connection.transport = some attempt.transport →
          connection.state = .authenticating ∧ connection.authError ≠ none)
  | .restoring => False
  | .restartingHeartbeat => True
  | .closing _ | .gathering _ | .rejecting =>
      connection.handlerPhase (.receiver attempt.transport) = none ∧
        connection.transport ≠ some attempt.transport

structure RecoveryInvariant (connection : Connection) : Prop where
  apart : connection.OpenersApart
  connects : ∀ attempt, connection.attempt .connect = some attempt →
    connection.closed = false → connection.ConnectQuiet attempt
  notifying : connection.reconnectTask = .notifyingClose → connection.gaveUp = true
  futures : ∀ future : Nat, connection.authFutures[future]? ≠ some (.failed .cancelled)
  calm : ∀ attempt, connection.attempt .reconnect = some attempt →
    attempt.phase = .closing .cancelled ∨ attempt.phase = .gathering .cancelled →
      connection.closed = true
  alive : connection.Owes → connection.Recovering

theorem Recovering.keep (recovering : connection.Recovering)
    (state : connection.state = .authenticated → next.state = .authenticated)
    (loop : connection.loopAlive = true → next.loopAlive = true)
    (handlers : ∀ origin, connection.handlerPhase origin ≠ none →
      next.handlerPhase origin ≠ none) : next.Recovering := by
  rcases recovering with authenticated | alive | ⟨origin, phase⟩
  · exact Or.inl (state authenticated)
  · exact Or.inr (Or.inl (loop alive))
  · exact Or.inr (Or.inr ⟨origin, handlers origin phase⟩)

theorem loopAlive_of_attempt (found : connection.attempt .reconnect = some attempt)
    (opens : attempt.phase ≠ .restartingHeartbeat) : connection.loopAlive = true := by
  obtain ⟨count, task⟩ := attempt_reconnect.mp found
  simpa [loopAlive, task] using opens

theorem ConnectQuiet.handlerPhase_eq_none (quiet : connection.ConnectQuiet attempt)
    (opens : attempt.phase ≠ .restartingHeartbeat) :
    connection.handlerPhase (.receiver attempt.transport) = none := by
  unfold ConnectQuiet at quiet
  split at quiet
  · simp [handlerPhase, quiet]
  · exact quiet.1
  · exact quiet.1
  · exact quiet.elim
  · next phase => exact (opens phase).elim
  · exact quiet.1
  · exact quiet.1
  · exact quiet.1

theorem ConnectQuiet.of_restarting (phase : attempt.phase = .restartingHeartbeat) :
    connection.ConnectQuiet attempt := by
  simp [ConnectQuiet, phase]

theorem ConnectQuiet.keep (quiet : connection.ConnectQuiet attempt)
    (receiver : connection.receiver attempt.transport = none →
      next.receiver attempt.transport = none)
    (phase : next.handlerPhase (.receiver attempt.transport) = none)
    (transport : next.transport = some attempt.transport →
      connection.transport = some attempt.transport ∧ next.state = connection.state ∧
        next.authError = connection.authError) : next.ConnectQuiet attempt := by
  have waiting : (connection.transport = some attempt.transport →
      connection.state = .authenticating ∧ connection.authError ≠ none) →
      next.transport = some attempt.transport →
        next.state = .authenticating ∧ next.authError ≠ none := by
    intro before current
    obtain ⟨same, state, authError⟩ := transport current
    rw [state, authError]
    exact before same
  unfold ConnectQuiet at quiet ⊢
  split at quiet
  · exact receiver quiet
  · exact ⟨phase, waiting quiet.2⟩
  · exact ⟨phase, waiting quiet.2⟩
  · exact quiet
  · trivial
  · exact ⟨phase, fun current => quiet.2 (transport current).1⟩
  · exact ⟨phase, fun current => quiet.2 (transport current).1⟩
  · exact ⟨phase, fun current => quiet.2 (transport current).1⟩

/-- The receive loop of a connect attempt never reaches `_connection_lost`. -/
theorem ConnectQuiet.not_loses (quiet : connection.ConnectQuiet attempt)
    (opens : attempt.phase ≠ .restartingHeartbeat)
    (loses : connection.Loses (.receiver attempt.transport)) : False := by
  obtain ⟨running, _, current, waiting⟩ := loses
  unfold ConnectQuiet at quiet
  split at quiet
  · simp [running] at quiet
  · exact waiting (quiet.2 current)
  · exact waiting (quiet.2 current)
  · exact quiet
  · next phase => exact opens phase
  · exact quiet.2 current
  · exact quiet.2 current
  · exact quiet.2 current

namespace RecoveryInvariant

/-- A transition that leaves the reconnect loop alone. -/
theorem of_frame (invariant : connection.RecoveryInvariant) (apart : next.OpenersApart)
    (connects : ∀ attempt, next.attempt .connect = some attempt → next.closed = false →
      next.ConnectQuiet attempt)
    (reconnectTask : next.reconnectTask = connection.reconnectTask)
    (futures : ∀ future : Nat, next.authFutures[future]? ≠ some (.failed .cancelled))
    (closed : next.closed = connection.closed)
    (ever : next.everAuthenticated = connection.everAuthenticated)
    (config : next.config = connection.config)
    (gaveUp : next.gaveUp = connection.gaveUp)
    (alive : next.Owes → connection.Recovering → next.Recovering) :
    next.RecoveryInvariant where
  apart := apart
  connects := connects
  notifying task := by
    rw [gaveUp]
    exact invariant.notifying (reconnectTask ▸ task)
  futures := futures
  calm attempt found phase := by
    rw [closed]
    refine invariant.calm attempt ?_ phase
    simpa only [Connection.attempt, reconnectTask] using found
  alive owes := by
    refine alive owes (invariant.alive ⟨?_, ?_, ?_, ?_⟩)
    · rw [← ever]
      exact owes.everAuthenticated
    · rw [← config]
      exact owes.enabled
    · rw [← closed]
      exact owes.usable
    · rw [← gaveUp]
      exact owes.hopeful

/-- A transition of the reconnect loop, which excludes a connect attempt. -/
theorem of_loop (invariant : connection.RecoveryInvariant) (apart : next.OpenersApart)
    (runs : connection.unfinished .reconnect = true)
    (connectTask : next.connectTask = connection.connectTask)
    (notifying : next.reconnectTask = .notifyingClose → next.gaveUp = true)
    (futures : ∀ future : Nat, next.authFutures[future]? ≠ some (.failed .cancelled))
    (calm : ∀ attempt, next.attempt .reconnect = some attempt →
      attempt.phase = .closing .cancelled ∨ attempt.phase = .gathering .cancelled →
        next.closed = true)
    (alive : next.Owes → next.Recovering) : next.RecoveryInvariant where
  apart := apart
  connects attempt found := by
    have idle : connection.attempt .connect = none :=
      invariant.apart.attempt_eq_none runs (by decide)
    simp only [Connection.attempt, connectTask] at found idle
    simp [idle] at found
  notifying := notifying
  futures := futures
  calm := calm
  alive := alive

/-- After `close` nothing is claimed about recovery. -/
theorem of_closed (invariant : connection.RecoveryInvariant) (apart : next.OpenersApart)
    (closed : next.closed = true)
    (notifying : next.reconnectTask = .notifyingClose → connection.reconnectTask = .notifyingClose)
    (futures : next.authFutures = connection.authFutures)
    (gaveUp : next.gaveUp = connection.gaveUp) : next.RecoveryInvariant where
  apart := apart
  connects attempt found usable := by simp [closed] at usable
  notifying task := by
    rw [gaveUp]
    exact invariant.notifying (notifying task)
  futures := by
    rw [futures]
    exact invariant.futures
  calm attempt found phase := closed
  alive owes := by
    have usable := owes.usable
    simp [closed] at usable

theorem giveUp (invariant : connection.RecoveryInvariant)
    (runs : connection.unfinished .reconnect = true) : connection.giveUp.RecoveryInvariant := by
  refine invariant.of_loop (invariant.apart.giveUp runs) runs rfl (fun _ => rfl)
    invariant.futures (fun attempt found => ?_) fun owes => by cases owes.hopeful
  simp only [Connection.attempt, Connection.giveUp] at found
  split_ifs at found <;> cases found

theorem endReconnect (invariant : connection.RecoveryInvariant)
    (runs : connection.unfinished .reconnect = true)
    (alive : connection.Owes → connection.state = .authenticated ∨
      ∃ origin, connection.handlerPhase origin ≠ none) :
    { connection with reconnectTask := .idle }.RecoveryInvariant := by
  refine invariant.of_loop (invariant.apart.endReconnect runs) runs rfl nofun invariant.futures
    nofun fun owes => ?_
  rcases alive ⟨owes.1, owes.2, owes.3, owes.4⟩ with authenticated | handler
  · exact Or.inl authenticated
  · exact Or.inr (Or.inr handler)

theorem nextAttempt (invariant : connection.RecoveryInvariant)
    (runs : connection.unfinished .reconnect = true) (count : Nat) :
    (connection.nextAttempt count).RecoveryInvariant := by
  have apart := invariant.apart.nextAttempt runs count
  unfold Connection.nextAttempt at apart ⊢
  split_ifs at apart ⊢ with closed
  · refine invariant.endReconnect runs fun owes => ?_
    simp [owes.usable] at closed
  · exact invariant.of_loop apart runs rfl nofun invariant.futures nofun
      fun _ => Or.inr (Or.inl rfl)
  · exact invariant.giveUp runs

theorem exceptAttempt (invariant : connection.RecoveryInvariant)
    (runs : connection.unfinished .reconnect = true) (count : Nat) (error : OpenError)
    (calm : error = .cancelled → connection.closed = true) :
    (connection.exceptAttempt count error).RecoveryInvariant := by
  have apart := invariant.apart.exceptAttempt runs count error
  cases error with
  | cancelled =>
      refine invariant.endReconnect runs fun owes => ?_
      simp [owes.usable] at calm
  | authentication =>
      exact invariant.of_loop apart runs rfl nofun invariant.futures nofun
        fun owes => by cases owes.usable
  | versionMismatch => exact invariant.giveUp runs
  | other => exact invariant.nextAttempt runs count

/-- The loop's attempt goes on. -/
theorem of_loop_attempt (invariant : connection.RecoveryInvariant) (apart : next.OpenersApart)
    (runs : connection.unfinished .reconnect = true)
    (connectTask : next.connectTask = connection.connectTask)
    (futures : ∀ future : Nat, next.authFutures[future]? ≠ some (.failed .cancelled))
    (found : next.attempt .reconnect = some attempt)
    (stays : attempt.phase ≠ .restartingHeartbeat)
    (calm : attempt.phase = .closing .cancelled ∨ attempt.phase = .gathering .cancelled →
      next.closed = true) : next.RecoveryInvariant := by
  refine invariant.of_loop apart runs connectTask ?_ futures ?_ fun _ =>
    Or.inr (Or.inl (loopAlive_of_attempt found stays))
  · rcases apart.reconnectTask_cases found with idle | ⟨count, task⟩
    · simp [idle]
    · simp [task]
  · intro other otherFound
    rw [← Option.some.inj (found.symm.trans otherFound)]
    exact calm

/-- The loop's attempt goes on at another await. -/
theorem setPhase_reconnect (invariant : connection.RecoveryInvariant)
    (found : connection.attempt .reconnect = some attempt)
    (state : connection.state ≠ .authenticated) (phase : OpenPhase)
    (stays : phase ≠ .restartingHeartbeat)
    (calm : phase = .closing .cancelled ∨ phase = .gathering .cancelled →
      connection.closed = true) : (connection.setPhase .reconnect phase).RecoveryInvariant := by
  exact invariant.of_loop_attempt (invariant.apart.setPhase .reconnect found phase fun _ => state)
    (unfinished_of_attempt found) rfl invariant.futures (attempt_setPhase found phase) stays calm

theorem setPhase_connect (invariant : connection.RecoveryInvariant)
    (found : connection.attempt .connect = some attempt) (phase : OpenPhase)
    (state : phase ≠ .restartingHeartbeat → connection.state ≠ .authenticated)
    (quiet : connection.closed = false → connection.ConnectQuiet { attempt with phase }) :
    (connection.setPhase .connect phase).RecoveryInvariant := by
  have after := attempt_setPhase found phase
  refine invariant.of_frame (invariant.apart.setPhase .connect found phase state)
    (fun other otherFound usable => ?_) rfl invariant.futures rfl rfl rfl rfl fun _ => id
  obtain rfl := Option.some.inj (after.symm.trans otherFound)
  exact quiet usable

theorem returnOpen_connect (invariant : connection.RecoveryInvariant)
    (found : connection.attempt .connect = some attempt) :
    (connection.returnOpen .connect).RecoveryInvariant :=
  invariant.of_frame (invariant.apart.returnOpen .connect found) nofun rfl invariant.futures rfl
    rfl rfl rfl fun _ => id

theorem closeTransport (invariant : connection.RecoveryInvariant) (transport : Nat) :
    (connection.closeTransport transport).RecoveryInvariant := by
  refine invariant.of_frame (invariant.apart.of_same rfl rfl rfl rfl (Or.inl rfl))
    (fun attempt found usable => ?_) rfl invariant.futures rfl rfl rfl rfl
    fun _ recovering => recovering.keep id id fun origin phase => ?_
  · have quiet := invariant.connects attempt found usable
    by_cases rh : attempt.phase = .restartingHeartbeat
    · exact .of_restarting rh
    · refine quiet.keep (fun absent => ?_) ?_ fun current => ⟨current, rfl, rfl⟩
      · rw [receiver_closeTransport]
        exact absent
      · rw [handlerPhase_closeTransport]
        exact quiet.handlerPhase_eq_none rh
  · rw [handlerPhase_closeTransport]
    exact phase

/-- The cleanup of an attempt starts: the transport is closed, the loss
handlers stay. -/
theorem failOpen (invariant : connection.RecoveryInvariant) (opener : Opener)
    (found : connection.attempt opener = some attempt)
    (fails : attempt.phase ≠ .restartingHeartbeat ∨ connection.closed = true)
    (authError : Option Nat) (generation : Nat) (restoring : Bool) (error : OpenError)
    (calm : opener = .reconnect → error = .cancelled → connection.closed = true) :
    ({ connection with authError, generation, restoring }.failOpen opener
      attempt.transport error).RecoveryInvariant := by
  have state : connection.state ≠ .authenticated := by
    rcases fails with opens | closed
    · exact invariant.apart.state_ne opener found opens
    · exact invariant.apart.closed closed
  have cleared : { connection with
      authError, generation, restoring
      transport := if connection.transport = some attempt.transport then none
        else connection.transport }.RecoveryInvariant := by
    refine invariant.of_frame (invariant.apart.of_same rfl rfl rfl rfl (Or.inl rfl))
      (fun other otherFound usable => ?_) rfl invariant.futures rfl rfl rfl rfl fun _ => id
    obtain rfl := invariant.apart.exclusive .connect opener (unfinished_of_attempt otherFound)
      (unfinished_of_attempt found)
    obtain rfl := Option.some.inj (found.symm.trans otherFound)
    have quiet := invariant.connects attempt found usable
    by_cases rh : attempt.phase = .restartingHeartbeat
    · exact .of_restarting rh
    · refine quiet.keep id (quiet.handlerPhase_eq_none rh) fun current => ?_
      split_ifs at current with own
      exact (own current).elim
  have closing := cleared.closeTransport attempt.transport
  cases opener with
  | connect =>
      refine closing.setPhase_connect found _ (fun _ => state) fun usable => ?_
      have quiet := invariant.connects attempt found usable
      have opens : attempt.phase ≠ .restartingHeartbeat := by
        rcases fails with opens | closed
        · exact opens
        · have usable_before : connection.closed = false := usable
          simp [usable_before] at closed
      refine ⟨?_, fun current => ?_⟩
      · rw [handlerPhase_closeTransport]
        exact quiet.handlerPhase_eq_none opens
      · simp only [Connection.closeTransport] at current
        split_ifs at current with own
        exact own current
  | reconnect =>
      refine closing.setPhase_reconnect found state _ (by rintro ⟨⟩) fun phase => ?_
      rcases phase with same | other
      · exact calm rfl (OpenPhase.closing.inj same)
      · cases other

theorem raiseOpen (invariant : connection.RecoveryInvariant) (opener : Opener)
    (found : connection.attempt opener = some attempt) (error : OpenError)
    (calm : opener = .reconnect → error = .cancelled → connection.closed = true) :
    (connection.raiseOpen opener error).RecoveryInvariant := by
  cases opener with
  | connect => exact invariant.returnOpen_connect found
  | reconnect =>
      obtain ⟨count, task⟩ := attempt_reconnect.mp found
      simp only [Connection.raiseOpen, task]
      exact invariant.exceptAttempt (unfinished_of_attempt found) count error (calm rfl)

/-- The state of a connection that was not authenticated changes while an
attempt is cleaned up. -/
theorem setState (invariant : connection.RecoveryInvariant) (opener : Opener)
    (found : connection.attempt opener = some attempt)
    (cleans : attempt.phase.pending = false) (opens : attempt.phase ≠ .restartingHeartbeat)
    {state : ConnectionState} (after : state ≠ .authenticated) :
    (connection.setState state).RecoveryInvariant := by
  have before := invariant.apart.state_ne opener found opens
  refine invariant.of_frame (invariant.apart.setState state after)
    (fun other otherFound usable => ?_) rfl invariant.futures rfl rfl rfl rfl
    fun _ recovering => recovering.keep (fun same => (before same).elim) id fun _ => id
  obtain rfl := invariant.apart.exclusive .connect opener (unfinished_of_attempt otherFound)
    (unfinished_of_attempt found)
  obtain rfl := Option.some.inj (found.symm.trans otherFound)
  have quiet := invariant.connects attempt found usable
  unfold ConnectQuiet at quiet ⊢
  split at quiet
  all_goals first
    | exact quiet
    | (next phase => simp [phase, OpenPhase.pending] at cleans)

theorem concludeOpen (invariant : connection.RecoveryInvariant) (opener : Opener)
    (found : connection.attempt opener = some attempt) (error : OpenError)
    (phase : attempt.phase = .closing error ∨ attempt.phase = .gathering error) :
    (connection.concludeOpen opener error).RecoveryInvariant := by
  have cleans : attempt.phase.pending = false := by
    rcases phase with closing | gathering
    · rw [closing]; rfl
    · rw [gathering]; rfl
  have opens : attempt.phase ≠ .restartingHeartbeat := by
    rcases phase with closing | gathering
    · rw [closing]; nofun
    · rw [gathering]; nofun
  have calm : opener = .reconnect → error = .cancelled → connection.closed = true := by
    rintro rfl rfl
    exact invariant.calm attempt found phase
  unfold Connection.concludeOpen
  split_ifs
  · have apart := invariant.apart.concludeOpen opener found opens error
    simp only [Connection.concludeOpen, ‹error = _›, if_true] at apart
    refine invariant.of_closed apart rfl (fun notifying => ?_) rfl rfl
    cases opener with
    | connect => exact notifying
    | reconnect =>
        obtain ⟨count, task⟩ := attempt_reconnect.mp found
        simp [Connection.setPhase, task, ReconnectTask.setPhase] at notifying
  · exact invariant.raiseOpen opener found error calm
  · exact (invariant.setState opener found cleans opens (by decide)).raiseOpen opener found error
      calm

theorem startReceiving (invariant : connection.RecoveryInvariant) (opener : Opener)
    (found : connection.attempt opener = some attempt) (phase : attempt.phase = .connecting) :
    ((connection.startReceiving attempt.transport).setPhase opener
      .sendingConnect).RecoveryInvariant := by
  have before := invariant.apart.state_ne opener found (by rw [phase]; decide)
  have opened : connection.OpenStep opener attempt none _ := .connected phase
  have apart := invariant.apart.openStep opener found opened
  have futures : ∀ future : Nat, (connection.startReceiving attempt.transport).authFutures[future]?
      ≠ some (.failed .cancelled) := by
    intro future failed
    rcases getElem?_concat_eq_some.mp failed with old | ⟨_, new⟩
    · exact invariant.futures future old
    · cases new
  have after : ((connection.startReceiving attempt.transport).setPhase opener
      .sendingConnect).attempt opener = some { attempt with phase := .sendingConnect } :=
    attempt_setPhase found _
  cases opener with
  | connect =>
      refine invariant.of_frame apart (fun other otherFound usable => ?_) rfl futures rfl rfl rfl
        rfl fun owes recovering => ?_
      · obtain rfl := Option.some.inj (after.symm.trans otherFound)
        have started : (connection.startReceiving attempt.transport).handlerPhase
            (.receiver attempt.transport) = none := by
          simp [handlerPhase_startReceiving]
        have usable_before : connection.closed = false := usable
        refine ⟨started, fun _ => ⟨?_, (by rintro ⟨⟩)⟩⟩
        simp [Connection.setPhase, Connection.startReceiving, Connection.setState, usable_before]
      · have quiet := invariant.connects attempt found owes.usable
        refine recovering.keep (fun same => (before same).elim) id fun origin handles => ?_
        have still : (connection.startReceiving attempt.transport).handlerPhase origin ≠ none := by
          rw [handlerPhase_startReceiving]
          split_ifs with own
          · rw [own, quiet.handlerPhase_eq_none (by rw [phase]; decide)] at handles
            exact handles
          · exact handles
        exact still
  | reconnect =>
      refine invariant.of_loop_attempt apart (unfinished_of_attempt found) rfl futures after
        (by rintro ⟨⟩) ?_
      rintro (closing | gathering)
      · cases closing
      · cases gathering

theorem newHeartbeat (invariant : connection.RecoveryInvariant) :
    connection.newHeartbeat.RecoveryInvariant := by
  refine invariant.of_frame (invariant.apart.of_same rfl rfl rfl rfl (Or.inl rfl))
    (fun attempt found usable => ?_) rfl invariant.futures rfl rfl rfl rfl
    fun _ recovering => recovering.keep id id fun origin phase => ?_
  · have quiet := invariant.connects attempt found usable
    by_cases rh : attempt.phase = .restartingHeartbeat
    · exact .of_restarting rh
    · exact quiet.keep id (quiet.handlerPhase_eq_none rh) fun current => ⟨current, rfl, rfl⟩
  · cases origin with
    | receiver _ => exact phase
    | heartbeat heartbeat =>
        obtain ⟨suspended, found⟩ := Option.ne_none_iff_exists'.mp phase
        simp only [handlerPhase, Option.bind_eq_some_iff] at found
        obtain ⟨task, old, handles⟩ := found
        have still : connection.newHeartbeat.heartbeats[heartbeat]? = some task :=
          getElem?_concat_eq_some.mpr (Or.inl old)
        simp [handlerPhase, still, handles]
    | lossTask => exact phase

/-- Cancelling the receive loop of a failed attempt ends no loss handler that
anybody waits for. -/
theorem cancelReceiver_setPhase (invariant : connection.RecoveryInvariant) (opener : Opener)
    (found : connection.attempt opener = some attempt) (error : OpenError)
    (phase : attempt.phase = .closing error) :
    ((connection.cancelReceiver attempt.transport).setPhase opener
      (.gathering error)).RecoveryInvariant := by
  have opened : connection.OpenStep opener attempt none _ := .cancels error phase
  have apart := invariant.apart.openStep opener found opened
  have after : ((connection.cancelReceiver attempt.transport).setPhase opener
      (.gathering error)).attempt opener = some { attempt with phase := .gathering error } :=
    attempt_setPhase found _
  cases opener with
  | connect =>
      refine invariant.of_frame apart (fun other otherFound usable => ?_) rfl invariant.futures rfl
        rfl rfl rfl fun owes recovering => ?_
      · obtain rfl := Option.some.inj (after.symm.trans otherFound)
        have quiet := invariant.connects attempt found usable
        simp only [ConnectQuiet, phase] at quiet
        have cancelled : (connection.cancelReceiver attempt.transport).handlerPhase
            (.receiver attempt.transport) = none := by
          simp [handlerPhase_cancelReceiver]
        exact ⟨cancelled, quiet.2⟩
      · have quiet := invariant.connects attempt found owes.usable
        refine recovering.keep id id fun origin handles => ?_
        have still : (connection.cancelReceiver attempt.transport).handlerPhase origin ≠ none := by
          rw [handlerPhase_cancelReceiver]
          split_ifs with own
          · rw [own, quiet.handlerPhase_eq_none (by rw [phase]; nofun)] at handles
            exact handles
          · exact handles
        exact still
  | reconnect =>
      refine invariant.of_loop_attempt apart (unfinished_of_attempt found) rfl invariant.futures
        after nofun fun cancelled => invariant.calm attempt found (Or.inl ?_)
      rcases cancelled with closing | gathering
      · cases closing
      · rw [phase, OpenPhase.gathering.inj gathering]

/-- An attempt authenticates: whoever was lost is back. -/
theorem of_authenticated (apart : next.OpenersApart) (state : next.state = .authenticated)
    (futures : ∀ future : Nat, next.authFutures[future]? ≠ some (.failed .cancelled))
    (reconnectTask : next.reconnectTask ≠ .notifyingClose)
    (attempts : ∀ opener attempt, next.attempt opener = some attempt →
      attempt.phase = .restartingHeartbeat) : next.RecoveryInvariant where
  apart := apart
  connects attempt found _ := .of_restarting (attempts .connect attempt found)
  notifying task := (reconnectTask task).elim
  futures := futures
  calm attempt found phase := by
    rw [attempts .reconnect attempt found] at phase
    rcases phase with closing | gathering
    · cases closing
    · cases gathering
  alive _ := Or.inl state

theorem startHeartbeat (apart : connection.OpenersApart) (opener : Opener)
    (found : connection.attempt opener = some attempt) (usable : connection.closed = false)
    (futures : ∀ future : Nat, connection.authFutures[future]? ≠ some (.failed .cancelled)) :
    (connection.authenticate.startHeartbeat opener).RecoveryInvariant := by
  have next_apart := apart.startHeartbeat opener found usable
  have authenticated : connection.authenticate.state = .authenticated := by
    simp [authenticate, Connection.setState, usable]
  have return_rests : ∀ other, (connection.returnOpen opener).attempt other = none :=
    apart.rests_of_returnOpen found
  have returned : (connection.returnOpen opener).reconnectTask ≠ .notifyingClose := by
    cases opener with
    | connect =>
        rcases apart.reconnectTask_cases found with idle | ⟨count, task⟩
        · simp [Connection.returnOpen, idle]
        · simp [Connection.returnOpen, task]
    | reconnect => rintro ⟨⟩
  unfold Connection.startHeartbeat at next_apart ⊢
  split_ifs at next_apart ⊢
  · split at next_apart
    · refine of_authenticated next_apart authenticated futures returned
        fun other attempt later => ?_
      cases (return_rests other).symm.trans later
    · next previous _ =>
      have running : (connection.authenticate.setHandler (.heartbeat previous) none).attempt
          opener = some attempt := found
      have after := attempt_setPhase running .restartingHeartbeat
      refine of_authenticated next_apart authenticated futures ?_ fun other attempt later => ?_
      · rcases next_apart.reconnectTask_cases after with idle | ⟨count, task⟩
        · simp [idle]
        · simp [task]
      · obtain rfl := next_apart.exclusive other opener (unfinished_of_attempt later)
          (unfinished_of_attempt after)
        rw [← Option.some.inj (after.symm.trans later)]
  · refine of_authenticated next_apart authenticated futures returned fun other attempt later => ?_
    cases (return_rests other).symm.trans later

/-- Every transition of an attempt keeps the invariant. -/
theorem openStep {raised : Option OpenError} (invariant : connection.RecoveryInvariant)
    (opener : Opener) (found : connection.attempt opener = some attempt)
    (calm : opener = .reconnect → raised = some .cancelled → connection.closed = true)
    (opened : connection.OpenStep opener attempt raised next) : next.RecoveryInvariant := by
  have apart := invariant.apart.openStep opener found opened
  cases opened with
  | connected phase => exact invariant.startReceiving opener found phase
  | waits future phase =>
      have state := invariant.apart.state_ne opener found (by rw [phase]; nofun)
      cases opener with
      | connect =>
          refine invariant.setPhase_connect found _ (fun _ => state) fun usable => ?_
          simpa [ConnectQuiet, phase] using invariant.connects attempt found usable
      | reconnect => exact invariant.setPhase_reconnect found state _ nofun nofun
  | restores pending again =>
      subst again
      have runs := unfinished_of_attempt found
      have after : ({ connection with
          authError := none
          generation := connection.generation + 1
          restoring := true }.setPhase .reconnect .restoring).attempt .reconnect =
            some { attempt with phase := .restoring } := attempt_setPhase found _
      refine invariant.of_loop_attempt apart runs rfl invariant.futures after nofun ?_
      rintro (closing | gathering)
      · cases closing
      · cases gathering
  | authenticated authError generation restoring resumed pending answers owns =>
      have established : { connection with authError, generation, restoring }.OpenersApart :=
        invariant.apart.of_same rfl rfl rfl rfl (Or.inl rfl)
      exact startHeartbeat established opener found (ownsTransport_iff.mp owns).1
        invariant.futures
  | replaced phase =>
      have replaced := invariant.newHeartbeat
      cases opener with
      | connect => exact replaced.returnOpen_connect found
      | reconnect =>
          refine replaced.endReconnect (unfinished_of_attempt found) fun owes => ?_
          rcases replaced.alive owes with authenticated | alive | handler
          · exact Or.inl authenticated
          · obtain ⟨count, task⟩ := attempt_reconnect.mp found
            simp [loopAlive, Connection.newHeartbeat, task, phase] at alive
          · exact Or.inr handler
  | failed authError generation restoring error source fails =>
      refine invariant.failOpen opener found ?_ authError generation restoring error ?_
      · rcases fails with pending | ⟨_, closed⟩
        · exact Or.inl (ne_restartingHeartbeat pending)
        · exact Or.inr closed
      · rintro again rfl
        rcases source with raises | other | ⟨future, failed⟩
        · exact calm again raises
        · cases other
        · exact (invariant.futures future failed).elim
  | cancels error phase => exact invariant.cancelReceiver_setPhase opener found error phase
  | concluded error phase => exact invariant.concludeOpen opener found error phase
  | rejected phase =>
      exact (invariant.setState opener found (by rw [phase]; rfl) (by rw [phase]; nofun)
        (by decide)).raiseOpen opener found .authentication nofun
  | cancelled closed cleans opens =>
      refine invariant.of_closed apart closed (fun notifying => ?_) rfl rfl
      cases opener with
      | connect => exact notifying
      | reconnect => cases notifying

/-- The handler in this task moves on and stays active, or nobody waits for
it. -/
theorem setHandler (invariant : connection.RecoveryInvariant) (hosts : connection.Hosts origin)
    (phase : Option HandlerPhase)
    (quiet : ∀ attempt, connection.attempt .connect = some attempt →
      connection.ConnectQuiet attempt → attempt.phase ≠ .restartingHeartbeat →
        origin ≠ .receiver attempt.transport ∨ phase = none)
    (alive : connection.Owes → phase = none → connection.handlerPhase origin = none) :
    (connection.setHandler origin phase).RecoveryInvariant := by
  refine invariant.of_frame (invariant.apart.of_same rfl rfl rfl rfl (Or.inl rfl))
    (fun attempt found usable => ?_) rfl invariant.futures rfl rfl rfl rfl
    fun owes recovering => recovering.keep id id fun other handles => ?_
  · have before := invariant.connects attempt found usable
    by_cases rh : attempt.phase = .restartingHeartbeat
    · exact .of_restarting rh
    · refine before.keep (receiver_setHandler_eq_none hosts) ?_ fun current =>
        ⟨current, rfl, rfl⟩
      by_cases own : LossOrigin.receiver attempt.transport = origin
      · rcases quiet attempt found before rh with other | ended
        · exact (other own.symm).elim
        · rw [own, handlerPhase_setHandler_self hosts, ended]
      · rw [handlerPhase_setHandler_of_ne own]
        exact before.handlerPhase_eq_none rh
  · by_cases own : other = origin
    · rw [own] at handles ⊢
      rw [handlerPhase_setHandler_self hosts]
      intro ended
      exact handles (alive ⟨owes.1, owes.2, owes.3, owes.4⟩ ended)
    · rw [handlerPhase_setHandler_of_ne own]
      exact handles

/-- A handler has taken the connection down and is active itself. -/
theorem lose (invariant : connection.RecoveryInvariant) (loses : connection.Loses origin)
    (hosts : next.Hosts origin) (phase : HandlerPhase) (apart : next.OpenersApart)
    (connectTask : next.connectTask = connection.connectTask)
    (reconnectTask : next.reconnectTask = connection.reconnectTask)
    (futures : next.authFutures = connection.authFutures)
    (closed : next.closed = connection.closed)
    (ever : next.everAuthenticated = connection.everAuthenticated)
    (config : next.config = connection.config) (gaveUp : next.gaveUp = connection.gaveUp)
    (transport : next.transport = none)
    (receivers : ∀ transport, connection.receiver transport = none →
      next.receiver transport = none)
    (handlers : ∀ transport, connection.handlerPhase (.receiver transport) = none →
      next.handlerPhase (.receiver transport) = none) :
    (next.setHandler origin (some phase)).RecoveryInvariant := by
  refine invariant.of_frame (apart.of_same rfl rfl rfl rfl (Or.inl rfl))
    (fun attempt found usable => ?_) reconnectTask
    (fun future failed => invariant.futures future (futures ▸ failed)) closed ever config gaveUp
    fun _ _ => Or.inr (Or.inr ⟨origin, ?_⟩)
  · have before : connection.attempt .connect = some attempt := by
      simpa only [Connection.attempt, Connection.setHandler, connectTask] using found
    have quiet := invariant.connects attempt before (closed ▸ usable)
    by_cases rh : attempt.phase = .restartingHeartbeat
    · exact .of_restarting rh
    · refine quiet.keep (fun absent => receiver_setHandler_eq_none hosts
        (receivers _ absent)) ?_ fun current => ?_
      · rw [handlerPhase_setHandler_of_ne]
        · exact handlers _ (quiet.handlerPhase_eq_none rh)
        · rintro rfl
          exact quiet.not_loses rh loses
      · cases transport.symm.trans current
  · rw [handlerPhase_setHandler_self hosts]
    rintro ⟨⟩

/-- Every transition of a task that may run the loss handler, up to the
handler's tail. -/
theorem lossStep (invariant : connection.RecoveryInvariant)
    (stepped : connection.LossStep origin next) : next.RecoveryInvariant := by
  have stays : ∀ {phase : HandlerPhase}, connection.handlerPhase origin = some phase →
      ∀ attempt, connection.ConnectQuiet attempt → attempt.phase ≠ .restartingHeartbeat →
        origin ≠ .receiver attempt.transport := by
    rintro phase handling attempt quiet rh rfl
    cases handling.symm.trans (quiet.handlerPhase_eq_none rh)
  cases stepped with
  | ended futures failures hosts quiet =>
      have resolved : { connection with authFutures := futures }.RecoveryInvariant := by
        refine invariant.of_frame (invariant.apart.of_same rfl rfl rfl rfl (Or.inl rfl))
          (fun attempt found usable => ?_) rfl (fun future failed => ?_) rfl rfl rfl rfl
          fun _ => id
        · exact invariant.connects attempt found usable
        · rcases failures future _ failed with old | new
          · exact invariant.futures future old
          · exact new rfl
      exact resolved.setHandler hosts none (fun _ _ _ _ => Or.inr rfl) fun _ _ => quiet
  | gathers receiver loses live receives other =>
      have hosts : connection.loseTransport.Hosts origin := loses.hosts
      refine invariant.lose loses (hosts.cancelReceiver receiver) _
        (invariant.apart.loseTransport.of_same rfl rfl rfl rfl (Or.inl rfl)) rfl rfl rfl rfl rfl rfl
        rfl rfl (fun transport absent => ?_) fun transport quiet => ?_
      · have before : connection.loseTransport.receiver transport = none := absent
        rw [receiver_cancelReceiver, before]
        simp
      · have before : connection.loseTransport.handlerPhase (.receiver transport) = none := quiet
        rw [handlerPhase_cancelReceiver, before]
        simp
  | closes loses live own =>
      have hosts : connection.loseTransport.Hosts origin := loses.hosts
      cases connection.transport with
      | none =>
          exact invariant.lose loses hosts _ invariant.apart.loseTransport rfl rfl rfl rfl rfl
            rfl rfl rfl (fun _ => id) fun _ => id
      | some transport =>
          refine invariant.lose loses (hosts.closeTransport transport) _
            (invariant.apart.loseTransport.of_same rfl rfl rfl rfl (Or.inl rfl)) rfl rfl rfl rfl rfl
            rfl rfl rfl (fun other absent => ?_) fun other quiet => ?_
          · rw [receiver_closeTransport]
            exact absent
          · rw [handlerPhase_closeTransport]
            exact quiet
  | gathered taken phase =>
      cases taken with
      | none =>
          exact invariant.setHandler (hosts_of_handlerPhase phase) _
            (fun attempt _ quiet rh => Or.inl (stays phase attempt quiet rh)) nofun
      | some transport =>
          refine (invariant.closeTransport transport).setHandler
            ((hosts_of_handlerPhase phase).closeTransport transport) _ ?_ nofun
          rintro attempt found quiet rh
          refine Or.inl ?_
          rintro rfl
          have quiet_phase := quiet.handlerPhase_eq_none rh
          rw [handlerPhase_closeTransport] at quiet_phase
          cases phase.symm.trans quiet_phase
  | closed phase =>
      exact invariant.setHandler (hosts_of_handlerPhase phase) _
        (fun attempt _ quiet rh => Or.inl (stays phase attempt quiet rh)) nofun

/-- The tail of the handler passes its duty on to a reconnect loop. -/
theorem startReconnect (invariant : connection.RecoveryInvariant)
    (phase : connection.handlerPhase origin = some .notifying)
    (picksUp : connection.wantsReconnect = true → connection.connectTask = .idle ∧
      ∀ attempt, connection.attempt .reconnect = some attempt →
        attempt.phase = .restartingHeartbeat → connection.state = .authenticated) :
    (connection.setHandler origin none).startReconnect.RecoveryInvariant := by
  have hosts := hosts_of_handlerPhase phase
  have left : (connection.setHandler origin none).OpenersApart :=
    invariant.apart.of_same rfl rfl rfl rfl (Or.inl rfl)
  have apart := left.startReconnect fun starts => by
    have wants : connection.wantsReconnect = true := by
      simp only [startsLoop, Bool.and_eq_true] at starts
      exact starts.1
    exact (picksUp wants).1
  unfold Connection.startReconnect at apart ⊢
  split_ifs at apart ⊢ with exempt idle
  · refine invariant.setHandler hosts none (fun _ _ _ _ => Or.inr rfl) fun owes => ?_
    simp [Connection.setHandler, owes.everAuthenticated, owes.enabled, owes.usable] at exempt
  all_goals
    have wants : connection.wantsReconnect = true := by
      simpa [wantsReconnect, Connection.setHandler, and_assoc] using exempt
    obtain ⟨connectIdle, restarting⟩ := picksUp wants
    have rests : (connection.setHandler origin none).attempt .connect = none := by
      simp [Connection.attempt, Connection.setHandler, connectIdle, ConnectTask.attempt]
  · exact {
      apart := apart
      connects := fun attempt found => by cases rests.symm.trans found
      notifying := by rintro ⟨⟩
      futures := invariant.futures
      calm := by rintro _ ⟨⟩
      alive := fun _ => Or.inr (Or.inl rfl) }
  · refine invariant.of_frame apart (fun attempt found => by cases rests.symm.trans found) rfl
      invariant.futures rfl rfl rfl rfl fun owes _ => ?_
    cases task : connection.reconnectTask with
    | idle => exact (idle task).elim
    | scheduled => exact Or.inr (Or.inl (by simp [loopAlive, Connection.setHandler, task]))
    | sleeping count => exact Or.inr (Or.inl (by simp [loopAlive, Connection.setHandler, task]))
    | opening count attempt =>
        by_cases rh : attempt.phase = .restartingHeartbeat
        · refine Or.inl (restarting attempt ?_ rh)
          simp [Connection.attempt, task, ReconnectTask.attempt]
        · exact Or.inr (Or.inl (by simp [loopAlive, Connection.setHandler, task, rh]))
    | notifyingClose =>
        have gaveUp : connection.gaveUp = true := invariant.notifying task
        have hopeful : connection.gaveUp = false := owes.hopeful
        simp [gaveUp] at hopeful

theorem cancelOpen (invariant : connection.RecoveryInvariant) (opener : Opener)
    (closed : connection.closed = true) : (connection.cancelOpen opener).RecoveryInvariant := by
  unfold Connection.cancelOpen
  cases raised : connection.raiseInOpen opener .cancelled with
  | none => exact invariant
  | some next =>
      obtain ⟨attempt, found, opened⟩ := openStep_of_raiseInOpen raised
      exact invariant.openStep opener found (fun _ _ => closed) opened

theorem cancelReconnect (invariant : connection.RecoveryInvariant)
    (closed : connection.closed = true) : connection.cancelReconnect.RecoveryInvariant := by
  have apart := invariant.apart.cancelReconnect
  unfold Connection.cancelReconnect at apart ⊢
  split at apart
  · exact invariant.cancelOpen .reconnect closed
  · exact invariant.of_closed apart closed nofun rfl rfl

theorem cancelBackground (invariant : connection.RecoveryInvariant)
    (closed : connection.closed = true) : connection.cancelBackground.RecoveryInvariant := by
  have apart := invariant.apart.cancelBackground
  unfold Connection.cancelBackground at apart ⊢
  split at apart
  · dsimp only at apart ⊢
    split at apart
    · exact invariant.of_closed apart closed id rfl rfl
    · exact invariant.of_closed apart closed id rfl rfl
  · dsimp only at apart ⊢
    split at apart
    · exact invariant.of_closed apart closed id rfl rfl
    · exact invariant.of_closed apart closed id rfl rfl

theorem connect (invariant : connection.RecoveryInvariant) :
    connection.connect.RecoveryInvariant := by
  have apart := invariant.apart.connect
  unfold Connection.connect at apart ⊢
  split_ifs at apart ⊢
  · exact invariant
  · exact invariant.of_frame apart nofun rfl invariant.futures rfl rfl rfl rfl fun _ => id
  · exact invariant

theorem close (invariant : connection.RecoveryInvariant) :
    connection.close.RecoveryInvariant := by
  have apart := invariant.apart.close
  unfold Connection.close at apart ⊢
  split_ifs at apart ⊢
  · exact invariant
  · exact invariant.of_closed apart rfl id rfl rfl

theorem closeTasks (invariant : connection.RecoveryInvariant)
    (closed : connection.closed = true) : connection.closeTasks.RecoveryInvariant := by
  have connectCancelled := invariant.cancelOpen .connect closed
  have connect_closed : (connection.cancelOpen .connect).closed = true := by
    rw [closed_cancelOpen]
    exact closed
  have cancelled := connectCancelled.cancelReconnect connect_closed
  have cancelled_closed : (connection.cancelOpen .connect).cancelReconnect.closed = true := by
    rw [closed_cancelReconnect]
    exact connect_closed
  have background := cancelled.cancelBackground cancelled_closed
  have background_closed :
      (connection.cancelOpen .connect).cancelReconnect.cancelBackground.closed = true := by
    rw [closed_cancelBackground]
    exact cancelled_closed
  have apart := invariant.apart.closeTasks
  unfold Connection.closeTasks at apart ⊢
  dsimp only at apart ⊢
  split at apart
  · exact background.of_closed apart background_closed id rfl rfl
  · exact background.of_closed apart background_closed id rfl rfl

theorem step {action : ConnectionAction} (invariant : connection.RecoveryInvariant)
    (picksUp : connection.PicksUp action)
    (stepped : connection.step action = some next) : next.RecoveryInvariant := by
  have apart := invariant.apart.step picksUp.startsAlone stepped
  cases action with
  | connect =>
      obtain rfl := Option.some.inj stepped
      exact invariant.connect
  | startConnect raised =>
      simp only [Connection.step] at stepped
      split_ifs at stepped with scheduled refused <;> obtain rfl := Option.some.inj stepped
      · exact invariant.of_frame apart (by rintro _ ⟨⟩) rfl invariant.futures rfl rfl rfl rfl
          fun _ => id
      · have state : connection.state ≠ .authenticated :=
          invariant.apart.busy .connect (by simp [Connection.busy, scheduled, ConnectTask.busy])
        have receivers : ∀ transport,
            (connection.openTransport .connecting).receiver transport =
              connection.receiver transport := receiver_of_concat rfl
        refine invariant.of_frame apart (fun attempt found usable => ?_) rfl invariant.futures rfl
          rfl rfl rfl fun _ recovering =>
            recovering.keep (fun same => (state same).elim) id fun origin handles => ?_
        · obtain rfl : ({ transport := connection.transports.length } : OpenAttempt) = attempt :=
            Option.some.inj found
          have fresh : (connection.openTransport .connecting).receiver
              connection.transports.length = none := by
            rw [receivers]
            simp [receiver]
          exact fresh
        · cases origin with
          | receiver transport =>
              have still : (connection.openTransport .connecting).handlerPhase
                  (.receiver transport) ≠ none := by
                rw [handlerPhase, receivers]
                exact handles
              exact still
          | heartbeat _ => exact handles
          | lossTask => exact handles
  | startReconnect =>
      simp only [Connection.step] at stepped
      split_ifs at stepped with scheduled
      obtain rfl := Option.some.inj stepped
      exact invariant.nextAttempt (by simp [unfinished, scheduled.1]) 0
  | wakeReconnect raised =>
      simp only [Connection.step] at stepped
      split at stepped
      · next count sleeping =>
        have runs : connection.unfinished .reconnect = true := by simp [unfinished, sleeping]
        split_ifs at stepped with closed
        · obtain rfl := Option.some.inj stepped
          refine invariant.endReconnect runs fun owes => ?_
          simp [owes.usable] at closed
        · split at stepped
          · next error =>
            obtain rfl := Option.some.inj stepped
            exact invariant.exceptAttempt runs count error fun cancelled =>
              picksUp (by rw [cancelled])
          · obtain rfl := Option.some.inj stepped
            exact invariant.of_loop_attempt apart runs rfl invariant.futures rfl (by rintro ⟨⟩)
              (by simp)
      · cases stepped
  | resumeOpen opener =>
      obtain ⟨attempt, found, opened⟩ := openStep_of_resumeOpen stepped
      exact invariant.openStep opener found (fun _ raises => by cases raises) opened
  | raiseInOpen opener error =>
      obtain ⟨attempt, found, opened⟩ := openStep_of_raiseInOpen stepped
      refine invariant.openStep opener found (fun again raises => ?_) opened
      subst again
      exact picksUp (Option.some.inj raises)
  | notifiedClose =>
      simp only [Connection.step] at stepped
      split_ifs at stepped with notifying
      obtain rfl := Option.some.inj stepped
      refine invariant.endReconnect (by simp [unfinished, notifying]) fun owes => ?_
      rcases invariant.alive owes with authenticated | alive | handler
      · exact Or.inl authenticated
      · simp [loopAlive, notifying] at alive
      · exact Or.inr handler
  | receiveHello transport =>
      simp only [Connection.step, receiveHello] at stepped
      split_ifs at stepped
      obtain rfl := Option.some.inj stepped
      refine invariant.of_frame apart invariant.connects rfl (fun future failed => ?_) rfl rfl rfl
        rfl fun _ => id
      rcases getElem?_resolveAuth_eq_failed failed with old | new
      · exact invariant.futures future old
      · cases new
  | raiseInReceiver transport error =>
      exact invariant.lossStep (lossStep_of_raiseInReceiver stepped)
  | returnReceiver transport =>
      exact invariant.lossStep (lossStep_of_returnReceiver stepped)
  | stepHeartbeat heartbeat fails =>
      exact invariant.lossStep (lossStep_of_stepHeartbeat stepped)
  | scheduleLoss =>
      simp only [Connection.step] at stepped
      split_ifs at stepped with idle
      obtain rfl := Option.some.inj stepped
      refine invariant.of_frame apart invariant.connects rfl invariant.futures rfl rfl rfl rfl
        fun _ recovering => recovering.keep id id fun origin handles => ?_
      cases origin with
      | receiver _ => exact handles
      | heartbeat _ => exact handles
      | lossTask => simp [handlerPhase, idle, LossTask.phase?] at handles
  | startLoss =>
      simp only [Connection.step] at stepped
      split_ifs at stepped with scheduled
      obtain rfl := Option.some.inj stepped
      exact invariant.lossStep (lossStep_connectionLost scheduled)
  | resumeHandler origin =>
      rcases lossStep_of_resumeHandler stepped with handled | ⟨phase, rfl⟩
      · exact invariant.lossStep handled
      · exact invariant.startReconnect phase (picksUp phase)
  | cancelHandler origin =>
      obtain ⟨taken, rfl⟩ := cancelHandler_eq_some stepped
      have hosts : connection.Hosts origin := by
        rcases taken with phase | phase <;> exact hosts_of_handlerPhase phase
      refine invariant.setHandler hosts none (fun _ _ _ _ => Or.inr rfl) fun owes => ?_
      have excused : connection.wantsReconnect = false := picksUp
      simp [owes.wantsReconnect] at excused
  | close =>
      obtain rfl := Option.some.inj stepped
      exact invariant.close
  | closeTasks =>
      simp only [Connection.step] at stepped
      split_ifs at stepped with started
      obtain rfl := Option.some.inj stepped
      exact invariant.closeTasks (invariant.apart.closeStarted started)

theorem new (config : ConnectionConfig) : ({ config } : Connection).RecoveryInvariant where
  apart := .new config
  connects := nofun
  notifying := nofun
  futures := by simp
  calm := nofun
  alive owes := by cases owes.everAuthenticated

theorem lossPickedUp (invariant : connection.RecoveryInvariant) : connection.LossPickedUp := by
  intro owes limit connectIdle rests quiet
  rcases invariant.alive owes with authenticated | alive | ⟨origin, handles⟩
  · exact Or.inl authenticated
  · refine Or.inr ?_
    cases task : connection.reconnectTask with
    | idle => simp [loopAlive, task] at alive
    | notifyingClose => simp [loopAlive, task] at alive
    | opening count attempt => simp [Connection.attempt, task, ReconnectTask.attempt] at rests
    | sleeping count => exact Or.inr ⟨count, task⟩
    | scheduled =>
        refine Or.inl ⟨task, ?_⟩
        cases bound : connection.config.maxAttempts with
        | none => rfl
        | some maximum =>
            have positive : maximum ≠ 0 := fun zero => limit (by rw [bound, zero])
            simpa using Nat.pos_of_ne_zero positive
  · exact (handles (quiet origin)).elim

end RecoveryInvariant

/-- No loss is swallowed in a run whose steps meet the condition. -/
theorem lossPickedUp_of_reachable {config : ConnectionConfig}
    (reachable : (system config).ReachableUnder PicksUp connection) :
    connection.LossPickedUp := by
  have invariant : (system config).Invariant PicksUp RecoveryInvariant := {
    starts := fun first starts => by
      rw [starts]
      exact RecoveryInvariant.new config
    preserved := fun current action next holds admits stepped => holds.step admits stepped }
  exact (invariant.of_reachable reachable).lossPickedUp

/-- The receive loop of the first session fails, and its handler starts a
loop. -/
theorem lossPickedUp_first_loss :
    ∃ connection : Connection, connection.Owes ∧ connection.state = .disconnected ∧
      connection.LossPickedUp := by
  have meets : (system {}).StepsMeet PicksUp { config := {} }
      [.connect, .startConnect none, .resumeOpen .connect, .resumeOpen .connect,
        .receiveHello 0, .resumeOpen .connect, .raiseInReceiver 0 .other,
        .resumeHandler (.receiver 0), .resumeHandler (.receiver 0)] :=
    (system {}).stepsMeet_cons rfl trivial <| (system {}).stepsMeet_cons rfl trivial <|
      (system {}).stepsMeet_cons rfl trivial <| (system {}).stepsMeet_cons rfl trivial <|
      (system {}).stepsMeet_cons rfl trivial <| (system {}).stepsMeet_cons rfl trivial <|
      (system {}).stepsMeet_cons rfl trivial <|
      (system {}).stepsMeet_cons rfl (fun phase => by cases phase) <|
      (system {}).stepsMeet_cons rfl (fun _ _ => ⟨rfl, nofun⟩) trivial
  exact ⟨_, ⟨rfl, rfl, rfl, rfl⟩, rfl, lossPickedUp_of_reachable
    ((system {}).reachableUnder_of_run rfl _ rfl meets)⟩

/-- The second session is lost while its attempt waits for the heartbeat of the
first: the handler finds the loop unfinished, and the loop returns. -/
theorem exists_swallowed_loss :
    ∃ connection : Connection, (system {}).Reachable connection ∧
      ¬ connection.LossPickedUp := by
  refine ⟨_, (system {}).reachable_of_run rfl
    [.connect, .startConnect none, .resumeOpen .connect, .resumeOpen .connect,
      .receiveHello 0, .resumeOpen .connect, .raiseInReceiver 0 .other,
      .resumeHandler (.receiver 0), .resumeHandler (.receiver 0), .startReconnect,
      .wakeReconnect none, .resumeOpen .reconnect, .resumeOpen .reconnect, .receiveHello 1,
      .resumeOpen .reconnect, .resumeOpen .reconnect, .raiseInReceiver 1 .other,
      .resumeHandler (.receiver 1), .resumeHandler (.receiver 1), .resumeOpen .reconnect]
    rfl, ?_⟩
  intro pickedUp
  have stranded := pickedUp ⟨rfl, rfl, rfl, rfl⟩ (by decide) rfl rfl
    (handlerPhase_eq_none_of_quiet rfl)
  rcases stranded with authenticated | ⟨scheduled, _⟩ | ⟨count, sleeping⟩
  · cases authenticated
  · cases scheduled
  · cases sleeping

end Connection

end FitzClient
