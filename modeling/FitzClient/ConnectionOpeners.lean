import FitzClient.ConnectionTasks

/-!
# The two openers of a connection

The invariant that carries every argument about overlapping attempts: the
connect task and the reconnect loop are never unfinished at the same time, and
neither is busy while the connection is authenticated.  The tail of a loss
handler is the only place where the code can break it.
-/

namespace FitzClient

namespace Connection

variable {connection next : Connection} {origin : LossOrigin} {opener : Opener}
  {attempt : OpenAttempt}

/-- The tail of a loss handler does not return early. -/
def wantsReconnect (connection : Connection) : Bool :=
  connection.everAuthenticated && connection.config.reconnectEnabled && !connection.closed

/-- The tail of a loss handler would start a reconnect loop. -/
def startsLoop (connection : Connection) : Bool :=
  connection.wantsReconnect && connection.reconnectTask = .idle

/-- Not both openers are unfinished, and the connection is authenticated
neither while one of them is busy nor after `close`. -/
structure OpenersApart (connection : Connection) : Prop where
  exclusive : ∀ first second, connection.unfinished first = true →
    connection.unfinished second = true → first = second
  busy : ∀ opener, connection.busy opener = true → connection.state ≠ .authenticated
  closed : connection.closed = true → connection.state ≠ .authenticated
  closeStarted : connection.closeStarted = true → connection.closed = true

namespace OpenersApart

theorem of_same (apart : connection.OpenersApart)
    (sameConnect : next.connectTask = connection.connectTask)
    (sameReconnect : next.reconnectTask = connection.reconnectTask)
    (sameClosed : next.closed = connection.closed)
    (sameCloseStarted : next.closeStarted = connection.closeStarted)
    (state : next.state = connection.state ∨ next.state ≠ .authenticated) :
    next.OpenersApart := by
  have unfinished_same : ∀ opener, next.unfinished opener = connection.unfinished opener := by
    intro opener
    cases opener <;> simp [unfinished, sameConnect, sameReconnect]
  have busy_same : ∀ opener, next.busy opener = connection.busy opener := by
    intro opener
    cases opener <;> simp [Connection.busy, sameConnect, sameReconnect]
  refine ⟨?_, ?_, ?_, ?_⟩
  · intro first second
    rw [unfinished_same, unfinished_same]
    exact apart.exclusive first second
  · intro opener
    rw [busy_same]
    intro busy
    rcases state with same | different
    · rw [same]
      exact apart.busy opener busy
    · exact different
  · rw [sameClosed]
    intro closed
    rcases state with same | different
    · rw [same]
      exact apart.closed closed
    · exact different
  · rw [sameClosed, sameCloseStarted]
    exact apart.closeStarted

/-- A transition in which only this opener changes its task. -/
theorem of_opener (apart : connection.OpenersApart) (opener : Opener)
    (runs : connection.unfinished opener = true)
    (others : ∀ other, other ≠ opener → next.unfinished other = connection.unfinished other)
    (busy : next.busy opener = true → next.state ≠ .authenticated)
    (closed : next.closed = true → next.state ≠ .authenticated)
    (closeStarted : next.closeStarted = true → next.closed = true) :
    next.OpenersApart := by
  have only : ∀ other, next.unfinished other = true → other = opener := by
    intro other unfinished
    by_contra different
    rw [others other different] at unfinished
    exact different (apart.exclusive other opener unfinished runs)
  refine ⟨?_, ?_, closed, closeStarted⟩
  · intro first second firstRuns secondRuns
    rw [only first firstRuns, only second secondRuns]
  · intro other otherBusy
    obtain rfl := only other (unfinished_of_busy otherBusy)
    exact busy otherBusy

theorem setState (apart : connection.OpenersApart) (state : ConnectionState)
    (notAuthenticated : state ≠ .authenticated) : (connection.setState state).OpenersApart := by
  refine apart.of_same rfl rfl rfl rfl ?_
  simp only [Connection.setState]
  split_ifs
  · exact Or.inl rfl
  · exact Or.inr notAuthenticated

/-- Suspending or ending the opener's task in a state that suits it. -/
theorem setPhase (apart : connection.OpenersApart) (opener : Opener)
    (found : connection.attempt opener = some attempt) (phase : OpenPhase)
    (state : phase ≠ .restartingHeartbeat → connection.state ≠ .authenticated) :
    (connection.setPhase opener phase).OpenersApart := by
  refine apart.of_opener opener (unfinished_of_attempt found)
    (fun other _ => unfinished_setPhase _ _ _ _) ?_ apart.closed apart.closeStarted
  rw [busy_of_attempt (attempt_setPhase found phase), decide_eq_true_iff]
  exact state

theorem returnOpen (apart : connection.OpenersApart) (opener : Opener)
    (found : connection.attempt opener = some attempt) :
    (connection.returnOpen opener).OpenersApart := by
  refine apart.of_opener opener (unfinished_of_attempt found)
    (fun other different => unfinished_returnOpen_of_ne different _) ?_ apart.closed
    apart.closeStarted
  simp [busy_returnOpen]

theorem failOpen (apart : connection.OpenersApart) (opener : Opener)
    (found : connection.attempt opener = some attempt)
    (state : connection.state ≠ .authenticated) (transport : Nat) (error : OpenError) :
    (connection.failOpen opener transport error).OpenersApart := by
  have cleared : ({ connection with
      transport := if connection.transport = some transport then none
        else connection.transport }.closeTransport transport).OpenersApart :=
    apart.of_same rfl rfl rfl rfl (Or.inl rfl)
  exact cleared.setPhase opener found _ fun _ => state

/-- A transition in which only the reconnect loop goes on. -/
theorem of_reconnect (apart : connection.OpenersApart)
    (runs : connection.unfinished .reconnect = true)
    (same : next.connectTask = connection.connectTask)
    (busy : next.busy .reconnect = true → next.state ≠ .authenticated)
    (closed : next.closed = true → next.state ≠ .authenticated)
    (closeStarted : next.closeStarted = true → next.closed = true) :
    next.OpenersApart := by
  refine apart.of_opener .reconnect runs ?_ busy closed closeStarted
  intro other different
  cases other with
  | connect => simp [unfinished, same]
  | reconnect => exact (different rfl).elim

theorem giveUp (apart : connection.OpenersApart)
    (runs : connection.unfinished .reconnect = true) : connection.giveUp.OpenersApart := by
  have disconnected := apart.setState .disconnected (by decide)
  refine disconnected.of_reconnect runs rfl ?_ disconnected.closed apart.closeStarted
  simp only [Connection.busy, Connection.giveUp]
  split_ifs <;> rintro ⟨⟩

theorem endReconnect (apart : connection.OpenersApart)
    (runs : connection.unfinished .reconnect = true) :
    { connection with reconnectTask := .idle }.OpenersApart :=
  apart.of_reconnect runs rfl nofun apart.closed apart.closeStarted

theorem nextAttempt (apart : connection.OpenersApart)
    (runs : connection.unfinished .reconnect = true) (count : Nat) :
    (connection.nextAttempt count).OpenersApart := by
  unfold Connection.nextAttempt
  split_ifs with closed
  · exact apart.endReconnect runs
  · have reconnecting : (connection.noteStart.setState .reconnecting).state = .reconnecting := by
      simp [Connection.setState, noteStart, closed]
    have notAuthenticated :
        (connection.noteStart.setState .reconnecting).state ≠ .authenticated := by
      rw [reconnecting]
      decide
    exact apart.of_reconnect runs rfl (fun _ => notAuthenticated) (fun _ => notAuthenticated)
      apart.closeStarted
  · exact apart.giveUp runs

theorem exceptAttempt (apart : connection.OpenersApart)
    (runs : connection.unfinished .reconnect = true) (count : Nat) (error : OpenError) :
    (connection.exceptAttempt count error).OpenersApart := by
  cases error with
  | cancelled => exact apart.endReconnect runs
  | authentication =>
      have closing : { connection with closed := true, state := .closed }.OpenersApart :=
        ⟨apart.exclusive, fun _ _ => nofun, fun _ => nofun, fun _ => rfl⟩
      exact closing.endReconnect runs
  | versionMismatch => exact apart.giveUp runs
  | other => exact apart.nextAttempt runs count

theorem raiseOpen (apart : connection.OpenersApart) (opener : Opener)
    (found : connection.attempt opener = some attempt) (error : OpenError) :
    (connection.raiseOpen opener error).OpenersApart := by
  cases opener with
  | connect => exact apart.returnOpen .connect found
  | reconnect =>
      obtain ⟨count, task⟩ := attempt_reconnect.mp found
      simp only [Connection.raiseOpen, task]
      exact apart.exceptAttempt (unfinished_of_attempt found) count error

theorem concludeOpen (apart : connection.OpenersApart) (opener : Opener)
    (found : connection.attempt opener = some attempt)
    (fails : attempt.phase ≠ .restartingHeartbeat) (error : OpenError) :
    (connection.concludeOpen opener error).OpenersApart := by
  have state : connection.state ≠ .authenticated :=
    apart.busy opener (by simpa [busy_of_attempt found] using fails)
  unfold Connection.concludeOpen
  split_ifs
  · have closing : { connection with closed := true }.OpenersApart :=
      ⟨apart.exclusive, apart.busy, fun _ => state, fun _ => rfl⟩
    exact closing.setPhase opener found _ fun _ => state
  · exact apart.raiseOpen opener found error
  · exact (apart.setState .disconnected nofun).raiseOpen opener found error

theorem state_ne (apart : connection.OpenersApart) (opener : Opener)
    (found : connection.attempt opener = some attempt)
    (opens : attempt.phase ≠ .restartingHeartbeat) : connection.state ≠ .authenticated :=
  apart.busy opener (by simpa [busy_of_attempt found] using opens)

/-- A transition that ends an attempt or leaves it restarting the heartbeat. -/
theorem of_authenticated (apart : connection.OpenersApart) (opener : Opener)
    (found : connection.attempt opener = some attempt)
    (others : ∀ other, other ≠ opener → next.unfinished other = connection.unfinished other)
    (open_closed : connection.closed = false) (next_closed : next.closed = connection.closed)
    (same : next.closeStarted = connection.closeStarted)
    (rests : next.busy opener = false) : next.OpenersApart := by
  refine apart.of_opener opener (unfinished_of_attempt found) others ?_ ?_ ?_
  · simp [rests]
  · simp [next_closed, open_closed]
  · rw [same, next_closed]
    exact apart.closeStarted

theorem startHeartbeat (apart : connection.OpenersApart) (opener : Opener)
    (found : connection.attempt opener = some attempt)
    (open_closed : connection.closed = false) :
    (connection.authenticate.startHeartbeat opener).OpenersApart := by
  unfold Connection.startHeartbeat
  split_ifs with enabled
  · split
    · exact apart.of_authenticated opener found
        (fun other different => unfinished_returnOpen_of_ne different _) open_closed rfl rfl
        (busy_returnOpen _ _)
    · next previous _ =>
      have running : (connection.authenticate.setHandler (.heartbeat previous) none).attempt
          opener = some attempt := found
      refine apart.of_authenticated opener found
        (fun other _ => unfinished_setPhase _ _ _ _) open_closed rfl rfl ?_
      simp [busy_of_attempt (attempt_setPhase running _)]
  · exact apart.of_authenticated opener found
      (fun other different => unfinished_returnOpen_of_ne different _) open_closed rfl rfl
      (busy_returnOpen _ _)

theorem openStep {raised : Option OpenError} (apart : connection.OpenersApart)
    (opener : Opener) (found : connection.attempt opener = some attempt)
    (opened : connection.OpenStep opener attempt raised next) : next.OpenersApart := by
  cases opened with
  | connected phase =>
      have receiving : (connection.startReceiving attempt.transport).OpenersApart :=
        ((apart.setState .connected nofun).setState .authenticating nofun).of_same rfl rfl rfl
          rfl (Or.inl rfl)
      exact receiving.setPhase opener found _ fun _ =>
        receiving.state_ne opener found (by rw [phase]; nofun)
  | waits future phase =>
      exact apart.setPhase opener found _ fun _ =>
        apart.state_ne opener found (by rw [phase]; nofun)
  | restores pending again =>
      have restoring : { connection with
          authError := none
          generation := connection.generation + 1
          restoring := true }.OpenersApart :=
        apart.of_same rfl rfl rfl rfl (Or.inl rfl)
      exact restoring.setPhase opener found _ fun _ =>
        apart.state_ne opener found (ne_restartingHeartbeat pending)
  | authenticated authError generation restoring resumed pending answers owns =>
      have established : { connection with authError, generation, restoring }.OpenersApart :=
        apart.of_same rfl rfl rfl rfl (Or.inl rfl)
      exact established.startHeartbeat opener found (ownsTransport_iff.mp owns).1
  | replaced phase =>
      have replaced : connection.newHeartbeat.OpenersApart :=
        apart.of_same rfl rfl rfl rfl (Or.inl rfl)
      exact replaced.returnOpen opener found
  | failed authError generation restoring error source fails =>
      have restored : { connection with authError, generation, restoring }.OpenersApart :=
        apart.of_same rfl rfl rfl rfl (Or.inl rfl)
      refine restored.failOpen opener found ?_ _ _
      rcases fails with pending | ⟨_, closed⟩
      · exact apart.state_ne opener found (ne_restartingHeartbeat pending)
      · exact apart.closed closed
  | cancels error phase =>
      have cancelled : (connection.cancelReceiver attempt.transport).OpenersApart :=
        apart.of_same rfl rfl rfl rfl (Or.inl rfl)
      exact cancelled.setPhase opener found _ fun _ =>
        apart.state_ne opener found (by rw [phase]; nofun)
  | concluded error phase =>
      refine apart.concludeOpen opener found ?_ error
      rcases phase with closing | gathering
      · rw [closing]
        nofun
      · rw [gathering]
        nofun
  | rejected phase => exact (apart.setState .closed nofun).raiseOpen opener found _
  | cancelled closed cleans opens => exact apart.returnOpen opener found

theorem closeLost (apart : connection.OpenersApart) (origin : LossOrigin)
    (taken : Option Nat) : (connection.closeLost origin taken).OpenersApart := by
  cases taken with
  | none => exact apart.of_same rfl rfl rfl rfl (Or.inl rfl)
  | some transport => exact apart.of_same rfl rfl rfl rfl (Or.inl rfl)

theorem loseTransport (apart : connection.OpenersApart) :
    connection.loseTransport.OpenersApart :=
  (apart.setState .disconnected nofun).of_same rfl rfl rfl rfl (Or.inl rfl)

/-- The only place where the two openers can come to overlap. -/
theorem startReconnect (apart : connection.OpenersApart)
    (alone : connection.startsLoop = true → connection.connectTask = .idle) :
    connection.startReconnect.OpenersApart := by
  unfold Connection.startReconnect
  split_ifs with exempt idle
  · exact apart
  · have connectIdle := alone (by simp_all [startsLoop, wantsReconnect])
    refine ⟨?_, ?_, apart.closed, apart.closeStarted⟩
    · intro first second firstRuns secondRuns
      cases first with
      | connect => simp [unfinished, connectIdle] at firstRuns
      | reconnect =>
          cases second with
          | connect => simp [unfinished, connectIdle] at secondRuns
          | reconnect => rfl
    · intro opener busy
      cases opener with
      | connect => exact apart.busy .connect busy
      | reconnect => cases busy
  · exact apart

theorem lossStep (apart : connection.OpenersApart) (origin : LossOrigin)
    (stepped : connection.LossStep origin next) : next.OpenersApart := by
  cases stepped with
  | ended futures => exact apart.of_same rfl rfl rfl rfl (Or.inl rfl)
  | gathers receiver => exact apart.loseTransport.of_same rfl rfl rfl rfl (Or.inl rfl)
  | closes => exact apart.loseTransport.closeLost origin _
  | gathered taken => exact apart.closeLost origin taken
  | closed => exact apart.of_same rfl rfl rfl rfl (Or.inl rfl)

theorem connect (apart : connection.OpenersApart) : connection.connect.OpenersApart := by
  unfold Connection.connect
  split_ifs with refused idle
  · exact apart
  · obtain ⟨_, state, reconnect⟩ := not_or.mp refused |>.imp_right not_or.mp
    rw [not_not] at reconnect
    refine ⟨?_, ?_, apart.closed, apart.closeStarted⟩
    · intro first second firstRuns secondRuns
      cases first with
      | connect =>
          cases second with
          | connect => rfl
          | reconnect => simp [unfinished, reconnect] at secondRuns
      | reconnect => simp [unfinished, reconnect] at firstRuns
    · exact fun _ _ => state
  · exact apart

/-- A task that is not done opens a new transport. -/
theorem openTransport (apart : connection.OpenersApart) (opener : Opener)
    (runs : connection.unfinished opener = true) (usable : connection.closed = false)
    (state : ConnectionState) (notAuthenticated : state ≠ .authenticated)
    (same : ∀ other, other ≠ opener → next.unfinished other = connection.unfinished other)
    (next_state : next.state = (connection.openTransport state).state)
    (next_closed : next.closed = connection.closed)
    (next_closeStarted : next.closeStarted = connection.closeStarted) : next.OpenersApart := by
  have opened : next.state = state := by
    rw [next_state]
    simp [Connection.openTransport, Connection.setState, noteStart, usable]
  refine apart.of_opener opener runs same (fun _ => ?_) (fun _ => ?_) ?_
  · rw [opened]
    exact notAuthenticated
  · rw [opened]
    exact notAuthenticated
  · rw [next_closed, next_closeStarted]
    exact apart.closeStarted

theorem close (apart : connection.OpenersApart) : connection.close.OpenersApart := by
  unfold Connection.close
  split_ifs
  · exact apart
  · have closing : ({ connection with closed := true }.setState .closed).state = .closed := rfl
    exact ⟨apart.exclusive, fun _ _ => nofun, fun _ => nofun, fun _ => rfl⟩

theorem cancelOpen (apart : connection.OpenersApart) (opener : Opener) :
    (connection.cancelOpen opener).OpenersApart := by
  unfold Connection.cancelOpen
  cases raised : connection.raiseInOpen opener .cancelled with
  | none => exact apart
  | some next =>
      obtain ⟨attempt, found, opened⟩ := openStep_of_raiseInOpen raised
      exact apart.openStep opener found opened

theorem cancelReconnect (apart : connection.OpenersApart) :
    connection.cancelReconnect.OpenersApart := by
  unfold Connection.cancelReconnect
  split
  · exact apart.cancelOpen .reconnect
  · refine ⟨?_, ?_, apart.closed, apart.closeStarted⟩
    · intro first second firstRuns secondRuns
      cases first with
      | connect =>
          cases second with
          | connect => rfl
          | reconnect => simp [unfinished] at secondRuns
      | reconnect => simp [unfinished] at firstRuns
    · intro opener busy
      cases opener with
      | connect => exact apart.busy .connect busy
      | reconnect => cases busy

theorem cancelBackground (apart : connection.OpenersApart) :
    connection.cancelBackground.OpenersApart := by
  unfold Connection.cancelBackground
  cases connection.heartbeatTask with
  | none =>
      dsimp only
      cases connection.receiveTask with
      | none => exact apart.of_same rfl rfl rfl rfl (Or.inl rfl)
      | some transport => exact apart.of_same rfl rfl rfl rfl (Or.inl rfl)
  | some heartbeat =>
      dsimp only
      split
      · exact apart.of_same rfl rfl rfl rfl (Or.inl rfl)
      · exact apart.of_same rfl rfl rfl rfl (Or.inl rfl)

theorem closeTasks (apart : connection.OpenersApart) : connection.closeTasks.OpenersApart := by
  have cancelled := (apart.cancelOpen .connect).cancelReconnect.cancelBackground
  unfold Connection.closeTasks
  dsimp only
  split
  · exact cancelled.of_same rfl rfl rfl rfl (Or.inl rfl)
  · exact cancelled.of_same rfl rfl rfl rfl (Or.inl rfl)

end OpenersApart

theorem setState_ne_authenticated {state : ConnectionState}
    (before : connection.state ≠ .authenticated) (after : state ≠ .authenticated) :
    (connection.setState state).state ≠ .authenticated := by
  simp only [setState]
  split_ifs
  · exact before
  · exact after

theorem OpenersApart.attempt_eq_none {other : Opener} (apart : connection.OpenersApart)
    (runs : connection.unfinished opener = true) (different : other ≠ opener) :
    connection.attempt other = none := by
  cases found : connection.attempt other with
  | none => rfl
  | some attempt => exact (different (apart.exclusive _ _ (unfinished_of_attempt found) runs)).elim

theorem OpenersApart.reconnectTask_cases (apart : connection.OpenersApart)
    (found : connection.attempt opener = some attempt) :
    connection.reconnectTask = .idle ∨
      ∃ count, connection.reconnectTask = .opening count attempt := by
  cases opener with
  | connect =>
      by_contra running
      have runs : connection.unfinished .reconnect = true := by
        simpa [unfinished] using (not_or.mp running).1
      cases apart.exclusive _ _ (unfinished_of_attempt found) runs
  | reconnect => exact Or.inr (attempt_reconnect.mp found)

theorem OpenersApart.rests_of_reconnect (apart : connection.OpenersApart)
    (runs : connection.unfinished .reconnect = true)
    (same : next.connectTask = connection.connectTask)
    (ended : next.reconnectTask.attempt = none) (opener : Opener) :
    next.attempt opener = none := by
  cases opener with
  | connect =>
      have idle : connection.attempt .connect = none := apart.attempt_eq_none runs (by decide)
      simp only [Connection.attempt, same] at idle ⊢
      exact idle
  | reconnect => exact ended

theorem OpenersApart.rests_of_returnOpen (apart : connection.OpenersApart)
    (found : connection.attempt opener = some attempt) (other : Opener) :
    (connection.returnOpen opener).attempt other = none := by
  have runs := unfinished_of_attempt found
  cases opener with
  | connect =>
      cases other with
      | connect => rfl
      | reconnect =>
          have idle : connection.attempt .reconnect = none :=
            apart.attempt_eq_none runs (by decide)
          exact idle
  | reconnect =>
      cases other with
      | connect =>
          have idle : connection.attempt .connect = none :=
            apart.attempt_eq_none runs (by decide)
          exact idle
      | reconnect => rfl

theorem closed_cancelOpen (connection : Connection) (opener : Opener) :
    (connection.cancelOpen opener).closed = connection.closed := by
  unfold cancelOpen raiseInOpen
  split
  · rfl
  · split
    all_goals first | rfl | (split_ifs <;> rfl)

theorem closed_cancelReconnect (connection : Connection) :
    connection.cancelReconnect.closed = connection.closed := by
  unfold cancelReconnect
  split
  · exact closed_cancelOpen connection .reconnect
  · rfl

theorem closed_cancelBackground (connection : Connection) :
    connection.cancelBackground.closed = connection.closed := by
  unfold cancelBackground
  split
  · dsimp only
    split <;> rfl
  · dsimp only
    split <;> rfl

/-- The tail of a loss handler starts no reconnect loop while the connect task
is unfinished. -/
def StartsAlone (connection : Connection) : ConnectionAction → Prop
  | .resumeHandler origin => connection.handlerPhase origin = some .notifying →
      connection.startsLoop = true → connection.connectTask = .idle
  | _ => True

theorem OpenersApart.step {action : ConnectionAction} (apart : connection.OpenersApart)
    (admits : connection.StartsAlone action) (stepped : connection.step action = some next) :
    next.OpenersApart := by
  cases action with
  | connect =>
      obtain rfl := Option.some.inj stepped
      exact apart.connect
  | startConnect raised =>
      simp only [Connection.step] at stepped
      split_ifs at stepped with scheduled refused <;> obtain rfl := Option.some.inj stepped
      · have runs : connection.unfinished .connect = true := by simp [unfinished, scheduled]
        refine apart.of_opener .connect runs ?_ (by rintro ⟨⟩) apart.closed apart.closeStarted
        intro other different
        cases other with
        | connect => exact (different rfl).elim
        | reconnect => rfl
      · have runs : connection.unfinished .connect = true := by simp [unfinished, scheduled]
        refine apart.openTransport .connect runs (by simpa using (not_or.mp refused).1)
          .connecting (by decide) ?_ rfl rfl rfl
        intro other different
        cases other with
        | connect => exact (different rfl).elim
        | reconnect => rfl
  | startReconnect =>
      simp only [Connection.step] at stepped
      split_ifs at stepped with scheduled
      obtain rfl := Option.some.inj stepped
      exact apart.nextAttempt (by simp [unfinished, scheduled.1]) 0
  | wakeReconnect raised =>
      simp only [Connection.step] at stepped
      split at stepped
      · next count sleeping =>
        have runs : connection.unfinished .reconnect = true := by simp [unfinished, sleeping]
        split_ifs at stepped with closed
        · obtain rfl := Option.some.inj stepped
          exact apart.endReconnect runs
        · split at stepped <;> obtain rfl := Option.some.inj stepped
          · exact apart.exceptAttempt runs count _
          · refine apart.openTransport .reconnect runs (by simpa using closed)
              .reconnecting (by decide) ?_ rfl rfl rfl
            intro other different
            cases other with
            | connect => rfl
            | reconnect => exact (different rfl).elim
      · cases stepped
  | resumeOpen opener =>
      obtain ⟨attempt, found, opened⟩ := openStep_of_resumeOpen stepped
      exact apart.openStep opener found opened
  | raiseInOpen opener error =>
      obtain ⟨attempt, found, opened⟩ := openStep_of_raiseInOpen stepped
      exact apart.openStep opener found opened
  | notifiedClose =>
      simp only [Connection.step] at stepped
      split_ifs at stepped with notifying
      obtain rfl := Option.some.inj stepped
      exact apart.endReconnect (by simp [unfinished, notifying])
  | receiveHello transport =>
      simp only [Connection.step, receiveHello] at stepped
      split_ifs at stepped
      obtain rfl := Option.some.inj stepped
      exact apart.of_same rfl rfl rfl rfl (Or.inl rfl)
  | raiseInReceiver transport error =>
      exact apart.lossStep _ (lossStep_of_raiseInReceiver stepped)
  | returnReceiver transport =>
      exact apart.lossStep _ (lossStep_of_returnReceiver stepped)
  | stepHeartbeat heartbeat fails =>
      exact apart.lossStep _ (lossStep_of_stepHeartbeat stepped)
  | scheduleLoss =>
      simp only [Connection.step] at stepped
      split_ifs at stepped
      obtain rfl := Option.some.inj stepped
      exact apart.of_same rfl rfl rfl rfl (Or.inl rfl)
  | startLoss =>
      simp only [Connection.step] at stepped
      split_ifs at stepped with scheduled
      obtain rfl := Option.some.inj stepped
      exact apart.lossStep _ (lossStep_connectionLost scheduled)
  | resumeHandler origin =>
      rcases lossStep_of_resumeHandler stepped with handled | ⟨phase, rfl⟩
      · exact apart.lossStep origin handled
      · have left : (connection.setHandler origin none).OpenersApart :=
          apart.of_same rfl rfl rfl rfl (Or.inl rfl)
        exact left.startReconnect (admits phase)
  | cancelHandler origin =>
      obtain ⟨_, rfl⟩ := cancelHandler_eq_some stepped
      exact apart.of_same rfl rfl rfl rfl (Or.inl rfl)
  | close =>
      obtain rfl := Option.some.inj stepped
      exact apart.close
  | closeTasks =>
      simp only [Connection.step] at stepped
      split_ifs at stepped
      obtain rfl := Option.some.inj stepped
      exact apart.closeTasks

theorem OpenersApart.new (config : ConnectionConfig) :
    ({ config } : Connection).OpenersApart where
  exclusive first second runs := by cases first <;> simp [unfinished] at runs
  busy := by simp
  closed := by simp
  closeStarted := by simp

end Connection

end FitzClient
