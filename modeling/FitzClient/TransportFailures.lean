import FitzClient.AttributedConnection

/-!
# Which steps spare the other transports

For each place where a failure is handled, the step spares the attempts and the
session on every other transport exactly if the state in which it is taken meets
the condition of that place.  It follows for whole runs.
-/

namespace FitzClient

namespace Connection

variable {connection middle next : Connection} {origin : LossOrigin} {opener : Opener}
  {attempt : OpenAttempt} {owners : List Nat} {transport other : Nat}

namespace Spared

theorem of_same (state : next.state = connection.state)
    (closed : next.closed = connection.closed)
    (current : next.transport = connection.transport)
    (transports : next.transports = connection.transports)
    (authFutures : next.authFutures = connection.authFutures)
    (authError : next.authError = connection.authError)
    (attempts : ∀ opener attempt, connection.attempt opener = some attempt →
      attempt.transport = other → next.attempt opener = some attempt) :
    Spared owners connection next other where
  state := state
  closed := closed
  current runs := current.trans runs
  cell cell found := by rwa [transports]
  attempt := attempts
  auth future outcome _ found := by rwa [authFutures]
  awaited future _ waits := authError.trans waits

theorem refl (connection : Connection) : Spared owners connection connection other :=
  of_same rfl rfl rfl rfl rfl rfl fun _ _ found _ => found

theorem trans (first : Spared owners connection middle other)
    (second : Spared owners middle next other) : Spared owners connection next other where
  state := second.state.trans first.state
  closed := second.closed.trans first.closed
  current runs := second.current (first.current runs)
  cell cell found := second.cell cell (first.cell cell found)
  attempt opener attempt found opens :=
    second.attempt opener attempt (first.attempt opener attempt found opens) opens
  auth future outcome owns found :=
    second.auth future outcome owns (first.auth future outcome owns found)
  awaited future owns waits := second.awaited future owns (first.awaited future owns waits)

/-- Another cell of the transports changes. -/
theorem modify (different : transport ≠ other) (update : TransportCell → TransportCell) :
    Spared owners connection
      { connection with transports := connection.transports.modify transport update } other where
  state := rfl
  closed := rfl
  current := id
  cell cell found := by
    change (connection.transports.modify transport update)[other]? = some cell
    rwa [List.getElem?_modify_ne _ _ different]
  attempt _ _ found _ := found
  auth _ _ _ found := found
  awaited _ _ waits := waits

theorem closeTransport (different : transport ≠ other) :
    Spared owners connection (connection.closeTransport transport) other :=
  modify different _

theorem cancelReceiver (different : transport ≠ other) :
    Spared owners connection (connection.cancelReceiver transport) other :=
  modify different _

theorem setHandler (apart : origin ≠ .receiver other) (phase : Option HandlerPhase) :
    Spared owners connection (connection.setHandler origin phase) other := by
  cases origin with
  | receiver transport =>
      have different : transport ≠ other := fun same => apart (by rw [same])
      exact modify different _
  | heartbeat _ => exact of_same rfl rfl rfl rfl rfl rfl fun _ _ found _ => found
  | lossTask => exact of_same rfl rfl rfl rfl rfl rfl fun _ _ found _ => found

/-- Tasks change that have no attempt on the transport. -/
theorem setPhase (found : connection.attempt opener = some attempt)
    (different : attempt.transport ≠ other) (phase : OpenPhase) :
    Spared owners connection (connection.setPhase opener phase) other := by
  refine of_same rfl rfl rfl rfl rfl rfl fun second current foundSecond opens => ?_
  cases opener with
  | connect =>
      cases second with
      | connect =>
          obtain rfl := Option.some.inj (found.symm.trans foundSecond)
          exact (different opens).elim
      | reconnect => exact foundSecond
  | reconnect =>
      cases second with
      | connect => exact foundSecond
      | reconnect =>
          obtain rfl := Option.some.inj (found.symm.trans foundSecond)
          exact (different opens).elim

theorem failOpen (found : connection.attempt opener = some attempt)
    (different : attempt.transport ≠ other) (error : OpenError) :
    Spared owners connection (connection.failOpen opener attempt.transport error) other := by
  let released : Connection := { connection with
    transport := if connection.transport = some attempt.transport then none
      else connection.transport }
  have takes : Spared owners connection released other := by
    refine ⟨rfl, rfl, fun runs => ?_, fun _ => id, fun _ _ found _ => found, fun _ _ _ => id,
      fun _ _ => id⟩
    have apart : connection.transport ≠ some attempt.transport := by
      rw [runs]
      exact fun same => different (Option.some.inj same).symm
    exact (if_neg apart).trans runs
  have foundClosed : (released.closeTransport attempt.transport).attempt opener = some attempt :=
    found
  exact (takes.trans (closeTransport different)).trans (setPhase foundClosed different _)

/-- The `except` block of an attempt that may have dropped `_auth_error`. -/
theorem failDropped (found : connection.attempt opener = some attempt)
    (different : attempt.transport ≠ other) (authError : Option Nat) (restoring : Bool)
    (error : OpenError)
    (awaited : ∀ future : Nat, owners[future]? = some other → connection.authError = some future →
      authError = some future) :
    Spared owners connection
      ({ connection with authError, restoring }.failOpen opener attempt.transport error) other := by
  have foundAfter : { connection with authError, restoring }.attempt opener = some attempt := found
  have dropped : Spared owners connection { connection with authError, restoring } other :=
    ⟨rfl, rfl, id, fun _ => id, fun _ _ found _ => found, fun _ _ _ => id, awaited⟩
  exact dropped.trans (failOpen foundAfter different error)

theorem startReconnect (connection : Connection) :
    Spared owners connection connection.startReconnect other := by
  unfold Connection.startReconnect
  split_ifs with refused idle
  · exact refl _
  · refine of_same rfl rfl rfl rfl rfl rfl fun opener attempt found _ => ?_
    cases opener with
    | connect => exact found
    | reconnect => simp [Connection.attempt, idle, ReconnectTask.attempt] at found
  · exact refl _

end Spared

theorem state_setState (usable : connection.closed = false) (state : ConnectionState) :
    (connection.setState state).state = state := by
  simp [setState, usable]

/-- Nothing runs on a client that is closed. -/
theorem not_runsOn_of_closed (closed : connection.closed = true) : ¬ connection.RunsOn other := by
  rintro ⟨usable, -⟩
  cases usable.symm.trans closed

/-- The states in which a loss finds that another one came first. -/
theorem not_live_iff : ¬ connection.Live ↔ connection.state = .disconnected ∨
    connection.state = .reconnecting ∨ connection.state = .closed := by
  simp only [Live]
  tauto

theorem connectionLost_of_not_live (lost : ¬ connection.Live) (origin : LossOrigin) :
    connection.connectionLost origin = connection.setHandler origin none := by
  rw [connectionLost, if_pos (not_live_iff.mp lost)]

theorem state_closeLost (connection : Connection) (origin : LossOrigin) (taken : Option Nat) :
    (connection.closeLost origin taken).state = connection.state := by
  cases taken <;> rfl

theorem state_connectionLost (live : connection.Live) (usable : connection.closed = false)
    (origin : LossOrigin) : (connection.connectionLost origin).state = .disconnected := by
  have lost : connection.loseTransport.state = .disconnected := state_setState usable _
  rw [connectionLost, if_neg (mt not_live_iff.mpr (not_not_intro live))]
  split
  · split_ifs
    · exact (state_closeLost _ _ _).trans lost
    · exact lost
  · exact (state_closeLost _ _ _).trans lost

theorem state_nextAttempt (usable : connection.closed = false) (count : Nat) :
    (connection.nextAttempt count).state = connection.headState count := by
  rw [nextAttempt, headState]
  simp only [usable, Bool.false_eq_true, if_false]
  split_ifs
  · exact state_setState usable _
  · exact state_setState usable _

theorem state_concludeOpen {error : OpenError} (usable : connection.closed = false)
    (other : error ≠ .authentication) (found : connection.attempt opener = some attempt) :
    (connection.concludeOpen opener error).state = connection.concludedState opener error := by
  have restated : (connection.setState .disconnected).state = .disconnected :=
    state_setState usable _
  rw [concludeOpen, if_neg other]
  simp only [usable, Bool.false_eq_true, if_false]
  cases opener with
  | connect =>
      cases error <;> exact restated
  | reconnect =>
      obtain ⟨count, task⟩ := attempt_reconnect.mp found
      have taskAfter : (connection.setState .disconnected).reconnectTask =
          .opening count attempt := task
      have usableAfter : (connection.setState .disconnected).closed = false := usable
      simp only [raiseOpen, taskAfter, concludedState, task]
      cases error with
      | authentication => exact (other rfl).elim
      | cancelled => exact restated
      | versionMismatch => exact state_setState usableAfter _
      | other => exact state_nextAttempt usableAfter count

/-- A loss spares the others exactly if it finds none or takes nothing. -/
theorem connectionLost_spares_iff
    (apart : ∀ other ≠ transport, origin ≠ .receiver other) :
    (∀ other ≠ transport, connection.RunsOn other →
        Spared owners connection (connection.connectionLost origin) other) ↔
      (connection.Live → connection.Alone transport) := by
  constructor
  · intro spares live other runs
    by_contra different
    have kept := (spares other different runs).state
    rw [state_connectionLost live runs.1] at kept
    exact live.1 kept.symm
  · intro owned other different runs
    by_cases live : connection.Live
    · exact (different (owned live other runs)).elim
    · rw [connectionLost_of_not_live live]
      exact Spared.setHandler (apart other different) none

/-- Only the state and the task of one opener change. -/
structure Restates (opener : Opener) (before after : Connection) : Prop where
  closed : after.closed = before.closed
  transport : after.transport = before.transport
  transports : after.transports = before.transports
  authFutures : after.authFutures = before.authFutures
  authError : after.authError = before.authError
  others : ∀ second ≠ opener, after.attempt second = before.attempt second

namespace Restates

theorem trans (first : Restates opener connection middle) (second : Restates opener middle next) :
    Restates opener connection next where
  closed := second.closed.trans first.closed
  transport := second.transport.trans first.transport
  transports := second.transports.trans first.transports
  authFutures := second.authFutures.trans first.authFutures
  authError := second.authError.trans first.authError
  others opener apart := (second.others opener apart).trans (first.others opener apart)

theorem of_connectTask (closed : next.closed = connection.closed)
    (transport : next.transport = connection.transport)
    (transports : next.transports = connection.transports)
    (authFutures : next.authFutures = connection.authFutures)
    (authError : next.authError = connection.authError)
    (connectTask : next.connectTask = connection.connectTask) :
    Restates .reconnect connection next := by
  refine ⟨closed, transport, transports, authFutures, authError, fun second apart => ?_⟩
  cases second with
  | connect => simp [Connection.attempt, connectTask]
  | reconnect => exact (apart rfl).elim

theorem of_reconnectTask (closed : next.closed = connection.closed)
    (transport : next.transport = connection.transport)
    (transports : next.transports = connection.transports)
    (authFutures : next.authFutures = connection.authFutures)
    (authError : next.authError = connection.authError)
    (reconnectTask : next.reconnectTask = connection.reconnectTask) :
    Restates .connect connection next := by
  refine ⟨closed, transport, transports, authFutures, authError, fun second apart => ?_⟩
  cases second with
  | connect => exact (apart rfl).elim
  | reconnect => simp [Connection.attempt, reconnectTask]

theorem setState (connection : Connection) (state : ConnectionState) :
    Restates opener connection (connection.setState state) :=
  ⟨rfl, rfl, rfl, rfl, rfl, fun _ _ => rfl⟩

theorem nextAttempt (connection : Connection) (count : Nat) :
    Restates .reconnect connection (connection.nextAttempt count) := by
  unfold Connection.nextAttempt
  split_ifs <;> exact of_connectTask rfl rfl rfl rfl rfl rfl

theorem exceptAttempt {error : OpenError} (count : Nat) (other : error ≠ .authentication) :
    Restates .reconnect connection (connection.exceptAttempt count error) := by
  cases error with
  | authentication => exact (other rfl).elim
  | versionMismatch => exact of_connectTask rfl rfl rfl rfl rfl rfl
  | cancelled => exact of_connectTask rfl rfl rfl rfl rfl rfl
  | other => exact nextAttempt connection count

theorem raiseOpen {error : OpenError} (opener : Opener) (other : error ≠ .authentication) :
    Restates opener connection (connection.raiseOpen opener error) := by
  cases opener with
  | connect => exact of_reconnectTask rfl rfl rfl rfl rfl rfl
  | reconnect =>
      simp only [Connection.raiseOpen]
      split
      · exact exceptAttempt _ other
      · exact of_connectTask rfl rfl rfl rfl rfl rfl

theorem concludeOpen {error : OpenError} (opener : Opener) (other : error ≠ .authentication) :
    Restates opener connection (connection.concludeOpen opener error) := by
  rw [Connection.concludeOpen, if_neg other]
  split_ifs
  · exact raiseOpen opener other
  · exact (setState connection _).trans (raiseOpen opener other)

/-- A task whose attempt is on another transport writes nothing new. -/
theorem spared (restates : Restates opener connection next)
    (state : next.state = connection.state)
    (different : ∀ attempt, connection.attempt opener = some attempt →
      attempt.transport ≠ other) : Spared owners connection next other := by
  refine .of_same state restates.closed restates.transport restates.transports
    restates.authFutures restates.authError fun second attempt found opens => ?_
  by_cases same : second = opener
  · subst same
    exact (different attempt found opens).elim
  · rw [restates.others second same, found]

end Restates

theorem cleaning_failOpen (found : connection.attempt opener = some attempt)
    (error : OpenError) :
    (connection.failOpen opener attempt.transport error).cleaning opener = true := by
  have foundClosed : ({ connection with
      transport := if connection.transport = some attempt.transport then none
        else connection.transport }.closeTransport attempt.transport).attempt opener =
          some attempt := found
  rw [failOpen, cleaning_of_attempt (attempt_setPhase foundClosed _)]
  rfl

theorem cleaning_of_pending (pending : attempt.phase.pending = true) :
    attempt.phase.cleaning = false := by
  cases phase : attempt.phase <;> simp_all [OpenPhase.pending, OpenPhase.cleaning]

theorem cleaning_startHeartbeat (connection : Connection) (opener : Opener)
    (found : connection.attempt opener = some attempt) :
    (connection.startHeartbeat opener).cleaning opener = false := by
  have returned : ∀ current : Connection, (current.returnOpen opener).cleaning opener = false := by
    intro current
    cases opener <;> rfl
  unfold startHeartbeat
  split_ifs
  · split
    · exact returned _
    · next previous _ =>
      have foundAfter : (connection.setHandler (.heartbeat previous) none).attempt opener =
          some attempt := found
      rw [cleaning_of_attempt (attempt_setPhase foundAfter _)]
      rfl
  · exact returned _

/-- An exception brings an attempt to its `except` block, unless `_close` has
cancelled it later than that. -/
theorem raiseInOpen_eq_failOpen {error : OpenError} (usable : connection.closed = false)
    (found : connection.attempt opener = some attempt)
    (raised : connection.raiseInOpen opener error = some next) :
    attempt.phase.pending = true ∧ ∃ restoring,
      next = { connection with restoring }.failOpen opener attempt.transport error := by
  simp only [raiseInOpen, found] at raised
  split at raised
  case h_4 phase =>
    split_ifs at raised
    obtain rfl := Option.some.inj raised
    exact ⟨by rw [phase]; rfl, false, rfl⟩
  case h_1 phase | h_2 phase | h_3 phase =>
    obtain rfl := Option.some.inj raised
    exact ⟨by rw [phase]; rfl, connection.restoring, rfl⟩
  all_goals
    split_ifs at raised with closing
    cases usable.symm.trans closing.1

/-- `_auth_error` raises, or is gone. -/
theorem resumeAuth_refused (opener : Opener) (transport : Nat)
    (refused : connection.expected = none ∨ ∃ error, connection.expected = some (.failed error)) :
    ∃ error, connection.resumeAuth opener transport =
      connection.failOpen opener transport error := by
  unfold expected at refused
  unfold resumeAuth
  rcases refused with gone | ⟨error, failed⟩
  · exact ⟨.other, by simp only [gone]⟩
  · exact ⟨error, by simp only [failed]⟩

theorem resumeAuth_disowned {transport : Nat}
    (asserts : connection.expected = some .pending ∨ connection.expected = some .accepted)
    (disowned : connection.ownsTransport transport = false) :
    connection.resumeAuth opener transport =
      { connection with authError := none }.failOpen opener transport .other := by
  unfold expected at asserts
  unfold resumeAuth
  rcases asserts with pending | accepted
  · simp [pending, disowned]
  · simp [accepted, disowned]

/-- An attempt that owns its transport does not fail. -/
theorem cleaning_declareAuthenticated (found : connection.attempt opener = some attempt)
    (owned : connection.ownsTransport attempt.transport = true) :
    (connection.declareAuthenticated opener attempt.transport).cleaning opener = false := by
  have foundAfter : connection.authenticate.attempt opener = some attempt := found
  simp only [declareAuthenticated, owned, if_true]
  exact cleaning_startHeartbeat _ _ foundAfter

theorem cleaning_resumeAuth (found : connection.attempt opener = some attempt)
    (asserts : connection.expected = some .pending ∨ connection.expected = some .accepted)
    (owned : connection.ownsTransport attempt.transport = true) :
    (connection.resumeAuth opener attempt.transport).cleaning opener = false := by
  unfold expected at asserts
  cases opener with
  | connect =>
      have goesOn : connection.resumeAuth .connect attempt.transport =
          { connection with
            authError := none
            generation := connection.generation + 1 }.declareAuthenticated .connect
              attempt.transport := by
        unfold resumeAuth
        rcases asserts with pending | accepted
        · simp [pending, owned]
        · simp [accepted, owned]
      rw [goesOn]
      exact cleaning_declareAuthenticated (by exact found) owned
  | reconnect =>
      have goesOn : connection.resumeAuth .reconnect attempt.transport =
          { connection with
            authError := none
            generation := connection.generation + 1
            restoring := true }.setPhase .reconnect .restoring := by
        unfold resumeAuth
        rcases asserts with pending | accepted
        · simp [pending, owned]
        · simp [accepted, owned]
      rw [goesOn, cleaning_of_attempt (attempt_setPhase (by exact found) _)]
      rfl

/-- What an attempt comes to that has not authenticated: it goes on, what it
awaited raises, or it does not own its transport any more. -/
inductive Resumes (connection : Connection) (opener : Opener) (attempt : OpenAttempt)
    (next : Connection) : Prop
  | proceeds (unrefused : ¬ connection.Refuses attempt)
      (owned : connection.Asserts attempt → connection.ownsTransport attempt.transport = true)
      (proceeds : next.cleaning opener = false)
  | refused (refuses : connection.Refuses attempt) (unasserted : ¬ connection.Asserts attempt)
      (error : OpenError) (fails : next = connection.failOpen opener attempt.transport error)
  | disowned (unrefused : ¬ connection.Refuses attempt) (asserts : connection.Asserts attempt)
      (disowned : connection.ownsTransport attempt.transport = false) (authError : Option Nat)
      (restoring : Bool)
      (dropped : attempt.phase = .restoring ∧ authError = connection.authError ∨
        attempt.phase ≠ .restoring ∧ authError = none)
      (fails : next =
        { connection with authError, restoring }.failOpen opener attempt.transport .other)

/-- An attempt that has looked at its own future and goes on to `_auth_error`. -/
theorem resumes_resumeAuth (found : connection.attempt opener = some attempt)
    (later : attempt.phase ≠ .restoring)
    (refuses : connection.Refuses attempt ↔
      connection.expected = none ∨ ∃ error, connection.expected = some (.failed error))
    (asserts : connection.Asserts attempt ↔
      connection.expected = some .pending ∨ connection.expected = some .accepted) :
    Resumes connection opener attempt (connection.resumeAuth opener attempt.transport) := by
  by_cases refused : connection.expected = none ∨
      ∃ error, connection.expected = some (.failed error)
  · obtain ⟨error, fails⟩ := resumeAuth_refused opener attempt.transport refused
    refine .refused (refuses.mpr refused) (fun asserted => ?_) error fails
    rcases asserts.mp asserted with pending | accepted <;>
      rcases refused with gone | ⟨failure, failed⟩ <;> simp_all
  · have asserted : connection.expected = some .pending ∨
        connection.expected = some .accepted := by
      cases outcome : connection.expected with
      | none => exact (refused (Or.inl outcome)).elim
      | some outcome' =>
          cases outcome' with
          | pending => exact Or.inl rfl
          | accepted => exact Or.inr rfl
          | failed error => exact (refused (Or.inr ⟨error, outcome⟩)).elim
    have unrefused : ¬ connection.Refuses attempt := fun refuses' => refused (refuses.mp refuses')
    cases owned : connection.ownsTransport attempt.transport with
    | true => exact .proceeds unrefused (fun _ => owned) (cleaning_resumeAuth found asserted owned)
    | false =>
        exact .disowned unrefused (asserts.mpr asserted) owned none connection.restoring
          (Or.inr ⟨later, rfl⟩) (resumeAuth_disowned asserted owned)

theorem resumes_of_resumeOpen (resumed : connection.resumeOpen opener = some next)
    (found : connection.attempt opener = some attempt)
    (pending : attempt.phase.pending = true) (connected : attempt.phase ≠ .connecting) :
    Resumes connection opener attempt next := by
  simp only [resumeOpen, found] at resumed
  split at resumed
  case h_1 phase => exact (connected phase).elim
  case h_2 phase =>
    have later : attempt.phase ≠ .restoring := by simp [phase]
    split at resumed <;> obtain rfl := Option.some.inj resumed
    · next future awaited =>
      have expects : connection.expected = connection.authFutures[future]? := by
        simp [expected, awaited]
      unfold awaitAuth
      split
      · next accepted =>
        refine resumes_resumeAuth found later ?_ ?_
        · simp [Refuses, phase, awaited, expects, accepted]
        · simp [Asserts, phase, expects, accepted]
      · next error failed =>
        refine .refused ?_ ?_ error rfl
        · simp [Refuses, phase, expects, failed]
        · simp [Asserts, phase, expects, failed]
      · next unaccepted unfailed =>
        refine .proceeds ?_ ?_ ?_
        · simpa [Refuses, phase, awaited, expects] using unfailed
        · simpa [Asserts, phase, expects] using fun accepted => (unaccepted accepted).elim
        · rw [cleaning_of_attempt (attempt_setPhase found _)]
          rfl
    · next gone =>
      refine .refused ?_ ?_ .other rfl
      · simp [Refuses, phase, gone]
      · simp [Asserts, phase, expected, gone]
  case h_3 future phase =>
    have later : attempt.phase ≠ .restoring := by simp [phase]
    split at resumed
    · next accepted =>
      obtain rfl := Option.some.inj resumed
      refine resumes_resumeAuth found later ?_ ?_
      · simp [Refuses, phase, accepted]
      · simp [Asserts, phase, accepted]
    · next error failed =>
      obtain rfl := Option.some.inj resumed
      refine .refused ?_ ?_ error rfl
      · simp [Refuses, phase, failed]
      · simp [Asserts, phase, failed]
    · cases resumed
  case h_4 phase =>
    obtain rfl := Option.some.inj resumed
    have unrefused : ¬ connection.Refuses attempt := by simp [Refuses, phase]
    cases owned : connection.ownsTransport attempt.transport with
    | true =>
        refine .proceeds unrefused (fun _ => owned) ?_
        exact cleaning_declareAuthenticated (by exact found) owned
    | false =>
        refine .disowned unrefused (by simp [Asserts, phase]) owned connection.authError false
          (Or.inl ⟨phase, rfl⟩) ?_
        have lacks : { connection with restoring := false }.ownsTransport attempt.transport =
            false := owned
        simp [declareAuthenticated, lacks]
  all_goals
    next phase => simp [phase, OpenPhase.pending] at pending

/-- The broker's rejection closes the connection. -/
theorem state_rejected (connection : Connection) (opener : Opener) :
    ((connection.setState .closed).raiseOpen opener .authentication).state = .closed := by
  have restated : (connection.setState .closed).state = .closed := by simp [setState]
  cases opener with
  | connect => exact restated
  | reconnect =>
      simp only [raiseOpen]
      split
      · simp [exceptAttempt, setState]
      · exact restated

end Connection

namespace AttributedConnection

open Connection

variable {current : AttributedConnection} {next : Connection} {action : ConnectionAction}
  {origin : LossOrigin} {opener : Opener} {transport : Nat}

theorem harmless_of_no_cause (cause : current.cause next action = none) :
    current.Harmless next action := by
  intro transport caused
  cases cause.symm.trans caused

theorem harmless_iff_of_cause (cause : current.cause next action = some transport) :
    current.Harmless next action ↔
      ∀ other ≠ transport, current.connection.RunsOn other →
        Spared current.authOwners current.connection next other ∧
          (current.greeted = some other → current.greetedAfter next action = some other) ∧
            ¬ Displaces current.connection next other action := by
  constructor
  · exact fun harmless => harmless transport cause
  · intro spares owner caused
    obtain rfl := Option.some.inj (cause.symm.trans caused)
    exact spares

/-- A step that displaces no session and leaves the multiplexer alone is harmless
if it spares the others. -/
theorem harmless_iff_spares (cause : current.cause next action = some transport)
    (displaces : ∀ other, ¬ Displaces current.connection next other action)
    (keeps : current.greetedAfter next action = current.greeted) :
    current.Harmless next action ↔
      ∀ other ≠ transport, current.connection.RunsOn other →
        Spared current.authOwners current.connection next other := by
  rw [harmless_iff_of_cause cause]
  constructor
  · exact fun spares other different runs => (spares other different runs).1
  · exact fun spares other different runs =>
      ⟨spares other different runs, keeps.trans, displaces other⟩

/-- A handler that runs in a receive loop handles the failure of its
transport. -/
theorem ne_receiver_of_handlerCause (cause : current.handlerCause origin = some transport)
    {other : Nat} (different : other ≠ transport) : origin ≠ .receiver other := by
  rintro rfl
  exact different (Option.some.inj cause)

theorem harmless_connectionLost_iff (cause : current.cause next action = some transport)
    (lost : next = current.connection.connectionLost origin)
    (displaces : ∀ other, ¬ Displaces current.connection next other action)
    (keeps : ¬ current.connection.Live → current.greetedAfter next action = current.greeted)
    (apart : ∀ other ≠ transport, origin ≠ .receiver other) :
    current.Harmless next action ↔
      (current.connection.Live → current.connection.Alone transport) := by
  subst lost
  have owned := @connectionLost_spares_iff current.connection origin current.authOwners
    transport apart
  by_cases live : current.connection.Live
  · rw [harmless_iff_of_cause cause, ← owned]
    refine ⟨fun spares other different runs => (spares other different runs).1,
      fun spares other different runs => ?_⟩
    exact (different (owned.mp spares live other runs)).elim
  · rw [harmless_iff_spares cause displaces (keeps live)]
    exact owned

/-- Only the future that is pending can be failed. -/
theorem spared_resolveAuth_iff {error : OpenError} {owners : List Nat}
    {connection : Connection} :
    (∀ other ≠ transport, connection.RunsOn other →
        Spared owners connection ((connection.resolveAuth (.failed error)).setHandler
          (.receiver transport) none) other) ↔
      ∀ future owner : Nat, connection.authError = some future →
        connection.authFutures[future]? = some .pending →
        owners[future]? = some owner → connection.RunsOn owner → owner = transport := by
  constructor
  · intro spares future owner expected waiting owns runs
    by_contra different
    have kept := (spares owner different runs).auth future .pending owns waiting
    simp [setHandler, resolveAuth, expected, waiting] at kept
  · intro owned other different runs
    have apart : LossOrigin.receiver transport ≠ .receiver other :=
      fun same => different (LossOrigin.receiver.inj same).symm
    refine Spared.trans ?_ (Spared.setHandler apart none)
    refine ⟨rfl, rfl, id, fun _ => id, fun _ _ found _ => found, ?_, fun _ _ => id⟩
    intro future outcome owns found
    cases expected : connection.authError with
    | none => simpa [resolveAuth, expected] using found
    | some awaited =>
        by_cases same : awaited = future
        · subst same
          have resolved : outcome ≠ .pending := by
            rintro rfl
            exact different (owned awaited other expected found owns runs)
          simp [resolveAuth, expected, found, resolved]
        · simpa [resolveAuth, expected, List.getElem?_modify_ne _ _ same] using found

/-- The multiplexer is disconnected only where the session ends. -/
theorem greetedAfter_raiseInReceiver {error : OpenError}
    (goesOn : current.connection.endsSession (.raiseInReceiver transport error) = false) :
    current.greetedAfter next (.raiseInReceiver transport error) = current.greeted := by
  simp [greetedAfter, goesOn]

theorem harmless_raiseInReceiver_iff {error : OpenError}
    (raised : current.connection.raiseInReceiver transport error = some next) :
    current.Harmless next (.raiseInReceiver transport error) ↔
      current.Owned (.raiseInReceiver transport error) := by
  by_cases cancelled : error = .cancelled
  · have cause : current.cause next (.raiseInReceiver transport error) = none := by
      simp [AttributedConnection.cause, cancelled]
    exact iff_of_true (harmless_of_no_cause cause) fun other => (other cancelled).elim
  · have cause : current.cause next (.raiseInReceiver transport error) = some transport := by
      simp [AttributedConnection.cause, cancelled]
    have apart : ∀ other ≠ transport, LossOrigin.receiver transport ≠ .receiver other :=
      fun other different same => different (LossOrigin.receiver.inj same).symm
    have owned : current.Owned (.raiseInReceiver transport error) ↔
        current.ReceiverOwned transport := by
      simp [Owned, cancelled]
    rw [owned, ReceiverOwned]
    unfold Connection.raiseInReceiver at raised
    split_ifs at raised ⊢ with _ _ _ here <;> obtain rfl := Option.some.inj raised
    · next waiting =>
      have goesOn : current.connection.endsSession (.raiseInReceiver transport error) = false := by
        simp [endsSession, waiting.1, Option.isSome_iff_ne_none.mpr waiting.2]
      rw [harmless_iff_spares cause (fun _ => id) (greetedAfter_raiseInReceiver goesOn)]
      exact spared_resolveAuth_iff
    · have keeps : ¬ current.connection.Live →
          current.greetedAfter (current.connection.connectionLost (.receiver transport))
            (.raiseInReceiver transport error) = current.greeted :=
        fun ended => greetedAfter_raiseInReceiver (by simp [endsSession, ended])
      rw [harmless_connectionLost_iff cause rfl (fun _ => id) keeps apart]
      exact ⟨fun alone _ => alone, fun alone => alone here.2⟩
    · have goesOn : current.connection.endsSession (.raiseInReceiver transport error) = false := by
        by_contra ends
        simp only [endsSession, Bool.not_eq_false, Bool.and_eq_true, beq_iff_eq,
          Bool.not_eq_true'] at ends
        exact here ⟨by simp [ends.1.1.2], ends.1.2⟩
      rw [harmless_iff_spares cause (fun _ => id) (greetedAfter_raiseInReceiver goesOn)]
      refine iff_of_true
        (fun other different _ => Spared.setHandler (apart other different) none) ?_
      intro atCurrent live other runs
      exact (here ⟨by simp [runs.1], atCurrent⟩).elim

theorem harmless_stepHeartbeat_iff {heartbeat : Nat}
    (stepped : current.connection.stepHeartbeat heartbeat true = some next) :
    current.Harmless next (.stepHeartbeat heartbeat true) ↔
      current.Owned (.stepHeartbeat heartbeat true) := by
  simp only [Connection.stepHeartbeat, if_true] at stepped
  split_ifs at stepped
  obtain rfl := Option.some.inj stepped
  simp only [Owned]
  cases cause : current.pinged.lookup heartbeat with
  | none => exact iff_of_true (harmless_of_no_cause cause) (by simp)
  | some transport =>
      have caused : current.cause (current.connection.connectionLost (.heartbeat heartbeat))
          (.stepHeartbeat heartbeat true) = some transport := cause
      rw [harmless_connectionLost_iff caused rfl (fun _ => id)
        (fun ended => by simp [greetedAfter, endsSession, ended]) (by simp)]
      constructor
      · rintro alone _ same
        obtain rfl := Option.some.inj same
        exact alone
      · exact fun alone => alone transport rfl

theorem harmless_startLoss_iff (stepped : current.connection.step .startLoss = some next) :
    current.Harmless next .startLoss ↔ current.Owned .startLoss := by
  simp only [Connection.step] at stepped
  split_ifs at stepped
  obtain rfl := Option.some.inj stepped
  have cause : current.cause (current.connection.connectionLost .lossTask) .startLoss =
      some current.lossCause := rfl
  exact harmless_connectionLost_iff cause rfl (fun _ => id)
    (fun ended => by simp [greetedAfter, endsSession, ended]) (by simp)

/-- Closing the transport that a loss took spares the others exactly if none
of them is the one taken and still open. -/
theorem spared_closeLost_iff {owners : List Nat} {connection : Connection} {taken : Nat}
    (apart : ∀ other ≠ transport, origin ≠ .receiver other) :
    (∀ other ≠ transport, connection.RunsOn other →
        Spared owners connection (connection.closeLost origin (some taken)) other) ↔
      (connection.RunsOn taken → connection.leftOpen taken = true → taken = transport) := by
  constructor
  · intro spares runs left
    by_contra different
    obtain ⟨cell, found, open_⟩ := Option.any_eq_true _ _ |>.mp left
    have kept := (spares taken different runs).cell cell found
    have closes : (connection.closeLost origin (some taken)).leftOpen taken = false := by
      simp [closeLost]
    simp [leftOpen, kept, open_] at closes
  · intro owned other different runs
    refine Spared.trans ?_ (Spared.setHandler (apart other different) _)
    by_cases same : taken = other
    · subst same
      refine ⟨rfl, rfl, id, fun cell found => ?_, fun _ _ found _ => found, fun _ _ _ => id,
        fun _ _ => id⟩
      have shut : cell.closed = true := by
        by_contra left
        exact different (owned runs (by simpa [leftOpen, found] using left))
      obtain ⟨_, receiver⟩ := cell
      obtain rfl := shut
      simp [closeTransport, found]
    · exact Spared.closeTransport same

/-- The handler comes to `_notify_disconnect`. -/
theorem harmless_notifying_iff {before : HandlerPhase}
    (cause : current.handlerCause origin = some transport)
    (phase : current.connection.handlerPhase origin = some before)
    (earlier : before ≠ .notifying) :
    current.Harmless (current.connection.setHandler origin (some .notifying))
        (.resumeHandler origin) ↔ current.connection.SoleSession transport := by
  have caused : current.cause (current.connection.setHandler origin (some .notifying))
      (.resumeHandler origin) = some transport := cause
  have notifies := handlerPhase_setHandler_self (hosts_of_handlerPhase phase) (some .notifying)
  rw [harmless_iff_of_cause caused]
  constructor
  · intro spares other session
    by_contra different
    refine (spares other different session.1).2.2 ⟨session, ?_, notifies⟩
    rw [phase]
    exact fun same => earlier (Option.some.inj same)
  · intro sole other different _
    exact ⟨Spared.setHandler (ne_receiver_of_handlerCause cause different) _, id,
      fun displaces => different (sole other displaces.1)⟩

theorem harmless_resumeHandler_iff
    (resumed : current.connection.resumeHandler origin = some next) :
    current.Harmless next (.resumeHandler origin) ↔ current.Owned (.resumeHandler origin) := by
  cases cause : current.handlerCause origin with
  | none => exact iff_of_true (harmless_of_no_cause cause) (by simp [Owned, cause])
  | some transport =>
      have apart : ∀ other ≠ transport, origin ≠ .receiver other := fun other different =>
        ne_receiver_of_handlerCause cause different
      have owned : current.Owned (.resumeHandler origin) ↔
          current.connection.HandlerOwned origin transport := by
        simp [Owned, cause]
      have caused : ∀ after, current.cause after (.resumeHandler origin) = some transport :=
        fun _ => cause
      rw [owned]
      unfold Connection.resumeHandler at resumed
      split at resumed
      · cases resumed
      · next taken phase =>
        obtain rfl := Option.some.inj resumed
        cases taken with
        | none =>
            simp only [HandlerOwned, phase]
            exact harmless_notifying_iff cause phase nofun
        | some taken =>
            have closes : (current.connection.closeLost origin (some taken)).handlerPhase origin =
                some .closing :=
              handlerPhase_setHandler_self ((hosts_of_handlerPhase phase).closeTransport taken) _
            have displaces : ∀ other, ¬ Displaces current.connection
                (current.connection.closeLost origin (some taken)) other
                (.resumeHandler origin) := by
              rintro other ⟨_, _, notifies⟩
              cases closes.symm.trans notifies
            rw [harmless_iff_spares (caused _) displaces rfl]
            simp only [HandlerOwned, phase]
            exact spared_closeLost_iff apart
      · next phase =>
        obtain rfl := Option.some.inj resumed
        simp only [HandlerOwned, phase]
        exact harmless_notifying_iff cause phase nofun
      · next phase =>
        obtain rfl := Option.some.inj resumed
        rw [harmless_iff_spares (caused _) (fun _ displaces => displaces.2.1 phase) rfl]
        simp only [HandlerOwned, phase, iff_true]
        exact fun other different _ =>
          (Spared.setHandler (apart other different) none).trans (Spared.startReconnect _)

/-- A transport that runs though it is not the one whose failure is handled. -/
theorem exists_of_not_alone {connection : Connection} (others : ¬ connection.Alone transport) :
    ∃ other, connection.RunsOn other ∧ other ≠ transport := by
  simpa [Alone] using others

theorem harmless_startReconnect_iff
    (stepped : current.connection.step .startReconnect = some next) :
    current.Harmless next .startReconnect ↔ current.Owned .startReconnect := by
  simp only [Connection.step] at stepped
  split_ifs at stepped with scheduled
  obtain rfl := Option.some.inj stepped
  have rests : current.connection.attempt .reconnect = none := by
    simp [Connection.attempt, scheduled.1, ReconnectTask.attempt]
  rw [harmless_iff_spares rfl (fun _ => id) rfl]
  constructor
  · intro spares
    by_cases alone : current.connection.Alone current.reconnectCause
    · exact Or.inr alone
    · obtain ⟨other, runs, different⟩ := exists_of_not_alone alone
      have kept := (spares other different runs).state
      rw [state_nextAttempt runs.1] at kept
      exact Or.inl kept.symm
  · rintro (kept | alone) other different runs
    · refine (Restates.nextAttempt _ 0).spared ?_ (by simp [rests])
      rw [state_nextAttempt runs.1, kept]
    · exact (different (alone other runs)).elim

theorem harmless_wakeReconnect_iff
    (stepped : current.connection.step (.wakeReconnect none) = some next) :
    current.Harmless next (.wakeReconnect none) ↔ current.Owned (.wakeReconnect none) := by
  rw [harmless_iff_of_cause rfl]
  simp only [Connection.step] at stepped
  split at stepped
  · next count task =>
    split_ifs at stepped with closed <;> obtain rfl := Option.some.inj stepped
    · exact iff_of_true (fun _ _ runs => (not_runsOn_of_closed closed runs).elim)
        (Or.inr fun _ runs => (not_runsOn_of_closed closed runs).elim)
    · have usable : current.connection.closed = false := by simpa using closed
      constructor
      · intro spares
        by_cases alone : current.connection.Alone current.reconnectCause
        · exact Or.inr alone
        · obtain ⟨other, runs, different⟩ := exists_of_not_alone alone
          have kept := (spares other different runs).1.state
          have reopened : (current.connection.openTransport .reconnecting).state =
              .reconnecting := state_setState usable _
          refine Or.inl ⟨kept.symm.trans reopened, fun held runsHeld atHeld => ?_⟩
          by_contra apart
          exact (spares held apart runsHeld).2.2 ⟨atHeld, by simp [openTransport, setState]⟩
      · rintro (⟨kept, held⟩ | alone) other different runs
        · have apart : current.connection.transport ≠ some other := fun atOther =>
            different (held other runs atOther)
          refine ⟨⟨?_, rfl, fun atOther => (apart atOther).elim, ?_, ?_, fun _ _ _ => id,
            fun _ _ => id⟩, id, fun displaces => apart displaces.1⟩
          · exact (state_setState usable _).trans kept.symm
          · intro cell found
            have old : other < current.connection.transports.length :=
              (List.getElem?_eq_some_iff.mp found).1
            exact (List.getElem?_append_left old).trans found
          · intro opener attempt found _
            cases opener with
            | connect => exact found
            | reconnect => simp [Connection.attempt, task, ReconnectTask.attempt] at found
        · exact (different (alone other runs)).elim
  · cases stepped

/-- The attempt comes to its `except` block. -/
theorem harmless_failing_iff {attempt : OpenAttempt} {authError : Option Nat} {restoring : Bool}
    {error : OpenError} (resumes : action = .resumeOpen opener ∨
      ∃ error, action = .raiseInOpen opener error)
    (found : current.connection.attempt opener = some attempt)
    (pending : attempt.phase.pending = true)
    (fails : next = { current.connection with authError, restoring }.failOpen opener
      attempt.transport error)
    (dropped : authError = current.connection.authError ∨ authError = none) :
    current.Harmless next action ↔ current.ExceptOwned attempt.transport ∧
      (authError ≠ current.connection.authError → current.SoleFuture attempt.transport) := by
  have before : current.connection.cleaning opener = false := by
    rw [cleaning_of_attempt found, cleaning_of_pending pending]
  have after : next.cleaning opener = true := by
    rw [fails]
    exact cleaning_failOpen (by exact found) error
  have cause : current.cause next action = some attempt.transport := by
    rcases resumes with rfl | ⟨error, rfl⟩ <;> simp [AttributedConnection.cause, found, after]
  have greeted : current.greetedAfter next action = none := by
    rcases resumes with rfl | ⟨error, rfl⟩ <;> simp [greetedAfter, before, after]
  have displaces : ∀ other, Displaces current.connection next other action ↔
      current.connection.Session other := by
    intro other
    rcases resumes with rfl | ⟨error, rfl⟩
    · exact ⟨And.left, fun session => ⟨session, before, after⟩⟩
    · exact ⟨And.left, fun session => ⟨session, before, after⟩⟩
  rw [harmless_iff_of_cause cause]
  constructor
  · refine fun spares => ⟨⟨fun other session => ?_, fun other hello runs => ?_⟩,
      fun changed future owner awaited owns runs => ?_⟩ <;> by_contra different
    · exact (spares other different session.1).2.2 ((displaces other).mpr session)
    · have kept := (spares other different runs).2.1 hello
      cases greeted.symm.trans kept
    · have kept := (spares owner different runs).1.awaited future owns awaited
      have gone : next.authError = authError := by
        rw [fails]
        rfl
      rw [gone] at kept
      exact changed (kept.trans awaited.symm)
  · rintro ⟨⟨sole, hello⟩, sound⟩ other different runs
    refine ⟨?_, fun greets => (different (hello other greets runs)).elim, fun displaced =>
      different (sole other ((displaces other).mp displaced))⟩
    rw [fails]
    refine Spared.failDropped found different.symm _ _ _ fun future owns awaited => ?_
    rcases dropped with same | gone
    · exact same.trans awaited
    · have changed : authError ≠ current.connection.authError := by
        rw [gone, awaited]
        nofun
      exact (different (sound changed future other awaited owns runs)).elim

theorem harmless_raiseInOpen_iff {error : OpenError}
    (raised : current.connection.raiseInOpen opener error = some next) :
    current.Harmless next (.raiseInOpen opener error) ↔
      current.Owned (.raiseInOpen opener error) := by
  obtain ⟨attempt, found, -⟩ := openStep_of_raiseInOpen raised
  have owned : current.Owned (.raiseInOpen opener error) ↔
      current.ExceptOwned attempt.transport := by
    simp [Owned, found]
  rw [owned]
  by_cases closed : current.connection.closed = true
  · exact iff_of_true (fun _ _ _ _ runs => (not_runsOn_of_closed closed runs).elim)
      ⟨fun _ session => (not_runsOn_of_closed closed session.1).elim,
        fun _ _ runs => (not_runsOn_of_closed closed runs).elim⟩
  · obtain ⟨pending, restoring, fails⟩ :=
      raiseInOpen_eq_failOpen (by simpa using closed) found raised
    have kept : next = { current.connection with
        authError := current.connection.authError, restoring }.failOpen opener attempt.transport
          error := fails
    rw [harmless_failing_iff (Or.inr ⟨error, rfl⟩) found pending kept (Or.inl rfl)]
    simp

theorem concludeOpen_spares_iff {connection : Connection} {attempt : OpenAttempt}
    {owners : List Nat} {error : OpenError} (found : connection.attempt opener = some attempt) :
    (∀ other ≠ attempt.transport, connection.RunsOn other →
        Spared owners connection (connection.concludeOpen opener error) other) ↔
      connection.ConcludeOwned opener attempt.transport error := by
  constructor
  · intro spares
    by_cases alone : connection.Alone attempt.transport
    · exact Or.inr alone
    · obtain ⟨other, runs, different⟩ := exists_of_not_alone alone
      have spared := spares other different runs
      have rejected : error ≠ .authentication := by
        rintro rfl
        have closes : (connection.concludeOpen opener .authentication).closed = true := rfl
        cases (closes.symm.trans spared.closed).trans runs.1
      exact Or.inl ⟨rejected,
        spared.state.symm.trans (state_concludeOpen runs.1 rejected found)⟩
  · rintro (⟨rejected, kept⟩ | alone) other different runs
    · refine (Restates.concludeOpen opener rejected).spared ?_ fun current foundCurrent => ?_
      · rw [state_concludeOpen runs.1 rejected found, kept]
      · rw [← Option.some.inj (found.symm.trans foundCurrent)]
        exact different.symm
    · exact (different (alone other runs)).elim

/-- An attempt that has not authenticated goes on. -/
theorem harmless_resumeOpen_iff_of_pending {attempt : OpenAttempt}
    (resumed : current.connection.resumeOpen opener = some next)
    (found : current.connection.attempt opener = some attempt)
    (pending : attempt.phase.pending = true) (connected : attempt.phase ≠ .connecting) :
    current.Harmless next (.resumeOpen opener) ↔
      (current.connection.Refuses attempt → current.ExceptOwned attempt.transport) ∧
        (current.connection.Asserts attempt →
          current.connection.ownsTransport attempt.transport = false →
            current.ExceptOwned attempt.transport ∧
              (attempt.phase ≠ .restoring → current.SoleFuture attempt.transport)) := by
  cases resumes_of_resumeOpen resumed found pending connected with
  | proceeds unrefused owned proceeds =>
      have before : current.connection.cleaning opener = false := by
        rw [cleaning_of_attempt found, cleaning_of_pending pending]
      refine iff_of_true (harmless_of_no_cause ?_) ⟨fun refuses => (unrefused refuses).elim, ?_⟩
      · simp [AttributedConnection.cause, before, proceeds]
      · intro asserts disowned
        cases disowned.symm.trans (owned asserts)
  | refused refuses unasserted error fails =>
      have kept : next = { current.connection with
          authError := current.connection.authError
          restoring := current.connection.restoring }.failOpen opener attempt.transport
            error := fails
      rw [harmless_failing_iff (Or.inl rfl) found pending kept (Or.inl rfl)]
      simp [refuses, unasserted]
  | disowned unrefused asserts disowned authError restoring dropped fails =>
      rcases dropped with ⟨phase, same⟩ | ⟨later, gone⟩
      · rw [harmless_failing_iff (Or.inl rfl) found pending fails (Or.inl same)]
        simp [unrefused, asserts, disowned, phase, same]
      · rw [harmless_failing_iff (Or.inl rfl) found pending fails (Or.inr gone)]
        have drops : (authError ≠ current.connection.authError →
            current.SoleFuture attempt.transport) ↔ current.SoleFuture attempt.transport := by
          refine ⟨fun sound future owner awaited => ?_, fun sole _ => sole⟩
          exact sound (by rw [gone, awaited]; nofun) future owner awaited
        simp [unrefused, asserts, disowned, later, drops]

theorem harmless_resumeOpen_iff
    (resumed : current.connection.resumeOpen opener = some next) :
    current.Harmless next (.resumeOpen opener) ↔ current.Owned (.resumeOpen opener) := by
  obtain ⟨attempt, found, _⟩ := openStep_of_resumeOpen resumed
  have owned : current.Owned (.resumeOpen opener) ↔ current.OpenOwned opener attempt := by
    simp [Owned, found]
  rw [owned, OpenOwned]
  have concluding : attempt.phase.cleaning = true →
      (current.Harmless next (.resumeOpen opener) ↔
        ∀ other ≠ attempt.transport, current.connection.RunsOn other →
          Spared current.authOwners current.connection next other) := by
    intro cleans
    have before : current.connection.cleaning opener = true := by
      rw [cleaning_of_attempt found, cleans]
    have cause : current.cause next (.resumeOpen opener) = some attempt.transport := by
      simp [AttributedConnection.cause, before, found]
    have displaces : ∀ other, ¬ Displaces current.connection next other (.resumeOpen opener) :=
      fun other displaces => by cases before.symm.trans displaces.2.1
    exact harmless_iff_spares cause displaces (by simp [greetedAfter, before])
  have idle : next.cleaning opener = false → attempt.phase.cleaning = false →
      current.Harmless next (.resumeOpen opener) := by
    intro after before
    refine harmless_of_no_cause ?_
    simp [AttributedConnection.cause, after, cleaning_of_attempt found, before]
  cases phase : attempt.phase with
  | connecting =>
      simp only [Connection.resumeOpen, found, phase] at resumed
      obtain rfl := Option.some.inj resumed
      refine iff_of_true (idle ?_ (by rw [phase]; rfl)) trivial
      have foundAfter : (current.connection.startReceiving attempt.transport).attempt opener =
          some attempt := found
      rw [cleaning_of_attempt (attempt_setPhase foundAfter _)]
      rfl
  | sendingConnect | awaitingAuth future | restoring =>
      rw [harmless_resumeOpen_iff_of_pending resumed found (by rw [phase]; rfl)
        (by rw [phase]; nofun)]
      simp [phase]
  | restartingHeartbeat =>
      simp only [Connection.resumeOpen, found, phase] at resumed
      obtain rfl := Option.some.inj resumed
      refine iff_of_true (idle ?_ (by rw [phase]; rfl)) trivial
      cases opener <;> rfl
  | closing error =>
      rw [concluding (by rw [phase]; rfl)]
      simp only [Connection.resumeOpen, found, phase] at resumed
      split_ifs at resumed with nobody <;> obtain rfl := Option.some.inj resumed
      · simp only [nobody, true_implies]
        exact concludeOpen_spares_iff found
      · refine iff_of_true (fun other different _ => ?_) fun gone => (nobody gone).elim
        have foundAfter : (current.connection.cancelReceiver attempt.transport).attempt opener =
            some attempt := found
        exact (Spared.cancelReceiver different.symm).trans
          (Spared.setPhase foundAfter different.symm _)
  | gathering error =>
      rw [concluding (by rw [phase]; rfl)]
      simp only [Connection.resumeOpen, found, phase] at resumed
      obtain rfl := Option.some.inj resumed
      exact concludeOpen_spares_iff found
  | rejecting =>
      rw [concluding (by rw [phase]; rfl)]
      simp only [Connection.resumeOpen, found, phase] at resumed
      obtain rfl := Option.some.inj resumed
      constructor
      · intro spares other runs
        by_contra different
        have kept := (spares other different runs).state
        rw [state_rejected] at kept
        exact runs.2.1 kept.symm
      · exact fun alone other different runs => (different (alone other runs)).elim

theorem harmless_iff_owned (stepped : current.connection.step action = some next) :
    current.Harmless next action ↔ current.Owned action := by
  cases action with
  | raiseInReceiver transport error => exact harmless_raiseInReceiver_iff stepped
  | stepHeartbeat heartbeat fails =>
      cases fails with
      | true => exact harmless_stepHeartbeat_iff stepped
      | false => exact iff_of_true (harmless_of_no_cause rfl) trivial
  | startLoss => exact harmless_startLoss_iff stepped
  | resumeHandler origin => exact harmless_resumeHandler_iff stepped
  | startReconnect => exact harmless_startReconnect_iff stepped
  | wakeReconnect raised =>
      cases raised with
      | none => exact harmless_wakeReconnect_iff stepped
      | some _ => exact iff_of_true (harmless_of_no_cause rfl) trivial
  | resumeOpen opener => exact harmless_resumeOpen_iff stepped
  | raiseInOpen opener error => exact harmless_raiseInOpen_iff stepped
  | _ => exact iff_of_true (harmless_of_no_cause rfl) trivial

theorem spared_scheduleLoss {connection : Connection} {owners : List Nat} {other : Nat}
    (stepped : connection.step .scheduleLoss = some next) :
    Spared owners connection next other := by
  simp only [Connection.step] at stepped
  split_ifs at stepped
  obtain rfl := Option.some.inj stepped
  exact .of_same rfl rfl rfl rfl rfl rfl fun _ _ found _ => found

/-- A message that fails does no more than schedule a loss. -/
theorem spared_of_fail {after : AttributedConnection} {index other : Nat}
    (stepped : current.step (.fail index) = some after) :
    Spared current.authOwners current.connection after.connection other ∧
      after.greeted = current.greeted := by
  obtain ⟨message, -, failed⟩ := Option.bind_eq_some_iff.mp stepped
  obtain ⟨-, same⟩ := Option.ite_none_right_eq_some.mp failed
  obtain rfl := Option.some.inj same
  unfold scheduleLoss
  split
  · next connection scheduled => exact ⟨spared_scheduleLoss scheduled, rfl⟩
  · exact ⟨Spared.refl _, rfl⟩

theorem stepHarmless_iff_stepOwned {after : AttributedConnection} {action : TransportAction}
    (stepped : current.step action = some after) :
    current.StepHarmless action ↔ current.StepOwned action := by
  cases action with
  | fail index => exact iff_of_true (fun _ _ _ failed _ _ _ => spared_of_fail failed) trivial
  | run action =>
      simp only [step] at stepped
      split_ifs at stepped
      obtain ⟨next, enabled, _⟩ := Option.map_eq_some_iff.mp stepped
      constructor
      · exact fun harmless => (harmless_iff_owned enabled).mp (harmless next enabled)
      · exact fun owned next enabled => (harmless_iff_owned enabled).mpr owned
  | _ => exact Iff.rfl

/-- No failure harms another transport in a run exactly if each of its steps
owns what it writes. -/
theorem stepsMeet_harmless_iff (config : ConnectionConfig) (actions : List TransportAction) :
    (system config).StepsMeet StepHarmless { connection := { config } } actions ↔
      (system config).StepsMeet StepOwned { connection := { config } } actions :=
  (system config).stepsMeet_congr (fun _ _ _ stepped => stepHarmless_iff_stepOwned stepped) _ _

/-- A send of the first session has the write lock when the session ends, and
fails while the CONNECT of a new attempt waits for the lock: the loss that it
schedules ends the attempt. -/
theorem exists_attempt_torn_down :
    ∃ current : AttributedConnection, (system {}).Reachable current ∧
      ¬ current.StepHarmless (.run .startLoss) := by
  refine ⟨_, (system {}).reachable_of_run rfl
    [.run .connect, .run (.startConnect none), .run (.resumeOpen .connect), .sendConnect .connect,
      .run (.resumeOpen .connect), .run (.receiveHello 0), .run (.resumeOpen .connect),
      .issue false, .send 0, .run (.raiseInReceiver 0 .other), .run .connect,
      .run (.startConnect none), .run (.resumeOpen .connect), .sendConnect .connect, .fail 0,
      .run (.resumeOpen .connect)] rfl, ?_⟩
  intro harmless
  have spared := harmless _ rfl 0 rfl 1 (by decide) ⟨rfl, nofun, Or.inl rfl⟩
  cases spared.1.state

end AttributedConnection

end FitzClient
