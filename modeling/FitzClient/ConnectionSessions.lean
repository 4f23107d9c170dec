import FitzClient.ConnectionTasks

/-!
# What a transition does to the sessions of a connection

A session of the broker lives on one transport.  Of all transitions of the
connection only three kinds matter to its sessions: an attempt opens a
transport, an attempt finds its transport accepted and begins a generation, and
an attempt has restored its registrations and declares the connection
authenticated.  Every other one is steady.
-/

namespace FitzClient

/-- The attempt has not been authenticated. -/
def OpenPhase.greeting : OpenPhase → Bool
  | .connecting | .sendingConnect | .awaitingAuth _ => true
  | _ => false

namespace Connection

variable {connection middle next : Connection} {origin : LossOrigin} {opener : Opener}
  {attempt : OpenAttempt}

/-- A connect task that has not run yet was scheduled before any reconnect
loop. -/
def ConnectFirst (connection : Connection) : Prop :=
  connection.connectTask = .scheduled →
    connection.reconnectTask = .idle ∨ connection.reconnectTask = .scheduled

/-- The reconnect loop does not restore registrations. -/
def NotRestoring (connection : Connection) : Prop :=
  connection.restoring = true → ∀ attempt, connection.attempt .reconnect = some attempt →
    attempt.phase ≠ .restoring

/-- A transition that begins no generation, opens no transport and
authenticates nothing. -/
structure Steady (before after : Connection) : Prop where
  generation : after.generation = before.generation
  transports : after.transports.length = before.transports.length
  transport : ∀ transport, after.transport = some transport → before.transport = some transport
  authenticated : after.state = .authenticated → before.state = .authenticated
  restoring : after.restoring = true → before.restoring = true ∧ ∀ attempt,
    before.attempt .reconnect = some attempt → attempt.phase = .restoring →
      after.attempt .reconnect = some attempt
  attempts : ∀ opener attempt, after.attempt opener = some attempt → ∃ earlier,
    before.attempt opener = some earlier ∧ earlier.transport = attempt.transport ∧
      (attempt.phase.greeting = true → earlier.phase.greeting = true) ∧
      (attempt.phase = .restoring → earlier.phase = .restoring)
  connectFirst : before.ConnectFirst → after.ConnectFirst

namespace Steady

theorem trans (first : Steady connection middle) (second : Steady middle next) :
    Steady connection next where
  generation := second.generation.trans first.generation
  transports := second.transports.trans first.transports
  transport transport current := first.transport transport (second.transport transport current)
  authenticated reached := first.authenticated (second.authenticated reached)
  restoring restores := by
    obtain ⟨middleRestores, kept⟩ := second.restoring restores
    obtain ⟨restored, keptFirst⟩ := first.restoring middleRestores
    exact ⟨restored, fun attempt found phase =>
      kept attempt (keptFirst attempt found phase) phase⟩
  attempts opener attempt found := by
    obtain ⟨between, foundBetween, transport, greeting, restoring⟩ :=
      second.attempts opener attempt found
    obtain ⟨earlier, foundEarlier, transportFirst, greetingFirst, restoringFirst⟩ :=
      first.attempts opener between foundBetween
    exact ⟨earlier, foundEarlier, transportFirst.trans transport,
      fun greets => greetingFirst (greeting greets),
      fun restores => restoringFirst (restoring restores)⟩
  connectFirst ordered := second.connectFirst (first.connectFirst ordered)

/-- The tasks that open transports are as before. -/
theorem of_tasks (generation : next.generation = connection.generation)
    (transports : next.transports.length = connection.transports.length)
    (transport : ∀ transport, next.transport = some transport →
      connection.transport = some transport)
    (authenticated : next.state = .authenticated → connection.state = .authenticated)
    (restoring : next.restoring = true → connection.restoring = true)
    (connectTask : next.connectTask = connection.connectTask)
    (reconnectTask : next.reconnectTask = connection.reconnectTask) :
    Steady connection next := by
  have same : ∀ opener, next.attempt opener = connection.attempt opener := by
    intro opener
    cases opener <;> simp [Connection.attempt, connectTask, reconnectTask]
  refine ⟨generation, transports, transport, authenticated, fun restores => ?_,
    fun opener attempt found => ?_, fun ordered => ?_⟩
  · exact ⟨restoring restores, fun attempt found _ => (same .reconnect).trans found⟩
  · exact ⟨attempt, (same opener).symm.trans found, rfl, id, id⟩
  · rwa [ConnectFirst, connectTask, reconnectTask]

theorem refl (connection : Connection) : Steady connection connection :=
  of_tasks rfl rfl (fun _ => id) id id rfl rfl

theorem setState (connection : Connection) {state : ConnectionState}
    (other : state ≠ .authenticated) : Steady connection (connection.setState state) := by
  refine of_tasks rfl rfl (fun _ => id) (fun reached => ?_) id rfl rfl
  simp only [Connection.setState] at reached
  split_ifs at reached with closing
  · exact reached
  · exact (other reached).elim

theorem closeTransport (connection : Connection) (transport : Nat) :
    Steady connection (connection.closeTransport transport) :=
  of_tasks rfl (List.length_modify _ _ _) (fun _ => id) id id rfl rfl

theorem cancelReceiver (connection : Connection) (transport : Nat) :
    Steady connection (connection.cancelReceiver transport) :=
  of_tasks rfl (List.length_modify _ _ _) (fun _ => id) id id rfl rfl

theorem setHandler (connection : Connection) (origin : LossOrigin)
    (phase : Option HandlerPhase) : Steady connection (connection.setHandler origin phase) := by
  refine of_tasks rfl ?_ (fun _ => id) id id rfl rfl
  cases origin with
  | receiver transport => exact List.length_modify _ _ _
  | heartbeat _ => rfl
  | lossTask => rfl

theorem closeLost (connection : Connection) (origin : LossOrigin) (taken : Option Nat) :
    Steady connection (connection.closeLost origin taken) := by
  cases taken with
  | none => exact setHandler _ _ _
  | some transport => exact (closeTransport _ _).trans (setHandler _ _ _)

theorem loseTransport (connection : Connection) :
    Steady connection connection.loseTransport := by
  have lost : Steady connection (connection.setState .disconnected) := setState connection nofun
  exact lost.trans (of_tasks rfl rfl (fun _ taken => nomatch taken) id id rfl rfl)

theorem connectionLost (connection : Connection) (origin : LossOrigin) :
    Steady connection (connection.connectionLost origin) := by
  unfold Connection.connectionLost
  split_ifs
  · exact setHandler _ _ _
  · split
    · split_ifs
      · exact (loseTransport _).trans (closeLost _ _ _)
      · exact ((loseTransport _).trans (cancelReceiver _ _)).trans (setHandler _ _ _)
    · exact (loseTransport _).trans (closeLost _ _ _)

theorem startReconnect (connection : Connection) :
    Steady connection connection.startReconnect := by
  unfold Connection.startReconnect
  split_ifs with refused idle
  · exact refl _
  · have rests : connection.attempt .reconnect = none := by
      simp [Connection.attempt, idle, ReconnectTask.attempt]
    refine ⟨rfl, rfl, fun _ => id, id, fun restores => ⟨restores, fun attempt found => ?_⟩, ?_,
      fun _ _ => Or.inr rfl⟩
    · cases rests.symm.trans found
    · intro opener attempt found
      cases opener with
      | connect => exact ⟨attempt, found, rfl, id, id⟩
      | reconnect => cases found
  · exact refl _

/-- Suspend an attempt at another await. -/
theorem setPhase (found : connection.attempt opener = some attempt) {phase : OpenPhase}
    (greets : phase.greeting = true → attempt.phase.greeting = true)
    (restores : phase ≠ .restoring) (leaves : opener = .reconnect → connection.NotRestoring) :
    Steady connection (connection.setPhase opener phase) := by
  have after := attempt_setPhase found phase
  have others : ∀ second ≠ opener, (connection.setPhase opener phase).attempt second =
      connection.attempt second := by
    intro second apart
    cases opener <;> cases second <;> first | rfl | exact (apart rfl).elim
  refine ⟨rfl, rfl, fun _ => id, id, fun restoring => ⟨restoring, ?_⟩, ?_, ?_⟩
  · intro other foundOther restoringOther
    by_cases same : Opener.reconnect = opener
    · exact (leaves same.symm restoring other foundOther restoringOther).elim
    · exact (others .reconnect same).trans foundOther
  · intro second current foundCurrent
    by_cases same : second = opener
    · subst same
      obtain rfl := Option.some.inj (after.symm.trans foundCurrent)
      exact ⟨attempt, found, rfl, greets, fun same => (restores same).elim⟩
    · exact ⟨current, (others second same).symm.trans foundCurrent, rfl, id, id⟩
  · intro ordered scheduled
    cases opener with
    | connect =>
        rw [attempt_connect] at found
        simp [Connection.setPhase, found, ConnectTask.setPhase] at scheduled
    | reconnect =>
        obtain ⟨count, task⟩ := attempt_reconnect.mp found
        rcases ordered scheduled with idle | waits
        · cases idle.symm.trans task
        · cases waits.symm.trans task

/-- A task of an opener ends. -/
theorem returnOpen (leaves : opener = .reconnect → connection.NotRestoring) :
    Steady connection (connection.returnOpen opener) := by
  refine ⟨rfl, rfl, fun _ => id, id, fun restoring => ⟨restoring, ?_⟩, ?_, ?_⟩
  · intro attempt found phase
    cases opener with
    | connect => exact found
    | reconnect => exact (leaves rfl restoring attempt found phase).elim
  · intro second attempt found
    cases opener with
    | connect =>
        cases second with
        | connect => cases found
        | reconnect => exact ⟨attempt, found, rfl, id, id⟩
    | reconnect =>
        cases second with
        | connect => exact ⟨attempt, found, rfl, id, id⟩
        | reconnect => cases found
  · intro ordered scheduled
    cases opener with
    | connect => cases scheduled
    | reconnect => exact Or.inl rfl

theorem failOpen (found : connection.attempt opener = some attempt)
    (leaves : opener = .reconnect → connection.NotRestoring) (transport : Nat)
    (error : OpenError) : Steady connection (connection.failOpen opener transport error) := by
  let released : Connection := { connection with
    transport := if connection.transport = some transport then none else connection.transport }
  have releases : Steady connection released := by
    refine of_tasks rfl rfl (fun current held => ?_) id id rfl rfl
    simp only [released] at held
    split_ifs at held
    exact held
  have foundClosed : (released.closeTransport transport).attempt opener = some attempt := found
  have cleans : Steady (released.closeTransport transport)
      (connection.failOpen opener transport error) := setPhase foundClosed nofun nofun leaves
  exact (releases.trans (closeTransport _ _)).trans cleans

/-- The reconnect loop leaves its attempt, or goes on without one. -/
theorem of_reconnectTask (generation : next.generation = connection.generation)
    (transports : next.transports.length = connection.transports.length)
    (transport : next.transport = connection.transport)
    (authenticated : next.state = .authenticated → connection.state = .authenticated)
    (restoring : next.restoring = connection.restoring)
    (connectTask : next.connectTask = connection.connectTask)
    (without : next.attempt .reconnect = none) (leaves : connection.NotRestoring)
    (unscheduled : connection.connectTask ≠ .scheduled) : Steady connection next := by
  refine ⟨generation, transports, fun current held => ?_, authenticated, fun restores => ?_,
    fun opener attempt found => ?_, fun _ scheduled => ?_⟩
  · rwa [← transport]
  · rw [restoring] at restores
    exact ⟨restores, fun attempt found phase => (leaves restores attempt found phase).elim⟩
  · cases opener with
    | connect =>
        refine ⟨attempt, ?_, rfl, id, id⟩
        simpa [Connection.attempt, connectTask] using found
    | reconnect => cases without.symm.trans found
  · exact (unscheduled (connectTask.symm.trans scheduled)).elim

theorem nextAttempt (leaves : connection.NotRestoring)
    (unscheduled : connection.connectTask ≠ .scheduled) (count : Nat) :
    Steady connection (connection.nextAttempt count) := by
  have authenticated : ∀ state ≠ ConnectionState.authenticated,
      (connection.setState state).state = .authenticated → connection.state = .authenticated :=
    fun _ other => (setState connection other).authenticated
  unfold Connection.nextAttempt
  split_ifs
  · exact of_reconnectTask rfl rfl rfl id rfl rfl rfl leaves unscheduled
  · exact of_reconnectTask rfl rfl rfl (authenticated .reconnecting nofun) rfl rfl rfl leaves
      unscheduled
  · refine of_reconnectTask rfl rfl rfl (authenticated .disconnected nofun) rfl rfl ?_ leaves
      unscheduled
    simp only [giveUp, Connection.attempt]
    split_ifs <;> rfl

theorem exceptAttempt (leaves : connection.NotRestoring)
    (unscheduled : connection.connectTask ≠ .scheduled) (count : Nat) (error : OpenError) :
    Steady connection (connection.exceptAttempt count error) := by
  cases error with
  | cancelled => exact of_reconnectTask rfl rfl rfl id rfl rfl rfl leaves unscheduled
  | authentication =>
      refine of_reconnectTask rfl rfl rfl (fun reached => ?_) rfl rfl rfl leaves unscheduled
      simp [Connection.exceptAttempt, Connection.setState] at reached
  | versionMismatch =>
      refine of_reconnectTask rfl rfl rfl
        (setState connection (nofun : ConnectionState.disconnected ≠ .authenticated)).authenticated
        rfl rfl ?_ leaves unscheduled
      simp only [Connection.exceptAttempt, giveUp, Connection.attempt]
      split_ifs <;> rfl
  | other => exact nextAttempt leaves unscheduled count

theorem raiseOpen (found : connection.attempt opener = some attempt)
    (ordered : connection.ConnectFirst)
    (leaves : opener = .reconnect → connection.NotRestoring) (error : OpenError) :
    Steady connection (connection.raiseOpen opener error) := by
  cases opener with
  | connect => exact returnOpen leaves
  | reconnect =>
      obtain ⟨count, task⟩ := attempt_reconnect.mp found
      have unscheduled : connection.connectTask ≠ .scheduled := by
        intro scheduled
        rcases ordered scheduled with idle | waits
        · cases idle.symm.trans task
        · cases waits.symm.trans task
      simp only [Connection.raiseOpen, task]
      exact exceptAttempt (leaves rfl) unscheduled count error

theorem concludeOpen (found : connection.attempt opener = some attempt)
    (ordered : connection.ConnectFirst)
    (leaves : opener = .reconnect → connection.NotRestoring) (error : OpenError) :
    Steady connection (connection.concludeOpen opener error) := by
  unfold Connection.concludeOpen
  split_ifs
  · have foundClosed : { connection with closed := true }.attempt opener = some attempt := found
    have closes : Steady connection { connection with closed := true } :=
      of_tasks rfl rfl (fun _ => id) id id rfl rfl
    have rejects : Steady { connection with closed := true }
        ({ connection with closed := true }.setPhase opener .rejecting) :=
      setPhase foundClosed nofun nofun leaves
    exact closes.trans rejects
  · exact raiseOpen found ordered leaves error
  · have lost : Steady connection (connection.setState .disconnected) := setState connection nofun
    have foundLost : (connection.setState .disconnected).attempt opener = some attempt := found
    exact lost.trans (raiseOpen foundLost ordered leaves error)

end Steady

/-- A task that had no attempt opens a transport. -/
structure Opens (opener : Opener) (before after : Connection) : Prop where
  generation : after.generation = before.generation
  transports : after.transports.length = before.transports.length + 1
  transport : after.transport = some before.transports.length
  state : after.state ≠ .authenticated
  restoring : after.restoring = before.restoring
  scheduled : opener = .connect → before.connectTask = .scheduled
  rests : before.attempt opener = none
  attempt : after.attempt opener = some { transport := before.transports.length }
  others : ∀ second ≠ opener, after.attempt second = before.attempt second
  connectFirst : before.ConnectFirst → after.ConnectFirst

/-- An attempt finds its transport accepted and begins a generation. -/
structure Establishes (opener : Opener) (attempt : OpenAttempt) (before after : Connection) :
    Prop where
  found : before.attempt opener = some attempt
  greets : attempt.phase.greeting = true
  transport : before.transport = some attempt.transport
  generation : after.generation = before.generation + 1
  transports : after.transports.length = before.transports.length
  kept : ∀ transport, after.transport = some transport → before.transport = some transport
  own : ∀ later, after.attempt opener = some later →
    later.transport = attempt.transport ∧ later.phase.greeting = false
  others : ∀ second ≠ opener, after.attempt second = before.attempt second
  restoring : after.restoring = true → before.restoring = true ∨
    opener = .reconnect ∧ ∃ later, after.attempt .reconnect = some later ∧
      later.phase = .restoring
  connectFirst : before.ConnectFirst → after.ConnectFirst

/-- An attempt has restored the registrations. -/
structure Declares (opener : Opener) (attempt : OpenAttempt) (before after : Connection) :
    Prop where
  found : before.attempt opener = some attempt
  phase : attempt.phase = .restoring
  transport : before.transport = some attempt.transport
  steady : Steady { before with restoring := false }.authenticate after

inductive SessionStep (before after : Connection) : Prop
  | steady (steady : Steady before after)
  | opens (opener : Opener) (opens : Opens opener before after)
  | establishes (opener : Opener) (attempt : OpenAttempt)
      (establishes : Establishes opener attempt before after)
  | declares (opener : Opener) (attempt : OpenAttempt)
      (declares : Declares opener attempt before after)

/-- An attempt that is elsewhere than in its restoration. -/
theorem notRestoring_of_attempt (found : connection.attempt .reconnect = some attempt)
    (elsewhere : attempt.phase ≠ .restoring) : connection.NotRestoring := by
  intro _ other foundOther
  rwa [← Option.some.inj (found.symm.trans foundOther)]

theorem notRestoring_of_idle (rests : connection.attempt .reconnect = none) :
    connection.NotRestoring := by
  intro _ other foundOther
  cases rests.symm.trans foundOther

theorem Steady.startHeartbeat (found : connection.attempt opener = some attempt)
    (leaves : opener = .reconnect → connection.NotRestoring) :
    Steady connection (connection.startHeartbeat opener) := by
  unfold Connection.startHeartbeat
  split_ifs
  · split
    · have begun : Steady connection connection.newHeartbeat :=
        of_tasks rfl rfl (fun _ => id) id id rfl rfl
      have leavesAfter : opener = .reconnect → connection.newHeartbeat.NotRestoring := leaves
      exact begun.trans (returnOpen leavesAfter)
    · next previous _ =>
      have foundAfter : (connection.setHandler (.heartbeat previous) none).attempt opener =
          some attempt := found
      have waits : Steady (connection.setHandler (.heartbeat previous) none)
          ((connection.setHandler (.heartbeat previous) none).setPhase opener
            .restartingHeartbeat) := setPhase foundAfter nofun nofun leaves
      exact (setHandler _ _ _).trans waits
  · exact returnOpen leaves

theorem attempt_startHeartbeat (found : connection.attempt opener = some attempt)
    {later : OpenAttempt}
    (after : (connection.startHeartbeat opener).attempt opener = some later) :
    later = { attempt with phase := .restartingHeartbeat } := by
  have returned : ∀ current : Connection, (current.returnOpen opener).attempt opener = none := by
    intro current
    cases opener <;> rfl
  unfold startHeartbeat at after
  split_ifs at after
  · split at after
    · cases (returned _).symm.trans after
    · next previous _ =>
      have foundAfter : (connection.setHandler (.heartbeat previous) none).attempt opener =
          some attempt := found
      exact Option.some.inj (after.symm.trans (attempt_setPhase foundAfter _))
  · cases (returned _).symm.trans after

theorem attempt_startHeartbeat_of_ne {second : Opener} (apart : second ≠ opener) :
    (connection.startHeartbeat opener).attempt second = connection.attempt second := by
  have returned : ∀ current : Connection,
      (current.returnOpen opener).attempt second = current.attempt second := by
    intro current
    cases opener <;> cases second <;> first | rfl | exact (apart rfl).elim
  unfold startHeartbeat
  split_ifs
  · split
    · exact returned _
    · cases opener <;> cases second <;> first | rfl | exact (apart rfl).elim
  · exact returned _

theorem ne_restoring_of_greeting (greets : attempt.phase.greeting = true) :
    attempt.phase ≠ .restoring := by
  intro phase
  simp [phase, OpenPhase.greeting] at greets

theorem leaves_of_attempt (found : connection.attempt opener = some attempt)
    (elsewhere : attempt.phase ≠ .restoring) :
    opener = .reconnect → connection.NotRestoring := by
  rintro rfl
  exact notRestoring_of_attempt found elsewhere

theorem sessionStep_resumeAuth (found : connection.attempt opener = some attempt)
    (greets : attempt.phase.greeting = true) :
    SessionStep connection (connection.resumeAuth opener attempt.transport) := by
  have leaves := leaves_of_attempt found (ne_restoring_of_greeting greets)
  have foundCleared : { connection with authError := none }.attempt opener = some attempt := found
  unfold resumeAuth
  split
  · exact .steady (.failOpen found leaves _ _)
  · exact .steady (.failOpen found leaves _ _)
  · split_ifs with owns
    · have owned := (ownsTransport_iff.mp owns).2.1
      let established : Connection :=
        { connection with authError := none, generation := connection.generation + 1 }
      cases opener with
      | connect =>
          have ownsAfter : established.ownsTransport attempt.transport = true := owns
          have foundAfter : established.authenticate.attempt .connect = some attempt := found
          have beats : Steady established.authenticate
              (established.authenticate.startHeartbeat .connect) :=
            .startHeartbeat foundAfter nofun
          simp only [declareAuthenticated]
          rw [if_pos ownsAfter]
          exact .establishes .connect attempt {
            found
            greets
            transport := owned
            generation := beats.generation
            transports := beats.transports
            kept := beats.transport
            own := fun later after => by
              rw [attempt_startHeartbeat foundAfter after]
              exact ⟨rfl, rfl⟩
            others := fun second apart => attempt_startHeartbeat_of_ne apart
            restoring := fun restores => Or.inl (beats.restoring restores).1
            connectFirst := beats.connectFirst }
      | reconnect =>
          have foundAfter : { established with restoring := true }.attempt .reconnect =
              some attempt := found
          have after := attempt_setPhase foundAfter .restoring
          refine .establishes .reconnect attempt {
            found
            greets
            transport := owned
            generation := rfl
            transports := rfl
            kept := fun _ => id
            own := fun later afterLater => ?_
            others := fun second apart => ?_
            restoring := fun _ => Or.inr ⟨rfl, _, after, rfl⟩
            connectFirst := fun ordered scheduled => ?_ }
          · rw [← Option.some.inj (after.symm.trans afterLater)]
            exact ⟨rfl, rfl⟩
          · cases second with
            | connect => rfl
            | reconnect => exact (apart rfl).elim
          · obtain ⟨count, task⟩ := attempt_reconnect.mp found
            rcases ordered scheduled with idle | waits
            · cases idle.symm.trans task
            · cases waits.symm.trans task
    · have clears : Steady connection { connection with authError := none } :=
        .of_tasks rfl rfl (fun _ => id) id id rfl rfl
      exact .steady (clears.trans (.failOpen foundCleared leaves _ _))

theorem sessionStep_declareAuthenticated (found : connection.attempt opener = some attempt)
    (phase : attempt.phase = .restoring) :
    SessionStep connection
      ({ connection with restoring := false }.declareAuthenticated opener attempt.transport) := by
  have leaves : opener = .reconnect → { connection with restoring := false }.NotRestoring :=
    fun _ restores => nomatch restores
  have ends : Steady connection { connection with restoring := false } :=
    .of_tasks rfl rfl (fun _ => id) id nofun rfl rfl
  have foundAfter : { connection with restoring := false }.attempt opener = some attempt := found
  unfold declareAuthenticated
  split_ifs with owns
  · have foundLater : { connection with restoring := false }.authenticate.attempt opener =
        some attempt := found
    exact .declares opener attempt {
      found
      phase
      transport := (ownsTransport_iff.mp owns).2.1
      steady := .startHeartbeat foundLater leaves }
  · exact .steady (ends.trans (.failOpen foundAfter leaves _ _))

theorem sessionStep_of_resumeOpen (ordered : connection.ConnectFirst)
    (resumed : connection.resumeOpen opener = some next) : SessionStep connection next := by
  unfold resumeOpen at resumed
  split at resumed
  · cases resumed
  · next attempt found =>
    split at resumed
    · next phase =>
      obtain rfl := Option.some.inj resumed
      have leaves := leaves_of_attempt found (by rw [phase]; nofun)
      have receives : Steady connection (connection.startReceiving attempt.transport) := by
        have connects : Steady connection (connection.setState .connected) :=
          .setState _ nofun
        have greets : Steady (connection.setState .connected)
            ((connection.setState .connected).setState .authenticating) := .setState _ nofun
        exact (connects.trans greets).trans
          (.of_tasks rfl (List.length_modify _ _ _) (fun _ => id) id id rfl rfl)
      have foundAfter : (connection.startReceiving attempt.transport).attempt opener =
          some attempt := found
      exact .steady (receives.trans
        (.setPhase foundAfter (fun _ => by rw [phase]; rfl) nofun leaves))
    · next phase =>
      have greets : attempt.phase.greeting = true := by rw [phase]; rfl
      have leaves := leaves_of_attempt found (ne_restoring_of_greeting greets)
      split at resumed <;> obtain rfl := Option.some.inj resumed
      · unfold awaitAuth
        split
        · exact sessionStep_resumeAuth found greets
        · exact .steady (.failOpen found leaves _ _)
        · exact .steady (.setPhase found (fun _ => greets) nofun leaves)
      · exact .steady (.failOpen found leaves _ _)
    · next future phase =>
      have greets : attempt.phase.greeting = true := by rw [phase]; rfl
      have leaves := leaves_of_attempt found (ne_restoring_of_greeting greets)
      split at resumed
      · obtain rfl := Option.some.inj resumed
        exact sessionStep_resumeAuth found greets
      · obtain rfl := Option.some.inj resumed
        exact .steady (.failOpen found leaves _ _)
      · cases resumed
    · next phase =>
      obtain rfl := Option.some.inj resumed
      exact sessionStep_declareAuthenticated found phase
    · next phase =>
      obtain rfl := Option.some.inj resumed
      have leaves := leaves_of_attempt found (by rw [phase]; nofun)
      have begun : Steady connection connection.newHeartbeat :=
        .of_tasks rfl rfl (fun _ => id) id id rfl rfl
      have leavesAfter : opener = .reconnect → connection.newHeartbeat.NotRestoring := leaves
      exact .steady (begun.trans (.returnOpen leavesAfter))
    · next error phase =>
      have leaves := leaves_of_attempt found (by rw [phase]; nofun)
      split_ifs at resumed <;> obtain rfl := Option.some.inj resumed
      · exact .steady (.concludeOpen found ordered leaves error)
      · have foundAfter : (connection.cancelReceiver attempt.transport).attempt opener =
            some attempt := found
        have waits : Steady (connection.cancelReceiver attempt.transport)
            ((connection.cancelReceiver attempt.transport).setPhase opener (.gathering error)) :=
          .setPhase foundAfter nofun nofun leaves
        exact .steady ((Steady.cancelReceiver _ _).trans waits)
    · next error phase =>
      obtain rfl := Option.some.inj resumed
      have leaves := leaves_of_attempt found (by rw [phase]; nofun)
      exact .steady (.concludeOpen found ordered leaves error)
    · next phase =>
      obtain rfl := Option.some.inj resumed
      have leaves := leaves_of_attempt found (by rw [phase]; nofun)
      have ends : Steady connection (connection.setState .closed) := .setState _ nofun
      have foundAfter : (connection.setState .closed).attempt opener = some attempt := found
      exact .steady (ends.trans (.raiseOpen foundAfter ordered leaves _))

theorem Steady.raiseInOpen {error : OpenError}
    (raised : connection.raiseInOpen opener error = some next) : Steady connection next := by
  unfold Connection.raiseInOpen at raised
  split at raised
  · cases raised
  · next attempt found =>
    split at raised
    case h_4 phase =>
      split_ifs at raised
      obtain rfl := Option.some.inj raised
      have ends : Steady connection { connection with restoring := false } :=
        of_tasks rfl rfl (fun _ => id) id nofun rfl rfl
      have foundAfter : { connection with restoring := false }.attempt opener = some attempt :=
        found
      exact ends.trans (failOpen foundAfter (fun _ restores => nomatch restores) _ _)
    case h_1 phase | h_2 phase | h_3 phase =>
      obtain rfl := Option.some.inj raised
      exact failOpen found (leaves_of_attempt found (by rw [phase]; nofun)) _ _
    case h_5 phase =>
      split_ifs at raised
      obtain rfl := Option.some.inj raised
      exact failOpen found (leaves_of_attempt found (by rw [phase]; nofun)) _ _
    all_goals
      next phase =>
      split_ifs at raised
      obtain rfl := Option.some.inj raised
      exact returnOpen (leaves_of_attempt found (by rw [phase]; nofun))

theorem Steady.cancelOpen (connection : Connection) (opener : Opener) :
    Steady connection (connection.cancelOpen opener) := by
  unfold Connection.cancelOpen
  cases raised : connection.raiseInOpen opener .cancelled with
  | none => exact refl _
  | some next => exact raiseInOpen raised

theorem Steady.endReconnect (rests : connection.attempt .reconnect = none) :
    Steady connection { connection with reconnectTask := .idle } := by
  refine ⟨rfl, rfl, fun _ => id, id, fun restores => ⟨restores, fun attempt found => ?_⟩, ?_,
    fun _ _ => Or.inl rfl⟩
  · cases rests.symm.trans found
  · intro opener attempt found
    cases opener with
    | connect => exact ⟨attempt, found, rfl, id, id⟩
    | reconnect => cases found

theorem Steady.cancelReconnect (connection : Connection) :
    Steady connection connection.cancelReconnect := by
  unfold Connection.cancelReconnect
  split
  · exact cancelOpen _ _
  · next other =>
    refine endReconnect ?_
    cases task : connection.reconnectTask with
    | opening count attempt => exact (other count attempt task).elim
    | _ => simp [Connection.attempt, task, ReconnectTask.attempt]

theorem Steady.cancelBackground (connection : Connection) :
    Steady connection connection.cancelBackground := by
  have ended (later : Connection) : Steady later { later with lossTask := .idle } :=
    of_tasks rfl rfl (fun _ => id) id id rfl rfl
  unfold Connection.cancelBackground
  cases connection.heartbeatTask with
  | none =>
      dsimp only
      cases connection.receiveTask with
      | none => exact ended connection
      | some transport => exact (cancelReceiver connection transport).trans (ended _)
  | some heartbeat =>
      have stopped := setHandler connection (.heartbeat heartbeat) none
      dsimp only
      split
      · exact (stopped.trans (cancelReceiver _ _)).trans (ended _)
      · exact stopped.trans (ended _)

theorem Steady.closeTasks (connection : Connection) :
    Steady connection connection.closeTasks := by
  have cancels : Steady connection
      ((connection.cancelOpen .connect).cancelReconnect.cancelBackground) :=
    ((cancelOpen _ _).trans (cancelReconnect _)).trans (cancelBackground _)
  refine cancels.trans ?_
  unfold Connection.closeTasks
  dsimp only
  split
  · next transport _ =>
    exact (closeTransport _ transport).trans (of_tasks rfl rfl nofun id id rfl rfl)
  · exact of_tasks rfl rfl (fun _ => id) id id rfl rfl

theorem Steady.connect (connection : Connection) : Steady connection connection.connect := by
  unfold Connection.connect
  split_ifs with refused idle
  · exact refl _
  · have reconnectIdle : connection.reconnectTask = .idle := by
      by_contra other
      exact refused (Or.inr (Or.inr other))
    refine ⟨rfl, rfl, fun _ => id, id, fun restores => ⟨restores, fun _ found _ => found⟩, ?_,
      fun _ _ => Or.inl reconnectIdle⟩
    intro opener attempt found
    cases opener with
    | connect => cases found
    | reconnect => exact ⟨attempt, found, rfl, id, id⟩
  · exact refl _

theorem Steady.close (connection : Connection) : Steady connection connection.close := by
  unfold Connection.close
  split_ifs
  · exact refl _
  · have closes : Steady connection { connection with closed := true } :=
      of_tasks rfl rfl (fun _ => id) id id rfl rfl
    have ends : Steady { connection with closed := true }
        ({ connection with closed := true }.setState .closed) := setState _ nofun
    exact (closes.trans ends).trans (of_tasks rfl rfl (fun _ => id) id id rfl rfl)

theorem Steady.resolveAuth (connection : Connection) (outcome : AuthFuture) :
    Steady connection (connection.resolveAuth outcome) :=
  of_tasks rfl rfl (fun _ => id) id id rfl rfl

theorem opens_startConnect (usable : connection.closed = false)
    (scheduled : connection.connectTask = .scheduled) :
    Opens .connect connection { connection.openTransport .connecting with
      connectTask := .opening { transport := connection.transports.length } } where
  generation := rfl
  transports := by simp [openTransport, setState]
  transport := rfl
  state := by simp [openTransport, setState, noteStart, usable]
  restoring := rfl
  scheduled _ := scheduled
  rests := by simp [attempt, scheduled, ConnectTask.attempt]
  attempt := rfl
  others second apart := by
    cases second with
    | connect => exact (apart rfl).elim
    | reconnect => rfl
  connectFirst _ again := nomatch again

theorem opens_wakeReconnect {count : Nat} (usable : connection.closed = false)
    (task : connection.reconnectTask = .sleeping count) :
    Opens .reconnect connection { connection.openTransport .reconnecting with
      reconnectTask := .opening count { transport := connection.transports.length } } where
  generation := rfl
  transports := by simp [openTransport, setState]
  transport := rfl
  state := by simp [openTransport, setState, noteStart, usable]
  restoring := rfl
  scheduled := nofun
  rests := by simp [attempt, task, ReconnectTask.attempt]
  attempt := rfl
  others second apart := by
    cases second with
    | connect => rfl
    | reconnect => exact (apart rfl).elim
  connectFirst ordered scheduled := by
    rcases ordered scheduled with idle | waits
    · cases idle.symm.trans task
    · cases waits.symm.trans task

theorem sessionStep_of_step {action : ConnectionAction} (ordered : connection.ConnectFirst)
    (stepped : connection.step action = some next) : SessionStep connection next := by
  cases action with
  | connect =>
      obtain rfl := Option.some.inj stepped
      exact .steady (.connect _)
  | startConnect raised =>
      simp only [step] at stepped
      split_ifs at stepped with scheduled refused <;> obtain rfl := Option.some.inj stepped
      · refine .steady ⟨rfl, rfl, fun _ => id, id,
          fun restores => ⟨restores, fun _ found _ => found⟩, ?_, fun _ again => nomatch again⟩
        intro opener attempt found
        cases opener with
        | connect => cases found
        | reconnect => exact ⟨attempt, found, rfl, id, id⟩
      · refine .opens .connect (opens_startConnect ?_ scheduled)
        simpa using fun closed => refused (Or.inl closed)
  | startReconnect =>
      simp only [step] at stepped
      split_ifs at stepped with scheduled
      obtain rfl := Option.some.inj stepped
      exact .steady (.nextAttempt (notRestoring_of_idle
        (by simp [attempt, scheduled.1, ReconnectTask.attempt])) scheduled.2 0)
  | wakeReconnect raised =>
      simp only [step] at stepped
      split at stepped
      · next count task =>
        have rests : connection.attempt .reconnect = none := by
          simp [attempt, task, ReconnectTask.attempt]
        have unscheduled : connection.connectTask ≠ .scheduled := by
          intro scheduled
          rcases ordered scheduled with idle | waits
          · cases idle.symm.trans task
          · cases waits.symm.trans task
        split_ifs at stepped with closed
        · obtain rfl := Option.some.inj stepped
          exact .steady (.endReconnect rests)
        · split at stepped <;> obtain rfl := Option.some.inj stepped
          · exact .steady (.exceptAttempt (notRestoring_of_idle rests) unscheduled count _)
          · exact .opens .reconnect (opens_wakeReconnect (by simpa using closed) task)
      · cases stepped
  | resumeOpen opener => exact sessionStep_of_resumeOpen ordered stepped
  | raiseInOpen opener error => exact .steady (.raiseInOpen stepped)
  | notifiedClose =>
      simp only [step] at stepped
      split_ifs at stepped with notifies
      obtain rfl := Option.some.inj stepped
      exact .steady (.endReconnect (by simp [attempt, notifies, ReconnectTask.attempt]))
  | receiveHello transport =>
      simp only [step, receiveHello] at stepped
      split_ifs at stepped
      obtain rfl := Option.some.inj stepped
      exact .steady (.resolveAuth _ _)
  | raiseInReceiver transport error =>
      simp only [step, raiseInReceiver] at stepped
      split_ifs at stepped <;> obtain rfl := Option.some.inj stepped
      · exact .steady (.setHandler _ _ _)
      · exact .steady ((Steady.resolveAuth _ _).trans (.setHandler _ _ _))
      · exact .steady (.connectionLost _ _)
      · exact .steady (.setHandler _ _ _)
  | returnReceiver transport =>
      simp only [step, returnReceiver] at stepped
      split_ifs at stepped
      obtain rfl := Option.some.inj stepped
      exact .steady (.setHandler _ _ _)
  | stepHeartbeat heartbeat fails =>
      simp only [step, stepHeartbeat] at stepped
      split_ifs at stepped <;> obtain rfl := Option.some.inj stepped
      · exact .steady (.connectionLost _ _)
      · exact .steady (.setHandler _ _ _)
  | scheduleLoss =>
      simp only [step] at stepped
      split_ifs at stepped
      obtain rfl := Option.some.inj stepped
      exact .steady (.of_tasks rfl rfl (fun _ => id) id id rfl rfl)
  | startLoss =>
      simp only [step] at stepped
      split_ifs at stepped
      obtain rfl := Option.some.inj stepped
      exact .steady (.connectionLost _ _)
  | resumeHandler origin =>
      simp only [step, resumeHandler] at stepped
      split at stepped
      · cases stepped
      · obtain rfl := Option.some.inj stepped
        exact .steady (.closeLost _ _ _)
      · obtain rfl := Option.some.inj stepped
        exact .steady (.setHandler _ _ _)
      · obtain rfl := Option.some.inj stepped
        exact .steady ((Steady.setHandler _ _ _).trans (.startReconnect _))
  | cancelHandler origin =>
      obtain ⟨-, rfl⟩ := cancelHandler_eq_some stepped
      exact .steady (.setHandler _ _ _)
  | close =>
      obtain rfl := Option.some.inj stepped
      exact .steady (.close _)
  | closeTasks =>
      simp only [step] at stepped
      split_ifs at stepped
      obtain rfl := Option.some.inj stepped
      exact .steady (.closeTasks _)

end Connection

end FitzClient
