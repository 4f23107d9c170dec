import FitzClient.LabelledSystem
import Mathlib.Data.List.Basic

/-!
# The connection lifecycle

A connection opens a transport in two ways: `connect` starts one task that
runs `_open_and_authenticate`, and after a loss a reconnect loop runs it again
and again.  Losses are handled by `_connection_lost`, which runs inside the
receive loop, inside the heartbeat loop, or in a task of its own when a
request fails.

Every coroutine is a state machine over its awaits, and one transition is what
a task does between two of them.  What the environment decides, such as an
exception of the transport factory, a received HELLO or a failing heartbeat,
is part of the action.  A cancelled receive loop or heartbeat ends at the
await it is suspended at, in the middle of its loss handler if it runs one.

The effects on the gate and the multiplexer are those of `RequestAdmission`.
`gaveUp` and `startedAuthenticated` are history.
-/

namespace FitzClient

inductive ConnectionState
  | disconnected
  | connecting
  | connected
  | authenticating
  | authenticated
  | reconnecting
  | closed
  deriving DecidableEq, Repr

structure ConnectionConfig where
  heartbeatEnabled : Bool := true
  reconnectEnabled : Bool := true
  maxAttempts : Option Nat := none
  deriving DecidableEq, Repr

/-- Exceptions of an attempt: `AuthenticationError`, a `ProtocolError` with
code 50, `CancelledError`, or any other. -/
inductive OpenError
  | authentication
  | versionMismatch
  | cancelled
  | other
  deriving DecidableEq, Repr

/-- The await at which `_connection_lost` is suspended; while it gathers the
receive task it keeps the transport it took. -/
inductive HandlerPhase
  | gathering (taken : Option Nat)
  | closing
  | notifying
  deriving DecidableEq, Repr

/-- A receive loop or a heartbeat loop. -/
inductive BackgroundTask
  | running
  | handling (phase : HandlerPhase)
  | done
  deriving DecidableEq, Repr

/-- Where the loss handler in this task is suspended, if it runs one. -/
def BackgroundTask.phase? : BackgroundTask → Option HandlerPhase
  | .handling phase => some phase
  | .running | .done => none

/-- `_loss_task` -/
inductive LossTask
  | idle
  | scheduled
  | handling (phase : HandlerPhase)
  deriving DecidableEq, Repr

def LossTask.phase? : LossTask → Option HandlerPhase
  | .handling phase => some phase
  | .idle | .scheduled => none

/-- A transport of the factory: whether `close()` was called on it, and its
receive loop. -/
structure TransportCell where
  closed : Bool := false
  receiver : Option BackgroundTask := none
  deriving DecidableEq, Repr

/-- The await at which `_open_and_authenticate` is suspended. -/
inductive OpenPhase
  | connecting
  | sendingConnect
  | awaitingAuth (future : Nat)
  | restoring
  | restartingHeartbeat
  | closing (error : OpenError)
  | gathering (error : OpenError)
  | rejecting
  deriving DecidableEq, Repr

structure OpenAttempt where
  transport : Nat
  phase : OpenPhase := .connecting
  deriving DecidableEq, Repr

/-- `_connect_task`; a finished task is as good as none. -/
inductive ConnectTask
  | idle
  | scheduled
  | opening (attempt : OpenAttempt)
  deriving DecidableEq, Repr

def ConnectTask.attempt : ConnectTask → Option OpenAttempt
  | .opening attempt => some attempt
  | .idle | .scheduled => none

def ConnectTask.setPhase (phase : OpenPhase) : ConnectTask → ConnectTask
  | .opening attempt => .opening { attempt with phase }
  | task => task

/-- `_reconnect_task` with the number of the attempt it is at. -/
inductive ReconnectTask
  | idle
  | scheduled
  | sleeping (count : Nat)
  | opening (count : Nat) (attempt : OpenAttempt)
  | notifyingClose
  deriving DecidableEq, Repr

def ReconnectTask.attempt : ReconnectTask → Option OpenAttempt
  | .opening _ attempt => some attempt
  | _ => none

def ReconnectTask.setPhase (phase : OpenPhase) : ReconnectTask → ReconnectTask
  | .opening count attempt => .opening count { attempt with phase }
  | task => task

/-- The future `_auth_error`. -/
inductive AuthFuture
  | pending
  | accepted
  | failed (error : OpenError)
  deriving DecidableEq, Repr

/-- The two tasks that run `_open_and_authenticate`. -/
inductive Opener
  | connect
  | reconnect
  deriving DecidableEq, Repr

/-- The tasks that run `_connection_lost`. -/
inductive LossOrigin
  | receiver (transport : Nat)
  | heartbeat (heartbeat : Nat)
  | lossTask
  deriving DecidableEq, Repr

structure Connection where
  config : ConnectionConfig
  state : ConnectionState := .disconnected
  transport : Option Nat := none
  transports : List TransportCell := []
  authFutures : List AuthFuture := []
  authError : Option Nat := none
  receiveTask : Option Nat := none
  heartbeats : List BackgroundTask := []
  heartbeatTask : Option Nat := none
  reconnectTask : ReconnectTask := .idle
  lossTask : LossTask := .idle
  connectTask : ConnectTask := .idle
  closeStarted : Bool := false
  closed : Bool := false
  everAuthenticated : Bool := false
  restoring : Bool := false
  closeNotified : Bool := false
  generation : Nat := 0
  gaveUp : Bool := false
  startedAuthenticated : Bool := false
  deriving DecidableEq

namespace Connection

/-- `_set_state` -/
def setState (connection : Connection) (state : ConnectionState) : Connection :=
  { connection with
    state := if connection.closed ∧ state ≠ .closed then connection.state else state }

/-- The receive loop of a transport. -/
def receiver (connection : Connection) (transport : Nat) : Option BackgroundTask :=
  connection.transports[transport]?.bind (·.receiver)

/-- `await transport.close()`, up to the await. -/
def closeTransport (connection : Connection) (transport : Nat) : Connection :=
  { connection with
    transports := connection.transports.modify transport fun cell =>
      { cell with closed := true } }

/-- `receive_task.cancel()` -/
def cancelReceiver (connection : Connection) (transport : Nat) : Connection :=
  { connection with
    transports := connection.transports.modify transport fun cell =>
      { cell with receiver := cell.receiver.map fun _ => .done } }

/-- Where the loss handler in this task is suspended, if it runs one. -/
def handlerPhase (connection : Connection) : LossOrigin → Option HandlerPhase
  | .receiver transport => (connection.receiver transport).bind (·.phase?)
  | .heartbeat heartbeat => connection.heartbeats[heartbeat]?.bind (·.phase?)
  | .lossTask => connection.lossTask.phase?

/-- Suspend the handler in this task, or end the task. -/
def setHandler (connection : Connection) (origin : LossOrigin) (phase : Option HandlerPhase) :
    Connection :=
  { connection with
    transports := match origin with
      | .receiver transport => connection.transports.modify transport fun cell =>
          { cell with receiver := some ((phase.map .handling).getD .done) }
      | _ => connection.transports
    heartbeats := match origin with
      | .heartbeat heartbeat => connection.heartbeats.modify heartbeat fun _ =>
          (phase.map .handling).getD .done
      | _ => connection.heartbeats
    lossTask := match origin with
      | .lossTask => (phase.map .handling).getD .idle
      | _ => connection.lossTask }

/-- `_connection_lost` from the point where the receive task is gone. -/
def closeLost (connection : Connection) (origin : LossOrigin) (taken : Option Nat) :
    Connection :=
  match taken with
  | some transport =>
      (connection.closeTransport transport).setHandler origin (some .closing)
  | none => connection.setHandler origin (some .notifying)

/-- `_connection_lost` takes the transport. -/
def loseTransport (connection : Connection) : Connection :=
  { connection.setState .disconnected with transport := none }

/-- `_connection_lost` up to its first `await`. -/
def connectionLost (connection : Connection) (origin : LossOrigin) : Connection :=
  if connection.state = .disconnected ∨ connection.state = .reconnecting ∨
      connection.state = .closed then
    connection.setHandler origin none
  else
    match connection.receiveTask with
    | some receiver =>
        if origin = .receiver receiver then
          connection.loseTransport.closeLost origin connection.transport
        else
          (connection.loseTransport.cancelReceiver receiver).setHandler origin
            (some (.gathering connection.transport))
    | none => connection.loseTransport.closeLost origin connection.transport

/-- The tail of `_connection_lost`. -/
def startReconnect (connection : Connection) : Connection :=
  if !connection.everAuthenticated || !connection.config.reconnectEnabled ||
      connection.closed then
    connection
  else if connection.reconnectTask = .idle then
    { connection with reconnectTask := .scheduled }
  else
    connection

/-- A `CancelledError` comes out of what the loss handler awaits: it ends
without its tail. -/
def cancelHandler (connection : Connection) (origin : LossOrigin) : Option Connection :=
  match connection.handlerPhase origin with
  | some .closing | some .notifying => some (connection.setHandler origin none)
  | _ => none

/-- A suspended loss handler runs again. -/
def resumeHandler (connection : Connection) (origin : LossOrigin) : Option Connection :=
  match connection.handlerPhase origin with
  | none => none
  | some (.gathering taken) => some (connection.closeLost origin taken)
  | some .closing => some (connection.setHandler origin (some .notifying))
  | some .notifying => some (connection.setHandler origin none).startReconnect

def attempt (connection : Connection) : Opener → Option OpenAttempt
  | .connect => connection.connectTask.attempt
  | .reconnect => connection.reconnectTask.attempt

/-- Suspend the attempt of this task at another await. -/
def setPhase (connection : Connection) (opener : Opener) (phase : OpenPhase) : Connection :=
  { connection with
    connectTask := match opener with
      | .connect => connection.connectTask.setPhase phase
      | .reconnect => connection.connectTask
    reconnectTask := match opener with
      | .connect => connection.reconnectTask
      | .reconnect => connection.reconnectTask.setPhase phase }

/-- Record an attempt that starts in an authenticated connection. -/
def noteStart (connection : Connection) : Connection :=
  { connection with
    startedAuthenticated :=
      connection.startedAuthenticated || connection.state = .authenticated }

/-- `_open_and_authenticate` up to `transport.connect()`; the new transport is
the last one. -/
def openTransport (connection : Connection) (state : ConnectionState) : Connection :=
  { connection.noteStart with
    transports := connection.transports ++ [({} : TransportCell)]
    transport := some connection.transports.length }.setState state

/-- `_reconnect_loop` gives up and notifies the close listeners. -/
def giveUp (connection : Connection) : Connection :=
  { connection.setState .disconnected with
    reconnectTask := if connection.closeNotified then .idle else .notifyingClose
    closeNotified := true
    gaveUp := true }

/-- The head of the `while` in `_reconnect_loop` after `count` attempts. -/
def nextAttempt (connection : Connection) (count : Nat) : Connection :=
  if connection.closed then
    { connection with reconnectTask := .idle }
  else if connection.config.maxAttempts.all (count < ·) then
    { connection.noteStart.setState .reconnecting with reconnectTask := .sleeping (count + 1) }
  else
    connection.giveUp

/-- `_open_and_authenticate` returns. -/
def returnOpen (connection : Connection) (opener : Opener) : Connection :=
  { connection with
    connectTask := match opener with
      | .connect => .idle
      | .reconnect => connection.connectTask
    reconnectTask := match opener with
      | .connect => connection.reconnectTask
      | .reconnect => .idle }

/-- The `except` clauses of `_reconnect_loop` in its attempt `count`. -/
def exceptAttempt (connection : Connection) (count : Nat) : OpenError → Connection
  | .cancelled => { connection with reconnectTask := .idle }
  | .authentication =>
      { { connection with closed := true }.setState .closed with reconnectTask := .idle }
  | .versionMismatch => connection.giveUp
  | .other => connection.nextAttempt count

/-- `_open_and_authenticate` raises: the connect task ends, and the reconnect
loop handles the exception. -/
def raiseOpen (connection : Connection) (opener : Opener) (error : OpenError) : Connection :=
  match opener with
  | .connect => { connection with connectTask := .idle }
  | .reconnect =>
      match connection.reconnectTask with
      | .opening count _ => connection.exceptAttempt count error
      | _ => connection

/-- The `except` block of `_open_and_authenticate` up to its first `await`. -/
def failOpen (connection : Connection) (opener : Opener) (transport : Nat)
    (error : OpenError) : Connection :=
  ({ connection with
    transport := if connection.transport = some transport then none else connection.transport
    }.closeTransport transport).setPhase opener (.closing error)

/-- The end of the `except` block. -/
def concludeOpen (connection : Connection) (opener : Opener) (error : OpenError) : Connection :=
  if error = .authentication then
    { connection with closed := true }.setPhase opener .rejecting
  else if connection.closed then
    connection.raiseOpen opener error
  else
    (connection.setState .disconnected).raiseOpen opener error

/-- `_assert_transport_owner` does not raise. -/
def ownsTransport (connection : Connection) (transport : Nat) : Bool :=
  !connection.closed && connection.transport == some transport &&
    connection.receiveTask == some transport &&
    connection.receiver transport != some .done && connection.state != .disconnected

/-- The rest of `_start_heartbeat` once the previous heartbeat is gone. -/
def newHeartbeat (connection : Connection) : Connection :=
  { connection with
    heartbeats := connection.heartbeats ++ [.running]
    heartbeatTask := some connection.heartbeats.length }

/-- The transport is connected: `_open_and_authenticate` creates the future and
the receive loop. -/
def startReceiving (connection : Connection) (transport : Nat) : Connection :=
  { (connection.setState .connected).setState .authenticating with
    authFutures := connection.authFutures ++ [AuthFuture.pending]
    authError := some connection.authFutures.length
    receiveTask := some transport
    transports := connection.transports.modify transport fun cell =>
      { cell with receiver := some .running } }

/-- `_start_heartbeat`, the last thing an attempt does. -/
def startHeartbeat (connection : Connection) (opener : Opener) : Connection :=
  if connection.config.heartbeatEnabled then
    match connection.heartbeatTask with
    | none => connection.newHeartbeat.returnOpen opener
    | some previous =>
        (connection.setHandler (.heartbeat previous) none).setPhase opener .restartingHeartbeat
  else
    connection.returnOpen opener

def authenticate (connection : Connection) : Connection :=
  { connection.setState .authenticated with everAuthenticated := true, gaveUp := false }

/-- `_open_and_authenticate` from the last ownership check on. -/
def declareAuthenticated (connection : Connection) (opener : Opener) (transport : Nat) :
    Connection :=
  if connection.ownsTransport transport then
    connection.authenticate.startHeartbeat opener
  else
    connection.failOpen opener transport .other

/-- `_open_and_authenticate` once the future it awaited is done. -/
def resumeAuth (connection : Connection) (opener : Opener) (transport : Nat) : Connection :=
  match connection.authError.bind (connection.authFutures[·]?) with
  | none => connection.failOpen opener transport .other
  | some (.failed error) => connection.failOpen opener transport error
  | some _ =>
      if connection.ownsTransport transport then
        let established :=
          { connection with authError := none, generation := connection.generation + 1 }
        match opener with
        | .connect => established.declareAuthenticated opener transport
        | .reconnect => { established with restoring := true }.setPhase opener .restoring
      else
        { connection with authError := none }.failOpen opener transport .other

/-- `await asyncio.shield(self._auth_error)` on the future found there: a done
future does not suspend the attempt. -/
def awaitAuth (connection : Connection) (opener : Opener) (transport : Nat) (future : Nat) :
    Connection :=
  match connection.authFutures[future]? with
  | some .accepted => connection.resumeAuth opener transport
  | some (.failed error) => connection.failOpen opener transport error
  | _ => connection.setPhase opener (.awaitingAuth future)

/-- A suspended attempt runs again because what it awaited succeeded. -/
def resumeOpen (connection : Connection) (opener : Opener) : Option Connection :=
  match connection.attempt opener with
  | none => none
  | some attempt =>
      match attempt.phase with
      | .connecting =>
          some ((connection.startReceiving attempt.transport).setPhase opener .sendingConnect)
      | .sendingConnect =>
          match connection.authError with
          | some future => some (connection.awaitAuth opener attempt.transport future)
          | none => some (connection.failOpen opener attempt.transport .other)
      | .awaitingAuth future =>
          match connection.authFutures[future]? with
          | some .accepted => some (connection.resumeAuth opener attempt.transport)
          | some (.failed error) => some (connection.failOpen opener attempt.transport error)
          | _ => none
      | .restoring =>
          some ({ connection with restoring := false }.declareAuthenticated opener
            attempt.transport)
      | .restartingHeartbeat => some (connection.newHeartbeat.returnOpen opener)
      | .closing error =>
          if connection.receiver attempt.transport = none then
            some (connection.concludeOpen opener error)
          else
            some ((connection.cancelReceiver attempt.transport).setPhase opener
              (.gathering error))
      | .gathering error => some (connection.concludeOpen opener error)
      | .rejecting => some ((connection.setState .closed).raiseOpen opener .authentication)

/-- What the attempt awaited failed.  Restoration lets nothing but a
`CancelledError` through; the heartbeat restart and the cleanup fail only if
`_close` cancels the task. -/
def raiseInOpen (connection : Connection) (opener : Opener) (error : OpenError) :
    Option Connection :=
  match connection.attempt opener with
  | none => none
  | some attempt =>
      match attempt.phase with
      | .connecting | .sendingConnect | .awaitingAuth _ =>
          some (connection.failOpen opener attempt.transport error)
      | .restoring =>
          if error = .cancelled then
            some ({ connection with restoring := false }.failOpen opener attempt.transport error)
          else
            none
      | .restartingHeartbeat =>
          if connection.closed ∧ error = .cancelled then
            some (connection.failOpen opener attempt.transport error)
          else
            none
      | .closing _ | .gathering _ | .rejecting =>
          if connection.closed ∧ error = .cancelled then
            some (connection.returnOpen opener)
          else
            none

/-- Resolve the future of the attempt unless it is done. -/
def resolveAuth (connection : Connection) (outcome : AuthFuture) : Connection :=
  { connection with
    authFutures := match connection.authError with
      | some future => connection.authFutures.modify future fun before =>
          if before = .pending then outcome else before
      | none => connection.authFutures }

/-- The receive loop accepts a HELLO. -/
def receiveHello (connection : Connection) (transport : Nat) : Option Connection :=
  if connection.receiver transport = some .running ∧ ¬ connection.closed ∧
      connection.transport = some transport then
    some (connection.resolveAuth .accepted)
  else
    none

/-- The receive loop gets an exception, from the transport or from a frame. -/
def raiseInReceiver (connection : Connection) (transport : Nat) (error : OpenError) :
    Option Connection :=
  if connection.receiver transport = some .running then
    if error = .cancelled then
      some (connection.setHandler (.receiver transport) none)
    else if connection.state = .authenticating ∧ connection.authError ≠ none then
      some ((connection.resolveAuth (.failed error)).setHandler (.receiver transport) none)
    else if ¬ connection.closed ∧ connection.transport = some transport then
      some (connection.connectionLost (.receiver transport))
    else
      some (connection.setHandler (.receiver transport) none)
  else
    none

/-- The receive loop finds that its transport is no longer the current one. -/
def returnReceiver (connection : Connection) (transport : Nat) : Option Connection :=
  if connection.receiver transport = some .running ∧
      (connection.closed ∨ connection.transport ≠ some transport) then
    some (connection.setHandler (.receiver transport) none)
  else
    none

/-- A heartbeat fails, or its loop finds that the connection is gone. -/
def stepHeartbeat (connection : Connection) (heartbeat : Nat) (fails : Bool) :
    Option Connection :=
  if connection.heartbeats[heartbeat]? = some .running then
    if fails then
      some (connection.connectionLost (.heartbeat heartbeat))
    else if connection.closed ∨ connection.state ≠ .authenticated ∨
        connection.transport = none then
      some (connection.setHandler (.heartbeat heartbeat) none)
    else
      none
  else
    none

/-- `connect` up to the shielded wait. -/
def connect (connection : Connection) : Connection :=
  if connection.closed ∨ connection.state = .authenticated ∨
      connection.reconnectTask ≠ .idle then
    connection
  else if connection.connectTask = .idle then
    { connection with connectTask := .scheduled }
  else
    connection

/-- `_close` up to its first `await`. -/
def close (connection : Connection) : Connection :=
  if connection.closed then
    connection
  else
    { { connection with closed := true }.setState .closed with closeStarted := true }

/-- The cancellation of an attempt by `_close`. -/
def cancelOpen (connection : Connection) (opener : Opener) : Connection :=
  (connection.raiseInOpen opener .cancelled).getD connection

def cancelReconnect (connection : Connection) : Connection :=
  match connection.reconnectTask with
  | .opening _ _ => connection.cancelOpen .reconnect
  | _ => { connection with reconnectTask := .idle }

/-- The heartbeat, the receive loop and the loss task are cancelled. -/
def cancelBackground (connection : Connection) : Connection :=
  let connection := match connection.heartbeatTask with
    | some heartbeat => connection.setHandler (.heartbeat heartbeat) none
    | none => connection
  let connection := match connection.receiveTask with
    | some transport => connection.cancelReceiver transport
    | none => connection
  { connection with lossTask := .idle }

/-- `_close` after its listeners: cancel the tasks it owns and close the
transport. -/
def closeTasks (connection : Connection) : Connection :=
  let cancelled := (connection.cancelOpen .connect).cancelReconnect.cancelBackground
  match cancelled.transport with
  | some transport =>
      { cancelled.closeTransport transport with transport := none, closeNotified := true }
  | none => { cancelled with closeNotified := true }

end Connection

inductive ConnectionAction
  | connect
  | startConnect (raised : Option OpenError)
  | startReconnect
  | wakeReconnect (raised : Option OpenError)
  | resumeOpen (opener : Opener)
  | raiseInOpen (opener : Opener) (error : OpenError)
  | notifiedClose
  | receiveHello (transport : Nat)
  | raiseInReceiver (transport : Nat) (error : OpenError)
  | returnReceiver (transport : Nat)
  | stepHeartbeat (heartbeat : Nat) (fails : Bool)
  | scheduleLoss
  | startLoss
  | resumeHandler (origin : LossOrigin)
  | cancelHandler (origin : LossOrigin)
  | close
  | closeTasks
  deriving DecidableEq, Repr

namespace Connection

/-- One transition. -/
def step (connection : Connection) : ConnectionAction → Option Connection
  | .connect => some connection.connect
  | .startConnect raised =>
      if connection.connectTask = .scheduled then
        if connection.closed ∨ raised ≠ none then
          some { connection with connectTask := .idle }
        else
          some { connection.openTransport .connecting with
            connectTask := .opening { transport := connection.transports.length } }
      else
        none
  -- a connect task that is scheduled at the same time was scheduled first
  | .startReconnect =>
      if connection.reconnectTask = .scheduled ∧ connection.connectTask ≠ .scheduled then
        some (connection.nextAttempt 0)
      else
        none
  | .wakeReconnect raised =>
      match connection.reconnectTask with
      | .sleeping count =>
          if connection.closed then
            some { connection with reconnectTask := .idle }
          else
            match raised with
            | some error => some (connection.exceptAttempt count error)
            | none =>
                some { connection.openTransport .reconnecting with
                  reconnectTask := .opening count { transport := connection.transports.length } }
      | _ => none
  | .resumeOpen opener => connection.resumeOpen opener
  | .raiseInOpen opener error => connection.raiseInOpen opener error
  | .notifiedClose =>
      if connection.reconnectTask = .notifyingClose then
        some { connection with reconnectTask := .idle }
      else
        none
  | .receiveHello transport => connection.receiveHello transport
  | .raiseInReceiver transport error => connection.raiseInReceiver transport error
  | .returnReceiver transport => connection.returnReceiver transport
  | .stepHeartbeat heartbeat fails => connection.stepHeartbeat heartbeat fails
  | .scheduleLoss =>
      if connection.lossTask = .idle then
        some { connection with lossTask := .scheduled }
      else
        none
  | .startLoss =>
      if connection.lossTask = .scheduled then
        some (connection.connectionLost .lossTask)
      else
        none
  | .resumeHandler origin => connection.resumeHandler origin
  | .cancelHandler origin => connection.cancelHandler origin
  | .close => some connection.close
  | .closeTasks => if connection.closeStarted then some connection.closeTasks else none

/-- All interleavings of a new connection. -/
def system (config : ConnectionConfig) : LabelledSystem Connection ConnectionAction where
  starts connection := connection = { config }
  step := step

end Connection

end FitzClient
