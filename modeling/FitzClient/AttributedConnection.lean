import FitzClient.SessionHandle

/-!
# Failures and the transports they belong to

Over the life of a client several transports exist.  A receive loop carries
its transport, and so does an attempt.  A failed request or send only schedules
`_connection_lost`, a failed heartbeat calls it, and the reconnect loop that a
handler starts runs later; none of them knows any more on which transport the
failure occurred.  The model records it beside the connection.

Requests and sends wait in the gate that was there when they were issued.
`_send_frame` reads the transport and then stands in line for the write lock,
which all transports share and each CONNECT needs too.  The multiplexer has the
protocol version of one HELLO, and refuses another one until
`set_disconnected`.

A failure is harmless if the attempts and the session on every other transport
are spared by the step that handles it.  Which steps spare them is read off
the state in which they are taken: the handling of a failure has to find no
other transport running wherever it writes what all of them share.
-/

namespace FitzClient

/-- How far a request or a send has come: it waits in its gate, stands in line
for the write lock, awaits its reply, or is over. -/
inductive MessagePhase
  | issued
  | writing
  | written
  | finished
  deriving DecidableEq, Repr

/-- A request, or a send without a reply, and the transport it belongs to: that
of the session in which it was issued, and later the one that `_send_frame`
reads. -/
structure SessionMessage where
  transport : Nat
  gate : Nat
  awaitsReply : Bool
  phase : MessagePhase := .issued
  deriving DecidableEq, Repr

/-- A frame in the line for `_write_lock`; the first one has the lock. -/
inductive FrameWriter
  | message (index : Nat)
  | connect (opener : Opener)
  deriving DecidableEq, Repr

/-- A connection together with the transport that each failure belongs to: of
the attempt that created a future, of the last `transport.heartbeat`, of the
message that scheduled the loss task, and of the failure after which the
reconnect loop makes its next attempt.  `session` is the transport that was the
last to pass its handshake, `greeted` the one whose HELLO the multiplexer has,
and a gate is `true` once it is closed. -/
structure AttributedConnection where
  connection : Connection
  authOwners : List Nat := []
  pinged : Dictionary Nat Nat := ∅
  session : Nat := 0
  greeted : Option Nat := none
  gates : List Bool := [false]
  messages : List SessionMessage := []
  writers : List FrameWriter := []
  lossCause : Nat := 0
  reconnectCause : Nat := 0

/-- `ping` is a heartbeat loop that comes to `transport.heartbeat`, and `send` a
message or a CONNECT that comes to the write lock.  A message that fails
schedules a loss, and one that is dropped does not. -/
inductive TransportAction
  | ping (heartbeat : Nat)
  | issue (awaitsReply : Bool)
  | send (message : Nat)
  | written (message : Nat)
  | fail (message : Nat)
  | drop (message : Nat)
  | sendConnect (opener : Opener)
  | run (action : ConnectionAction)

namespace Connection

/-- The transport is the current one, or an attempt is opening it. -/
def RunsOn (connection : Connection) (transport : Nat) : Prop :=
  connection.closed = false ∧ connection.state ≠ .closed ∧
    (connection.transport = some transport ∨ ∃ opener attempt,
      connection.attempt opener = some attempt ∧ attempt.transport = transport ∧
        attempt.phase.pending = true)

/-- Requests are accepted, and go out on this transport. -/
def Session (connection : Connection) (transport : Nat) : Prop :=
  connection.RunsOn transport ∧ connection.transport = some transport ∧
    (connection.state = .authenticated ∨ connection.restoring = true)

/-- No other transport runs. -/
def Alone (connection : Connection) (transport : Nat) : Prop :=
  ∀ other, connection.RunsOn other → other = transport

/-- No session is on another transport. -/
def SoleSession (connection : Connection) (transport : Nat) : Prop :=
  ∀ other, connection.Session other → other = transport

/-- The attempt in this task is in `_send_connect`. -/
def sendsConnect (connection : Connection) (opener : Opener) : Bool :=
  (connection.attempt opener).any (·.phase = .sendingConnect)

/-- The state in which the head of the `while` in `_reconnect_loop` leaves a
connection that is not closed. -/
def headState (connection : Connection) (count : Nat) : ConnectionState :=
  if connection.config.maxAttempts.all (count < ·) then .reconnecting else .disconnected

/-- The state in which an attempt leaves the connection that raises anything
but an `AuthenticationError`. -/
def concludedState (connection : Connection) : Opener → OpenError → ConnectionState
  | .reconnect, .other =>
      match connection.reconnectTask with
      | .opening count _ => connection.headState count
      | _ => .disconnected
  | _, _ => .disconnected

/-- A step changes neither the state, nor the transport, the attempts and the
futures that are on this transport. -/
structure Spared (owners : List Nat) (before after : Connection) (transport : Nat) : Prop where
  state : after.state = before.state
  closed : after.closed = before.closed
  current : before.transport = some transport → after.transport = some transport
  cell : ∀ cell, before.transports[transport]? = some cell →
    after.transports[transport]? = some cell
  attempt : ∀ opener attempt, before.attempt opener = some attempt →
    attempt.transport = transport → after.attempt opener = some attempt
  auth : ∀ (future : Nat) (outcome : AuthFuture), owners[future]? = some transport →
    before.authFutures[future]? = some outcome → after.authFutures[future]? = some outcome
  awaited : ∀ future : Nat, owners[future]? = some transport →
    before.authError = some future → after.authError = some future

/-- The step takes what the session on this transport rests on: the `except`
block of an attempt calls `set_disconnected`, a loss handler comes to
`_notify_disconnect`, and a new attempt replaces the gate and the transport. -/
def Displaces (before after : Connection) (transport : Nat) : ConnectionAction → Prop
  | .resumeOpen opener | .raiseInOpen opener _ =>
      before.Session transport ∧ before.cleaning opener = false ∧ after.cleaning opener = true
  | .resumeHandler origin =>
      before.Session transport ∧ before.handlerPhase origin ≠ some .notifying ∧
        after.handlerPhase origin = some .notifying
  | .wakeReconnect _ =>
      before.transport = some transport ∧ before.transports.length < after.transports.length
  | _ => False

end Connection

namespace AttributedConnection

open Connection

/-- The index of `_gate`. -/
def currentGate (current : AttributedConnection) : Nat :=
  current.gates.length - 1

/-- The gate lets messages pass. -/
def gateOpen (current : AttributedConnection) (gate : Nat) : Bool :=
  current.gates[gate]? = some false

/-- The message has the write lock. -/
def hasLock (current : AttributedConnection) (index : Nat) : Bool :=
  current.writers.head? = some (.message index)

/-- The transport whose failure the handler in this task handles. -/
def handlerCause (current : AttributedConnection) : LossOrigin → Option Nat
  | .receiver transport => some transport
  | .heartbeat heartbeat => current.pinged.lookup heartbeat
  | .lossTask => some current.lossCause

/-- Losses are scheduled by messages, what fails in a heartbeat loop is
`transport.heartbeat`, a second HELLO raises in the receive loop, and a CONNECT is
written with the lock. -/
def allows (current : AttributedConnection) : ConnectionAction → Bool
  | .scheduleLoss => false
  | .stepHeartbeat heartbeat true => (current.pinged.lookup heartbeat).isSome
  | .receiveHello _ => current.greeted.isNone
  | .resumeOpen opener =>
      !current.connection.sendsConnect opener ||
        current.writers.head? = some (.connect opener)
  | _ => true

/-- The attempt that is connected creates the next future. -/
def ownersAfter (current : AttributedConnection) : ConnectionAction → List Nat
  | .resumeOpen opener =>
      match current.connection.attempt opener with
      | some ⟨transport, .connecting⟩ => current.authOwners ++ [transport]
      | _ => current.authOwners
  | _ => current.authOwners

/-- An attempt that passes its handshake begins a generation. -/
def sessionAfter (current : AttributedConnection) (next : Connection) : Nat :=
  if next.generation = current.connection.generation then current.session
  else next.transport.getD current.session

/-- `set_capabilities`, and `set_disconnected` when a session ends and at the head
of the `except` block of an attempt. -/
def greetedAfter (current : AttributedConnection) (next : Connection) :
    ConnectionAction → Option Nat
  | .receiveHello transport => some transport
  | .resumeOpen opener | .raiseInOpen opener _ =>
      if current.connection.cleaning opener = false ∧ next.cleaning opener = true then none
      else current.greeted
  | action => if current.connection.endsSession action then none else current.greeted

/-- Attempts and a HELLO replace the gate, and the end of a session closes it. -/
def gatesAfter (current : AttributedConnection) (action : ConnectionAction) : List Bool :=
  match action with
  | .receiveHello _ => current.gates ++ [false]
  | _ =>
      if current.connection.opensGate action then current.gates ++ [false]
      else if current.connection.closesGate action then
        current.gates.set current.currentGate true
      else current.gates

/-- A CONNECT leaves the line when it is written or when its attempt fails. -/
def writersAfter (current : AttributedConnection) (next : Connection) : List FrameWriter :=
  current.writers.filter fun
    | .message _ => true
    | .connect opener => next.sendsConnect opener

/-- A handler starts the reconnect loop, or an attempt of the loop has ended. -/
def reconnectCauseAfter (current : AttributedConnection) (next : Connection) :
    ConnectionAction → Nat
  | .resumeHandler origin =>
      if current.connection.reconnectTask = .idle ∧ next.reconnectTask = .scheduled then
        (current.handlerCause origin).getD current.reconnectCause
      else
        current.reconnectCause
  | .resumeOpen .reconnect =>
      match current.connection.attempt .reconnect, next.attempt .reconnect with
      | some attempt, none => attempt.transport
      | _, _ => current.reconnectCause
  | _ => current.reconnectCause

/-- `_schedule_connection_loss` for a failure on this transport. -/
def scheduleLoss (current : AttributedConnection) (transport : Nat) : AttributedConnection :=
  match current.connection.step .scheduleLoss with
  | some connection => { current with connection, lossCause := transport }
  | none => current

/-- A message leaves the line, and is at another place. -/
def setMessage (current : AttributedConnection) (index : Nat) (message : SessionMessage) :
    AttributedConnection :=
  { current with
    messages := current.messages.set index message
    writers := current.writers.erase (.message index) }

/-- One transition of a message. -/
def stepMessage (current : AttributedConnection) (index : Nat) (message : SessionMessage) :
    TransportAction → Option AttributedConnection
  | .send _ =>
      if message.phase = .issued ∧ current.gateOpen message.gate then
        current.connection.transport.map fun transport =>
          { current with
            messages := current.messages.set index { message with transport, phase := .writing }
            writers := current.writers ++ [.message index] }
      else
        none
  | .written _ =>
      if message.phase = .writing ∧ current.hasLock index then
        some (current.setMessage index
          { message with phase := if message.awaitsReply then .written else .finished })
      else
        none
  -- at the head of `_send_frame`, in `transport.send`, or while the reply is awaited
  | .fail _ =>
      if message.phase = .issued ∧ current.gateOpen message.gate ∨
          message.phase = .writing ∧ current.hasLock index ∨ message.phase = .written then
        some ((current.setMessage index { message with phase := .finished }).scheduleLoss
          message.transport)
      else
        none
  -- the frame of a request is written also if the request is cancelled
  | .drop _ =>
      if message.phase = .issued ∨ message.phase = .written ∨
          message.phase = .writing ∧ (message.awaitsReply → current.hasLock index) then
        some (current.setMessage index { message with phase := .finished })
      else
        none
  | _ => none

/-- One transition. -/
def step (current : AttributedConnection) (action : TransportAction) :
    Option AttributedConnection :=
  match action with
  | .ping heartbeat =>
      if current.connection.heartbeats[heartbeat]? = some .running then
        current.connection.transport.map fun transport =>
          { current with pinged := current.pinged.insert heartbeat transport }
      else
        none
  | .issue awaitsReply =>
      if current.connection.ensureAuthenticated then
        some { current with
          messages := current.messages ++
            [{ transport := current.session, gate := current.currentGate, awaitsReply }] }
      else
        none
  | .send index | .written index | .fail index | .drop index =>
      current.messages[index]?.bind (current.stepMessage index · action)
  | .sendConnect opener =>
      if current.connection.sendsConnect opener ∧ .connect opener ∉ current.writers ∧
          current.connection.transport.isSome then
        some { current with writers := current.writers ++ [.connect opener] }
      else
        none
  | .run action =>
      if current.allows action then
        (current.connection.step action).map fun connection =>
          { current with
            connection
            authOwners := current.ownersAfter action
            session := current.sessionAfter connection
            greeted := current.greetedAfter connection action
            gates := current.gatesAfter action
            writers := current.writersAfter connection
            reconnectCause := current.reconnectCauseAfter connection action }
      else
        none

/-- All interleavings of a new connection. -/
def system (config : ConnectionConfig) : LabelledSystem AttributedConnection TransportAction where
  starts current := current = { connection := { config } }
  step := step

/-- The transport whose failure this step handles. -/
def cause (current : AttributedConnection) (next : Connection) : ConnectionAction → Option Nat
  | .raiseInReceiver transport error => if error = .cancelled then none else some transport
  | .stepHeartbeat heartbeat true => current.pinged.lookup heartbeat
  | .startLoss => some current.lossCause
  | .resumeHandler origin => current.handlerCause origin
  | .startReconnect | .wakeReconnect none => some current.reconnectCause
  | .raiseInOpen opener _ => (current.connection.attempt opener).map (·.transport)
  | .resumeOpen opener =>
      if current.connection.cleaning opener ∨ next.cleaning opener then
        (current.connection.attempt opener).map (·.transport)
      else
        none
  | _ => none

/-- A step that handles a failure of one transport harms no attempt and no
session on another one, and leaves its HELLO in the multiplexer. -/
def Harmless (current : AttributedConnection) (next : Connection) (action : ConnectionAction) :
    Prop :=
  ∀ transport, current.cause next action = some transport →
    ∀ other ≠ transport, current.connection.RunsOn other →
      Spared current.authOwners current.connection next other ∧
        (current.greeted = some other → current.greetedAfter next action = some other) ∧
          ¬ Displaces current.connection next other action

/-- The step handles no failure at the expense of another transport. -/
def StepHarmless (current : AttributedConnection) : TransportAction → Prop
  | .fail index => ∀ message after, current.messages[index]? = some message →
      current.step (.fail index) = some after →
        ∀ other ≠ message.transport, current.connection.RunsOn other →
          Spared current.authOwners current.connection after.connection other ∧
            after.greeted = current.greeted
  | .run action => ∀ next, current.connection.step action = some next →
      current.Harmless next action
  | _ => True

end AttributedConnection

namespace Connection

/-- The tail of a loss handler owns what it closes and whom it notifies. -/
def HandlerOwned (connection : Connection) (origin : LossOrigin) (transport : Nat) : Prop :=
  match connection.handlerPhase origin with
  | some (.gathering (some taken)) =>
      connection.RunsOn taken → connection.leftOpen taken = true → taken = transport
  | some (.gathering none) | some .closing => connection.SoleSession transport
  | _ => True

/-- The end of the `except` block. -/
def ConcludeOwned (connection : Connection) (opener : Opener) (transport : Nat)
    (error : OpenError) : Prop :=
  error ≠ .authentication ∧ connection.state = connection.concludedState opener error ∨
    connection.Alone transport

/-- The future that `_auth_error` refers to. -/
def expected (connection : Connection) : Option AuthFuture :=
  connection.authError.bind (connection.authFutures[·]?)

/-- What the attempt awaited raises, or `_auth_error` does. -/
def Refuses (connection : Connection) (attempt : OpenAttempt) : Prop :=
  match attempt.phase with
  | .sendingConnect =>
      connection.authError = none ∨ ∃ error, connection.expected = some (.failed error)
  | .awaitingAuth future =>
      (∃ error, connection.authFutures[future]? = some (.failed error)) ∨
        connection.authFutures[future]? = some .accepted ∧
          (connection.expected = none ∨ ∃ error, connection.expected = some (.failed error))
  | _ => False

/-- The attempt goes on to a check of its ownership. -/
def Asserts (connection : Connection) (attempt : OpenAttempt) : Prop :=
  match attempt.phase with
  | .sendingConnect => connection.expected = some .accepted
  | .awaitingAuth future => connection.authFutures[future]? = some .accepted ∧
      (connection.expected = some .pending ∨ connection.expected = some .accepted)
  | .restoring => True
  | _ => False

end Connection

namespace AttributedConnection

open Connection

/-- The multiplexer has the HELLO of no other transport that runs. -/
def SoleHello (current : AttributedConnection) (transport : Nat) : Prop :=
  ∀ other, current.greeted = some other → current.connection.RunsOn other → other = transport

/-- `_auth_error` is the future of no other transport that runs. -/
def SoleFuture (current : AttributedConnection) (transport : Nat) : Prop :=
  ∀ future owner : Nat, current.connection.authError = some future →
    current.authOwners[future]? = some owner → current.connection.RunsOn owner →
      owner = transport

/-- The receive loop of this transport raises: the future it fails is that of
its own attempt, and it takes the connection over from no other transport. -/
def ReceiverOwned (current : AttributedConnection) (transport : Nat) : Prop :=
  if current.connection.state = .authenticating ∧ current.connection.authError ≠ none then
    ∀ future owner : Nat, current.connection.authError = some future →
      current.connection.authFutures[future]? = some .pending →
      current.authOwners[future]? = some owner → current.connection.RunsOn owner →
        owner = transport
  else
    current.connection.transport = some transport →
      current.connection.Live → current.connection.Alone transport

/-- The head of the `except` block. -/
def ExceptOwned (current : AttributedConnection) (transport : Nat) : Prop :=
  current.connection.SoleSession transport ∧ current.SoleHello transport

/-- An attempt goes on.  When the handshake is over it drops `_auth_error` before
it checks its ownership. -/
def OpenOwned (current : AttributedConnection) (opener : Opener) (attempt : OpenAttempt) : Prop :=
  match attempt.phase with
  | .connecting | .restartingHeartbeat => True
  | .sendingConnect | .awaitingAuth _ | .restoring =>
      (current.connection.Refuses attempt → current.ExceptOwned attempt.transport) ∧
        (current.connection.Asserts attempt →
          current.connection.ownsTransport attempt.transport = false →
            current.ExceptOwned attempt.transport ∧
              (attempt.phase ≠ .restoring → current.SoleFuture attempt.transport))
  | .closing error =>
      current.connection.receiver attempt.transport = none →
        current.connection.ConcludeOwned opener attempt.transport error
  | .gathering error => current.connection.ConcludeOwned opener attempt.transport error
  | .rejecting => current.connection.Alone attempt.transport

/-- Each place that writes what all transports share is reached with no other
transport running, or writes what is there already. -/
def Owned (current : AttributedConnection) : ConnectionAction → Prop
  | .raiseInReceiver transport error => error ≠ .cancelled → current.ReceiverOwned transport
  | .stepHeartbeat heartbeat true => ∀ transport,
      current.pinged.lookup heartbeat = some transport → current.connection.Live →
        current.connection.Alone transport
  | .startLoss => current.connection.Live → current.connection.Alone current.lossCause
  | .resumeHandler origin => ∀ transport, current.handlerCause origin = some transport →
      current.connection.HandlerOwned origin transport
  | .startReconnect =>
      current.connection.state = current.connection.headState 0 ∨
        current.connection.Alone current.reconnectCause
  | .wakeReconnect none =>
      (current.connection.state = .reconnecting ∧ ∀ other,
          current.connection.RunsOn other → current.connection.transport = some other →
            other = current.reconnectCause) ∨
        current.connection.Alone current.reconnectCause
  | .raiseInOpen opener _ => ∀ attempt, current.connection.attempt opener = some attempt →
      current.ExceptOwned attempt.transport
  | .resumeOpen opener => ∀ attempt, current.connection.attempt opener = some attempt →
      current.OpenOwned opener attempt
  | _ => True

def StepOwned (current : AttributedConnection) : TransportAction → Prop
  | .run action => current.Owned action
  | _ => True

end AttributedConnection

end FitzClient
