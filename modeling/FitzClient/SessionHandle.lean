import FitzClient.RequestGate
import FitzClient.TransportGenerations

/-!
# Handles of a session

A KV transaction, a stream session, a queue item, a lease and a response writer
carry an identifier of the session in which they were obtained, and the
generation that the connection had then.  Their methods compare it with the
generation of the connection, those of a transaction and of a writer under the
lock of the handle.  Then they take a slot of the request gate: `send`, which a
writer uses, reads the current transport at once, and `request` starts a task
that reads it.  A frame whose transport has been read may still wait for the
write lock.

A call keeps the gate it was made at.  An attempt to connect and a HELLO
replace the gate of the connection; a loss, `close` and a rejected
authentication close it.  A request also needs the protocol version of a HELLO,
which `set_disconnected` resets.

The requests of the client that belong to no handle take part as calls without
one.  The transport on which a handle was obtained, the generations of the
transports and the log of frames handed to a transport are history.
-/

namespace FitzClient

inductive HandleKind
  | transaction
  | session
  | item
  | lease
  | writer
  deriving DecidableEq, Repr

namespace HandleKind

/-- A method holds the lock of the handle until it ends. -/
def locked : HandleKind → Bool
  | .transaction | .writer => true
  | .session | .item | .lease => false

/-- The methods use `Connection.send`. -/
def oneWay : HandleKind → Bool
  | .writer => true
  | .transaction | .session | .item | .lease => false

end HandleKind

/-- `closed` stands for `_closed`, `_released` and `_ended`. -/
structure SessionHandle where
  kind : HandleKind
  origin : Nat
  generation : Nat
  closed : Bool := false
  deriving DecidableEq, Repr

/-- The check at the head of a method: `_ensure_open`, `_ensure_valid`,
`_valid`, or the test of `ResponseWriter.send`. -/
def SessionHandle.valid (handle : SessionHandle) (generation : Nat) : Bool :=
  !handle.closed && handle.generation == generation

/-- A reply whose task has not run again, and the transport that brought it. -/
structure HandleReply where
  kind : HandleKind
  origin : Nat
  deriving DecidableEq, Repr

/-- Where a call is: it has not passed its check, it sleeps in the retry loop,
it waits in a gate, it has a slot of the gate, or it has ended. -/
inductive HandlePhase
  | called
  | sleeping
  | queued (gate waiter : Nat)
  | running (gate token : Nat)
  | ended
  deriving DecidableEq, Repr

/-- The call holds the lock of its handle, if there is one. -/
def HandlePhase.holds : HandlePhase → Bool
  | .sleeping | .queued _ _ | .running _ _ => true
  | .called | .ended => false

/-- A call of a method; reads of a transaction run in the retry loop. -/
structure HandleCall where
  handle : Option Nat
  replaySafe : Bool := false
  phase : HandlePhase := .called
  deriving DecidableEq, Repr

/-- `_send_frame` has not started, it has read this transport, or it is over. -/
inductive FramePhase
  | scheduled
  | bound (transport : Nat)
  | done
  deriving DecidableEq, Repr

structure HandleFrame where
  handle : Option Nat
  phase : FramePhase := .scheduled
  deriving DecidableEq, Repr

/-- A frame that was handed to a transport. -/
structure HandedFrame where
  handle : Option Nat
  transport : Nat
  deriving DecidableEq, Repr

/-- A connection with its gates, the last one being `_gate`, and everything
that its handles do.  `greeted` says that the multiplexer has a protocol
version. -/
structure HandleRun where
  connection : Connection
  limit : Nat
  queueSize : Nat
  gates : List RequestGate
  greeted : Bool := false
  sessions : Dictionary Nat Nat := ∅
  replies : List HandleReply := []
  handles : List SessionHandle := []
  calls : List HandleCall := []
  frames : List HandleFrame := []
  handed : List HandedFrame := []
  deriving DecidableEq

/-- What can happen.  `hello` is a HELLO with its limit of requests in flight.
`reply` is a reply that makes a handle, or a REQUEST, `obtain` resumes the task
that awaits the reply, and `forget` is a task that does not make a handle of
it.  `close` is a disconnect listener or a method that closes its handle.
`enter` is the check of a call, `refused` an exception of the multiplexer or of
the size check, and `retries` says that the retry loop goes on. -/
inductive HandleAction
  | connection (action : ConnectionAction)
  | hello (transport serverMaxInFlight : Nat)
  | reply (kind : HandleKind)
  | obtain (reply : Nat)
  | forget (reply : Nat)
  | close (handle : Nat)
  | call (handle : Option Nat) (replaySafe : Bool)
  | enter (call : Nat) (refused retries : Bool)
  | resume (call : Nat) (refused retries : Bool)
  | cancel (call : Nat)
  | finish (call : Nat) (retries : Bool)
  | sendFrame (frame : Nat)
  | hand (frame : Nat)
  | failFrame (frame : Nat)
  deriving DecidableEq, Repr

namespace Connection

instance (connection : Connection) : Decidable connection.Live :=
  inferInstanceAs (Decidable (_ ∧ _ ∧ _))

/-- `_open_and_authenticate` goes on after its first test: it replaces the gate,
also if the transport factory raises then. -/
def opensGate (connection : Connection) : ConnectionAction → Bool
  | .startConnect _ | .wakeReconnect _ => !connection.closed
  | _ => false

/-- The `except` block of the attempt in this task closes the gate next. -/
def rejectsNext (connection : Connection) (opener : Opener) : Bool :=
  match connection.attempt opener with
  | some { transport, phase := .closing .authentication } =>
      connection.receiver transport == none
  | some { transport := _, phase := .gathering .authentication } => true
  | _ => false

/-- `_connection_lost` goes on after its first test, or `_close` begins: both
disconnect the multiplexer and close the gate. -/
def endsSession (connection : Connection) : ConnectionAction → Bool
  | .raiseInReceiver transport error =>
      error != .cancelled &&
        !(connection.state == .authenticating && connection.authError.isSome) &&
        !connection.closed && connection.transport == some transport && connection.Live
  | .stepHeartbeat _ fails => fails && connection.Live
  | .startLoss => connection.Live
  | .close => !connection.closed
  | _ => false

/-- The gate is closed. -/
def closesGate (connection : Connection) (action : ConnectionAction) : Bool :=
  connection.endsSession action ||
    match action with
    | .resumeOpen opener => connection.rejectsNext opener
    | _ => false

/-- `set_disconnected` is called, also at the head of the `except` block of an
attempt. -/
def disconnects (connection : Connection) (action : ConnectionAction) (after : Connection) :
    Bool :=
  connection.endsSession action ||
    (!connection.cleaning .connect && after.cleaning .connect) ||
    (!connection.cleaning .reconnect && after.cleaning .reconnect)

end Connection

namespace HandleRun

/-- The index of `_gate`. -/
def currentGate (run : HandleRun) : Nat :=
  run.gates.length - 1

def newGate (run : HandleRun) (maximum : Nat) : List RequestGate :=
  run.gates ++ [{ maximum, queueSize := run.queueSize }]

/-- The gates after a transition of the connection. -/
def gatesAfter (run : HandleRun) (action : ConnectionAction) : List RequestGate :=
  if run.connection.opensGate action then
    run.newGate run.limit
  else if run.connection.closesGate action then
    run.gates.modify run.currentGate RequestGate.close
  else
    run.gates

/-- The connection is at another state. -/
def follow (run : HandleRun) (after : Connection) (gates : List RequestGate) (greeted : Bool) :
    HandleRun :=
  { run with
    connection := after
    sessions := Connection.sessionsAfter run.sessions run.connection after
    gates
    greeted }

/-- `release()` -/
def release (run : HandleRun) (gate token : Nat) : HandleRun :=
  { run with
    gates := run.gates.modify gate fun before => (before.release token).getD before }

/-- A handle as its constructor makes it. -/
def create (run : HandleRun) (reply : HandleReply) : HandleRun :=
  { run with
    handles := run.handles ++ [{
      kind := reply.kind, origin := reply.origin, generation := run.connection.generation }] }

/-- The receive loop of the current transport gets a reply; `_on_request` makes
a writer at once. -/
def receive (run : HandleRun) (kind : HandleKind) : Option HandleRun :=
  match run.connection.transport with
  | none => none
  | some transport =>
      if run.connection.receiver transport = some .running ∧ ¬ run.connection.closed then
        if kind = .writer then
          some (run.create { kind, origin := transport })
        else
          some { run with replies := run.replies ++ [{ kind, origin := transport }] }
      else
        none

def kind? (run : HandleRun) (handle : Option Nat) : Option HandleKind :=
  (handle.bind (run.handles[·]?)).map (·.kind)

/-- The check of a method; a request without a handle has none. -/
def valid (run : HandleRun) : Option Nat → Bool
  | none => true
  | some index => run.handles[index]?.any (·.valid run.connection.generation)

/-- No other call holds the lock of the handle, if there is one. -/
def lockFree (run : HandleRun) (index : Nat) (call : HandleCall) : Bool :=
  !(run.kind? call.handle).any (·.locked) ||
    (run.calls.eraseIdx index).all fun other =>
      other.handle != call.handle || !other.phase.holds

def setPhase (run : HandleRun) (index : Nat) (phase : HandlePhase) : HandleRun :=
  { run with calls := run.calls.modify index fun call => { call with phase } }

/-- An exception or a reply ends the call, unless it is tried again. -/
def leave (run : HandleRun) (index : Nat) (call : HandleCall) (retries : Bool) : HandleRun :=
  run.setPhase index (if call.replaySafe && retries then .sleeping else .ended)

/-- A new frame of a call. -/
def addFrame (run : HandleRun) (call : HandleCall) (phase : FramePhase) : HandleRun :=
  { run with frames := run.frames ++ [{ handle := call.handle, phase }] }

/-- A call that has a slot, up to its next `await`. -/
def begin (run : HandleRun) (index : Nat) (call : HandleCall) (gate token : Nat)
    (refused retries : Bool) : HandleRun :=
  let left := (run.release gate token).leave index call retries
  let running := run.setPhase index (.running gate token)
  if refused then
    left
  else if (run.kind? call.handle).any (·.oneWay) then
    match run.connection.transport with
    | none => left
    | some transport => running.addFrame call (.bound transport)
  else if run.greeted then
    running.addFrame call .scheduled
  else
    left

/-- `acquire` of the gate of the connection, once the check is passed. -/
def acquire (run : HandleRun) (index : Nat) (call : HandleCall) (gate : RequestGate)
    (refused retries : Bool) : HandleRun :=
  let after := { run with gates := run.gates.set run.currentGate gate.acquire.2 }
  match gate.acquire.1 with
  | .token token => after.begin index call run.currentGate token refused retries
  | .waiting waiter => after.setPhase index (.queued run.currentGate waiter)
  | .queueFull => after.leave index call retries
  | .connectionClosed => after.setPhase index .ended

/-- A method from its check up to its next `await`. -/
def enter (run : HandleRun) (index : Nat) (call : HandleCall) (refused retries : Bool) :
    Option HandleRun :=
  if (call.phase = .called ∨ call.phase = .sleeping) ∧ run.lockFree index call then
    if run.valid call.handle && run.connection.ensureAuthenticated then
      run.gates[run.currentGate]?.map (run.acquire index call · refused retries)
    else
      some (run.setPhase index .ended)
  else
    none

/-- A call that waits in a gate runs again. -/
def resume (run : HandleRun) (index : Nat) (call : HandleCall) (refused retries : Bool) :
    Option HandleRun :=
  match call.phase with
  | .queued gate waiter =>
      (run.gates[gate]?.bind (·.resume waiter)).map fun (token, after) =>
        let after := { run with gates := run.gates.set gate after }
        match token with
        | none => after.setPhase index .ended
        | some token => after.begin index call gate token refused retries
  | _ => none

/-- A task that waits in a gate is cancelled. -/
def cancel (run : HandleRun) (call : HandleCall) : Option HandleRun :=
  match call.phase with
  | .queued gate waiter =>
      (run.gates[gate]?.bind (·.cancel waiter)).map fun after =>
        { run with gates := run.gates.set gate after }
  | _ => none

/-- A call that has a slot returns or raises. -/
def finish (run : HandleRun) (index : Nat) (call : HandleCall) (retries : Bool) :
    Option HandleRun :=
  match call.phase with
  | .running gate token => some ((run.release gate token).leave index call retries)
  | _ => none

def setFrame (run : HandleRun) (index : Nat) (phase : FramePhase) : HandleRun :=
  { run with frames := run.frames.modify index fun frame => { frame with phase } }

/-- The task of `_send_frame` runs. -/
def sendFrame (run : HandleRun) (index : Nat) (frame : HandleFrame) : Option HandleRun :=
  if frame.phase = .scheduled then
    match run.connection.transport with
    | none => some (run.setFrame index .done)
    | some transport => some (run.setFrame index (.bound transport))
  else
    none

/-- `await transport.send(frame)` -/
def hand (run : HandleRun) (index : Nat) (frame : HandleFrame) : Option HandleRun :=
  match frame.phase with
  | .bound transport =>
      some { run.setFrame index .done with
        handed := run.handed ++ [{ handle := frame.handle, transport }] }
  | _ => none

/-- One transition. -/
def step (run : HandleRun) : HandleAction → Option HandleRun
  | .connection (.receiveHello _) => none
  | .connection action =>
      (run.connection.step action).map fun after =>
        run.follow after (run.gatesAfter action)
          (run.greeted && !run.connection.disconnects action after)
  -- a repeated HELLO and one without slots raise in the receive loop
  | .hello transport serverMaxInFlight =>
      if run.greeted ∨ serverMaxInFlight < 1 then
        none
      else
        (run.connection.step (.receiveHello transport)).map fun after =>
          run.follow after (run.newGate (min serverMaxInFlight run.limit)) true
  | .reply kind => run.receive kind
  | .obtain index =>
      run.replies[index]?.map fun reply =>
        { run.create reply with replies := run.replies.eraseIdx index }
  | .forget index => some { run with replies := run.replies.eraseIdx index }
  | .close index =>
      some { run with
        handles := run.handles.modify index fun handle => { handle with closed := true } }
  | .call handle replaySafe =>
      if handle.all (· < run.handles.length) then
        some { run with calls := run.calls ++ [{ handle, replaySafe }] }
      else
        none
  | .enter index refused retries =>
      run.calls[index]?.bind (run.enter index · refused retries)
  | .resume index refused retries =>
      run.calls[index]?.bind (run.resume index · refused retries)
  | .cancel index => run.calls[index]?.bind run.cancel
  | .finish index retries => run.calls[index]?.bind (run.finish index · retries)
  | .sendFrame index => run.frames[index]?.bind (run.sendFrame index)
  | .hand index => run.frames[index]?.bind (run.hand index)
  | .failFrame index => some (run.setFrame index .done)

/-- All interleavings of a new client. -/
def system (config : ConnectionConfig) (limit queueSize : Nat) :
    LabelledSystem HandleRun HandleAction where
  starts run := run =
    { connection := { config }, limit, queueSize, gates := [{ maximum := limit, queueSize }] }
  step := step

end HandleRun

end FitzClient
