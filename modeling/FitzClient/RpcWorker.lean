import FitzClient.Dictionary
import FitzClient.IndexedCells
import FitzClient.LabelledSystem
import FitzClient.WireBuffer

/-!
# RPC workers

A request for a worker becomes an invocation and a work item of the
dispatcher.  The item waits in the dispatcher, then for the semaphore of the
registration, runs the handler, sends an error frame where the handler did not
end the response, and acknowledges the cleanup of a cancelled invocation.
Cancellation messages, deadline timers and disconnects reach an invocation
through the table of active invocations and through its context at any point of
this way.

Every session has a request gate of its own.  A frame waits in the gate of the
session in which its `send` was called, and goes to the transport that is there
when it leaves the gate.  A loss closes the gate, so that the frames in it fail,
but where an attempt is given up or replaced, the gate stays open.

The caller's side of `RPCClient` is left out, and so is the choice among the
registrations whose patterns match a route: a request names its registration.
The clock counts microseconds.  For every invocation, the sessions to whose
transports its cleanup was acknowledged, how often its handler was started,
whether a cancellation had been recorded by then, and whether the handler
returned are history.
-/

namespace FitzClient

/-- The 16 bytes that name an invocation. -/
abbrev CorrelationId := BitVec 128

/-- `AsyncDispatcher` with the work items by their indices. -/
structure AsyncDispatcher where
  maximum : Nat
  queueSize : Nat
  active : List Nat := []
  queued : List Nat := []
  closed : Bool := false
  deriving DecidableEq, Repr

namespace AsyncDispatcher

/-- `dispatch`, which returns `False` for the result `none`. -/
def dispatch (dispatcher : AsyncDispatcher) (work : Nat) : Option AsyncDispatcher :=
  if dispatcher.closed then
    none
  else if dispatcher.active.length < dispatcher.maximum then
    some { dispatcher with active := dispatcher.active ++ [work] }
  else if dispatcher.queueSize ≤ dispatcher.queued.length then
    none
  else
    some { dispatcher with queued := dispatcher.queued ++ [work] }

/-- `_completed` -/
def completed (dispatcher : AsyncDispatcher) (work : Nat) : AsyncDispatcher :=
  let active := dispatcher.active.erase work
  match dispatcher.queued with
  | next :: queued =>
      if dispatcher.closed then { dispatcher with active }
      else { dispatcher with active := active ++ [next], queued }
  | [] => { dispatcher with active }

/-- `close`, up to the cancellation of the active tasks. -/
def close (dispatcher : AsyncDispatcher) : AsyncDispatcher :=
  { dispatcher with closed := true, queued := [] }

end AsyncDispatcher

/-- How far a task that runs `_acknowledge_invocation` has come.  A message is in
the gate of a session, unless its `send` raises at once. -/
inductive AckPhase
  | scheduled
  | sending (gate : Option Nat)
  | sent
  | failed
  deriving DecidableEq, Repr

/-- Where the work item of an invocation is suspended: not begun, waiting for
the semaphore, in the handler, in `_send_error`, in the acknowledgement at the
end.  A request that the dispatcher refused has a terminal task instead, which
is `rejecting` before it acknowledges. -/
inductive WorkPhase
  | queued
  | waiting
  | running
  | sendingError (gate : Option Nat) (code : Nat) (message : CodePoints)
  | rejecting
  | acknowledging (gate : Option Nat)
  | ended
  deriving DecidableEq, Repr

/-- `_ActiveInvocation` with its context, its response writer, its work item
and the tasks that acknowledge it; `gate` is the one in which the frames of its
handler can wait. -/
structure Invocation where
  correlationId : CorrelationId
  registration : Nat
  session : Nat
  deadline : Option Nat := none
  deadlineHandle : Bool := false
  cancelled : Bool := false
  cancellationRequested : Bool := false
  finished : Bool := false
  started : Bool := false
  sequence : Nat := 0
  ended : Bool := false
  gate : Option Nat := none
  phase : WorkPhase := .queued
  ackTasks : List AckPhase := []
  acks : List Nat := []
  starts : Nat := 0
  recorded : Bool := false
  lateStart : Bool := false
  returned : Bool := false
  deriving DecidableEq, Repr

namespace Invocation

/-- `remaining_time_ms` -/
def remainingTimeMs (invocation : Invocation) (now : Nat) : Option Nat :=
  invocation.deadline.map fun deadline => (deadline - now) / 1000

/-- `_on_lifecycle` for a cancellation. -/
def requestCancellation (invocation : Invocation) : Invocation :=
  let requested := { invocation with
    cancellationRequested := true, cancelled := true, recorded := true }
  if invocation.finished ∨ ¬ invocation.started then
    { requested with ackTasks := invocation.ackTasks ++ [.scheduled] }
  else
    requested

/-- `_disconnect` for one invocation, which is `active` or not. -/
def disconnect (invocation : Invocation) (active : Bool) : Invocation :=
  if active then
    { invocation with cancelled := true, deadlineHandle := false, recorded := true }
  else
    { invocation with recorded := true }

/-- The handler is called. -/
def start (invocation : Invocation) (gate : Option Nat) : Invocation :=
  { invocation with
    started := true
    gate
    phase := .running
    starts := invocation.starts + 1
    lateStart := invocation.lateStart || invocation.recorded }

/-- The work item awaits `_acknowledge_invocation`. -/
def acknowledge (invocation : Invocation) (gate : Option Nat) : Invocation :=
  { invocation with deadlineHandle := false, phase := .acknowledging gate }

/-- The `finally` block acknowledges the invocation. -/
def acknowledges (invocation : Invocation) : Bool :=
  invocation.cancellationRequested || invocation.ended

/-- The `finally` block of `_run_worker`. -/
def leave (invocation : Invocation) (gate : Option Nat) : Invocation :=
  if invocation.acknowledges then
    { invocation with finished := true }.acknowledge gate
  else
    { invocation with finished := true, phase := .ended }

end Invocation

/-- `_Registration`; `value` is the counter of its semaphore. -/
structure Registration where
  maxConcurrency : Nat
  value : Nat
  deriving DecidableEq, Repr

/-- `RPCClient`, as far as it serves workers.  `send` can be called while the
connection is `usable`.  `transport` names the session that the current transport
belongs to, which may be yet to come, and `openGates` the sessions that are over
while their gates are open.  `unannounced` counts the losses whose listeners have
yet to run. -/
structure RpcClient where
  dispatcher : AsyncDispatcher
  registrations : List Registration := []
  invocations : List Invocation := []
  activeInvocations : Dictionary CorrelationId Nat := ∅
  now : Nat := 0
  usable : Bool := true
  session : Nat := 0
  transport : Option Nat := some 0
  openGates : List Nat := []
  unannounced : Nat := 0
  closed : Bool := false

namespace RpcClient

/-- The table leads to this invocation. -/
def isActive (client : RpcClient) (index : Nat) (invocation : Invocation) : Bool :=
  client.activeInvocations.lookup invocation.correlationId = some index

/-- The state of one invocation changes. -/
def put (client : RpcClient) (index : Nat) (invocation : Invocation) : RpcClient :=
  { client with invocations := client.invocations.set index invocation }

/-- `_forget_invocation` for the table. -/
def forget (client : RpcClient) (index : Nat) (invocation : Invocation) : RpcClient :=
  if client.isActive index invocation then
    { client with
      activeInvocations := client.activeInvocations.erase invocation.correlationId }
  else
    client

/-- The semaphore of a registration is acquired. -/
def acquire (client : RpcClient) (registration : Nat) : RpcClient :=
  { client with
    registrations := client.registrations.modify registration fun registered =>
      { registered with value := registered.value - 1 } }

/-- The semaphore of a registration is released. -/
def release (client : RpcClient) (registration : Nat) : RpcClient :=
  { client with
    registrations := client.registrations.modify registration fun registered =>
      { registered with value := registered.value + 1 } }

/-- The semaphore of a registration has a permit. -/
def available (client : RpcClient) (registration : Nat) : Bool :=
  client.registrations[registration]?.any (0 < ·.value)

/-- The session is there, and it is this one. -/
def isCurrent (client : RpcClient) (session : Nat) : Bool :=
  client.usable && session = client.session

/-- The gate that a `send` enters now, if `_ensure_authenticated` does not
raise. -/
def gate (client : RpcClient) : Option Nat :=
  if client.usable then some client.session else none

/-- The gate that a frame of the writer enters now, if the writer is not stale. -/
def writerGate (client : RpcClient) (invocation : Invocation) : Option Nat :=
  if client.isCurrent invocation.session then some invocation.session else none

/-- The session whose transport gets a frame that leaves this gate now. -/
def destination (client : RpcClient) : Option Nat → Option Nat
  | none => none
  | some session =>
      if client.isCurrent session ∨ session ∈ client.openGates then client.transport else none

/-- A work item leaves `_run_worker` through its `finally` block. -/
def leave (client : RpcClient) (index : Nat) (invocation : Invocation) : RpcClient :=
  let left := client.put index (invocation.leave client.gate)
  if invocation.acknowledges then left.forget index invocation else left

/-- A work item leaves `_run_worker` with its permit. -/
def leaveHolding (client : RpcClient) (index : Nat) (invocation : Invocation) : RpcClient :=
  (client.release invocation.registration).leave index invocation

/-- `_run_worker` once it has the semaphore. -/
def enter (client : RpcClient) (index : Nat) (invocation : Invocation) : RpcClient :=
  let entered := client.acquire invocation.registration
  if ¬ client.isActive index invocation then
    entered.leaveHolding index invocation
  else if invocation.remainingTimeMs client.now = some 0 then
    let expired := { invocation with cancelled := true }
    if invocation.cancellationRequested then
      entered.leaveHolding index expired
    else
      entered.put index { expired with
        phase := .sendingError (client.writerGate invocation) 6007
          (.ofString "Inbound RPC request deadline elapsed") }
  else if invocation.cancelled then
    entered.leaveHolding index invocation
  else
    entered.put index (invocation.start (client.writerGate invocation))

/-- `_run_worker` from its beginning; behind others the item waits for the
semaphore. -/
def begin (client : RpcClient) (index : Nat) (invocation : Invocation) : RpcClient :=
  if ¬ client.isActive index invocation then
    client.put index { invocation with finished := true, phase := .ended }
  else if client.available invocation.registration ∧ ∀ other ∈ client.invocations,
      other.registration = invocation.registration → other.phase ≠ .waiting then
    client.enter index invocation
  else
    client.put index { invocation with phase := .waiting }

/-- `_on_request` for a request that matches this registration. -/
def onRequest (client : RpcClient) (correlationId : CorrelationId) (registration : Nat)
    (budget : Option Nat) : RpcClient :=
  let index := client.invocations.length
  let deadline := budget.map (client.now + · * 1000)
  let active : Invocation := {
    correlationId, registration, deadline
    session := client.session
    deadlineHandle := deadline.isSome }
  match client.dispatcher.dispatch index with
  | some dispatcher =>
      { client with
        dispatcher
        invocations := client.invocations ++ [active]
        activeInvocations := client.activeInvocations.insert correlationId index }
  | none =>
      { client with
        invocations := client.invocations ++
          [{ active with deadlineHandle := false, phase := .rejecting }]
        activeInvocations :=
          (client.activeInvocations.insert correlationId index).erase correlationId }

/-- `_on_lifecycle` for a worker.  That an invocation has lost its place in the
table to a later one does not keep the message from being recorded for it. -/
def onLifecycle (client : RpcClient) (kind : Nat) (correlationId : CorrelationId)
    (value : Nat) : RpcClient :=
  if kind = 2 ∧ 1 ≤ value ∧ value ≤ 4 then
    { client with
      invocations := client.invocations.mapIdx fun index invocation =>
        if invocation.correlationId = correlationId then
          if client.isActive index invocation then invocation.requestCancellation
          else { invocation with recorded := true }
        else
          invocation }
  else
    client

/-- `_disconnect` -/
def disconnect (client : RpcClient) : RpcClient :=
  { client with
    invocations := client.invocations.mapIdx fun index invocation =>
      invocation.disconnect (client.isActive index invocation)
    activeInvocations := ∅ }

end RpcClient

/-- What can happen to the workers of a client.  `elapse` lets time pass;
`interrupt` is a cancellation of a work item by the dispatcher, after its
time-out or its `close`, where it does not reach the handler; `handlerStopped` is
an exception that is neither an `Exception` nor a `CancelledError`.  The actions
with two indices are about a task that acknowledges an invocation. -/
inductive RpcAction
  | register (maxConcurrency : Nat)
  | request (correlationId : CorrelationId) (registration : Nat) (budget : Option Nat)
  | begin (index : Nat)
  | acquire (index : Nat)
  | respond (index : Nat) (final : Bool)
  | handlerReturned (index : Nat)
  | handlerRaised (index : Nat) (message : CodePoints)
  | handlerCancelled (index : Nat)
  | handlerStopped (index : Nat)
  | errorSent (index : Nat)
  | errorFailed (index : Nat)
  | interrupt (index : Nat)
  | ackSent (index : Nat)
  | ackFailed (index : Nat)
  | beginAck (index task : Nat)
  | taskSent (index task : Nat)
  | taskFailed (index task : Nat)
  | completed (index : Nat)
  | timer (index : Nat)
  | lifecycle (kind : Nat) (correlationId : CorrelationId) (value : Nat)
  | elapse (duration : Nat)
  | lose (announced closesGate : Bool)
  | announce
  | openTransport
  | closeTransport
  | openSession
  | close
  deriving DecidableEq, Repr

namespace RpcClient

/-- One transition of an invocation. -/
def stepInvocation (client : RpcClient) (index : Nat) (invocation : Invocation) :
    RpcAction → Option RpcClient
  | .begin _ =>
      if invocation.phase = .queued ∧ index ∈ client.dispatcher.active ∧
          ¬ client.dispatcher.closed then
        some (client.begin index invocation)
      else
        none
  | .acquire _ =>
      if invocation.phase = .waiting ∧ client.available invocation.registration then
        some (client.enter index invocation)
      else
        none
  -- `ResponseWriter.send`, by the handler or a task that it has left behind
  | .respond _ final =>
      if invocation.started ∧ ¬ invocation.ended ∧
          (client.destination invocation.gate).isSome then
        some (client.put index
          { invocation with sequence := invocation.sequence + 1, ended := final })
      else
        none
  | .handlerReturned _ =>
      if invocation.phase = .running then
        some (client.leaveHolding index { invocation with returned := true })
      else
        none
  -- a message that cannot be encoded raises out of `_send_error` at once
  | .handlerRaised _ message =>
      if invocation.phase = .running then
        some (if invocation.ended ∨ ¬ message.encodes then client.leaveHolding index invocation
          else client.put index
            { invocation with
              phase := .sendingError (client.writerGate invocation) 6006 message })
      else
        none
  | .handlerCancelled _ =>
      if invocation.phase = .running then
        some (if invocation.ended then client.leaveHolding index invocation
          else client.put index
            { invocation with
              phase := .sendingError (client.writerGate invocation) 6007
                (.ofString "Worker handler cancelled") })
      else
        none
  | .handlerStopped _ =>
      if invocation.phase = .running then some (client.leaveHolding index invocation) else none
  | .errorSent _ =>
      if ¬ invocation.ended then
        let sent := { invocation with sequence := invocation.sequence + 1, ended := true }
        match invocation.phase with
        | .sendingError gate _ _ =>
            if (client.destination gate).isSome then some (client.leaveHolding index sent)
            else none
        -- the terminal task may have begun in the session of the request
        | .rejecting =>
            if (client.destination (some invocation.session)).isSome then
              some ((client.put index (sent.acknowledge client.gate)).forget index sent)
            else
              none
        | _ => none
      else
        none
  | .errorFailed _ =>
      match invocation.phase with
      | .sendingError _ _ _ => some (client.leaveHolding index invocation)
      | .rejecting =>
          some ((client.put index (invocation.acknowledge client.gate)).forget index invocation)
      | _ => none
  | .interrupt _ =>
      match invocation.phase with
      | .waiting => some (client.leave index invocation)
      | .sendingError _ _ _ => some (client.leaveHolding index invocation)
      | _ => none
  | .ackSent _ =>
      match invocation.phase with
      | .acknowledging gate =>
          (client.destination gate).map fun session =>
            client.put index
              { invocation with acks := invocation.acks ++ [session], phase := .ended }
      | _ => none
  | .ackFailed _ =>
      match invocation.phase with
      | .acknowledging _ => some (client.put index { invocation with phase := .ended })
      | _ => none
  | .beginAck _ task =>
      if invocation.ackTasks[task]? = some .scheduled then
        some ((client.put index { invocation with
          deadlineHandle := false
          ackTasks := invocation.ackTasks.set task (.sending client.gate)
          }).forget index invocation)
      else
        none
  | .taskSent _ task =>
      match invocation.ackTasks[task]? with
      | some (.sending gate) =>
          (client.destination gate).map fun session =>
            client.put index { invocation with
              ackTasks := invocation.ackTasks.set task .sent
              acks := invocation.acks ++ [session] }
      | _ => none
  | .taskFailed _ task =>
      match invocation.ackTasks[task]? with
      | some (.sending _) =>
          some (client.put index
            { invocation with ackTasks := invocation.ackTasks.set task .failed })
      | _ => none
  | .completed _ =>
      if index ∈ client.dispatcher.active ∧ invocation.phase = .ended then
        some { client with dispatcher := client.dispatcher.completed index }
      else
        none
  -- the loop may run a timer early by less than a millisecond
  | .timer _ =>
      if invocation.deadlineHandle ∧ invocation.remainingTimeMs client.now = some 0 then
        some (client.put index
          { invocation with cancelled := true, deadlineHandle := false, recorded := true })
      else
        none
  | _ => none

/-- One transition. -/
def step (client : RpcClient) (action : RpcAction) : Option RpcClient :=
  match action with
  | .register maxConcurrency =>
      if 1 ≤ maxConcurrency ∧ maxConcurrency ≤ 1024 then
        some { client with
          registrations := client.registrations ++ [{ maxConcurrency, value := maxConcurrency }] }
      else
        none
  | .request correlationId registration budget =>
      if client.usable ∧ registration < client.registrations.length then
        some (client.onRequest correlationId registration budget)
      else
        none
  | .lifecycle kind correlationId value =>
      if client.usable then some (client.onLifecycle kind correlationId value) else none
  | .elapse duration => some { client with now := client.now + duration }
  -- a session that was not fully restored is torn down without an announcement
  | .lose announced closesGate =>
      if client.usable then
        some { client with
          usable := false
          transport := none
          openGates :=
            if closesGate then client.openGates else client.session :: client.openGates
          unannounced := client.unannounced + if announced then 1 else 0 }
      else
        none
  | .announce =>
      if 0 < client.unannounced then
        some { client.disconnect with unannounced := client.unannounced - 1 }
      else
        none
  | .openTransport =>
      if ¬ client.usable ∧ client.transport = none ∧ ¬ client.closed then
        some { client with transport := some (client.session + 1) }
      else
        none
  -- the end of an attempt, or of `_close`
  | .closeTransport => if client.usable then none else some { client with transport := none }
  | .openSession =>
      if ¬ client.usable ∧ client.transport = some (client.session + 1) ∧ ¬ client.closed then
        some { client with usable := true, session := client.session + 1 }
      else
        none
  | .close =>
      if client.closed then none
      else some { client with
        closed := true
        usable := false
        unannounced := client.unannounced + 1
        dispatcher := client.dispatcher.close }
  | .begin index | .acquire index | .respond index _ | .handlerReturned index
  | .handlerRaised index _ | .handlerCancelled index | .handlerStopped index | .errorSent index
  | .errorFailed index | .interrupt index | .ackSent index | .ackFailed index
  | .beginAck index _ | .taskSent index _ | .taskFailed index _ | .completed index
  | .timer index => client.invocations[index]?.bind (client.stepInvocation index · action)

/-- All interleavings. -/
def system : LabelledSystem RpcClient RpcAction where
  starts client := ∃ maximum queueSize, client = { dispatcher := { maximum, queueSize } }
  step := step

end RpcClient

end FitzClient
