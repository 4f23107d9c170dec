import FitzClient.Dictionary
import FitzClient.IndexedCells
import FitzClient.LabelledSystem
import FitzClient.ResponseEnvelope

/-!
# RPC calls

The caller's side of `RPCClient`.  A call is listed in `_pending` from its
creation until it is closed or terminal.  Closing it before its end asks the
broker to cancel it: the future of its cancellation is entered in
`_pending_cancellations` with a timer, and whatever comes first settles it, the
broker's answer, the failure of the message, the timer or a disconnect.

The tasks that close a call may be suspended while their CANCELLATION message
is sent, as `open_call` may be while the REQUEST is; every other method runs
without an `await` between its tests and its updates.  The results of
`__anext__` are history.
-/

namespace FitzClient

/-- `RpcCancellationOutcome` -/
inductive CancellationOutcome
  | notRequested
  | queuedRemoved
  | forwarded
  | workerUnsupported
  | alreadyTerminal
  | unknownOrUnauthorized
  | forwardingFailed
  | unconfirmed
  | connectionClosed
  deriving DecidableEq, Repr

/-- The future of a cancellation, with every result that was set. -/
structure CancellationFuture where
  outcomes : List CancellationOutcome := []
  cancelled : Bool := false
  deriving DecidableEq, Repr

namespace CancellationFuture

def done (future : CancellationFuture) : Bool :=
  future.cancelled || !future.outcomes.isEmpty

/-- `if not future.done(): future.set_result(outcome)` -/
def resolve (future : CancellationFuture) (outcome : CancellationOutcome) : CancellationFuture :=
  if future.done then future else { future with outcomes := future.outcomes ++ [outcome] }

/-- A task that awaits the future is cancelled. -/
def cancel (future : CancellationFuture) : CancellationFuture :=
  if future.done then future else { future with cancelled := true }

end CancellationFuture

structure ResponseFrame where
  body : Bytes
  sequence : Nat
  deriving DecidableEq, Repr

/-- The exceptions that a call raises. -/
inductive CallError
  | timeout (message : String)
  | connection (message : String)
  | rpc (error : RpcError)
  | wire (exception : WireException)
  deriving DecidableEq, Repr

namespace CallError

def timedOut : CallError := .timeout "RPC response timed out"

def disconnected : CallError := .connection "Connection closed while RPC response was pending"

def fellBehind : CallError :=
  .rpc { message := "RPC response consumer fell behind", reason := "BACKPRESSURE" }

/-- How a call that fails with this error was cancelled. -/
def outcome : CallError → CancellationOutcome
  | .connection _ => .connectionClosed
  | .timeout _ | .rpc _ | .wire _ => .notRequested

end CallError

/-- What the queue of a call holds. -/
inductive CallItem
  | frame (frame : ResponseFrame)
  | error (error : CallError)
  | stop
  deriving DecidableEq, Repr

/-- What `__anext__` comes to. -/
inductive Reading
  | frame (frame : ResponseFrame)
  | raised (error : CallError)
  | stopped
  | cancelled
  deriving DecidableEq, Repr

/-- `open_call` sends the request, has returned the call, or has raised. -/
inductive CallOpening
  | sending
  | returned
  | raised
  deriving DecidableEq, Repr

/-- `RPCCall`.  The two watching tasks are those that still wait, `readers`
counts the tasks at `_queue.get()`, and `abandoning` is the reason in the
CANCELLATION message while it is sent. -/
structure RpcCall where
  key : Bytes
  capacity : Nat
  hasDeadline : Bool
  hasParent : Bool
  opening : CallOpening
  queue : List CallItem := []
  closed : Bool := false
  terminal : Bool := false
  failure : Option CallError := none
  cancellation : CancellationFuture := {}
  deadlineTask : Bool := false
  parentTask : Bool := false
  abandoning : Option Nat := none
  readers : Nat := 0
  readings : List Reading := []
  deriving DecidableEq, Repr

namespace RpcCall

/-- The call is closed or terminal. -/
def ended (call : RpcCall) : Bool :=
  call.closed || call.terminal

/-- `_queue.full()` -/
def full (call : RpcCall) : Bool :=
  0 < call.capacity && call.capacity ≤ call.queue.length

/-- `_stop_parent_cancellation` -/
def stopWatchers (call : RpcCall) : RpcCall :=
  { call with deadlineTask := false, parentTask := false }

def record (call : RpcCall) (reading : Reading) : RpcCall :=
  { call with readings := call.readings ++ [reading] }

/-- `__anext__` with the first item of the queue. -/
def take (call : RpcCall) (item : CallItem) : RpcCall :=
  match item with
  | .frame frame => call.record (.frame frame)
  | .error error => { call.record (.raised error) with closed := true, failure := none }
  | .stop =>
      match call.failure with
      | some failure => { call.record (.raised failure) with closed := true, failure := none }
      | none => { call.record .stopped with closed := true }

/-- The error is put into the queue, or kept in `_failure` where the queue is
full. -/
def putError (call : RpcCall) (error : CallError) : RpcCall :=
  if call.full then
    { call with failure := some error }
  else
    { call with failure := none, queue := call.queue ++ [.error error] }

/-- `fail` as far as the call itself goes. -/
def fail (call : RpcCall) (error : CallError) (preserveBuffered : Bool) : RpcCall :=
  { call.stopWatchers with
    closed := true
    cancellation := call.cancellation.resolve error.outcome
    queue := if preserveBuffered then call.queue else [] }
  |>.putError error

/-- The call gets its last frame. -/
def finish (call : RpcCall) (frame : ResponseFrame) : RpcCall :=
  { call.stopWatchers with
    terminal := true
    cancellation := call.cancellation.resolve .notRequested
    queue := call.queue ++ [.frame frame] }

/-- `_close_and_cancel` up to `_abandon_call`. -/
def close (call : RpcCall) : RpcCall :=
  { call.stopWatchers with closed := true, queue := [.stop] }

end RpcCall

inductive TimerStatus
  | armed
  | cancelled
  | fired
  deriving DecidableEq, Repr

/-- The timer of `_abandon_call` for this key. -/
structure GraceTimer where
  key : Bytes
  status : TimerStatus := .armed
  deriving DecidableEq, Repr

/-- `TimerHandle.cancel` -/
def GraceTimer.cancel (timer : GraceTimer) : GraceTimer :=
  match timer.status with
  | .armed => { timer with status := .cancelled }
  | .cancelled | .fired => timer

/-- The calls of an `RPCClient` in the order of their creation.  `pending` leads
to their indices, and `cancellations` to the index of a call, which stands for
its future, and that of a timer. -/
structure RpcCaller where
  calls : List RpcCall := []
  pending : Dictionary Bytes Nat := ∅
  cancellations : Dictionary Bytes (Nat × Nat) := ∅
  timers : List GraceTimer := []
  deriving DecidableEq

/-- What `_on_response` reads. -/
structure ResponseMessage where
  key : Bytes
  sequence : Nat
  final : Bool
  body : Bytes
  deriving DecidableEq, Repr

/-- How the send of a CANCELLATION message ends. -/
inductive CancellationSend
  | returned
  | disconnected
  | failed
  | cancelled
  deriving DecidableEq, Repr

/-- `_MAX_RPC_BUDGET_MS` -/
def maxRpcBudgetMs : Nat := 86400000

/-- The REQUEST that `open_call` builds. -/
def requestPayload (key : Bytes) (route : CodePoints) (body : Bytes) (budget : Option Nat) :
    Except WireException Bytes := do
  let writer ← ((BufferWriter.new 128).writeBytes key).writeString route
  let writer ← writer.writeU32 body.length
  let writer := writer.writeBytes body
  match budget with
  | none => return (← writer.writeU8 0).build
  | some budget => return (← (← writer.writeU8 1).writeU32 (min budget maxRpcBudgetMs)).build

/-- `_on_response` up to the lookup of the call, apart from the two exceptions
that are not of the reader. -/
def ResponseMessage.read : BufferReader (Except RpcError ResponseMessage) := do
  let key ← BufferReader.readBytes 16
  let sequence ← BufferReader.readU64
  let flags ← BufferReader.readU8
  if 1 < flags then
    return .error { message := "Unsupported RPC response flags", reason := "INVALID_RESPONSE" }
  let body ← BufferReader.readBytes (← BufferReader.readU32)
  if ← BufferReader.isEof then
    return .ok { key, sequence, final := flags = 1, body }
  return .error { message := "RPC response has trailing bytes", reason := "INVALID_RESPONSE" }

/-- The message in a RESPONSE, or what `_on_response` raises. -/
def ResponseMessage.parse (payload : Bytes) : Except CallError ResponseMessage :=
  match ResponseMessage.read payload with
  | .error exception => .error (.wire exception)
  | .ok (.error error, _) => .error (.rpc error)
  | .ok (.ok message, _) => .ok message

/-- The outcomes of a LIFECYCLE message of kind 4. -/
def lifecycleOutcome? : UInt8 → Option CancellationOutcome
  | 1 => some .queuedRemoved
  | 2 => some .forwarded
  | 3 => some .workerUnsupported
  | 4 => some .alreadyTerminal
  | 5 => some .unknownOrUnauthorized
  | 6 => some .forwardingFailed
  | _ => none

/-- What happens at the caller's side.  `openCall` brings the bytes of
`os.urandom`; `read` is a call of `__anext__` and whether its deadline has
passed by then, and `take` continues it with an item; `close` is `aclose` or
`cancel`. -/
inductive RpcCallerAction
  | openCall (key : Bytes) (route : CodePoints) (body : Bytes) (budget : Option Nat)
      (parent : Bool)
  | sendReturned (call : Nat)
  | sendRaised (call : Nat)
  | response (payload : Bytes)
  | lifecycle (payload : Bytes)
  | read (call : Nat) (expired : Bool)
  | take (call : Nat)
  | readCancelled (call : Nat)
  | readTimedOut (call : Nat)
  | close (call : Nat)
  | deadline (call : Nat)
  | parentCancelled (call : Nat)
  | cancellationSent (call : Nat) (outcome : CancellationSend)
  | graceExpired (timer : Nat)
  | cancelAwaiter (call : Nat)
  | disconnect
  deriving DecidableEq, Repr

namespace RpcCaller

def put (caller : RpcCaller) (index : Nat) (call : RpcCall) : RpcCaller :=
  { caller with calls := caller.calls.set index call }

/-- `if self._pending.get(key) is call: self._pending.pop(key, None)` -/
def unlist (caller : RpcCaller) (index : Nat) (call : RpcCall) : RpcCaller :=
  if caller.pending.lookup call.key = some index then
    { caller with pending := caller.pending.erase call.key }
  else
    caller

/-- `_settle_cancellation` -/
def settleCancellation (caller : RpcCaller) (key : Bytes) (outcome : CancellationOutcome) :
    RpcCaller :=
  match caller.cancellations.lookup key with
  | none => caller
  | some (index, timer) =>
      { caller with
        cancellations := caller.cancellations.erase key
        timers := caller.timers.modify timer GraceTimer.cancel
        calls := caller.calls.modify index fun call =>
          { call with cancellation := call.cancellation.resolve outcome } }

/-- `RPCCall.fail`, which calls `_finish_call` -/
def fail (caller : RpcCaller) (index : Nat) (call : RpcCall) (error : CallError)
    (preserveBuffered : Bool) : RpcCaller :=
  if call.closed then
    caller
  else
    (caller.unlist index call).put index (call.fail error preserveBuffered)

/-- `RPCCall.push` -/
def push (caller : RpcCaller) (index : Nat) (call : RpcCall) (frame : ResponseFrame)
    (final : Bool) : RpcCaller :=
  if call.closed then
    caller
  else if call.full then
    caller.fail index call .fellBehind false
  else if final then
    (caller.unlist index call).put index (call.finish frame)
  else
    caller.put index { call with queue := call.queue ++ [.frame frame] }

/-- `_abandon_call` up to the send of its message. -/
def abandonCall (caller : RpcCaller) (index : Nat) (call : RpcCall) (reason : Nat) : RpcCaller :=
  let caller := caller.unlist index call
  if call.cancellation.done ∨ (caller.cancellations.lookup call.key).isSome then
    caller.put index call
  else
    { caller.put index { call with abandoning := some reason } with
      cancellations := caller.cancellations.insert call.key (index, caller.timers.length)
      timers := caller.timers ++ [{ key := call.key }] }

/-- `_close_and_cancel` -/
def closeAndCancel (caller : RpcCaller) (index : Nat) (call : RpcCall) (reason : Nat) : RpcCaller :=
  if call.ended then
    caller.put index call
  else
    caller.abandonCall index call.close reason

/-- `_on_response` after the message is read. -/
def deliver (caller : RpcCaller) (message : ResponseMessage) : RpcCaller :=
  match caller.pending.lookup message.key with
  | none => caller
  | some index =>
      match caller.calls[index]? with
      | none => caller
      | some call =>
          match if message.final then decodeTerminalError message.body else none with
          | some error =>
              let caller := caller.fail index call (.rpc error) true
              { caller with pending := caller.pending.erase message.key }
          | none => caller.push index call { message with } message.final

/-- `_on_response`; an exception is the connection's to report. -/
def onResponse (caller : RpcCaller) (payload : Bytes) : RpcCaller :=
  match ResponseMessage.parse payload with
  | .error _ => caller
  | .ok message => caller.deliver message

/-- `_on_lifecycle` for a message about a call. -/
def onLifecycle (caller : RpcCaller) (payload : Bytes) : RpcCaller :=
  if payload.length = 18 ∧ payload.head? = some 4 then
    match payload[17]?.bind lifecycleOutcome? with
    | none => caller
    | some outcome => caller.settleCancellation ((payload.drop 1).take 16) outcome
  else
    caller

/-- `_disconnect` of the calls. -/
def failPending (caller : RpcCaller) (indices : List Nat) : RpcCaller :=
  indices.foldl (fun caller index =>
    match caller.calls[index]? with
    | none => caller
    | some call => caller.fail index call .disconnected true) caller

/-- `_disconnect` of the cancellations. -/
def settleAll (caller : RpcCaller) (keys : List Bytes) : RpcCaller :=
  keys.foldl (fun caller key => caller.settleCancellation key .connectionClosed) caller

/-- `_disconnect` -/
def disconnect (caller : RpcCaller) : RpcCaller :=
  let failed := caller.failPending (caller.pending.entries.map Sigma.snd)
  let cleared := { failed with pending := ∅ }
  cleared.settleAll cleared.cancellations.keys

/-- `open_call` up to the send.  An exception while the request is built leaves
the call in `_pending`. -/
def openCall (caller : RpcCaller) (capacity : Nat) (key : Bytes) (route : CodePoints)
    (body : Bytes) (budget : Option Nat) (parent : Bool) : RpcCaller :=
  { caller with
    calls := caller.calls ++ [{
      key
      capacity
      hasDeadline := budget.isSome
      hasParent := parent
      opening :=
        match requestPayload key route body budget with
        | .ok _ => .sending
        | .error _ => .raised }]
    pending := caller.pending.insert key caller.calls.length }

/-- `__anext__` up to its `await`. -/
def read (caller : RpcCaller) (index : Nat) (call : RpcCall) (expired : Bool) : RpcCaller :=
  match call.queue, call.failure with
  | [], some failure =>
      caller.put index { call.record (.raised failure) with failure := none }
  | queue, _ =>
      if call.ended ∧ queue = [] then
        caller.put index (call.record .stopped)
      else if expired then
        caller.closeAndCancel index (call.record (.raised .timedOut)) 2
      else
        caller.put index { call with readers := call.readers + 1 }

/-- `_abandon_call` after the send of its message. -/
def cancellationSent (caller : RpcCaller) (index : Nat) (call : RpcCall)
    (outcome : CancellationSend) : RpcCaller :=
  let caller := caller.put index { call with abandoning := none }
  match outcome with
  | .returned | .cancelled => caller
  | .disconnected => caller.settleCancellation call.key .connectionClosed
  | .failed => caller.settleCancellation call.key .unconfirmed

/-- A transition of one call. -/
def stepCall (caller : RpcCaller) (index : Nat) (call : RpcCall) :
    RpcCallerAction → Option RpcCaller
  | .sendReturned _ =>
      if call.opening = .sending then
        some (caller.put index { call with
          opening := .returned, deadlineTask := call.hasDeadline, parentTask := call.hasParent })
      else
        none
  | .sendRaised _ =>
      if call.opening = .sending then
        some { caller.put index { call with opening := .raised } with
          pending := caller.pending.erase call.key }
      else
        none
  | .read _ expired =>
      if call.opening = .returned ∧ (expired → call.hasDeadline) then
        some (caller.read index call expired)
      else
        none
  | .take _ =>
      match call.queue with
      | [] => none
      | item :: queue =>
          if 0 < call.readers then
            some (caller.put index ({ call with queue, readers := call.readers - 1 }.take item))
          else
            none
  | .readCancelled _ =>
      if 0 < call.readers then
        some (caller.closeAndCancel index
          ({ call with readers := call.readers - 1 }.record .cancelled) 1)
      else
        none
  | .readTimedOut _ =>
      if 0 < call.readers ∧ call.hasDeadline then
        some (caller.closeAndCancel index
          ({ call with readers := call.readers - 1 }.record (.raised .timedOut)) 2)
      else
        none
  | .close _ =>
      if call.opening = .returned then some (caller.closeAndCancel index call 1) else none
  | .deadline _ =>
      if call.deadlineTask then
        if call.ended then
          some (caller.put index { call with deadlineTask := false })
        else
          some (caller.closeAndCancel index { call with failure := some .timedOut } 2)
      else
        none
  | .parentCancelled _ =>
      if call.parentTask then
        some (caller.closeAndCancel index { call with parentTask := false } 1)
      else
        none
  | .cancellationSent _ outcome =>
      if call.abandoning.isSome then some (caller.cancellationSent index call outcome) else none
  | .cancelAwaiter _ =>
      some (caller.put index { call with cancellation := call.cancellation.cancel })
  | _ => none

/-- One transition. -/
def step (capacity : Nat) (caller : RpcCaller) (action : RpcCallerAction) : Option RpcCaller :=
  match action with
  | .openCall key route body budget parent =>
      -- `os.urandom(16)` gives every call a key of its own
      if key.length = 16 ∧ key ∉ caller.calls.map (·.key) then
        some (caller.openCall capacity key route body budget parent)
      else
        none
  | .response payload => some (caller.onResponse payload)
  | .lifecycle payload => some (caller.onLifecycle payload)
  | .graceExpired timer =>
      caller.timers[timer]?.bind fun handle =>
        if handle.status = .armed then
          some ({ caller with timers := caller.timers.set timer { handle with status := .fired } }
            |>.settleCancellation handle.key .unconfirmed)
        else
          none
  | .disconnect => some caller.disconnect
  | .sendReturned index | .sendRaised index | .read index _ | .take index | .readCancelled index
  | .readTimedOut index | .close index | .deadline index | .parentCancelled index
  | .cancellationSent index _ | .cancelAwaiter index =>
      caller.calls[index]?.bind (caller.stepCall index · action)

/-- All interleavings at one client whose queues hold this many items. -/
def system (capacity : Nat) : LabelledSystem RpcCaller RpcCallerAction where
  starts caller := caller = {}
  step := step capacity

end RpcCaller

end FitzClient
