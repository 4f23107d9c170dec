import FitzClient.Dictionary
import FitzClient.LabelledSystem

/-!
# The multiplexer

`Multiplexer` gives every request a correlation id, registers it under that id
and resolves its future when the final response frame with the id arrives.
The coroutine `_issue_request` suspends at three awaits: the shielded send, a
second shielded wait for the same send after a cancellation, and the response
future.  Between any two awaits frames arrive, other requests run, and the
connection may be reset.

The send of a request is a task of its own.  It is shielded, so it goes on
writing after the request that started it has given up.

A cancellation and the expiry of a timeout are transitions of the request at
the moment its task runs with the exception.  The `session` number, the log of
received frames and the fields of a request that say when it was registered
and which frame answered it are history: no function of the multiplexer reads
them.
-/

namespace FitzClient

abbrev Bytes := List UInt8

/-- The exceptions that the handlers of `_issue_request` tell apart. -/
inductive RequestError
  | timeout
  | cancelled
  | fitzTimeout
  | fitzConnection (message : String)
  | other
  deriving DecidableEq, Repr

/-- The future that a request awaits. -/
inductive ResponseFuture
  | pending
  | result (payload : Bytes)
  | exception (error : RequestError)
  deriving DecidableEq, Repr

/-- `PendingRequest`.  The future is `none` once the request is a tombstone. -/
structure PendingRequest where
  future : Option ResponseFuture := some .pending
  sent : Bool := false
  correlationId : Nat
  deriving DecidableEq, Repr

/-- The task that runs `send(frame_data)`. -/
inductive SendFuture
  | pending
  | returned
  | raised (error : RequestError)
  deriving DecidableEq, Repr

/-- The await at which `_issue_request` is suspended, or how it ended. -/
inductive RequestPhase
  | sending
  | draining
  | awaiting
  | returned (payload : Bytes)
  | raised (error : RequestError)
  deriving DecidableEq, Repr

/-- `_issue_request` has returned or raised. -/
def RequestPhase.finished : RequestPhase → Bool
  | .returned _ | .raised _ => true
  | .sending | .draining | .awaiting => false

/-- One call of `_issue_request` that has registered its request. -/
structure IssuedRequest where
  messageType : Nat
  pending : PendingRequest
  phase : RequestPhase := .sending
  send : SendFuture := .pending
  written : Bool := false
  session : Nat
  registeredAt : Nat
  answeredBy : Option Nat := none
  deriving DecidableEq, Repr

/-- A frame with a correlation id that the receive loop dispatched. -/
structure CorrelatedFrame where
  correlationId : Nat
  messageType : Nat
  payload : Bytes
  responseFinal : Bool
  session : Nat
  deriving DecidableEq, Repr

/-- `_correlated`: correlation ids and the index of the request registered
under each. -/
abbrev CorrelationTable := Dictionary Nat Nat

/-- The multiplexer with every request ever issued.  `usable` says that the
connection is authenticated or restoring, `greeted` that a HELLO was accepted
since it last stopped being so. -/
structure Multiplexer where
  connected : Bool := false
  protocolVersion : Nat := 0
  capabilities : Nat := 0
  nextId : Nat := 1
  correlated : CorrelationTable := ∅
  requests : List IssuedRequest := []
  received : List CorrelatedFrame := []
  session : Nat := 0
  usable : Bool := false
  greeted : Bool := false
  deriving DecidableEq

namespace PendingRequest

/-- `_remove` -/
def remove (pending : PendingRequest) (correlated : CorrelationTable) : CorrelationTable :=
  correlated.erase pending.correlationId

/-- `_abandon` -/
def abandon (pending : PendingRequest) (correlated : CorrelationTable) :
    PendingRequest × CorrelationTable :=
  if pending.sent then
    ({ pending with future := none }, correlated)
  else
    (pending, pending.remove correlated)

end PendingRequest

namespace IssuedRequest

/-- Abandon the request and leave `_issue_request` with an exception. -/
def abandon (issued : IssuedRequest) (correlated : CorrelationTable) (error : RequestError) :
    IssuedRequest × CorrelationTable :=
  ({ issued with
      pending := (issued.pending.abandon correlated).1
      phase := .raised error },
    (issued.pending.abandon correlated).2)

/-- `pending.sent = True` -/
def markSent (issued : IssuedRequest) : IssuedRequest :=
  { issued with pending := { issued.pending with sent := true } }

/-- The `except` clauses around the body of `_issue_request`. -/
def handleError (issued : IssuedRequest) (correlated : CorrelationTable) :
    RequestError → IssuedRequest × CorrelationTable
  | .timeout => issued.abandon correlated .fitzTimeout
  | .cancelled => issued.abandon correlated .cancelled
  | .fitzTimeout => issued.markSent.abandon correlated .fitzTimeout
  | .fitzConnection message => issued.markSent.abandon correlated (.fitzConnection message)
  | .other =>
      if issued.pending.sent then
        issued.markSent.abandon correlated .other
      else
        ({ issued with phase := .raised .other }, issued.pending.remove correlated)

/-- `return await future` once the send has returned: a future that is done
does not suspend. -/
def awaitFuture (issued : IssuedRequest) (correlated : CorrelationTable) :
    IssuedRequest × CorrelationTable :=
  match issued.pending.future with
  | some (.result payload) => ({ issued with phase := .returned payload }, correlated)
  | some (.exception error) => issued.handleError correlated error
  | _ => ({ issued with phase := .awaiting }, correlated)

/-- `except asyncio.CancelledError` around the shielded send: wait for the
send and keep the request as a tombstone if it was sent. -/
def drain (issued : IssuedRequest) (correlated : CorrelationTable) :
    IssuedRequest × CorrelationTable :=
  match issued.send with
  | .pending => ({ issued with phase := .draining }, correlated)
  | .returned => issued.markSent.handleError correlated .cancelled
  | .raised _ => issued.handleError (issued.pending.remove correlated) .cancelled

/-- The task runs again because the future it awaits is done. -/
def resume (issued : IssuedRequest) (correlated : CorrelationTable) :
    Option (IssuedRequest × CorrelationTable) :=
  match issued.phase with
  | .sending =>
      match issued.send with
      | .pending => none
      | .returned => some (issued.markSent.awaitFuture correlated)
      | .raised .cancelled => some (issued.drain correlated)
      | .raised error => some (issued.handleError correlated error)
  | .draining => if issued.send = .pending then none else some (issued.drain correlated)
  | .awaiting =>
      if issued.pending.future = some .pending then
        none
      else
        some (issued.awaitFuture correlated)
  | .returned _ | .raised _ => none

/-- The task runs again with a `CancelledError`. -/
def cancel (issued : IssuedRequest) (correlated : CorrelationTable) :
    Option (IssuedRequest × CorrelationTable) :=
  match issued.phase with
  | .sending => some (issued.drain correlated)
  -- `except BaseException` around the second wait, whatever the send does
  | .draining => some (issued.handleError (issued.pending.remove correlated) .cancelled)
  | .awaiting => some (issued.handleError correlated .cancelled)
  | .returned _ | .raised _ => none

/-- `asyncio.timeout(timeout)` around the response future expires. -/
def timeout (issued : IssuedRequest) (correlated : CorrelationTable) :
    Option (IssuedRequest × CorrelationTable) :=
  if issued.phase = .awaiting then some (issued.handleError correlated .timeout) else none

/-- The send task hands the frame to the transport. -/
def write (issued : IssuedRequest) (correlated : CorrelationTable) :
    Option (IssuedRequest × CorrelationTable) :=
  if issued.send = .pending ∧ issued.written = false then
    some ({ issued with written := true }, correlated)
  else
    none

/-- The send task ends; it returns only after it has written the frame. -/
def sendDone (issued : IssuedRequest) (outcome : SendFuture) (correlated : CorrelationTable) :
    Option (IssuedRequest × CorrelationTable) :=
  if issued.send = .pending ∧ outcome ≠ .pending ∧ (outcome = .returned → issued.written) then
    some ({ issued with send := outcome }, correlated)
  else
    none

/-- `future.set_result` or `future.set_exception` unless the future is done
or the request is a tombstone. -/
def settle (issued : IssuedRequest) (outcome : ResponseFuture) : IssuedRequest :=
  if issued.pending.future = some .pending then
    { issued with pending := { issued.pending with future := some outcome } }
  else
    issued

end IssuedRequest

namespace Multiplexer

def setConnected (mux : Multiplexer) : Multiplexer :=
  { mux with connected := true, nextId := 1, session := mux.session + 1 }

/-- `cancel_all` -/
def cancelAll (mux : Multiplexer) : Multiplexer :=
  { mux with
    correlated := ∅
    requests := mux.requests.mapIdx fun request issued =>
      if request ∈ mux.correlated.entries.map Sigma.snd then
        issued.settle (.exception (.fitzConnection "Connection closed or reset"))
      else
        issued }

def setDisconnected (mux : Multiplexer) : Multiplexer :=
  { mux with
    connected := false
    protocolVersion := 0
    capabilities := 0
    session := mux.session + 1 }.cancelAll

def setCapabilities (mux : Multiplexer) (protocolVersion capabilities : Nat) : Multiplexer :=
  { mux with protocolVersion, capabilities }

def correlationEnabled (mux : Multiplexer) : Bool :=
  2 ≤ mux.protocolVersion

def nextCorrelationId (mux : Multiplexer) : Except RequestError (Nat × Multiplexer) :=
  if 0xFFFFFFFFFFFFFFFF < mux.nextId then
    .error (.fitzConnection
      "Correlation IDs exhausted; reconnect before sending another request")
  else
    .ok (mux.nextId, { mux with nextId := mux.nextId + 1 })

/-- `_issue_request` up to its first `await`. -/
def issueRequest (mux : Multiplexer) (messageType : Nat) : Except RequestError Multiplexer :=
  if mux.correlationEnabled then
    mux.nextCorrelationId.map fun (correlationId, mux) =>
      { mux with
        correlated := mux.correlated.insert correlationId mux.requests.length
        requests := mux.requests ++ [{
          messageType
          pending := { correlationId }
          session := mux.session
          registeredAt := mux.received.length }] }
  else
    .error (.fitzConnection "Wire-3 HELLO is required before sending requests")

/-- `dispatch_correlated`; the error is the text of its `ProtocolError`. -/
def dispatchCorrelated (mux : Multiplexer) (correlationId messageType : Nat) (payload : Bytes)
    (responseFinal : Bool) : Except String Multiplexer :=
  match mux.correlated.lookup correlationId with
  | none =>
      .error s!"Unexpected response correlation {correlationId} for message type {messageType}"
  | some request =>
      if responseFinal then
        .ok { mux with
          correlated := mux.correlated.erase correlationId
          requests := mux.requests.modify request fun issued =>
            { issued.settle (.result payload) with answeredBy := some mux.received.length } }
      else
        .ok mux

/-- Run one request task against the correlation table. -/
def runTask (mux : Multiplexer) (request : Nat)
    (task : IssuedRequest → CorrelationTable → Option (IssuedRequest × CorrelationTable)) :
    Option Multiplexer :=
  match mux.requests[request]? with
  | none => none
  | some issued =>
      (task issued mux.correlated).map fun (issued, correlated) =>
        { mux with correlated, requests := mux.requests.set request issued }

/-- Append a frame to the history. -/
def logFrame (mux : Multiplexer) (frame : CorrelatedFrame) : Multiplexer :=
  { mux with received := mux.received ++ [frame] }

end Multiplexer

/-- What can happen at a multiplexer inside a connection. -/
inductive MultiplexerAction
  | leave
  | hello
  | setConnected
  | setDisconnected
  | issue (messageType : Nat)
  | oneWay
  | write (request : Nat)
  | sendDone (request : Nat) (outcome : SendFuture)
  | resume (request : Nat)
  | cancel (request : Nat)
  | timeout (request : Nat)
  | receive (correlationId messageType : Nat) (payload : Bytes) (responseFinal : Bool)
  deriving DecidableEq, Repr

namespace Multiplexer

/-- One transition. -/
def step (mux : Multiplexer) : MultiplexerAction → Option Multiplexer
  -- the connection starts an attempt or stops being authenticated
  | .leave => some { mux with usable := false, greeted := false }
  -- `_dispatch_transport_frame` refuses a HELLO in an established session
  | .hello =>
      if mux.protocolVersion = 0 then
        some { mux.setCapabilities 3 0 with greeted := true }
      else
        none
  -- `_open_and_authenticate` after its HELLO
  | .setConnected =>
      if mux.greeted ∧ ¬ mux.usable then
        some { mux.setConnected with usable := true, greeted := false }
      else
        none
  | .setDisconnected => some mux.setDisconnected
  | .issue messageType =>
      if mux.usable then
        match mux.issueRequest messageType with
        | .ok next => some next
        | .error _ => some mux
      else
        none
  | .oneWay =>
      match mux.nextCorrelationId with
      | .ok (_, next) => some next
      | .error _ => some mux
  | .write request => mux.runTask request IssuedRequest.write
  | .sendDone request outcome => mux.runTask request (IssuedRequest.sendDone · outcome)
  | .resume request => mux.runTask request IssuedRequest.resume
  | .cancel request => mux.runTask request IssuedRequest.cancel
  | .timeout request => mux.runTask request IssuedRequest.timeout
  | .receive correlationId messageType payload responseFinal =>
      let frame : CorrelatedFrame :=
        { correlationId, messageType, payload, responseFinal, session := mux.session }
      match mux.dispatchCorrelated correlationId messageType payload responseFinal with
      | .ok next => some (next.logFrame frame)
      | .error _ => some (mux.logFrame frame)

/-- All interleavings from a new multiplexer. -/
def system : LabelledSystem Multiplexer MultiplexerAction where
  starts mux := mux = {}
  step := step

end Multiplexer

end FitzClient
