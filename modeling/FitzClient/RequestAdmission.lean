import FitzClient.Multiplexer
import FitzClient.RequestGate

/-!
# Admission of requests

`Connection.request` takes a slot of the request gate, hands its request to the
multiplexer and gives the slot back in a `finally` block.  The gate is
replaced when an attempt to connect starts and again when a HELLO tells how
many unanswered requests the broker accepts; a call keeps the gate it was made
at.

Slots count calls that have not ended, while the broker counts frames that it
has not answered.
-/

namespace FitzClient

/-- A call of `request` suspended in `gate.acquire`. -/
structure WaitingCall where
  gate : Nat
  waiter : Nat
  messageType : Nat
  deriving DecidableEq, Repr

/-- The release token of a call whose request was issued. -/
structure SlotHolder where
  gate : Nat
  token : Nat
  deriving DecidableEq, Repr

/-- The part of a connection that admits requests: every gate it created, the
last one being `_gate`, the calls that wait, and for each issued request the
token its call holds. -/
structure RequestAdmission where
  limit : Nat
  queueSize : Nat
  maxInFlight : Nat
  gates : List RequestGate
  multiplexer : Multiplexer := {}
  waiting : List WaitingCall := []
  holders : List SlotHolder := []
  deriving DecidableEq

inductive AdmissionAction
  | openTransport
  | hello (serverMaxInFlight : Nat)
  | setConnected
  | attemptFailed
  | connectionLost
  | request (messageType : Nat)
  | cancelWaiting (call : Nat)
  | resumeWaiting (call : Nat)
  | write (request : Nat)
  | sendDone (request : Nat) (outcome : SendFuture)
  | resume (request : Nat)
  | cancel (request : Nat)
  | timeout (request : Nat)
  | receive (correlationId messageType : Nat) (payload : Bytes) (responseFinal : Bool)
  deriving DecidableEq, Repr

/-- `_issue_request` of this request has returned or raised. -/
def Multiplexer.ended (mux : Multiplexer) (request : Nat) : Bool :=
  match mux.requests[request]? with
  | some issued => issued.phase.finished
  | none => false

namespace RequestAdmission

/-- The index of `_gate`. -/
def currentGate (admission : RequestAdmission) : Nat :=
  admission.gates.length - 1

/-- `self._gate = RequestGate(maximum, request_queue_size)` -/
def newGate (admission : RequestAdmission) (maximum : Nat) : RequestAdmission :=
  { admission with
    gates := admission.gates ++ [{ maximum, queueSize := admission.queueSize }] }

def setGate (admission : RequestAdmission) (gate : Nat) (after : RequestGate) :
    RequestAdmission :=
  { admission with gates := admission.gates.set gate after }

/-- `release()` -/
def release (admission : RequestAdmission) (holder : SlotHolder) : RequestAdmission :=
  match admission.gates[holder.gate]? with
  | none => admission
  | some gate => admission.setGate holder.gate ((gate.release holder.token).getD gate)

/-- A transition of the multiplexer alone. -/
def multiplex (admission : RequestAdmission) (action : MultiplexerAction) :
    Option RequestAdmission :=
  (admission.multiplexer.step action).map fun multiplexer => { admission with multiplexer }

/-- `request` once it holds a token: issue the request, or raise and release
the token. -/
def enter (admission : RequestAdmission) (holder : SlotHolder) (messageType : Nat) :
    RequestAdmission :=
  match admission.multiplexer.issueRequest messageType with
  | .ok multiplexer =>
      { admission with multiplexer, holders := admission.holders ++ [holder] }
  | .error _ => admission.release holder

/-- `request` up to its first `await`. -/
def request (admission : RequestAdmission) (messageType : Nat) : Option RequestAdmission :=
  if admission.multiplexer.usable then
    match admission.gates[admission.currentGate]? with
    | none => none
    | some gate =>
        let after := admission.setGate admission.currentGate gate.acquire.2
        match gate.acquire.1 with
        | .token token => some (after.enter ⟨admission.currentGate, token⟩ messageType)
        | .waiting waiter =>
            some { after with
              waiting := after.waiting ++ [⟨admission.currentGate, waiter, messageType⟩] }
        | .connectionClosed | .queueFull => some after
  else
    none

/-- A waiting call runs again. -/
def resumeWaiting (admission : RequestAdmission) (call : WaitingCall) :
    Option RequestAdmission :=
  match admission.gates[call.gate]? with
  | none => none
  | some gate =>
      match gate.resume call.waiter with
      | none => none
      | some (none, after) => some (admission.setGate call.gate after)
      | some (some token, after) =>
          some ((admission.setGate call.gate after).enter ⟨call.gate, token⟩ call.messageType)

/-- A transition of a request task; when the task ends, `finally` releases the
token of its call. -/
def runRequest (admission : RequestAdmission) (request : Nat) (action : MultiplexerAction) :
    Option RequestAdmission :=
  (admission.multiplex action).map fun after =>
    match admission.holders[request]? with
    | none => after
    | some holder =>
        if !admission.multiplexer.ended request && after.multiplexer.ended request then
          after.release holder
        else
          after

/-- `set_disconnected`, with the end of the session. -/
def disconnect (admission : RequestAdmission) : RequestAdmission :=
  { admission with
    multiplexer :=
      { admission.multiplexer.setDisconnected with usable := false, greeted := false } }

/-- `_connection_lost`, as far as requests are concerned. -/
def connectionLost (admission : RequestAdmission) : RequestAdmission :=
  match admission.gates[admission.currentGate]? with
  | none => admission.disconnect
  | some gate => (admission.setGate admission.currentGate gate.close).disconnect

/-- One transition. -/
def step (admission : RequestAdmission) : AdmissionAction → Option RequestAdmission
  | .openTransport =>
      if admission.multiplexer.usable then
        none
      else
        (admission.multiplex .leave).map fun after => after.newGate admission.limit
  | .hello serverMaxInFlight =>
      if serverMaxInFlight < 1 then
        none
      else
        (admission.multiplex .hello).map fun after =>
          { after.newGate (min serverMaxInFlight admission.limit) with
            maxInFlight := min serverMaxInFlight admission.limit }
  | .setConnected => admission.multiplex .setConnected
  -- `_open_and_authenticate` fails before it is authenticated
  | .attemptFailed => if admission.multiplexer.usable then none else some admission.disconnect
  | .connectionLost => some admission.connectionLost
  | .request messageType => admission.request messageType
  | .cancelWaiting call =>
      match admission.waiting[call]? with
      | none => none
      | some call =>
          match admission.gates[call.gate]? with
          | none => none
          | some gate => (gate.cancel call.waiter).map (admission.setGate call.gate)
  | .resumeWaiting call =>
      match admission.waiting[call]? with
      | none => none
      | some call => admission.resumeWaiting call
  | .write request => admission.multiplex (.write request)
  | .sendDone request outcome => admission.multiplex (.sendDone request outcome)
  | .resume request => admission.runRequest request (.resume request)
  | .cancel request => admission.runRequest request (.cancel request)
  | .timeout request => admission.runRequest request (.timeout request)
  | .receive correlationId messageType payload responseFinal =>
      admission.multiplex (.receive correlationId messageType payload responseFinal)

/-- All interleavings at a connection with the given `limits`. -/
def system (limit queueSize : Nat) : LabelledSystem RequestAdmission AdmissionAction where
  starts admission := admission =
    { limit, queueSize, maxInFlight := limit, gates := [{ maximum := limit, queueSize }] }
  step := step

end RequestAdmission

/-- The broker has the frame and has not answered it. -/
def IssuedRequest.unansweredIn (issued : IssuedRequest) (session : Nat) : Bool :=
  issued.session == session && issued.written && issued.answeredBy.isNone

/-- The requests of the current session that the broker counts. -/
def RequestAdmission.unanswered (admission : RequestAdmission) : Nat :=
  admission.multiplexer.requests.countP
    (IssuedRequest.unansweredIn · admission.multiplexer.session)

end FitzClient
