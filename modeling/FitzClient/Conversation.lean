import FitzClient.OperationReplies
import FitzClient.RequestFrames
import FitzClient.RequestWrites
import FitzClient.SequentialObject
import FitzClient.SizeRejection

/-!
# A client in conversation with its broker

The client makes a frame of every message, writes it to the transport of its
session and matches the frames that come back by their correlation ids.  The
broker is taken as a sequential object: it reads a frame, performs what the frame
means, and answers an operation that awaits a reply with a final frame under the
same correlation id.

Nothing is said about the order in which frames arrive or are performed, nor
about frames that get lost, since a connection may break off at any time while the
broker goes on with what it has read.  A frame is read once.  The task that
writes a frame takes the transport of the session in which it starts, which is
before any other session can be opened.

Where a frame on the way to the broker comes from is history: the broker reads the
bytes only.
-/

namespace FitzClient

/-- An operation that awaits its reply, or a message sent one way. -/
inductive Origin
  | call (index : Nat)
  | message (index : Nat)
  deriving DecidableEq, Repr

/-- A message that the client has made a frame of. -/
structure Submission where
  capabilityIds : List Nat
  request : Request
  session : Nat
  correlationId : Nat
  data : Bytes
  deriving DecidableEq, Repr

/-- A frame on the way to the broker. -/
structure OutboundFrame where
  origin : Origin
  session : Nat
  data : Bytes
  deriving DecidableEq, Repr

/-- A frame on the way to the client. -/
structure InboundFrame where
  session : Nat
  data : Bytes
  deriving DecidableEq, Repr

/-- The operation waits for a response. -/
def Request.awaitsReply (request : Request) : Bool :=
  (request.contract 0).isSome

namespace FrameCodec

/-- `decode_frame` and, where the frame has extensions, `decode_payload`. -/
def readFrame (data : Bytes) : Except WireException Frame := do
  let frame ← decodeFrame data
  if WireExtensions.present frame.flags ∨ frame.messageType = 2 then
    let (payload, _) ← WireExtensions.decodePayload frame.payload frame.messageType frame.flags
    return { frame with payload }
  else
    return frame

/-- The frames of a handshake and of a GOAWAY, and the pushes. -/
def uncorrelated (frame : Frame) : Bool :=
  frame.messageType = 2 || frame.messageType = 3 || frame.messageType = 4 ||
    frame.correlationId = 0

/-- `frame.flags & RESPONSE_FINAL` -/
def isFinal (frame : Frame) : Bool :=
  frame.flags &&& responseFinal ≠ 0

/-- A frame that completes a request. -/
def completes (data : Bytes) : Bool :=
  match readFrame data with
  | .error _ => false
  | .ok frame => !uncorrelated frame && isFinal frame

end FrameCodec

namespace Multiplexer

/-- `_dispatch_transport_frame` in an established session.  What it raises ends the
session, which is a transition of its own. -/
def receiveFrame (mux : Multiplexer) (data : Bytes) : Option Multiplexer :=
  match FrameCodec.readFrame data with
  | .error _ => some mux
  | .ok frame =>
      if FrameCodec.uncorrelated frame then
        some mux
      else
        mux.step (.receive frame.correlationId frame.messageType frame.payload
          (FrameCodec.isFinal frame))

end Multiplexer

/-- A broker for the messages of clients. -/
abbrev Broker (State : Type) := SequentialObject Request Bytes State

/-- A client, its broker and the frames between them. -/
structure Conversation (State : Type) where
  mux : Multiplexer := {}
  calls : List Submission := []
  messages : List Submission := []
  outbound : List OutboundFrame := []
  inbound : List InboundFrame := []
  service : State
  executed : List (Execution Origin Request Bytes) := []
  deriving DecidableEq

/-- `submit` and `send` are what `Connection.request` and `Connection.send` do for a
message of a domain; `write` is the send task of a request; `perform` is the
broker with one of the frames on their way to it; `push` is any other frame of the
broker; `lose` and `drop` are frames that never arrive. -/
inductive ConversationAction
  | submit (capabilityIds : List Nat) (request : Request)
  | send (capabilityIds : List Nat) (request : Request)
  | write (call : Nat)
  | internal (action : MultiplexerAction)
  | perform (index : Nat) (capabilityIds : List Nat) (request : Request)
  | push (session : Nat) (data : Bytes)
  | deliver (index : Nat)
  | lose (index : Nat)
  | drop (index : Nat)

namespace Conversation

variable {State : Type} (broker : Broker State)

/-- The response frame to a message. -/
def response (request : Request) (correlationId : Nat) (answer : Bytes) :
    Except WireException Bytes :=
  FrameCodec.encodeFrame
    { messageType := request.messageType
      flags := FrameCodec.responseFinal
      correlationId
      payload := answer }

/-- The numbering of a one-way message. -/
def numbered (mux : Multiplexer) (messageType : Nat) (payload : Bytes) :
    Except RequestError (Nat × Multiplexer) :=
  if oneWayNeedsCorrelation messageType payload then
    mux.nextCorrelationId
  else
    .ok (0, mux)

/-- What the broker sends back. -/
def replies (session : Nat) (request : Request) (correlationId : Nat) (answer : Bytes) :
    List InboundFrame :=
  if request.awaitsReply then
    match response request correlationId answer with
    | .ok data => [{ session, data }]
    | .error _ => []
  else
    []

def step (conversation : Conversation State) :
    ConversationAction → Option (Conversation State)
  | .submit capabilityIds request =>
      if request.awaitsReply ∧ conversation.mux.usable then
        match request.submit capabilityIds conversation.mux.nextId,
            conversation.mux.issueRequest request.messageType with
        | .ok data, .ok mux => some { conversation with
            mux
            calls := conversation.calls ++ [{
              capabilityIds, request, data
              session := conversation.mux.session
              correlationId := conversation.mux.nextId }] }
        | _, _ => some conversation
      else
        none
  | .send capabilityIds request =>
      if request.awaitsReply then
        none
      else
        match request.check capabilityIds, request.payload with
        | .ok (), .ok payload =>
            match numbered conversation.mux request.messageType payload with
            | .error _ => some conversation
            | .ok (correlationId, mux) =>
                match request.frame correlationId with
                | .error _ => some { conversation with mux }
                | .ok data => some { conversation with
                    mux
                    messages := conversation.messages ++ [{
                      capabilityIds, request, correlationId, data
                      session := conversation.mux.session }]
                    outbound := conversation.outbound ++ [{
                      origin := .message conversation.messages.length
                      session := conversation.mux.session
                      data }] }
        | _, _ => some conversation
  | .write call =>
      match conversation.calls[call]?, conversation.mux.step (.write call) with
      | some submission, some mux => some { conversation with
          mux
          outbound := conversation.outbound ++ [{
            origin := .call call
            session := submission.session
            data := submission.data }] }
      | _, _ => none
  | .internal action =>
      if action.isInternal then
        (conversation.mux.step action).map fun mux => { conversation with mux }
      else
        none
  | .perform index capabilityIds request =>
      match conversation.outbound[index]? with
      | none => none
      | some underway =>
          match FrameCodec.decodeFrame underway.data with
          | .error _ => none
          | .ok frame =>
              -- the message with its defaults that has this frame
              if request.meaning = request ∧
                  request.submit capabilityIds frame.correlationId = .ok underway.data then
                let (answer, service) := broker.perform conversation.service request
                some { conversation with
                  outbound := conversation.outbound.eraseIdx index
                  inbound := conversation.inbound ++
                    replies underway.session request frame.correlationId answer
                  service
                  executed := conversation.executed ++ [⟨underway.origin, request, answer⟩] }
              else
                none
  | .push session data =>
      if FrameCodec.completes data then
        none
      else
        some { conversation with inbound := conversation.inbound ++ [{ session, data }] }
  -- the receive loop of an earlier transport returns
  | .deliver index =>
      match conversation.inbound[index]? with
      | none => none
      | some underway =>
          if underway.session = conversation.mux.session then
            (conversation.mux.receiveFrame underway.data).map fun mux =>
              { conversation with mux, inbound := conversation.inbound.eraseIdx index }
          else
            none
  | .lose index => some { conversation with outbound := conversation.outbound.eraseIdx index }
  | .drop index => some { conversation with inbound := conversation.inbound.eraseIdx index }

/-- A new client of a broker. -/
def system : LabelledSystem (Conversation State) ConversationAction where
  starts conversation := conversation = { service := broker.initial }
  step := step broker

/-- The message that a frame comes from. -/
def submission (conversation : Conversation State) : Origin → Option Submission
  | .call index => conversation.calls[index]?
  | .message index => conversation.messages[index]?

/-- What an operation comes to that has got its response, read at the time `now`. -/
def result (conversation : Conversation State) (now call : Nat) :
    Option (Except ResponseException Reply) :=
  match conversation.calls[call]?, conversation.mux.requests[call]? with
  | some submission, some issued =>
      match issued.phase with
      | .returned payload => (submission.request.contract now).map (·.decode payload)
      | _ => none
  | _, _ => none

end Conversation

end FitzClient
