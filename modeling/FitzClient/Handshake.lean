import FitzClient.FrameCodec
import FitzClient.WireExtensions

/-!
# The handshake

An attempt to connect sends a CONNECT frame and waits for a HELLO, which says
how long a message may be and how many requests may be unanswered.  What was
negotiated stands in fields of the connection and of its multiplexer, which
outlive the session; the end of a session resets some of them.

The receive loop runs beside the attempt, so messages may arrive before the
CONNECT frame is sent.  The messages after it that are given to an attempt are
those that the receive loop takes before the attempt goes on.  The lengths that
are compared with a limit inherited from an earlier session are history.
-/

namespace FitzClient

/-- The part of the configuration that the handshake reads. -/
structure HandshakeConfig where
  maxFrameSize : Nat
  maxInFlight : Nat
  serviceName : CodePoints := []
  deriving DecidableEq, Repr

/-- What the token provider returned. -/
inductive Token
  | text (value : CodePoints)
  | raw (value : Bytes)
  deriving DecidableEq, Repr

/-- The exceptions that end a handshake.  The texts of the first two name the
limit as well. -/
inductive HandshakeError
  | connectTooLong (length : Nat)
  | messageTooLong (length : Nat)
  | wire (error : WireException)
  | changed
  deriving DecidableEq, Repr

/-- The text about a message that exceeds a limit. -/
def tooLong (length limit : Nat) : String :=
  s!"Fitz message length {length} exceeds max message size {limit}"

/-- The exception that is raised under a limit. -/
def HandshakeError.exception (limit : Nat) : HandshakeError → WireException
  | .connectTooLong length => .transport (tooLong length limit)
  | .messageTooLong length => .connection (tooLong length limit)
  | .wire error => error
  | .changed => .connection "Connection changed while authentication was in progress"

/-- The fields of the connection and of its multiplexer that a handshake
reads or writes. -/
structure HandshakeFields where
  maxMessageBytes : Nat
  maxInFlight : Nat
  sessionId : Nat := 0
  goaway : Option (Nat × Nat × String) := none
  protocolVersion : Nat := 0
  capabilities : Nat := 0
  capabilityIds : List Nat := []
  deriving DecidableEq, Repr

/-- The code points that `str.strip` removes. -/
def isSpace (point : Nat) : Bool :=
  point ∈ [0x20, 0x85, 0xA0, 0x1680, 0x2028, 0x2029, 0x202F, 0x205F, 0x3000] ||
    (0x09 ≤ point && point ≤ 0x0D) || (0x1C ≤ point && point ≤ 0x1F) ||
    (0x2000 ≤ point && point ≤ 0x200A)

/-- `value.strip()` -/
def CodePoints.strip (value : CodePoints) : CodePoints :=
  ((value.dropWhile isSpace).reverse.dropWhile isSpace).reverse

/-- `token_bytes` -/
def Token.bytes : Token → Except WireException Bytes
  | .text value => value.encode
  | .raw value => .ok value

/-- `token_bytes.decode("utf-8")` -/
def Token.decoded (token : Token) : Except WireException String := do
  match Utf8.decode? (← token.bytes) with
  | some value => return value
  | none => throw .unicodeDecode

/-- The payload that `_send_connect` builds. -/
def connectPayload (config : HandshakeConfig) (token : Token) : Except WireException Bytes := do
  let decoded ← token.decoded
  let writer ← (BufferWriter.new 128).writeU16 3
  let writer ← writer.writeU16 3
  let writer ← writer.writeU32 0
  let writer ← writer.writeString (.ofString decoded)
  let writer ← writer.writeString config.serviceName.strip
  let writer ← writer.writeString (.ofString "fitz-py/0.4.0")
  let capabilities ← WireExtensions.encodeCapabilities WireExtensions.clientCapabilityIds
  WireExtensions.encodePayload writer.build [(1, capabilities)]

/-- The frame that `_send_connect` builds. -/
def connectFrame (config : HandshakeConfig) (token : Token) : Except WireException Bytes := do
  let payload ← connectPayload config token
  FrameCodec.encodeFrame {
    messageType := 1
    flags := WireExtensions.extensionsPresent
    correlationId := 0
    payload }

/-- The body of a HELLO. -/
structure Hello where
  version : Nat
  capabilities : Nat
  maxMessageBytes : Nat
  maxInFlight : Nat
  sessionId : Nat
  deriving DecidableEq, Repr

/-- What a received frame does to the connection. -/
inductive FrameEffect
  | none
  | accepts (hello : Hello) (capabilityIds : List Nat)
  | refuses (sessionId : Nat) (error : WireException)
  | announces (goaway : Nat × Nat × String)
  | raises (error : WireException)
  deriving DecidableEq, Repr

/-- `frame.flags & ~EXTENSIONS_PRESENT` -/
def otherFlags (flags : Nat) : Bool :=
  flags - (flags &&& WireExtensions.extensionsPresent) ≠ 0

def readHello : BufferReader Hello := do
  let version ← .readU16
  let capabilities ← .readU32
  let maxMessageBytes ← .readU32
  let maxInFlight ← .readU32
  let sessionId ← .readU64
  return { version, capabilities, maxMessageBytes, maxInFlight, sessionId }

/-- A HELLO in a session that has this protocol version.  `_session_id` is set
before the limits are looked at. -/
def receiveHello (protocolVersion : Nat) (frame : Frame) (capabilityIds : List Nat) :
    FrameEffect :=
  if protocolVersion ≠ 0 then
    .raises (.protocol "Repeated HELLO cannot renegotiate an established session" .none)
  else if frame.flags ≠ WireExtensions.extensionsPresent ∨ frame.correlationId ≠ 0 ∨
      frame.payload.length ≠ 22 then
    .raises (.connection "Malformed HELLO message")
  else
    match readHello frame.payload with
    | .error error => .raises error
    | .ok (hello, _) =>
        if hello.version ≠ 3 ∨ hello.capabilities ≠ 0 ∨ hello.maxMessageBytes < 15 ∨
            hello.maxInFlight < 1 then
          .refuses hello.sessionId (.connection "Broker advertised invalid Wire-3 limits")
        else
          .accepts hello capabilityIds

def receiveConnectRejected (frame : Frame) : FrameEffect :=
  let body : BufferReader (Nat × String) := do return (← .readU16, ← .readString)
  match body frame.payload with
  | .error error => .raises error
  | .ok ((code, message), unread) =>
      if unread ≠ [] ∨ otherFlags frame.flags ∨ frame.correlationId ≠ 0 then
        .raises (.connection "Malformed CONNECT_REJECTED message")
      else if code = 50 then
        .raises (.protocol s!"wire version mismatch: {message}" code)
      else
        .raises (.authentication
          (if message = "" then "authentication rejected" else message) code)

def receiveGoaway (frame : Frame) : FrameEffect :=
  let body : BufferReader (Nat × Nat × String) :=
    do return (← .readU16, ← .readU32, ← .readString)
  match body frame.payload with
  | .error error => .raises error
  | .ok (goaway, unread) =>
      if unread ≠ [] ∨ otherFlags frame.flags ∨ frame.correlationId ≠ 0 then
        .raises (.connection "Malformed GOAWAY message")
      else
        .announces goaway

/-- `_dispatch_transport_frame` for a message that is not too long, in a
session with this protocol version where the given correlation ids are
registered.  A push handler and a goaway callback raise nothing. -/
def dispatchTransportFrame (protocolVersion : Nat) (registered : List Nat) (data : Bytes) :
    FrameEffect :=
  if data.isEmpty then
    .none
  else
    match FrameCodec.decodeFrame data with
    | .error error => .raises error
    | .ok frame =>
        let decoded :=
          if WireExtensions.present frame.flags ∨ frame.messageType = 2 then
            WireExtensions.decodePayload frame.payload frame.messageType frame.flags
          else
            .ok (frame.payload, [])
        match decoded with
        | .error error => .raises error
        | .ok (payload, capabilityIds) =>
            let frame := { frame with payload }
            if frame.messageType = 2 then
              receiveHello protocolVersion frame capabilityIds
            else if frame.messageType = 3 then
              receiveConnectRejected frame
            else if frame.messageType = 4 then
              receiveGoaway frame
            else if frame.correlationId = 0 ∨ frame.correlationId ∈ registered then
              .none
            else
              .raises (.protocol
                (s!"Unexpected response correlation {frame.correlationId} " ++
                  s!"for message type {frame.messageType}") .none)

namespace HandshakeFields

/-- The fields of a new client. -/
def new (config : HandshakeConfig) : HandshakeFields where
  maxMessageBytes := min config.maxFrameSize 1048576
  maxInFlight := config.maxInFlight

/-- `set_disconnected` -/
def setDisconnected (fields : HandshakeFields) : HandshakeFields :=
  { fields with protocolVersion := 0, capabilities := 0, capabilityIds := [] }

/-- What the frame that has this effect leaves in the fields. -/
def apply (config : HandshakeConfig) (fields : HandshakeFields) : FrameEffect → HandshakeFields
  | .none | .raises _ => fields
  | .accepts hello capabilityIds =>
      { fields with
        maxMessageBytes := min (min hello.maxMessageBytes config.maxFrameSize) 1048576
        maxInFlight := min hello.maxInFlight config.maxInFlight
        sessionId := hello.sessionId
        protocolVersion := hello.version
        capabilities := hello.capabilities
        capabilityIds := capabilityIds.filter (· ∈ WireExtensions.clientCapabilityIds) }
  | .refuses sessionId _ => { fields with sessionId }
  | .announces goaway => { fields with goaway }

end HandshakeFields

/-- The future `_auth_error`. -/
inductive AuthVerdict
  | pending
  | accepted
  | rejected (error : HandshakeError)
  deriving DecidableEq, Repr

/-- The connection during an attempt: the fields, the future, whether the
receive loop goes on, and the lengths compared with an inherited limit. -/
structure Handshake where
  fields : HandshakeFields
  verdict : AuthVerdict := .pending
  receiving : Bool := true
  compared : List Nat := []
  deriving DecidableEq, Repr

namespace Handshake

/-- `set_result` or `set_exception` unless the future is done. -/
def resolve (handshake : Handshake) (verdict : AuthVerdict) : Handshake :=
  if handshake.verdict = .pending then { handshake with verdict } else handshake

/-- The receive loop gets an exception. -/
def raise (handshake : Handshake) (error : HandshakeError) : Handshake :=
  { handshake.resolve (.rejected error) with receiving := false }

/-- A comparison with a limit that no HELLO of this session has set. -/
def compare (handshake : Handshake) (length : Nat) : Handshake :=
  { handshake with
    compared :=
      if handshake.fields.protocolVersion = 0 then
        handshake.compared ++ [length]
      else
        handshake.compared }

/-- A frame with this effect is dispatched. -/
def act (config : HandshakeConfig) (handshake : Handshake) (effect : FrameEffect) : Handshake :=
  let after := { handshake with fields := handshake.fields.apply config effect }
  match effect with
  | .none | .announces _ => after
  | .accepts _ _ => after.resolve .accepted
  | .refuses _ error | .raises error => after.raise (.wire error)

/-- The receive loop takes a message. -/
def receive (config : HandshakeConfig) (registered : List Nat) (handshake : Handshake)
    (data : Bytes) : Handshake :=
  if handshake.receiving then
    let compared := handshake.compare data.length
    if handshake.fields.maxMessageBytes < data.length then
      compared.raise (.messageTooLong data.length)
    else
      compared.act config
        (dispatchTransportFrame handshake.fields.protocolVersion registered data)
  else
    handshake

/-- The receive loop takes messages of an attempt, in which no request is
registered. -/
def receiveAll (config : HandshakeConfig) (handshake : Handshake) (messages : List Bytes) :
    Handshake :=
  messages.foldl (receive config []) handshake

end Handshake

/-- How an attempt ended, as far as the handshake decides it. -/
inductive HandshakeOutcome
  | negotiated (maxMessageBytes maxInFlight : Nat) (capabilityIds : List Nat)
  | failed (error : HandshakeError)
  | timedOut
  deriving DecidableEq, Repr

/-- What an attempt shows: the CONNECT frame that was handed to the transport,
what became of the HELLO, and how the attempt ended. -/
structure AttemptResult where
  connect : Option Bytes
  verdict : AuthVerdict
  outcome : HandshakeOutcome
  deriving DecidableEq, Repr

/-- The messages of an attempt and what its token provider returned. -/
structure AttemptScript where
  token : Token
  early : List Bytes := []
  late : List Bytes
  deriving DecidableEq, Repr

namespace Handshake

/-- `_open_and_authenticate` after the future is awaited. -/
def conclude (handshake : Handshake) : HandshakeOutcome :=
  match handshake.verdict with
  | .pending => .timedOut
  | .rejected error => .failed error
  | .accepted =>
      if handshake.receiving then
        .negotiated handshake.fields.maxMessageBytes handshake.fields.maxInFlight
          handshake.fields.capabilityIds
      else
        .failed .changed

/-- `_send_connect` and what follows it, with the connection at the end of the
handshake. -/
def sendConnect (config : HandshakeConfig) (handshake : Handshake)
    (frame : Except WireException Bytes) (late : List Bytes) : AttemptResult × Handshake :=
  match frame with
  | .error error => (⟨none, handshake.verdict, .failed (.wire error)⟩, handshake)
  | .ok frame =>
      let compared := handshake.compare frame.length
      if handshake.fields.maxMessageBytes < frame.length then
        (⟨none, handshake.verdict, .failed (.connectTooLong frame.length)⟩, compared)
      else
        let after := compared.receiveAll config late
        (⟨some frame, after.verdict, after.conclude⟩, after)

/-- `_open_and_authenticate` from these fields. -/
def openAndAuthenticate (config : HandshakeConfig) (fields : HandshakeFields)
    (script : AttemptScript) : AttemptResult × Handshake :=
  (({ fields } : Handshake).receiveAll config script.early).sendConnect config
    (connectFrame config script.token) script.late

end Handshake

/-- An earlier session: its handshake, and each message received in the session
with the correlation ids registered at that time. -/
structure EarlierSession where
  script : AttemptScript
  messages : List (Bytes × List Nat) := []
  deriving DecidableEq, Repr

namespace HandshakeFields

/-- The fields after a session, which ends in `set_disconnected` in any case. -/
def afterSession (config : HandshakeConfig) (fields : HandshakeFields)
    (session : EarlierSession) : HandshakeFields :=
  let attempt := Handshake.openAndAuthenticate config fields session.script
  match attempt.1.outcome with
  | .negotiated _ _ _ =>
      (session.messages.foldl
        (fun handshake message => handshake.receive config message.2 message.1)
        attempt.2).fields.setDisconnected
  | _ => attempt.2.fields.setDisconnected

/-- The fields of a client that has had these sessions. -/
def after (config : HandshakeConfig) (sessions : List EarlierSession) : HandshakeFields :=
  sessions.foldl (afterSession config) (new config)

end HandshakeFields

/-- How the receive loop stands after some messages before any HELLO. -/
inductive Listening
  | waiting
  | greeted
  | ended
  deriving DecidableEq, Repr

/-- What a message that is received under an inherited limit does. -/
def hear (limit : Nat) (data : Bytes) : Listening :=
  if limit < data.length then
    .ended
  else
    match dispatchTransportFrame 0 [] data with
    | .none | .announces _ => .waiting
    | .accepts _ _ => .greeted
    | .refuses _ _ | .raises _ => .ended

/-- The lengths of the messages that are compared with a limit until one of
them is a HELLO, is too long or raises, and how the receive loop stands then. -/
def listen (limit : Nat) : List Bytes → List Nat × Listening
  | [] => ([], .waiting)
  | data :: messages =>
      match hear limit data with
      | .waiting => (data.length :: (listen limit messages).1, (listen limit messages).2)
      | heard => ([data.length], heard)

/-- The lengths that an attempt compares with the limit it inherits. -/
def AttemptScript.inheritedLengths (config : HandshakeConfig) (limit : Nat)
    (script : AttemptScript) : List Nat :=
  let early := listen limit script.early
  match connectFrame config script.token with
  | .error _ => early.1
  | .ok frame =>
      match early.2 with
      | .greeted => early.1
      | .ended => early.1 ++ [frame.length]
      | .waiting =>
          early.1 ++ frame.length ::
            if limit < frame.length then [] else (listen limit script.late).1

end FitzClient
