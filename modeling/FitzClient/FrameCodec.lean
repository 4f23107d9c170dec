import FitzClient.WireBuffer

/-!
# Frames

A frame is a header of 15 bytes and a payload.  The header holds the message
type, the flags, the correlation id and the length of the payload, and a frame
that is longer than a mebibyte is refused on both sides.
-/

namespace FitzClient

structure Frame where
  messageType : Nat
  flags : Nat
  correlationId : Nat
  payload : Bytes
  deriving DecidableEq, Repr

namespace FrameCodec

def headerLen : Nat := 15

def maxMessageSize : Nat := 1048576

def responseFinal : Nat := 2

/-- `VALID_FLAGS`: an acknowledgement requested, a final response and
extensions. -/
def validFlags : Nat := 7

/-- `flags & ~VALID_FLAGS` is not zero. -/
def unsupported (flags : Nat) : Bool :=
  validFlags < flags

/-- The text of `hex(flags)`. -/
def hex (flags : Nat) : String :=
  "0x" ++ String.ofList (Nat.toDigits 16 flags)

/-- The bytes of a frame whose fields fit. -/
def layout (frame : Frame) : Bytes :=
  BigEndian.encode 2 frame.messageType ++ BigEndian.encode 1 frame.flags ++
    BigEndian.encode 8 frame.correlationId ++ BigEndian.encode 4 frame.payload.length ++
    frame.payload

@[simp]
theorem length_layout (frame : Frame) :
    (layout frame).length = headerLen + frame.payload.length := by
  simp only [layout, List.length_append, BigEndian.length_encode, headerLen]

/-- `encode_frame` -/
def encodeFrame (frame : Frame) : Except WireException Bytes :=
  if 0xFFFF < frame.messageType then
    .error (.codec s!"Invalid message type: {frame.messageType}")
  else if unsupported frame.flags then
    .error (.codec s!"Unsupported frame flags: {hex frame.flags}")
  else if 0xFFFFFFFFFFFFFFFF < frame.correlationId then
    .error (.codec "Correlation ID must fit in u64")
  else if maxMessageSize < headerLen + frame.payload.length then
    .error (.codec s!"Message exceeds {maxMessageSize} bytes")
  else
    .ok (layout frame)

/-- `decode_frame` -/
def decodeFrame (data : Bytes) : Except WireException Frame :=
  if maxMessageSize < data.length then
    .error (.codec s!"Message exceeds {maxMessageSize} bytes")
  else if data.length < headerLen then
    .error (.codec s!"Message header is truncated: {data.length} bytes")
  else
    let flags := BigEndian.decode ((data.drop 2).take 1)
    let payloadLength := BigEndian.decode ((data.drop 11).take 4)
    if unsupported flags then
      .error (.codec s!"Unsupported frame flags: {hex flags}")
    else if data.length ≠ headerLen + payloadLength then
      .error (.codec
        s!"Message length {payloadLength} does not match frame size {data.length - headerLen}")
    else
      .ok {
        messageType := BigEndian.decode (data.take 2)
        flags
        correlationId := BigEndian.decode ((data.drop 3).take 8)
        payload := data.drop headerLen }

theorem encodeFrame_eq_ok_iff {frame : Frame} {data : Bytes} :
    encodeFrame frame = .ok data ↔
      frame.messageType ≤ 0xFFFF ∧ frame.flags ≤ validFlags ∧
        frame.correlationId ≤ 0xFFFFFFFFFFFFFFFF ∧
        headerLen + frame.payload.length ≤ maxMessageSize ∧ data = layout frame := by
  simp only [encodeFrame, unsupported, decide_eq_true_eq]
  split_ifs with wide flagged large long
  · simp [Nat.not_le.mpr wide]
  · simp [Nat.not_le.mpr flagged]
  · simp [Nat.not_le.mpr large]
  · simp [Nat.not_le.mpr long]
  · simp only [Except.ok.injEq]
    refine ⟨fun same => ⟨by omega, by omega, by omega, by omega, same.symm⟩, fun fields => ?_⟩
    exact fields.2.2.2.2.symm

end FrameCodec

/-- `parse_frames` of a `FrameParser` -/
def FrameParser.parseFrames (data : Bytes) : Except WireException (List Frame) :=
  if data.isEmpty then .ok [] else (FrameCodec.decodeFrame data).map ([·])

end FitzClient
