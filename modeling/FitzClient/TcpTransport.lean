import FitzClient.LengthPrefixed
import FitzClient.Multiplexer

/-!
# The TCP transport

`TcpTransport.send` writes a message behind its length, and `receive` reads a
length and then as many bytes from the `StreamReader` of the connection.  Both
reads may have to wait: a read that finds too little leaves a future with the
reader, which the next data, the end of the stream or its failure settles.
-/

namespace FitzClient

/-- What a broken connection sets as the exception of its reader. -/
inductive SocketFailure
  | timedOut
  | other (text : String)
  deriving DecidableEq, Repr

/-- What an operation of the transport raises. -/
inductive TcpException
  | notConnected
  | tooLong (length limit : Nat)
  | connectionClosed
  | receiveFailed (timeoutMs : Nat) (failure : SocketFailure)
  | sizeTooSmall
  | overflow
  deriving DecidableEq, Repr

/-- The class of the exception and its text. -/
def TcpException.raised : TcpException → String × String
  | .notConnected => ("FitzTransportError", "TCP transport is not connected")
  | .tooLong length limit =>
      ("FitzTransportError", s!"TCP frame length {length} exceeds max frame size {limit}")
  | .connectionClosed => ("FitzTransportError", "TCP connection closed")
  | .receiveFailed timeoutMs .timedOut =>
      ("FitzTimeoutError", s!"TCP receive timeout after {timeoutMs}ms")
  | .receiveFailed _ (.other text) => ("FitzTransportError", s!"TCP receive failed: {text}")
  | .sizeTooSmall => ("ValueError", "maximum Fitz message size must be at least 15 bytes")
  | .overflow => ("OverflowError", "int too big to convert")

/-- The future of a read that waits for data. -/
inductive ReadWaiter
  | pending
  | woken
  | failed (failure : SocketFailure)
  deriving DecidableEq, Repr

/-- `asyncio.StreamReader` -/
structure StreamReader where
  buffer : Bytes := []
  eof : Bool := false
  failure : Option SocketFailure := none
  deriving DecidableEq, Repr

/-- What a suspended `receive` waits for. -/
inductive ReceiveTarget
  | header
  | body (size : Nat)
  deriving DecidableEq, Repr

/-- What has been read of a message before such a wait. -/
def ReceiveTarget.consumed : ReceiveTarget → Bytes
  | .header => []
  | .body size => BigEndian.encode 4 size

/-- How many bytes such a wait is for. -/
def ReceiveTarget.needed : ReceiveTarget → Nat
  | .header => 4
  | .body size => size

/-- What `receive` comes to before it suspends again. -/
inductive ReceiveResult
  | returned (message : Bytes) (reader : StreamReader)
  | raised (error : TcpException) (reader : StreamReader)
  | waits (target : ReceiveTarget) (reader : StreamReader)
  deriving DecidableEq, Repr

/-- `timeoutMs` is `int(self._timeout * 1000)`; `_reader` and `_writer` are set
and cleared together. -/
structure TcpTransport where
  timeoutMs : Nat := 30000
  maxFrameSize : Nat := 1048576
  connected : Bool := true
  deriving DecidableEq, Repr

namespace TcpTransport

/-- What `send` hands to `writer.write`; the length must fit in four bytes. -/
def send (transport : TcpTransport) (data : Bytes) : Except TcpException Bytes :=
  if transport.connected = false then
    .error .notConnected
  else if transport.maxFrameSize < data.length then
    .error (.tooLong data.length transport.maxFrameSize)
  else if 256 ^ 4 ≤ data.length then
    .error .overflow
  else
    .ok (LengthPrefixed.frame 4 data)

/-- `set_max_frame_size` -/
def setMaxFrameSize (transport : TcpTransport) (size : Nat) : Except TcpException TcpTransport :=
  if size < 15 then .error .sizeTooSmall else .ok { transport with maxFrameSize := size }

def close (transport : TcpTransport) : TcpTransport :=
  { transport with connected := false }

/-- The loop of `readexactly` for the message itself. -/
def takeBody (reader : StreamReader) (size : Nat) : ReceiveResult :=
  if size ≤ reader.buffer.length then
    .returned (reader.buffer.take size) { reader with buffer := reader.buffer.drop size }
  else if reader.eof then
    .raised .connectionClosed { reader with buffer := [] }
  else
    .waits (.body size) reader

/-- What follows the first `readexactly`, up to the next suspension. -/
def receiveBody (transport : TcpTransport) (reader : StreamReader) (size : Nat) : ReceiveResult :=
  if transport.maxFrameSize < size then
    .raised (.tooLong size transport.maxFrameSize) reader
  else
    match reader.failure with
    | some failure => .raised (.receiveFailed transport.timeoutMs failure) reader
    | none => takeBody reader size

/-- The loop of `readexactly` for the length, and what follows it. -/
def takeHeader (transport : TcpTransport) (reader : StreamReader) : ReceiveResult :=
  if 4 ≤ reader.buffer.length then
    transport.receiveBody { reader with buffer := reader.buffer.drop 4 }
      (BigEndian.decode (reader.buffer.take 4))
  else if reader.eof then
    .raised .connectionClosed { reader with buffer := [] }
  else
    .waits .header reader

/-- `receive` up to its first suspension. -/
def receive (transport : TcpTransport) (reader : StreamReader) : ReceiveResult :=
  if transport.connected = false then
    .raised .notConnected reader
  else
    match reader.failure with
    | some failure => .raised (.receiveFailed transport.timeoutMs failure) reader
    | none => transport.takeHeader reader

/-- `receive` after the future it waited for is done. -/
def resume (transport : TcpTransport) (reader : StreamReader) (target : ReceiveTarget) :
    ReadWaiter → Option ReceiveResult
  | .pending => none
  | .failed failure => some (.raised (.receiveFailed transport.timeoutMs failure) reader)
  | .woken =>
      match target with
      | .header => some (transport.takeHeader reader)
      | .body size => some (takeBody reader size)

/-- The reader has these bytes, those under way are going to follow, and
together they are the messages `unread`, but for what a `receive` has read. -/
structure Splits (target : ReceiveTarget) (reader : StreamReader) (underway : Bytes)
    (unread : List Bytes) : Prop where
  bytes : target.consumed ++ (reader.buffer ++ underway) =
    LengthPrefixed.stream 4 unread
  fits : ∀ message ∈ unread, message.length < 256 ^ 4
  size : ∀ size, target = .body size → size < 256 ^ 4

/-- What reading in front of these messages may come to. -/
inductive Reads (transport : TcpTransport) (reader : StreamReader) (underway : Bytes)
    (unread : List Bytes) : ReceiveResult → Prop
  | returned {message : Bytes} {others : List Bytes} {rest : StreamReader}
      (next : unread = message :: others) (splits : Splits .header rest underway others)
      (eof : rest.eof = reader.eof) :
      Reads transport reader underway unread (.returned message rest)
  | waits {target : ReceiveTarget} {rest : StreamReader}
      (splits : Splits target rest underway unread)
      (hungry : rest.buffer.length < target.needed) (open_ : rest.eof = false)
      (eof : reader.eof = false) : Reads transport reader underway unread (.waits target rest)
  | closed {rest : StreamReader} (eof : reader.eof = true)
      (ended : underway = [] → unread = []) :
      Reads transport reader underway unread (.raised .connectionClosed rest)
  | tooLong {message : Bytes} {others : List Bytes} {rest : StreamReader}
      (next : unread = message :: others) (long : transport.maxFrameSize < message.length) :
      Reads transport reader underway unread
        (.raised (.tooLong message.length transport.maxFrameSize) rest)
  | failed {failure : SocketFailure} {rest : StreamReader} :
      Reads transport reader underway unread
        (.raised (.receiveFailed transport.timeoutMs failure) rest)
  | disconnected {rest : StreamReader} :
      Reads transport reader underway unread (.raised .notConnected rest)

variable {transport : TcpTransport} {reader : StreamReader} {underway : Bytes}
  {unread : List Bytes}

/-- The length that has been read is that of the next message. -/
theorem Splits.exists_body {size : Nat} (splits : Splits (.body size) reader underway unread) :
    ∃ message others, unread = message :: others ∧ message.length = size ∧
      reader.buffer ++ underway = message ++ LengthPrefixed.stream 4 others := by
  have bytes : BigEndian.encode 4 size ++ (reader.buffer ++ underway) =
      LengthPrefixed.stream 4 unread := splits.bytes
  obtain ⟨message, others, rfl, length, rest⟩ :=
    LengthPrefixed.exists_of_length_le (by decide) (by simp) bytes
  rw [List.take_of_length_le (by simp)] at length
  rw [List.drop_of_length_le (by simp), List.nil_append] at rest
  refine ⟨message, others, rfl, ?_, rest⟩
  have decoded := congrArg BigEndian.decode length
  rw [BigEndian.decode_encode (splits.size size rfl),
    BigEndian.decode_encode (splits.fits message List.mem_cons_self)] at decoded
  exact decoded.symm

theorem reads_takeBody {size : Nat} (splits : Splits (.body size) reader underway unread) :
    Reads transport reader underway unread (takeBody reader size) := by
  obtain ⟨message, others, rfl, rfl, bytes⟩ := splits.exists_body
  unfold takeBody
  split_ifs with enough eof
  · obtain ⟨head, rest⟩ := LengthPrefixed.take_of_length_le enough bytes
    rw [head]
    exact .returned rfl ⟨rest, fun other later => splits.fits other (List.mem_cons_of_mem _ later),
      nofun⟩ rfl
  · refine .closed eof fun nothing => ?_
    rw [nothing, List.append_nil] at bytes
    rw [bytes, List.length_append] at enough
    omega
  · exact .waits splits (Nat.lt_of_not_le enough) (Bool.not_eq_true _ ▸ eof) (by simpa using eof)

/-- The first four bytes are the length of the next message. -/
theorem Splits.header (splits : Splits .header reader underway unread)
    (enough : 4 ≤ reader.buffer.length) :
    Splits (.body (BigEndian.decode (reader.buffer.take 4)))
      { reader with buffer := reader.buffer.drop 4 } underway unread where
  bytes := by
    change BigEndian.encode 4 _ ++ (reader.buffer.drop 4 ++ underway) = _
    rw [BigEndian.encode_decode_of_length (List.length_take_of_le enough), ← List.append_assoc,
      List.take_append_drop]
    exact splits.bytes
  fits := splits.fits
  size size isBody := by
    obtain rfl := ReceiveTarget.body.inj isBody
    have bound := BigEndian.decode_lt (reader.buffer.take 4)
    rwa [List.length_take_of_le enough] at bound

theorem reads_receiveBody {size : Nat} (splits : Splits (.body size) reader underway unread) :
    Reads transport reader underway unread (transport.receiveBody reader size) := by
  unfold receiveBody
  split_ifs with long
  · obtain ⟨message, others, rfl, rfl, -⟩ := splits.exists_body
    exact .tooLong rfl long
  · split
    · exact .failed
    · exact reads_takeBody splits

/-- Taking bytes off the buffer does not end the stream. -/
theorem Reads.of_eof {rest : StreamReader} {result : ReceiveResult}
    (reads : Reads transport rest underway unread result) (eof : rest.eof = reader.eof) :
    Reads transport reader underway unread result := by
  cases reads with
  | returned next splits same => exact .returned next splits (same.trans eof)
  | waits splits hungry isOpen same => exact .waits splits hungry isOpen (eof ▸ same)
  | closed isEnd ended => exact .closed (eof ▸ isEnd) ended
  | tooLong next long => exact .tooLong next long
  | failed => exact .failed
  | disconnected => exact .disconnected

theorem reads_takeHeader (splits : Splits .header reader underway unread) :
    Reads transport reader underway unread (transport.takeHeader reader) := by
  unfold takeHeader
  split_ifs with enough eof
  · exact (reads_receiveBody (splits.header enough)).of_eof rfl
  · refine .closed eof fun nothing => ?_
    have bytes : reader.buffer ++ underway = LengthPrefixed.stream 4 unread := splits.bytes
    rw [nothing, List.append_nil] at bytes
    exact LengthPrefixed.eq_nil_of_length_lt (Nat.lt_of_not_le enough) bytes
  · exact .waits splits (Nat.lt_of_not_le enough) (by simpa using eof) (by simpa using eof)

theorem reads_receive (splits : Splits .header reader underway unread) :
    Reads transport reader underway unread (transport.receive reader) := by
  unfold receive
  split_ifs with disconnected
  · exact .disconnected
  · split
    · exact .failed
    · exact reads_takeHeader splits

/-- A read that is woken up goes on with what it waited for. -/
theorem reads_resume {target : ReceiveTarget} {waiter : ReadWaiter} {result : ReceiveResult}
    (splits : Splits target reader underway unread)
    (resumed : transport.resume reader target waiter = some result) :
    Reads transport reader underway unread result := by
  cases waiter with
  | pending => cases resumed
  | failed failure =>
      cases resumed
      exact .failed
  | woken =>
      cases target with
      | header =>
          cases resumed
          exact reads_takeHeader splits
      | body size =>
          cases resumed
          exact reads_takeBody splits

end TcpTransport

end FitzClient
