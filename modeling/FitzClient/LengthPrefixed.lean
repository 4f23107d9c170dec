import FitzClient.BigEndian

/-!
# Messages with their lengths in front

Messages are sent over a stream of bytes one after another, each behind its
length in a fixed number of bytes.  However the stream is cut into pieces, the
length of the next message can be read off its first bytes, and the message
with what follows it is what remains then.
-/

namespace FitzClient

namespace LengthPrefixed

variable {width : Nat} {message : List UInt8} {messages : List (List UInt8)}
  {arrived underway : List UInt8}

/-- A message with its length in front. -/
def frame (width : Nat) (message : List UInt8) : List UInt8 :=
  BigEndian.encode width message.length ++ message

/-- All these messages, one after another. -/
def stream (width : Nat) (messages : List (List UInt8)) : List UInt8 :=
  messages.flatMap (frame width)

@[simp]
theorem stream_nil : stream width [] = [] := rfl

theorem stream_cons : stream width (message :: messages) =
    BigEndian.encode width message.length ++ (message ++ stream width messages) := by
  simp [stream, frame]

theorem stream_concat : stream width (messages ++ [message]) =
    stream width messages ++ frame width message := by
  simp [stream]

/-- The length of the next message has arrived. -/
theorem exists_of_length_le (positive : 0 < width) (enough : width ≤ arrived.length)
    (split : arrived ++ underway = stream width messages) :
    ∃ message others, messages = message :: others ∧
      arrived.take width = BigEndian.encode width message.length ∧
      arrived.drop width ++ underway = message ++ stream width others := by
  cases messages with
  | nil =>
      have empty := congrArg List.length split
      rw [List.length_append, stream_nil, List.length_nil] at empty
      omega
  | cons message others =>
      rw [stream_cons, ← List.take_append_drop width arrived, List.append_assoc] at split
      have sized : (arrived.take width).length =
          (BigEndian.encode width message.length).length := by
        rw [List.length_take_of_le enough, BigEndian.length_encode]
      obtain ⟨head, rest⟩ := List.append_inj split sized
      exact ⟨message, others, rfl, head, rest⟩

/-- The next message has arrived. -/
theorem take_of_length_le (enough : message.length ≤ arrived.length)
    (split : arrived ++ underway = message ++ stream width messages) :
    arrived.take message.length = message ∧
      arrived.drop message.length ++ underway = stream width messages := by
  rw [← List.take_append_drop message.length arrived, List.append_assoc] at split
  exact List.append_inj split (List.length_take_of_le enough)

/-- Nothing follows where the stream ends short of a length. -/
theorem eq_nil_of_length_lt (short : arrived.length < width)
    (whole : arrived = stream width messages) : messages = [] := by
  cases messages with
  | nil => rfl
  | cons message others =>
      rw [whole, stream_cons, List.length_append, BigEndian.length_encode] at short
      omega

end LengthPrefixed

end FitzClient
