import FitzClient.RpcCallTables

/-!
# Responses from a worker to a caller

A worker's `ResponseWriter` numbers the bodies it sends, the broker forwards
the messages in order, and the caller's `_on_response` puts them into the queue
of the call that `__anext__` reads.  The end of a response is told by a
flag; a last body that encodes an error is raised instead of yielded, which is
how `_send_error` reports the failures of a worker.

Between any two of these steps the caller's client does whatever it can do,
for this call and for others.
-/

namespace FitzClient

/-- A body given to `send`, and its flag `end`. -/
structure ResponseBody where
  body : Bytes
  final : Bool
  deriving DecidableEq, Repr

/-- `ResponseWriter` of an invocation. -/
structure ResponseWriter where
  correlationId : Bytes
  generation : Nat
  sequence : Nat := 0
  ended : Bool := false
  deriving DecidableEq, Repr

namespace ResponseWriter

/-- The RESPONSE that `send` builds. -/
def payload (writer : ResponseWriter) (sent : ResponseBody) : Except WireException Bytes := do
  let buffer := (BufferWriter.new 128).writeBytes writer.correlationId
  let buffer ← buffer.writeU64 writer.sequence
  let buffer ← buffer.writeU8 sent.final.toNat
  let buffer ← buffer.writeU32 sent.body.length
  return (buffer.writeBytes sent.body).build

/-- `send` while the connection has this generation and takes the message. -/
def send (writer : ResponseWriter) (generation : Nat) (sent : ResponseBody) :
    Except WireException (ResponseWriter × Bytes) := do
  if writer.ended ∨ writer.generation ≠ generation then
    throw (.connection "RPC response writer is stale")
  let payload ← writer.payload sent
  return ({ writer with sequence := writer.sequence + 1, ended := sent.final }, payload)

/-- The body of `_send_error`. -/
def errorBody (code : Nat) (message : CodePoints) : Except WireException Bytes :=
  FitzClient.errorBody code (code % 1000)
    (if code % 1000 = 5 then 0 else if code % 1000 = 6 ∨ code % 1000 = 7 then 1 else 0) message

end ResponseWriter

/-- A caller and the worker of one of its calls.  `sent` is what the worker has
sent and `wire` what the caller has not received of it. -/
structure RpcExchange where
  caller : RpcCaller
  writer : ResponseWriter
  generation : Nat
  sent : List ResponseBody := []
  wire : List Bytes := []

inductive RpcExchangeAction
  | send (sent : ResponseBody)
  | sendError (code : Nat) (message : CodePoints)
  | reconnect
  | deliver
  | caller (action : RpcCallerAction)
  deriving DecidableEq, Repr

/-- What the iterator makes of the body with this sequence number. -/
def ResponseBody.reading (sequence : Nat) (sent : ResponseBody) : Reading :=
  match if sent.final then decodeTerminalError sent.body else none with
  | some error => .raised (.rpc error)
  | none => .frame { body := sent.body, sequence }

namespace RpcExchange

def send (exchange : RpcExchange) (sent : ResponseBody) : Option RpcExchange :=
  match exchange.writer.send exchange.generation sent with
  | .error _ => none
  | .ok (writer, payload) =>
      some { exchange with
        writer, sent := exchange.sent ++ [sent], wire := exchange.wire ++ [payload] }

/-- `_send_error` -/
def sendError (exchange : RpcExchange) (code : Nat) (message : CodePoints) : Option RpcExchange :=
  match ResponseWriter.errorBody code message with
  | .error _ => none
  | .ok body => exchange.send { body, final := true }

/-- One transition.  A `send` that raises sends nothing. -/
def step (capacity : Nat) (exchange : RpcExchange) : RpcExchangeAction → Option RpcExchange
  | .send sent => exchange.send sent
  | .sendError code message => exchange.sendError code message
  | .reconnect => some { exchange with generation := exchange.generation + 1 }
  | .deliver =>
      match exchange.wire with
      | [] => none
      | payload :: wire => some { exchange with caller := exchange.caller.onResponse payload, wire }
  | .caller action =>
      (exchange.caller.step capacity action).map ({ exchange with caller := · })

/-- The REQUEST of the call has reached the worker. -/
structure Starts (capacity index : Nat) (exchange : RpcExchange) : Prop where
  reachable : (RpcCaller.system capacity).Reachable exchange.caller
  opened : ∃ call, exchange.caller.calls[index]? = some call ∧ call.opening ≠ .raised ∧
    call.ended = false ∧ call.queue = [] ∧ call.failure = none ∧ call.readings = [] ∧
    exchange.writer = { correlationId := call.key, generation := exchange.generation }
  sent : exchange.sent = []
  wire : exchange.wire = []

/-- All interleavings from the moment at which the worker gets the request of
the call at this index. -/
def system (capacity index : Nat) : LabelledSystem RpcExchange RpcExchangeAction where
  starts := Starts capacity index
  step := step capacity

/-- What the iterator is to read. -/
def expected (exchange : RpcExchange) : List Reading :=
  exchange.sent.mapIdx ResponseBody.reading

/-- The call at this index has ended. -/
def Ended (exchange : RpcExchange) (index : Nat) : Prop :=
  ∀ call ∈ exchange.caller.calls[index]?, call.ended = true

instance (exchange : RpcExchange) (index : Nat) : Decidable (exchange.Ended index) :=
  inferInstanceAs (Decidable (∀ call ∈ exchange.caller.calls[index]?, call.ended = true))

/-- The broker forwards nothing else under the key of the call, the queue does
not overflow, and nothing else ends the call: it is not closed, cancelled or
disconnected before its end, and the time of its reader is not over. -/
def Undisturbed (index : Nat) (exchange : RpcExchange) : RpcExchangeAction → Prop
  | .deliver => ∀ call ∈ exchange.caller.calls[index]?, ∀ payload ∈ exchange.wire.head?,
      ∀ message ∈ (ResponseMessage.parse payload).toOption, call.full = true →
        message.final = true ∧ (decodeTerminalError message.body).isSome
  | .caller (.response payload) => ∀ message ∈ (ResponseMessage.parse payload).toOption,
      message.key ≠ exchange.writer.correlationId
  | .caller (.sendRaised call) | .caller (.readCancelled call) | .caller (.readTimedOut call) =>
      call ≠ index
  | .caller (.read call expired) => call = index → expired = false
  | .caller (.close call) | .caller (.deadline call) | .caller (.parentCancelled call) =>
      call = index → exchange.Ended index
  | .caller .disconnect => exchange.Ended index
  | _ => True

instance (index : Nat) (exchange : RpcExchange) :
    (action : RpcExchangeAction) → Decidable (Undisturbed index exchange action)
  | .deliver => inferInstanceAs (Decidable (∀ call ∈ exchange.caller.calls[index]?,
      ∀ payload ∈ exchange.wire.head?, ∀ message ∈ (ResponseMessage.parse payload).toOption,
        call.full = true → message.final = true ∧ (decodeTerminalError message.body).isSome))
  | .caller (.response payload) => inferInstanceAs (Decidable
      (∀ message ∈ (ResponseMessage.parse payload).toOption, _ ≠ _))
  | .caller (.sendRaised call) | .caller (.readCancelled call) | .caller (.readTimedOut call) =>
      inferInstanceAs (Decidable (call ≠ index))
  | .caller (.read call expired) => inferInstanceAs (Decidable (call = index → expired = false))
  | .caller (.close call) | .caller (.deadline call) | .caller (.parentCancelled call) =>
      inferInstanceAs (Decidable (call = index → exchange.Ended index))
  | .caller .disconnect => inferInstanceAs (Decidable (exchange.Ended index))
  | .send _ | .sendError _ _ | .reconnect | .caller (.openCall _ _ _ _ _)
  | .caller (.sendReturned _) | .caller (.lifecycle _) | .caller (.take _)
  | .caller (.cancellationSent _ _) | .caller (.graceExpired _) | .caller (.cancelAwaiter _) =>
      inferInstanceAs (Decidable True)

end RpcExchange

end FitzClient
