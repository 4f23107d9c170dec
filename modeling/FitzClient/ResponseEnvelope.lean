import FitzClient.WireBuffer

/-!
# Response envelopes

A response is a status byte followed by its data, or by the code, class,
effect and message of an error.  The final body of an RPC response may be such
an error of the RPC domain; the caller finds out by parsing it.
-/

namespace FitzClient

structure Response where
  data : Bytes := []
  errorCode : Option Nat := none
  errorClass : Option Nat := none
  effect : Option Nat := none
  error : Option String := none
  deriving DecidableEq, Repr

/-- The part of `parse_response` that reads the payload. -/
def Response.read : BufferReader Response := do
  let status ← BufferReader.readU8
  if status = 0 then
    return { data := ← BufferReader.remaining }
  if status ≠ 1 then
    throw (.protocol s!"Unknown response status: {status}" (some status))
  let code ← BufferReader.readU16
  let errorClass ← BufferReader.readU8
  let effect ← BufferReader.readU8
  if 10 < errorClass ∨ 2 < effect then
    throw (.protocol "Error response has an invalid class or effect" (some code))
  let message ← BufferReader.readString
  if ← BufferReader.isEof then
    return {
      errorCode := some code
      errorClass := some errorClass
      effect := some effect
      error := some message }
  throw (.protocol "Error response has trailing data" (some code))

/-- `parse_response` -/
def parseResponse (payload : Bytes) : Except WireException Response :=
  if payload = [] then
    .error (.protocol "Response payload is empty" none)
  else
    (Response.read payload).map Prod.fst

/-- `RPCError`; its `code` is the reason after `RPC_`. -/
structure RpcError where
  message : String
  reason : String
  domainCode : Option Nat := none
  errorClass : Option Nat := none
  effect : Option Nat := none
  deriving DecidableEq, Repr

/-- The codes of the RPC domain. -/
def isRpcCode (code : Nat) : Bool :=
  6001 ≤ code && code ≤ 6010 || 6050 ≤ code && code ≤ 6055

/-- The error that a caller raises for an error response. -/
def RpcError.ofCall (code : Nat) (errorClass effect : Option Nat) (message : String) :
    RpcError where
  message := "CALL failed: " ++ if message = "" then s!"status {code}" else message
  reason := "CALL"
  domainCode := some code
  errorClass := errorClass
  effect := effect

/-- `_decode_terminal_error` -/
def decodeTerminalError (body : Bytes) : Option RpcError :=
  if body.length < 9 ∨ body.head? ≠ some 1 then
    none
  else
    match parseResponse body with
    | .error _ => none
    | .ok response =>
        match response.error, response.errorCode with
        | some message, some code =>
            if isRpcCode code ∧ response.data = [] then
              some (.ofCall code response.errorClass response.effect message)
            else
              none
        | _, _ => none

/-- The body that `_send_error` builds. -/
def errorBody (code errorClass effect : Nat) (message : CodePoints) :
    Except WireException Bytes := do
  let writer ← (BufferWriter.new 128).writeU8 1
  let writer ← writer.writeU16 code
  let writer ← writer.writeU8 errorClass
  let writer ← writer.writeU8 effect
  let writer ← writer.writeString message
  return writer.build

/-- What `_send_error` puts into a body. -/
theorem errorBody_ofString {code errorClass effect : Nat} {message : String} {body : Bytes}
    (built : errorBody code errorClass effect (.ofString message) = .ok body) :
    code < 256 ^ 2 ∧ errorClass < 256 ^ 1 ∧ effect < 256 ^ 1 ∧
      (Utf8.encode message).length < 256 ^ 4 ∧
      body = BigEndian.encode 1 1 ++ (BigEndian.encode 2 code ++ (BigEndian.encode 1 errorClass ++
        (BigEndian.encode 1 effect ++ (BigEndian.encode 4 (Utf8.encode message).length ++
          (Utf8.encode message ++ []))))) := by
  simp only [errorBody, BufferWriter.writeU8, BufferWriter.writeU16,
    BufferWriter.writeNumber_bind_eq_ok_iff, BufferWriter.writeString_bind_eq_ok_iff] at built
  obtain ⟨-, code, errorClass, effect, message, built⟩ := built
  refine ⟨code, errorClass, effect, message, ?_⟩
  rw [← Except.ok.inj built]
  simp

/-- An error of the RPC domain is recognized in a final body. -/
theorem decodeTerminalError_errorBody {code errorClass effect : Nat} {message : String}
    {body : Bytes} (built : errorBody code errorClass effect (.ofString message) = .ok body)
    (domain : isRpcCode code = true) (classes : errorClass ≤ 10) (effects : effect ≤ 2) :
    decodeTerminalError body =
      some (.ofCall code (some errorClass) (some effect) message) := by
  obtain ⟨codeFits, classFits, effectFits, messageFits, rfl⟩ := errorBody_ofString built
  set body := BigEndian.encode 1 1 ++ (BigEndian.encode 2 code ++ (BigEndian.encode 1 errorClass ++
    (BigEndian.encode 1 effect ++ (BigEndian.encode 4 (Utf8.encode message).length ++
      (Utf8.encode message ++ []))))) with layout
  have long : 9 ≤ body.length := by
    simp only [layout, List.length_append, BigEndian.length_encode]
    omega
  have first : body.head? = some 1 := rfl
  have read : Response.read body = .ok ({
      errorCode := some code
      errorClass := some errorClass
      effect := some effect
      error := some message }, []) := by
    rw [Response.read, layout, BufferReader.readU8,
      BufferReader.bind_of_ok (BufferReader.readNumber_encode (by norm_num) _)]
    simp only [one_ne_zero, if_false, ne_eq, not_true_eq_false, BufferReader.readU16]
    rw [BufferReader.bind_of_ok (BufferReader.readNumber_encode codeFits _),
      BufferReader.bind_of_ok (BufferReader.readNumber_encode classFits _),
      BufferReader.bind_of_ok (BufferReader.readNumber_encode effectFits _),
      if_neg (by omega),
      BufferReader.bind_of_ok (BufferReader.readString_encode messageFits _)]
    rfl
  have nonempty : body ≠ [] := by
    rintro empty
    rw [empty] at long
    simp at long
  rw [decodeTerminalError, if_neg (by simp [first, long]), parseResponse, if_neg nonempty, read]
  simp [Except.map, domain]

end FitzClient
