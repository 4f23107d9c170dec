import FitzClient.ResponseReader

/-!
# The grammar of response envelopes

A payload is a zero byte before the data of a success, or a one before the
code, class, effect and message of an error, and nothing after it.  The common
parser accepts these with a class up to 10 and an effect up to 2.
-/

namespace FitzClient

/-- An error of the broker. -/
structure BrokerError where
  code : Nat
  errorClass : Nat
  effect : Nat
  message : String
  deriving DecidableEq, Repr

namespace BrokerError

open TokenReader ResponseReader

/-- The bytes before the message of an error. -/
def headLayout (code errorClass effect : Nat) : Bytes :=
  BigEndian.encode 1 1 ++ (BigEndian.encode 2 code ++ (BigEndian.encode 1 errorClass ++
    BigEndian.encode 1 effect))

/-- The bytes of an error. -/
def layout (error : BrokerError) : Bytes :=
  headLayout error.code error.errorClass error.effect ++ textLayout error.message

/-- The fields of an error fit. -/
structure Fits (error : BrokerError) : Prop where
  code : error.code < 256 ^ 2
  errorClass : error.errorClass < 256 ^ 1
  effect : error.effect < 256 ^ 1
  message : TextFits error.message

/-- The class and the effect are among those that are defined. -/
def Known (error : BrokerError) : Prop :=
  error.errorClass ≤ 10 ∧ error.effect ≤ 2

/-- The response of the common parser. -/
def toResponse (error : BrokerError) : Response where
  errorCode := some error.code
  errorClass := some error.errorClass
  effect := some error.effect
  error := some error.message

end BrokerError

open TokenReader ResponseReader

/-- The reads and checks of `parse_response`, one after another. -/
theorem read_eq :
    Response.read = (do
      let status ← BufferReader.readU8
      if status = 0 then
        let data ← BufferReader.remaining
        return { data }
      else
        require (status = 1) (.protocol s!"Unknown response status: {status}" (some status))
        let code ← BufferReader.readU16
        let errorClass ← BufferReader.readU8
        let effect ← BufferReader.readU8
        require (errorClass ≤ 10 ∧ effect ≤ 2)
          (.protocol "Error response has an invalid class or effect" (some code))
        let message ← BufferReader.readString
        atEnd (.protocol "Error response has trailing data" (some code))
        return BrokerError.toResponse { code, errorClass, effect, message } :
          TokenReader WireException UInt8 Response) := by
  have checked (errorClass effect : Nat) (first second : BufferReader Response) :
      (if 10 < errorClass ∨ 2 < effect then first else second) =
        if errorClass ≤ 10 ∧ effect ≤ 2 then second else first := by
    by_cases known : errorClass ≤ 10 ∧ effect ≤ 2
    · rw [if_neg (by omega), if_pos known]
    · rw [if_pos (by omega), if_neg known]
  have ended (code : Nat) (response : Response) :
      (do
        if ← BufferReader.isEof then
          return response
        else
          throw (.protocol "Error response has trailing data" (some code)) :
            TokenReader WireException UInt8 Response) = (do
        atEnd (.protocol "Error response has trailing data" (some code))
        return response) := by
    funext unread
    cases unread with
    | nil => rfl
    | cons byte unread => rfl
  simp only [Response.read, require_bind, throw_bind, ne_eq, ite_not, checked, ended,
    BrokerError.toResponse]

theorem remaining_eq_ok_iff {unread data rest : Bytes} :
    BufferReader.remaining unread = .ok (data, rest) ↔ data = unread ∧ rest = unread := by
  change Except.ok (unread, unread) = Except.ok (data, rest) ↔ _
  simp [eq_comm]

theorem parseResponse_eq_ok_iff {payload : Bytes} {response : Response} :
    parseResponse payload = .ok response ↔
      (∃ data, payload = BigEndian.encode 1 0 ++ data ∧ response = { data }) ∨
        ∃ error : BrokerError, error.Fits ∧ error.Known ∧ payload = error.layout ∧
          response = error.toResponse := by
  have unfolded : parseResponse payload = .ok response ↔
      payload ≠ [] ∧ ∃ rest, Response.read payload = .ok (response, rest) := by
    rw [parseResponse]
    split_ifs with empty
    · simp [empty]
    · exact run_eq_ok_iff.trans (by simp [empty])
  rw [unfolded, read_eq]
  constructor
  · rintro ⟨-, rest, read⟩
    obtain ⟨status, left, front, goesOn⟩ := TokenReader.bind_eq_ok_iff.mp read
    clear read unfolded
    obtain ⟨-, rfl⟩ := (exact_bufferNumber 1 _ _ _).mp front
    split_ifs at goesOn with success
    · simp only [TokenReader.bind_eq_ok_iff, remaining_eq_ok_iff, pure_eq_ok_iff] at goesOn
      obtain ⟨_, _, ⟨rfl, rfl⟩, rfl, rfl⟩ := goesOn
      exact Or.inl ⟨_, by rw [success], rfl⟩
    · simp only [TokenReader.bind_eq_ok_iff, require_eq_ok_iff, pure_eq_ok_iff, atEnd_eq_ok_iff,
        BufferReader.readU16, BufferReader.readU8, exact_bufferNumber _ _ _ _,
        exact_bufferString _ _ _] at goesOn
      obtain ⟨_, _, ⟨rfl, rfl⟩, code, _, ⟨codeFits, rfl⟩, errorClass, _, ⟨classFits, rfl⟩, effect,
        _,
        ⟨effectFits, rfl⟩, _, _, ⟨known, rfl⟩, message, _, ⟨messageFits, rfl⟩, _, _, ⟨rfl, rfl⟩,
        rfl, -⟩ := goesOn
      exact Or.inr ⟨{ code, errorClass, effect, message },
        ⟨codeFits, classFits, effectFits, messageFits⟩, known,
        by simp only [BrokerError.layout, BrokerError.headLayout, List.append_assoc,
          List.append_nil], rfl⟩
  · rintro (⟨data, rfl, rfl⟩ | ⟨error, fits, known, rfl, rfl⟩)
    · refine ⟨List.cons_ne_nil _ _, data, TokenReader.bind_eq_ok_iff.mpr
        ⟨0, data, (exact_bufferNumber 1).read (by decide) data, ?_⟩⟩
      simp only [if_true, TokenReader.bind_eq_ok_iff, remaining_eq_ok_iff, pure_eq_ok_iff]
      exact ⟨data, data, ⟨rfl, rfl⟩, rfl, rfl⟩
    · have layout : error.layout = BigEndian.encode 1 1 ++ (BigEndian.encode 2 error.code ++
          (BigEndian.encode 1 error.errorClass ++ (BigEndian.encode 1 error.effect ++
            (textLayout error.message ++ [])))) := by
        simp only [BrokerError.layout, BrokerError.headLayout, List.append_assoc, List.append_nil]
      rw [layout]
      refine ⟨List.cons_ne_nil _ _, [], TokenReader.bind_eq_ok_iff.mpr
        ⟨1, _, (exact_bufferNumber 1).read (by decide) _, ?_⟩⟩
      rw [if_neg Nat.one_ne_zero]
      simp only [TokenReader.bind_eq_ok_iff, require_eq_ok_iff, pure_eq_ok_iff, atEnd_eq_ok_iff,
        BufferReader.readU16, BufferReader.readU8, exact_bufferNumber _ _ _ _,
        exact_bufferString _ _ _]
      exact ⟨(), _, ⟨trivial, rfl⟩, error.code, _, ⟨fits.code, rfl⟩, error.errorClass, _,
        ⟨fits.errorClass, rfl⟩, error.effect, _, ⟨fits.effect, rfl⟩, (), _, ⟨known, rfl⟩,
        error.message, _, ⟨fits.message, rfl⟩, (), _, ⟨rfl, rfl⟩, rfl, rfl⟩

theorem not_leaks_remaining {escapes : WireException → Prop} {unread : Bytes} :
    ¬ Leaks escapes BufferReader.remaining unread := by
  rintro ⟨error, failed, -⟩
  cases failed

/-- The message of an error is complete, but not in UTF-8. -/
def IllMessage (payload : Bytes) : Prop :=
  ∃ code errorClass effect rest, code < 256 ^ 2 ∧ errorClass ≤ 10 ∧ effect ≤ 2 ∧
    payload = BrokerError.headLayout code errorClass effect ++ rest ∧ IllText rest

theorem leaks_read_iff {payload : Bytes} :
    Leaks WireException.Escapes Response.read payload ↔ IllMessage payload := by
  rw [read_eq]
  simp only [leaks_bind_iff, leaks_ite_iff, leaks_require_iff, leaks_atEnd_iff, not_leaks_pure,
    not_leaks_remaining, not_escapes_protocol, BufferReader.readU16, BufferReader.readU8,
    not_leaks_bufferNumber, leaks_bufferString_iff, require_eq_ok_iff, exact_bufferNumber _ _ _ _,
    and_false, exists_false, or_false, false_or]
  constructor
  · rintro ⟨_, _, ⟨-, rfl⟩, -, _, _, ⟨rfl, rfl⟩, code, _, ⟨codeFits, rfl⟩, errorClass, _,
      ⟨-, rfl⟩, effect, _, ⟨-, rfl⟩, _, rest, ⟨known, rfl⟩, ill⟩
    exact ⟨code, errorClass, effect, _, codeFits, known.1, known.2,
      by simp only [BrokerError.headLayout, List.append_assoc], ill⟩
  · rintro ⟨code, errorClass, effect, rest, codeFits, classKnown, effectKnown, rfl, ill⟩
    exact ⟨1, _, ⟨by decide, by simp only [BrokerError.headLayout, List.append_assoc]⟩,
      Nat.one_ne_zero, (), _, ⟨rfl, rfl⟩, code, _, ⟨codeFits, rfl⟩, errorClass, _,
      ⟨by omega, rfl⟩, effect, _, ⟨by omega, rfl⟩, (), rest, ⟨⟨classKnown, effectKnown⟩, rfl⟩, ill⟩

/-- An exception that is none of the library escapes from the common parser
exactly at such a message. -/
theorem parseResponse_escapes_iff {payload : Bytes} :
    (∃ error, parseResponse payload = .error error ∧ error.Escapes) ↔ IllMessage payload := by
  rw [← leaks_read_iff, parseResponse]
  by_cases empty : payload = []
  case pos =>
    rw [if_pos empty, empty]
    constructor
    · rintro ⟨error, failed, escaping⟩
      obtain rfl := Except.error.inj failed
      exact (not_escapes_protocol _ _ escaping).elim
    · rintro ⟨error, failed, escaping⟩
      obtain rfl : WireException.codec "Buffer overflow: cannot read 1 bytes" = error :=
        Except.error.inj failed
      cases escaping
  case neg =>
    rw [if_neg empty]
    exact exists_congr fun error => and_congr_left fun _ => run_eq_error_iff

end FitzClient
