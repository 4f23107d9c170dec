import FitzClient.ResponseGrammar

/-!
# The status of a KV response

A transaction reads the envelope of its responses itself.  It takes the same
bytes for a success as the common parser does, and for an error; but it passes
on every class and effect that an error carries, where the common parser
refuses a class above 10 and an effect above 2.  On all other payloads the two
agree.
-/

namespace FitzClient

namespace KvStatus

open TokenReader ResponseReader
open ResponseException (Escapes)

/-- What `_status` reads: nothing more for a success, or the error that it
raises. -/
def readStatus (operation : String) : ResponseReader (Option BrokerError) := do
  let status ← readU8
  if status = 1 then
    let code ← readU16
    let errorClass ← readU8
    let effect ← readU8
    let message ← readString
    atEnd (.domain (malformed .kv (operation ++ " error response has trailing bytes")))
    return some { code, errorClass, effect, message }
  else
    require (status = 0)
      (.domain (malformed .kv (operation ++ s!" response has unknown status {status}")))
    return none

/-- The exception that `_status` makes of an error of the broker. -/
def raised (operation : String) (error : BrokerError) : DomainError :=
  domainError .kv operation error.code error.message (some error.errorClass) (some error.effect)

/-- `_status` -/
def status (operation : String) : ResponseReader Unit := do
  match ← readStatus operation with
  | none => return ()
  | some error => raise (raised operation error)

theorem readStatus_eq_ok_iff {operation : String} {payload rest : Bytes}
    {found : Option BrokerError} :
    readStatus operation payload = .ok (found, rest) ↔
      found = none ∧ payload = BigEndian.encode 1 0 ++ rest ∨
        ∃ error : BrokerError, error.Fits ∧ payload = error.layout ∧ found = some error ∧
          rest = [] := by
  rw [readStatus, bind_eq_ok_iff]
  constructor
  · rintro ⟨status, left, front, goesOn⟩
    obtain ⟨-, rfl⟩ := (exact_readU8 _ _ _).mp front
    split_ifs at goesOn with failed
    · simp only [bind_eq_ok_iff, pure_eq_ok_iff, atEnd_eq_ok_iff, exact_readU8 _ _ _,
        exact_readU16 _ _ _, exact_readString _ _ _] at goesOn
      obtain ⟨code, _, ⟨codeFits, rfl⟩, errorClass, _, ⟨classFits, rfl⟩, effect, _,
        ⟨effectFits, rfl⟩, message, _, ⟨messageFits, rfl⟩, _, _, ⟨rfl, rfl⟩, rfl, rfl⟩ := goesOn
      exact Or.inr ⟨{ code, errorClass, effect, message },
        ⟨codeFits, classFits, effectFits, messageFits⟩,
        by simp only [failed, BrokerError.layout, BrokerError.headLayout, List.append_assoc,
          List.append_nil], rfl, rfl⟩
    · simp only [bind_eq_ok_iff, require_eq_ok_iff, pure_eq_ok_iff] at goesOn
      obtain ⟨_, _, ⟨rfl, rfl⟩, rfl, rfl⟩ := goesOn
      exact Or.inl ⟨rfl, rfl⟩
  · rintro (⟨rfl, rfl⟩ | ⟨error, fits, rfl, rfl, rfl⟩)
    · refine ⟨0, rest, exact_readU8.read (by decide) rest, ?_⟩
      rw [if_neg Nat.zero_ne_one]
      simp only [bind_eq_ok_iff, require_eq_ok_iff, pure_eq_ok_iff]
      exact ⟨(), rest, ⟨trivial, rfl⟩, trivial, rfl⟩
    · have layout : error.layout = BigEndian.encode 1 1 ++ (BigEndian.encode 2 error.code ++
          (BigEndian.encode 1 error.errorClass ++ (BigEndian.encode 1 error.effect ++
            (textLayout error.message ++ [])))) := by
        simp only [BrokerError.layout, BrokerError.headLayout, List.append_assoc, List.append_nil]
      rw [layout]
      refine ⟨1, _, exact_readU8.read (by decide) _, ?_⟩
      rw [if_pos rfl]
      simp only [bind_eq_ok_iff, pure_eq_ok_iff, atEnd_eq_ok_iff, exact_readU8 _ _ _,
        exact_readU16 _ _ _, exact_readString _ _ _]
      exact ⟨error.code, _, ⟨fits.code, rfl⟩, error.errorClass, _, ⟨fits.errorClass, rfl⟩,
        error.effect, _, ⟨fits.effect, rfl⟩, error.message, _, ⟨fits.message, rfl⟩, (), _,
        ⟨rfl, rfl⟩, rfl, rfl⟩

theorem status_eq_ok_iff {operation : String} {payload data : Bytes} :
    status operation payload = .ok ((), data) ↔ payload = BigEndian.encode 1 0 ++ data := by
  rw [status, bind_eq_ok_iff]
  constructor
  · rintro ⟨found, left, read, goesOn⟩
    cases found with
    | some error => cases goesOn
    | none =>
        obtain ⟨-, rfl⟩ := pure_eq_ok_iff.mp goesOn
        rcases readStatus_eq_ok_iff.mp read with ⟨-, whole⟩ | ⟨error, -, -, found, -⟩
        · exact whole
        · cases found
  · rintro rfl
    exact ⟨none, data, readStatus_eq_ok_iff.mpr (Or.inl ⟨rfl, rfl⟩), rfl⟩

/-- `_status` raises this error of the broker. -/
def RaisesBrokerError (operation : String) (payload : Bytes) (error : BrokerError) : Prop :=
  readStatus operation payload = .ok (some error, [])

/-- `_status` can make nothing of the payload. -/
def Malformed (operation : String) (payload : Bytes) : Prop :=
  ∃ exception, readStatus operation payload = .error exception

/-- `_status` and `parse_response` make the same of a payload. -/
structure Agrees (operation : String) (payload : Bytes) : Prop where
  success : ∀ data, status operation payload = .ok ((), data) ↔
    parseResponse payload = .ok { data }
  brokerError : ∀ error, RaisesBrokerError operation payload error ↔
    parseResponse payload = .ok error.toResponse
  malformed : Malformed operation payload ↔
    ∃ exception, parseResponse payload = .error exception

/-- Both give up, or neither does. -/
theorem malformed_iff_of_accepts {operation : String} {payload : Bytes}
    (accepts : (∃ found rest, readStatus operation payload = .ok (found, rest)) ↔
      ∃ response, parseResponse payload = .ok response) :
    Malformed operation payload ↔ ∃ exception, parseResponse payload = .error exception := by
  rw [Malformed]
  cases read : readStatus operation payload with
  | ok result =>
      obtain ⟨found, rest⟩ := result
      obtain ⟨response, parsed⟩ := accepts.mp ⟨found, rest, read⟩
      simp [parsed]
  | error exception =>
      cases parsed : parseResponse payload with
      | error other => simp
      | ok response =>
          obtain ⟨found, rest, readOk⟩ := accepts.mpr ⟨response, parsed⟩
          rw [read] at readOk
          cases readOk

theorem toResponse_injective {first second : BrokerError}
    (same : first.toResponse = second.toResponse) : first = second := by
  cases first
  cases second
  simpa [BrokerError.toResponse] using same

theorem layout_ne_success {error : BrokerError} {data : Bytes} :
    error.layout ≠ BigEndian.encode 1 0 ++ data := fun same => by
  have first := congrArg List.head? same
  simp [BrokerError.layout, BrokerError.headLayout, BigEndian.encode] at first

/-- The transaction and the common parser agree on a payload exactly if it is
not a complete error whose class or effect is not defined. -/
theorem agrees_iff {operation : String} {payload : Bytes} :
    Agrees operation payload ↔
      ¬ ∃ error : BrokerError, error.Fits ∧ ¬ error.Known ∧ payload = error.layout := by
  constructor
  · rintro agrees ⟨error, fits, unknown, rfl⟩
    have raises : RaisesBrokerError operation error.layout error :=
      readStatus_eq_ok_iff.mpr (Or.inr ⟨error, fits, rfl, rfl, rfl⟩)
    rcases parseResponse_eq_ok_iff.mp ((agrees.brokerError error).mp raises) with
      ⟨data, whole, -⟩ | ⟨other, -, known, -, same⟩
    · exact layout_ne_success whole
    · exact unknown (toResponse_injective same ▸ known)
  · intro defined
    have known {error : BrokerError} (fits : error.Fits) (whole : payload = error.layout) :
        error.Known := not_not.mp fun unknown => defined ⟨error, fits, unknown, whole⟩
    refine ⟨fun data => ?_, fun error => ?_, malformed_iff_of_accepts ⟨?_, ?_⟩⟩
    · rw [status_eq_ok_iff, parseResponse_eq_ok_iff]
      constructor
      · exact fun whole => Or.inl ⟨data, whole, rfl⟩
      · rintro (⟨other, whole, same⟩ | ⟨error, -, -, -, same⟩)
        · obtain rfl := congrArg Response.data same
          exact whole
        · cases congrArg Response.error same
    · rw [RaisesBrokerError, readStatus_eq_ok_iff, parseResponse_eq_ok_iff]
      constructor
      · rintro (⟨found, -⟩ | ⟨other, fits, whole, found, -⟩)
        · cases found
        · obtain rfl := Option.some.inj found
          exact Or.inr ⟨error, fits, known fits whole, whole, rfl⟩
      · rintro (⟨data, -, same⟩ | ⟨other, fits, -, whole, same⟩)
        · cases congrArg Response.error same
        · obtain rfl := toResponse_injective same
          exact Or.inr ⟨error, fits, whole, rfl, rfl⟩
    · rintro ⟨found, rest, read⟩
      rcases readStatus_eq_ok_iff.mp read with ⟨-, whole⟩ | ⟨error, fits, whole, -⟩
      · exact ⟨_, parseResponse_eq_ok_iff.mpr (Or.inl ⟨rest, whole, rfl⟩)⟩
      · exact ⟨_, parseResponse_eq_ok_iff.mpr (Or.inr ⟨error, fits, known fits whole, whole, rfl⟩)⟩
    · rintro ⟨response, parsed⟩
      rcases parseResponse_eq_ok_iff.mp parsed with ⟨data, whole, -⟩ | ⟨error, fits, -, whole, -⟩
      · exact ⟨none, data, readStatus_eq_ok_iff.mpr (Or.inl ⟨rfl, whole⟩)⟩
      · exact ⟨some error, [], readStatus_eq_ok_iff.mpr (Or.inr ⟨error, fits, whole, rfl, rfl⟩)⟩

/-- An error of class 11 is raised by a transaction, and refused by the common parser. -/
theorem exists_disagreement : ¬ ∀ operation payload, Agrees operation payload := by
  intro agrees
  let error : BrokerError := { code := 5, errorClass := 11, effect := 0, message := "" }
  have fits : error.Fits := ⟨by decide, by decide, by decide, by decide +kernel⟩
  have raises : RaisesBrokerError "GET" error.layout error :=
    readStatus_eq_ok_iff.mpr (Or.inr ⟨error, fits, rfl, rfl, rfl⟩)
  rcases parseResponse_eq_ok_iff.mp (((agrees "GET" error.layout).brokerError error).mp raises) with
    ⟨data, whole, -⟩ | ⟨other, -, known, -, same⟩
  · exact layout_ne_success whole
  · obtain rfl := toResponse_injective same
    exact absurd known.1 (by decide)

end KvStatus

end FitzClient
