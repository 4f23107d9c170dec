import FitzClient.TokenReader
import FitzClient.ResponseEnvelope

/-!
# Readers of response bodies

The domains read the data of a response with the same buffer, and raise errors
of their own when it is malformed.  Numbers, byte strings and texts are read
exactly from their layouts.  The only error of these reads that is not one of
the library is that of a text which is not UTF-8.
-/

namespace FitzClient

/-- The domains, each with an error class. -/
inductive Domain
  | kv
  | queue
  | notice
  | rpc
  | lease
  | stream
  | schedule
  deriving DecidableEq, Repr

/-- `DomainError` of a domain; its `code` is the reason after the prefix of
the domain. -/
structure DomainError where
  domain : Domain
  message : String
  reason : String
  domainCode : Option Nat := none
  errorClass : Option Nat := none
  effect : Option Nat := none
  deriving DecidableEq, Repr

/-- `domain_error` -/
def domainError (domain : Domain) (operation : String) (status : Nat) (message : String)
    (errorClass effect : Option Nat) : DomainError where
  domain := domain
  message := operation ++ " failed: " ++ if message = "" then s!"status {status}" else message
  reason := operation
  domainCode := some status
  errorClass := errorClass
  effect := effect

/-- What a domain raises for a body that it cannot make sense of. -/
def malformed (domain : Domain) (message : String) : DomainError where
  domain := domain
  message := message
  reason := "INVALID_RESPONSE"

/-- The exceptions that come out of the handling of a response. -/
inductive ResponseException
  | wire (error : WireException)
  | domain (error : DomainError)
  | overflow
  deriving DecidableEq, Repr

/-- The exceptions of the wire that derive from `FitzError`. -/
def WireException.isFitzError : WireException → Bool
  | codec _ | protocol _ _ | transport _ | connection _ | authentication _ _ => true
  | unicodeDecode | unicodeEncode | struct => false

/-- An exception of the wire that is none of the library. -/
def WireException.Escapes (error : WireException) : Prop :=
  error.isFitzError = false

/-- The exceptions that derive from `FitzError`. -/
def ResponseException.isFitzError : ResponseException → Bool
  | wire error => error.isFitzError
  | domain _ => true
  | overflow => false

/-- An exception that is none of the library. -/
def ResponseException.Escapes (error : ResponseException) : Prop :=
  error.isFitzError = false

/-- A computation of a `BufferReader` in a domain. -/
abbrev ResponseReader := TokenReader ResponseException UInt8

namespace ResponseReader

open TokenReader
open ResponseException (Escapes)

variable {α : Type}

/-- A read of the buffer. -/
def ofBuffer (reader : BufferReader α) : ResponseReader α :=
  TokenReader.mapError ResponseException.wire reader

def readU8 : ResponseReader Nat := ofBuffer BufferReader.readU8

def readU16 : ResponseReader Nat := ofBuffer BufferReader.readU16

def readU32 : ResponseReader Nat := ofBuffer BufferReader.readU32

def readU64 : ResponseReader Nat := ofBuffer BufferReader.readU64

/-- `read_string` and `read_route` -/
def readString : ResponseReader String := ofBuffer BufferReader.readString

/-- `read_bytes(read_u32_be())` -/
def readBlob : ResponseReader Bytes := do
  let size ← readU32
  ofBuffer (BufferReader.readBytes size)

/-- `remaining_bytes` -/
def remainingBytes : ResponseReader Nat := fun unread => .ok (unread.length, unread)

/-- `raise` of an error of a domain. -/
def raise (error : DomainError) : ResponseReader α :=
  throw (.domain error)

/-- A byte that must be zero or one. -/
def readFlag (invalid : Nat → DomainError) : ResponseReader Bool := do
  let flag ← readU8
  require (flag = 0 ∨ flag = 1) (.domain (invalid flag))
  return flag = 1

/-- A value with a flag in front that says whether it is there. -/
def readOption (invalid : Nat → DomainError) (reader : ResponseReader α) :
    ResponseReader (Option α) := do
  if ← readFlag invalid then
    let value ← reader
    return some value
  else
    return none

def flagLayout (flag : Bool) : Bytes :=
  BigEndian.encode 1 flag.toNat

def optionLayout (layout : α → Bytes) : Option α → Bytes
  | none => flagLayout false
  | some value => flagLayout true ++ layout value

/-- A byte string with its length in front. -/
def blobLayout (blob : Bytes) : Bytes :=
  BigEndian.encode 4 blob.length ++ blob

/-- A text with its length in front. -/
def textLayout (text : String) : Bytes :=
  blobLayout (Utf8.encode text)

/-- A byte string whose length fits. -/
def BlobFits (blob : Bytes) : Prop :=
  blob.length < 256 ^ 4

instance : DecidablePred BlobFits := fun _ => inferInstanceAs (Decidable (_ < _))

/-- A text whose length in bytes fits. -/
def TextFits (text : String) : Prop :=
  BlobFits (Utf8.encode text)

instance : DecidablePred TextFits := fun _ => inferInstanceAs (Decidable (BlobFits _))

theorem exact_bufferNumber (width : Nat) :
    Exact (BufferReader.readNumber width) (· < 256 ^ width) (BigEndian.encode width) :=
  fun _ _ _ => BufferReader.readNumber_eq_ok_iff

theorem exact_bufferString : Exact BufferReader.readString TextFits textLayout := fun _ _ _ => by
  rw [BufferReader.readString_eq_ok_iff, textLayout, blobLayout, List.append_assoc]
  rfl

theorem exact_readNumber (width : Nat) :
    Exact (ofBuffer (BufferReader.readNumber width)) (· < 256 ^ width)
      (BigEndian.encode width) :=
  (exact_bufferNumber width).mapError

theorem exact_readU8 : Exact readU8 (· < 256 ^ 1) (BigEndian.encode 1) := exact_readNumber 1

theorem exact_readU16 : Exact readU16 (· < 256 ^ 2) (BigEndian.encode 2) := exact_readNumber 2

theorem exact_readU32 : Exact readU32 (· < 256 ^ 4) (BigEndian.encode 4) := exact_readNumber 4

/-- A loop over a counted list goes round no more often than the data has
bytes, where every entry has one. -/
theorem counted_turns_le {α : Type} {reader : ResponseReader α} {valid : α → Prop}
    {layout : α → Bytes} (exact : Exact reader valid layout)
    (occupied : ∀ value, 0 < (layout value).length) {data left : Bytes} {count : Nat}
    (front : readU32 data = .ok (count, left)) : timesTurns reader count left ≤ data.length := by
  obtain ⟨-, rfl⟩ := (exact_readU32 _ _ _).mp front
  have goes := timesTurns_le (exact.shrinks occupied) count left
  rw [List.length_append, BigEndian.length_encode]
  omega

theorem exact_readU64 : Exact readU64 (· < 256 ^ 8) (BigEndian.encode 8) := exact_readNumber 8

theorem exact_readString : Exact readString TextFits textLayout := exact_bufferString.mapError

theorem exact_readBlob : Exact readBlob BlobFits blobLayout := by
  intro unread blob rest
  rw [readBlob, bind_eq_ok_iff]
  constructor
  · rintro ⟨size, left, front, body⟩
    obtain ⟨fits, rfl⟩ := (exact_readU32 _ _ _).mp front
    obtain ⟨rfl, rfl⟩ := BufferReader.readBytes_eq_ok_iff.mp (mapError_eq_ok_iff.mp body)
    exact ⟨fits, by rw [blobLayout, List.append_assoc]⟩
  · rintro ⟨fits, rfl⟩
    rw [blobLayout, List.append_assoc]
    exact ⟨blob.length, blob ++ rest, exact_readU32.read fits _,
      mapError_eq_ok_iff.mpr (BufferReader.readBytes_append blob rest)⟩

theorem exact_readFlag (invalid : Nat → DomainError) :
    Exact (readFlag invalid) (fun _ => True) flagLayout := by
  intro unread flag rest
  simp only [readFlag, bind_eq_ok_iff, require_eq_ok_iff, pure_eq_ok_iff, exact_readU8 _ _ _]
  constructor
  · rintro ⟨byte, left, ⟨-, rfl⟩, _, _, ⟨isFlag, rfl⟩, rfl, rfl⟩
    rcases isFlag with rfl | rfl
    · exact ⟨trivial, rfl⟩
    · exact ⟨trivial, rfl⟩
  · rintro ⟨-, rfl⟩
    refine ⟨flag.toNat, rest, ⟨by cases flag <;> decide, rfl⟩, (), rest, ⟨?_, rfl⟩, ?_, rfl⟩
    · cases flag <;> simp
    · cases flag <;> simp

theorem exact_readOption (invalid : Nat → DomainError) {reader : ResponseReader α}
    {valid : α → Prop} {layout : α → Bytes} (exact : Exact reader valid layout) :
    Exact (readOption invalid reader) (fun found => ∀ value ∈ found, valid value)
      (optionLayout layout) := by
  intro unread found rest
  rw [readOption, bind_eq_ok_iff]
  constructor
  · rintro ⟨flag, left, front, goesOn⟩
    obtain ⟨-, rfl⟩ := (exact_readFlag invalid _ _ _).mp front
    cases flag with
    | false =>
        obtain ⟨rfl, rfl⟩ := pure_eq_ok_iff.mp goesOn
        exact ⟨nofun, rfl⟩
    | true =>
        obtain ⟨value, after, read, final⟩ := bind_eq_ok_iff.mp goesOn
        obtain ⟨isValid, rfl⟩ := (exact _ _ _).mp read
        obtain ⟨rfl, rfl⟩ := pure_eq_ok_iff.mp final
        refine ⟨fun other member => ?_, by rw [optionLayout, List.append_assoc]⟩
        obtain rfl := Option.mem_some_iff.mp member
        exact isValid
  · rintro ⟨valids, rfl⟩
    cases found with
    | none =>
        exact ⟨false, rest, (exact_readFlag invalid).read trivial rest, rfl⟩
    | some value =>
        rw [optionLayout, List.append_assoc]
        refine ⟨true, layout value ++ rest, (exact_readFlag invalid).read trivial _, ?_⟩
        exact bind_eq_ok_iff.mpr ⟨value, rest, exact.read (valids value rfl) rest,
          pure_eq_ok_iff.mpr ⟨rfl, rfl⟩⟩

theorem remainingBytes_eq_ok_iff {unread rest : Bytes} {count : Nat} :
    remainingBytes unread = .ok (count, rest) ↔ count = unread.length ∧ rest = unread := by
  simp [remainingBytes, eq_comm]

/-- A text stands at the front, complete but not in UTF-8. -/
def IllText (unread : Bytes) : Prop :=
  ∃ blob rest, BlobFits blob ∧ unread = blobLayout blob ++ rest ∧ Utf8.decode? blob = none

theorem leaks_ofBuffer_iff {reader : BufferReader α} {unread : Bytes} :
    Leaks Escapes (ofBuffer reader) unread ↔
      Leaks WireException.Escapes reader unread :=
  leaks_mapError_iff

theorem not_leaks_readBytes {size : Nat} {unread : Bytes} :
    ¬ Leaks WireException.Escapes (BufferReader.readBytes size) unread := by
  rintro ⟨error, failed, escaping⟩
  simp only [BufferReader.readBytes] at failed
  split_ifs at failed
  obtain rfl := Except.error.inj failed
  cases escaping

theorem not_leaks_bufferNumber {width : Nat} {unread : Bytes} :
    ¬ Leaks WireException.Escapes (BufferReader.readNumber width) unread := by
  rw [BufferReader.readNumber, leaks_bind_iff]
  rintro (leaks | ⟨digits, left, -, leaks⟩)
  · exact not_leaks_readBytes leaks
  · exact not_leaks_pure leaks

theorem not_leaks_readNumber {width : Nat} {unread : Bytes} :
    ¬ Leaks Escapes (ofBuffer (BufferReader.readNumber width)) unread := fun leaks =>
  not_leaks_bufferNumber (leaks_ofBuffer_iff.mp leaks)

theorem not_leaks_readU8 {unread : Bytes} : ¬ Leaks Escapes readU8 unread :=
  not_leaks_readNumber

theorem not_leaks_readU16 {unread : Bytes} : ¬ Leaks Escapes readU16 unread :=
  not_leaks_readNumber

theorem not_leaks_readU32 {unread : Bytes} : ¬ Leaks Escapes readU32 unread :=
  not_leaks_readNumber

theorem not_leaks_readU64 {unread : Bytes} : ¬ Leaks Escapes readU64 unread :=
  not_leaks_readNumber

theorem not_leaks_readBlob {unread : Bytes} : ¬ Leaks Escapes readBlob unread := by
  rw [readBlob, leaks_bind_iff]
  rintro (leaks | ⟨size, left, -, leaks⟩)
  · exact not_leaks_readU32 leaks
  · exact not_leaks_readBytes (leaks_ofBuffer_iff.mp leaks)

theorem leaks_bufferString_iff {unread : Bytes} :
    Leaks WireException.Escapes BufferReader.readString unread ↔ IllText unread := by
  rw [BufferReader.readString, leaks_bind_iff]
  constructor
  · rintro (leaks | ⟨size, left, front, leaks⟩)
    · exact (not_leaks_bufferNumber leaks).elim
    rcases leaks_bind_iff.mp leaks with early | ⟨blob, rest, body, late⟩
    · exact (not_leaks_readBytes early).elim
    obtain ⟨fits, rfl⟩ := BufferReader.readNumber_eq_ok_iff.mp front
    obtain ⟨rfl, rfl⟩ := BufferReader.readBytes_eq_ok_iff.mp body
    cases decoded : Utf8.decode? blob with
    | some text =>
        rw [decoded] at late
        exact (not_leaks_pure late).elim
    | none => exact ⟨blob, rest, fits, by rw [blobLayout, List.append_assoc], decoded⟩
  · rintro ⟨blob, rest, fits, rfl, undecodable⟩
    rw [blobLayout, List.append_assoc]
    refine Or.inr ⟨blob.length, blob ++ rest, BufferReader.readNumber_encode fits _, ?_⟩
    refine leaks_bind_iff.mpr (Or.inr ⟨blob, rest, BufferReader.readBytes_append _ _, ?_⟩)
    rw [undecodable]
    exact leaks_throw_iff.mpr rfl

theorem leaks_readString_iff {unread : Bytes} :
    Leaks Escapes readString unread ↔ IllText unread :=
  leaks_ofBuffer_iff.trans leaks_bufferString_iff

theorem not_leaks_remainingBytes {unread : Bytes} : ¬ Leaks Escapes remainingBytes unread := by
  rintro ⟨error, failed, -⟩
  cases failed

theorem not_escapes_protocol (message : String) (domainCode : Option Nat) :
    ¬ WireException.Escapes (.protocol message domainCode) := nofun

theorem not_escapes_domain (error : DomainError) : ¬ Escapes (.domain error) := nofun

theorem not_leaks_readFlag {invalid : Nat → DomainError} {unread : Bytes} :
    ¬ Leaks Escapes (readFlag invalid) unread := by
  simp only [readFlag, leaks_bind_iff, not_leaks_readU8, leaks_require_iff, not_escapes_domain,
    not_leaks_pure, and_false, exists_false, or_false, not_false_eq_true]

/-- An optional value leaks if it is there and leaks. -/
theorem leaks_readOption_iff {invalid : Nat → DomainError} {reader : ResponseReader α}
    {unread : Bytes} :
    Leaks Escapes (readOption invalid reader) unread ↔
      ∃ rest, unread = flagLayout true ++ rest ∧ Leaks Escapes reader rest := by
  rw [readOption, (exact_readFlag invalid).leaks_bind_iff]
  constructor
  · rintro (leaks | ⟨flag, left, -, rfl, leaks⟩)
    · exact (not_leaks_readFlag leaks).elim
    cases flag with
    | false => exact (not_leaks_pure leaks).elim
    | true =>
        rcases leaks_bind_iff.mp leaks with early | ⟨value, rest, -, late⟩
        · exact ⟨left, rfl, early⟩
        · exact (not_leaks_pure late).elim
  · rintro ⟨rest, rfl, leaks⟩
    exact Or.inr ⟨true, rest, trivial, rfl, leaks_bind_iff.mpr (Or.inl leaks)⟩

theorem not_leaks_raise {error : DomainError} {unread : Bytes} :
    ¬ Leaks Escapes (raise error : ResponseReader α) unread := fun leaks =>
  not_escapes_domain error (leaks_throw_iff.mp leaks)

end ResponseReader

end FitzClient
