import FitzClient.BigEndian
import FitzClient.Multiplexer

/-!
# Buffers of the wire protocol

`BufferWriter` appends big-endian numbers and byte strings to an array that
grows by doubling, and `BufferReader` takes them off the front of a message.
All that a writer has built is the concatenation of what was written to it.
-/

namespace FitzClient

/-- The exceptions raised while a message is built or taken apart: those of
the client with their texts, and the three of Python that reach its callers. -/
inductive WireException
  | codec (message : String)
  | protocol (message : String) (domainCode : Option Nat)
  | transport (message : String)
  | connection (message : String)
  | authentication (message : String) (code : Nat)
  | unicodeDecode
  | unicodeEncode
  | struct
  deriving DecidableEq, Repr

/-- The code points of a string, which may be surrogates. -/
abbrev CodePoints := List Nat

/-- `value.encode("utf-8")` does not fail. -/
def CodePoints.encodes (value : CodePoints) : Bool :=
  value.all fun point => point < 0xD800 || 0xDFFF < point

/-- A string of the program text. -/
def CodePoints.ofString (value : String) : CodePoints :=
  value.toList.map Char.toNat

/-- The texts that the client writes itself can be encoded. -/
theorem CodePoints.encodes_ofString (value : String) : (ofString value).encodes = true := by
  simp only [encodes, ofString, List.all_map, List.all_eq_true, Function.comp_apply,
    Bool.or_eq_true, decide_eq_true_eq]
  intro character _
  rcases character.valid with below | ⟨above, -⟩
  · exact Or.inl below
  · exact Or.inr above

/-- `value.encode("utf-8")`, which fails on a surrogate. -/
def CodePoints.encode (value : CodePoints) : Except WireException Bytes :=
  if value.encodes then
    .ok (Utf8.encode (String.ofList (value.map Char.ofNat)))
  else
    .error .unicodeEncode

theorem CodePoints.encode_ofString (value : String) :
    (ofString value).encode = .ok (Utf8.encode value) := by
  have points : (ofString value).map Char.ofNat = value.toList := by
    simp [ofString, Function.comp_def]
  rw [encode, if_pos (encodes_ofString value), points, String.ofList_toList]

/-- The array of a writer and how far it is filled. -/
structure BufferWriter where
  buffer : Bytes
  offset : Nat
  offset_le : offset ≤ buffer.length

namespace BufferWriter

/-- `BufferWriter(capacity)` -/
def new (capacity : Nat) : BufferWriter where
  buffer := List.replicate capacity 0
  offset := 0
  offset_le := Nat.zero_le _

/-- `_reserve`; the start it returns is the offset before. -/
def reserve (writer : BufferWriter) (size : Nat) : BufferWriter where
  buffer :=
    if writer.buffer.length < writer.offset + size then
      writer.buffer ++ List.replicate
        (max (writer.offset + size - writer.buffer.length) writer.buffer.length) 0
    else
      writer.buffer
  offset := writer.offset + size
  offset_le := by
    split
    · rw [List.length_append, List.length_replicate]
      omega
    · omega

/-- `write_bytes` -/
def writeBytes (writer : BufferWriter) (value : Bytes) : BufferWriter where
  buffer :=
    (writer.reserve value.length).buffer.take writer.offset ++ value ++
      (writer.reserve value.length).buffer.drop (writer.offset + value.length)
  offset := (writer.reserve value.length).offset
  offset_le := by
    have reserved : writer.offset + value.length ≤ (writer.reserve value.length).buffer.length :=
      (writer.reserve value.length).offset_le
    simp only [List.length_append, List.length_take, List.length_drop]
    change writer.offset + value.length ≤ _
    omega

/-- `struct.pack_into`, which refuses a number that is too large. -/
def writeNumber (width : Nat) (writer : BufferWriter) (value : Nat) :
    Except WireException BufferWriter :=
  if value < 256 ^ width then
    .ok (writer.writeBytes (BigEndian.encode width value))
  else
    .error .struct

def writeU8 : BufferWriter → Nat → Except WireException BufferWriter := writeNumber 1

def writeU16 : BufferWriter → Nat → Except WireException BufferWriter := writeNumber 2

def writeU32 : BufferWriter → Nat → Except WireException BufferWriter := writeNumber 4

def writeU64 : BufferWriter → Nat → Except WireException BufferWriter := writeNumber 8

/-- `write_string` and `write_route` -/
def writeString (writer : BufferWriter) (value : CodePoints) :
    Except WireException BufferWriter := do
  let encoded ← value.encode
  let writer ← writer.writeU32 encoded.length
  return writer.writeBytes encoded

/-- `write_optional_u64` -/
def writeOptionalU64 (writer : BufferWriter) : Option Nat → Except WireException BufferWriter
  | none => writer.writeU8 0
  | some value => do
      let writer ← writer.writeU8 1
      writer.writeU64 value

/-- `build` -/
def build (writer : BufferWriter) : Bytes :=
  writer.buffer.take writer.offset

@[simp]
theorem build_new (capacity : Nat) : (new capacity).build = [] := rfl

theorem take_reserve (writer : BufferWriter) (size : Nat) :
    (writer.reserve size).buffer.take writer.offset = writer.build := by
  simp only [reserve, build]
  split
  · exact List.take_append_of_le_length writer.offset_le
  · rfl

@[simp]
theorem build_writeBytes (writer : BufferWriter) (value : Bytes) :
    (writer.writeBytes value).build = writer.build ++ value := by
  have front : (writer.build ++ value).length = writer.offset + value.length := by
    rw [List.length_append, build, List.length_take, Nat.min_eq_left writer.offset_le]
  have filled : (writer.writeBytes value).buffer = writer.build ++ value ++
      (writer.reserve value.length).buffer.drop (writer.offset + value.length) := by
    change (writer.reserve value.length).buffer.take writer.offset ++ value ++ _ = _
    rw [take_reserve]
  rw [build, filled]
  exact List.take_left' front

theorem writeNumber_bind_eq_ok_iff {Result : Type} {width value : Nat} {writer : BufferWriter}
    {next : BufferWriter → Except WireException Result} {result : Result} :
    (writer.writeNumber width value >>= next) = .ok result ↔
      value < 256 ^ width ∧
        next (writer.writeBytes (BigEndian.encode width value)) = .ok result := by
  rw [writeNumber]
  split_ifs with fits
  · exact ⟨fun built => ⟨fits, built⟩, fun built => built.2⟩
  · exact ⟨fun built => (nomatch built), fun built => absurd built.1 fits⟩

theorem writeString_bind_eq_ok_iff {Result : Type} {text : String} {writer : BufferWriter}
    {next : BufferWriter → Except WireException Result} {result : Result} :
    (writer.writeString (.ofString text) >>= next) = .ok result ↔
      (Utf8.encode text).length < 256 ^ 4 ∧
        next ((writer.writeBytes (BigEndian.encode 4 (Utf8.encode text).length)).writeBytes
          (Utf8.encode text)) = .ok result := by
  have written : (writer.writeString (.ofString text) >>= next) =
      (writer.writeU32 (Utf8.encode text).length >>= fun writer =>
        next (writer.writeBytes (Utf8.encode text))) := by
    rw [writeString, CodePoints.encode_ofString]
    cases wrote : writer.writeU32 (Utf8.encode text).length <;>
      simp only [bind, Except.bind, wrote, pure, Except.pure]
  rw [written]
  exact writeNumber_bind_eq_ok_iff

end BufferWriter

/-- A computation of a `BufferReader`, whose state is what is left unread. -/
abbrev BufferReader := StateT Bytes (Except WireException)

namespace BufferReader

/-- `_read` and `read_bytes` -/
def readBytes (size : Nat) : BufferReader Bytes := fun unread =>
  if unread.length < size then
    .error (.codec s!"Buffer overflow: cannot read {size} bytes")
  else
    .ok (unread.take size, unread.drop size)

/-- `struct.unpack` of a number. -/
def readNumber (width : Nat) : BufferReader Nat := do
  return BigEndian.decode (← readBytes width)

def readU8 : BufferReader Nat := readNumber 1

def readU16 : BufferReader Nat := readNumber 2

def readU32 : BufferReader Nat := readNumber 4

def readU64 : BufferReader Nat := readNumber 8

/-- `read_string` and `read_route` -/
def readString : BufferReader String := do
  let encoded ← readBytes (← readU32)
  match Utf8.decode? encoded with
  | some value => return value
  | none => throw .unicodeDecode

/-- `read_optional_u64` -/
def readOptionalU64 : BufferReader (Option Nat) := do
  let flag ← readU8
  if flag = 0 then
    return none
  else if flag = 1 then
    return some (← readU64)
  else
    throw (.codec s!"Invalid optional u64 flag: {flag}")

/-- `remaining`, which consumes nothing. -/
def remaining : BufferReader Bytes := get

/-- `is_eof` -/
def isEof : BufferReader Bool := return (← get).isEmpty

variable {α β : Type}

theorem bind_of_ok {first : BufferReader α} {unread rest : Bytes} {value : α}
    (read : first unread = .ok (value, rest)) (next : α → BufferReader β) :
    (first >>= next) unread = next value rest := by
  simp only [bind, StateT.bind, read, Except.bind]

theorem bind_of_error {first : BufferReader α} {unread : Bytes} {error : WireException}
    (read : first unread = .error error) (next : α → BufferReader β) :
    (first >>= next) unread = .error error := by
  simp only [bind, StateT.bind, read, Except.bind]

theorem bind_eq_ok_iff {first : BufferReader α} {next : α → BufferReader β}
    {unread rest : Bytes} {value : β} :
    (first >>= next) unread = .ok (value, rest) ↔
      ∃ middle left, first unread = .ok (middle, left) ∧ next middle left = .ok (value, rest) := by
  cases read : first unread with
  | error error => simp [bind_of_error read]
  | ok found =>
      obtain ⟨middle, left⟩ := found
      simp [bind_of_ok read]

@[simp]
theorem pure_apply (value : α) (unread : Bytes) :
    (pure value : BufferReader α) unread = .ok (value, unread) := rfl

theorem readBytes_eq_ok_iff {size : Nat} {unread value rest : Bytes} :
    readBytes size unread = .ok (value, rest) ↔ unread = value ++ rest ∧ value.length = size := by
  rw [readBytes]
  constructor
  · intro read
    split at read
    case isTrue => cases read
    case isFalse enough =>
      obtain ⟨rfl, rfl⟩ := Prod.mk.inj (Except.ok.inj read)
      exact ⟨(List.take_append_drop size unread).symm, by rw [List.length_take]; omega⟩
  · rintro ⟨rfl, rfl⟩
    simp

/-- What stands at the front is read. -/
@[simp]
theorem readBytes_append (value rest : Bytes) :
    readBytes value.length (value ++ rest) = .ok (value, rest) :=
  readBytes_eq_ok_iff.mpr ⟨rfl, rfl⟩

theorem readNumber_eq_ok_iff {width value : Nat} {unread rest : Bytes} :
    readNumber width unread = .ok (value, rest) ↔
      value < 256 ^ width ∧ unread = BigEndian.encode width value ++ rest := by
  rw [readNumber, bind_eq_ok_iff]
  constructor
  · rintro ⟨digits, left, front, decoded⟩
    obtain ⟨rfl, rfl⟩ := Prod.mk.inj (Except.ok.inj decoded)
    obtain ⟨whole, rfl⟩ := readBytes_eq_ok_iff.mp front
    exact ⟨BigEndian.decode_lt digits, by rw [BigEndian.encode_decode]; exact whole⟩
  · rintro ⟨fits, rfl⟩
    refine ⟨BigEndian.encode width value, rest,
      readBytes_eq_ok_iff.mpr ⟨rfl, BigEndian.length_encode width value⟩, ?_⟩
    rw [BigEndian.decode_encode fits, pure_apply]

/-- A number that was written is read. -/
theorem readNumber_encode {width value : Nat} (fits : value < 256 ^ width) (rest : Bytes) :
    readNumber width (BigEndian.encode width value ++ rest) = .ok (value, rest) :=
  readNumber_eq_ok_iff.mpr ⟨fits, rfl⟩

theorem readString_eq_ok_iff {text : String} {unread rest : Bytes} :
    readString unread = .ok (text, rest) ↔
      (Utf8.encode text).length < 256 ^ 4 ∧
        unread = BigEndian.encode 4 (Utf8.encode text).length ++ (Utf8.encode text ++ rest) := by
  rw [readString, bind_eq_ok_iff]
  constructor
  · rintro ⟨length, left, front, following⟩
    obtain ⟨encoded, after, body, decoded⟩ := bind_eq_ok_iff.mp following
    obtain ⟨fits, rfl⟩ := readNumber_eq_ok_iff.mp front
    obtain ⟨rfl, rfl⟩ := readBytes_eq_ok_iff.mp body
    cases found : Utf8.decode? encoded with
    | none =>
        rw [found] at decoded
        cases decoded
    | some value =>
        rw [found] at decoded
        obtain ⟨rfl, rfl⟩ := Prod.mk.inj (Except.ok.inj decoded)
        rw [Utf8.encode_of_decode?_eq_some found]
        exact ⟨fits, rfl⟩
  · rintro ⟨fits, rfl⟩
    refine ⟨_, _, readNumber_encode fits _, ?_⟩
    rw [bind_of_ok (readBytes_append _ _), Utf8.decode?_encode]
    rfl

/-- A text that was written is read. -/
theorem readString_encode {text : String} (fits : (Utf8.encode text).length < 256 ^ 4)
    (rest : Bytes) :
    readString (BigEndian.encode 4 (Utf8.encode text).length ++ (Utf8.encode text ++ rest)) =
      .ok (text, rest) :=
  readString_eq_ok_iff.mpr ⟨fits, rfl⟩

end BufferReader

end FitzClient
