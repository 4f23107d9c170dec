import FitzClient.BufferCursor
import FitzClient.TokenReader

/-!
# Writing values and reading them back

A sequence of writes builds the encodings of the values, one after another,
wherever the array of the writer had to grow.  The reads that match them return
the values and end where the message does.  If the message is cut off anywhere,
the reads return the values that are there as a whole, and then one raises.
-/

namespace FitzClient

/-- The string with these code points. -/
def CodePoints.toText (value : CodePoints) : String :=
  String.ofList (value.map Char.ofNat)

theorem CodePoints.encode_of_encodes {value : CodePoints} (encodes : value.encodes = true) :
    value.encode = .ok (Utf8.encode value.toText) :=
  if_pos encodes

/-- No code point is lost if all are in Unicode and none is a surrogate. -/
theorem CodePoints.ofString_toText {value : CodePoints} (encodes : value.encodes = true)
    (unicode : ∀ point ∈ value, point < 0x110000) : ofString value.toText = value := by
  have kept : ∀ point ∈ value, (Char.toNat ∘ Char.ofNat) point = point := by
    intro point member
    have scalar : point.isValidChar := by
      have noSurrogate := List.all_eq_true.mp encodes point member
      have inUnicode := unicode point member
      simp only [Bool.or_eq_true, decide_eq_true_eq] at noSurrogate
      exact noSurrogate.imp_right fun above => ⟨above, inUnicode⟩
    rw [Function.comp_apply, Char.ofNat, dif_pos scalar]
    rfl
  rw [ofString, toText, String.toList_ofList, List.map_map]
  exact (List.map_congr_left kept).trans (List.map_id value)

/-- A value that is written by one call. -/
inductive WireValue
  | u8 (value : Nat)
  | u16 (value : Nat)
  | u32 (value : Nat)
  | u64 (value : Nat)
  | bytes (value : Bytes)
  | text (value : CodePoints)
  | optionalU64 (value : Option Nat)
  deriving DecidableEq, Repr

/-- The call that reads a value, which is told how many raw bytes there are. -/
inductive WireField
  | u8
  | u16
  | u32
  | u64
  | bytes (length : Nat)
  | text
  | optionalU64
  deriving DecidableEq, Repr

namespace WireValue

/-- The read that matches the write of the value. -/
def field : WireValue → WireField
  | u8 _ => .u8
  | u16 _ => .u16
  | u32 _ => .u32
  | u64 _ => .u64
  | bytes value => .bytes value.length
  | text _ => .text
  | optionalU64 _ => .optionalU64

/-- The value is one that its write takes. -/
def InRange : WireValue → Prop
  | u8 value => value < 256 ^ 1
  | u16 value => value < 256 ^ 2
  | u32 value => value < 256 ^ 4
  | u64 value => value < 256 ^ 8
  | bytes _ => True
  | text value => value.encodes = true ∧ (∀ point ∈ value, point < 0x110000) ∧
      (Utf8.encode value.toText).length < 256 ^ 4
  | optionalU64 none => True
  | optionalU64 (some value) => value < 256 ^ 8

instance : DecidablePred InRange
  | u8 _ | u16 _ | u32 _ | u64 _ | optionalU64 (some _) => inferInstanceAs (Decidable (_ < _))
  | bytes _ | optionalU64 none => inferInstanceAs (Decidable True)
  | text _ => inferInstanceAs (Decidable (_ ∧ _ ∧ _))

/-- The bytes that stand for the value. -/
def encoding : WireValue → Bytes
  | u8 value => BigEndian.encode 1 value
  | u16 value => BigEndian.encode 2 value
  | u32 value => BigEndian.encode 4 value
  | u64 value => BigEndian.encode 8 value
  | bytes value => value
  | text value =>
      BigEndian.encode 4 (Utf8.encode value.toText).length ++ Utf8.encode value.toText
  | optionalU64 none => BigEndian.encode 1 0
  | optionalU64 (some value) => BigEndian.encode 1 1 ++ BigEndian.encode 8 value

end WireValue

namespace BufferWriter

/-- The write of a value. -/
def write (writer : BufferWriter) : WireValue → Except WireException BufferWriter
  | .u8 value => writer.writeU8 value
  | .u16 value => writer.writeU16 value
  | .u32 value => writer.writeU32 value
  | .u64 value => writer.writeU64 value
  | .bytes value => .ok (writer.writeBytes value)
  | .text value => writer.writeString value
  | .optionalU64 value => writer.writeOptionalU64 value

/-- The writes of some values, one after another. -/
def writeAll (writer : BufferWriter) : List WireValue → Except WireException BufferWriter
  | [] => .ok writer
  | value :: values => do
      let writer ← writer.write value
      writer.writeAll values

/-- Running the step appends these bytes to what is built. -/
def Appends (bytes : Bytes) (writer : BufferWriter)
    (written : Except WireException BufferWriter) : Prop :=
  ∃ later, written = .ok later ∧ later.build = writer.build ++ bytes

theorem appends_writeBytes (writer : BufferWriter) (value : Bytes) :
    Appends value writer (.ok (writer.writeBytes value)) :=
  ⟨_, rfl, build_writeBytes writer value⟩

theorem appends_writeNumber {width value : Nat} (fits : value < 256 ^ width)
    (writer : BufferWriter) :
    Appends (BigEndian.encode width value) writer (writer.writeNumber width value) := by
  rw [writeNumber, if_pos fits]
  exact appends_writeBytes writer _

theorem Appends.bind {writer : BufferWriter} {front back : Bytes}
    {written : Except WireException BufferWriter}
    {next : BufferWriter → Except WireException BufferWriter}
    (first : Appends front writer written)
    (second : ∀ later, Appends back later (next later)) :
    Appends (front ++ back) writer (written >>= next) := by
  obtain ⟨middle, rfl, middleBuilt⟩ := first
  obtain ⟨last, wrote, lastBuilt⟩ := second middle
  refine ⟨last, wrote, ?_⟩
  rw [lastBuilt, middleBuilt, List.append_assoc]

/-- A value in range is written, as its encoding. -/
theorem appends_write {value : WireValue} (inRange : value.InRange) (writer : BufferWriter) :
    Appends value.encoding writer (writer.write value) := by
  cases value with
  | u8 value => exact appends_writeNumber inRange writer
  | u16 value => exact appends_writeNumber inRange writer
  | u32 value => exact appends_writeNumber inRange writer
  | u64 value => exact appends_writeNumber inRange writer
  | bytes value => exact appends_writeBytes writer value
  | text value =>
      obtain ⟨encodes, -, fits⟩ := inRange
      rw [write, writeString, CodePoints.encode_of_encodes encodes]
      exact (appends_writeNumber fits writer).bind fun later => appends_writeBytes later _
  | optionalU64 value =>
      cases value with
      | none => exact appends_writeNumber (by decide) writer
      | some value =>
          exact (appends_writeNumber (by decide) writer).bind
            (appends_writeNumber inRange)

/-- So are the values of a list, whatever the capacity left. -/
theorem appends_writeAll {values : List WireValue}
    (inRange : ∀ value ∈ values, value.InRange) (writer : BufferWriter) :
    Appends (values.flatMap WireValue.encoding) writer (writer.writeAll values) := by
  induction values generalizing writer with
  | nil => exact ⟨writer, rfl, (List.append_nil _).symm⟩
  | cons value values ih =>
      obtain ⟨front, others⟩ := List.forall_mem_cons.mp inRange
      rw [List.flatMap_cons]
      exact (appends_write front writer).bind (ih others)

end BufferWriter

namespace WireField

open TokenReader

/-- The read of a value from what is left of a message. -/
def take : WireField → BufferReader WireValue
  | u8 => return .u8 (← BufferReader.readU8)
  | u16 => return .u16 (← BufferReader.readU16)
  | u32 => return .u32 (← BufferReader.readU32)
  | u64 => return .u64 (← BufferReader.readU64)
  | bytes length => return .bytes (← BufferReader.readBytes length)
  | text => return .text (.ofString (← BufferReader.readString))
  | optionalU64 => return .optionalU64 (← BufferReader.readOptionalU64)

theorem readOptionalU64_none (rest : Bytes) :
    BufferReader.readOptionalU64 (BigEndian.encode 1 0 ++ rest) = .ok (none, rest) := by
  rw [BufferReader.readOptionalU64, BufferReader.readU8,
    BufferReader.bind_of_ok (BufferReader.readNumber_encode (by decide) rest)]
  rfl

theorem readOptionalU64_some {value : Nat} (fits : value < 256 ^ 8) (rest : Bytes) :
    BufferReader.readOptionalU64 (BigEndian.encode 1 1 ++ (BigEndian.encode 8 value ++ rest)) =
      .ok (some value, rest) := by
  rw [BufferReader.readOptionalU64, BufferReader.readU8,
    BufferReader.bind_of_ok (BufferReader.readNumber_encode (by decide) _)]
  exact BufferReader.bind_of_ok (BufferReader.readNumber_encode fits rest) _

/-- The encoding of a value is read as that value. -/
theorem take_encoding {value : WireValue} (inRange : value.InRange) (rest : Bytes) :
    value.field.take (value.encoding ++ rest) = .ok (value, rest) := by
  cases value with
  | u8 value => exact BufferReader.bind_of_ok (BufferReader.readNumber_encode inRange rest) _
  | u16 value => exact BufferReader.bind_of_ok (BufferReader.readNumber_encode inRange rest) _
  | u32 value => exact BufferReader.bind_of_ok (BufferReader.readNumber_encode inRange rest) _
  | u64 value => exact BufferReader.bind_of_ok (BufferReader.readNumber_encode inRange rest) _
  | bytes value => exact BufferReader.bind_of_ok (BufferReader.readBytes_append value rest) _
  | text value =>
      obtain ⟨encodes, unicode, fits⟩ := inRange
      rw [WireValue.encoding, List.append_assoc]
      refine (BufferReader.bind_of_ok (BufferReader.readString_encode fits rest) _).trans ?_
      rw [CodePoints.ofString_toText encodes unicode]
      rfl
  | optionalU64 value =>
      cases value with
      | none => exact BufferReader.bind_of_ok (readOptionalU64_none rest) _
      | some value =>
          rw [WireValue.encoding, List.append_assoc]
          exact BufferReader.bind_of_ok (readOptionalU64_some inRange rest) _

/-- The exception of a read that would go past the end. -/
def Overflow (error : WireException) : Prop :=
  ∃ size : Nat, error = .codec s!"Buffer overflow: cannot read {size} bytes"

theorem starves_readBytes (value : Bytes) :
    Starves Overflow (BufferReader.readBytes value.length) value := by
  intro size shorter
  refine ⟨_, if_pos ?_, value.length, rfl⟩
  rw [List.length_take]
  omega

theorem starves_readNumber (width value : Nat) :
    Starves Overflow (BufferReader.readNumber width) (BigEndian.encode width value) := by
  have digits := starves_readBytes (BigEndian.encode width value)
  rw [BigEndian.length_encode] at digits
  exact digits.bind_left _

theorem starves_readString {text : String} (fits : (Utf8.encode text).length < 256 ^ 4) :
    Starves Overflow BufferReader.readString
      (BigEndian.encode 4 (Utf8.encode text).length ++ Utf8.encode text) :=
  (starves_readNumber 4 _).bind (BufferReader.readNumber_encode fits)
    ((starves_readBytes _).bind_left _)

theorem starves_readOptionalU64 (value : Nat) :
    Starves Overflow BufferReader.readOptionalU64
      (BigEndian.encode 1 1 ++ BigEndian.encode 8 value) :=
  (starves_readNumber 1 1).bind (BufferReader.readNumber_encode (by decide))
    ((starves_readNumber 8 value).bind_left _)

/-- The read of an encoding that is cut off raises. -/
theorem starves_take {value : WireValue} (inRange : value.InRange) :
    Starves Overflow value.field.take value.encoding := by
  cases value with
  | u8 value => exact (starves_readNumber 1 value).bind_left _
  | u16 value => exact (starves_readNumber 2 value).bind_left _
  | u32 value => exact (starves_readNumber 4 value).bind_left _
  | u64 value => exact (starves_readNumber 8 value).bind_left _
  | bytes value => exact (starves_readBytes value).bind_left _
  | text value => exact (starves_readString inRange.2.2).bind_left _
  | optionalU64 value =>
      cases value with
      | none => exact ((starves_readNumber 1 0).bind_left _).bind_left _
      | some value => exact (starves_readOptionalU64 value).bind_left _

end WireField

namespace BufferCursor

open TokenReader WireField

/-- The read of a value. -/
def readField : WireField → Method WireValue
  | .u8 => return .u8 (← readU8)
  | .u16 => return .u16 (← readU16)
  | .u32 => return .u32 (← readU32)
  | .u64 => return .u64 (← readU64)
  | .bytes length => return .bytes (← readBytes length)
  | .text => return .text (.ofString (← readString))
  | .optionalU64 => return .optionalU64 (← readOptionalU64)

/-- The reads of some values, one after another. -/
def readAll : List WireField → Method (List WireValue)
  | [] => return []
  | field :: fields => do
      let value ← readField field
      let values ← readAll fields
      return value :: values

theorem follows_readField (field : WireField) : Follows (readField field) field.take := by
  cases field with
  | u8 => exact (follows_readNumber 1).bind fun _ => follows_pure _
  | u16 => exact (follows_readNumber 2).bind fun _ => follows_pure _
  | u32 => exact (follows_readNumber 4).bind fun _ => follows_pure _
  | u64 => exact (follows_readNumber 8).bind fun _ => follows_pure _
  | bytes length => exact (follows_readBytes length).bind fun _ => follows_pure _
  | text => exact follows_readString.bind fun _ => follows_pure _
  | optionalU64 => exact follows_readOptionalU64.bind fun _ => follows_pure _

theorem follows_readAll (fields : List WireField) :
    Follows (readAll fields) (each take fields) := by
  induction fields with
  | nil => exact follows_pure []
  | cons field fields ih =>
      exact (follows_readField field).bind fun _ => ih.bind fun _ => follows_pure _

/-- What was encoded in front is read, and the cursor stands behind it. -/
theorem readAll_flatMap {values : List WireValue} (inRange : ∀ value ∈ values, value.InRange)
    {cursor : BufferCursor} {rest : Bytes}
    (front : cursor.remaining = values.flatMap WireValue.encoding ++ rest) :
    ∃ last, readAll (values.map WireValue.field) cursor = (.ok values, last) ∧
      last.buffer = cursor.buffer ∧ last.remaining = rest := by
  refine (follows_readAll _).run ?_
  rw [front]
  exact each_flatMap (fun value member => take_encoding (inRange value member)) rest

/-- The first read that raises is the last one. -/
theorem readAll_append_of_error {fields back : List WireField} {field : WireField}
    {cursor middle last : BufferCursor} {values : List WireValue} {error : WireException}
    (read : readAll fields cursor = (.ok values, middle))
    (failed : readField field middle = (.error error, last)) :
    readAll (fields ++ field :: back) cursor = (.error error, last) := by
  induction fields generalizing cursor values with
  | nil =>
      obtain rfl : cursor = middle := (Prod.mk.inj read).2
      exact bind_of_error failed _
  | cons first fields ih =>
      rcases ran : readField first cursor with ⟨outcome, next⟩
      rw [readAll] at read
      cases outcome with
      | error other =>
          rw [bind_of_error ran] at read
          cases read
      | ok value =>
          rw [bind_of_ok ran] at read
          rcases goesOn : readAll fields next with ⟨following, final⟩
          cases following with
          | error other =>
              rw [bind_of_error goesOn] at read
              cases read
          | ok others =>
              rw [bind_of_ok goesOn] at read
              obtain rfl : final = middle := (Prod.mk.inj read).2
              rw [List.cons_append, readAll, bind_of_ok ran]
              exact bind_of_error (ih goesOn) _

/-- The reads of the values stop within a message: some of them return what was written, and
the next one raises the `CodecError` of a read that would go past the end. -/
def StopsWithin (values : List WireValue) (message : Bytes) : Prop :=
  ∃ (front : List WireValue) (value : WireValue) (back : List WireValue)
    (middle last : BufferCursor) (size : Nat),
    values = front ++ value :: back ∧
    readAll (front.map WireValue.field) (new message) = (.ok front, middle) ∧
    middle.buffer = message ∧ middle.consumed = front.flatMap WireValue.encoding ∧
    readField value.field middle =
      (.error (.codec s!"Buffer overflow: cannot read {size} bytes"), last) ∧
    last.buffer = message ∧
    readAll (values.map WireValue.field) (new message) =
      (.error (.codec s!"Buffer overflow: cannot read {size} bytes"), last)

/-- A part of the encodings makes the reads of the values stop within it. -/
theorem stopsWithin_take {values : List WireValue} (inRange : ∀ value ∈ values, value.InRange)
    {size : Nat} (shorter : size < (values.flatMap WireValue.encoding).length) :
    StopsWithin values ((values.flatMap WireValue.encoding).take size) := by
  obtain ⟨front, value, back, rest, rfl, cut, error, failed, wanted, rfl⟩ :=
    exists_starved (fun value member => starves_take (inRange value member)) shorter
  have frontInRange : ∀ value ∈ front, value.InRange := fun value member =>
    inRange value (List.mem_append_left _ member)
  rw [cut]
  obtain ⟨middle, run, sameMessage, rfl⟩ :=
    readAll_flatMap frontInRange (remaining_new (front.flatMap WireValue.encoding ++ rest))
  obtain ⟨last, raised, stillSame⟩ := (follows_readField value.field).fail failed
  have consumed : middle.consumed = front.flatMap WireValue.encoding := by
    have whole := consumed_append_remaining middle
    rw [sameMessage] at whole
    exact List.append_cancel_right whole
  refine ⟨front, value, back, middle, last, wanted, rfl, run, sameMessage, consumed, raised,
    stillSame.trans sameMessage, ?_⟩
  rw [List.map_append, List.map_cons]
  exact readAll_append_of_error run raised

/-- A read never returns bytes that are not in the message. -/
theorem returned_isPrefix {size : Nat} {cursor last : BufferCursor} {bytes : Bytes}
    (read : readBytes size cursor = (.ok bytes, last)) :
    cursor.consumed ++ bytes <+: cursor.buffer := by
  obtain ⟨same, consumed⟩ := consumed_readBytes read
  rw [← consumed, ← same]
  exact List.take_prefix _ _

/-- Values in range are built as their encodings, whatever the capacity was; the matching reads
return them and end where the message does; and within a strict prefix they stop, at an
exception of `_read`, with no byte returned that is not in it. -/
theorem readAll_build (capacity : Nat) {values : List WireValue}
    (inRange : ∀ value ∈ values, value.InRange) :
    ∃ writer, (BufferWriter.new capacity).writeAll values = .ok writer ∧
      writer.build = values.flatMap WireValue.encoding ∧
      (∃ last, readAll (values.map WireValue.field) (new writer.build) = (.ok values, last) ∧
        last.isEof = true) ∧
      ∀ cut, cut <+: writer.build → cut ≠ writer.build →
        StopsWithin values cut ∧
          ∀ (cursor last : BufferCursor) (size : Nat) (bytes : Bytes), cursor.buffer = cut →
            readBytes size cursor = (.ok bytes, last) → cursor.consumed ++ bytes <+: cut := by
  obtain ⟨writer, wrote, built⟩ :=
    BufferWriter.appends_writeAll inRange (BufferWriter.new capacity)
  rw [BufferWriter.build_new, List.nil_append] at built
  have whole : (new writer.build).remaining = values.flatMap WireValue.encoding ++ [] := by
    rw [remaining_new, built, List.append_nil]
  obtain ⟨last, read, -, ended⟩ := readAll_flatMap inRange whole
  refine ⟨writer, wrote, built, ⟨last, read, isEof_iff.mpr ended⟩, fun cut part strict =>
    ⟨?_, fun cursor last size bytes same returned => same ▸ returned_isPrefix returned⟩⟩
  have shorter : cut.length < writer.build.length :=
    Nat.lt_of_le_of_ne part.length_le fun same => strict (part.eq_of_length same)
  rw [List.prefix_iff_eq_take.mp part, built]
  exact stopsWithin_take inRange (built ▸ shorter)

/-- Values of all kinds, with those of the test of a round trip in front. -/
def mixedValues : List WireValue :=
  [.u8 7, .u64 (2 ^ 63), .text (.ofString "hello"), .u16 513, .u32 67305985, .bytes [0, 255],
    .text (.ofString "kv://ü"), .optionalU64 none, .optionalU64 (some 9)]

theorem readAll_build_mixed :
    (∀ value ∈ mixedValues, value.InRange) ∧
      ∃ writer, (BufferWriter.new 1).writeAll mixedValues = .ok writer ∧
        writer.build = mixedValues.flatMap WireValue.encoding ∧
        (∃ last, readAll (mixedValues.map WireValue.field) (new writer.build) =
          (.ok mixedValues, last) ∧ last.isEof = true) ∧
        ∀ cut, cut <+: writer.build → cut ≠ writer.build →
          StopsWithin mixedValues cut ∧
            ∀ (cursor last : BufferCursor) (size : Nat) (bytes : Bytes), cursor.buffer = cut →
              readBytes size cursor = (.ok bytes, last) → cursor.consumed ++ bytes <+: cut := by
  have inRange : ∀ value ∈ mixedValues, value.InRange := by decide +kernel
  exact ⟨inRange, readAll_build 1 inRange⟩

end BufferCursor

end FitzClient
