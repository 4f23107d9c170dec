import FitzClient.WireBuffer

/-!
# The cursor of a buffer reader

A `BufferReader` keeps the whole message and the offset up to which it has been
read.  A read that raises leaves the offset where its last part has put it.
Each of the reads does to what is left of the message what its counterpart does
that takes bytes off the front of a list.
-/

namespace FitzClient

/-- The message of a `BufferReader` and how far it is read. -/
structure BufferCursor where
  buffer : Bytes
  offset : Nat
  offset_le : offset ≤ buffer.length

namespace BufferCursor

/-- `BufferReader(data)` -/
def new (data : Bytes) : BufferCursor where
  buffer := data
  offset := 0
  offset_le := Nat.zero_le _

/-- All that the reads so far have returned. -/
def consumed (cursor : BufferCursor) : Bytes :=
  cursor.buffer.take cursor.offset

/-- `remaining` -/
def remaining (cursor : BufferCursor) : Bytes :=
  cursor.buffer.drop cursor.offset

/-- `is_eof` -/
def isEof (cursor : BufferCursor) : Bool :=
  cursor.buffer.length ≤ cursor.offset

@[simp]
theorem remaining_new (data : Bytes) : (new data).remaining = data := rfl

theorem consumed_append_remaining (cursor : BufferCursor) :
    cursor.consumed ++ cursor.remaining = cursor.buffer :=
  List.take_append_drop _ _

theorem isEof_iff {cursor : BufferCursor} : cursor.isEof = true ↔ cursor.remaining = [] := by
  rw [isEof, decide_eq_true_eq, remaining, List.drop_eq_nil_iff]

theorem length_remaining (cursor : BufferCursor) :
    cursor.remaining.length = cursor.buffer.length - cursor.offset :=
  List.length_drop

/-- A method of a reader, which may have moved the cursor when it raises. -/
abbrev Method := ExceptT WireException (StateM BufferCursor)

/-- `_read` and `read_bytes` -/
def readBytes (size : Nat) : Method Bytes := fun cursor =>
  if overflow : cursor.buffer.length < cursor.offset + size then
    (.error (.codec s!"Buffer overflow: cannot read {size} bytes"), cursor)
  else
    (.ok (cursor.remaining.take size),
      { cursor with offset := cursor.offset + size, offset_le := Nat.le_of_not_lt overflow })

/-- `struct.unpack` of a number. -/
def readNumber (width : Nat) : Method Nat := do
  return BigEndian.decode (← readBytes width)

def readU8 : Method Nat := readNumber 1

def readU16 : Method Nat := readNumber 2

def readU32 : Method Nat := readNumber 4

def readU64 : Method Nat := readNumber 8

/-- `read_string` and `read_route` -/
def readString : Method String := do
  let encoded ← readBytes (← readU32)
  match Utf8.decode? encoded with
  | some value => return value
  | none => throw .unicodeDecode

/-- `read_optional_u64` -/
def readOptionalU64 : Method (Option Nat) := do
  let flag ← readU8
  if flag = 0 then
    return none
  else if flag = 1 then
    return some (← readU64)
  else
    throw (.codec s!"Invalid optional u64 flag: {flag}")

/-- What a read returns is what comes next in the message. -/
theorem consumed_readBytes {size : Nat} {cursor last : BufferCursor} {bytes : Bytes}
    (read : readBytes size cursor = (.ok bytes, last)) :
    last.buffer = cursor.buffer ∧ last.consumed = cursor.consumed ++ bytes := by
  rw [readBytes] at read
  split at read
  case isTrue => cases read
  case isFalse =>
    obtain ⟨returned, rfl⟩ := Prod.mk.inj read
    obtain rfl := Except.ok.inj returned
    exact ⟨rfl, List.take_add⟩

/-- The method does to the cursor what the reader does to what is left. -/
structure Follows {α : Type} (method : Method α) (reader : BufferReader α) : Prop where
  buffer : ∀ cursor, (method cursor).2.buffer = cursor.buffer
  ok : ∀ cursor value rest, reader cursor.remaining = .ok (value, rest) →
    (method cursor).1 = .ok value ∧ (method cursor).2.remaining = rest
  error : ∀ cursor error, reader cursor.remaining = .error error →
    (method cursor).1 = .error error

section Follows

variable {α β : Type} {method : Method α} {reader : BufferReader α}

theorem bind_of_ok {cursor middle : BufferCursor} {value : α}
    (run : method cursor = (.ok value, middle)) (next : α → Method β) :
    (method >>= next) cursor = next value middle := by
  change (ExceptT.bindCont next (method cursor).1) (method cursor).2 = _
  rw [run]
  rfl

theorem bind_of_error {cursor middle : BufferCursor} {error : WireException}
    (run : method cursor = (.error error, middle)) (next : α → Method β) :
    (method >>= next) cursor = (.error error, middle) := by
  change (ExceptT.bindCont next (method cursor).1) (method cursor).2 = _
  rw [run]
  rfl

/-- What the reader returns is returned, and as much is left. -/
theorem Follows.run (follows : Follows method reader) {cursor : BufferCursor} {value : α}
    {rest : Bytes} (read : reader cursor.remaining = .ok (value, rest)) :
    ∃ last, method cursor = (.ok value, last) ∧ last.buffer = cursor.buffer ∧
      last.remaining = rest := by
  obtain ⟨returned, left⟩ := follows.ok cursor value rest read
  exact ⟨(method cursor).2, Prod.ext returned rfl, follows.buffer cursor, left⟩

theorem Follows.fail (follows : Follows method reader) {cursor : BufferCursor}
    {error : WireException} (failed : reader cursor.remaining = .error error) :
    ∃ last, method cursor = (.error error, last) ∧ last.buffer = cursor.buffer :=
  ⟨(method cursor).2, Prod.ext (follows.error cursor error failed) rfl, follows.buffer cursor⟩

theorem follows_pure (value : α) : Follows (pure value) (pure value) where
  buffer _ := rfl
  ok cursor found rest read := by
    obtain ⟨rfl, rfl⟩ := Prod.mk.inj (Except.ok.inj read)
    exact ⟨rfl, rfl⟩
  error _ _ failed := nomatch failed

theorem follows_throw (error : WireException) :
    Follows (throw error : Method α) (throw error) where
  buffer _ := rfl
  ok _ _ _ read := nomatch read
  error _ other failed := by
    obtain rfl := Except.error.inj failed
    rfl

theorem Follows.bind (follows : Follows method reader) {nextMethod : α → Method β}
    {next : α → BufferReader β} (goesOn : ∀ value, Follows (nextMethod value) (next value)) :
    Follows (method >>= nextMethod) (reader >>= next) where
  buffer cursor := by
    cases read : reader cursor.remaining with
    | error error =>
        obtain ⟨last, run, same⟩ := follows.fail read
        rw [bind_of_error run, same]
    | ok found =>
        obtain ⟨middle, run, same, -⟩ := follows.run read
        rw [bind_of_ok run, (goesOn found.1).buffer, same]
  ok cursor value rest read := by
    obtain ⟨first, left, front, following⟩ := BufferReader.bind_eq_ok_iff.mp read
    obtain ⟨middle, run, -, rfl⟩ := follows.run front
    rw [bind_of_ok run]
    exact (goesOn first).ok middle value rest following
  error cursor error failed := by
    cases read : reader cursor.remaining with
    | error other =>
        rw [BufferReader.bind_of_error read] at failed
        obtain rfl := Except.error.inj failed
        obtain ⟨last, run, -⟩ := follows.fail read
        rw [bind_of_error run]
    | ok found =>
        obtain ⟨first, left⟩ := found
        rw [BufferReader.bind_of_ok read] at failed
        obtain ⟨middle, run, -, rfl⟩ := follows.run read
        rw [bind_of_ok run]
        exact (goesOn first).error middle error failed

theorem Follows.ite {condition : Prop} [Decidable condition] {otherMethod : Method α}
    {other : BufferReader α} (first : Follows method reader)
    (second : Follows otherMethod other) :
    Follows (if condition then method else otherMethod)
      (if condition then reader else other) := by
  split_ifs
  · exact first
  · exact second

theorem follows_readBytes (size : Nat) :
    Follows (readBytes size) (BufferReader.readBytes size) where
  buffer cursor := by
    rw [readBytes]
    split <;> rfl
  ok cursor value rest read := by
    rw [BufferReader.readBytes, length_remaining] at read
    have bound := cursor.offset_le
    split at read
    case isTrue => cases read
    case isFalse enough =>
      obtain ⟨rfl, rfl⟩ := Prod.mk.inj (Except.ok.inj read)
      rw [readBytes, dif_neg (by omega)]
      exact ⟨rfl, List.drop_drop.symm⟩
  error cursor error failed := by
    rw [BufferReader.readBytes, length_remaining] at failed
    have bound := cursor.offset_le
    split at failed
    case isTrue short =>
      obtain rfl := Except.error.inj failed
      rw [readBytes, dif_pos (by omega)]
    case isFalse => cases failed

theorem follows_readNumber (width : Nat) :
    Follows (readNumber width) (BufferReader.readNumber width) :=
  (follows_readBytes width).bind fun _ => follows_pure _

theorem follows_readString : Follows readString BufferReader.readString := by
  refine (follows_readNumber 4).bind fun size => (follows_readBytes size).bind fun encoded => ?_
  cases Utf8.decode? encoded with
  | none => exact follows_throw _
  | some value => exact follows_pure value

theorem follows_readOptionalU64 : Follows readOptionalU64 BufferReader.readOptionalU64 :=
  (follows_readNumber 1).bind fun _ =>
    (follows_pure none).ite (((follows_readNumber 8).bind fun _ => follows_pure _).ite
      (follows_throw _))

end Follows

end BufferCursor

end FitzClient
