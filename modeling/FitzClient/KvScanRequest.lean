import FitzClient.ResponsePages

/-!
# The request of a SCAN

A SCAN carries the transaction and its route, two optional bounds, an optional
limit and two flags in one byte.  The limit is checked before the lock is
taken.  Every request that the writer builds has the layout of its fields, from
which a broker can read them again.
-/

namespace FitzClient

open TokenReader ResponseReader

/-- What a caller passes as `limit`: a `bool`, what `index` makes an integer
of, or anything else. -/
inductive KvScanLimit
  | bool (value : Bool)
  | integer (value : Int)
  | other
  deriving DecidableEq, Repr

/-- The fields of a SCAN. -/
structure KvScanRequest where
  startKey : Option Bytes := none
  endKey : Option Bytes := none
  limit : Option Nat := none
  reverse : Bool := false
  startExclusive : Bool := false
  deriving DecidableEq, Repr

/-- A transaction as `begin` made it: the broker sent the number of the
transaction, and the route was written in a request. -/
structure KvScanHandle where
  txId : Nat
  route : String
  generation : Nat
  connectionGeneration : Nat
  closed : Bool := false
  txId_lt : txId < 256 ^ 8
  route_fits : TextFits route

namespace KvScanRequest

/-- The error of a limit. -/
def invalidLimit : DomainError where
  domain := .kv
  message := "SCAN limit must be an integer between 0 and 4294967295"
  reason := "INVALID_LIMIT"

def checkLimit : Option KvScanLimit → Except DomainError (Option Nat)
  | none => .ok none
  | some (.integer value) =>
      if 0 ≤ value ∧ value ≤ 0xFFFFFFFF then
        .ok (some value.toNat)
      else
        .error invalidLimit
  | some (.bool _) | some .other => .error invalidLimit

/-- `int(reverse) | (int(start_exclusive) << 1)` -/
def options (request : KvScanRequest) : Nat :=
  request.reverse.toNat ||| request.startExclusive.toNat <<< 1

/-- A bound and the flag in front of it. -/
def writeKey (writer : BufferWriter) : Option Bytes → Except WireException BufferWriter
  | none => writer.writeU8 0
  | some key => do
      let writer ← writer.writeU8 1
      let writer ← writer.writeU32 key.length
      return writer.writeBytes key

def writeLimit (writer : BufferWriter) : Option Nat → Except WireException BufferWriter
  | none => writer.writeU8 0
  | some limit => do
      let writer ← writer.writeU8 1
      writer.writeU32 limit

/-- `_prefix` and the fields of a SCAN. -/
def build (handle : KvScanHandle) (request : KvScanRequest) : Except WireException Bytes := do
  let writer ← (BufferWriter.new 128).writeU64 handle.txId
  let writer ← writer.writeString (.ofString handle.route)
  let writer ← writeKey writer request.startKey
  let writer ← writeKey writer request.endKey
  let writer ← writeLimit writer request.limit
  let writer ← writer.writeU8 request.options
  return writer.build

/-- The fields fit. -/
structure Fits (request : KvScanRequest) : Prop where
  startKey : ∀ key ∈ request.startKey, BlobFits key
  endKey : ∀ key ∈ request.endKey, BlobFits key
  limit : ∀ limit ∈ request.limit, limit < 256 ^ 4

def layout (handle : KvScanHandle) (request : KvScanRequest) : Bytes :=
  BigEndian.encode 8 handle.txId ++ (textLayout handle.route ++
    (optionLayout blobLayout request.startKey ++ (optionLayout blobLayout request.endKey ++
      (optionLayout (BigEndian.encode 4) request.limit ++ BigEndian.encode 1 request.options))))

theorem options_lt (request : KvScanRequest) : request.options < 4 := by
  unfold options
  cases request.reverse <;> cases request.startExclusive <;> decide

/-- What `writeKey` does if the key fits. -/
def appendKey (writer : BufferWriter) : Option Bytes → BufferWriter
  | none => writer.writeBytes (BigEndian.encode 1 0)
  | some key =>
      ((writer.writeBytes (BigEndian.encode 1 1)).writeBytes
        (BigEndian.encode 4 key.length)).writeBytes key

/-- What `writeLimit` does if the limit fits. -/
def appendLimit (writer : BufferWriter) : Option Nat → BufferWriter
  | none => writer.writeBytes (BigEndian.encode 1 0)
  | some limit =>
      (writer.writeBytes (BigEndian.encode 1 1)).writeBytes (BigEndian.encode 4 limit)

section writing

variable {Result : Type} {writer : BufferWriter}
  {next : BufferWriter → Except WireException Result} {result : Result}

theorem writeNumber_eq_ok {width value : Nat} (fits : value < 256 ^ width) :
    writer.writeNumber width value = .ok (writer.writeBytes (BigEndian.encode width value)) :=
  if_pos fits

theorem writeKey_bind_eq_ok_iff {key : Option Bytes} :
    (writeKey writer key >>= next) = .ok result ↔
      (∀ bytes ∈ key, BlobFits bytes) ∧ next (appendKey writer key) = .ok result := by
  cases key with
  | none => simp [writeKey, appendKey, BufferWriter.writeU8, writeNumber_eq_ok, bind, Except.bind]
  | some key =>
      simp only [writeKey, BufferWriter.writeU8, BufferWriter.writeU32, bind_assoc,
        BufferWriter.writeNumber_bind_eq_ok_iff, pure_bind, Option.mem_some_iff, forall_eq',
        BlobFits, appendKey]
      exact ⟨fun written => written.2, fun written => ⟨by decide, written⟩⟩

theorem writeLimit_bind_eq_ok_iff {limit : Option Nat} :
    (writeLimit writer limit >>= next) = .ok result ↔
      (∀ number ∈ limit, number < 256 ^ 4) ∧ next (appendLimit writer limit) = .ok result := by
  cases limit with
  | none =>
      simp [writeLimit, appendLimit, BufferWriter.writeU8, writeNumber_eq_ok, bind, Except.bind]
  | some limit =>
      simp only [writeLimit, BufferWriter.writeU8, BufferWriter.writeU32, bind_assoc,
        BufferWriter.writeNumber_bind_eq_ok_iff, Option.mem_some_iff, forall_eq', appendLimit]
      exact ⟨fun written => written.2, fun written => ⟨by decide, written⟩⟩

@[simp]
theorem build_appendKey (key : Option Bytes) :
    (appendKey writer key).build = writer.build ++ optionLayout blobLayout key := by
  cases key with
  | none => simp [appendKey, optionLayout, flagLayout]
  | some key => simp [appendKey, optionLayout, flagLayout, blobLayout]

@[simp]
theorem build_appendLimit (limit : Option Nat) :
    (appendLimit writer limit).build =
      writer.build ++ optionLayout (BigEndian.encode 4) limit := by
  cases limit with
  | none => simp [appendLimit, optionLayout, flagLayout]
  | some limit => simp [appendLimit, optionLayout, flagLayout]

end writing

/-- The writer builds the layout of a request whose fields fit, and no other. -/
theorem build_eq_ok_iff {handle : KvScanHandle} {request : KvScanRequest} {bytes : Bytes} :
    build handle request = .ok bytes ↔ request.Fits ∧ bytes = layout handle request := by
  have options : request.options < 256 ^ 1 := Nat.lt_trans request.options_lt (by decide)
  simp only [build, BufferWriter.writeU8, BufferWriter.writeU64,
    BufferWriter.writeNumber_bind_eq_ok_iff, BufferWriter.writeString_bind_eq_ok_iff,
    writeKey_bind_eq_ok_iff, writeLimit_bind_eq_ok_iff]
  constructor
  · rintro ⟨-, -, startFits, endFits, limitFits, -, built⟩
    refine ⟨⟨startFits, endFits, limitFits⟩, ?_⟩
    rw [← Except.ok.inj built]
    simp [layout, textLayout, blobLayout]
  · rintro ⟨fits, rfl⟩
    refine ⟨handle.txId_lt, handle.route_fits, fits.startKey, fits.endKey, fits.limit, options, ?_⟩
    refine congrArg Except.ok ?_
    simp [layout, textLayout, blobLayout]

/-- The flags of the options. -/
def readOptions : ResponseReader (Bool × Bool) := do
  let options ← readU8
  require (options < 4) (.domain (malformed .kv "SCAN options are unknown"))
  return (options % 2 = 1, options / 2 = 1)

/-- A SCAN with the number of its transaction and the route. -/
def read : ResponseReader (Nat × String × KvScanRequest) := do
  let invalid := fun _ => malformed .kv "SCAN request has an invalid flag"
  let txId ← readU64
  let route ← readString
  let startKey ← readOption invalid readBlob
  let endKey ← readOption invalid readBlob
  let limit ← readOption invalid readU32
  let (reverse, startExclusive) ← readOptions
  return (txId, route, { startKey, endKey, limit, reverse, startExclusive })

theorem readOptions_encode (request : KvScanRequest) :
    readOptions (BigEndian.encode 1 request.options) =
      .ok ((request.reverse, request.startExclusive), []) := by
  have front := exact_readU8.read (Nat.lt_trans request.options_lt (by decide)) []
  rw [List.append_nil] at front
  rw [readOptions, bind_of_ok front, require_bind, if_pos request.options_lt]
  unfold options
  cases request.reverse <;> cases request.startExclusive <;> rfl

/-- A broker reads the fields of the request that the writer built. -/
theorem read_layout (handle : KvScanHandle) {request : KvScanRequest} (fits : request.Fits) :
    read (layout handle request) = .ok ((handle.txId, handle.route, request), []) := by
  unfold read layout
  rw [bind_of_ok (exact_readU64.read handle.txId_lt _),
    bind_of_ok (exact_readString.read handle.route_fits _),
    bind_of_ok ((exact_readOption _ exact_readBlob).read fits.startKey _),
    bind_of_ok ((exact_readOption _ exact_readBlob).read fits.endKey _),
    bind_of_ok ((exact_readOption _ exact_readU32).read fits.limit _),
    bind_of_ok (readOptions_encode request)]
  rfl

end KvScanRequest

end FitzClient
