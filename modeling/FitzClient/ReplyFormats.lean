import FitzClient.DecoderEscapes
import FitzClient.TokenFormat

/-!
# The data of successful responses

Behind the status byte of a success stands what the operation returns: nothing,
an id, a page, or a record with optional fields.  Some operations check the
length of the data before they read it, some give empty data a meaning of its
own, and some skip a part of it.  Each of these is a format, with the errors
that the source raises and the encodings that it accepts.
-/

namespace FitzClient

open TokenReader ResponseReader

/-- A format of the data of a response. -/
abbrev ReplyFormat (Value : Type) := TokenFormat ResponseException UInt8 Value

namespace ReplyFormat

/-- `if response.data: raise` -/
def empty (domain : Domain) (operation : String) : ReplyFormat Unit :=
  .nothing (.domain (malformed domain (operation ++ " response has trailing bytes")))

theorem length_encode64 (value : Nat) : (BigEndian.encode 8 value).length = 8 :=
  BigEndian.length_encode 8 value

/-- Exactly one number of eight bytes. -/
def number (wrong : DomainError) : ReplyFormat Nat :=
  .ofSized exact_readU64 8 length_encode64 (.domain wrong)

/-- The id of a subscription behind the marker that it is there. -/
def readMarkedId (domain : Domain) : ResponseReader Nat := do
  let marker ← readU8
  require (marker = 1) (.domain (malformed domain "SUBSCRIBE response omitted its id"))
  readU64

/-- The same in the stream domain, which checks that something follows. -/
def readStreamSubId : ResponseReader Nat := do
  let hasSubId ← readU8
  let left ← remainingBytes
  require (hasSubId = 1 ∧ left ≠ 0) (.domain
    (StreamPage.streamError "SUBSCRIBE response missing subscription id" "MISSING_SUB_ID"))
  readU64

def markedLayout (id : Nat) : Bytes :=
  BigEndian.encode 1 1 ++ BigEndian.encode 8 id

theorem exact_readMarkedId (domain : Domain) :
    Exact (readMarkedId domain) (· < 256 ^ 8) markedLayout := by
  intro unread id rest
  simp only [readMarkedId, bind_eq_ok_iff, require_eq_ok_iff, exact_readU8 _ _ _,
    exact_readU64 _ _ _]
  constructor
  · rintro ⟨_, _, ⟨-, rfl⟩, _, _, ⟨rfl, rfl⟩, fits, rfl⟩
    exact ⟨fits, by rw [markedLayout, List.append_assoc]⟩
  · rintro ⟨fits, rfl⟩
    rw [markedLayout, List.append_assoc]
    exact ⟨1, _, ⟨by decide, rfl⟩, (), _, ⟨rfl, rfl⟩, fits, rfl⟩

theorem exact_readStreamSubId : Exact readStreamSubId (· < 256 ^ 8) markedLayout := by
  intro unread id rest
  simp only [readStreamSubId, bind_eq_ok_iff, require_eq_ok_iff, exact_readU8 _ _ _,
    remainingBytes_eq_ok_iff, exact_readU64 _ _ _]
  constructor
  · rintro ⟨_, _, ⟨-, rfl⟩, _, _, ⟨rfl, rfl⟩, _, _, ⟨⟨rfl, -⟩, rfl⟩, fits, rfl⟩
    exact ⟨fits, by rw [markedLayout, List.append_assoc]⟩
  · rintro ⟨fits, rfl⟩
    rw [markedLayout, List.append_assoc]
    refine ⟨1, _, ⟨by decide, rfl⟩, _, _, ⟨rfl, rfl⟩, (), _, ⟨⟨rfl, ?_⟩, rfl⟩, fits, rfl⟩
    rw [List.length_append, BigEndian.length_encode]
    omega

/-- `_subscribe_wire` of the queue, notice and schedule domains -/
def markedId (domain : Domain) : ReplyFormat Nat :=
  .ofReader (exact_readMarkedId domain)
    (.domain (malformed domain "SUBSCRIBE response has trailing bytes"))

/-- `_subscribe_wire` of the stream domain -/
def streamSubId : ReplyFormat Nat :=
  .ofReader exact_readStreamSubId
    (.domain (malformed .stream "SUBSCRIBE response has trailing bytes"))

/-- The data that `get` reads. -/
def kvGet : ReplyFormat (Option Bytes) :=
  .ofReader
    (exact_readOption (fun _ => malformed .kv "GET response has an invalid found flag")
      exact_readBlob)
    (.domain (malformed .kv "GET response has trailing bytes"))

/-- The data that `scan_page` reads. -/
def kvScan : ReplyFormat KvScanPage :=
  .ofReader KvScan.exact_readPage (.domain (malformed .kv "SCAN response is malformed"))

/-- The data that `reserve` reads. -/
def queueReserve (selector : String) : ReplyFormat (List QueueItem) where
  decode := QueueReserve.decode selector
  Encodes items data := data = [] ∧ items = [] ∨
    QueueReserve.Fits selector items ∧ data = QueueReserve.layout selector items
  exact _ _ := QueueReserve.decode_eq_ok_iff

theorem delimited_queueReserve (selector : String) : (queueReserve selector).Delimited := by
  rintro data more first second (⟨none, -⟩ | ⟨fits, rfl⟩) (⟨allNone, -⟩ | ⟨otherFits, same⟩)
  · exact Or.inr none
  · exact Or.inr none
  · exact Or.inl (List.append_eq_nil_iff.mp allNone).2
  · rw [← List.append_nil (QueueReserve.layout selector second)] at same
    exact Or.inl ((QueueReserve.exact_readItems selector).append_inj fits otherFits same).2

/-- `_expect_empty_rpc_success` -/
def expectEmptyRpcSuccess (operation : String) : ResponseReader Unit := do
  let payload ← readBlob
  let left ← remainingBytes
  require (payload = [] ∧ left = 0)
    (.domain (malformed .rpc (operation ++ " response is malformed")))

theorem expectEmptyRpcSuccess_eq_ok_iff {operation : String} {data : Bytes} {value : Unit} :
    run (expectEmptyRpcSuccess operation) data = .ok value ↔ data = blobLayout [] := by
  simp only [run_eq_ok_iff, expectEmptyRpcSuccess, bind_eq_ok_iff, require_eq_ok_iff,
    remainingBytes_eq_ok_iff, exact_readBlob _ _ _]
  constructor
  · rintro ⟨_, _, _, ⟨-, rfl⟩, _, _, ⟨rfl, rfl⟩, ⟨rfl, ended⟩, rfl⟩
    rw [List.eq_nil_of_length_eq_zero ended, List.append_nil]
  · rintro rfl
    exact ⟨[], [], [], ⟨by decide, rfl⟩, 0, [], ⟨rfl, rfl⟩, ⟨rfl, rfl⟩, rfl⟩

def emptyRpc (operation : String) : ReplyFormat Unit where
  decode := run (expectEmptyRpcSuccess operation)
  Encodes _ data := data = blobLayout []
  exact _ _ := expectEmptyRpcSuccess_eq_ok_iff

theorem strict_emptyRpc (operation : String) : (emptyRpc operation).Strict :=
  TokenFormat.strict_of_subsingleton fun _ _ encodes => encodes

/-- The part of `_decode_acquire` that reads the data of the response. -/
def readAcquisition : ResponseReader (Nat × Nat) := do
  let responseType ← readU8
  let token ← readU64
  let left ← remainingBytes
  require (responseType ≤ 3 ∧ left = 0) (.domain (malformed .lease "Invalid ACQUIRE response"))
  return (responseType, token)

theorem readAcquisition_eq_ok_iff {data : Bytes} {value : Nat × Nat} :
    run readAcquisition data = .ok value ↔ value.1 ≤ 3 ∧ value.2 < 256 ^ 8 ∧
      data = BigEndian.encode 1 value.1 ++ BigEndian.encode 8 value.2 := by
  simp only [run_eq_ok_iff, readAcquisition, bind_eq_ok_iff, require_eq_ok_iff, pure_eq_ok_iff,
    remainingBytes_eq_ok_iff, exact_readU8 _ _ _, exact_readU64 _ _ _]
  constructor
  · rintro ⟨_, responseType, _, ⟨-, rfl⟩, token, _, ⟨fits, rfl⟩, _, _, ⟨rfl, rfl⟩, _, _,
      ⟨⟨known, ended⟩, rfl⟩, rfl, rfl⟩
    rw [List.eq_nil_of_length_eq_zero ended, List.append_nil]
    exact ⟨known, fits, rfl⟩
  · rintro ⟨known, fits, rfl⟩
    have small : value.1 < 256 ^ 1 := by omega
    exact ⟨[], value.1, _, ⟨small, rfl⟩, value.2, [], ⟨fits, (List.append_nil _).symm⟩, 0, [],
      ⟨rfl, rfl⟩, (), [], ⟨⟨known, rfl⟩, rfl⟩, rfl, rfl⟩

def acquisition : ReplyFormat (Nat × Nat) where
  decode := run readAcquisition
  Encodes value data := value.1 ≤ 3 ∧ value.2 < 256 ^ 8 ∧
    data = BigEndian.encode 1 value.1 ++ BigEndian.encode 8 value.2
  exact _ _ := readAcquisition_eq_ok_iff

theorem strict_acquisition : acquisition.Strict := by
  rintro data more first second ⟨-, -, rfl⟩ ⟨-, -, same⟩
  have length := congrArg List.length same
  simp only [List.length_append, BigEndian.length_encode] at length
  exact List.eq_nil_of_length_eq_zero (Nat.add_eq_left.mp length)

/-- What a query for a lease can return. -/
inductive InfoFits (now : Nat) : LeaseInfo → Prop
  | free (pendingWaiters : Nat) (waitersFit : pendingWaiters < 256 ^ 4) :
      InfoFits now
        { isHeld := false, owner := none, ttlRemaining := none, pendingWaiters, expiresAt := none }
  | held (owner : String) (ttl pendingWaiters : Nat) (ownerFits : TextFits owner)
      (ttlFits : ttl < 256 ^ 8) (waitersFit : pendingWaiters < 256 ^ 4)
      (inTime : now + ttl * 1000000 ≤ LeaseQuery.datetimeMax) :
      InfoFits now
        { isHeld := true
          owner := some owner
          ttlRemaining := some ttl
          pendingWaiters
          expiresAt := some (now + ttl * 1000000) }

def infoLayout (info : LeaseInfo) : Bytes :=
  match info.owner, info.ttlRemaining with
  | some owner, some ttl => flagLayout true ++ (textLayout owner ++ (BigEndian.encode 8 ttl ++
      BigEndian.encode 4 info.pendingWaiters))
  | _, _ => flagLayout false ++ BigEndian.encode 4 info.pendingWaiters

theorem expiry_eq_ok_iff {now ttl found : Nat} {unread rest : Bytes} :
    LeaseQuery.expiry now ttl unread = .ok (found, rest) ↔
      now + ttl * 1000000 ≤ LeaseQuery.datetimeMax ∧ found = now + ttl * 1000000 ∧
        unread = rest := by
  rw [LeaseQuery.expiry]
  split_ifs with inTime
  · simp [pure_eq_ok_iff, inTime]
  · simp [throw_apply, inTime]

theorem exact_readInfo (now : Nat) :
    Exact (LeaseQuery.readInfo now) (InfoFits now) infoLayout := by
  intro unread info rest
  simp only [LeaseQuery.readInfo, bind_eq_ok_iff, exact_readFlag _ _ _ _]
  constructor
  · rintro ⟨held, left, ⟨-, rfl⟩, goesOn⟩
    cases held with
    | true =>
        simp only [if_true, bind_eq_ok_iff, pure_eq_ok_iff, expiry_eq_ok_iff,
          exact_readString _ _ _, exact_readU64 _ _ _, exact_readU32 _ _ _] at goesOn
        obtain ⟨owner, _, ⟨ownerFits, rfl⟩, ttl, _, ⟨ttlFits, rfl⟩, waiters, _, ⟨waitersFit, rfl⟩,
          _, _, ⟨inTime, rfl, rfl⟩, rfl, rfl⟩ := goesOn
        exact ⟨.held owner ttl waiters ownerFits ttlFits waitersFit inTime,
          by simp only [infoLayout, List.append_assoc]⟩
    | false =>
        simp only [Bool.false_eq_true, if_false, bind_eq_ok_iff, pure_eq_ok_iff,
          exact_readU32 _ _ _] at goesOn
        obtain ⟨waiters, _, ⟨waitersFit, rfl⟩, rfl, rfl⟩ := goesOn
        exact ⟨.free waiters waitersFit, by simp only [infoLayout, List.append_assoc]⟩
  · rintro ⟨fits, rfl⟩
    cases fits with
    | free waiters waitersFit =>
        simp only [infoLayout, List.append_assoc]
        refine ⟨false, _, ⟨trivial, rfl⟩, ?_⟩
        simp only [Bool.false_eq_true, if_false, bind_eq_ok_iff, pure_eq_ok_iff,
          exact_readU32 _ _ _]
        exact ⟨waiters, rest, ⟨waitersFit, rfl⟩, rfl, rfl⟩
    | held owner ttl waiters ownerFits ttlFits waitersFit inTime =>
        simp only [infoLayout, List.append_assoc]
        refine ⟨true, _, ⟨trivial, rfl⟩, ?_⟩
        simp only [if_true, bind_eq_ok_iff, pure_eq_ok_iff, expiry_eq_ok_iff,
          exact_readString _ _ _, exact_readU64 _ _ _, exact_readU32 _ _ _]
        exact ⟨owner, _, ⟨ownerFits, rfl⟩, ttl, _, ⟨ttlFits, rfl⟩, waiters, _, ⟨waitersFit, rfl⟩,
          _, _, ⟨inTime, rfl, rfl⟩, rfl, rfl⟩

/-- The data that `query` reads. -/
def leaseInfo (now : Nat) : ReplyFormat LeaseInfo :=
  .ofReader (exact_readInfo now) (.domain (malformed .lease "QUERY response has trailing bytes"))

/-- The data that `list_page` reads. -/
def leaseList : ReplyFormat LeaseListPage :=
  .ofReader LeaseList.exact_readPage (.domain (malformed .lease "LIST response has trailing bytes"))

/-- The data that `list_v2` reads. -/
def scheduleList : ReplyFormat ScheduleCursorPage :=
  .ofReader ScheduleList.exact_readPage
    (.domain (malformed .schedule "LIST_V2 response has trailing bytes"))

/-- A session id, and the metadata of the broker behind it. -/
def readSession : ResponseReader (Nat × Bytes) := do
  let sessionId ← readU64
  let metadata ← readBlob
  return (sessionId, metadata)

def sessionLayout (session : Nat × Bytes) : Bytes :=
  BigEndian.encode 8 session.1 ++ blobLayout session.2

theorem exact_readSession :
    Exact readSession (fun session => session.1 < 256 ^ 8 ∧ BlobFits session.2)
      sessionLayout := by
  intro unread session rest
  simp only [readSession, bind_eq_ok_iff, pure_eq_ok_iff, exact_readU64 _ _ _,
    exact_readBlob _ _ _]
  constructor
  · rintro ⟨sessionId, _, ⟨idFits, rfl⟩, metadata, _, ⟨metadataFits, rfl⟩, rfl, rfl⟩
    exact ⟨⟨idFits, metadataFits⟩, by rw [sessionLayout, List.append_assoc]⟩
  · rintro ⟨⟨idFits, metadataFits⟩, rfl⟩
    rw [sessionLayout, List.append_assoc]
    exact ⟨session.1, _, ⟨idFits, rfl⟩, session.2, rest, ⟨metadataFits, rfl⟩, rfl, rfl⟩

theorem length_sessionLayout (session : Nat × Bytes) : 12 ≤ (sessionLayout session).length := by
  rw [sessionLayout, blobLayout, List.length_append, List.length_append, BigEndian.length_encode,
    BigEndian.length_encode]
  omega

/-- The data that `begin` reads; the metadata is skipped. -/
def streamBegin : ReplyFormat Nat :=
  ((TokenFormat.ofReader exact_readSession
      (.domain (malformed .stream "BEGIN response has trailing bytes"))).map Prod.fst).atLeast 12
    (.domain (StreamPage.streamError "BEGIN response missing session id" "MISSING_SESSION_ID"))
    (by
      rintro data _ ⟨session, ⟨-, rfl⟩, -⟩
      exact length_sessionLayout session)

theorem strict_streamBegin : streamBegin.Strict :=
  ((TokenFormat.strict_ofReader exact_readSession _).map Prod.fst).atLeast _

/-- `int.from_bytes(data, "big") if len(data) == 8 else None` -/
def appendOffset (data : Bytes) : Option Nat :=
  if data.length = 8 then some (BigEndian.decode data) else none

/-- The data that `append` reads. -/
def streamAppend : ReplyFormat (Option Nat) :=
  ((TokenFormat.ofReader exact_readBlob
    (.domain (malformed .stream "APPEND response has trailing bytes"))).map appendOffset).orEmpty
      none

/-- The data that `commit` skips. -/
def streamCommit : ReplyFormat Unit :=
  (TokenFormat.ofReader exact_readBlob
    (.domain (malformed .stream "COMMIT response has trailing bytes"))).map fun _ => ()

/-- The data that `peek` reads. -/
def streamLast (route : String) : ReplyFormat (Option StreamRecord) :=
  ((TokenFormat.ofReader (StreamPage.exact_readRecord route false)
    (.domain (malformed .stream "LAST response has trailing bytes"))).map some).orEmpty none

/-- The data that `read_page` reads. -/
def streamRead (selector : CodePoints) : ReplyFormat StreamReadPage where
  decode := StreamPage.decodeResponse selector
  Encodes page data := data = [] ∧ page = {} ∨
    BlobFits (StreamPage.layout (StreamPage.isExtended selector) page) ∧
      StreamPage.Fits (StreamPage.isExtended selector) page ∧
      data = StreamPage.envelopeLayout (StreamPage.layout (StreamPage.isExtended selector) page)
  exact _ _ := StreamPage.decodeResponse_eq_ok_iff

theorem delimited_streamRead (selector : CodePoints) : (streamRead selector).Delimited := by
  rintro data more first second (⟨none, -⟩ | ⟨fits, -, rfl⟩)
    (⟨allNone, -⟩ | ⟨otherFits, -, same⟩)
  · exact Or.inr none
  · exact Or.inr none
  · exact Or.inl (List.append_eq_nil_iff.mp allNone).2
  · have ends := same.trans (List.append_nil _).symm
    exact Or.inl (StreamPage.exact_readEnvelope.append_inj fits otherFits ends).2

end ReplyFormat

structure StreamMetadata where
  firstOffset : Nat
  lastOffset : Nat
  recordCount : Nat
  maxBatchEvents : Option Nat := none
  maxBatchBytes : Option Nat := none
  ttlSeconds : Option Nat := none
  areaWatermark : Option Nat := none
  realmWatermark : Option Nat := none
  deriving DecidableEq, Repr

/-- The fields of METADATA as they stand in the response. -/
structure MetadataFields where
  firstOffset : Option Nat
  lastOffset : Option Nat
  recordCount : Nat
  maxBatchEvents : Nat
  maxBatchBytes : Nat
  ttlSeconds : Option Nat
  areaWatermark : Nat
  realmWatermark : Nat
  deriving DecidableEq, Repr

namespace MetadataFields

/-- The metadata of these fields; an offset that is absent counts as 0. -/
def toMetadata (fields : MetadataFields) : StreamMetadata where
  firstOffset := fields.firstOffset.getD 0
  lastOffset := fields.lastOffset.getD 0
  recordCount := fields.recordCount
  maxBatchEvents := some fields.maxBatchEvents
  maxBatchBytes := some fields.maxBatchBytes
  ttlSeconds := fields.ttlSeconds
  areaWatermark := some fields.areaWatermark
  realmWatermark := some fields.realmWatermark

/-- The fields fit. -/
structure Fits (fields : MetadataFields) : Prop where
  firstOffset : StreamPage.OptionalFits fields.firstOffset
  lastOffset : StreamPage.OptionalFits fields.lastOffset
  recordCount : StreamPage.NumberFits fields.recordCount
  maxBatchEvents : StreamPage.NumberFits fields.maxBatchEvents
  maxBatchBytes : StreamPage.NumberFits fields.maxBatchBytes
  ttlSeconds : StreamPage.OptionalFits fields.ttlSeconds
  areaWatermark : StreamPage.NumberFits fields.areaWatermark
  realmWatermark : StreamPage.NumberFits fields.realmWatermark

open StreamPage (numberLayout optionalLayout readOptionalU64)

def layout (fields : MetadataFields) : Bytes :=
  optionalLayout fields.firstOffset ++ (optionalLayout fields.lastOffset ++
    (numberLayout fields.recordCount ++ (numberLayout fields.maxBatchEvents ++
      (numberLayout fields.maxBatchBytes ++ (optionalLayout fields.ttlSeconds ++
        (numberLayout fields.areaWatermark ++ numberLayout fields.realmWatermark))))))

/-- The part of `metadata` that reads the data of the response. -/
def read : ResponseReader MetadataFields := do
  let firstOffset ← readOptionalU64
  let lastOffset ← readOptionalU64
  let recordCount ← readU64
  let maxBatchEvents ← readU64
  let maxBatchBytes ← readU64
  let ttlSeconds ← readOptionalU64
  let areaWatermark ← readU64
  let realmWatermark ← readU64
  return {
    firstOffset, lastOffset, recordCount, maxBatchEvents, maxBatchBytes, ttlSeconds, areaWatermark,
    realmWatermark }

theorem exact_read : Exact read Fits layout := by
  intro unread fields rest
  simp only [read, bind_eq_ok_iff, pure_eq_ok_iff, StreamPage.exact_readNumber64 _ _ _,
    StreamPage.exact_readOptionalU64 _ _ _]
  constructor
  · rintro ⟨first, _, ⟨firstFits, rfl⟩, last, _, ⟨lastFits, rfl⟩, count, _, ⟨countFits, rfl⟩,
      events, _, ⟨eventsFit, rfl⟩, size, _, ⟨sizeFits, rfl⟩, ttl, _, ⟨ttlFits, rfl⟩, area, _,
      ⟨areaFits, rfl⟩, realm, _, ⟨realmFits, rfl⟩, rfl, rfl⟩
    exact ⟨⟨firstFits, lastFits, countFits, eventsFit, sizeFits, ttlFits, areaFits, realmFits⟩,
      by simp only [layout, List.append_assoc]⟩
  · rintro ⟨fits, rfl⟩
    simp only [layout, List.append_assoc]
    exact ⟨fields.firstOffset, _, ⟨fits.firstOffset, rfl⟩, fields.lastOffset, _,
      ⟨fits.lastOffset, rfl⟩, fields.recordCount, _, ⟨fits.recordCount, rfl⟩,
      fields.maxBatchEvents, _, ⟨fits.maxBatchEvents, rfl⟩, fields.maxBatchBytes, _,
      ⟨fits.maxBatchBytes, rfl⟩, fields.ttlSeconds, _, ⟨fits.ttlSeconds, rfl⟩,
      fields.areaWatermark, _, ⟨fits.areaWatermark, rfl⟩, fields.realmWatermark, rest,
      ⟨fits.realmWatermark, rfl⟩, rfl, rfl⟩

end MetadataFields

/-- The data that `metadata` reads. -/
def ReplyFormat.streamMetadata : ReplyFormat StreamMetadata :=
  ((TokenFormat.ofReader MetadataFields.exact_read
    (.domain (malformed .stream "METADATA response has trailing bytes"))).map
      MetadataFields.toMetadata).orEmpty { firstOffset := 0, lastOffset := 0, recordCount := 0 }

end FitzClient
