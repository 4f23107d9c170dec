import FitzClient.ResponseReader
import FitzClient.RouteShapes

/-!
# Pages of the list operations

Four operations return lists: a scan of KV pairs, the leases under a pattern, a
batch of reserved queue items and the schedules.  Each has its own format.  Three
are told the number of items and go round as often; the schedules go on
until a marker says that no entry follows.  The readers are exact for the
layouts of the pages whose fields fit, so each accepts the encodings of these
pages and nothing else.
-/

namespace FitzClient

open TokenReader ResponseReader

structure KvPair where
  key : Bytes
  value : Bytes
  deriving DecidableEq, Repr

structure KvScanPage where
  entries : List KvPair
  hasMore : Bool
  deriving DecidableEq, Repr

namespace KvScan

def readPair : ResponseReader KvPair := do
  let key ← readBlob
  let value ← readBlob
  return { key, value }

/-- The part of `scan_page` after the status, up to the end. -/
def readPage : ResponseReader KvScanPage := do
  let count ← readU32
  let left ← remainingBytes
  -- every pair needs two lengths, and the flag one byte more
  require (count ≤ (left - 1) / 8)
    (.domain (malformed .kv "SCAN response pair count exceeds payload"))
  let entries ← times readPair count
  let hasMore ← readFlag fun _ => malformed .kv "SCAN response is malformed"
  return { entries, hasMore }

/-- The part of `scan_page` after the status. -/
def decode : Bytes → Except ResponseException KvScanPage :=
  whole readPage (.domain (malformed .kv "SCAN response is malformed"))

/-- How often `scan_page` goes round. -/
def turns (data : Bytes) : Nat :=
  match readU32 data with
  | .error _ => 0
  | .ok (count, left) =>
      if count ≤ (left.length - 1) / 8 then timesTurns readPair count left else 0

def PairFits (pair : KvPair) : Prop :=
  BlobFits pair.key ∧ BlobFits pair.value

def pairLayout (pair : KvPair) : Bytes :=
  blobLayout pair.key ++ blobLayout pair.value

/-- The fields of a page fit. -/
structure Fits (page : KvScanPage) : Prop where
  count : page.entries.length < 256 ^ 4
  entries : ∀ pair ∈ page.entries, PairFits pair

def layout (page : KvScanPage) : Bytes :=
  BigEndian.encode 4 page.entries.length ++
    (page.entries.flatMap pairLayout ++ flagLayout page.hasMore)

theorem exact_readPair : Exact readPair PairFits pairLayout := by
  intro unread pair rest
  simp only [readPair, bind_eq_ok_iff, pure_eq_ok_iff, exact_readBlob _ _ _]
  constructor
  · rintro ⟨key, _, ⟨keyFits, rfl⟩, value, _, ⟨valueFits, rfl⟩, rfl, rfl⟩
    exact ⟨⟨keyFits, valueFits⟩, by rw [pairLayout, List.append_assoc]⟩
  · rintro ⟨⟨keyFits, valueFits⟩, rfl⟩
    rw [pairLayout, List.append_assoc]
    exact ⟨pair.key, _, ⟨keyFits, rfl⟩, pair.value, _, ⟨valueFits, rfl⟩, rfl, rfl⟩

/-- Pairs take eight bytes each for their lengths alone. -/
theorem le_length_flatMap (entries : List KvPair) :
    8 * entries.length ≤ (entries.flatMap pairLayout).length := by
  induction entries with
  | nil => exact Nat.zero_le _
  | cons pair entries ih =>
      simp only [List.flatMap_cons, List.length_append, List.length_cons, pairLayout, blobLayout,
        BigEndian.length_encode]
      omega

/-- A page passes the guard on its count. -/
theorem count_le (entries : List KvPair) (hasMore : Bool) (rest : Bytes) :
    entries.length ≤
      ((entries.flatMap pairLayout ++ (flagLayout hasMore ++ rest)).length - 1) / 8 := by
  have pairs := le_length_flatMap entries
  rw [List.length_append, List.length_append, flagLayout, BigEndian.length_encode]
  omega

theorem exact_readPage : Exact readPage Fits layout := by
  intro data page rest
  simp only [readPage, bind_eq_ok_iff, pure_eq_ok_iff, require_eq_ok_iff,
    remainingBytes_eq_ok_iff, exact_readU32 _ _ _, exact_readPair.times _ _ _ _,
    exact_readFlag _ _ _ _]
  constructor
  · rintro ⟨count, _, ⟨countFits, rfl⟩, _, _, ⟨rfl, rfl⟩, _, _, ⟨-, rfl⟩, entries, _,
      ⟨⟨rfl, fits⟩, rfl⟩, hasMore, _, ⟨-, rfl⟩, rfl, rfl⟩
    exact ⟨⟨countFits, fits⟩, by simp only [layout, List.append_assoc]⟩
  · rintro ⟨fits, rfl⟩
    simp only [layout, List.append_assoc]
    exact ⟨page.entries.length, _, ⟨fits.count, rfl⟩, _, _, ⟨rfl, rfl⟩, (), _,
      ⟨count_le page.entries page.hasMore rest, rfl⟩, page.entries, _, ⟨⟨rfl, fits.entries⟩, rfl⟩,
      page.hasMore, rest, ⟨trivial, rfl⟩, rfl, rfl⟩

theorem turns_le (data : Bytes) : turns data ≤ data.length := by
  rw [turns]
  split
  · exact Nat.zero_le _
  · rename_i count left front
    split_ifs
    · refine counted_turns_le exact_readPair (fun pair => ?_) front
      simp only [pairLayout, blobLayout, List.length_append, BigEndian.length_encode]
      omega
    · exact Nat.zero_le _

end KvScan

structure LeaseListCursor where
  snapshotId : Nat
  offset : Nat
  deriving DecidableEq, Repr

structure LeaseListItem where
  route : String
  ownerId : String
  holderIncarnation : Nat
  acquiredAt : String
  expiresInSecs : Nat
  renewals : Nat
  deriving DecidableEq, Repr

structure LeaseListPage where
  items : List LeaseListItem
  cursor : Option LeaseListCursor
  deriving DecidableEq, Repr

namespace LeaseList

def readItem : ResponseReader LeaseListItem := do
  let route ← readString
  let ownerId ← readString
  let holderIncarnation ← readU64
  let acquiredAt ← readString
  let expiresInSecs ← readU64
  let renewals ← readU32
  return { route, ownerId, holderIncarnation, acquiredAt, expiresInSecs, renewals }

def readCursor : ResponseReader LeaseListCursor := do
  let snapshotId ← readU64
  let offset ← readU32
  return { snapshotId, offset }

/-- The part of `list_page` that reads the data of the response, up to its end. -/
def readPage : ResponseReader LeaseListPage := do
  let count ← readU32
  let items ← times readItem count
  let cursor ← readOption
    (fun _ => malformed .lease "LIST response has an invalid cursor flag") readCursor
  return { items, cursor }

/-- The part of `list_page` that reads the data of the response. -/
def decode : Bytes → Except ResponseException LeaseListPage :=
  whole readPage (.domain (malformed .lease "LIST response has trailing bytes"))

/-- How often `list_page` goes round. -/
def turns (data : Bytes) : Nat :=
  match readU32 data with
  | .error _ => 0
  | .ok (count, left) => timesTurns readItem count left

/-- The fields of an item fit. -/
structure ItemFits (item : LeaseListItem) : Prop where
  route : TextFits item.route
  ownerId : TextFits item.ownerId
  holderIncarnation : item.holderIncarnation < 256 ^ 8
  acquiredAt : TextFits item.acquiredAt
  expiresInSecs : item.expiresInSecs < 256 ^ 8
  renewals : item.renewals < 256 ^ 4

def CursorFits (cursor : LeaseListCursor) : Prop :=
  cursor.snapshotId < 256 ^ 8 ∧ cursor.offset < 256 ^ 4

/-- The fields of a page fit. -/
structure Fits (page : LeaseListPage) : Prop where
  count : page.items.length < 256 ^ 4
  items : ∀ item ∈ page.items, ItemFits item
  cursor : ∀ cursor ∈ page.cursor, CursorFits cursor

def itemLayout (item : LeaseListItem) : Bytes :=
  textLayout item.route ++ (textLayout item.ownerId ++
    (BigEndian.encode 8 item.holderIncarnation ++ (textLayout item.acquiredAt ++
      (BigEndian.encode 8 item.expiresInSecs ++ BigEndian.encode 4 item.renewals))))

def cursorLayout (cursor : LeaseListCursor) : Bytes :=
  BigEndian.encode 8 cursor.snapshotId ++ BigEndian.encode 4 cursor.offset

def layout (page : LeaseListPage) : Bytes :=
  BigEndian.encode 4 page.items.length ++
    (page.items.flatMap itemLayout ++ optionLayout cursorLayout page.cursor)

theorem exact_readItem : Exact readItem ItemFits itemLayout := by
  intro unread item rest
  simp only [readItem, bind_eq_ok_iff, pure_eq_ok_iff, exact_readString _ _ _,
    exact_readU64 _ _ _, exact_readU32 _ _ _]
  constructor
  · rintro ⟨route, _, ⟨routeFits, rfl⟩, ownerId, _, ⟨ownerFits, rfl⟩, incarnation, _,
      ⟨incarnationFits, rfl⟩, acquiredAt, _, ⟨acquiredFits, rfl⟩, expires, _, ⟨expiresFits, rfl⟩,
      renewals, _, ⟨renewalsFit, rfl⟩, rfl, rfl⟩
    exact ⟨⟨routeFits, ownerFits, incarnationFits, acquiredFits, expiresFits, renewalsFit⟩,
      by simp only [itemLayout, List.append_assoc]⟩
  · rintro ⟨fits, rfl⟩
    simp only [itemLayout, List.append_assoc]
    exact ⟨item.route, _, ⟨fits.route, rfl⟩, item.ownerId, _, ⟨fits.ownerId, rfl⟩,
      item.holderIncarnation, _, ⟨fits.holderIncarnation, rfl⟩, item.acquiredAt, _,
      ⟨fits.acquiredAt, rfl⟩, item.expiresInSecs, _, ⟨fits.expiresInSecs, rfl⟩, item.renewals, _,
      ⟨fits.renewals, rfl⟩, rfl, rfl⟩

theorem exact_readCursor : Exact readCursor CursorFits cursorLayout := by
  intro unread cursor rest
  simp only [readCursor, bind_eq_ok_iff, pure_eq_ok_iff, exact_readU64 _ _ _,
    exact_readU32 _ _ _]
  constructor
  · rintro ⟨snapshotId, _, ⟨snapshotFits, rfl⟩, offset, _, ⟨offsetFits, rfl⟩, rfl, rfl⟩
    exact ⟨⟨snapshotFits, offsetFits⟩, by rw [cursorLayout, List.append_assoc]⟩
  · rintro ⟨⟨snapshotFits, offsetFits⟩, rfl⟩
    rw [cursorLayout, List.append_assoc]
    exact ⟨cursor.snapshotId, _, ⟨snapshotFits, rfl⟩, cursor.offset, _, ⟨offsetFits, rfl⟩, rfl,
      rfl⟩

theorem exact_readPage : Exact readPage Fits layout := by
  intro data page rest
  simp only [readPage, bind_eq_ok_iff, pure_eq_ok_iff, exact_readU32 _ _ _,
    exact_readItem.times _ _ _ _, exact_readOption _ exact_readCursor _ _ _]
  constructor
  · rintro ⟨count, _, ⟨countFits, rfl⟩, items, _, ⟨⟨rfl, fits⟩, rfl⟩, cursor, _,
      ⟨cursorFits, rfl⟩, rfl, rfl⟩
    exact ⟨⟨countFits, fits, cursorFits⟩, by simp only [layout, List.append_assoc]⟩
  · rintro ⟨fits, rfl⟩
    simp only [layout, List.append_assoc]
    exact ⟨page.items.length, _, ⟨fits.count, rfl⟩, page.items, _, ⟨⟨rfl, fits.items⟩, rfl⟩,
      page.cursor, rest, ⟨fits.cursor, rfl⟩, rfl, rfl⟩

theorem turns_le (data : Bytes) : turns data ≤ data.length := by
  rw [turns]
  split
  · exact Nat.zero_le _
  · rename_i count left front
    refine counted_turns_le exact_readItem (fun item => ?_) front
    simp only [itemLayout, List.length_append, BigEndian.length_encode]
    omega

end LeaseList

/-- The part of a `QueueItem` that a response gives. -/
structure QueueItem where
  route : String
  body : Bytes
  id : Nat
  token : Nat
  deriving DecidableEq, Repr

namespace QueueReserve

/-- `"*" in selector` -/
def wildcard (selector : String) : Bool :=
  '*' ∈ selector.toList

/-- The route of an item, which is left out for an exact selector. -/
def readRoute (selector : String) : ResponseReader String :=
  if wildcard selector then readString else return selector

def readItem (selector : String) : ResponseReader QueueItem := do
  let route ← readRoute selector
  require (isExactRouteShape (.ofString route) "queue" 3)
    (.domain (malformed .queue "RESERVE returned an invalid route"))
  let id ← readU64
  let token ← readU64
  let body ← readBlob
  return { route, body, id, token }

def readItems (selector : String) : ResponseReader (List QueueItem) := do
  let count ← readU32
  times (readItem selector) count

/-- The part of `reserve` that reads the data of the response. -/
def decode (selector : String) (data : Bytes) : Except ResponseException (List QueueItem) :=
  if data.isEmpty then
    .ok []
  else
    whole (readItems selector)
      (.domain (malformed .queue "RESERVE response has trailing bytes")) data

/-- How often `reserve` goes round. -/
def turns (selector : String) (data : Bytes) : Nat :=
  match readU32 data with
  | .error _ => 0
  | .ok (count, left) => timesTurns (readItem selector) count left

/-- The route of an item for this selector. -/
def RouteFits (selector route : String) : Prop :=
  if wildcard selector then TextFits route else route = selector

/-- The fields of an item fit. -/
structure ItemFits (selector : String) (item : QueueItem) : Prop where
  route : RouteFits selector item.route
  shape : isExactRouteShape (.ofString item.route) "queue" 3 = true
  id : item.id < 256 ^ 8
  token : item.token < 256 ^ 8
  body : BlobFits item.body

/-- A batch of items for this selector. -/
def Fits (selector : String) (items : List QueueItem) : Prop :=
  items.length < 256 ^ 4 ∧ ∀ item ∈ items, ItemFits selector item

def routeLayout (selector route : String) : Bytes :=
  if wildcard selector then textLayout route else []

def itemLayout (selector : String) (item : QueueItem) : Bytes :=
  routeLayout selector item.route ++ (BigEndian.encode 8 item.id ++
    (BigEndian.encode 8 item.token ++ blobLayout item.body))

def layout (selector : String) (items : List QueueItem) : Bytes :=
  BigEndian.encode 4 items.length ++ items.flatMap (itemLayout selector)

theorem exact_readRoute (selector : String) :
    Exact (readRoute selector) (RouteFits selector) (routeLayout selector) := by
  by_cases isWildcard : wildcard selector = true
  · intro unread route rest
    simp only [readRoute, RouteFits, routeLayout, isWildcard, if_true]
    exact exact_readString unread route rest
  · intro unread route rest
    simp only [readRoute, RouteFits, routeLayout, isWildcard, if_false, Bool.false_eq_true,
      List.nil_append]
    exact pure_eq_ok_iff

theorem exact_readItem (selector : String) :
    Exact (readItem selector) (ItemFits selector) (itemLayout selector) := by
  intro unread item rest
  simp only [readItem, bind_eq_ok_iff, pure_eq_ok_iff, require_eq_ok_iff,
    exact_readRoute _ _ _ _, exact_readU64 _ _ _, exact_readBlob _ _ _]
  constructor
  · rintro ⟨route, _, ⟨routeFits, rfl⟩, _, _, ⟨shape, rfl⟩, id, _, ⟨idFits, rfl⟩, token, _,
      ⟨tokenFits, rfl⟩, body, _, ⟨bodyFits, rfl⟩, rfl, rfl⟩
    exact ⟨⟨routeFits, shape, idFits, tokenFits, bodyFits⟩,
      by simp only [itemLayout, List.append_assoc]⟩
  · rintro ⟨fits, rfl⟩
    simp only [itemLayout, List.append_assoc]
    exact ⟨item.route, _, ⟨fits.route, rfl⟩, (), _, ⟨fits.shape, rfl⟩, item.id, _,
      ⟨fits.id, rfl⟩, item.token, _, ⟨fits.token, rfl⟩, item.body, _, ⟨fits.body, rfl⟩, rfl, rfl⟩

theorem exact_readItems (selector : String) :
    Exact (readItems selector) (Fits selector) (layout selector) := by
  intro unread items rest
  simp only [readItems, bind_eq_ok_iff, exact_readU32 _ _ _,
    (exact_readItem selector).times _ _ _ _]
  constructor
  · rintro ⟨count, _, ⟨countFits, rfl⟩, ⟨rfl, fits⟩, rfl⟩
    exact ⟨⟨countFits, fits⟩, by rw [layout, List.append_assoc]⟩
  · rintro ⟨⟨countFits, fits⟩, rfl⟩
    rw [layout, List.append_assoc]
    exact ⟨items.length, _, ⟨countFits, rfl⟩, ⟨rfl, fits⟩, rfl⟩

theorem decode_of_ne_nil {selector : String} {data : Bytes} (some : data ≠ []) :
    decode selector data = whole (readItems selector)
      (.domain (malformed .queue "RESERVE response has trailing bytes")) data :=
  if_neg (by simpa using some)

theorem decode_eq_ok_iff {selector : String} {data : Bytes} {items : List QueueItem} :
    decode selector data = .ok items ↔
      data = [] ∧ items = [] ∨ Fits selector items ∧ data = layout selector items := by
  by_cases empty : data = []
  · subst empty
    have header : [] ≠ layout selector items := (List.cons_ne_nil _ _).symm
    simp [decode, header, eq_comm]
  · rw [decode_of_ne_nil empty, (exact_readItems selector).whole_eq_ok_iff]
    simp [empty]

theorem turns_le (selector : String) (data : Bytes) : turns selector data ≤ data.length := by
  rw [turns]
  split
  · exact Nat.zero_le _
  · rename_i count left front
    refine counted_turns_le (exact_readItem selector) (fun item => ?_) front
    simp only [itemLayout, List.length_append, BigEndian.length_encode]
    omega

end QueueReserve

inductive DeliveryMode
  | broadcast
  | single
  deriving DecidableEq, Repr

structure ScheduleEntry where
  route : String
  cron : String
  deliveryMode : DeliveryMode
  payload : Bytes
  deriving DecidableEq, Repr

structure ScheduleCursorPage where
  entries : List ScheduleEntry
  hasMore : Bool
  continuation : Option String
  deriving DecidableEq, Repr

namespace ScheduleList

def readMode : ResponseReader DeliveryMode := do
  let mode ← readFlag fun _ => malformed .schedule "Invalid delivery mode"
  return if mode then .single else .broadcast

def readEntry : ResponseReader ScheduleEntry := do
  let route ← readString
  let cron ← readString
  let deliveryMode ← readMode
  let payload ← readBlob
  return { route, cron, deliveryMode, payload }

/-- One turn of the loop: the marker, and the entry that it announces. -/
def readMarked : ResponseReader (Option ScheduleEntry) :=
  readOption (fun _ => malformed .schedule "LIST_V2 response has an invalid entry marker") readEntry

def EntryFits (entry : ScheduleEntry) : Prop :=
  TextFits entry.route ∧ TextFits entry.cron ∧ BlobFits entry.payload

def modeLayout (mode : DeliveryMode) : Bytes :=
  flagLayout (mode = .single)

def entryLayout (entry : ScheduleEntry) : Bytes :=
  textLayout entry.route ++ (textLayout entry.cron ++
    (modeLayout entry.deliveryMode ++ blobLayout entry.payload))

theorem exact_readMode : Exact readMode (fun _ => True) modeLayout := by
  intro unread mode rest
  simp only [readMode, bind_eq_ok_iff, pure_eq_ok_iff, exact_readFlag _ _ _ _]
  constructor
  · rintro ⟨flag, _, ⟨-, rfl⟩, rfl, rfl⟩
    cases flag <;> exact ⟨trivial, rfl⟩
  · rintro ⟨-, rfl⟩
    refine ⟨mode = .single, rest, ⟨trivial, rfl⟩, ?_, rfl⟩
    cases mode <;> rfl

theorem exact_readEntry : Exact readEntry EntryFits entryLayout := by
  intro unread entry rest
  simp only [readEntry, bind_eq_ok_iff, pure_eq_ok_iff, exact_readString _ _ _,
    exact_readMode _ _ _, exact_readBlob _ _ _]
  constructor
  · rintro ⟨route, _, ⟨routeFits, rfl⟩, cron, _, ⟨cronFits, rfl⟩, mode, _, ⟨-, rfl⟩, payload, _,
      ⟨payloadFits, rfl⟩, rfl, rfl⟩
    exact ⟨⟨routeFits, cronFits, payloadFits⟩, by simp only [entryLayout, List.append_assoc]⟩
  · rintro ⟨⟨routeFits, cronFits, payloadFits⟩, rfl⟩
    simp only [entryLayout, List.append_assoc]
    exact ⟨entry.route, _, ⟨routeFits, rfl⟩, entry.cron, _, ⟨cronFits, rfl⟩, entry.deliveryMode, _,
      ⟨trivial, rfl⟩, entry.payload, _, ⟨payloadFits, rfl⟩, rfl, rfl⟩

/-- The entries, each with a marker in front, up to the end marker. -/
def marked : Marked ResponseException UInt8 ScheduleEntry where
  read := readMarked
  shrinks unread entry rest read := by
    refine (exact_readOption _ exact_readEntry).shrinks (fun found => ?_) unread (some entry) rest
      read
    cases found <;> simp [optionLayout, flagLayout]

/-- What stands in front of the entries. -/
def readHeader : ResponseReader (Bool × Option String) := do
  let version ← readU8
  require (version = 1) (.domain (malformed .schedule "LIST_V2 response has an invalid version"))
  let hasMore ← readFlag fun _ =>
    malformed .schedule "LIST_V2 response has an invalid has_more flag"
  let continuation ← readOption
    (fun _ => malformed .schedule "LIST_V2 response has an invalid cursor flag") readString
  return (hasMore, continuation)

/-- The part of `list_v2` that reads the data of the response, up to its end. -/
def readPage : ResponseReader ScheduleCursorPage := do
  let (hasMore, continuation) ← readHeader
  let entries ← marked.all
  return { entries, hasMore, continuation }

/-- The part of `list_v2` that reads the data of the response. -/
def decode : Bytes → Except ResponseException ScheduleCursorPage :=
  whole readPage (.domain (malformed .schedule "LIST_V2 response has trailing bytes"))

/-- How often `list_v2` goes round. -/
def turns (data : Bytes) : Nat :=
  match readHeader data with
  | .error _ => 0
  | .ok (_, left) => marked.turns left

def headerLayout (header : Bool × Option String) : Bytes :=
  BigEndian.encode 1 1 ++ (flagLayout header.1 ++ optionLayout textLayout header.2)

/-- The fields of a page fit. -/
structure Fits (page : ScheduleCursorPage) : Prop where
  entries : ∀ entry ∈ page.entries, EntryFits entry
  continuation : ∀ cursor ∈ page.continuation, TextFits cursor

def markedLayout (entry : ScheduleEntry) : Bytes :=
  flagLayout true ++ entryLayout entry

def layout (page : ScheduleCursorPage) : Bytes :=
  headerLayout (page.hasMore, page.continuation) ++
    (page.entries.flatMap markedLayout ++ flagLayout false)

theorem exact_marked : marked.Exact EntryFits markedLayout (flagLayout false) where
  value unread entry rest := by
    refine (exact_readOption _ exact_readEntry unread (some entry) rest).trans ?_
    simp [optionLayout, markedLayout]
  stop unread rest := by
    refine (exact_readOption _ exact_readEntry unread none rest).trans ?_
    simp [optionLayout]

theorem exact_readHeader :
    Exact readHeader (fun header => ∀ cursor ∈ header.2, TextFits cursor) headerLayout := by
  intro unread header rest
  simp only [readHeader, bind_eq_ok_iff, pure_eq_ok_iff, require_eq_ok_iff, exact_readU8 _ _ _,
    exact_readFlag _ _ _ _, exact_readOption _ exact_readString _ _ _]
  constructor
  · rintro ⟨_, _, ⟨-, rfl⟩, _, _, ⟨rfl, rfl⟩, hasMore, _, ⟨-, rfl⟩, continuation, _,
      ⟨fits, rfl⟩, rfl, rfl⟩
    exact ⟨fits, by simp only [headerLayout, List.append_assoc]⟩
  · rintro ⟨fits, rfl⟩
    simp only [headerLayout, List.append_assoc]
    exact ⟨1, _, ⟨by decide, rfl⟩, (), _, ⟨rfl, rfl⟩, header.1, _, ⟨trivial, rfl⟩, header.2, _,
      ⟨fits, rfl⟩, rfl, rfl⟩

theorem exact_readPage : Exact readPage Fits layout := by
  intro unread page rest
  simp only [readPage, bind_eq_ok_iff, pure_eq_ok_iff, exact_readHeader _ _ _,
    exact_marked.all _ _ _]
  constructor
  · rintro ⟨⟨hasMore, continuation⟩, _, ⟨continuationFits, rfl⟩, entries, _, ⟨fits, rfl⟩, rfl,
      rfl⟩
    exact ⟨⟨fits, continuationFits⟩, by simp only [layout, List.append_assoc]⟩
  · rintro ⟨fits, rfl⟩
    simp only [layout, List.append_assoc]
    exact ⟨(page.hasMore, page.continuation), _, ⟨fits.continuation, rfl⟩, page.entries, _,
      ⟨fits.entries, rfl⟩, rfl, rfl⟩

theorem turns_le (data : Bytes) : turns data ≤ data.length := by
  rw [turns]
  split
  · exact Nat.zero_le _
  · rename_i header left front
    obtain ⟨-, rfl⟩ := (exact_readHeader _ _ _).mp front
    have goes := marked.turns_le left
    rw [headerLayout, List.append_assoc, List.length_append, List.length_append,
      BigEndian.length_encode]
    omega

end ScheduleList

/-- The four decoders are strict and complete: each returns exactly the pages
whose fields fit, from exactly their layouts; nothing that is cut or lengthened is
accepted; and no loop goes round more often than the body has bytes.  An empty
body stands for an empty batch. -/
theorem pages_exact :
    ((∀ page data, KvScan.decode data = .ok page ↔
        KvScan.Fits page ∧ data = KvScan.layout page) ∧
      Strict KvScan.decode ∧ ∀ data, KvScan.turns data ≤ data.length) ∧
    ((∀ page data, LeaseList.decode data = .ok page ↔
        LeaseList.Fits page ∧ data = LeaseList.layout page) ∧
      Strict LeaseList.decode ∧ ∀ data, LeaseList.turns data ≤ data.length) ∧
    (∀ selector,
      (∀ items data, QueueReserve.decode selector data = .ok items ↔
        data = [] ∧ items = [] ∨
          QueueReserve.Fits selector items ∧ data = QueueReserve.layout selector items) ∧
      (∀ data items, data ≠ [] → QueueReserve.decode selector data = .ok items →
        (∀ size, 0 < size → size < data.length → ∀ other,
          QueueReserve.decode selector (data.take size) ≠ .ok other) ∧
        ∀ more, more ≠ [] → ∀ other, QueueReserve.decode selector (data ++ more) ≠ .ok other) ∧
      ∀ data, QueueReserve.turns selector data ≤ data.length) ∧
    ((∀ page data, ScheduleList.decode data = .ok page ↔
        ScheduleList.Fits page ∧ data = ScheduleList.layout page) ∧
      Strict ScheduleList.decode ∧ ∀ data, ScheduleList.turns data ≤ data.length) := by
  refine ⟨⟨fun page data => KvScan.exact_readPage.whole_eq_ok_iff, KvScan.exact_readPage.strict _,
    KvScan.turns_le⟩, ⟨fun page data => LeaseList.exact_readPage.whole_eq_ok_iff,
    LeaseList.exact_readPage.strict _, LeaseList.turns_le⟩,
    fun selector => ⟨fun items data => ?_, fun data items some read => ?_,
      QueueReserve.turns_le selector⟩,
    ⟨fun page data => ScheduleList.exact_readPage.whole_eq_ok_iff,
      ScheduleList.exact_readPage.strict _, ScheduleList.turns_le⟩⟩
  · exact QueueReserve.decode_eq_ok_iff
  · have strict := (QueueReserve.exact_readItems selector).strict
      (.domain (malformed .queue "RESERVE response has trailing bytes")) data items
      (by rwa [← QueueReserve.decode_of_ne_nil some])
    refine ⟨fun size positive shorter other => ?_, fun more added other => ?_⟩
    · rw [QueueReserve.decode_of_ne_nil (by
        rw [Ne, List.take_eq_nil_iff]
        exact not_or.mpr ⟨positive.ne', some⟩)]
      exact strict.1 size shorter other
    · rw [QueueReserve.decode_of_ne_nil (List.append_ne_nil_of_left_ne_nil some more)]
      exact strict.2 more added other

end FitzClient
