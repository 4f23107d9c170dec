import FitzClient.ResponseReader
import FitzClient.RouteShapes

/-!
# Pages of a stream

A page of a stream is a list of items and a cursor.  An item is an event, a
filtered offset or a filtered range of offsets, and carries the route of its
stream.  A selector over all realms has the extended layout, in which events
and cursor have a global offset, and the cursor a fingerprint and a watermark;
in the other layout these are absent.
-/

namespace FitzClient

open TokenReader ResponseReader

structure StreamRecord where
  route : String
  offset : Nat
  areaOffset : Option Nat := none
  realmOffset : Option Nat := none
  globalOffset : Option Nat := none
  body : Bytes := []
  metadata : Option Bytes := none
  timestamp : Nat := 0
  deriving DecidableEq, Repr

inductive StreamFilteredReason
  | serverFilter
  | permission
  | projection
  deriving DecidableEq, Repr

inductive StreamReadItemKind
  | event
  | filtered
  | filteredRange
  deriving DecidableEq, Repr

structure StreamReadCursor where
  lastResourceOffset : Nat := 0
  lastAreaOffset : Option Nat := none
  lastRealmOffset : Option Nat := none
  lastGlobalOffset : Option Nat := none
  cursorFingerprint : Option Nat := none
  capturedWatermark : Option Nat := none
  hasMore : Bool := false
  deriving DecidableEq, Repr

structure StreamReadItem where
  kind : StreamReadItemKind
  route : String
  record : Option StreamRecord := none
  offset : Nat := 0
  fromOffset : Nat := 0
  toOffset : Nat := 0
  reason : Option StreamFilteredReason := none
  deriving DecidableEq, Repr

structure StreamReadPage where
  items : List StreamReadItem := []
  cursor : StreamReadCursor := {}
  deriving DecidableEq, Repr

namespace StreamPage

/-- A `StreamError` with a reason of its own. -/
def streamError (message reason : String) : DomainError where
  domain := .stream
  message := message
  reason := reason

/-- `_read_optional_u64` -/
def readOptionalU64 : ResponseReader (Option Nat) :=
  readOption (fun flag => malformed .stream s!"Invalid optional u64 flag: {flag}") readU64

/-- `_read_optional_bytes` -/
def readOptionalBytes : ResponseReader (Option Bytes) :=
  readOption (fun flag => malformed .stream s!"Invalid optional bytes flag: {flag}") readBlob

/-- `_read_bool_u8` -/
def readBool : ResponseReader Bool :=
  readFlag fun value => streamError s!"Invalid boolean flag: {value}" "INVALID_BOOLEAN_FLAG"

/-- An optional number that only the extended layout has. -/
def readExtended (extended : Bool) : ResponseReader (Option Nat) :=
  if extended then readOptionalU64 else return none

/-- `_read_stream_record` -/
def readRecord (route : String) (extended : Bool) : ResponseReader StreamRecord := do
  let offset ← readU64
  let areaOffset ← readOptionalU64
  let realmOffset ← readOptionalU64
  let globalOffset ← readExtended extended
  let body ← readBlob
  let metadata ← readOptionalBytes
  let timestamp ← readU64
  return { route, offset, areaOffset, realmOffset, globalOffset, body, metadata, timestamp }

/-- `_read_filtered_reason` -/
def readReason : ResponseReader (Option StreamFilteredReason) := do
  let tag ← readU8
  if tag = 0 then
    return none
  else if tag = 1 then
    return some .serverFilter
  else if tag = 2 then
    return some .permission
  else if tag = 3 then
    return some .projection
  else
    raise (streamError s!"Invalid filtered reason tag: {tag}" "INVALID_FILTERED_REASON")

/-- `_read_stream_read_item` -/
def readItem (route : String) (extended : Bool) : ResponseReader StreamReadItem := do
  let tag ← readU8
  if tag = 0 then
    let record ← readRecord route extended
    return { kind := .event, route, record := some record }
  else if tag = 1 then
    let offset ← readU64
    let reason ← readReason
    return { kind := .filtered, route, offset, reason }
  else if tag = 2 then
    let fromOffset ← readU64
    let toOffset ← readU64
    let reason ← readReason
    return { kind := .filteredRange, route, fromOffset, toOffset, reason }
  else
    raise (streamError s!"Unknown stream read item tag: {tag}" "INVALID_READ_ITEM")

/-- What `_assert_stream_route` raises. -/
def invalidRoute (route : String) : DomainError :=
  streamError ("Invalid stream route: " ++ route ++ " (expected stream://\x7brealm\x7d/" ++
    "\x7barea\x7d/\x7bresource\x7d, no empty segments or wildcards)") "INVALID_ROUTE"

/-- A turn of the loop over the items. -/
def readRouted (extended : Bool) : ResponseReader StreamReadItem := do
  let route ← readString
  require (isExactRouteShape (.ofString route) "stream" 3) (.domain (invalidRoute route))
  readItem route extended

/-- The cursor; its fields are read in this order. -/
def readCursor (extended : Bool) : ResponseReader StreamReadCursor := do
  let lastResourceOffset ← readU64
  let lastAreaOffset ← readOptionalU64
  let lastRealmOffset ← readOptionalU64
  let lastGlobalOffset ← readExtended extended
  let hasMore ← readBool
  let cursorFingerprint ← readExtended extended
  let capturedWatermark ← readExtended extended
  return {
    lastResourceOffset, lastAreaOffset, lastRealmOffset, lastGlobalOffset, hasMore,
    cursorFingerprint, capturedWatermark }

/-- `selector == "stream://**" or selector.startswith("stream://*/")` -/
def isExtended (selector : CodePoints) : Bool :=
  selector = .ofString "stream://**" ∨ CodePoints.ofString "stream://*/" <+: selector

def readPage (extended : Bool) : ResponseReader StreamReadPage := do
  let count ← readU32
  let items ← times (readRouted extended) count
  let cursor ← readCursor extended
  return { items, cursor }

/-- `_read_stream_read_page` -/
def decode (selector : CodePoints) : Bytes → Except ResponseException StreamReadPage :=
  whole (readPage (isExtended selector))
    (.domain (malformed .stream "READ response has trailing bytes"))

/-- The session flag and the page in the data of a response. -/
def readEnvelope : ResponseReader Bytes := do
  let session ← readU8
  require (session = 0) (.domain (malformed .stream "READ response has invalid session flag"))
  readBlob

/-- The part of `StreamClient.read_page` that reads the data of the response. -/
def decodeResponse (selector : CodePoints) (data : Bytes) :
    Except ResponseException StreamReadPage :=
  if data.isEmpty then
    .ok {}
  else
    match whole readEnvelope
        (.domain (malformed .stream "READ response has trailing bytes")) data with
    | .error error => .error error
    | .ok inner => decode selector inner

/-- How often `_read_stream_read_page` goes round. -/
def turns (selector : CodePoints) (data : Bytes) : Nat :=
  match readU32 data with
  | .error _ => 0
  | .ok (count, left) => timesTurns (readRouted (isExtended selector)) count left

def NumberFits (value : Nat) : Prop :=
  value < 256 ^ 8

def numberLayout : Nat → Bytes := BigEndian.encode 8

def optionalLayout : Option Nat → Bytes := optionLayout numberLayout

/-- An optional number fits. -/
def OptionalFits (value : Option Nat) : Prop :=
  ∀ number ∈ value, NumberFits number

/-- A number of the extended layout fits, or is absent from the other one. -/
def ExtendedFits (extended : Bool) (value : Option Nat) : Prop :=
  if extended then OptionalFits value else value = none

def extendedLayout (extended : Bool) (value : Option Nat) : Bytes :=
  if extended then optionalLayout value else []

/-- The fields of an event fit. -/
structure RecordFits (extended : Bool) (record : StreamRecord) : Prop where
  offset : NumberFits record.offset
  areaOffset : OptionalFits record.areaOffset
  realmOffset : OptionalFits record.realmOffset
  globalOffset : ExtendedFits extended record.globalOffset
  body : BlobFits record.body
  metadata : ∀ metadata ∈ record.metadata, BlobFits metadata
  timestamp : NumberFits record.timestamp

def recordLayout (extended : Bool) (record : StreamRecord) : Bytes :=
  numberLayout record.offset ++ (optionalLayout record.areaOffset ++
    (optionalLayout record.realmOffset ++ (extendedLayout extended record.globalOffset ++
      (blobLayout record.body ++ (optionLayout blobLayout record.metadata ++
        numberLayout record.timestamp)))))

def reasonLayout : Option StreamFilteredReason → Bytes
  | none => BigEndian.encode 1 0
  | some .serverFilter => BigEndian.encode 1 1
  | some .permission => BigEndian.encode 1 2
  | some .projection => BigEndian.encode 1 3

/-- The items: each kind has its own fields, which fit, and leaves the other
ones at their defaults. -/
inductive ItemFits (extended : Bool) : StreamReadItem → Prop
  | event (record : StreamRecord) (fits : RecordFits extended record) :
      ItemFits extended { kind := .event, route := record.route, record := some record }
  | filtered (route : String) (offset : Nat) (reason : Option StreamFilteredReason)
      (fits : NumberFits offset) : ItemFits extended { kind := .filtered, route, offset, reason }
  | filteredRange (route : String) (fromOffset toOffset : Nat)
      (reason : Option StreamFilteredReason) (fromFits : NumberFits fromOffset)
      (toFits : NumberFits toOffset) :
      ItemFits extended { kind := .filteredRange, route, fromOffset, toOffset, reason }

/-- An item after its route. -/
def itemLayout (extended : Bool) (item : StreamReadItem) : Bytes :=
  match item.kind with
  | .event => BigEndian.encode 1 0 ++ (item.record.map (recordLayout extended)).getD []
  | .filtered => BigEndian.encode 1 1 ++ (numberLayout item.offset ++ reasonLayout item.reason)
  | .filteredRange => BigEndian.encode 1 2 ++ (numberLayout item.fromOffset ++
      (numberLayout item.toOffset ++ reasonLayout item.reason))

/-- An item with the exact route of a stream. -/
structure RoutedFits (extended : Bool) (item : StreamReadItem) : Prop where
  route : TextFits item.route
  shape : isExactRouteShape (.ofString item.route) "stream" 3 = true
  item : ItemFits extended item

def routedLayout (extended : Bool) (item : StreamReadItem) : Bytes :=
  textLayout item.route ++ itemLayout extended item

/-- The fields of a cursor fit. -/
structure CursorFits (extended : Bool) (cursor : StreamReadCursor) : Prop where
  lastResourceOffset : NumberFits cursor.lastResourceOffset
  lastAreaOffset : OptionalFits cursor.lastAreaOffset
  lastRealmOffset : OptionalFits cursor.lastRealmOffset
  lastGlobalOffset : ExtendedFits extended cursor.lastGlobalOffset
  cursorFingerprint : ExtendedFits extended cursor.cursorFingerprint
  capturedWatermark : ExtendedFits extended cursor.capturedWatermark

def cursorLayout (extended : Bool) (cursor : StreamReadCursor) : Bytes :=
  numberLayout cursor.lastResourceOffset ++ (optionalLayout cursor.lastAreaOffset ++
    (optionalLayout cursor.lastRealmOffset ++ (extendedLayout extended cursor.lastGlobalOffset ++
      (flagLayout cursor.hasMore ++ (extendedLayout extended cursor.cursorFingerprint ++
        extendedLayout extended cursor.capturedWatermark)))))

/-- The fields of a page fit. -/
structure Fits (extended : Bool) (page : StreamReadPage) : Prop where
  count : page.items.length < 256 ^ 4
  items : ∀ item ∈ page.items, RoutedFits extended item
  cursor : CursorFits extended page.cursor

def layout (extended : Bool) (page : StreamReadPage) : Bytes :=
  BigEndian.encode 4 page.items.length ++
    (page.items.flatMap (routedLayout extended) ++ cursorLayout extended page.cursor)

theorem exact_readNumber64 : Exact readU64 NumberFits numberLayout := exact_readU64

theorem exact_readOptionalU64 : Exact readOptionalU64 OptionalFits optionalLayout :=
  exact_readOption _ exact_readNumber64

theorem exact_readOptionalBytes : Exact readOptionalBytes
    (fun found => ∀ metadata ∈ found, BlobFits metadata) (optionLayout blobLayout) :=
  exact_readOption _ exact_readBlob

theorem exact_readExtended (extended : Bool) :
    Exact (readExtended extended) (ExtendedFits extended) (extendedLayout extended) := by
  intro unread value rest
  cases extended with
  | true =>
      simp only [readExtended, ExtendedFits, extendedLayout, if_true]
      exact exact_readOptionalU64 unread value rest
  | false =>
      simp only [readExtended, ExtendedFits, extendedLayout, if_false, Bool.false_eq_true,
        List.nil_append]
      exact pure_eq_ok_iff

theorem exact_readRecord (route : String) (extended : Bool) :
    Exact (readRecord route extended)
      (fun record => record.route = route ∧ RecordFits extended record)
      (recordLayout extended) := by
  intro unread record rest
  simp only [readRecord, bind_eq_ok_iff, pure_eq_ok_iff, exact_readNumber64 _ _ _,
    exact_readOptionalU64 _ _ _, exact_readExtended _ _ _ _, exact_readBlob _ _ _,
    exact_readOptionalBytes _ _ _]
  constructor
  · rintro ⟨offset, _, ⟨offsetFits, rfl⟩, area, _, ⟨areaFits, rfl⟩, realm, _, ⟨realmFits, rfl⟩,
      «global», _, ⟨globalFits, rfl⟩, body, _, ⟨bodyFits, rfl⟩, metadata, _, ⟨metadataFits, rfl⟩,
      timestamp, _, ⟨timestampFits, rfl⟩, rfl, rfl⟩
    exact ⟨⟨rfl, offsetFits, areaFits, realmFits, globalFits, bodyFits, metadataFits,
      timestampFits⟩, by simp only [recordLayout, List.append_assoc]⟩
  · rintro ⟨⟨rfl, fits⟩, rfl⟩
    simp only [recordLayout, List.append_assoc]
    exact ⟨record.offset, _, ⟨fits.offset, rfl⟩, record.areaOffset, _, ⟨fits.areaOffset, rfl⟩,
      record.realmOffset, _, ⟨fits.realmOffset, rfl⟩, record.globalOffset, _,
      ⟨fits.globalOffset, rfl⟩, record.body, _, ⟨fits.body, rfl⟩, record.metadata, _,
      ⟨fits.metadata, rfl⟩, record.timestamp, _, ⟨fits.timestamp, rfl⟩, rfl, rfl⟩

theorem exact_readReason : Exact readReason (fun _ => True) reasonLayout := by
  intro unread reason rest
  rw [readReason, bind_eq_ok_iff]
  constructor
  · rintro ⟨tag, left, front, goesOn⟩
    obtain ⟨-, rfl⟩ := (exact_readU8 _ _ _).mp front
    split_ifs at goesOn with isNone isServer isPermission isProjection
    · obtain ⟨rfl, rfl⟩ := pure_eq_ok_iff.mp goesOn
      exact ⟨trivial, by rw [isNone]; rfl⟩
    · obtain ⟨rfl, rfl⟩ := pure_eq_ok_iff.mp goesOn
      exact ⟨trivial, by rw [isServer]; rfl⟩
    · obtain ⟨rfl, rfl⟩ := pure_eq_ok_iff.mp goesOn
      exact ⟨trivial, by rw [isPermission]; rfl⟩
    · obtain ⟨rfl, rfl⟩ := pure_eq_ok_iff.mp goesOn
      exact ⟨trivial, by rw [isProjection]; rfl⟩
    · cases goesOn
  · rintro ⟨-, rfl⟩
    cases reason with
    | none => exact ⟨0, rest, exact_readU8.read (by decide) rest, rfl⟩
    | some reason =>
        cases reason with
        | serverFilter => exact ⟨1, rest, exact_readU8.read (by decide) rest, rfl⟩
        | permission => exact ⟨2, rest, exact_readU8.read (by decide) rest, rfl⟩
        | projection => exact ⟨3, rest, exact_readU8.read (by decide) rest, rfl⟩

theorem exact_readItem (route : String) (extended : Bool) :
    Exact (readItem route extended) (fun item => item.route = route ∧ ItemFits extended item)
      (itemLayout extended) := by
  intro unread item rest
  rw [readItem, bind_eq_ok_iff]
  constructor
  · rintro ⟨tag, left, front, goesOn⟩
    obtain ⟨-, rfl⟩ := (exact_readU8 _ _ _).mp front
    split_ifs at goesOn with isEvent isFiltered isRange
    · simp only [bind_eq_ok_iff, pure_eq_ok_iff, exact_readRecord _ _ _ _ _] at goesOn
      obtain ⟨record, _, ⟨⟨rfl, fits⟩, rfl⟩, rfl, rfl⟩ := goesOn
      exact ⟨⟨rfl, .event record fits⟩,
        by simp only [isEvent, itemLayout, Option.map_some, Option.getD_some, List.append_assoc]⟩
    · simp only [bind_eq_ok_iff, pure_eq_ok_iff, exact_readNumber64 _ _ _,
        exact_readReason _ _ _] at goesOn
      obtain ⟨offset, _, ⟨offsetFits, rfl⟩, reason, _, ⟨-, rfl⟩, rfl, rfl⟩ := goesOn
      exact ⟨⟨rfl, .filtered route offset reason offsetFits⟩,
        by simp only [isFiltered, itemLayout, List.append_assoc]⟩
    · simp only [bind_eq_ok_iff, pure_eq_ok_iff, exact_readNumber64 _ _ _,
        exact_readReason _ _ _] at goesOn
      obtain ⟨fromOffset, _, ⟨fromFits, rfl⟩, toOffset, _, ⟨toFits, rfl⟩, reason, _, ⟨-, rfl⟩, rfl,
        rfl⟩ := goesOn
      exact ⟨⟨rfl, .filteredRange route fromOffset toOffset reason fromFits toFits⟩,
        by simp only [isRange, itemLayout, List.append_assoc]⟩
    · cases goesOn
  · rintro ⟨⟨rfl, fits⟩, rfl⟩
    cases fits with
    | event record fits =>
        simp only [itemLayout, Option.map_some, Option.getD_some, List.append_assoc]
        refine ⟨0, _, exact_readU8.read (by decide) _, ?_⟩
        rw [if_pos rfl]
        simp only [bind_eq_ok_iff, pure_eq_ok_iff, exact_readRecord _ _ _ _ _]
        exact ⟨record, rest, ⟨⟨rfl, fits⟩, rfl⟩, rfl, rfl⟩
    | filtered route offset reason offsetFits =>
        simp only [itemLayout, List.append_assoc]
        refine ⟨1, _, exact_readU8.read (by decide) _, ?_⟩
        rw [if_neg Nat.one_ne_zero, if_pos rfl]
        simp only [bind_eq_ok_iff, pure_eq_ok_iff, exact_readNumber64 _ _ _,
          exact_readReason _ _ _]
        exact ⟨offset, _, ⟨offsetFits, rfl⟩, reason, rest, ⟨trivial, rfl⟩, rfl, rfl⟩
    | filteredRange route fromOffset toOffset reason fromFits toFits =>
        simp only [itemLayout, List.append_assoc]
        refine ⟨2, _, exact_readU8.read (by decide) _, ?_⟩
        rw [if_neg (by decide), if_neg (by decide), if_pos rfl]
        simp only [bind_eq_ok_iff, pure_eq_ok_iff, exact_readNumber64 _ _ _,
          exact_readReason _ _ _]
        exact ⟨fromOffset, _, ⟨fromFits, rfl⟩, toOffset, _, ⟨toFits, rfl⟩, reason, rest,
          ⟨trivial, rfl⟩, rfl, rfl⟩

theorem exact_readRouted (extended : Bool) :
    Exact (readRouted extended) (RoutedFits extended) (routedLayout extended) := by
  intro unread item rest
  simp only [readRouted, bind_eq_ok_iff, require_eq_ok_iff, exact_readString _ _ _,
    exact_readItem _ _ _ _ _]
  constructor
  · rintro ⟨route, _, ⟨routeFits, rfl⟩, _, _, ⟨shape, rfl⟩, ⟨rfl, fits⟩, rfl⟩
    exact ⟨⟨routeFits, shape, fits⟩, by rw [routedLayout, List.append_assoc]⟩
  · rintro ⟨fits, rfl⟩
    rw [routedLayout, List.append_assoc]
    exact ⟨item.route, _, ⟨fits.route, rfl⟩, (), _, ⟨fits.shape, rfl⟩, ⟨rfl, fits.item⟩, rfl⟩

theorem exact_readCursor (extended : Bool) :
    Exact (readCursor extended) (CursorFits extended) (cursorLayout extended) := by
  intro unread cursor rest
  simp only [readCursor, readBool, bind_eq_ok_iff, pure_eq_ok_iff, exact_readNumber64 _ _ _,
    exact_readOptionalU64 _ _ _, exact_readExtended _ _ _ _, exact_readFlag _ _ _ _]
  constructor
  · rintro ⟨resource, _, ⟨resourceFits, rfl⟩, area, _, ⟨areaFits, rfl⟩, realm, _,
      ⟨realmFits, rfl⟩, «global», _, ⟨globalFits, rfl⟩, hasMore, _, ⟨-, rfl⟩, fingerprint, _,
      ⟨fingerprintFits, rfl⟩, watermark, _, ⟨watermarkFits, rfl⟩, rfl, rfl⟩
    exact ⟨⟨resourceFits, areaFits, realmFits, globalFits, fingerprintFits, watermarkFits⟩,
      by simp only [cursorLayout, List.append_assoc]⟩
  · rintro ⟨fits, rfl⟩
    simp only [cursorLayout, List.append_assoc]
    exact ⟨cursor.lastResourceOffset, _, ⟨fits.lastResourceOffset, rfl⟩, cursor.lastAreaOffset, _,
      ⟨fits.lastAreaOffset, rfl⟩, cursor.lastRealmOffset, _, ⟨fits.lastRealmOffset, rfl⟩,
      cursor.lastGlobalOffset, _, ⟨fits.lastGlobalOffset, rfl⟩, cursor.hasMore, _, ⟨trivial, rfl⟩,
      cursor.cursorFingerprint, _, ⟨fits.cursorFingerprint, rfl⟩, cursor.capturedWatermark, _,
      ⟨fits.capturedWatermark, rfl⟩, rfl, rfl⟩

theorem exact_readPage (extended : Bool) :
    Exact (readPage extended) (Fits extended) (layout extended) := by
  intro unread page rest
  simp only [readPage, bind_eq_ok_iff, pure_eq_ok_iff, exact_readU32 _ _ _,
    (exact_readRouted extended).times _ _ _ _, exact_readCursor _ _ _ _]
  constructor
  · rintro ⟨count, _, ⟨countFits, rfl⟩, items, _, ⟨⟨rfl, fits⟩, rfl⟩, cursor, _,
      ⟨cursorFits, rfl⟩, rfl, rfl⟩
    exact ⟨⟨countFits, fits, cursorFits⟩, by simp only [layout, List.append_assoc]⟩
  · rintro ⟨fits, rfl⟩
    simp only [layout, List.append_assoc]
    exact ⟨page.items.length, _, ⟨fits.count, rfl⟩, page.items, _, ⟨⟨rfl, fits.items⟩, rfl⟩,
      page.cursor, rest, ⟨fits.cursor, rfl⟩, rfl, rfl⟩

theorem turns_le (selector : CodePoints) (data : Bytes) : turns selector data ≤ data.length := by
  rw [turns]
  split
  · exact Nat.zero_le _
  · rename_i count left front
    refine counted_turns_le (exact_readRouted (isExtended selector)) (fun item => ?_) front
    simp only [routedLayout, textLayout, blobLayout, List.length_append, BigEndian.length_encode]
    omega

/-- The data of a response with this page. -/
def envelopeLayout (inner : Bytes) : Bytes :=
  BigEndian.encode 1 0 ++ blobLayout inner

theorem exact_readEnvelope : Exact readEnvelope BlobFits envelopeLayout := by
  intro unread inner rest
  simp only [readEnvelope, bind_eq_ok_iff, require_eq_ok_iff, exact_readU8 _ _ _,
    exact_readBlob _ _ _]
  constructor
  · rintro ⟨_, _, ⟨-, rfl⟩, _, _, ⟨rfl, rfl⟩, fits, rfl⟩
    exact ⟨fits, by rw [envelopeLayout, List.append_assoc]⟩
  · rintro ⟨fits, rfl⟩
    rw [envelopeLayout, List.append_assoc]
    exact ⟨0, _, ⟨by decide, rfl⟩, (), _, ⟨rfl, rfl⟩, fits, rfl⟩

theorem decode_eq_ok_iff {selector : CodePoints} {data : Bytes} {page : StreamReadPage} :
    decode selector data = .ok page ↔
      Fits (isExtended selector) page ∧ data = layout (isExtended selector) page :=
  (exact_readPage (isExtended selector)).whole_eq_ok_iff

theorem decodeResponse_eq_ok_iff {selector : CodePoints} {data : Bytes} {page : StreamReadPage} :
    decodeResponse selector data = .ok page ↔
      data = [] ∧ page = {} ∨
        BlobFits (layout (isExtended selector) page) ∧ Fits (isExtended selector) page ∧
          data = envelopeLayout (layout (isExtended selector) page) := by
  rw [decodeResponse]
  by_cases empty : data = []
  · subst empty
    have header (inner : Bytes) : [] ≠ envelopeLayout inner := (List.cons_ne_nil _ _).symm
    simp [header, eq_comm]
  · rw [if_neg (by simpa using empty)]
    constructor
    · intro read
      split at read
      · cases read
      · rename_i inner envelope
        obtain ⟨fits, whole⟩ := exact_readEnvelope.whole_eq_ok_iff.mp envelope
        obtain ⟨pageFits, rfl⟩ := decode_eq_ok_iff.mp read
        exact Or.inr ⟨fits, pageFits, whole⟩
    · rintro (⟨none, -⟩ | ⟨fits, pageFits, whole⟩)
      · exact absurd none empty
      · rw [exact_readEnvelope.whole_eq_ok_iff.mpr ⟨fits, whole⟩]
        exact decode_eq_ok_iff.mpr ⟨pageFits, rfl⟩

/-- The decoder of a page is exact in both layouts: it returns the pages whose
fields fit from their layouts, and from nothing else, so what is cut, lengthened or
altered is rejected; and it goes round at most once for each byte.  The
data of a response holds such a page, or none for an empty page. -/
theorem page_exact (selector : CodePoints) :
    (∀ page, Fits (isExtended selector) page →
      decode selector (layout (isExtended selector) page) = .ok page) ∧
    (∀ data page, decode selector data = .ok page →
      Fits (isExtended selector) page ∧ data = layout (isExtended selector) page) ∧
    Strict (decode selector) ∧
    (∀ data, turns selector data ≤ data.length) ∧
    (∀ data page, decodeResponse selector data = .ok page ↔
      data = [] ∧ page = {} ∨
        BlobFits (layout (isExtended selector) page) ∧ Fits (isExtended selector) page ∧
          data = envelopeLayout (layout (isExtended selector) page)) := by
  exact ⟨fun page fits => decode_eq_ok_iff.mpr ⟨fits, rfl⟩,
    fun data page => decode_eq_ok_iff.mp, (exact_readPage _).strict _, turns_le selector,
    fun data page => decodeResponse_eq_ok_iff⟩

end StreamPage

end FitzClient
