import FitzClient.KvStatus
import FitzClient.ResponsePages
import FitzClient.StreamPage

/-!
# Exceptions that escape from the decoders

Numbers, flags, byte strings and missing bytes are refused with errors of the
library.  A text is not: its bytes are decoded after they have all been found, and
what Python raises for bytes that are not UTF-8 goes through to the caller.  So
a decoder lets such an exception escape exactly on the inputs on which it comes to
a text field that is complete and ill-formed, and these are described by what
stands in front of the field.  The query for a lease has one more way: it adds the
remaining time to the clock, which overflows for a time that is too long.
-/

namespace FitzClient

open TokenReader ResponseReader
open ResponseException (Escapes)

/-- Fewer items than are announced are followed by an ill-formed one. -/
def IllAmong {α : Type} (valid : α → Prop) (layout : α → Bytes) (ill : Bytes → Prop)
    (data : Bytes) : Prop :=
  ∃ (count : Nat) (items : List α) (rest : Bytes), count < 256 ^ 4 ∧ items.length < count ∧
    (∀ item ∈ items, valid item) ∧
    data = BigEndian.encode 4 count ++ (items.flatMap layout ++ rest) ∧ ill rest

theorem leaks_counted_iff {α β : Type} {reader : ResponseReader α} {valid : α → Prop}
    {layout : α → Bytes} (exact : Exact reader valid layout) {ill : Bytes → Prop}
    (leaks : ∀ unread, Leaks Escapes reader unread ↔ ill unread)
    {next : List α → ResponseReader β}
    (safe : ∀ items unread, ¬ Leaks Escapes (next items) unread) {data : Bytes} :
    Leaks Escapes (do
      let count ← readU32
      let items ← times reader count
      next items) data ↔ IllAmong valid layout ill data := by
  simp only [exact_readU32.leaks_bind_iff, leaks_bind_iff, exact.leaks_times_iff, leaks, safe,
    not_leaks_readU32, and_false, exists_false, or_false, false_or]
  constructor
  · rintro ⟨count, _, countFits, rfl, items, rest, fewer, fits, rfl, isIll⟩
    exact ⟨count, items, rest, countFits, fewer, fits, rfl, isIll⟩
  · rintro ⟨count, items, rest, countFits, fewer, fits, rfl, isIll⟩
    exact ⟨count, _, countFits, rfl, items, rest, fewer, fits, rfl, isIll⟩

/-- `LeaseInfo`; the expiry is in microseconds from the first date on. -/
structure LeaseInfo where
  isHeld : Bool
  owner : Option String
  ttlRemaining : Option Nat
  pendingWaiters : Nat
  expiresAt : Option Nat
  deriving DecidableEq, Repr

namespace LeaseQuery

/-- `datetime.max` in microseconds from the first date on. -/
def datetimeMax : Nat := 315537897599999999

/-- `datetime.now(UTC) + timedelta(seconds=ttl)`, which overflows after the
last date. -/
def expiry (now ttl : Nat) : ResponseReader Nat :=
  if now + ttl * 1000000 ≤ datetimeMax then
    return now + ttl * 1000000
  else
    throw .overflow

/-- The part of `query` that reads the data of the response, up to its end. -/
def readInfo (now : Nat) : ResponseReader LeaseInfo := do
  let held ← readFlag fun _ => malformed .lease "QUERY response has an invalid held flag"
  if held then
    let owner ← readString
    let ttl ← readU64
    let pendingWaiters ← readU32
    let expiresAt ← expiry now ttl
    return {
      isHeld := true
      owner := some owner
      ttlRemaining := some ttl
      pendingWaiters
      expiresAt := some expiresAt }
  else
    let pendingWaiters ← readU32
    return {
      isHeld := false
      owner := none
      ttlRemaining := none
      pendingWaiters
      expiresAt := none }

/-- The part of `query` that reads the data of the response. -/
def decode (now : Nat) : Bytes → Except ResponseException LeaseInfo :=
  whole (readInfo now) (.domain (malformed .lease "QUERY response has trailing bytes"))

/-- The owner is ill-formed, or the time to live goes beyond the last date. -/
def Ill (now : Nat) (data : Bytes) : Prop :=
  ∃ rest, data = flagLayout true ++ rest ∧
    (IllText rest ∨ ∃ owner ttl pendingWaiters left, TextFits owner ∧ ttl < 256 ^ 8 ∧
      pendingWaiters < 256 ^ 4 ∧
      rest = textLayout owner ++ (BigEndian.encode 8 ttl ++
        (BigEndian.encode 4 pendingWaiters ++ left)) ∧
      datetimeMax < now + ttl * 1000000)

theorem leaks_expiry_iff {now ttl : Nat} {unread : Bytes} :
    Leaks Escapes (expiry now ttl) unread ↔ datetimeMax < now + ttl * 1000000 := by
  rw [expiry]
  split_ifs with fits
  · exact ⟨fun leaks => (not_leaks_pure leaks).elim, fun late => absurd fits (Nat.not_le.mpr late)⟩
  · rw [leaks_throw_iff]
    exact ⟨fun _ => Nat.not_le.mp fits, fun _ => rfl⟩

theorem leaks_readInfo_iff {now : Nat} {data : Bytes} :
    Leaks Escapes (readInfo now) data ↔ Ill now data := by
  simp only [readInfo, (exact_readFlag _).leaks_bind_iff, not_leaks_readFlag, leaks_ite_iff,
    exact_readString.leaks_bind_iff, exact_readU64.leaks_bind_iff, exact_readU32.leaks_bind_iff,
    leaks_bind_iff, leaks_readString_iff, not_leaks_readU64, not_leaks_readU32, leaks_expiry_iff,
    not_leaks_pure, and_false, exists_false, or_false, false_or]
  constructor
  · rintro ⟨_, rest, -, rfl, rfl, ill | ⟨owner, _, ownerFits, rfl, ttl, _, ttlFits, rfl, waiters,
      left, waitersFit, rfl, late⟩⟩
    · exact ⟨rest, rfl, Or.inl ill⟩
    · exact ⟨_, rfl, Or.inr ⟨owner, ttl, waiters, left, ownerFits, ttlFits, waitersFit, rfl, late⟩⟩
  · rintro ⟨rest, rfl, ill | ⟨owner, ttl, waiters, left, ownerFits, ttlFits, waitersFit, rfl, late⟩⟩
    · exact ⟨true, rest, trivial, rfl, rfl, Or.inl ill⟩
    · exact ⟨true, _, trivial, rfl, rfl, Or.inr ⟨owner, _, ownerFits, rfl, ttl, _, ttlFits, rfl,
        waiters, left, waitersFit, rfl, late⟩⟩

end LeaseQuery

namespace KvStatus

/-- The message of an error of any class and effect is ill-formed. -/
def Ill (payload : Bytes) : Prop :=
  ∃ code errorClass effect rest, code < 256 ^ 2 ∧ errorClass < 256 ^ 1 ∧ effect < 256 ^ 1 ∧
    payload = BrokerError.headLayout code errorClass effect ++ rest ∧ IllText rest

theorem leaks_readStatus_iff (operation : String) {payload : Bytes} :
    Leaks Escapes (readStatus operation) payload ↔ Ill payload := by
  simp only [readStatus, exact_readU8.leaks_bind_iff, exact_readU16.leaks_bind_iff, leaks_ite_iff,
    leaks_bind_iff, leaks_atEnd_iff, leaks_require_iff, leaks_readString_iff, not_leaks_readU8,
    not_leaks_readU16, not_escapes_domain, not_leaks_pure, and_false, exists_false, or_false,
    false_or]
  constructor
  · rintro ⟨_, _, -, rfl, rfl, code, _, codeFits, rfl, errorClass, _, classFits, rfl, effect, rest,
      effectFits, rfl, ill⟩
    exact ⟨code, errorClass, effect, rest, codeFits, classFits, effectFits,
      by simp only [BrokerError.headLayout, List.append_assoc], ill⟩
  · rintro ⟨code, errorClass, effect, rest, codeFits, classFits, effectFits, rfl, ill⟩
    exact ⟨1, _, by decide, by simp only [BrokerError.headLayout, List.append_assoc], rfl, code, _,
      codeFits, rfl, errorClass, _, classFits, rfl, effect, rest, effectFits, rfl, ill⟩

theorem leaks_status_iff (operation : String) {payload : Bytes} :
    Leaks Escapes (status operation) payload ↔ Ill payload := by
  rw [← leaks_readStatus_iff operation, status, leaks_bind_iff]
  refine or_iff_left ?_
  rintro ⟨_ | error, left, -, leaks⟩
  · exact not_leaks_pure leaks
  · exact not_leaks_raise leaks

end KvStatus

namespace KvScan

theorem not_leaks_readPair {unread : Bytes} : ¬ Leaks Escapes readPair unread := by
  simp only [readPair, leaks_bind_iff, not_leaks_readBlob, not_leaks_pure, and_false,
    exists_false, or_false, not_false_eq_true]

/-- A scan has no text, and lets nothing escape. -/
theorem not_leaks_readPage {data : Bytes} : ¬ Leaks Escapes readPage data := by
  simp only [readPage, leaks_bind_iff, not_leaks_readU32, not_leaks_remainingBytes,
    leaks_require_iff, not_escapes_domain, exact_readPair.leaks_times_iff, not_leaks_readPair,
    not_leaks_readFlag, not_leaks_pure, and_false, exists_false, or_false, not_false_eq_true]

end KvScan

namespace LeaseList

/-- A text of an item is ill-formed: its route, its owner or the time at which it
was acquired. -/
def IllItem (data : Bytes) : Prop :=
  IllText data ∨ ∃ route rest, TextFits route ∧ data = textLayout route ++ rest ∧
    (IllText rest ∨ ∃ ownerId holderIncarnation left, TextFits ownerId ∧
      holderIncarnation < 256 ^ 8 ∧
      rest = textLayout ownerId ++ (BigEndian.encode 8 holderIncarnation ++ left) ∧ IllText left)

/-- An item after fewer than are announced is ill-formed. -/
def Ill : Bytes → Prop :=
  IllAmong ItemFits itemLayout IllItem

theorem leaks_readItem_iff {data : Bytes} : Leaks Escapes readItem data ↔ IllItem data := by
  simp only [readItem, exact_readString.leaks_bind_iff, exact_readU64.leaks_bind_iff,
    leaks_bind_iff, leaks_readString_iff, not_leaks_readU64, not_leaks_readU32, not_leaks_pure,
    and_false, exists_false, or_false, false_or]
  refine or_congr_right (exists₂_congr fun route rest => and_congr_right fun _ =>
    and_congr_right fun _ => or_congr_right ⟨?_, ?_⟩)
  · rintro ⟨ownerId, _, ownerFits, rfl, incarnation, left, incarnationFits, rfl, ill⟩
    exact ⟨ownerId, incarnation, left, ownerFits, incarnationFits, rfl, ill⟩
  · rintro ⟨ownerId, incarnation, left, ownerFits, incarnationFits, rfl, ill⟩
    exact ⟨ownerId, _, ownerFits, rfl, incarnation, left, incarnationFits, rfl, ill⟩

theorem not_leaks_readCursor {unread : Bytes} : ¬ Leaks Escapes readCursor unread := by
  simp only [readCursor, leaks_bind_iff, not_leaks_readU64, not_leaks_readU32, not_leaks_pure,
    and_false, exists_false, or_false, not_false_eq_true]

theorem leaks_readPage_iff {data : Bytes} : Leaks Escapes readPage data ↔ Ill data := by
  refine leaks_counted_iff exact_readItem (fun _ => leaks_readItem_iff) fun items unread => ?_
  simp only [leaks_bind_iff, leaks_readOption_iff, not_leaks_readCursor, not_leaks_pure, and_false,
    exists_false, or_false, not_false_eq_true]

end LeaseList

namespace QueueReserve

/-- For a wildcard selector, the route of an item after fewer than are announced
is ill-formed. -/
def Ill (selector : String) : Bytes → Prop :=
  IllAmong (ItemFits selector) (itemLayout selector)
    fun rest => wildcard selector = true ∧ IllText rest

theorem leaks_readRoute_iff {selector : String} {unread : Bytes} :
    Leaks Escapes (readRoute selector) unread ↔ wildcard selector = true ∧ IllText unread := by
  simp only [readRoute, leaks_ite_iff, leaks_readString_iff, not_leaks_pure, and_false, or_false]

theorem leaks_readItem_iff {selector : String} {unread : Bytes} :
    Leaks Escapes (readItem selector) unread ↔ wildcard selector = true ∧ IllText unread := by
  simp only [readItem, leaks_bind_iff, leaks_readRoute_iff, leaks_require_iff, not_escapes_domain,
    not_leaks_readU64, not_leaks_readBlob, not_leaks_pure, and_false, exists_false, or_false]

theorem leaks_readItems_iff {selector : String} {data : Bytes} :
    Leaks Escapes (readItems selector) data ↔ Ill selector data := by
  have paused : readItems selector =
      readU32 >>= fun count => times (readItem selector) count >>= pure := by
    simp only [readItems, bind_pure]
  rw [paused]
  exact leaks_counted_iff (exact_readItem selector) (fun _ => leaks_readItem_iff)
    fun _ _ => not_leaks_pure

end QueueReserve

namespace ScheduleList

/-- The route or the cron text of an entry is ill-formed. -/
def IllEntry (data : Bytes) : Prop :=
  IllText data ∨ ∃ route rest, TextFits route ∧ data = textLayout route ++ rest ∧ IllText rest

/-- The cursor is ill-formed, or after some entries another one. -/
def Ill (data : Bytes) : Prop :=
  (∃ hasMore rest,
    data = BigEndian.encode 1 1 ++ (flagLayout hasMore ++ (flagLayout true ++ rest)) ∧
    IllText rest) ∨
  ∃ (hasMore : Bool) (continuation : Option String) (entries : List ScheduleEntry) (rest : Bytes),
    (∀ cursor ∈ continuation, TextFits cursor) ∧
    (∀ entry ∈ entries, EntryFits entry) ∧
    data = headerLayout (hasMore, continuation) ++
      (entries.flatMap markedLayout ++ (flagLayout true ++ rest)) ∧ IllEntry rest

theorem not_leaks_readMode {unread : Bytes} : ¬ Leaks Escapes readMode unread := by
  simp only [readMode, leaks_bind_iff, not_leaks_readFlag, not_leaks_pure, and_false,
    exists_false, or_false, not_false_eq_true]

theorem leaks_readEntry_iff {data : Bytes} : Leaks Escapes readEntry data ↔ IllEntry data := by
  simp only [readEntry, exact_readString.leaks_bind_iff, leaks_bind_iff, leaks_readString_iff,
    not_leaks_readMode, not_leaks_readBlob, not_leaks_pure, and_false, exists_false, or_false]
  rfl

theorem leaks_readHeader_iff {data : Bytes} :
    Leaks Escapes readHeader data ↔
      ∃ hasMore rest, data = BigEndian.encode 1 1 ++
        (flagLayout hasMore ++ (flagLayout true ++ rest)) ∧ IllText rest := by
  simp only [readHeader, exact_readU8.leaks_bind_iff, (exact_readFlag _).leaks_bind_iff,
    leaks_bind_iff, leaks_require_iff, require_eq_ok_iff, not_escapes_domain, leaks_readOption_iff,
    leaks_readString_iff, not_leaks_readU8, not_leaks_readFlag, not_leaks_pure, and_false,
    exists_false, or_false, false_or]
  constructor
  · rintro ⟨_, _, -, rfl, _, _, ⟨rfl, rfl⟩, hasMore, _, -, rfl, rest, rfl, ill⟩
    exact ⟨hasMore, rest, rfl, ill⟩
  · rintro ⟨hasMore, rest, rfl, ill⟩
    exact ⟨1, _, by decide, rfl, (), _, ⟨rfl, rfl⟩, hasMore, _, trivial, rfl, rest, rfl, ill⟩

theorem leaks_readPage_iff {data : Bytes} : Leaks Escapes readPage data ↔ Ill data := by
  have announced (left : Bytes) : Leaks Escapes marked.read left ↔
      ∃ rest, left = flagLayout true ++ rest ∧ IllEntry rest := by
    simp only [← leaks_readEntry_iff]
    exact leaks_readOption_iff
  simp only [readPage, exact_readHeader.leaks_bind_iff, leaks_bind_iff, leaks_readHeader_iff,
    exact_marked.leaks_all_iff, announced, not_leaks_pure, and_false, exists_false, or_false]
  refine or_congr_right ⟨?_, ?_⟩
  · rintro ⟨⟨hasMore, continuation⟩, _, cursorFits, rfl, entries, _, fits, rfl, rest, rfl, ill⟩
    exact ⟨hasMore, continuation, entries, rest, cursorFits, fits, rfl, ill⟩
  · rintro ⟨hasMore, continuation, entries, rest, cursorFits, fits, rfl, ill⟩
    exact ⟨(hasMore, continuation), _, cursorFits, rfl, entries, _, fits, rfl, rest, rfl, ill⟩

end ScheduleList

namespace StreamPage

/-- The route of an item after fewer than are announced is ill-formed. -/
def Ill (extended : Bool) : Bytes → Prop :=
  IllAmong (RoutedFits extended) (routedLayout extended) IllText

theorem not_leaks_readOptionalU64 {unread : Bytes} : ¬ Leaks Escapes readOptionalU64 unread := by
  simp only [readOptionalU64, leaks_readOption_iff, not_leaks_readU64, and_false, exists_false,
    not_false_eq_true]

theorem not_leaks_readExtended {extended : Bool} {unread : Bytes} :
    ¬ Leaks Escapes (readExtended extended) unread := by
  simp only [readExtended, leaks_ite_iff, not_leaks_readOptionalU64, not_leaks_pure, and_false,
    or_false, not_false_eq_true]

theorem not_leaks_readRecord {route : String} {extended : Bool} {unread : Bytes} :
    ¬ Leaks Escapes (readRecord route extended) unread := by
  simp only [readRecord, readOptionalBytes, leaks_bind_iff, leaks_readOption_iff, not_leaks_readU64,
    not_leaks_readOptionalU64, not_leaks_readExtended, not_leaks_readBlob, not_leaks_pure,
    and_false, exists_false, or_false, not_false_eq_true]

theorem not_leaks_readReason {unread : Bytes} : ¬ Leaks Escapes readReason unread := by
  simp only [readReason, leaks_bind_iff, leaks_ite_iff, not_leaks_readU8, not_leaks_raise,
    not_leaks_pure, and_false, exists_false, or_false, not_false_eq_true]

theorem not_leaks_readItem {route : String} {extended : Bool} {unread : Bytes} :
    ¬ Leaks Escapes (readItem route extended) unread := by
  simp only [readItem, leaks_bind_iff, leaks_ite_iff, not_leaks_readU8, not_leaks_readU64,
    not_leaks_readRecord, not_leaks_readReason, not_leaks_raise, not_leaks_pure, and_false,
    exists_false, or_false, not_false_eq_true]

theorem not_leaks_readCursor {extended : Bool} {unread : Bytes} :
    ¬ Leaks Escapes (readCursor extended) unread := by
  simp only [readCursor, readBool, leaks_bind_iff, not_leaks_readU64, not_leaks_readOptionalU64,
    not_leaks_readExtended, not_leaks_readFlag, not_leaks_pure, and_false, exists_false, or_false,
    not_false_eq_true]

theorem leaks_readRouted_iff {extended : Bool} {unread : Bytes} :
    Leaks Escapes (readRouted extended) unread ↔ IllText unread := by
  simp only [readRouted, leaks_bind_iff, leaks_readString_iff, leaks_require_iff,
    not_escapes_domain, not_leaks_readItem, and_false, exists_false, or_false]

theorem leaks_readPage_iff {extended : Bool} {data : Bytes} :
    Leaks Escapes (readPage extended) data ↔ Ill extended data := by
  refine leaks_counted_iff (exact_readRouted extended) (fun _ => leaks_readRouted_iff)
    fun items unread => ?_
  simp only [leaks_bind_iff, not_leaks_readCursor, not_leaks_pure, and_false, exists_false,
    or_false, not_false_eq_true]

end StreamPage

/-- A decoder returns a value or raises an exception that derives from `FitzError`. -/
def Contained {α : Type} (result : Except ResponseException α) : Prop :=
  (∃ value, result = .ok value) ∨ ∃ error, result = .error error ∧ error.isFitzError = true

/-- The same of the common parser. -/
def WireContained {α : Type} (result : Except WireException α) : Prop :=
  (∃ value, result = .ok value) ∨ ∃ error, result = .error error ∧ error.isFitzError = true

theorem contained_iff {α : Type} {result : Except ResponseException α} :
    Contained result ↔ ¬ ∃ error, result = .error error ∧ Escapes error := by
  cases result with
  | ok value => simp [Contained]
  | error error => simp [Contained, ResponseException.Escapes]

theorem wireContained_iff {α : Type} {result : Except WireException α} :
    WireContained result ↔ ¬ ∃ error, result = .error error ∧ error.Escapes := by
  cases result with
  | ok value => simp [WireContained]
  | error error => simp [WireContained, WireException.Escapes]

theorem contained_whole_iff {α : Type} {reader : ResponseReader α} {trailing : DomainError}
    {ill : Bytes → Prop} {data : Bytes} (leaks : Leaks Escapes reader data ↔ ill data) :
    Contained (whole reader (.domain trailing) data) ↔ ¬ ill data := by
  rw [contained_iff, leaks_whole_iff (not_escapes_domain trailing), leaks]

theorem queueReserve_contained_iff {selector : String} {data : Bytes} :
    Contained (QueueReserve.decode selector data) ↔ ¬ QueueReserve.Ill selector data := by
  by_cases empty : data = []
  · subst empty
    refine iff_of_true (Or.inl ⟨[], rfl⟩) ?_
    rintro ⟨count, items, rest, -, -, -, whole, -⟩
    exact List.cons_ne_nil _ _ whole.symm
  · rw [QueueReserve.decode_of_ne_nil empty]
    exact contained_whole_iff QueueReserve.leaks_readItems_iff

/-- Each decoder keeps to the errors of the library on exactly the inputs on which
it does not come to a text that is complete and ill-formed; the query for
a lease must not go beyond the last date either.  A scan always keeps to them. -/
theorem decoders_contained_iff (data : Bytes) (operation selector : String) (route : CodePoints)
    (now : Nat) :
    (WireContained (parseResponse data) ↔ ¬ IllMessage data) ∧
    (Contained (run (KvStatus.status operation) data) ↔ ¬ KvStatus.Ill data) ∧
    Contained (KvScan.decode data) ∧
    (Contained (LeaseList.decode data) ↔ ¬ LeaseList.Ill data) ∧
    (Contained (LeaseQuery.decode now data) ↔ ¬ LeaseQuery.Ill now data) ∧
    (Contained (QueueReserve.decode selector data) ↔ ¬ QueueReserve.Ill selector data) ∧
    (Contained (ScheduleList.decode data) ↔ ¬ ScheduleList.Ill data) ∧
    (Contained (StreamPage.decode route data) ↔
      ¬ StreamPage.Ill (StreamPage.isExtended route) data) := by
  refine ⟨?_, ?_, ?_, contained_whole_iff LeaseList.leaks_readPage_iff,
    contained_whole_iff LeaseQuery.leaks_readInfo_iff, queueReserve_contained_iff,
    contained_whole_iff ScheduleList.leaks_readPage_iff,
    contained_whole_iff StreamPage.leaks_readPage_iff⟩
  · rw [wireContained_iff, parseResponse_escapes_iff]
  · rw [contained_iff, ← KvStatus.leaks_status_iff operation]
    exact not_congr (exists_congr fun error => and_congr_left fun _ => run_eq_error_iff)
  · rw [contained_iff, KvScan.decode, leaks_whole_iff (not_escapes_domain _)]
    exact KvScan.not_leaks_readPage

/-- A message of one byte that starts no character escapes from the common parser. -/
theorem exists_escape : ¬ ∀ payload, WireContained (parseResponse payload) := by
  intro contained
  have escapes : ∃ error, parseResponse [1, 0, 5, 0, 0, 0, 0, 0, 1, 255] = .error error ∧
      error.Escapes :=
    parseResponse_escapes_iff.mpr ⟨5, 0, 0, [0, 0, 0, 1, 255], by decide, by decide, by decide,
      by decide, [255], [], by decide, by decide, by decide +kernel⟩
  exact wireContained_iff.mp (contained _) escapes

end FitzClient
