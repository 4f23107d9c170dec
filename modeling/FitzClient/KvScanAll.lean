import FitzClient.CursorPaging
import FitzClient.KvScanRequest
import FitzClient.KvStatus

/-!
# Scans over all pages

`scan_all` asks for page after page.  It resumes strictly beyond the key of the
last pair that it has yielded, in the direction of the scan.  `scan_page`
answers bounds that exclude each other itself.

A broker that is honest may cut the pairs into pages as it likes.  The upper
bound of its ranges may be inclusive or not.
-/

namespace FitzClient

open TokenReader ResponseReader CursorPaging

/-- The exceptions of a scan. -/
inductive KvScanException
  | response (error : ResponseException)
  | staleHandle (kind : String)
  deriving DecidableEq, Repr

/-- The arguments of `scan_page`. -/
structure KvScanArguments where
  startKey : Option Bytes := none
  endKey : Option Bytes := none
  limit : Option KvScanLimit := none
  reverse : Bool := false
  startExclusive : Bool := false
  deriving DecidableEq, Repr

/-- What an iteration over `scan_all` yields, and what it raises. -/
structure KvScanRun where
  yielded : List KvPair
  raised : Option KvScanException
  deriving DecidableEq, Repr

/-- `_ensure_open` -/
def KvScanHandle.ensureOpen (handle : KvScanHandle) : Except KvScanException Unit :=
  if handle.generation ≠ handle.connectionGeneration then
    .error (.staleHandle "KV transaction")
  else if handle.closed then
    .error (.response (.domain {
      domain := .kv
      message := "Transaction is closed"
      reason := "TX_CLOSED" }))
  else
    .ok ()

namespace KvScanRequest

/-- The order of the keys in the direction of a scan. -/
def Precedes (reverse : Bool) (first second : Bytes) : Prop :=
  if reverse then second < first else first < second

instance (reverse : Bool) : DecidableRel (Precedes reverse) := fun first second =>
  inferInstanceAs (Decidable (if reverse then second < first else first < second))

/-- `invalid_forward or invalid_reverse` -/
def inverted (request : KvScanRequest) : Bool :=
  match request.startKey, request.endKey with
  | some startKey, some endKey =>
      !request.reverse && decide (endKey < startKey) ||
        request.reverse && decide (startKey < endKey)
  | _, _ => false

end KvScanRequest

namespace KvScan

/-- The error of a page or a scan that was cut off. -/
def truncated (message : String) : KvScanException :=
  .response (.domain { domain := .kv, message, reason := "SCAN_TRUNCATED" })

/-- The part of `scan_page` that reads the reply. -/
def decodeReply (reply : Bytes) : Except ResponseException KvScanPage :=
  match KvStatus.status "SCAN" reply with
  | .error error => .error error
  | .ok ((), data) => decode data

/-- `operation` of `scan_page`, where `answer` is what the request comes to in
the retry loop. -/
def operation (handle : KvScanHandle) (answer : Bytes → Except KvScanException Bytes)
    (request : KvScanRequest) : Except KvScanException KvScanPage := do
  handle.ensureOpen
  let payload ← (request.build handle).mapError (.response <| .wire ·)
  let reply ← answer payload
  (decodeReply reply).mapError .response

/-- `scan_page` -/
def scanPage (handle : KvScanHandle) (answer : Bytes → Except KvScanException Bytes)
    (arguments : KvScanArguments) : Except KvScanException KvScanPage := do
  let limit ← (KvScanRequest.checkLimit arguments.limit).mapError (.response <| .domain ·)
  let request : KvScanRequest := {
    startKey := arguments.startKey
    endKey := arguments.endKey
    limit
    reverse := arguments.reverse
    startExclusive := arguments.startExclusive }
  handle.ensureOpen
  if request.inverted then
    return { entries := [], hasMore := false }
  operation handle answer request

/-- `scan` -/
def scan (handle : KvScanHandle) (answer : Bytes → Except KvScanException Bytes)
    (arguments : KvScanArguments) : Except KvScanException (List KvPair) := do
  let page ← scanPage handle answer arguments
  if page.hasMore then
    throw (truncated "SCAN page was truncated; use scan_page to continue")
  return page.entries

/-- `scan_all` from its turn `turn` on, with `none` where the fuel runs out;
`answer turn` is the reply that the page of this turn gets. -/
def scanAll (handle : KvScanHandle) (answer : Nat → Bytes → Except KvScanException Bytes) :
    Nat → Nat → KvScanArguments → Option KvScanRun
  | 0, _, _ => none
  | fuel + 1, turn, arguments =>
      match scanPage handle (answer turn) arguments with
      | .error raised => some { yielded := [], raised }
      | .ok page =>
          match page.hasMore, page.entries.getLast? with
          | true, none =>
              some {
                yielded := []
                raised := truncated "SCAN returned an empty page with more entries" }
          | false, _ => some { yielded := page.entries, raised := none }
          | true, some last =>
              (scanAll handle answer fuel (turn + 1) { arguments with
                startKey := some last.key
                startExclusive := true }).map fun rest =>
                { rest with yielded := page.entries ++ rest.yielded }

end KvScan

/-- The pairs of a transaction, which a scan may carry. -/
structure KvStore where
  pairs : List KvPair
  sorted : pairs.Pairwise fun first second => first.key < second.key
  fits : ∀ pair ∈ pairs, KvScan.PairFits pair

namespace KvScanRequest

/-- The key is not before the start of the scan. -/
def pastStart (request : KvScanRequest) (key : Bytes) : Bool :=
  request.startKey.all fun startKey =>
    if request.startExclusive then
      decide (Precedes request.reverse startKey key)
    else
      !decide (Precedes request.reverse key startKey)

/-- The key is not beyond the end of the scan. -/
def withinEnd (request : KvScanRequest) (endInclusive : Bool) (key : Bytes) : Bool :=
  request.endKey.all fun endKey =>
    if endInclusive then
      !decide (Precedes request.reverse endKey key)
    else
      decide (Precedes request.reverse key endKey)

end KvScanRequest

namespace KvStore

/-- The pairs in the direction of a scan. -/
def inOrder (store : KvStore) (reverse : Bool) : List KvPair :=
  if reverse then store.pairs.reverse else store.pairs

/-- The pairs that a request asks for, in scan order. -/
def matching (store : KvStore) (endInclusive : Bool) (request : KvScanRequest) : List KvPair :=
  (store.inOrder request.reverse).filter fun pair =>
    request.pastStart pair.key && request.withinEnd endInclusive pair.key

/-- Every reply to a SCAN is a page of the pairs that it asks for. -/
def Honest (store : KvStore) (endInclusive : Bool) (handle : KvScanHandle)
    (answer : Nat → Bytes → Except KvScanException Bytes) : Prop :=
  ∀ turn request payload, KvScanRequest.build handle request = .ok payload →
    ∃ page : KvScanPage, KvScan.Fits page ∧
      IsPage (store.matching endInclusive request) page.entries page.hasMore ∧
        answer turn payload = .ok (BigEndian.encode 1 0 ++ KvScan.layout page)

end KvStore

namespace KvScanRequest

variable {reverse : Bool} {first second third : Bytes}

theorem Precedes.asymm (precedes : Precedes reverse first second) :
    ¬ Precedes reverse second first := by
  cases reverse <;> exact List.lt_asymm precedes

theorem Precedes.trans (precedes : Precedes reverse first second)
    (next : Precedes reverse second third) : Precedes reverse first third := by
  cases reverse with
  | false => exact List.lt_trans precedes next
  | true => exact List.lt_trans next precedes

theorem Precedes.of_not (notAfter : ¬ Precedes reverse second first)
    (next : Precedes reverse second third) : Precedes reverse first third := by
  cases reverse with
  | false => exact List.lt_of_le_of_lt notAfter next
  | true => exact Std.lt_of_lt_of_le next notAfter

theorem inverted_eq_true_iff {request : KvScanRequest} :
    request.inverted = true ↔ ∃ startKey endKey, request.startKey = some startKey ∧
      request.endKey = some endKey ∧ Precedes request.reverse endKey startKey := by
  unfold inverted
  cases request.startKey with
  | none => simp
  | some startKey =>
      cases request.endKey with
      | none => simp
      | some endKey => cases reversed : request.reverse <;> simp [Precedes]

theorem pastStart_eq_true_iff {request : KvScanRequest} {key : Bytes} :
    request.pastStart key = true ↔ ∀ startKey ∈ request.startKey,
      if request.startExclusive then Precedes request.reverse startKey key
      else ¬ Precedes request.reverse key startKey := by
  unfold pastStart
  cases request.startKey with
  | none => simp
  | some startKey => cases request.startExclusive <;> simp

theorem withinEnd_eq_true_iff {request : KvScanRequest} {endInclusive : Bool} {key : Bytes} :
    request.withinEnd endInclusive key = true ↔ ∀ endKey ∈ request.endKey,
      if endInclusive then ¬ Precedes request.reverse endKey key
      else Precedes request.reverse key endKey := by
  unfold withinEnd
  cases request.endKey with
  | none => simp
  | some endKey => cases endInclusive <;> simp

end KvScanRequest

namespace KvStore

open KvScanRequest

variable {store : KvStore} {endInclusive : Bool} {request : KvScanRequest}

theorem mem_matching {pair : KvPair} :
    pair ∈ store.matching endInclusive request ↔ pair ∈ store.pairs ∧
      request.pastStart pair.key = true ∧ request.withinEnd endInclusive pair.key = true := by
  rw [matching, List.mem_filter, Bool.and_eq_true, inOrder]
  cases request.reverse <;> simp

theorem ordered_inOrder (reverse : Bool) :
    Ordered KvPair.key (Precedes reverse) (store.inOrder reverse) := by
  cases reverse with
  | false => exact store.sorted
  | true => exact List.pairwise_reverse.mpr store.sorted

theorem ordered_matching :
    Ordered KvPair.key (Precedes request.reverse) (store.matching endInclusive request) :=
  (ordered_inOrder request.reverse).filter _

/-- Bounds that exclude each other match nothing. -/
theorem matching_of_inverted (inverted : request.inverted = true) :
    store.matching endInclusive request = [] := by
  obtain ⟨startKey, endKey, hasStart, hasEnd, beyondEnd⟩ := inverted_eq_true_iff.mp inverted
  refine List.eq_nil_iff_forall_not_mem.mpr fun pair member => ?_
  obtain ⟨-, past, within⟩ := mem_matching.mp member
  have notBefore : ¬ Precedes request.reverse pair.key startKey := by
    have admitted := pastStart_eq_true_iff.mp past startKey hasStart
    split at admitted
    · exact admitted.asymm
    · exact admitted
  have notAfter : ¬ Precedes request.reverse endKey pair.key := by
    have admitted := withinEnd_eq_true_iff.mp within endKey hasEnd
    split at admitted
    · exact admitted
    · exact admitted.asymm
  exact notBefore (Precedes.of_not notAfter beyondEnd)

/-- What lies beyond a key that the start admits is admitted by it. -/
theorem pastStart_of_precedes {first second : Bytes} (past : request.pastStart first = true)
    (precedes : Precedes request.reverse first second) : request.pastStart second = true := by
  refine pastStart_eq_true_iff.mpr fun startKey hasStart => ?_
  have admitted := pastStart_eq_true_iff.mp past startKey hasStart
  by_cases exclusive : request.startExclusive = true
  · rw [if_pos exclusive] at admitted ⊢
    exact admitted.trans precedes
  · rw [if_neg exclusive] at admitted ⊢
    exact (Precedes.of_not admitted precedes).asymm

/-- The request after a page asks for the pairs beyond its last one. -/
theorem matching_resumed {last : KvPair} (member : last ∈ store.matching endInclusive request) :
    store.matching endInclusive { request with
        startKey := some last.key
        startExclusive := true } =
      beyond KvPair.key (Precedes request.reverse) last.key
        (store.matching endInclusive request) := by
  obtain ⟨-, past, -⟩ := mem_matching.mp member
  rw [beyond, matching, matching, List.filter_filter]
  refine List.filter_congr fun pair _ => ?_
  by_cases precedes : Precedes request.reverse last.key pair.key
  · rw [pastStart_of_precedes past precedes]
    simp [pastStart, withinEnd, precedes]
  · simp [pastStart, precedes]

end KvStore

end FitzClient
