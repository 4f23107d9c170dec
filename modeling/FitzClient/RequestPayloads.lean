import FitzClient.BufferRoundTrip
import FitzClient.FrameCodec
import FitzClient.KvScanRequest
import FitzClient.StreamSelectors
import FitzClient.WireExtensions

/-!
# The messages of a client

Every operation writes its arguments one after another: numbers of a fixed
width, texts and byte strings behind their length, an optional argument behind a
flag, and lists behind their count.  The message type says which operation it
is, and flags say whether an acknowledgement is asked for and whether there are
extensions.  Before anything is written, the arguments are checked.
-/

namespace FitzClient

namespace WireValue

/-- `write_string` and `write_route` of a text that can be encoded. -/
def string (value : String) : WireValue :=
  .text (.ofString value)

/-- `write_u32_be(len(value))` and `write_bytes(value)` -/
def blob (value : Bytes) : List WireValue :=
  [.u32 value.length, .bytes value]

/-- An argument behind the flag that it is there. -/
def optional {Argument : Type} (writes : Argument → List WireValue) :
    Option Argument → List WireValue
  | none => [.u8 0]
  | some value => .u8 1 :: writes value

/-- Items behind their count. -/
def counted {Item : Type} (writes : Item → List WireValue) (items : List Item) : List WireValue :=
  .u32 items.length :: items.flatMap writes

end WireValue

open WireValue

/-- What a new writer builds by these writes. -/
def Request.build (values : List WireValue) : Except WireException Bytes := do
  let writer ← (BufferWriter.new 128).writeAll values
  return writer.build

/-- What an operation raises before its frame is sent. -/
inductive RequestException
  | wire (error : WireException)
  | domain (error : DomainError)
  | value (message : String)
  deriving DecidableEq, Repr

namespace RequestException

/-- `if not condition: raise error` -/
def require (condition : Prop) [Decidable condition] (error : RequestException) :
    Except RequestException Unit :=
  if condition then .ok () else .error error

theorem require_bind_eq_ok_iff {condition : Prop} [Decidable condition] {error : RequestException}
    {Result : Type} {next : Unit → Except RequestException Result} {result : Result} :
    (require condition error >>= next) = .ok result ↔ condition ∧ next () = .ok result := by
  unfold require
  split
  · next holds => exact ⟨fun checked => ⟨holds, checked⟩, fun checked => checked.2⟩
  · next fails => exact ⟨nofun, fun checked => absurd checked.1 fails⟩

def invalidRoute (domain : Domain) (message : String) : RequestException :=
  .domain { domain, message, reason := "INVALID_ROUTE" }

/-- `is_exact_route_shape`, and what the domain raises. -/
def exactRoute (domain : Domain) (scheme : String) (segmentCount : Nat) (what route : String) :
    Except RequestException Unit :=
  require (isExactRouteShape (.ofString route) scheme segmentCount = true)
    (invalidRoute domain s!"Invalid {what}: {route}")

/-- `is_selector_route_shape` with a wildcard for the realm. -/
def selectorRoute (domain : Domain) (scheme : String) (segmentCount : Nat)
    (allowInteriorDoubleStar : Bool) (what route : String) : Except RequestException Unit :=
  require
    (isSelectorRouteShape (.ofString route) scheme segmentCount true allowInteriorDoubleStar = true)
    (invalidRoute domain s!"Invalid {what}: {route}")

/-- `_duration` with `positive=True` -/
def positive (name : String) (value : Nat) : Except RequestException Unit :=
  require (0 < value) (.value s!"{name} must be positive")

/-- `_require_capability` -/
def capability (capabilityIds : List Nat) (id : Nat) : Except RequestException Unit :=
  require (id ∈ capabilityIds) (.domain
    { domain := .queue
      message := s!"Queue capability {id} was not negotiated"
      reason := "UNSUPPORTED_CAPABILITY" })

end RequestException

open RequestException (require invalidRoute exactRoute selectorRoute positive capability)

inductive KvMode
  | readOnly
  | readWrite
  deriving DecidableEq, Repr

inductive KvDurability
  | buffered
  | sync
  deriving DecidableEq, Repr

inductive KvRequest
  | begin (route : String) (mode : KvMode)
  | commit (txId : Nat) (route : String) (durability : KvDurability)
  | rollback (txId : Nat) (route : String)
  | get (txId : Nat) (route : String) (key : Bytes)
  | put (txId : Nat) (route : String) (key value : Bytes)
  | insert (txId : Nat) (route : String) (key value : Bytes)
  | delete (txId : Nat) (route : String) (key : Bytes)
  | deleteRange (txId : Nat) (route : String) (startKey endKey : Bytes)
  | scan (txId : Nat) (route : String) (request : KvScanRequest)
  | subscribe (pattern : String)
  | unsubscribe (pattern : String)
  deriving DecidableEq, Repr

namespace KvRequest

def messageType : KvRequest → Nat
  | begin .. => 100
  | commit .. => 101
  | rollback .. => 102
  | get .. => 103
  | put .. => 104
  | insert .. => 105
  | delete .. => 106
  | deleteRange .. => 107
  | scan .. => 108
  | subscribe .. => 109
  | unsubscribe .. => 110

/-- `_prefix` -/
def handle (txId : Nat) (route : String) : List WireValue :=
  [.u64 txId, string route]

/-- The arguments of a SCAN. -/
def scanWrites (request : KvScanRequest) : List WireValue :=
  optional blob request.startKey ++ optional blob request.endKey ++
    optional (fun limit => [.u32 limit]) request.limit ++ [.u8 request.options]

def writes : KvRequest → List WireValue
  | begin route mode => [string route, .u8 (if mode = .readWrite then 1 else 0)]
  | commit txId route durability =>
      handle txId route ++ [.u8 (if durability = .sync then 1 else 0)]
  | rollback txId route => handle txId route
  | get txId route key => handle txId route ++ blob key
  | put txId route key value => handle txId route ++ blob key ++ blob value
  | insert txId route key value => handle txId route ++ blob key ++ blob value
  | delete txId route key => handle txId route ++ blob key
  | deleteRange txId route startKey endKey => handle txId route ++ blob startKey ++ blob endKey
  | scan txId route request => handle txId route ++ scanWrites request
  | subscribe pattern => [string pattern]
  | unsubscribe pattern => [string pattern]

def check : KvRequest → Except RequestException Unit
  | begin route _ => exactRoute .kv "kv" 3 "KV route" route
  | deleteRange _ _ startKey endKey => require (startKey < endKey) (.domain
      { domain := .kv
        message := "Range start must be less than end"
        reason := "INVALID_RANGE" })
  | scan _ _ request =>
      require (∀ limit ∈ request.limit, limit ≤ 0xFFFFFFFF)
        (.domain KvScanRequest.invalidLimit)
  | subscribe pattern => selectorRoute .kv "kv" 3 false "KV pattern" pattern
  | _ => .ok ()

end KvRequest

inductive QueueRequest
  | enqueue (route : String) (body : Bytes) (delay ttlHours : Option Nat)
  | reserve (selector : String) (lease : Nat) (batchSize wait : Option Nat)
  | complete (route : String) (itemId token : Nat)
  | nack (route : String) (itemId token visibilitySeconds : Nat)
  | extend (route : String) (itemId token lease : Nat)
  | subscribe (selector : String)
  | unsubscribe (selector : String)
  deriving DecidableEq, Repr

namespace QueueRequest

def messageType : QueueRequest → Nat
  | enqueue .. => 200
  | reserve .. => 202
  | extend .. => 203
  | complete .. => 204
  | subscribe .. => 207
  | unsubscribe .. => 208
  | nack .. => 210

/-- A number of seconds, written if it is positive. -/
def seconds (value : Nat) : List WireValue :=
  if 0 < value then [.u8 1, .u64 value] else [.u8 0]

/-- `batch_size or 1` -/
def orOne : Option Nat → Nat
  | none | some 0 => 1
  | some size => size

def writes : QueueRequest → List WireValue
  | enqueue route body delay _ => string route :: blob body ++ seconds (delay.getD 0)
  | reserve selector lease batchSize wait =>
      [string selector, .u64 lease, .u8 1, .u32 (orOne batchSize)] ++ seconds (wait.getD 0)
  | complete route itemId token => [string route, .u64 itemId, .u64 token]
  | nack route itemId token visibilitySeconds =>
      [string route, .u64 itemId, .u64 token, .u64 visibilitySeconds]
  | extend route itemId token lease => [string route, .u64 itemId, .u64 token, .u64 lease]
  | subscribe selector => [string selector]
  | unsubscribe selector => [string selector]

/-- The TTL of an ENQUEUE, which stands behind the core of the payload. -/
def ttlHours : QueueRequest → Option Nat
  | enqueue _ _ _ ttlHours => ttlHours
  | _ => none

def extensions (request : QueueRequest) : List (Nat × Bytes) :=
  request.ttlHours.toList.map fun ttlHours => (1, BigEndian.encode 4 ttlHours)

def meaning : QueueRequest → QueueRequest
  | enqueue route body delay ttlHours => enqueue route body (some (delay.getD 0)) ttlHours
  | reserve selector lease batchSize wait =>
      reserve selector lease (some (orOne batchSize)) (some (wait.getD 0))
  | request => request

/-- `_selector` -/
def checkSelector (selector : String) : Except RequestException Unit :=
  selectorRoute .queue "queue" 3 false "queue selector" selector

def check (capabilityIds : List Nat) : QueueRequest → Except RequestException Unit
  | enqueue route _ _ ttlHours => do
      exactRoute .queue "queue" 3 "queue route" route
      match ttlHours with
      | none => .ok ()
      | some ttlHours =>
          require (0 < ttlHours ∧ ttlHours ≤ 0xFFFFFFFF)
            (.value "ttl_hours must be a positive u32 number of hours")
          capability capabilityIds WireExtensions.queueMessageTtl
  | reserve selector lease batchSize _ => do
      checkSelector selector
      positive "lease" lease
      require (∀ size ∈ batchSize, 1 ≤ size ∧ size ≤ 1024)
        (.value "batch_size must be between 1 and 1024")
  | nack .. => capability capabilityIds WireExtensions.queueNack
  | extend _ _ _ lease => positive "lease" lease
  | subscribe selector => checkSelector selector
  | complete .. | unsubscribe .. => .ok ()

end QueueRequest

/-- `os.urandom(16)`, or what a request of a caller began with. -/
structure RpcCorrelationId where
  bytes : Bytes
  length_eq : bytes.length = 16
  deriving DecidableEq, Repr

inductive RpcRequest
  | subscribeWorker (route : String) (maxConcurrency : Nat)
  | unsubscribeWorker (route : String)
  | request (correlationId : RpcCorrelationId) (route : String) (body : Bytes)
      (remainingBudgetMs : Option Nat)
  | response (correlationId : RpcCorrelationId) (sequence : Nat) (ends : Bool) (body : Bytes)
  | cancel (correlationId : RpcCorrelationId) (reason : Nat)
  | acknowledge (correlationId : RpcCorrelationId)
  deriving DecidableEq, Repr

namespace RpcRequest

def messageType : RpcRequest → Nat
  | subscribeWorker .. => 300
  | unsubscribeWorker .. => 301
  | request .. => 302
  | response .. => 303
  | cancel .. => 304
  | acknowledge .. => 304

def writes : RpcRequest → List WireValue
  | subscribeWorker route maxConcurrency => [string route, .u32 maxConcurrency, .u8 1]
  | unsubscribeWorker route => [string route]
  | request correlationId route body remainingBudgetMs =>
      .bytes correlationId.bytes :: string route :: blob body ++
        optional (fun budget => [.u32 budget]) remainingBudgetMs
  | response correlationId sequence ends body =>
      .bytes correlationId.bytes :: .u64 sequence :: .u8 ends.toNat :: blob body
  | cancel correlationId reason => [.u8 1, .bytes correlationId.bytes, .u8 reason]
  | acknowledge correlationId => [.u8 3, .bytes correlationId.bytes]

/-- `_MAX_RPC_BUDGET_MS` -/
def maxBudgetMs : Nat := 86400000

/-- `_route` -/
def checkRoute (route : String) (patterns : Bool) : Except RequestException Unit :=
  require (RpcRoutes.route (.ofString route) patterns = .ok ())
    (invalidRoute .rpc s!"Invalid RPC route: {route}")

def check : RpcRequest → Except RequestException Unit
  | subscribeWorker route maxConcurrency => do
      checkRoute route true
      require (1 ≤ maxConcurrency ∧ maxConcurrency ≤ 1024)
        (.value "max_concurrency must be between 1 and 1024")
  | request _ route _ remainingBudgetMs => do
      checkRoute route false
      require (∀ budget ∈ remainingBudgetMs, budget ≤ maxBudgetMs)
        (.value s!"remaining budget must be in 0..={maxBudgetMs} milliseconds")
  | _ => .ok ()

end RpcRequest

inductive LeaseRequest
  | acquire (route ownerId : String) (ttl wait : Nat)
  | extend (route ownerId : String) (token ttl : Nat)
  | release (route ownerId : String) (token : Nat)
  | query (route : String)
  | subscribe (route : String)
  | unsubscribe (route : String)
  | list (pattern : String) (cursor : Option LeaseListCursor) (limit : Option Nat)
  deriving DecidableEq, Repr

namespace LeaseRequest

def messageType : LeaseRequest → Nat
  | acquire .. => 400
  | extend .. => 401
  | release .. => 402
  | query .. => 403
  | subscribe .. => 407
  | unsubscribe .. => 408
  | list .. => 410

def writes : LeaseRequest → List WireValue
  | acquire route ownerId ttl wait => [string route, string ownerId, .u64 ttl, .u32 wait]
  | extend route ownerId token ttl => [string route, string ownerId, .u64 token, .u64 ttl]
  | release route ownerId token => [string route, string ownerId, .u64 token]
  | query route => [string route]
  | subscribe route => [string route]
  | unsubscribe route => [string route]
  | list pattern cursor limit =>
      string pattern ::
        optional (fun cursor => [.u64 cursor.snapshotId, .u32 cursor.offset]) cursor ++
          [.u32 (limit.getD 0)]

def meaning : LeaseRequest → LeaseRequest
  | list pattern cursor limit => list pattern cursor (some (limit.getD 0))
  | request => request

/-- `_route` -/
def checkRoute (route : String) : Except RequestException Unit :=
  exactRoute .lease "lease" 3 "lease route" route

/-- `_pattern` -/
def checkPattern (pattern : String) : Except RequestException Unit :=
  selectorRoute .lease "lease" 3 true "lease pattern" pattern

def check : LeaseRequest → Except RequestException Unit
  | acquire route ownerId ttl wait => do
      checkRoute route
      positive "ttl" ttl
      require (wait ≤ 0xFFFFFFFF) (.value "ttl must be positive and wait must fit u32 seconds")
      require (ownerId ≠ "") (.value "owner_id must not be empty")
  | extend _ _ _ ttl => positive "ttl" ttl
  | query route => checkRoute route
  | subscribe route => checkPattern route
  | list pattern _ limit => do
      checkPattern pattern
      require (∀ items ∈ limit, items ≤ 0xFFFFFFFF)
        (.value "limit must fit an unsigned 32-bit integer")
  | release .. | unsubscribe .. => .ok ()

end LeaseRequest

inductive NoticeRequest
  | publish (route : String) (body : Bytes) (acknowledged : Bool)
  | subscribe (pattern : String)
  | unsubscribe (subId : Nat)
  | unsubscribeAll
  deriving DecidableEq, Repr

namespace NoticeRequest

def acknowledged : NoticeRequest → Bool
  | publish _ _ acknowledged => acknowledged
  | _ => false

def messageType : NoticeRequest → Nat
  | publish .. => 500
  | subscribe .. => 501
  | unsubscribe .. => 502
  | unsubscribeAll => 503

def writes : NoticeRequest → List WireValue
  | publish route body _ => string route :: blob body
  | subscribe pattern => [string pattern]
  | unsubscribe subId => [.u64 subId]
  | unsubscribeAll => []

def check : NoticeRequest → Except RequestException Unit
  | publish route _ _ => exactRoute .notice "notice" 3 "notice route" route
  | subscribe pattern => selectorRoute .notice "notice" 3 false "notice pattern" pattern
  | unsubscribe .. | unsubscribeAll => .ok ()

end NoticeRequest

inductive StreamCommitMode
  | buffered
  | sync
  deriving DecidableEq, Repr

/-- A clause with what it compares to. -/
inductive StreamFilterClause
  | equals (value : String)
  | notEquals (value : String)
  | startsWith (value : String)
  | anyOf (values : List String)
  deriving DecidableEq, Repr

namespace StreamFilterClause

/-- `_encode_stream_filter_clause` -/
def writes : StreamFilterClause → List WireValue
  | equals value => [.u8 0, string value]
  | notEquals value => [.u8 1, string value]
  | startsWith value => [.u8 2, string value]
  | anyOf values => .u8 3 :: counted (fun value => [string value]) values

/-- `_encode_stream_filter_set` of a set with clauses. -/
def setWrites (clauses : List StreamFilterClause) : List WireValue :=
  .u8 0 :: .u8 0xF1 :: counted writes clauses

end StreamFilterClause

inductive StreamRequest
  | begin (route : String) (ingestMetadata : Option Bytes)
  | append (sessionId expectedOffset : Nat) (body : Bytes) (metadata : Option Bytes)
      (discriminator : Option String)
  | commit (sessionId : Nat) (mode : StreamCommitMode)
  | rollback (sessionId : Nat)
  | read (route : String) (startOffset limit : Nat) (maxBytes : Option Nat)
      (streamFilter : Option (List StreamFilterClause))
      (cursorFingerprint capturedWatermark : Option Nat)
  | last (route : String)
  | getMetadata (route : String)
  | subscribe (pattern : String)
  | unsubscribe (pattern : String)
  deriving DecidableEq, Repr

namespace StreamRequest

def messageType : StreamRequest → Nat
  | begin .. => 600
  | append .. => 601
  | commit .. => 602
  | rollback .. => 603
  | read .. => 604
  | last .. => 605
  | getMetadata .. => 606
  | subscribe .. => 607
  | unsubscribe .. => 608

/-- `_encode_stream_filter_set` -/
def filterBytes : Option (List StreamFilterClause) → Except WireException Bytes
  | none | some [] => .ok []
  | some clauses => Request.build (StreamFilterClause.setWrites clauses)

/-- The encoded filter, if there is one. -/
def filterWrites (filter : Bytes) : List WireValue :=
  if filter = [] then [.u8 0] else .u8 1 :: blob filter

/-- The writes in front of the filter, and those behind it. -/
def readFront (route : String) (startOffset limit : Nat) (maxBytes : Option Nat) :
    List WireValue :=
  [string route, .u64 startOffset, .u64 limit] ++ optional (fun bytes => [.u64 bytes]) maxBytes

def readBack (cursorFingerprint capturedWatermark : Option Nat) : List WireValue :=
  [.optionalU64 cursorFingerprint, .optionalU64 capturedWatermark]

/-- The writes of every operation but `read_page`. -/
def writes : StreamRequest → List WireValue
  | begin route ingestMetadata => string route :: optional blob ingestMetadata
  | append sessionId expectedOffset body metadata discriminator =>
      .u64 sessionId :: .u64 expectedOffset :: blob body ++ optional blob metadata ++
        optional (fun value => [string value]) discriminator
  | commit sessionId mode => [.u64 sessionId, .u8 (if mode = .sync then 1 else 0)]
  | rollback sessionId => [.u64 sessionId]
  | read .. => []
  | last route => [string route]
  | getMetadata route => [string route]
  | subscribe pattern => [string pattern]
  | unsubscribe pattern => [string pattern]

def meaning : StreamRequest → StreamRequest
  | read route startOffset limit maxBytes streamFilter cursorFingerprint capturedWatermark =>
      read route startOffset limit maxBytes (some (streamFilter.getD [])) cursorFingerprint
        capturedWatermark
  | request => request

/-- `_assert_stream_route` -/
def checkRoute (route : String) : Except RequestException Unit :=
  require (isExactRouteShape (.ofString route) "stream" 3 = true) (invalidRoute .stream
    (s!"Invalid stream route: {route} " ++ "(expected stream://\x7brealm\x7d/\x7barea\x7d/" ++
      "\x7bresource\x7d, no empty segments or wildcards)"))

/-- `_assert_stream_pattern` -/
def checkPattern (pattern : String) : Except RequestException Unit :=
  require (StreamSelectors.assertStreamPattern (.ofString pattern) = .ok ()) (invalidRoute .stream
    (s!"Invalid stream pattern: {pattern} " ++ "(expected stream://\x7brealm\x7d/\x7barea\x7d/" ++
      "\x7bresource\x7d, stream://\x7brealm\x7d/\x7barea\x7d/*, or stream://\x7brealm\x7d/**)"))

def check : StreamRequest → Except RequestException Unit
  | begin route _ | last route | getMetadata route => checkRoute route
  | read route .. => checkPattern route
  | subscribe pattern => checkPattern pattern
  | append .. | commit .. | rollback .. | unsubscribe .. => .ok ()

end StreamRequest

inductive ScheduleRequest
  | create (entry : ScheduleEntry)
  | cancel (route : String)
  | list (cursor : Option String) (limit : Option Nat)
  | subscribe (route : String)
  | unsubscribe (route : String)
  | createBatch (entries : List ScheduleEntry)
  deriving DecidableEq, Repr

namespace ScheduleRequest

def messageType : ScheduleRequest → Nat
  | create .. => 700
  | cancel .. => 701
  | list .. => 702
  | subscribe .. => 703
  | unsubscribe .. => 704
  | createBatch .. => 706

def entryWrites (entry : ScheduleEntry) : List WireValue :=
  string entry.route :: string entry.cron ::
    .u8 (if entry.deliveryMode = .broadcast then 0 else 1) :: blob entry.payload

def writes : ScheduleRequest → List WireValue
  | create entry => entryWrites entry
  | cancel route => [string route]
  | list cursor limit => optional (fun cursor => [string cursor]) cursor ++ [.optionalU64 limit]
  | subscribe route => [string route]
  | unsubscribe route => [string route]
  | createBatch entries => counted entryWrites entries

/-- `_route` -/
def checkRoute (route : String) : Except RequestException Unit :=
  exactRoute .schedule "schedule" 4 "schedule route" route

def checkEntry (entry : ScheduleEntry) : Except RequestException Unit := do
  checkRoute entry.route
  require (entry.cron ≠ "") (.value "cron must not be empty")

def check : ScheduleRequest → Except RequestException Unit
  | create entry => checkEntry entry
  | cancel route => checkRoute route
  | list _ limit =>
      require (∀ items ∈ limit, items ≤ 1000) (.value "limit must be between 0 and 1000")
  | subscribe route => selectorRoute .schedule "schedule" 4 false "schedule pattern" route
  | unsubscribe .. => .ok ()
  -- the source checks each entry before it writes it
  | createBatch entries => entries.forM checkEntry

end ScheduleRequest

/-- A message of a client. -/
inductive Request
  | kv (request : KvRequest)
  | queue (request : QueueRequest)
  | rpc (request : RpcRequest)
  | lease (request : LeaseRequest)
  | notice (request : NoticeRequest)
  | stream (request : StreamRequest)
  | schedule (request : ScheduleRequest)
  deriving DecidableEq, Repr

namespace Request

def messageType : Request → Nat
  | kv request => request.messageType
  | queue request => request.messageType
  | rpc request => request.messageType
  | lease request => request.messageType
  | notice request => request.messageType
  | stream request => request.messageType
  | schedule request => request.messageType

/-- `ACK_REQUESTED` -/
def ackRequested : Nat := 1

def flags : Request → Nat
  | notice request => if request.acknowledged then ackRequested else 0
  | queue request => if request.ttlHours = none then 0 else WireExtensions.extensionsPresent
  | _ => 0

def payload : Request → Except WireException Bytes
  | kv request => build request.writes
  | queue request => do
      let core ← build request.writes
      WireExtensions.encodePayload core request.extensions
  | rpc request => build request.writes
  | lease request => build request.writes
  | notice request => build request.writes
  | stream (.read route startOffset limit maxBytes filter cursorFingerprint capturedWatermark) => do
      let writer ← (BufferWriter.new 128).writeAll
        (StreamRequest.readFront route startOffset limit maxBytes)
      let filter ← StreamRequest.filterBytes filter
      let writer ← writer.writeAll (StreamRequest.filterWrites filter ++
        StreamRequest.readBack cursorFingerprint capturedWatermark)
      return writer.build
  | stream request => build request.writes
  | schedule request => build request.writes

def check (capabilityIds : List Nat) : Request → Except RequestException Unit
  | kv request => request.check
  | queue request => request.check capabilityIds
  | rpc request => request.check
  | lease request => request.check
  | notice request => request.check
  | stream request => request.check
  | schedule request => request.check

/-- The frame of a message; a one-way message without a correlation id has 0. -/
def frame (request : Request) (correlationId : Nat) : Except WireException Bytes := do
  let payload ← request.payload
  FrameCodec.encodeFrame
    { messageType := request.messageType, flags := request.flags, correlationId, payload }

/-- An operation up to the send of its frame. -/
def submit (capabilityIds : List Nat) (request : Request) (correlationId : Nat) :
    Except RequestException Bytes := do
  request.check capabilityIds
  (request.frame correlationId).mapError .wire

/-- The message with its defaults spelled out. -/
def meaning : Request → Request
  | queue request => queue request.meaning
  | lease request => .lease request.meaning
  | stream request => .stream request.meaning
  | request => request

end Request

end FitzClient
