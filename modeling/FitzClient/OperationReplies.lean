import FitzClient.ReplyFormats
import FitzClient.RequestPayloads

/-!
# Replies to the operations

An operation that awaits a reply is given the payload of one response.  Behind
the envelope it decodes the data in the format of the operation, and for an
error of the broker it raises an error of its domain.  Transactions read the
envelope themselves; every other operation has it read by the common parser.

Which format an operation uses depends on its arguments: a batch of queue items
carries their routes if the selector has a wildcard, and a page of a stream has
global offsets if the selector ranges over all realms.
-/

namespace FitzClient

open TokenReader ResponseReader

/-- What an operation returns. -/
inductive Reply
  | done
  | identifier (id : Nat)
  | value (found : Option Bytes)
  | scanPage (page : KvScanPage)
  | items (items : List QueueItem)
  | acquisition (responseType token : Nat)
  | leaseInfo (info : LeaseInfo)
  | leases (page : LeaseListPage)
  | offset (offset : Option Nat)
  | streamPage (page : StreamReadPage)
  | record (found : Option StreamRecord)
  | metadata (metadata : StreamMetadata)
  | schedules (page : ScheduleCursorPage)
  deriving DecidableEq, Repr

/-- How an operation takes its reply.  `fallback` says that an error without a
message is described by its code. -/
structure ReplyContract where
  domain : Domain
  operation : String
  fallback : Bool
  format : ReplyFormat Reply

namespace ReplyContract

/-- What the operation raises for an error of the broker. -/
def raised (contract : ReplyContract) (error : BrokerError) : DomainError :=
  if contract.fallback then
    domainError contract.domain contract.operation error.code error.message
      (some error.errorClass) (some error.effect)
  else
    { domain := contract.domain
      message := contract.operation ++ " failed: " ++ error.message
      reason := contract.operation
      domainCode := some error.code
      errorClass := some error.errorClass
      effect := some error.effect }

/-- What comes of an error response of the common parser. -/
def ofResponse (contract : ReplyContract) (response : Response) : Except ResponseException Reply :=
  match response.error with
  | none => contract.format.decode response.data
  | some message => .error (.domain (contract.raised
      { code := response.errorCode.getD 0
        errorClass := response.errorClass.getD 0
        effect := response.effect.getD 0
        message := message }))

/-- The part of an operation after its `await`. -/
def decode (contract : ReplyContract) (payload : Bytes) : Except ResponseException Reply :=
  if contract.domain = .kv then
    match KvStatus.status contract.operation payload with
    | .error error => .error error
    | .ok (_, data) => contract.format.decode data
  else
    match parseResponse payload with
    | .error error => .error (.wire error)
    | .ok response => contract.ofResponse response

/-- The text of an error is made in place, with the message as it is. -/
def inPlace (contract : ReplyContract) : ReplyContract :=
  { contract with fallback := false }

section Kinds

variable (domain : Domain) (operation : String)

/-- An operation that returns what it decodes. -/
def returning {Value : Type} (rename : Value → Reply) (format : ReplyFormat Value) :
    ReplyContract where
  domain := domain
  operation := operation
  fallback := true
  format := format.map rename

/-- An operation that returns nothing. -/
def done (format : ReplyFormat Unit) : ReplyContract :=
  returning domain operation (fun _ => .done) format

/-- An operation whose response has no data. -/
def confirmed : ReplyContract :=
  done domain operation (ReplyFormat.empty domain operation)

/-- An operation that returns an id or a token. -/
def identified (format : ReplyFormat Nat) : ReplyContract :=
  returning domain operation .identifier format

end Kinds

end ReplyContract

open ReplyContract (returning done confirmed identified)

namespace KvRequest

/-- An operation of which only the status is read. -/
def statusOnly (operation : String) : ReplyContract :=
  done .kv operation (.ignored ())

def contract : KvRequest → ReplyContract
  | begin .. => identified .kv "BEGIN"
      (ReplyFormat.number (malformed .kv "BEGIN response must contain one transaction id"))
  | commit .. => statusOnly "COMMIT"
  | rollback .. => statusOnly "ROLLBACK"
  | get .. => returning .kv "GET" .value ReplyFormat.kvGet
  | put .. => statusOnly "PUT"
  | insert .. => statusOnly "INSERT"
  | delete .. => statusOnly "DELETE"
  | deleteRange .. => statusOnly "DELETE_RANGE"
  | scan .. => returning .kv "SCAN" .scanPage ReplyFormat.kvScan
  | subscribe _ => identified .kv "SUBSCRIBE"
      (ReplyFormat.number (malformed .kv "SUBSCRIBE response missing id"))
  | unsubscribe _ => statusOnly "UNSUBSCRIBE"

end KvRequest

def QueueRequest.contract : QueueRequest → ReplyContract
  | enqueue .. => identified .queue "ENQUEUE"
      (ReplyFormat.number (malformed .queue "ENQUEUE response must contain one item id"))
  | reserve selector .. =>
      returning .queue "RESERVE" .items (ReplyFormat.queueReserve selector)
  | complete .. => (confirmed .queue "COMPLETE").inPlace
  | nack .. => (confirmed .queue "NACK").inPlace
  | extend .. => (confirmed .queue "EXTEND").inPlace
  | subscribe _ => (identified .queue "SUBSCRIBE" (ReplyFormat.markedId .queue)).inPlace
  | unsubscribe _ => (confirmed .queue "UNSUBSCRIBE").inPlace

/-- Requests, responses and cancellations are sent one way. -/
def RpcRequest.contract : RpcRequest → Option ReplyContract
  | subscribeWorker .. => some (done .rpc "SUBSCRIBE" (ReplyFormat.emptyRpc "SUBSCRIBE"))
  | unsubscribeWorker .. => some (done .rpc "UNSUBSCRIBE" (ReplyFormat.emptyRpc "UNSUBSCRIBE"))
  | request .. | response .. | cancel .. | acknowledge .. => none

/-- `now` is the time of `datetime.now(UTC)`, for the expiry of a lease that is
held. -/
def LeaseRequest.contract (now : Nat) : LeaseRequest → ReplyContract
  | acquire .. => returning .lease "ACQUIRE" (fun found => .acquisition found.1 found.2)
      ReplyFormat.acquisition
  | extend .. => identified .lease "EXTEND"
      (ReplyFormat.number (malformed .lease "EXTEND response must contain one fencing token"))
  | release .. => confirmed .lease "RELEASE"
  | query .. => returning .lease "QUERY" .leaseInfo (ReplyFormat.leaseInfo now)
  | subscribe _ => identified .lease "SUBSCRIBE"
      (ReplyFormat.number (malformed .lease "SUBSCRIBE response must contain one id"))
  | unsubscribe _ => confirmed .lease "UNSUBSCRIBE"
  | list .. => returning .lease "LIST" .leases ReplyFormat.leaseList

/-- A notice without an acknowledgement is sent one way. -/
def NoticeRequest.contract : NoticeRequest → Option ReplyContract
  | publish _ _ isAcknowledged =>
      if isAcknowledged then some (confirmed .notice "PUBLISH") else none
  | subscribe _ => some (identified .notice "SUBSCRIBE" (ReplyFormat.markedId .notice))
  | unsubscribe _ => some (confirmed .notice "UNSUBSCRIBE")
  | unsubscribeAll => some (confirmed .notice "UNSUBSCRIBE_ALL")

def StreamRequest.contract : StreamRequest → ReplyContract
  | begin .. => (identified .stream "BEGIN" ReplyFormat.streamBegin).inPlace
  | append .. => (returning .stream "APPEND" .offset ReplyFormat.streamAppend).inPlace
  | commit .. => (done .stream "COMMIT" ReplyFormat.streamCommit).inPlace
  | rollback _ => (confirmed .stream "ROLLBACK").inPlace
  | read route .. => returning .stream "READ" .streamPage (ReplyFormat.streamRead (.ofString route))
  | last route => (returning .stream "LAST" .record (ReplyFormat.streamLast route)).inPlace
  | getMetadata _ => (returning .stream "METADATA" .metadata ReplyFormat.streamMetadata).inPlace
  | subscribe _ => (identified .stream "SUBSCRIBE" ReplyFormat.streamSubId).inPlace
  | unsubscribe _ => (confirmed .stream "UNSUBSCRIBE").inPlace

def ScheduleRequest.contract : ScheduleRequest → ReplyContract
  | create _ => (confirmed .schedule "CREATE").inPlace
  | cancel _ => (confirmed .schedule "CANCEL").inPlace
  | list .. => returning .schedule "LIST_V2" .schedules ReplyFormat.scheduleList
  | subscribe _ => (identified .schedule "SUBSCRIBE" (ReplyFormat.markedId .schedule)).inPlace
  | unsubscribe _ => (confirmed .schedule "UNSUBSCRIBE").inPlace
  | createBatch _ => confirmed .schedule "CREATE_BATCH"

/-- How the operation of a message takes its reply, if it awaits one. -/
def Request.contract (now : Nat) : Request → Option ReplyContract
  | kv request => some request.contract
  | queue request => some request.contract
  | rpc request => request.contract
  | lease request => some (request.contract now)
  | notice request => request.contract
  | stream request => some request.contract
  | schedule request => some request.contract

namespace ReplyContract

variable {contract : ReplyContract}

/-- The response to a request that failed. -/
def Refuses (contract : ReplyContract) (error : BrokerError) (payload : Bytes) : Prop :=
  error.Fits ∧ (contract.domain = .kv ∨ error.Known) ∧ payload = error.layout

/-- The response with this reply. -/
def Grants (contract : ReplyContract) (reply : Reply) (payload : Bytes) : Prop :=
  ∃ data, payload = BigEndian.encode 1 0 ++ data ∧ contract.format.Encodes reply data

theorem decode_eq_ok_iff {payload : Bytes} {reply : Reply} :
    contract.decode payload = .ok reply ↔ contract.Grants reply payload := by
  unfold decode Grants
  split_ifs with isKv
  · cases read : KvStatus.status contract.operation payload with
    | error error =>
        refine iff_of_false nofun ?_
        rintro ⟨data, whole, -⟩
        rw [KvStatus.status_eq_ok_iff.mpr whole] at read
        cases read
    | ok found =>
        obtain ⟨⟨⟩, data⟩ := found
        obtain rfl := KvStatus.status_eq_ok_iff.mp read
        simp only [contract.format.exact, List.append_cancel_left_eq, exists_eq_left']
  · cases parsed : parseResponse payload with
    | error error =>
        refine iff_of_false nofun ?_
        rintro ⟨data, whole, -⟩
        rw [parseResponse_eq_ok_iff.mpr (Or.inl ⟨data, whole, rfl⟩)] at parsed
        cases parsed
    | ok response =>
        rcases parseResponse_eq_ok_iff.mp parsed with ⟨data, rfl, rfl⟩ | ⟨error, -, -, rfl, rfl⟩
        · simp only [ofResponse, contract.format.exact, List.append_cancel_left_eq,
            exists_eq_left']
        · refine iff_of_false nofun ?_
          rintro ⟨data, whole, -⟩
          exact KvStatus.layout_ne_success whole

/-- A transaction describes an error without a message by its code. -/
def Consistent (contract : ReplyContract) : Prop :=
  contract.domain = .kv → contract.fallback = true

/-- An error of the broker is raised with everything that it says. -/
theorem decode_of_refuses (consistent : contract.Consistent) {error : BrokerError}
    {payload : Bytes} (refuses : contract.Refuses error payload) :
    contract.decode payload = .error (.domain (contract.raised error)) := by
  obtain ⟨fits, known, rfl⟩ := refuses
  unfold decode
  split_ifs with isKv
  · have read : KvStatus.readStatus contract.operation error.layout = .ok (some error, []) :=
      KvStatus.readStatus_eq_ok_iff.mpr (Or.inr ⟨error, fits, rfl, rfl, rfl⟩)
    have raises : KvStatus.status contract.operation error.layout =
        .error (.domain (KvStatus.raised contract.operation error)) := by
      rw [KvStatus.status, TokenReader.bind_of_ok read]
      rfl
    rw [raises, raised, if_pos (consistent isKv), isKv]
    rfl
  · rw [parseResponse_eq_ok_iff.mpr (Or.inr ⟨error, fits, known.resolve_left isKv, rfl, rfl⟩)]
    rfl

/-- A payload that goes on after another one repeats it, or that one had no data. -/
theorem delimited_payloads (delimited : contract.format.Delimited) {payload more : Bytes}
    {first second : Reply} (isFirst : contract.Grants first payload)
    (isSecond : contract.Grants second (payload ++ more)) :
    more = [] ∨ payload = BigEndian.encode 1 0 := by
  obtain ⟨data, rfl, encodes⟩ := isFirst
  obtain ⟨other, same, alsoEncodes⟩ := isSecond
  rw [List.append_assoc] at same
  obtain rfl := List.append_cancel_left same
  refine (delimited data more first second encodes alsoEncodes).imp_right fun none => ?_
  rw [none, List.append_nil]

theorem strict_payloads (strict : contract.format.Strict) {payload more : Bytes}
    {first second : Reply} (isFirst : contract.Grants first payload)
    (isSecond : contract.Grants second (payload ++ more)) : more = [] := by
  obtain ⟨data, rfl, encodes⟩ := isFirst
  obtain ⟨other, same, alsoEncodes⟩ := isSecond
  rw [List.append_assoc] at same
  obtain rfl := List.append_cancel_left same
  exact strict data more first second encodes alsoEncodes

section Kinds

variable {domain : Domain} {operation : String}

theorem strict_inPlace (strict : contract.format.Strict) : contract.inPlace.format.Strict :=
  strict

theorem strict_returning {Value : Type} {rename : Value → Reply} {format : ReplyFormat Value}
    (strict : format.Strict) : (returning domain operation rename format).format.Strict :=
  strict.map rename

theorem strict_confirmed : (confirmed domain operation).format.Strict :=
  strict_returning (TokenFormat.strict_nothing _)

theorem strict_number {wrong : DomainError} :
    (identified domain operation (ReplyFormat.number wrong)).format.Strict :=
  strict_returning (TokenFormat.strict_ofSized exact_readU64 ReplyFormat.length_encode64 _)

theorem strict_markedId {other : Domain} :
    (identified domain operation (ReplyFormat.markedId other)).format.Strict :=
  strict_returning (TokenFormat.strict_ofReader (ReplyFormat.exact_readMarkedId other) _)

end Kinds

end ReplyContract

/-- The operations of which only the status is read. -/
def KvRequest.isStatusOnly : KvRequest → Bool
  | begin .. | get .. | scan .. | subscribe .. => false
  | commit .. | rollback .. | put .. | insert .. | delete .. | deleteRange .. | unsubscribe .. =>
      true

namespace Request

variable {now : Nat} {request : Request} {contract : ReplyContract}

def isStatusOnly : Request → Bool
  | kv request => request.isStatusOnly
  | _ => false

/-- The operations that make something of a response without data. -/
def acceptsNoData : Request → Bool
  | queue (.reserve ..) => true
  | stream (.append ..) => true
  | stream (.read ..) => true
  | stream (.last ..) => true
  | stream (.getMetadata ..) => true
  | _ => false

/-- The defaults that a client fills in make no difference to the reply. -/
theorem contract_meaning (now : Nat) (request : Request) :
    request.meaning.contract now = request.contract now := by
  cases request with
  | queue request => cases request <;> rfl
  | lease request => cases request <;> rfl
  | stream request => cases request <;> rfl
  | _ => rfl

open ReplyContract

theorem format_cases (awaits : request.contract now = some contract) :
    request.isStatusOnly = true ∨ contract.format.Strict ∨
      request.acceptsNoData = true ∧ contract.format.Delimited := by
  cases request with
  | kv request =>
      obtain rfl := Option.some.inj awaits
      cases request with
      | begin => exact Or.inr (Or.inl strict_number)
      | subscribe => exact Or.inr (Or.inl strict_number)
      | get => exact Or.inr (Or.inl (strict_returning (TokenFormat.strict_ofReader _ _)))
      | scan => exact Or.inr (Or.inl (strict_returning (TokenFormat.strict_ofReader _ _)))
      | _ => exact Or.inl rfl
  | queue request =>
      obtain rfl := Option.some.inj awaits
      cases request with
      | enqueue => exact Or.inr (Or.inl strict_number)
      | reserve selector =>
          exact Or.inr (Or.inr ⟨rfl, (ReplyFormat.delimited_queueReserve selector).map _⟩)
      | subscribe => exact Or.inr (Or.inl (strict_inPlace strict_markedId))
      | _ => exact Or.inr (Or.inl (strict_inPlace strict_confirmed))
  | rpc request =>
      cases request with
      | subscribeWorker =>
          obtain rfl := Option.some.inj awaits
          exact Or.inr (Or.inl (strict_returning (ReplyFormat.strict_emptyRpc _)))
      | unsubscribeWorker =>
          obtain rfl := Option.some.inj awaits
          exact Or.inr (Or.inl (strict_returning (ReplyFormat.strict_emptyRpc _)))
      | _ => cases awaits
  | lease request =>
      obtain rfl := Option.some.inj awaits
      cases request with
      | acquire => exact Or.inr (Or.inl (strict_returning ReplyFormat.strict_acquisition))
      | extend => exact Or.inr (Or.inl strict_number)
      | subscribe => exact Or.inr (Or.inl strict_number)
      | query => exact Or.inr (Or.inl (strict_returning (TokenFormat.strict_ofReader _ _)))
      | list => exact Or.inr (Or.inl (strict_returning (TokenFormat.strict_ofReader _ _)))
      | _ => exact Or.inr (Or.inl strict_confirmed)
  | notice request =>
      cases request with
      | publish route body isAcknowledged =>
          cases isAcknowledged with
          | false => cases awaits
          | true =>
              obtain rfl := Option.some.inj awaits
              exact Or.inr (Or.inl strict_confirmed)
      | subscribe =>
          obtain rfl := Option.some.inj awaits
          exact Or.inr (Or.inl strict_markedId)
      | _ =>
          obtain rfl := Option.some.inj awaits
          exact Or.inr (Or.inl strict_confirmed)
  | stream request =>
      obtain rfl := Option.some.inj awaits
      cases request with
      | begin =>
          exact Or.inr (Or.inl (strict_inPlace (strict_returning ReplyFormat.strict_streamBegin)))
      | append => exact Or.inr (Or.inr ⟨rfl,
          (((TokenFormat.strict_ofReader exact_readBlob _).map _).orEmpty _).map _⟩)
      | commit => exact Or.inr (Or.inl (strict_inPlace
          (strict_returning ((TokenFormat.strict_ofReader exact_readBlob _).map _))))
      | read route => exact Or.inr (Or.inr ⟨rfl, (ReplyFormat.delimited_streamRead _).map _⟩)
      | last route => exact Or.inr (Or.inr ⟨rfl,
          (((TokenFormat.strict_ofReader (StreamPage.exact_readRecord route false) _).map
            _).orEmpty _).map _⟩)
      | getMetadata => exact Or.inr (Or.inr ⟨rfl,
          (((TokenFormat.strict_ofReader MetadataFields.exact_read _).map _).orEmpty _).map _⟩)
      | subscribe => exact Or.inr (Or.inl (strict_inPlace (strict_returning
          (TokenFormat.strict_ofReader ReplyFormat.exact_readStreamSubId _))))
      | _ => exact Or.inr (Or.inl strict_confirmed)
  | schedule request =>
      obtain rfl := Option.some.inj awaits
      cases request with
      | list => exact Or.inr (Or.inl (strict_returning (TokenFormat.strict_ofReader _ _)))
      | subscribe => exact Or.inr (Or.inl (strict_inPlace strict_markedId))
      | _ => exact Or.inr (Or.inl strict_confirmed)

theorem consistent_contract (awaits : request.contract now = some contract) :
    contract.Consistent := by
  cases request with
  | kv request =>
      obtain rfl := Option.some.inj awaits
      cases request <;> exact fun _ => rfl
  | queue request =>
      obtain rfl := Option.some.inj awaits
      cases request <;> rintro ⟨⟩
  | rpc request =>
      cases request <;> cases awaits <;> rintro ⟨⟩
  | lease request =>
      obtain rfl := Option.some.inj awaits
      cases request <;> rintro ⟨⟩
  | notice request =>
      cases request with
      | publish route body isAcknowledged =>
          cases isAcknowledged with
          | false => cases awaits
          | true =>
              obtain rfl := Option.some.inj awaits
              rintro ⟨⟩
      | _ =>
          obtain rfl := Option.some.inj awaits
          rintro ⟨⟩
  | stream request =>
      obtain rfl := Option.some.inj awaits
      cases request <;> rintro ⟨⟩
  | schedule request =>
      obtain rfl := Option.some.inj awaits
      cases request <;> rintro ⟨⟩

/-- An operation of any domain returns a value from the encodings of this value, and
from nothing else; it raises every error of the broker; and a payload goes on
after another one only where the operation does not look at the data, or where no
data has a meaning of its own. -/
theorem reply_exact (awaits : request.contract now = some contract) :
    (∀ payload reply, contract.decode payload = .ok reply ↔ contract.Grants reply payload) ∧
    (∀ payload error, contract.Refuses error payload →
      contract.decode payload = .error (.domain (contract.raised error))) ∧
    ∀ payload more reply other, more ≠ [] → contract.Grants reply payload →
      contract.Grants other (payload ++ more) → request.isStatusOnly = true ∨
        request.acceptsNoData = true ∧ payload = BigEndian.encode 1 0 := by
  refine ⟨fun payload reply => decode_eq_ok_iff,
    fun payload error => decode_of_refuses (consistent_contract awaits),
    fun payload more reply other goesOn grants longer => ?_⟩
  rcases format_cases awaits with statusOnly | strict | ⟨noData, delimited⟩
  · exact Or.inl statusOnly
  · exact (goesOn (strict_payloads strict grants longer)).elim
  · exact Or.inr ⟨noData, (delimited_payloads delimited grants longer).resolve_left goesOn⟩

/-- The subscription 1 to the leases of an area. -/
theorem reply_exact_subscribe :
    ((LeaseRequest.subscribe "lease://r/a/*").contract 0).decode [0, 0, 0, 0, 0, 0, 0, 0, 1] =
      .ok (.identifier 1) := by
  have exact := @reply_exact 0 (.lease (.subscribe "lease://r/a/*")) _ rfl
  exact (exact.1 _ _).mpr ⟨[0, 0, 0, 0, 0, 0, 0, 1], rfl, 1, ⟨by decide, by decide⟩, rfl⟩

end Request

end FitzClient
