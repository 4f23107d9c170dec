import FitzClient.ConnectionTasks
import FitzClient.FrameCodec
import FitzClient.Handshake
import FitzClient.RequestCeiling

/-!
# Messages that are too long

The length of a message is checked twice before the transport gets it:
`encode_frame` refuses what no frame may hold, and `_send_frame` refuses what
exceeds the negotiated limit.  The first refusal is a `CodecError`, which is
left to the caller.  The second one is a `FitzTransportError` like that of a
broken transport, and the handlers around the send take it for one.

A call is followed here from the point where it holds a slot of the gate until
it raises, and then the loss task that it scheduled until its first `await`.
-/

namespace FitzClient

/-- The parts of a client that a call of `request` or `send` touches. -/
structure WireClient where
  connection : Connection
  admission : RequestAdmission
  maxMessageBytes : Nat

/-- A call of `request` or of `send`. -/
inductive WireCall
  | request (messageType flags : Nat) (payload : Bytes)
  | send (messageType : Nat) (payload : Bytes)
  deriving DecidableEq, Repr

/-- How a call goes on when it has reached the transport, or ends before. -/
inductive WireEnd
  | handedOver
  | raised (error : WireException)
  | refused (error : RequestError)
  deriving DecidableEq, Repr

def WireCall.payload : WireCall → Bytes
  | .request _ _ payload | .send _ payload => payload

/-- `_one_way_needs_correlation` -/
def oneWayNeedsCorrelation (messageType : Nat) (payload : Bytes) : Bool :=
  if ¬ (300 ≤ messageType ∧ messageType ≤ 305) then
    false
  else if messageType = 303 ∨ messageType = 305 then
    false
  else if messageType = 304 then
    payload.take 1 = [1]
  else
    true

/-- How the handlers of `_issue_request` see an exception of the send. -/
def WireException.requestError : WireException → RequestError
  | .connection message => .fitzConnection message
  | _ => .other

namespace WireClient

/-- `_send_frame` up to the transport. -/
def sendFrame (client : WireClient) (frame : Bytes) : Except WireException Unit :=
  match client.connection.transport with
  | none => .error (.connection "No active transport")
  | some _ =>
      if client.maxMessageBytes < frame.length then
        .error (.transport (tooLong frame.length client.maxMessageBytes))
      else
        .ok ()

/-- `release()` -/
def release (client : WireClient) (holder : SlotHolder) : WireClient :=
  { client with admission := client.admission.release holder }

/-- `_schedule_connection_loss` -/
def scheduleConnectionLoss (client : WireClient) : WireClient :=
  { client with
    connection := (client.connection.step .scheduleLoss).getD client.connection }

/-- The send of this request raises, and `_issue_request` with it; `request`
releases its slot. -/
def failSend (client : WireClient) (request : Nat) (error : RequestError) : WireClient :=
  { client with
    admission :=
      ((client.admission.multiplex (.sendDone request (.raised error))).bind fun failed =>
        failed.runRequest request (.resume request)).getD client.admission }

/-- `request` with the slot `holder`. -/
def request (client : WireClient) (holder : SlotHolder) (messageType flags : Nat)
    (payload : Bytes) : WireEnd × WireClient :=
  match FrameCodec.encodeFrame { messageType, flags, correlationId := 0, payload } with
  | .error error => (.raised error, client.release holder)
  | .ok frame =>
      match client.admission.multiplexer.issueRequest messageType with
      | .error error => (.refused error, client.scheduleConnectionLoss.release holder)
      | .ok multiplexer =>
          let issued :=
            { client with
              admission :=
                { client.admission with
                  multiplexer
                  holders := client.admission.holders ++ [holder] } }
          match issued.sendFrame frame with
          | .ok () => (.handedOver, issued)
          | .error error =>
              (.raised error,
                (issued.failSend client.admission.multiplexer.requests.length
                  error.requestError).scheduleConnectionLoss)

/-- `send` with the slot `holder`. -/
def send (client : WireClient) (holder : SlotHolder) (messageType : Nat) (payload : Bytes) :
    WireEnd × WireClient :=
  let correlated :=
    if oneWayNeedsCorrelation messageType payload then
      client.admission.multiplexer.nextCorrelationId
    else
      .ok (0, client.admission.multiplexer)
  match correlated with
  | .error error => (.refused error, client.scheduleConnectionLoss.release holder)
  | .ok (correlationId, multiplexer) =>
      let numbered := { client with admission := { client.admission with multiplexer } }
      match FrameCodec.encodeFrame { messageType, flags := 0, correlationId, payload } with
      | .error error => (.raised error, numbered.release holder)
      | .ok frame =>
          match numbered.sendFrame frame with
          | .ok () => (.handedOver, numbered)
          | .error error => (.raised error, numbered.scheduleConnectionLoss.release holder)

def call (client : WireClient) (holder : SlotHolder) : WireCall → WireEnd × WireClient
  | .request messageType flags payload => client.request holder messageType flags payload
  | .send messageType payload => client.send holder messageType payload

/-- The loss task that a call scheduled runs up to its first `await`. -/
def settle (before after : WireClient) : WireClient :=
  if before.connection.lossTask = .idle ∧ after.connection.lossTask = .scheduled then
    { after with
      connection := after.connection.connectionLost .lossTask
      admission := after.admission.connectionLost }
  else
    after

/-- The exception is about the length of the message. -/
def Oversize (client : WireClient) (error : WireException) : Prop :=
  error = .codec s!"Message exceeds {FrameCodec.maxMessageSize} bytes" ∨
    ∃ length, error = .transport (tooLong length client.maxMessageBytes)

/-- Nothing but the call itself is affected: the connection is what it was, and
so are the other requests, the waiting calls and the closedness of every
gate. -/
structure Unaffected (before after : WireClient) : Prop where
  connection : after.connection = before.connection
  requests : ∀ (request : Nat) (issued : IssuedRequest),
    before.admission.multiplexer.requests[request]? = some issued →
      after.admission.multiplexer.requests[request]? = some issued
  correlated : ∀ correlationId, correlationId ≠ before.admission.multiplexer.nextId →
    after.admission.multiplexer.correlated.lookup correlationId =
      before.admission.multiplexer.correlated.lookup correlationId
  waiting : after.admission.waiting = before.admission.waiting
  gates : ∀ index : Nat, (after.admission.gates[index]?).map RequestGate.closed =
    (before.admission.gates[index]?).map RequestGate.closed
  maxMessageBytes : after.maxMessageBytes = before.maxMessageBytes

end WireClient

namespace RequestAdmission

/-- The first `count` requests, the waiting calls, the entries under other
correlation ids and the closedness of the gates are as before. -/
structure Spares (count correlationId : Nat) (before after : RequestAdmission) : Prop where
  requests : ∀ request : Nat, request < count →
    after.multiplexer.requests[request]? = before.multiplexer.requests[request]?
  correlated : ∀ other, other ≠ correlationId →
    after.multiplexer.correlated.lookup other = before.multiplexer.correlated.lookup other
  waiting : after.waiting = before.waiting
  gates : ∀ index : Nat, (after.gates[index]?).map RequestGate.closed =
    (before.gates[index]?).map RequestGate.closed

variable {count correlationId : Nat} {before middle after : RequestAdmission}

theorem Spares.refl (admission : RequestAdmission) :
    Spares count correlationId admission admission :=
  ⟨fun _ _ => rfl, fun _ _ => rfl, rfl, fun _ => rfl⟩

theorem Spares.trans (first : Spares count correlationId before middle)
    (second : Spares count correlationId middle after) :
    Spares count correlationId before after where
  requests request bound := (second.requests request bound).trans (first.requests request bound)
  correlated other different :=
    (second.correlated other different).trans (first.correlated other different)
  waiting := second.waiting.trans first.waiting
  gates index := (second.gates index).trans (first.gates index)

theorem spares_release (admission : RequestAdmission) (holder : SlotHolder) :
    Spares count correlationId admission (admission.release holder) := by
  unfold RequestAdmission.release
  cases found : admission.gates[holder.gate]? with
  | none => exact Spares.refl admission
  | some gate =>
      have closed : ((gate.release holder.token).getD gate).closed = gate.closed := by
        unfold RequestGate.release
        split
        · rfl
        · rfl
        · exact RequestGate.releaseSlot_closed _
      refine ⟨fun _ _ => rfl, fun _ _ => rfl, rfl, fun index => ?_⟩
      simp only [setGate, List.getElem?_set]
      split_ifs with same bound
      · subst same
        rw [found]
        exact congrArg some closed
      · rw [List.getElem?_eq_none (by omega)]
      · rfl

/-- A new request is registered behind the others under a new id. -/
theorem spares_issue {messageType : Nat} {multiplexer : Multiplexer}
    (issuing : before.multiplexer.issueRequest messageType = .ok multiplexer)
    (holders : List SlotHolder) :
    Spares before.multiplexer.requests.length before.multiplexer.nextId before
        { before with multiplexer, holders } ∧
      ∃ issued, multiplexer.requests[before.multiplexer.requests.length]? = some issued ∧
        issued.pending.correlationId = before.multiplexer.nextId := by
  obtain ⟨-, rfl⟩ := Multiplexer.issueRequest_eq_ok issuing
  refine ⟨⟨fun other bound => List.getElem?_append_left bound, fun other different => ?_, rfl,
    fun _ => rfl⟩, _, List.getElem?_concat_length, rfl⟩
  exact AList.lookup_insert_ne different

/-- A transition of a later request under its own correlation id. -/
theorem spares_taskStep {request : Nat} {issued : IssuedRequest}
    {outcome : IssuedRequest × CorrelationTable} {multiplexer : Multiplexer}
    (step : before.multiplexer.TaskStep multiplexer request issued outcome)
    (later : count ≤ request) (own : issued.pending.correlationId = correlationId) :
    Spares count correlationId before { before with multiplexer } := by
  obtain ⟨-, run, rfl⟩ := step
  refine ⟨fun other bound => ?_, fun other different => ?_, rfl, fun _ => rfl⟩
  · exact List.getElem?_set_ne (by omega)
  · exact (run.lookup other).resolve_right fun same => different (same.1.trans own)

/-- `runRequest` of a later request resumes it and may release its slot. -/
theorem spares_resume {request : Nat} {issued : IssuedRequest}
    (found : before.multiplexer.requests[request]? = some issued) (later : count ≤ request)
    (own : issued.pending.correlationId = correlationId)
    (resumed : before.runRequest request (.resume request) = some after) :
    Spares count correlationId before after := by
  obtain ⟨settled, multiplexed, rfl⟩ := Option.map_eq_some_iff.mp resumed
  obtain ⟨multiplexer, stepped, rfl⟩ := Option.map_eq_some_iff.mp multiplexed
  obtain ⟨issued', outcome, -, step⟩ :=
    Multiplexer.taskStep_of_runTask IssuedRequest.taskRun_resume stepped
  obtain rfl : issued = issued' := Option.some.inj (found.symm.trans step.found)
  have settledSpares := spares_taskStep step later own
  dsimp only
  split
  · exact settledSpares
  · split_ifs
    · exact settledSpares.trans (spares_release _ _)
    · exact settledSpares

end RequestAdmission

namespace WireClient

variable {client : WireClient} {count correlationId : Nat}

theorem scheduleConnectionLoss_admission (client : WireClient) :
    client.scheduleConnectionLoss.admission = client.admission := rfl

theorem spares_failSend (client : WireClient) {request : Nat} {issued : IssuedRequest}
    (found : client.admission.multiplexer.requests[request]? = some issued)
    (later : count ≤ request) (own : issued.pending.correlationId = correlationId)
    (error : RequestError) :
    RequestAdmission.Spares count correlationId client.admission
      (client.failSend request error).admission := by
  simp only [failSend]
  cases failing : client.admission.multiplex (.sendDone request (.raised error)) with
  | none => exact RequestAdmission.Spares.refl _
  | some failed =>
      obtain ⟨multiplexer, stepped, rfl⟩ := Option.map_eq_some_iff.mp failing
      have task : client.admission.multiplexer.runTask request
          (IssuedRequest.sendDone · (.raised error)) = some multiplexer := stepped
      obtain ⟨issued', outcome, -, step⟩ :=
        Multiplexer.taskStep_of_runTask IssuedRequest.taskRun_sendDone task
      obtain rfl : issued = issued' := Option.some.inj (found.symm.trans step.found)
      have sent := RequestAdmission.spares_taskStep step later own
      have foundAfter : multiplexer.requests[request]? = some outcome.1 := by
        obtain ⟨bound, -⟩ := List.getElem?_eq_some_iff.mp found
        rw [step.next_eq]
        exact List.getElem?_set_self bound
      cases resuming : RequestAdmission.runRequest { client.admission with multiplexer } request
          (.resume request) with
      | none =>
          simp only [Option.bind_some, resuming, Option.getD_none]
          exact RequestAdmission.Spares.refl _
      | some after =>
          simp only [Option.bind_some, resuming, Option.getD_some]
          exact sent.trans (RequestAdmission.spares_resume foundAfter later
            (step.run.continues.correlationId.trans own) resuming)

/-- What a call that raised about the length of its message has done: it has
spared everything else, and it has scheduled the loss of the connection exactly
if the codec had accepted the message. -/
structure Rejected (before after : WireClient) (payload : Bytes) : Prop where
  spares : RequestAdmission.Spares before.admission.multiplexer.requests.length
    before.admission.multiplexer.nextId before.admission after.admission
  maxMessageBytes : after.maxMessageBytes = before.maxMessageBytes
  loss : FrameCodec.maxMessageSize < FrameCodec.headerLen + payload.length ∧
      after.connection = before.connection ∨
    FrameCodec.headerLen + payload.length ≤ FrameCodec.maxMessageSize ∧
      before.connection.transport ≠ none ∧
      after.connection = before.scheduleConnectionLoss.connection

/-- The codec refuses a frame for its length only if it is too long. -/
theorem length_of_codec {frame : Frame} {error : WireException}
    (failed : FrameCodec.encodeFrame frame = .error error) (oversize : client.Oversize error) :
    FrameCodec.maxMessageSize < FrameCodec.headerLen + frame.payload.length := by
  have codec : ∃ text, error = .codec text ∧ (text.toList.head? = some 'M' →
      FrameCodec.maxMessageSize < FrameCodec.headerLen + frame.payload.length) := by
    simp only [FrameCodec.encodeFrame] at failed
    split_ifs at failed with wide flagged large long
    · exact ⟨_, (Except.error.inj failed).symm, by simp [toString]⟩
    · exact ⟨_, (Except.error.inj failed).symm, by simp [toString]⟩
    · exact ⟨_, (Except.error.inj failed).symm, by simp⟩
    · exact ⟨_, (Except.error.inj failed).symm, fun _ => long⟩
  obtain ⟨text, rfl, of_text⟩ := codec
  rcases oversize with same | ⟨length, same⟩
  · refine of_text ?_
    rw [WireException.codec.inj same]
    simp [toString]
  · cases same

theorem sendFrame_oversize {frame : Bytes} {error : WireException}
    (failed : client.sendFrame frame = .error error) (oversize : client.Oversize error) :
    client.connection.transport ≠ none := by
  intro missing
  rw [sendFrame, missing] at failed
  obtain rfl := Except.error.inj failed
  rcases oversize with same | ⟨length, same⟩ <;> cases same

theorem request_rejected {holder : SlotHolder} {messageType flags : Nat} {payload : Bytes}
    {error : WireException}
    (raised : (client.request holder messageType flags payload).1 = .raised error)
    (oversize : client.Oversize error) :
    Rejected client (client.request holder messageType flags payload).2 payload := by
  simp only [request] at raised ⊢
  cases encoded : FrameCodec.encodeFrame { messageType, flags, correlationId := 0, payload } with
  | error refused =>
      simp only [encoded] at raised ⊢
      obtain rfl := WireEnd.raised.inj raised
      exact ⟨RequestAdmission.spares_release _ _, rfl,
        Or.inl ⟨length_of_codec encoded oversize, rfl⟩⟩
  | ok frame =>
      obtain ⟨-, -, -, short, -⟩ := FrameCodec.encodeFrame_eq_ok_iff.mp encoded
      simp only [encoded] at raised ⊢
      cases issuing : client.admission.multiplexer.issueRequest messageType with
      | error refused =>
          simp only [issuing] at raised
          cases raised
      | ok multiplexer =>
          simp only [issuing] at raised ⊢
          obtain ⟨spares, issued, found, own⟩ := RequestAdmission.spares_issue issuing
            (client.admission.holders ++ [holder])
          split at raised
          · cases raised
          · rename_i refused failed
            obtain rfl := WireEnd.raised.inj raised
            refine ⟨spares.trans ?_, rfl,
              Or.inr ⟨short, sendFrame_oversize failed oversize, rfl⟩⟩
            rw [scheduleConnectionLoss_admission]
            let issuedAdmission : RequestAdmission :=
              { client.admission with
                multiplexer
                holders := client.admission.holders ++ [holder] }
            exact spares_failSend { client with admission := issuedAdmission } found le_rfl own _

theorem send_rejected {holder : SlotHolder} {messageType : Nat} {payload : Bytes}
    {error : WireException} (raised : (client.send holder messageType payload).1 = .raised error)
    (oversize : client.Oversize error) :
    Rejected client (client.send holder messageType payload).2 payload := by
  have spares : ∀ (correlationId : Nat) (multiplexer : Multiplexer),
      (if oneWayNeedsCorrelation messageType payload then
        client.admission.multiplexer.nextCorrelationId
      else
        .ok (0, client.admission.multiplexer)) = .ok (correlationId, multiplexer) →
      RequestAdmission.Spares client.admission.multiplexer.requests.length
        client.admission.multiplexer.nextId client.admission
        { client.admission with multiplexer } := by
    intro correlationId multiplexer numbered
    split_ifs at numbered
    · rw [Multiplexer.nextCorrelationId_eq_ok numbered]
      exact ⟨fun _ _ => rfl, fun _ _ => rfl, rfl, fun _ => rfl⟩
    · obtain ⟨-, rfl⟩ := Prod.mk.inj (Except.ok.inj numbered)
      exact RequestAdmission.Spares.refl _
  simp only [send] at raised ⊢
  generalize numbering : (if oneWayNeedsCorrelation messageType payload then
      client.admission.multiplexer.nextCorrelationId
    else
      .ok (0, client.admission.multiplexer)) = numbered at raised
  cases numbered with
  | error refused => cases raised
  | ok numbered =>
    obtain ⟨correlationId, multiplexer⟩ := numbered
    have numberedSpares := spares correlationId multiplexer numbering
    cases encoded : FrameCodec.encodeFrame { messageType, flags := 0, correlationId, payload } with
    | error refused =>
        simp only [encoded] at raised ⊢
        obtain rfl := WireEnd.raised.inj raised
        exact ⟨numberedSpares.trans (RequestAdmission.spares_release _ _), rfl,
          Or.inl ⟨length_of_codec encoded oversize, rfl⟩⟩
    | ok frame =>
        obtain ⟨-, -, -, short, -⟩ := FrameCodec.encodeFrame_eq_ok_iff.mp encoded
        simp only [encoded] at raised ⊢
        split at raised
        · cases raised
        · rename_i refused failed
          obtain rfl := WireEnd.raised.inj raised
          exact ⟨numberedSpares.trans (RequestAdmission.spares_release _ _), rfl,
            Or.inr ⟨short, sendFrame_oversize failed oversize, rfl⟩⟩

theorem call_rejected {holder : SlotHolder} {call : WireCall} {error : WireException}
    (raised : (client.call holder call).1 = .raised error) (oversize : client.Oversize error) :
    Rejected client (client.call holder call).2 call.payload := by
  cases call with
  | request messageType flags payload => exact request_rejected raised oversize
  | send messageType payload => exact send_rejected raised oversize

end WireClient

namespace Connection

variable {connection : Connection}

/-- Where `_connection_lost` does not return at once, it takes the transport. -/
theorem connectionLost_transport (authenticated : connection.state = .authenticated)
    (origin : LossOrigin) : (connection.connectionLost origin).transport = none := by
  have closeLost_none : ∀ (lost : Connection) (taken : Option Nat), lost.transport = none →
      (lost.closeLost origin taken).transport = none := by
    intro lost taken gone
    unfold closeLost
    split <;> exact gone
  unfold connectionLost
  rw [if_neg (by rw [authenticated]; decide)]
  split
  · split_ifs
    · exact closeLost_none _ _ rfl
    · rfl
  · exact closeLost_none _ _ rfl

end Connection

namespace WireClient

variable {client : WireClient}

/-- A call that raises because its message is too long leaves the session and
everything else alone exactly if the codec refuses the message, or a loss of
the connection is being handled already. -/
theorem oversize_unaffected_iff (client : WireClient) (holder : SlotHolder) (call : WireCall)
    (error : WireException) (authenticated : client.connection.state = .authenticated)
    (raised : (client.call holder call).1 = .raised error) (oversize : client.Oversize error) :
    client.Unaffected (client.settle (client.call holder call).2) ↔
      FrameCodec.maxMessageSize < FrameCodec.headerLen + call.payload.length ∨
        client.connection.lossTask ≠ .idle := by
  have rejected := call_rejected raised oversize
  generalize (client.call holder call).2 = after at rejected
  have of_connection : after.connection = client.connection → client.Unaffected after :=
    fun same => ⟨same,
      fun request issued found =>
        (rejected.spares.requests request (List.getElem?_eq_some_iff.mp found).1).trans found,
      rejected.spares.correlated, rejected.spares.waiting, rejected.spares.gates,
      rejected.maxMessageBytes⟩
  have scheduling : client.scheduleConnectionLoss.connection =
      if client.connection.lossTask = .idle then
        { client.connection with lossTask := .scheduled }
      else
        client.connection := by
    simp only [scheduleConnectionLoss, Connection.step]
    split_ifs <;> rfl
  rcases rejected.loss with ⟨long, same⟩ | ⟨short, present, scheduled⟩
  · have settled : client.settle after = after := by
      rw [settle, same, if_neg]
      rintro ⟨idle, busy⟩
      rw [idle] at busy
      cases busy
    rw [settled]
    exact ⟨fun _ => Or.inl long, fun _ => of_connection same⟩
  · rw [scheduling] at scheduled
    by_cases idle : client.connection.lossTask = .idle
    · -- the loss task takes the transport
      rw [if_pos idle] at scheduled
      have lost : client.settle after =
          { after with
            connection := after.connection.connectionLost .lossTask
            admission := after.admission.connectionLost } := by
        rw [settle, if_pos ⟨idle, by rw [scheduled]⟩]
      have stillAuthenticated : after.connection.state = .authenticated := by
        rw [scheduled]
        exact authenticated
      refine ⟨fun unaffected => absurd ?_ present, fun fine => ?_⟩
      · rw [← unaffected.connection, lost]
        exact Connection.connectionLost_transport stillAuthenticated _
      · rcases fine with long | busy
        · omega
        · exact absurd idle busy
    · -- `_schedule_connection_loss` finds a task that is not done
      rw [if_neg idle] at scheduled
      have settled : client.settle after = after := by
        rw [settle, if_neg fun both => idle both.1]
      rw [settled]
      exact ⟨fun _ => Or.inr idle, fun _ => of_connection scheduled⟩

/-- The actions by which a client connects. -/
def connecting : List ConnectionAction :=
  [.connect, .startConnect none, .resumeOpen .connect, .resumeOpen .connect, .receiveHello 0,
    .resumeOpen .connect]

/-- A client in its first session, in which a GET is pending and the next call
holds its slot. -/
def established (maxMessageBytes : Nat) : WireClient :=
  let admission := ((RequestAdmission.system 4 4).run
    { limit := 4, queueSize := 4, maxInFlight := 4, gates := [{ maximum := 4, queueSize := 4 }] }
    [.openTransport, .hello 4, .setConnected, .request 103]).getD
      { limit := 4, queueSize := 4, maxInFlight := 4, gates := [] }
  { connection := ((Connection.system {}).run { config := {} } connecting).getD { config := {} }
    admission := { admission with gates := admission.gates.map fun gate => gate.acquire.2 }
    maxMessageBytes }

/-- A PUT with a payload of 100 bytes. -/
def longPut : WireCall := .request 104 0 (List.replicate 100 0)

theorem oversize_unaffected_put :
    (established 64).Unaffected ((established 64).settle ((established 64).call ⟨2, 1⟩ longPut).2) ↔
      FrameCodec.maxMessageSize < FrameCodec.headerLen + longPut.payload.length ∨
        (established 64).connection.lossTask ≠ .idle :=
  oversize_unaffected_iff (established 64) ⟨2, 1⟩ longPut (.transport (tooLong 115 64))
    (by decide +kernel) (by decide +kernel) (Or.inr ⟨115, rfl⟩)

/-- A PUT that exceeds a negotiated limit of 64 bytes ends the session, and the
pending GET with it. -/
theorem session_lost_by_long_put :
    (Connection.system {}).run { config := {} } connecting = some (established 64).connection ∧
      (established 64).connection.state = .authenticated ∧
      ((established 64).call ⟨2, 1⟩ longPut).1 = .raised (.transport (tooLong 115 64)) ∧
      let settled := (established 64).settle ((established 64).call ⟨2, 1⟩ longPut).2
      settled.connection.state = .disconnected ∧
        (settled.admission.multiplexer.requests[0]?).map (·.pending.future) =
          some (some (.exception (.fitzConnection "Connection closed or reset"))) := by
  decide +kernel

end WireClient

end FitzClient
