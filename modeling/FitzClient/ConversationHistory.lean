import FitzClient.Conversation

/-!
# The history of a conversation

The history of the broker is a sequential account of the messages of the client.
What is on the wires and in the multiplexer hangs together with it: a frame on its
way to the broker is that of its message and has not been performed, and a final
response is the answer to the request with its correlation id.
-/

namespace FitzClient

/-- The request that the multiplexer made for a message. -/
structure Submission.Issues (submission : Submission) (issued : IssuedRequest) : Prop where
  session : issued.session = submission.session
  correlationId : issued.pending.correlationId = submission.correlationId

namespace Conversation

variable {State : Type} {broker : Broker State} {conversation next : Conversation State}

/-- The messages whose frames have gone out and are not lost. -/
def handed (conversation : Conversation State) : List Origin :=
  conversation.outbound.map OutboundFrame.origin ++ conversation.executed.map Execution.origin

/-- The broker answered the request with this correlation id of the session. -/
def Answered (conversation : Conversation State) (session correlationId : Nat)
    (payload : Bytes) : Prop :=
  ∃ call submission execution, conversation.calls[call]? = some submission ∧
    submission.session = session ∧ submission.correlationId = correlationId ∧
    execution ∈ conversation.executed ∧ execution.origin = .call call ∧
    execution.answer = payload

/-- How the wires, the multiplexer and the history of the broker hang together. -/
structure Sound (broker : Broker State) (conversation : Conversation State) : Prop where
  correlated : conversation.mux.CorrelationInvariant
  length : conversation.calls.length = conversation.mux.requests.length
  issued : ∀ (call : Nat) (submission : Submission),
    conversation.calls[call]? = some submission →
      ∃ issued, conversation.mux.requests[call]? = some issued ∧ submission.Issues issued
  oneWay : ∀ submission ∈ conversation.messages, submission.request.awaitsReply = false
  framed : ∀ origin submission, conversation.submission origin = some submission →
    submission.request.submit submission.capabilityIds submission.correlationId =
      .ok submission.data
  underway : ∀ frame ∈ conversation.outbound, ∃ submission,
    conversation.submission frame.origin = some submission ∧
      frame.session = submission.session ∧ frame.data = submission.data
  performed : ∀ execution ∈ conversation.executed, ∃ submission,
    conversation.submission execution.origin = some submission ∧
      execution.query = submission.request.meaning
  once : conversation.handed.Nodup
  written : ∀ call, .call call ∈ conversation.handed →
    ∃ issued, conversation.mux.requests[call]? = some issued ∧ issued.written = true
  explained : broker.Explains conversation.executed conversation.service
  arriving : ∀ message ∈ conversation.inbound, ∀ frame,
    FrameCodec.readFrame message.data = .ok frame → FrameCodec.completes message.data = true →
      conversation.Answered message.session frame.correlationId frame.payload
  received : ∀ frame ∈ conversation.mux.received, frame.responseFinal = true →
    conversation.Answered frame.session frame.correlationId frame.payload

/-- Messages and executions are added behind those that there are. -/
structure Grows (conversation next : Conversation State) : Prop where
  calls : conversation.calls <+: next.calls
  messages : conversation.messages <+: next.messages
  executed : conversation.executed <+: next.executed

theorem Grows.refl (conversation : Conversation State) : conversation.Grows conversation :=
  ⟨List.prefix_rfl, List.prefix_rfl, List.prefix_rfl⟩

theorem Grows.trans {last : Conversation State} (first : conversation.Grows next)
    (second : next.Grows last) : conversation.Grows last :=
  ⟨first.calls.trans second.calls, first.messages.trans second.messages,
    first.executed.trans second.executed⟩

theorem Grows.submission (grows : conversation.Grows next) {origin : Origin}
    {submission : Submission} (found : conversation.submission origin = some submission) :
    next.submission origin = some submission := by
  cases origin with
  | call index => exact getElem?_of_isPrefix grows.calls found
  | message index => exact getElem?_of_isPrefix grows.messages found

theorem Grows.answered (grows : conversation.Grows next) {session correlationId : Nat}
    {payload : Bytes} (answered : conversation.Answered session correlationId payload) :
    next.Answered session correlationId payload := by
  obtain ⟨call, submission, execution, found, isSession, isId, performed, isCall, isAnswer⟩ :=
    answered
  exact ⟨call, submission, execution, getElem?_of_isPrefix grows.calls found, isSession, isId,
    grows.executed.subset performed, isCall, isAnswer⟩

theorem Sound.withMux (sound : conversation.Sound broker) {mux : Multiplexer}
    (correlated : mux.CorrelationInvariant) (goesOn : conversation.mux.AllGoOn mux)
    (received : ∀ frame ∈ mux.received, frame.responseFinal = true →
      conversation.Answered frame.session frame.correlationId frame.payload) :
    Sound broker { conversation with mux } where
  correlated := correlated
  length := sound.length.trans goesOn.length_eq
  issued call submission found := by
    obtain ⟨before, foundBefore, issues⟩ := sound.issued call submission found
    obtain ⟨after, foundAfter, goes⟩ := exists_of_forall₂_left goesOn foundBefore
    exact ⟨after, foundAfter, goes.session.trans issues.session,
      goes.correlationId.trans issues.correlationId⟩
  oneWay := sound.oneWay
  framed := sound.framed
  underway := sound.underway
  performed := sound.performed
  once := sound.once
  written call handed := by
    obtain ⟨before, foundBefore, written⟩ := sound.written call handed
    obtain ⟨after, foundAfter, goes⟩ := exists_of_forall₂_left goesOn foundBefore
    exact ⟨after, foundAfter, goes.written written⟩
  explained := sound.explained
  arriving := sound.arriving
  received := received

/-- What only takes a number from the multiplexer. -/
theorem Sound.number (sound : conversation.Sound broker) {mux : Multiplexer}
    {messageType correlationId : Nat} {payload : Bytes}
    (taken : numbered conversation.mux messageType payload = .ok (correlationId, mux)) :
    Sound broker { conversation with mux } := by
  unfold numbered at taken
  split_ifs at taken
  · have stepped : conversation.mux.step .oneWay = some mux := by
      simp only [Multiplexer.step, taken]
    refine sound.withMux (sound.correlated.step stepped)
      (Multiplexer.allGoOn_of_nextCorrelationId taken) ?_
    rw [Multiplexer.nextCorrelationId_eq_ok taken]
    exact sound.received
  · obtain ⟨-, rfl⟩ := Prod.mk.inj (Except.ok.inj taken)
    exact sound

/-- A frame is dispatched as it was read. -/
theorem receiveFrame_eq_some {mux next : Multiplexer} {data : Bytes}
    (correlated : mux.CorrelationInvariant) (received : mux.receiveFrame data = some next) :
    next.CorrelationInvariant ∧ mux.AllGoOn next ∧
      ∀ logged ∈ next.received, logged ∈ mux.received ∨
        ∃ frame, FrameCodec.readFrame data = .ok frame ∧ logged.session = mux.session ∧
          logged.correlationId = frame.correlationId ∧ logged.payload = frame.payload ∧
          (logged.responseFinal = true → FrameCodec.completes data = true) := by
  unfold Multiplexer.receiveFrame at received
  cases read : FrameCodec.readFrame data with
  | error error =>
      rw [read] at received
      obtain rfl := Option.some.inj received
      exact ⟨correlated, Multiplexer.allGoOn_of_requests_eq rfl, fun _ member => Or.inl member⟩
  | ok frame =>
      simp only [read] at received
      split_ifs at received with pushed
      · obtain rfl := Option.some.inj received
        exact ⟨correlated, Multiplexer.allGoOn_of_requests_eq rfl, fun _ member => Or.inl member⟩
      · obtain ⟨goesOn, grown⟩ := Multiplexer.receive_eq_some received
        refine ⟨correlated.step received, goesOn, fun logged member => ?_⟩
        rw [grown] at member
        rcases List.mem_append.mp member with old | new
        · exact Or.inl old
        · obtain rfl := List.mem_singleton.mp new
          refine Or.inr ⟨frame, rfl, rfl, rfl, rfl, fun final => ?_⟩
          simp only [FrameCodec.completes, read]
          simpa [pushed] using final

/-- An operation is submitted under the next correlation id. -/
theorem Sound.submit (sound : conversation.Sound broker) {submission : Submission}
    {mux : Multiplexer} {messageType : Nat} (usable : conversation.mux.usable = true)
    (issued : conversation.mux.issueRequest messageType = .ok mux)
    (session : submission.session = conversation.mux.session)
    (correlationId : submission.correlationId = conversation.mux.nextId)
    (framed : submission.request.submit submission.capabilityIds submission.correlationId =
      .ok submission.data) :
    Sound broker { conversation with mux, calls := conversation.calls ++ [submission] } := by
  have correlated := sound.correlated.issueRequest usable issued
  obtain ⟨-, rfl⟩ := Multiplexer.issueRequest_eq_ok issued
  have grows : conversation.Grows
      { conversation with calls := conversation.calls ++ [submission] } :=
    { Grows.refl conversation with calls := List.prefix_append _ _ }
  exact
    { correlated
      length := by simp [sound.length]
      issued := by
        intro call other found
        rcases getElem?_concat_eq_some.mp found with old | ⟨rfl, rfl⟩
        · obtain ⟨request, foundRequest, issues⟩ := sound.issued call other old
          exact ⟨request, getElem?_concat_eq_some.mpr (Or.inl foundRequest), issues⟩
        · exact ⟨_, getElem?_concat_eq_some.mpr (Or.inr ⟨sound.length, rfl⟩), session.symm,
            correlationId.symm⟩
      oneWay := sound.oneWay
      framed := by
        intro origin other found
        cases origin with
        | call index =>
            rcases getElem?_concat_eq_some.mp found with old | ⟨-, rfl⟩
            · exact sound.framed (.call index) other old
            · exact framed
        | message index => exact sound.framed (.message index) other found
      underway := by
        intro frame member
        obtain ⟨other, found, same⟩ := sound.underway frame member
        exact ⟨other, grows.submission found, same⟩
      performed := by
        intro execution member
        obtain ⟨other, found, same⟩ := sound.performed execution member
        exact ⟨other, grows.submission found, same⟩
      once := sound.once
      written := by
        intro call handed
        obtain ⟨request, found, written⟩ := sound.written call handed
        exact ⟨request, getElem?_concat_eq_some.mpr (Or.inl found), written⟩
      explained := sound.explained
      arriving := fun message member frame read final =>
        grows.answered (sound.arriving message member frame read final)
      received := fun frame member final => grows.answered (sound.received frame member final) }

theorem Sound.submission_of_handed (sound : conversation.Sound broker) {origin : Origin}
    (handed : origin ∈ conversation.handed) :
    ∃ submission, conversation.submission origin = some submission := by
  rcases List.mem_append.mp handed with outgoing | executed
  · obtain ⟨frame, member, rfl⟩ := List.mem_map.mp outgoing
    obtain ⟨submission, found, -⟩ := sound.underway frame member
    exact ⟨submission, found⟩
  · obtain ⟨execution, member, rfl⟩ := List.mem_map.mp executed
    obtain ⟨submission, found, -⟩ := sound.performed execution member
    exact ⟨submission, found⟩

/-- One more frame goes out. -/
theorem handed_concat (conversation : Conversation State) (frame : OutboundFrame) :
    List.Perm (handed { conversation with outbound := conversation.outbound ++ [frame] })
      (frame.origin :: conversation.handed) := by
  simp only [handed, List.map_append, List.map_cons, List.map_nil, List.append_assoc,
    List.cons_append, List.nil_append]
  exact List.perm_middle

/-- A message is sent one way. -/
theorem Sound.send (sound : conversation.Sound broker) {submission : Submission}
    (oneWay : submission.request.awaitsReply = false)
    (framed : submission.request.submit submission.capabilityIds submission.correlationId =
      .ok submission.data) :
    Sound broker { conversation with
      messages := conversation.messages ++ [submission]
      outbound := conversation.outbound ++ [{
        origin := .message conversation.messages.length
        session := submission.session
        data := submission.data }] } := by
  have grows : conversation.Grows
      { conversation with messages := conversation.messages ++ [submission] } :=
    { Grows.refl conversation with messages := List.prefix_append _ _ }
  have fresh : Origin.message conversation.messages.length ∉ conversation.handed := by
    intro handed
    obtain ⟨other, found⟩ := sound.submission_of_handed handed
    simp [Conversation.submission] at found
  have appears := conversation.handed_concat
    { origin := .message conversation.messages.length
      session := submission.session
      data := submission.data }
  exact
    { correlated := sound.correlated
      length := sound.length
      issued := sound.issued
      oneWay := by
        intro other member
        rcases List.mem_append.mp member with old | new
        · exact sound.oneWay other old
        · rw [List.mem_singleton.mp new]
          exact oneWay
      framed := by
        intro origin other found
        cases origin with
        | call index => exact sound.framed (.call index) other found
        | message index =>
            rcases getElem?_concat_eq_some.mp found with old | ⟨-, rfl⟩
            · exact sound.framed (.message index) other old
            · exact framed
      underway := by
        intro frame member
        rcases List.mem_append.mp member with old | new
        · obtain ⟨other, found, same⟩ := sound.underway frame old
          exact ⟨other, grows.submission found, same⟩
        · obtain rfl := List.mem_singleton.mp new
          exact ⟨submission, getElem?_concat_eq_some.mpr (Or.inr ⟨rfl, rfl⟩), rfl, rfl⟩
      performed := by
        intro execution member
        obtain ⟨other, found, same⟩ := sound.performed execution member
        exact ⟨other, grows.submission found, same⟩
      once := appears.nodup_iff.mpr (List.nodup_cons.mpr ⟨fresh, sound.once⟩)
      written := by
        intro call handed
        rcases List.mem_cons.mp (appears.mem_iff.mp handed) with new | old
        · cases new
        · exact sound.written call old
      explained := sound.explained
      arriving := fun message member frame read final =>
        grows.answered (sound.arriving message member frame read final)
      received := fun frame member final => grows.answered (sound.received frame member final) }

/-- The send task of a request writes its frame. -/
theorem Sound.write (sound : conversation.Sound broker) {call : Nat} {submission : Submission}
    {mux : Multiplexer} (found : conversation.calls[call]? = some submission)
    (wrote : conversation.mux.step (.write call) = some mux) :
    Sound broker { conversation with
      mux
      outbound := conversation.outbound ++ [{
        origin := .call call
        session := submission.session
        data := submission.data }] } := by
  obtain ⟨goesOn, received, ⟨before, foundBefore, unwritten⟩, after, foundAfter, isWritten⟩ :=
    Multiplexer.write_eq_some wrote
  have stepped : Sound broker { conversation with mux } := by
    refine sound.withMux (sound.correlated.step wrote) goesOn ?_
    rw [received]
    exact sound.received
  have fresh : Origin.call call ∉ conversation.handed := by
    intro handed
    obtain ⟨issued, foundIssued, written⟩ := sound.written call handed
    obtain rfl : before = issued := by simpa [foundBefore] using foundIssued
    rw [unwritten] at written
    cases written
  have appears := conversation.handed_concat
    { origin := .call call, session := submission.session, data := submission.data }
  exact
    { stepped with
      underway := by
        intro frame member
        rcases List.mem_append.mp member with old | new
        · exact sound.underway frame old
        · obtain rfl := List.mem_singleton.mp new
          exact ⟨submission, found, rfl, rfl⟩
      once := appears.nodup_iff.mpr (List.nodup_cons.mpr ⟨fresh, sound.once⟩)
      written := by
        intro other handed
        rcases List.mem_cons.mp (appears.mem_iff.mp handed) with new | old
        · obtain rfl := Origin.call.inj new
          exact ⟨after, foundAfter, isWritten⟩
        · exact stepped.written other old }

theorem awaitsReply_meaning (request : Request) :
    request.meaning.awaitsReply = request.awaitsReply := by
  rw [Request.awaitsReply, Request.awaitsReply, Request.contract_meaning]

/-- A response has no extensions and is not part of a handshake. -/
theorem readFrame_response {request : Request} {correlationId : Nat} {answer data : Bytes}
    (encoded : response request correlationId answer = .ok data) :
    FrameCodec.readFrame data = .ok
      { messageType := request.messageType
        flags := FrameCodec.responseFinal
        correlationId
        payload := answer } := by
  have plain : ¬ (WireExtensions.present FrameCodec.responseFinal = true ∨
      request.messageType = 2) := by
    rintro (present | handshake)
    · exact absurd present (by decide)
    · have hundred := request.messageType_div
      rw [handshake] at hundred
      cases request <;> simp [Request.domain] at hundred
  rw [FrameCodec.readFrame, FrameCodec.decodeFrame_eq_ok_iff.mpr encoded]
  exact if_neg plain

/-- The answers go back under the correlation id of the request. -/
theorem mem_replies {session correlationId : Nat} {request : Request} {answer : Bytes}
    {message : InboundFrame} (member : message ∈ replies session request correlationId answer) :
    request.awaitsReply = true ∧ message.session = session ∧
      ∀ frame, FrameCodec.readFrame message.data = .ok frame →
        frame.correlationId = correlationId ∧ frame.payload = answer := by
  unfold replies at member
  split_ifs at member with awaits
  · cases encoded : response request correlationId answer with
    | error error => simp [encoded] at member
    | ok data =>
        simp only [encoded, List.mem_singleton] at member
        subst member
        refine ⟨awaits, rfl, fun frame read => ?_⟩
        rw [readFrame_response encoded] at read
        obtain rfl := Except.ok.inj read
        exact ⟨rfl, rfl⟩
  · simp at member

/-- A frame that is performed moves from the wire to the history. -/
theorem handed_perform {index : Nat} {underway : OutboundFrame}
    (found : conversation.outbound[index]? = some underway) (request : Request)
    (answer : Bytes) :
    List.Perm (handed { conversation with
      outbound := conversation.outbound.eraseIdx index
      executed := conversation.executed ++ [⟨underway.origin, request, answer⟩] })
      conversation.handed := by
  obtain ⟨inside, rfl⟩ := List.getElem?_eq_some_iff.mp found
  have taken := (List.getElem_cons_eraseIdx_perm inside).map OutboundFrame.origin
  simp only [handed, List.map_append, List.map_cons, List.map_nil, ← List.append_assoc]
  refine (List.perm_append_singleton _ _).trans ?_
  rw [← List.cons_append]
  exact taken.append_right _

/-- The broker performs the message whose frame it has read. -/
theorem Sound.perform (sound : conversation.Sound broker) {index correlationId : Nat}
    {underway : OutboundFrame} (found : conversation.outbound[index]? = some underway)
    {capabilityIds : List Nat} {request : Request} (plain : request.meaning = request)
    (read : request.submit capabilityIds correlationId = .ok underway.data) :
    Sound broker { conversation with
      outbound := conversation.outbound.eraseIdx index
      inbound := conversation.inbound ++ replies underway.session request correlationId
        (broker.perform conversation.service request).1
      service := (broker.perform conversation.service request).2
      executed := conversation.executed ++
        [⟨underway.origin, request, (broker.perform conversation.service request).1⟩] } := by
  obtain ⟨submission, foundSubmission, sameSession, sameData⟩ :=
    sound.underway underway (List.mem_of_getElem? found)
  have framed := sound.framed underway.origin submission foundSubmission
  rw [← sameData] at framed
  obtain ⟨sameId, sameMeaning⟩ := Request.eq_of_submit_eq read framed
  rw [plain] at sameMeaning
  have moved := handed_perform found request (broker.perform conversation.service request).1
  have grows : conversation.Grows { conversation with
      executed := conversation.executed ++
        [⟨underway.origin, request, (broker.perform conversation.service request).1⟩] } :=
    { Grows.refl conversation with executed := List.prefix_append _ _ }
  exact
    { correlated := sound.correlated
      length := sound.length
      issued := sound.issued
      oneWay := sound.oneWay
      framed := sound.framed
      underway := fun frame member => sound.underway frame (List.mem_of_mem_eraseIdx member)
      performed := by
        intro execution member
        rcases List.mem_append.mp member with old | new
        · exact sound.performed execution old
        · rw [List.mem_singleton.mp new]
          exact ⟨submission, foundSubmission, sameMeaning⟩
      once := moved.nodup_iff.mpr sound.once
      written := fun call handed => sound.written call (moved.mem_iff.mp handed)
      explained := sound.explained.concat underway.origin request
      arriving := by
        intro message member frame readMessage final
        rcases List.mem_append.mp member with old | new
        · exact grows.answered (sound.arriving message old frame readMessage final)
        · obtain ⟨awaits, session, isReply⟩ := mem_replies new
          obtain ⟨isId, isAnswer⟩ := isReply frame readMessage
          rw [sameMeaning, awaitsReply_meaning] at awaits
          cases origin : underway.origin with
          | message position =>
              rw [origin] at foundSubmission
              have oneWay := sound.oneWay submission (List.mem_of_getElem? foundSubmission)
              rw [awaits] at oneWay
              cases oneWay
          | call call =>
              rw [origin] at foundSubmission
              exact ⟨call, submission, _, foundSubmission,
                sameSession.symm.trans session.symm, sameId.symm.trans isId.symm,
                List.mem_append_right _ List.mem_cons_self, rfl, isAnswer.symm⟩
      received := fun frame member final => grows.answered (sound.received frame member final) }

theorem Sound.push (sound : conversation.Sound broker) {session : Nat} {data : Bytes}
    (pushed : FrameCodec.completes data = false) :
    Sound broker { conversation with inbound := conversation.inbound ++ [{ session, data }] } :=
  { sound with
    arriving := by
      intro message member frame read final
      rcases List.mem_append.mp member with old | new
      · exact sound.arriving message old frame read final
      · obtain rfl := List.mem_singleton.mp new
        rw [pushed] at final
        cases final }

theorem Sound.lose (sound : conversation.Sound broker) (index : Nat) :
    Sound broker { conversation with outbound := conversation.outbound.eraseIdx index } := by
  have fewer : List.Sublist
      (handed { conversation with outbound := conversation.outbound.eraseIdx index })
      conversation.handed :=
    ((List.eraseIdx_sublist _ _).map _).append_right _
  exact
    { sound with
      underway := fun frame member => sound.underway frame (List.mem_of_mem_eraseIdx member)
      once := sound.once.sublist fewer
      written := fun call handed => sound.written call (fewer.subset handed) }

theorem Sound.drop (sound : conversation.Sound broker) (index : Nat) :
    Sound broker { conversation with inbound := conversation.inbound.eraseIdx index } :=
  { sound with
    arriving := fun message member => sound.arriving message (List.mem_of_mem_eraseIdx member) }

/-- The receive loop takes a frame of its session. -/
theorem Sound.deliver (sound : conversation.Sound broker) {index : Nat}
    {underway : InboundFrame} {mux : Multiplexer}
    (found : conversation.inbound[index]? = some underway)
    (session : underway.session = conversation.mux.session)
    (received : conversation.mux.receiveFrame underway.data = some mux) :
    Sound broker { conversation with mux, inbound := conversation.inbound.eraseIdx index } := by
  obtain ⟨correlated, goesOn, logs⟩ := receiveFrame_eq_some sound.correlated received
  refine (sound.withMux correlated goesOn fun frame member final => ?_).drop index
  rcases logs frame member with old | ⟨read, isFrame, isSession, isId, isPayload, completes⟩
  · exact sound.received frame old final
  · rw [isSession, isId, isPayload, ← session]
    exact sound.arriving underway (List.mem_of_getElem? found) read isFrame (completes final)

theorem sound_new (broker : Broker State) : Sound broker { service := broker.initial } where
  correlated := Multiplexer.correlationInvariant_new
  length := rfl
  issued := by simp
  oneWay := by simp
  framed origin submission found := by cases origin <;> simp [Conversation.submission] at found
  underway := by simp
  performed := by simp
  once := List.nodup_nil
  written := by simp [handed]
  explained := broker.explains_nil
  arriving := by simp
  received := by simp

/-- One transition keeps everything together and only adds to the history. -/
theorem Sound.step (sound : conversation.Sound broker) {action : ConversationAction}
    (stepped : step broker conversation action = some next) :
    next.Sound broker ∧ conversation.Grows next := by
  have same : conversation.Grows conversation := .refl conversation
  cases action with
  | submit capabilityIds request =>
      simp only [Conversation.step] at stepped
      split_ifs at stepped with ready
      split at stepped
      next data mux framed issued =>
        obtain rfl := Option.some.inj stepped
        exact ⟨sound.submit ready.2 issued rfl rfl framed,
          { same with calls := List.prefix_append _ _ }⟩
      next =>
        obtain rfl := Option.some.inj stepped
        exact ⟨sound, same⟩
  | send capabilityIds request =>
      simp only [Conversation.step] at stepped
      split_ifs at stepped with awaits
      split at stepped
      next checked built =>
        split at stepped
        next =>
          obtain rfl := Option.some.inj stepped
          exact ⟨sound, same⟩
        next correlationId mux taken =>
          split at stepped
          next =>
            obtain rfl := Option.some.inj stepped
            exact ⟨sound.number taken, { same with }⟩
          next data framed =>
            obtain rfl := Option.some.inj stepped
            have oneWay : request.awaitsReply = false := by simpa using awaits
            refine ⟨?_, { same with messages := List.prefix_append _ _ }⟩
            let submission : Submission :=
              { capabilityIds, request, correlationId, data
                session := conversation.mux.session }
            have submitted : submission.request.submit submission.capabilityIds
                submission.correlationId = .ok submission.data :=
              Request.submit_eq_ok_iff.mpr ⟨checked, framed⟩
            exact (sound.number taken).send oneWay submitted
      next =>
        obtain rfl := Option.some.inj stepped
        exact ⟨sound, same⟩
  | write call =>
      simp only [Conversation.step] at stepped
      split at stepped
      next submission mux found wrote =>
        obtain rfl := Option.some.inj stepped
        exact ⟨sound.write found wrote, { same with }⟩
      next => cases stepped
  | internal action =>
      simp only [Conversation.step] at stepped
      split_ifs at stepped with internal
      obtain ⟨mux, ran, rfl⟩ := Option.map_eq_some_iff.mp stepped
      obtain ⟨goesOn, received⟩ := Multiplexer.internal_eq_some internal ran
      refine ⟨sound.withMux (sound.correlated.step ran) goesOn ?_, { same with }⟩
      rw [received]
      exact sound.received
  | perform index capabilityIds request =>
      simp only [Conversation.step] at stepped
      split at stepped
      next => cases stepped
      next underway found =>
        split at stepped
        next => cases stepped
        next frame decoded =>
          split_ifs at stepped with read
          obtain rfl := Option.some.inj stepped
          exact ⟨sound.perform found read.1 read.2,
            { same with executed := List.prefix_append _ _ }⟩
  | push session data =>
      simp only [Conversation.step] at stepped
      split_ifs at stepped with completes
      obtain rfl := Option.some.inj stepped
      exact ⟨sound.push (by simpa using completes), { same with }⟩
  | deliver index =>
      simp only [Conversation.step] at stepped
      split at stepped
      next => cases stepped
      next underway found =>
        split_ifs at stepped with current
        obtain ⟨mux, received, rfl⟩ := Option.map_eq_some_iff.mp stepped
        exact ⟨sound.deliver found current received, { same with }⟩
  | lose index =>
      obtain rfl := Option.some.inj stepped
      exact ⟨sound.lose index, { same with }⟩
  | drop index =>
      obtain rfl := Option.some.inj stepped
      exact ⟨sound.drop index, { same with }⟩

/-- Everything hangs together in every reachable conversation. -/
theorem sound_of_reachable (reachable : (system broker).Reachable conversation) :
    conversation.Sound broker := by
  refine LabelledSystem.Invariant.of_reachable ⟨?_, ?_⟩ reachable
  · rintro conversation rfl
    exact sound_new broker
  · intro conversation action next sound _ stepped
    exact (sound.step stepped).1

/-- The history is never rewritten. -/
theorem grows_of_leads {first last : Conversation State}
    (reachable : (system broker).Reachable first)
    (leads : (system broker).LeadsUnder (fun _ _ => True) first last) :
    last.Sound broker ∧ first.Grows last := by
  let continues (last : Conversation State) : Prop := last.Sound broker ∧ first.Grows last
  have atFirst : continues first := ⟨sound_of_reachable reachable, .refl first⟩
  refine leads.induct ?_ atFirst
  rintro current action next ⟨sound, grows⟩ - stepped
  obtain ⟨soundNext, growsNext⟩ := sound.step stepped
  exact ⟨soundNext, grows.trans growsNext⟩

/-- The operation came to what the broker answered to it. -/
def TookEffect (conversation : Conversation State) (now call : Nat)
    (outcome : Except ResponseException Reply) : Prop :=
  ∃ execution ∈ conversation.executed, ∃ contract, execution.origin = .call call ∧
    execution.query.contract now = some contract ∧
    (∀ reply, outcome = .ok reply ↔ contract.Grants reply execution.answer) ∧
    ∀ error, contract.Refuses error execution.answer →
      outcome = .error (.domain (contract.raised error))

/-- The history of the broker explains the messages and results of its client, and
orders them as they followed one another from `first` to `last`. -/
structure Linearizable (broker : Broker State) (first last : Conversation State) : Prop where
  sequential : broker.Explains last.executed last.service
  once : (last.executed.map Execution.origin).Nodup
  meant : ∀ execution ∈ last.executed, ∃ submission,
    last.submission execution.origin = some submission ∧
      execution.query = submission.request.meaning
  returned : ∀ now call outcome, last.result now call = some outcome →
    last.TookEffect now call outcome
  inOrder : ∀ now call outcome later, first.result now call = some outcome →
    first.submission later = none → later ∈ last.executed.map Execution.origin →
      ListedBefore (last.executed.map Execution.origin) (.call call) later

theorem Sound.executed_nodup (sound : conversation.Sound broker) :
    (conversation.executed.map Execution.origin).Nodup :=
  sound.once.sublist (List.sublist_append_right _ _)

/-- A request that returned a payload was answered with it. -/
theorem Sound.execution_of_returned (sound : conversation.Sound broker) {call : Nat}
    {submission : Submission} {issued : IssuedRequest} {payload : Bytes}
    (found : conversation.calls[call]? = some submission)
    (foundIssued : conversation.mux.requests[call]? = some issued)
    (returned : issued.phase = .returned payload) :
    ∃ execution ∈ conversation.executed, execution.origin = .call call ∧
      execution.query = submission.request.meaning ∧ execution.answer = payload := by
  have accounted := sound.correlated.accounted call issued foundIssued
  obtain ⟨index, frame, answered, logged, rfl⟩ :=
    accounted.result payload (accounted.returned payload returned)
  obtain ⟨other, loggedOther, answers⟩ := accounted.answered index answered
  obtain rfl : frame = other := by simpa [logged] using loggedOther
  obtain ⟨target, targetSubmission, execution, foundTarget, isSession, isId, performed, isTarget,
    isAnswer⟩ := sound.received frame (List.mem_of_getElem? logged) answers.responseFinal
  -- the ids of a session are distinct, so the answer is that of this request
  obtain ⟨targetIssued, foundTargetIssued, issues⟩ :=
    sound.issued target targetSubmission foundTarget
  have same : target = call := by
    refine sound.correlated.ids_distinct target call targetIssued issued foundTargetIssued
      foundIssued ⟨?_, ?_⟩
    · rw [issues.session, isSession, answers.session]
    · rw [issues.correlationId, isId, answers.correlationId]
  subst same
  obtain ⟨origin, foundOrigin, meant⟩ := sound.performed execution performed
  rw [isTarget] at foundOrigin
  obtain rfl : submission = origin := Option.some.inj (found.symm.trans foundOrigin)
  exact ⟨execution, performed, isTarget, meant, isAnswer⟩

theorem Sound.tookEffect (sound : conversation.Sound broker) {now call : Nat}
    {outcome : Except ResponseException Reply}
    (result : conversation.result now call = some outcome) :
    conversation.TookEffect now call outcome := by
  unfold Conversation.result at result
  split at result
  next submission issued found foundIssued =>
    split at result
    next payload returned =>
      obtain ⟨contract, awaits, rfl⟩ := Option.map_eq_some_iff.mp result
      obtain ⟨execution, performed, isCall, meant, rfl⟩ :=
        sound.execution_of_returned found foundIssued returned
      refine ⟨execution, performed, contract, isCall, ?_,
        fun reply => ReplyContract.decode_eq_ok_iff,
        fun error => ReplyContract.decode_of_refuses (Request.consistent_contract awaits)⟩
      rw [meant, Request.contract_meaning, awaits]
    next => cases result
  next => cases result

/-- Whatever frames are delayed, reordered or lost, and however sessions end and
begin again, the broker performs every message at most once and with its meaning;
an operation that returns has taken effect and returns or raises the answer to
it; and what was submitted after it had returned is performed after it. -/
theorem linearizable_of_reachable {first last : Conversation State}
    (reachable : (system broker).Reachable first)
    (leads : (system broker).LeadsUnder (fun _ _ => True) first last) :
    Linearizable broker first last := by
  obtain ⟨sound, grows⟩ := grows_of_leads reachable leads
  have soundFirst := sound_of_reachable reachable
  refine ⟨sound.explained, sound.executed_nodup, sound.performed,
    fun now call outcome => sound.tookEffect, ?_⟩
  intro now call outcome later result unsubmitted listed
  obtain ⟨execution, performed, -, isCall, -⟩ := soundFirst.tookEffect result
  obtain ⟨more, whole⟩ := grows.executed
  rw [← whole, List.map_append] at listed ⊢
  refine listedBefore_of_grown (isCall ▸ List.mem_map_of_mem performed) ?_ listed
  intro already
  obtain ⟨submission, found⟩ := soundFirst.submission_of_handed
    (List.mem_append_right _ already)
  rw [unsubmitted] at found
  cases found

/-- A queue that numbers its items. -/
def numbering : Broker Nat where
  initial := 1
  perform next _ := (BigEndian.encode 1 0 ++ BigEndian.encode 8 next, next + 1)

/-- The job is put into a queue. -/
def enqueue (body : UInt8) (delay : Option Nat) : Request :=
  .queue (.enqueue "queue://r/a/j" [body] delay none)

/-- Two jobs are performed and answered in the opposite order. -/
theorem linearizable_of_reachable_swapped :
    ∃ conversation : Conversation Nat,
      (conversation.result 0 0 = some (.ok (.identifier 2)) ∧
        conversation.result 0 1 = some (.ok (.identifier 1))) ∧
      Linearizable numbering conversation conversation := by
  obtain ⟨conversation, reachable, results⟩ := (system numbering).exists_reachable_of_run rfl
    [.internal .hello, .internal .setConnected, .submit [] (enqueue 5 none),
      .submit [] (enqueue 6 none), .write 0, .write 1, .internal (.sendDone 0 .returned),
      .internal (.sendDone 1 .returned), .internal (.resume 0), .internal (.resume 1),
      .perform 1 [] (enqueue 6 (some 0)), .perform 0 [] (enqueue 5 (some 0)), .deliver 1,
      .deliver 0, .internal (.resume 0), .internal (.resume 1)]
    (fun conversation => decide (conversation.result 0 0 = some (.ok (.identifier 2)) ∧
      conversation.result 0 1 = some (.ok (.identifier 1)))) (by decide +kernel)
  exact ⟨conversation, of_decide_eq_true results,
    linearizable_of_reachable reachable Relation.ReflTransGen.refl⟩

end Conversation

end FitzClient
