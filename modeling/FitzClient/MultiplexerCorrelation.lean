import FitzClient.IndexedCells
import FitzClient.RequestTask

/-!
# Responses belong to their requests

Correlation ids restart in every session, and a request that has given up may
leave a tombstone behind.  The argument that a response nevertheless reaches
its own request rests on the correlation table: while a request is registered
it belongs to the current session, its id is its own, and no frame has
answered it.  The table is empty when the ids restart, because a session is
greeted only after a reset and no request is issued between its HELLO and
`set_connected`.
-/

namespace FitzClient

namespace Multiplexer

/-- A transition of one request task: a cell is replaced by a later state of
the same call. -/
structure TaskStep (mux next : Multiplexer) (request : Nat) (before : IssuedRequest)
    (outcome : IssuedRequest × CorrelationTable) : Prop where
  found : mux.requests[request]? = some before
  run : TaskRun before mux.correlated outcome
  next_eq : next =
    { mux with correlated := outcome.2, requests := mux.requests.set request outcome.1 }

theorem taskStep_of_runTask {mux next : Multiplexer} {request : Nat}
    {task : IssuedRequest → CorrelationTable → Option (IssuedRequest × CorrelationTable)}
    (taskRun : ∀ {issued correlated outcome}, task issued correlated = some outcome →
      TaskRun issued correlated outcome)
    (stepped : mux.runTask request task = some next) :
    ∃ before outcome, task before mux.correlated = some outcome ∧
      mux.TaskStep next request before outcome := by
  unfold runTask at stepped
  cases found : mux.requests[request]? with
  | none => simp [found] at stepped
  | some before =>
      rw [found] at stepped
      obtain ⟨outcome, ran, rfl⟩ := Option.map_eq_some_iff.mp stepped
      exact ⟨before, outcome, ran, found, taskRun ran, rfl⟩

end Multiplexer

/-- A frame received at `index` is a final response to this call: it carries
its correlation id and arrived in its session after its registration. -/
structure CorrelatedFrame.Answers (frame : CorrelatedFrame) (index : Nat)
    (issued : IssuedRequest) : Prop where
  responseFinal : frame.responseFinal = true
  correlationId : frame.correlationId = issued.pending.correlationId
  session : frame.session = issued.session
  registered : issued.registeredAt ≤ index

/-- What is known of a single request in a reachable state. -/
structure IssuedRequest.Accounted (issued : IssuedRequest) (session nextId : Nat)
    (received : List CorrelatedFrame) : Prop where
  session_le : issued.session ≤ session
  fresh : issued.session = session → issued.pending.correlationId < nextId
  registeredAt_le : issued.registeredAt ≤ received.length
  answered : ∀ index, issued.answeredBy = some index →
    ∃ frame, received[index]? = some frame ∧ frame.Answers index issued
  result : ∀ payload, issued.pending.future = some (.result payload) →
    ∃ index frame, issued.answeredBy = some index ∧ received[index]? = some frame ∧
      frame.payload = payload
  returned : ∀ payload, issued.phase = .returned payload →
    issued.pending.future = some (.result payload)

/-- What is known of the request registered under an id: it belongs to the
current session, owns the id, and no frame has answered it. -/
structure IssuedRequest.RegisteredIn (issued : IssuedRequest) (session correlationId : Nat) :
    Prop where
  correlationId_eq : issued.pending.correlationId = correlationId
  session_eq : issued.session = session
  unanswered : issued.answeredBy = none

namespace Multiplexer

/-- Two calls of one session with the same correlation id. -/
def SameId (first second : IssuedRequest) : Prop :=
  first.session = second.session ∧
    first.pending.correlationId = second.pending.correlationId

/-- Two calls answered by the same frame. -/
def SameAnswer (first second : IssuedRequest) : Prop :=
  ∃ index, first.answeredBy = some index ∧ second.answeredBy = some index

structure CorrelationInvariant (mux : Multiplexer) : Prop where
  accounted : ∀ (request : Nat) (issued : IssuedRequest),
    mux.requests[request]? = some issued →
      issued.Accounted mux.session mux.nextId mux.received
  registered : ∀ correlationId request, mux.correlated.lookup correlationId = some request →
    mux.protocolVersion ≠ 0 ∧
      ∃ issued, mux.requests[request]? = some issued ∧
        issued.RegisteredIn mux.session correlationId
  greeted : mux.greeted = true → mux.usable = false →
    ∀ correlationId, mux.correlated.lookup correlationId = none
  ids_distinct : PairwiseUnlike mux.requests SameId
  answers_distinct : PairwiseUnlike mux.requests SameAnswer

end Multiplexer

namespace IssuedRequest

theorem RegisteredIn.continues {before after : IssuedRequest} {session correlationId : Nat}
    (registered : before.RegisteredIn session correlationId)
    (continues : before.Continues after) : after.RegisteredIn session correlationId where
  correlationId_eq := continues.correlationId.trans registered.correlationId_eq
  session_eq := continues.session.trans registered.session_eq
  unanswered := continues.answeredBy.trans registered.unanswered

variable {session nextId : Nat} {received : List CorrelatedFrame}

theorem Accounted.continues {before after : IssuedRequest} {laterSession laterId : Nat}
    (accounted : before.Accounted session nextId received) (continues : before.Continues after)
    (session_le : session ≤ laterSession)
    (fresh : before.session = laterSession → before.session = session ∧ nextId ≤ laterId) :
    after.Accounted laterSession laterId received where
  session_le := by
    rw [continues.session]
    exact Nat.le_trans accounted.session_le session_le
  fresh current := by
    rw [continues.session] at current
    obtain ⟨old, nextId⟩ := fresh current
    rw [continues.correlationId]
    exact Nat.lt_of_lt_of_le (accounted.fresh old) nextId
  registeredAt_le := by
    rw [continues.registeredAt]
    exact accounted.registeredAt_le
  answered index answered := by
    rw [continues.answeredBy] at answered
    obtain ⟨frame, logged, answers⟩ := accounted.answered index answered
    exact ⟨frame, logged, answers.responseFinal,
      answers.correlationId.trans continues.correlationId.symm,
      answers.session.trans continues.session.symm,
      continues.registeredAt ▸ answers.registered⟩
  result payload resolved := by
    rw [continues.answeredBy]
    exact accounted.result payload (continues.result payload resolved)
  returned payload returned := by
    rcases continues.returned payload returned with resolved | ⟨before, kept⟩
    · exact resolved
    · exact kept (accounted.returned payload before)

/-- The history only grows. -/
theorem Accounted.logFrame {issued : IssuedRequest}
    (accounted : issued.Accounted session nextId received) (frame : CorrelatedFrame) :
    issued.Accounted session nextId (received ++ [frame]) where
  session_le := accounted.session_le
  fresh := accounted.fresh
  registeredAt_le := by
    have registeredAt_le := accounted.registeredAt_le
    rw [List.length_append]
    omega
  answered index answered := by
    obtain ⟨old, logged, answers⟩ := accounted.answered index answered
    exact ⟨old, getElem?_concat_eq_some.mpr (Or.inl logged), answers⟩
  result payload resolved := by
    obtain ⟨index, old, answered, logged, same⟩ := accounted.result payload resolved
    exact ⟨index, old, answered, getElem?_concat_eq_some.mpr (Or.inl logged), same⟩
  returned := accounted.returned

/-- Settling a future changes nothing else. -/
theorem settle_eq (issued : IssuedRequest) (outcome : ResponseFuture) :
    issued.settle outcome = { issued with pending := { issued.pending with
      future := (issued.settle outcome).pending.future } } := by
  unfold settle
  split <;> rfl

/-- The call that a final frame answers. -/
theorem Accounted.answer {issued : IssuedRequest}
    (accounted : issued.Accounted session nextId received)
    (unanswered : issued.answeredBy = none) {frame : CorrelatedFrame}
    (answers : frame.Answers received.length issued) :
    Accounted { issued.settle (.result frame.payload) with answeredBy := some received.length }
      session nextId (received ++ [frame]) := by
  have logged : (received ++ [frame])[received.length]? = some frame := by simp
  have later := accounted.logFrame frame
  have unresolved : ∀ payload, issued.pending.future ≠ some (.result payload) := by
    intro payload resolved
    obtain ⟨index, -, answered, -⟩ := accounted.result payload resolved
    simp [unanswered] at answered
  rw [settle_eq]
  exact
    { session_le := later.session_le
      fresh := later.fresh
      registeredAt_le := later.registeredAt_le
      answered := by
        intro index answered
        obtain rfl : received.length = index := by simpa using answered
        exact ⟨frame, logged, answers.responseFinal, answers.correlationId, answers.session,
          answers.registered⟩
      result := by
        intro payload resolved
        refine ⟨_, frame, rfl, logged, ?_⟩
        change (issued.settle _).pending.future = _ at resolved
        unfold settle at resolved
        split at resolved
        · simpa using resolved
        · exact (unresolved payload resolved).elim
      returned := fun payload returned =>
        (unresolved payload (accounted.returned payload returned)).elim }

end IssuedRequest

namespace Multiplexer

theorem issueRequest_eq_ok {mux next : Multiplexer} {messageType : Nat}
    (issued : mux.issueRequest messageType = .ok next) :
    mux.protocolVersion ≠ 0 ∧
      next = { mux with
        nextId := mux.nextId + 1
        correlated := mux.correlated.insert mux.nextId mux.requests.length
        requests := mux.requests ++ [{
          messageType
          pending := { correlationId := mux.nextId }
          session := mux.session
          registeredAt := mux.received.length }] } := by
  unfold issueRequest nextCorrelationId at issued
  split_ifs at issued with enabled exhausted
  · simp [Except.map] at issued
  · obtain rfl := by simpa [Except.map] using issued
    refine ⟨?_, rfl⟩
    rintro disabled
    simp [correlationEnabled, disabled] at enabled

theorem sameId_of_continues {first second firstAfter secondAfter : IssuedRequest}
    (firstContinues : first.Continues firstAfter)
    (secondContinues : second.Continues secondAfter)
    (same : SameId firstAfter secondAfter) : SameId first second := by
  obtain ⟨session, correlationId⟩ := same
  rw [firstContinues.session, secondContinues.session] at session
  rw [firstContinues.correlationId, secondContinues.correlationId] at correlationId
  exact ⟨session, correlationId⟩

theorem sameAnswer_of_continues {first second firstAfter secondAfter : IssuedRequest}
    (firstContinues : first.Continues firstAfter)
    (secondContinues : second.Continues secondAfter)
    (same : SameAnswer firstAfter secondAfter) : SameAnswer first second := by
  obtain ⟨index, firstAnswered, secondAnswered⟩ := same
  rw [firstContinues.answeredBy] at firstAnswered
  rw [secondContinues.answeredBy] at secondAnswered
  exact ⟨index, firstAnswered, secondAnswered⟩

/-- Every call of `next` is a later state of the same call of `mux`. -/
def AllContinue (mux next : Multiplexer) : Prop :=
  List.Forall₂ IssuedRequest.Continues mux.requests next.requests

theorem TaskStep.allContinue {mux next : Multiplexer} {request : Nat} {before : IssuedRequest}
    {outcome : IssuedRequest × CorrelationTable}
    (step : mux.TaskStep next request before outcome) : mux.AllContinue next := by
  rw [AllContinue, step.next_eq]
  exact forall₂_set IssuedRequest.Continues.refl step.found step.run.continues

/-- The calls went on in the same session and registrations only left the
table. -/
structure Narrows (mux next : Multiplexer) : Prop where
  continues : mux.AllContinue next
  session : next.session = mux.session
  nextId : mux.nextId ≤ next.nextId
  received : next.received = mux.received
  enabled : mux.protocolVersion ≠ 0 → next.protocolVersion ≠ 0
  greeted : next.greeted = true → next.usable = false →
    ∀ correlationId, mux.correlated.lookup correlationId = none
  lookup : ∀ correlationId request, next.correlated.lookup correlationId = some request →
    mux.correlated.lookup correlationId = some request

theorem CorrelationInvariant.taskStep_narrows {mux next : Multiplexer} {request : Nat}
    {before : IssuedRequest} {outcome : IssuedRequest × CorrelationTable}
    (invariant : mux.CorrelationInvariant)
    (step : mux.TaskStep next request before outcome) : mux.Narrows next := by
  have continues := step.allContinue
  obtain ⟨-, run, rfl⟩ := step
  refine ⟨continues, rfl, le_rfl, rfl, id, invariant.greeted, ?_⟩
  intro correlationId other found
  rcases run.lookup correlationId with same | ⟨-, gone⟩
  · exact same ▸ found
  · simp [gone] at found

theorem CorrelationInvariant.narrows {mux next : Multiplexer}
    (invariant : mux.CorrelationInvariant) (narrows : mux.Narrows next) :
    next.CorrelationInvariant where
  accounted request after found := by
    obtain ⟨before, foundBefore, continues⟩ :=
      exists_of_forall₂_right narrows.continues found
    rw [narrows.received]
    exact (invariant.accounted request before foundBefore).continues continues
      (Nat.le_of_eq narrows.session.symm)
      fun current => ⟨current.trans narrows.session, narrows.nextId⟩
  registered correlationId request found := by
    obtain ⟨enabled, before, foundBefore, registered⟩ :=
      invariant.registered correlationId request (narrows.lookup _ _ found)
    obtain ⟨after, foundAfter, continues⟩ :=
      exists_of_forall₂_left narrows.continues foundBefore
    exact ⟨narrows.enabled enabled, after, foundAfter,
      narrows.session ▸ registered.continues continues⟩
  greeted isGreeted unusable correlationId := by
    cases found : next.correlated.lookup correlationId with
    | none => rfl
    | some request =>
        have old := narrows.lookup correlationId request found
        simp [narrows.greeted isGreeted unusable] at old
  ids_distinct := invariant.ids_distinct.of_forall₂ narrows.continues sameId_of_continues
  answers_distinct :=
    invariant.answers_distinct.of_forall₂ narrows.continues sameAnswer_of_continues

/-- A new session begins with an empty table. -/
structure Resets (mux next : Multiplexer) : Prop where
  continues : mux.AllContinue next
  session : next.session = mux.session + 1
  received : next.received = mux.received
  empty : ∀ correlationId, next.correlated.lookup correlationId = none

theorem CorrelationInvariant.resets {mux next : Multiplexer}
    (invariant : mux.CorrelationInvariant) (resets : mux.Resets next) :
    next.CorrelationInvariant where
  accounted request after found := by
    obtain ⟨before, foundBefore, continues⟩ :=
      exists_of_forall₂_right resets.continues found
    have accounted := invariant.accounted request before foundBefore
    rw [resets.received]
    refine accounted.continues continues (by rw [resets.session]; omega) ?_
    intro current
    have := accounted.session_le
    have := resets.session
    omega
  registered correlationId request found := by
    simp [resets.empty] at found
  greeted _ _ := resets.empty
  ids_distinct := invariant.ids_distinct.of_forall₂ resets.continues sameId_of_continues
  answers_distinct :=
    invariant.answers_distinct.of_forall₂ resets.continues sameAnswer_of_continues

/-- What `_issue_request` registers. -/
theorem CorrelationInvariant.issueRequest {mux next : Multiplexer} {messageType : Nat}
    (invariant : mux.CorrelationInvariant) (usable : mux.usable = true)
    (issued : mux.issueRequest messageType = .ok next) : next.CorrelationInvariant := by
  obtain ⟨enabled, rfl⟩ := issueRequest_eq_ok issued
  have outside : mux.requests[mux.requests.length]? = none := by simp
  have idsBelow : ∀ (request : Nat) (old : IssuedRequest), mux.requests[request]? = some old →
      old.session = mux.session → old.pending.correlationId ≠ mux.nextId :=
    fun request old found current =>
      Nat.ne_of_lt ((invariant.accounted request old found).fresh current)
  exact
    { accounted := by
        intro request cell found
        rcases getElem?_concat_eq_some.mp found with old | ⟨-, rfl⟩
        · exact (invariant.accounted request cell old).continues (IssuedRequest.Continues.refl cell)
            le_rfl fun current => ⟨current, Nat.le_succ _⟩
        · exact
            { session_le := le_rfl
              fresh := fun _ => Nat.lt_succ_self _
              registeredAt_le := le_rfl
              answered := by simp
              result := by simp
              returned := by simp }
      registered := by
        intro correlationId request found
        rcases Dictionary.lookup_insert_eq_some.mp found with ⟨rfl, rfl⟩ | ⟨-, old⟩
        · exact ⟨enabled, _, getElem?_concat_eq_some.mpr (Or.inr ⟨rfl, rfl⟩), rfl, rfl, rfl⟩
        · obtain ⟨-, cell, foundCell, registered⟩ :=
            invariant.registered correlationId request old
          exact ⟨enabled, cell, getElem?_concat_eq_some.mpr (Or.inl foundCell),
            registered.correlationId_eq, registered.session_eq, registered.unanswered⟩
      greeted := by
        intro _ unusable
        simp [usable] at unusable
      ids_distinct := by
        refine invariant.ids_distinct.concat fun request old found => ⟨?_, ?_⟩
        · rintro ⟨session, correlationId⟩
          exact idsBelow request old found session correlationId
        · rintro ⟨session, correlationId⟩
          exact idsBelow request old found session.symm correlationId.symm
      answers_distinct := by
        refine invariant.answers_distinct.concat fun request old found => ⟨?_, ?_⟩
        · rintro ⟨index, -, answered⟩
          simp at answered
        · rintro ⟨index, answered, -⟩
          simp at answered }

/-- A frame that answers no request only extends the history. -/
theorem CorrelationInvariant.logFrame {mux : Multiplexer} (invariant : mux.CorrelationInvariant)
    (frame : CorrelatedFrame) : (mux.logFrame frame).CorrelationInvariant where
  accounted request issued found := (invariant.accounted request issued found).logFrame frame
  registered := invariant.registered
  greeted := invariant.greeted
  ids_distinct := invariant.ids_distinct
  answers_distinct := invariant.answers_distinct

/-- A final response takes one request out of the table and answers it. -/
def answer (mux : Multiplexer) (frame : CorrelatedFrame) (request : Nat) : Multiplexer :=
  { mux with
    correlated := mux.correlated.erase frame.correlationId
    requests := mux.requests.modify request fun issued =>
      { issued.settle (.result frame.payload) with answeredBy := some mux.received.length }
    received := mux.received ++ [frame] }

theorem CorrelationInvariant.answer {mux : Multiplexer} (invariant : mux.CorrelationInvariant)
    {frame : CorrelatedFrame} {request : Nat}
    (found : mux.correlated.lookup frame.correlationId = some request)
    (final : frame.responseFinal = true) (session : frame.session = mux.session) :
    (mux.answer frame request).CorrelationInvariant := by
  obtain ⟨enabled, target, foundTarget, registered⟩ :=
    invariant.registered frame.correlationId request found
  have answers : frame.Answers mux.received.length target :=
    { responseFinal := final
      correlationId := registered.correlationId_eq.symm
      session := session.trans registered.session_eq.symm
      registered := (invariant.accounted request target foundTarget).registeredAt_le }
  have sameEntries : List.Forall₂
      (fun before after : IssuedRequest => after.session = before.session ∧
        after.pending.correlationId = before.pending.correlationId)
      mux.requests (mux.requests.modify request fun issued =>
        { issued.settle (.result frame.payload) with
          answeredBy := some mux.received.length }) := by
    refine forall₂_modify (fun _ => ⟨rfl, rfl⟩) (fun issued => ?_) mux.requests request
    rw [IssuedRequest.settle_eq]
    exact ⟨rfl, rfl⟩
  have answeredBefore : ∀ (other : Nat) (issued : IssuedRequest),
      mux.requests[other]? = some issued → issued.answeredBy ≠ some mux.received.length := by
    intro other issued foundOther answered
    obtain ⟨old, logged, -⟩ :=
      (invariant.accounted other issued foundOther).answered _ answered
    simp at logged
  exact
    { accounted := by
        intro other issued foundOther
        obtain ⟨before, foundBefore, rfl⟩ := getElem?_modify_eq_some.mp foundOther
        have accounted := invariant.accounted other before foundBefore
        split_ifs with same
        · subst same
          obtain rfl : target = before := by simpa [foundTarget] using foundBefore
          exact accounted.answer registered.unanswered answers
        · exact accounted.logFrame frame
      registered := by
        intro correlationId other foundOther
        obtain ⟨different, old⟩ := Dictionary.lookup_erase_eq_some.mp foundOther
        obtain ⟨-, issued, foundIssued, otherRegistered⟩ :=
          invariant.registered correlationId other old
        have unequal : request ≠ other := by
          rintro rfl
          obtain rfl : target = issued := by simpa [foundTarget] using foundIssued
          exact different
            (otherRegistered.correlationId_eq.symm.trans registered.correlationId_eq)
        exact ⟨enabled, issued,
          getElem?_modify_eq_some.mpr ⟨issued, foundIssued, by rw [if_neg unequal]⟩,
          otherRegistered⟩
      greeted := by
        intro isGreeted unusable correlationId
        have empty := invariant.greeted isGreeted unusable frame.correlationId
        simp [found] at empty
      ids_distinct := by
        refine invariant.ids_distinct.of_forall₂ sameEntries ?_
        rintro first second firstAfter secondAfter ⟨firstSession, firstId⟩
          ⟨secondSession, secondId⟩ ⟨sameSession, sameId⟩
        rw [firstSession, secondSession] at sameSession
        rw [firstId, secondId] at sameId
        exact ⟨sameSession, sameId⟩
      answers_distinct := by
        rintro first second firstIssued secondIssued foundFirst foundSecond
          ⟨index, firstAnswered, secondAnswered⟩
        obtain ⟨firstBefore, oldFirst, rfl⟩ := getElem?_modify_eq_some.mp foundFirst
        obtain ⟨secondBefore, oldSecond, rfl⟩ := getElem?_modify_eq_some.mp foundSecond
        split_ifs at firstAnswered secondAnswered with sameFirst sameSecond sameSecond
        · exact sameFirst.symm.trans sameSecond
        · obtain rfl : mux.received.length = index := by simpa using firstAnswered
          exact (answeredBefore second secondBefore oldSecond secondAnswered).elim
        · obtain rfl : mux.received.length = index := by simpa using secondAnswered
          exact (answeredBefore first firstBefore oldFirst firstAnswered).elim
        · exact invariant.answers_distinct first second firstBefore secondBefore oldFirst
            oldSecond ⟨index, firstAnswered, secondAnswered⟩ }

theorem allContinue_of_requests_eq {mux next : Multiplexer}
    (same : next.requests = mux.requests) : mux.AllContinue next := by
  rw [AllContinue, same]
  exact List.forall₂_same.mpr fun issued _ => IssuedRequest.Continues.refl issued

theorem nextCorrelationId_eq_ok {mux next : Multiplexer} {correlationId : Nat}
    (taken : mux.nextCorrelationId = .ok (correlationId, next)) :
    next = { mux with nextId := mux.nextId + 1 } := by
  unfold nextCorrelationId at taken
  split_ifs at taken
  obtain ⟨-, rfl⟩ := Prod.mk.inj (Except.ok.inj taken)
  rfl

theorem continues_settle_exception (issued : IssuedRequest) (error : RequestError) :
    issued.Continues (issued.settle (.exception error)) := by
  unfold IssuedRequest.settle
  split
  next pending =>
    exact ⟨rfl, rfl, rfl, rfl, by simp, fun _ returned => Or.inr ⟨returned, by simp [pending]⟩⟩
  next => exact IssuedRequest.Continues.refl issued

theorem setDisconnected_resets (mux : Multiplexer) : mux.Resets mux.setDisconnected where
  continues := by
    refine forall₂_mapIdx (fun request issued => ?_) mux.requests
    split_ifs
    · exact continues_settle_exception issued _
    · exact IssuedRequest.Continues.refl issued
  session := rfl
  received := rfl
  empty _ := rfl

/-- Everything that a transition can do to the table and its requests. -/
inductive Effect (mux next : Multiplexer) : Prop
  | narrows (narrows : mux.Narrows next)
  | resets (resets : mux.Resets next)
  | issued (messageType : Nat) (usable : mux.usable = true)
      (registered : mux.issueRequest messageType = .ok next)
  | unanswered (frame : CorrelatedFrame) (logged : next = mux.logFrame frame)
  | answered (frame : CorrelatedFrame) (request : Nat)
      (found : mux.correlated.lookup frame.correlationId = some request)
      (final : frame.responseFinal = true) (session : frame.session = mux.session)
      (logged : next = mux.answer frame request)

theorem effect_of_receive {mux next : Multiplexer} {correlationId messageType : Nat}
    {payload : Bytes} {responseFinal : Bool}
    (stepped : mux.step (.receive correlationId messageType payload responseFinal) = some next) :
    mux.Effect next := by
  simp only [step, dispatchCorrelated] at stepped
  cases found : mux.correlated.lookup correlationId with
  | none =>
      simp only [found] at stepped
      exact .unanswered _ (Option.some.inj stepped).symm
  | some request =>
      cases responseFinal with
      | false =>
          simp only [found] at stepped
          exact .unanswered _ (Option.some.inj stepped).symm
      | true =>
          simp only [found] at stepped
          exact .answered
            { correlationId, messageType, payload, responseFinal := true,
              session := mux.session } request found rfl rfl (Option.some.inj stepped).symm

theorem CorrelationInvariant.effect {mux next : Multiplexer} {action : MultiplexerAction}
    (invariant : mux.CorrelationInvariant) (stepped : mux.step action = some next) :
    mux.Effect next := by
  have task : ∀ {request : Nat} {task}, (∀ {issued correlated outcome},
      task issued correlated = some outcome → TaskRun issued correlated outcome) →
      mux.runTask request task = some next → mux.Effect next := by
    intro request task taskRun ran
    obtain ⟨_, _, -, taskStep⟩ := taskStep_of_runTask taskRun ran
    exact .narrows (invariant.taskStep_narrows taskStep)
  have unchanged : mux.Narrows mux :=
    ⟨allContinue_of_requests_eq rfl, rfl, le_rfl, rfl, id, invariant.greeted, fun _ _ => id⟩
  cases action with
  | leave =>
      obtain rfl := Option.some.inj stepped
      exact .narrows
        { unchanged with
          greeted := by simp }
  | hello =>
      simp only [Multiplexer.step] at stepped
      split_ifs at stepped with fresh
      obtain rfl := Option.some.inj stepped
      have empty : ∀ correlationId, mux.correlated.lookup correlationId = none := by
        intro correlationId
        cases found : mux.correlated.lookup correlationId with
        | none => rfl
        | some request => exact ((invariant.registered _ _ found).1 fresh).elim
      exact .narrows
        { unchanged with
          enabled := by simp [setCapabilities]
          greeted := fun _ _ => empty }
  | setConnected =>
      simp only [Multiplexer.step] at stepped
      split_ifs at stepped with ready
      obtain rfl := Option.some.inj stepped
      exact .resets
        { continues := allContinue_of_requests_eq rfl
          session := rfl
          received := rfl
          empty := invariant.greeted ready.1 (by simpa using ready.2) }
  | setDisconnected =>
      obtain rfl := Option.some.inj stepped
      exact .resets mux.setDisconnected_resets
  | issue messageType =>
      simp only [Multiplexer.step] at stepped
      split_ifs at stepped with usable
      cases issued : mux.issueRequest messageType with
      | ok registered =>
          rw [issued] at stepped
          obtain rfl := Option.some.inj stepped
          exact .issued messageType usable issued
      | error _ =>
          rw [issued] at stepped
          obtain rfl := Option.some.inj stepped
          exact .narrows unchanged
  | oneWay =>
      simp only [Multiplexer.step] at stepped
      cases taken : mux.nextCorrelationId with
      | ok result =>
          rw [taken] at stepped
          obtain rfl := Option.some.inj stepped
          rw [nextCorrelationId_eq_ok taken]
          exact .narrows
            { unchanged with
              nextId := Nat.le_succ _ }
      | error _ =>
          rw [taken] at stepped
          obtain rfl := Option.some.inj stepped
          exact .narrows unchanged
  | write request => exact task IssuedRequest.taskRun_write stepped
  | sendDone request outcome => exact task IssuedRequest.taskRun_sendDone stepped
  | resume request => exact task IssuedRequest.taskRun_resume stepped
  | cancel request => exact task IssuedRequest.taskRun_cancel stepped
  | timeout request => exact task IssuedRequest.taskRun_timeout stepped
  | receive correlationId messageType payload responseFinal => exact effect_of_receive stepped

/-- One transition keeps the invariant. -/
theorem CorrelationInvariant.step {mux next : Multiplexer} {action : MultiplexerAction}
    (invariant : mux.CorrelationInvariant) (stepped : mux.step action = some next) :
    next.CorrelationInvariant := by
  cases invariant.effect stepped with
  | narrows narrows => exact invariant.narrows narrows
  | resets resets => exact invariant.resets resets
  | issued messageType usable registered => exact invariant.issueRequest usable registered
  | unanswered frame logged =>
      rw [logged]
      exact invariant.logFrame frame
  | answered frame request found final session logged =>
      rw [logged]
      exact invariant.answer found final session

theorem correlationInvariant_new : ({} : Multiplexer).CorrelationInvariant where
  accounted := by simp
  registered correlationId request found := by simp at found
  greeted := by simp
  ids_distinct first _ _ _ found := by simp at found
  answers_distinct first _ _ _ found := by simp at found

theorem correlationInvariant_of_reachable {mux : Multiplexer}
    (reachable : system.Reachable mux) : mux.CorrelationInvariant := by
  refine LabelledSystem.Invariant.of_reachable ⟨?_, ?_⟩ reachable
  · rintro mux rfl
    exact correlationInvariant_new
  · intro mux action next invariant _ stepped
    exact invariant.step stepped

/-- What a broker and its callers rely on: ids name one request of a session,
a returned payload was received for this request, and a frame completes at
most one request. -/
structure ResponsesMatch (mux : Multiplexer) : Prop where
  ids_distinct : PairwiseUnlike mux.requests SameId
  returned : ∀ (request : Nat) (issued : IssuedRequest) (payload : Bytes),
    mux.requests[request]? = some issued → issued.phase = .returned payload →
    ∃ index frame, issued.answeredBy = some index ∧ mux.received[index]? = some frame ∧
      frame.payload = payload ∧ frame.Answers index issued
  completed : ∀ (request : Nat) (issued : IssuedRequest) (payload : Bytes),
    mux.requests[request]? = some issued →
    issued.pending.future = some (.result payload) → issued.answeredBy.isSome
  answers_distinct : PairwiseUnlike mux.requests SameAnswer

theorem responsesMatch_of_reachable {mux : Multiplexer} (reachable : system.Reachable mux) :
    mux.ResponsesMatch := by
  have invariant := correlationInvariant_of_reachable reachable
  refine ⟨invariant.ids_distinct, ?_, ?_, invariant.answers_distinct⟩
  · intro request issued payload found returned
    have accounted := invariant.accounted request issued found
    obtain ⟨index, frame, answered, logged, same⟩ :=
      accounted.result payload (accounted.returned payload returned)
    obtain ⟨other, loggedOther, answers⟩ := accounted.answered index answered
    obtain rfl : frame = other := by simpa [logged] using loggedOther
    exact ⟨index, frame, answered, logged, same, answers⟩
  · intro request issued payload found resolved
    obtain ⟨index, -, answered, -⟩ :=
      (invariant.accounted request issued found).result payload resolved
    simp [answered]

/-- Two requests of one type, answered in the opposite order: the first one
has timed out before its response arrives. -/
theorem responsesMatch_late_reply :
    ∃ mux : Multiplexer, mux.requests.map IssuedRequest.phase =
        [.raised .fitzTimeout, .returned [2]] ∧ mux.ResponsesMatch :=
  ⟨_, rfl, responsesMatch_of_reachable
    (system.reachable_of_run rfl
      [.hello, .setConnected, .issue 7, .issue 7, .write 0, .write 1, .sendDone 0 .returned,
        .sendDone 1 .returned, .resume 0, .resume 1, .timeout 0, .receive 1 7 [1] true,
        .receive 2 7 [2] true, .resume 1] rfl)⟩

end Multiplexer

end FitzClient
