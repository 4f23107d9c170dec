import FitzClient.MultiplexerCorrelation

/-!
# Sent requests stay registered

A reply whose correlation id is not in the table is a protocol error that
tears the connection down.  A request that has given up must therefore stay in
the table as a tombstone once its frame can reach the broker.

The cleanup of `_issue_request` misses this in two ways.  A second
cancellation removes the entry although the shielded send goes on and may
still write the frame.  And the entry is removed by id: a request of an
earlier session whose send fails late removes whichever request of the current
session has been given the same id.  A run keeps every sent request and every
waiting one in the table exactly if neither happens.
-/

namespace FitzClient

/-- A request of this session that the broker may still answer, or whose
caller is still waiting. -/
structure IssuedRequest.Live (issued : IssuedRequest) (session : Nat) : Prop where
  current : issued.session = session
  unanswered : issued.answeredBy = none
  needed : issued.written = true ∨ issued.phase.finished = false

namespace Multiplexer

/-- Every live request is registered under its own id, and no reply to a sent
request is unexpected. -/
structure StaysRegistered (mux : Multiplexer) : Prop where
  sent : ∀ (request : Nat) (issued : IssuedRequest), mux.requests[request]? = some issued →
    issued.session = mux.session → issued.answeredBy = none → issued.written = true →
    mux.correlated.lookup issued.pending.correlationId = some request
  waiting : ∀ (request : Nat) (issued : IssuedRequest), mux.requests[request]? = some issued →
    issued.session = mux.session → issued.answeredBy = none → issued.phase.finished = false →
    mux.correlated.lookup issued.pending.correlationId = some request
  expected : ∀ (request : Nat) (issued : IssuedRequest), mux.requests[request]? = some issued →
    issued.session = mux.session → issued.answeredBy = none → issued.written = true →
    ∀ messageType payload responseFinal,
      (mux.dispatchCorrelated issued.pending.correlationId messageType payload
        responseFinal).isOk = true

/-- Nobody needs the entry under `correlationId`, except that a waiting caller
may give up its own. -/
def Expendable (mux : Multiplexer) (request correlationId : Nat) : Prop :=
  ∀ (holder : Nat) (held : IssuedRequest),
    mux.correlated.lookup correlationId = some holder → mux.requests[holder]? = some held →
    held.written = false ∧ (holder = request ∨ held.phase.finished = true)

/-- The condition under which the table keeps what it must: a request that has
ended does not write its frame any more, and an entry is removed only when it
is expendable. -/
def KeepsRegistrations (mux : Multiplexer) : MultiplexerAction → Prop
  | .write request => ∀ issued, mux.requests[request]? = some issued →
      issued.session = mux.session → issued.answeredBy = none → issued.phase.finished = false
  | .resume request => ∀ issued, mux.requests[request]? = some issued →
      issued.removesOnResume = true → mux.Expendable request issued.pending.correlationId
  | .cancel request => ∀ issued, mux.requests[request]? = some issued →
      issued.removesOnCancel = true → mux.Expendable request issued.pending.correlationId
  | _ => True

structure RegistrationInvariant (mux : Multiplexer) : Prop where
  correlation : mux.CorrelationInvariant
  recorded : ∀ (request : Nat) (issued : IssuedRequest),
    mux.requests[request]? = some issued → issued.SendRecorded
  ended : ∀ (request : Nat) (issued : IssuedRequest), mux.requests[request]? = some issued →
    issued.phase.finished = true → issued.send = .pending →
    ∀ correlationId, mux.correlated.lookup correlationId ≠ some request
  live : ∀ (request : Nat) (issued : IssuedRequest), mux.requests[request]? = some issued →
    issued.Live mux.session → mux.correlated.lookup issued.pending.correlationId = some request

theorem RegistrationInvariant.staysRegistered {mux : Multiplexer}
    (invariant : mux.RegistrationInvariant) : mux.StaysRegistered where
  sent request issued found current unanswered written :=
    invariant.live request issued found ⟨current, unanswered, Or.inl written⟩
  waiting request issued found current unanswered unfinished :=
    invariant.live request issued found ⟨current, unanswered, Or.inr unfinished⟩
  expected request issued found current unanswered written := by
    intro messageType payload responseFinal
    have registered :=
      invariant.live request issued found ⟨current, unanswered, Or.inl written⟩
    unfold dispatchCorrelated
    rw [registered]
    cases responseFinal <;> rfl

theorem StaysRegistered.live {mux : Multiplexer} (stays : mux.StaysRegistered) {request : Nat}
    {issued : IssuedRequest} (found : mux.requests[request]? = some issued)
    (live : issued.Live mux.session) :
    mux.correlated.lookup issued.pending.correlationId = some request := by
  rcases live.needed with written | unfinished
  · exact stays.sent request issued found live.current live.unanswered written
  · exact stays.waiting request issued found live.current live.unanswered unfinished

/-- The request whose entry a cleanup removes is needed unless the entry is
expendable. -/
theorem CorrelationInvariant.exists_live_of_not_expendable {mux : Multiplexer}
    (invariant : mux.CorrelationInvariant) {request correlationId : Nat}
    (needed : ¬ mux.Expendable request correlationId) :
    ∃ holder held, mux.correlated.lookup correlationId = some holder ∧
      mux.requests[holder]? = some held ∧ held.RegisteredIn mux.session correlationId ∧
      (held.written = true ∨ holder ≠ request ∧ held.phase.finished = false) := by
  simp only [Expendable, not_forall] at needed
  obtain ⟨holder, held, registered, found, needed⟩ := needed
  obtain ⟨-, issued, foundIssued, registeredIn⟩ :=
    invariant.registered correlationId holder registered
  obtain rfl : held = issued := by simpa [found] using foundIssued
  refine ⟨holder, held, registered, found, registeredIn, ?_⟩
  cases written : held.written with
  | true => exact Or.inl rfl
  | false =>
      simp only [written, true_and, not_or, Bool.not_eq_true] at needed
      exact Or.inr needed

theorem RegistrationInvariant.taskCleanup {mux next : Multiplexer} {request : Nat}
    {before : IssuedRequest} {outcome : IssuedRequest × CorrelationTable} {removes : Bool}
    (invariant : mux.RegistrationInvariant)
    (step : mux.TaskStep next request before outcome)
    (unfinished : before.phase.finished = false)
    (cleanup : TaskCleanup before mux.correlated removes outcome)
    (expendable : removes = true → mux.Expendable request before.pending.correlationId) :
    next.RegistrationInvariant := by
  have correlation := invariant.correlation.narrows (invariant.correlation.taskStep_narrows step)
  obtain ⟨found, run, rfl⟩ := step
  have inside : request < mux.requests.length := (List.getElem?_eq_some_iff.mp found).1
  have kept : ∀ correlationId holder, outcome.2.lookup correlationId = some holder →
      mux.correlated.lookup correlationId = some holder := by
    intro correlationId holder held
    rw [cleanup.lookup] at held
    split_ifs at held
    exact held
  refine ⟨correlation, ?_, ?_, ?_⟩
  · intro other issued foundOther
    by_cases same : request = other
    · subst same
      obtain rfl : outcome.1 = issued := by simpa [inside] using foundOther
      exact cleanup.recorded
    · exact invariant.recorded other issued (by simpa [same] using foundOther)
  · intro other issued foundOther finished pending correlationId held
    by_cases same : request = other
    · subst same
      obtain rfl : outcome.1 = issued := by simpa [inside] using foundOther
      have removed := cleanup.drained finished pending
      have old := kept correlationId request held
      obtain ⟨-, registrant, foundRegistrant, registeredIn⟩ :=
        invariant.correlation.registered correlationId request old
      obtain rfl : before = registrant := by simpa [found] using foundRegistrant
      rw [cleanup.lookup] at held
      simp [removed, registeredIn.correlationId_eq] at held
    · exact invariant.ended other issued (by simpa [same] using foundOther) finished pending
        correlationId (kept correlationId other held)
  · intro other issued foundOther live
    by_cases same : request = other
    · subst same
      obtain rfl : outcome.1 = issued := by simpa [inside] using foundOther
      have liveBefore : before.Live mux.session :=
        ⟨run.continues.session.symm.trans live.current,
          run.continues.answeredBy.symm.trans live.unanswered, Or.inr unfinished⟩
      have registered := invariant.live request before found liveBefore
      rw [run.continues.correlationId]
      change outcome.2.lookup _ = _
      rw [cleanup.lookup, if_neg]
      · exact registered
      · rintro ⟨removed, -⟩
        obtain ⟨unwritten, -⟩ := expendable removed request before registered found
        have ended := cleanup.finished removed
        rcases live.needed with written | unended
        · simp [cleanup.written, unwritten] at written
        · simp [ended] at unended
    · have foundBefore : mux.requests[other]? = some issued := by
        simpa [same] using foundOther
      have registered := invariant.live other issued foundBefore live
      change outcome.2.lookup _ = _
      rw [cleanup.lookup, if_neg]
      · exact registered
      · rintro ⟨removed, sameId⟩
        obtain ⟨unwritten, mine | ended⟩ :=
          expendable removed other issued (sameId ▸ registered) foundBefore
        · exact same mine.symm
        · rcases live.needed with written | unended
          · simp [unwritten] at written
          · simp [ended] at unended

/-- Removing an entry that is needed leaves a live request unregistered. -/
theorem RegistrationInvariant.not_staysRegistered_of_removed {mux next : Multiplexer}
    {request : Nat} {before : IssuedRequest} {outcome : IssuedRequest × CorrelationTable}
    (invariant : mux.RegistrationInvariant)
    (step : mux.TaskStep next request before outcome)
    (cleanup : TaskCleanup before mux.correlated true outcome)
    (needed : ¬ mux.Expendable request before.pending.correlationId) :
    ¬ next.StaysRegistered := by
  intro stays
  obtain ⟨found, run, rfl⟩ := step
  obtain ⟨holder, held, registered, foundHeld, registeredIn, needed⟩ :=
    invariant.correlation.exists_live_of_not_expendable needed
  have inside : request < mux.requests.length := (List.getElem?_eq_some_iff.mp found).1
  have removed : outcome.2.lookup before.pending.correlationId = none := by
    rw [cleanup.lookup]
    simp
  by_cases same : request = holder
  · subst same
    obtain rfl : before = held := by simpa [found] using foundHeld
    have written : outcome.1.written = true := by
      rw [cleanup.written]
      exact needed.resolve_right fun other => other.1 rfl
    have still := stays.sent request outcome.1 (by simp [inside])
      (run.continues.session.trans registeredIn.session_eq)
      (run.continues.answeredBy.trans registeredIn.unanswered) written
    rw [run.continues.correlationId] at still
    simp [removed] at still
  · have live : held.Live mux.session :=
      ⟨registeredIn.session_eq, registeredIn.unanswered, needed.imp_right And.right⟩
    have foundAfter : (mux.requests.set request outcome.1)[holder]? = some held := by
      simpa [same] using foundHeld
    have still := stays.live foundAfter live
    rw [registeredIn.correlationId_eq] at still
    simp [removed] at still

theorem finished_eq_false_of_resume {issued : IssuedRequest} {correlated : CorrelationTable}
    {outcome : IssuedRequest × CorrelationTable}
    (resumed : issued.resume correlated = some outcome) : issued.phase.finished = false := by
  cases phase : issued.phase <;> simp [IssuedRequest.resume, phase] at resumed ⊢ <;> rfl

theorem finished_eq_false_of_cancel {issued : IssuedRequest} {correlated : CorrelationTable}
    {outcome : IssuedRequest × CorrelationTable}
    (cancelled : issued.cancel correlated = some outcome) : issued.phase.finished = false := by
  cases phase : issued.phase <;> simp [IssuedRequest.cancel, phase] at cancelled ⊢ <;> rfl

/-- A step of the send task: the request is the same except for what it has
sent. -/
theorem RegistrationInvariant.sendStep {mux next : Multiplexer} {request : Nat}
    {before after : IssuedRequest} (invariant : mux.RegistrationInvariant)
    (step : mux.TaskStep next request before (after, mux.correlated))
    (phase : after.phase = before.phase) (pending : after.pending = before.pending)
    (inFlight : before.send = .pending)
    (live : after.Live mux.session → before.Live mux.session) :
    next.RegistrationInvariant := by
  have correlation := invariant.correlation.narrows (invariant.correlation.taskStep_narrows step)
  obtain ⟨found, run, rfl⟩ := step
  have inside : request < mux.requests.length := (List.getElem?_eq_some_iff.mp found).1
  have recorded := invariant.recorded request before found
  refine ⟨correlation, ?_, ?_, ?_⟩
  · intro other issued foundOther
    by_cases same : request = other
    · subst same
      obtain rfl : after = issued := by simpa [inside] using foundOther
      refine ⟨?_, ?_, fun awaiting => ?_⟩
      · rw [phase, pending]
        exact recorded.sending
      · rw [phase, pending]
        exact recorded.draining
      · rw [phase] at awaiting
        exact ((recorded.awaiting awaiting).2 inFlight).elim
    · exact invariant.recorded other issued (by simpa [same] using foundOther)
  · intro other issued foundOther finished stillInFlight correlationId
    by_cases same : request = other
    · subst same
      obtain rfl : after = issued := by simpa [inside] using foundOther
      exact invariant.ended request before found (phase ▸ finished) inFlight correlationId
    · exact invariant.ended other issued (by simpa [same] using foundOther) finished
        stillInFlight correlationId
  · intro other issued foundOther liveAfter
    by_cases same : request = other
    · subst same
      obtain rfl : after = issued := by simpa [inside] using foundOther
      rw [pending]
      exact invariant.live request before found (live liveAfter)
    · exact invariant.live other issued (by simpa [same] using foundOther) liveAfter

theorem RegistrationInvariant.write {mux next : Multiplexer} {request : Nat}
    (invariant : mux.RegistrationInvariant)
    (keeps : mux.KeepsRegistrations (.write request))
    (stepped : mux.step (.write request) = some next) : next.RegistrationInvariant := by
  obtain ⟨before, outcome, ran, step⟩ :=
    taskStep_of_runTask IssuedRequest.taskRun_write stepped
  have found := step.found
  unfold IssuedRequest.write at ran
  split_ifs at ran with inFlight
  obtain rfl := Option.some.inj ran
  refine invariant.sendStep step rfl rfl inFlight.1 fun live => ?_
  exact ⟨live.current, live.unanswered,
    Or.inr (keeps before found live.current live.unanswered)⟩

theorem RegistrationInvariant.sendDone {mux next : Multiplexer} {request : Nat}
    {result : SendFuture} (invariant : mux.RegistrationInvariant)
    (stepped : mux.step (.sendDone request result) = some next) :
    next.RegistrationInvariant := by
  have task : mux.runTask request (IssuedRequest.sendDone · result) = some next := stepped
  obtain ⟨before, outcome, ran, step⟩ :=
    taskStep_of_runTask IssuedRequest.taskRun_sendDone task
  unfold IssuedRequest.sendDone at ran
  split_ifs at ran with inFlight
  obtain rfl := Option.some.inj ran
  exact invariant.sendStep step rfl rfl inFlight.1 fun live =>
    ⟨live.current, live.unanswered, live.needed⟩

/-- A request that has ended with its send in flight is not registered; when
it writes its frame nobody expects the reply. -/
theorem RegistrationInvariant.not_staysRegistered_of_write {mux next : Multiplexer}
    {request : Nat} (invariant : mux.RegistrationInvariant)
    (violates : ¬ mux.KeepsRegistrations (.write request))
    (stepped : mux.step (.write request) = some next) : ¬ next.StaysRegistered := by
  intro stays
  simp only [KeepsRegistrations, not_forall, Bool.not_eq_false] at violates
  obtain ⟨before, found, current, unanswered, finished⟩ := violates
  obtain ⟨writer, outcome, ran, step⟩ :=
    taskStep_of_runTask IssuedRequest.taskRun_write stepped
  obtain ⟨foundWriter, -, rfl⟩ := step
  obtain rfl : before = writer := by simpa [found] using foundWriter
  unfold IssuedRequest.write at ran
  split_ifs at ran with inFlight
  obtain rfl := Option.some.inj ran
  have inside : request < mux.requests.length := (List.getElem?_eq_some_iff.mp found).1
  exact invariant.ended request before found finished inFlight.1 _
    (stays.sent request { before with written := true } (by simp [inside]) current unanswered
      rfl)

theorem RegistrationInvariant.of_same {mux next : Multiplexer}
    (invariant : mux.RegistrationInvariant) (correlation : next.CorrelationInvariant)
    (requests : next.requests = mux.requests) (correlated : next.correlated = mux.correlated)
    (session : next.session = mux.session) : next.RegistrationInvariant where
  correlation := correlation
  recorded := by
    rw [requests]
    exact invariant.recorded
  ended := by
    rw [requests, correlated]
    exact invariant.ended
  live := by
    rw [requests, correlated, session]
    exact invariant.live

theorem sendRecorded_settle {issued : IssuedRequest} (recorded : issued.SendRecorded)
    (outcome : ResponseFuture) : (issued.settle outcome).SendRecorded := by
  rw [IssuedRequest.settle_eq]
  exact ⟨recorded.sending, recorded.draining, recorded.awaiting⟩

theorem sendRecorded_of_setDisconnected {mux : Multiplexer}
    (recorded : ∀ (request : Nat) (issued : IssuedRequest),
      mux.requests[request]? = some issued → issued.SendRecorded)
    (request : Nat) (issued : IssuedRequest)
    (found : mux.setDisconnected.requests[request]? = some issued) : issued.SendRecorded := by
  rw [setDisconnected, cancelAll, List.getElem?_mapIdx, Option.map_eq_some_iff] at found
  obtain ⟨before, foundBefore, rfl⟩ := found
  have recordedBefore := recorded request before foundBefore
  split_ifs
  · exact sendRecorded_settle recordedBefore _
  · exact recordedBefore

/-- In a new session there is no request to register. -/
theorem RegistrationInvariant.resets {mux next : Multiplexer}
    (invariant : mux.RegistrationInvariant) (resets : mux.Resets next)
    (recorded : ∀ (request : Nat) (issued : IssuedRequest),
      next.requests[request]? = some issued → issued.SendRecorded) :
    next.RegistrationInvariant where
  correlation := invariant.correlation.resets resets
  recorded := recorded
  ended request issued found finished inFlight correlationId := by
    simp [resets.empty]
  live request after found live := by
    obtain ⟨before, foundBefore, continues⟩ :=
      exists_of_forall₂_right resets.continues found
    have session_le := (invariant.correlation.accounted request before foundBefore).session_le
    have session := continues.session.symm.trans live.current
    have newSession := resets.session
    omega

theorem RegistrationInvariant.issueRequest {mux next : Multiplexer} {messageType : Nat}
    (invariant : mux.RegistrationInvariant) (usable : mux.usable = true)
    (issued : mux.issueRequest messageType = .ok next) : next.RegistrationInvariant := by
  have correlation := invariant.correlation.issueRequest usable issued
  obtain ⟨-, rfl⟩ := issueRequest_eq_ok issued
  refine ⟨correlation, ?_, ?_, ?_⟩
  · intro request cell found
    rcases getElem?_concat_eq_some.mp found with old | ⟨-, rfl⟩
    · exact invariant.recorded request cell old
    · exact ⟨fun _ => rfl, fun _ => rfl, by simp⟩
  · intro request cell found finished inFlight correlationId registered
    rcases getElem?_concat_eq_some.mp found with old | ⟨-, rfl⟩
    · rcases Dictionary.lookup_insert_eq_some.mp registered with ⟨-, rfl⟩ | ⟨-, before⟩
      · simp at old
      · exact invariant.ended request cell old finished inFlight correlationId before
    · simp [RequestPhase.finished] at finished
  · intro request cell found live
    apply Dictionary.lookup_insert_eq_some.mpr
    rcases getElem?_concat_eq_some.mp found with old | ⟨rfl, rfl⟩
    · refine Or.inr ⟨?_, invariant.live request cell old live⟩
      exact Nat.ne_of_lt
        ((invariant.correlation.accounted request cell old).fresh live.current)
    · exact Or.inl ⟨rfl, rfl⟩

/-- A final response takes the entry of a request that no longer needs it. -/
theorem RegistrationInvariant.receive {mux next : Multiplexer}
    (invariant : mux.RegistrationInvariant) {correlationId messageType : Nat} {payload : Bytes}
    {responseFinal : Bool}
    (stepped : mux.step (.receive correlationId messageType payload responseFinal) = some next) :
    next.RegistrationInvariant := by
  have correlation := invariant.correlation.step stepped
  simp only [step, dispatchCorrelated] at stepped
  cases found : mux.correlated.lookup correlationId with
  | none =>
      simp only [found] at stepped
      obtain rfl := Option.some.inj stepped
      exact invariant.of_same correlation rfl rfl rfl
  | some request =>
      cases responseFinal with
      | false =>
          simp only [found] at stepped
          obtain rfl := Option.some.inj stepped
          exact invariant.of_same correlation rfl rfl rfl
      | true =>
          simp only [found] at stepped
          obtain rfl := Option.some.inj stepped
          obtain ⟨-, target, foundTarget, registeredIn⟩ :=
            invariant.correlation.registered correlationId request found
          refine ⟨correlation, ?_, ?_, ?_⟩
          · intro other issued foundOther
            obtain ⟨before, foundBefore, rfl⟩ := getElem?_modify_eq_some.mp foundOther
            have recorded := invariant.recorded other before foundBefore
            split_ifs
            · have settled := sendRecorded_settle recorded (.result payload)
              exact ⟨settled.sending, settled.draining, settled.awaiting⟩
            · exact recorded
          · intro other issued foundOther finished inFlight key registered
            obtain ⟨before, foundBefore, rfl⟩ := getElem?_modify_eq_some.mp foundOther
            have old := (Dictionary.lookup_erase_eq_some.mp registered).2
            refine invariant.ended other before foundBefore ?_ ?_ key old
            · split_ifs at finished
              · rwa [IssuedRequest.settle_eq] at finished
              · exact finished
            · split_ifs at inFlight
              · rwa [IssuedRequest.settle_eq] at inFlight
              · exact inFlight
          · intro other issued foundOther live
            obtain ⟨before, foundBefore, rfl⟩ := getElem?_modify_eq_some.mp foundOther
            by_cases same : request = other
            · rw [if_pos same] at live
              exact absurd live.unanswered (by simp)
            · rw [if_neg same] at live ⊢
              have registered := invariant.live other before foundBefore live
              refine Dictionary.lookup_erase_eq_some.mpr ⟨?_, registered⟩
              intro sameId
              rw [sameId, found] at registered
              exact same (Option.some.inj registered)

/-- One transition that meets the condition keeps the invariant. -/
theorem RegistrationInvariant.step {mux next : Multiplexer} {action : MultiplexerAction}
    (invariant : mux.RegistrationInvariant) (keeps : mux.KeepsRegistrations action)
    (stepped : mux.step action = some next) : next.RegistrationInvariant := by
  have correlation := invariant.correlation.step stepped
  cases action with
  | leave =>
      obtain rfl := Option.some.inj stepped
      exact invariant.of_same correlation rfl rfl rfl
  | hello =>
      simp only [Multiplexer.step] at stepped
      split_ifs at stepped
      obtain rfl := Option.some.inj stepped
      exact invariant.of_same correlation rfl rfl rfl
  | setConnected =>
      simp only [Multiplexer.step] at stepped
      split_ifs at stepped with ready
      obtain rfl := Option.some.inj stepped
      exact invariant.resets
        { continues := allContinue_of_requests_eq rfl
          session := rfl
          received := rfl
          empty := invariant.correlation.greeted ready.1 (by simpa using ready.2) }
        invariant.recorded
  | setDisconnected =>
      obtain rfl := Option.some.inj stepped
      exact invariant.resets mux.setDisconnected_resets
        (sendRecorded_of_setDisconnected invariant.recorded)
  | issue messageType =>
      simp only [Multiplexer.step] at stepped
      split_ifs at stepped with usable
      cases issued : mux.issueRequest messageType with
      | ok registered =>
          rw [issued] at stepped
          obtain rfl := Option.some.inj stepped
          exact invariant.issueRequest usable issued
      | error _ =>
          rw [issued] at stepped
          obtain rfl := Option.some.inj stepped
          exact invariant
  | oneWay =>
      simp only [Multiplexer.step] at stepped
      cases taken : mux.nextCorrelationId with
      | ok result =>
          rw [taken] at stepped
          obtain rfl := Option.some.inj stepped
          have after := nextCorrelationId_eq_ok taken
          exact invariant.of_same correlation (by rw [after]) (by rw [after]) (by rw [after])
      | error _ =>
          rw [taken] at stepped
          obtain rfl := Option.some.inj stepped
          exact invariant
  | write request => exact invariant.write keeps stepped
  | sendDone request outcome => exact invariant.sendDone stepped
  | resume request =>
      obtain ⟨before, outcome, ran, step⟩ :=
        taskStep_of_runTask IssuedRequest.taskRun_resume stepped
      exact invariant.taskCleanup step (finished_eq_false_of_resume ran)
        (IssuedRequest.taskCleanup_resume (invariant.recorded request before step.found) ran)
        (keeps before step.found)
  | cancel request =>
      obtain ⟨before, outcome, ran, step⟩ :=
        taskStep_of_runTask IssuedRequest.taskRun_cancel stepped
      exact invariant.taskCleanup step (finished_eq_false_of_cancel ran)
        (IssuedRequest.taskCleanup_cancel (invariant.recorded request before step.found) ran)
        (keeps before step.found)
  | timeout request =>
      obtain ⟨before, outcome, ran, step⟩ :=
        taskStep_of_runTask IssuedRequest.taskRun_timeout stepped
      have unfinished : before.phase.finished = false := by
        unfold IssuedRequest.timeout at ran
        split_ifs at ran with awaiting
        rw [awaiting]
        rfl
      exact invariant.taskCleanup step unfinished
        (IssuedRequest.taskCleanup_timeout (invariant.recorded request before step.found) ran)
        (by simp)
  | receive correlationId messageType payload responseFinal => exact invariant.receive stepped

/-- Every transition that violates the condition leaves a live request
unregistered. -/
theorem RegistrationInvariant.not_staysRegistered {mux next : Multiplexer}
    {action : MultiplexerAction} (invariant : mux.RegistrationInvariant)
    (violates : ¬ mux.KeepsRegistrations action) (stepped : mux.step action = some next) :
    ¬ next.StaysRegistered := by
  cases action with
  | write request => exact invariant.not_staysRegistered_of_write violates stepped
  | resume request =>
      simp only [KeepsRegistrations, not_forall] at violates
      obtain ⟨issued, found, removes, needed⟩ := violates
      obtain ⟨before, outcome, ran, step⟩ :=
        taskStep_of_runTask IssuedRequest.taskRun_resume stepped
      obtain rfl : issued = before := by simpa [found] using step.found
      have cleanup :=
        IssuedRequest.taskCleanup_resume (invariant.recorded request issued found) ran
      exact invariant.not_staysRegistered_of_removed step (removes ▸ cleanup) needed
  | cancel request =>
      simp only [KeepsRegistrations, not_forall] at violates
      obtain ⟨issued, found, removes, needed⟩ := violates
      obtain ⟨before, outcome, ran, step⟩ :=
        taskStep_of_runTask IssuedRequest.taskRun_cancel stepped
      obtain rfl : issued = before := by simpa [found] using step.found
      have cleanup :=
        IssuedRequest.taskCleanup_cancel (invariant.recorded request issued found) ran
      exact invariant.not_staysRegistered_of_removed step (removes ▸ cleanup) needed
  | _ => exact (violates trivial).elim

/-- Nothing registers an old request again, and only a registered request is
answered. -/
theorem CorrelationInvariant.registered_before {mux next : Multiplexer}
    {action : MultiplexerAction} (invariant : mux.CorrelationInvariant)
    (stepped : mux.step action = some next) {request : Nat} {before : IssuedRequest}
    (found : mux.requests[request]? = some before) :
    (∀ correlationId, next.correlated.lookup correlationId = some request →
        mux.correlated.lookup correlationId = some request) ∧
      ∃ after, next.requests[request]? = some after ∧
        (after.answeredBy ≠ none → before.answeredBy ≠ none ∨
          ∃ correlationId, mux.correlated.lookup correlationId = some request) := by
  cases invariant.effect stepped with
  | narrows narrows =>
      obtain ⟨after, foundAfter, continues⟩ :=
        exists_of_forall₂_left narrows.continues found
      refine ⟨fun correlationId => narrows.lookup correlationId request, after, foundAfter, ?_⟩
      rw [continues.answeredBy]
      exact Or.inl
  | resets resets =>
      obtain ⟨after, foundAfter, continues⟩ :=
        exists_of_forall₂_left resets.continues found
      refine ⟨by simp [resets.empty], after, foundAfter, ?_⟩
      rw [continues.answeredBy]
      exact Or.inl
  | issued messageType usable registered =>
      obtain ⟨-, rfl⟩ := issueRequest_eq_ok registered
      refine ⟨?_, before, getElem?_concat_eq_some.mpr (Or.inl found), Or.inl⟩
      intro correlationId registered
      rcases Dictionary.lookup_insert_eq_some.mp registered with ⟨-, rfl⟩ | ⟨-, old⟩
      · simp at found
      · exact old
  | unanswered frame logged =>
      subst logged
      exact ⟨fun _ => id, before, found, Or.inl⟩
  | answered frame target foundTarget final session logged =>
      subst logged
      refine ⟨fun _ registered => (Dictionary.lookup_erase_eq_some.mp registered).2, ?_⟩
      refine ⟨_, getElem?_modify_eq_some.mpr ⟨before, found, rfl⟩, ?_⟩
      split_ifs with same
      · subst same
        exact fun _ => Or.inr ⟨frame.correlationId, foundTarget⟩
      · exact Or.inl

/-- If a request is registered or answered in `later`, it was registered in
`mux`. -/
def RegisteredSince (mux : Multiplexer) (request : Nat) (later : Multiplexer) : Prop :=
  later.RegistrationInvariant ∧
    ∃ after, later.requests[request]? = some after ∧
      ((∃ correlationId, later.correlated.lookup correlationId = some request) ∨
          after.answeredBy ≠ none →
        ∃ correlationId, mux.correlated.lookup correlationId = some request)

theorem RegisteredSince.step {mux current next : Multiplexer} {request : Nat}
    {action : MultiplexerAction} (since : mux.RegisteredSince request current)
    (keeps : current.KeepsRegistrations action) (stepped : current.step action = some next) :
    mux.RegisteredSince request next := by
  obtain ⟨invariant, before, found, back⟩ := since
  obtain ⟨registered, after, foundAfter, answered⟩ :=
    invariant.correlation.registered_before stepped found
  refine ⟨invariant.step keeps stepped, after, foundAfter, ?_⟩
  rintro (⟨correlationId, registeredAfter⟩ | answeredAfter)
  · exact back (Or.inl ⟨correlationId, registered correlationId registeredAfter⟩)
  · rcases answered answeredAfter with answeredBefore | registeredBefore
    · exact back (Or.inr answeredBefore)
    · exact back (Or.inl registeredBefore)

/-- A request that a later state of the session knows as sent was registered
all the time until it was answered. -/
theorem RegistrationInvariant.registered_of_written_later {mux later : Multiplexer}
    (invariant : mux.RegistrationInvariant)
    (leads : system.LeadsUnder KeepsRegistrations mux later) {request : Nat}
    {issued : IssuedRequest} (found : mux.requests[request]? = some issued)
    (unanswered : issued.answeredBy = none) {sent : IssuedRequest}
    (foundLater : later.requests[request]? = some sent) (current : sent.session = later.session)
    (written : sent.written = true) :
    mux.correlated.lookup issued.pending.correlationId = some request := by
  have atFirst : mux.RegisteredSince request mux := by
    refine ⟨invariant, issued, found, ?_⟩
    rintro (registered | answered)
    · exact registered
    · exact (answered unanswered).elim
  have traced : mux.RegisteredSince request later :=
    leads.induct (fun _ _ _ since keeps stepped => since.step keeps stepped) atFirst
  obtain ⟨laterInvariant, after, foundAfter, back⟩ := traced
  obtain rfl : after = sent := by simpa [foundAfter] using foundLater
  have registered : ∃ correlationId, mux.correlated.lookup correlationId = some request := by
    cases answered : after.answeredBy with
    | some index => exact back (Or.inr (by simp [answered]))
    | none =>
        exact back (Or.inl ⟨_, laterInvariant.live request after foundAfter
          ⟨current, answered, Or.inl written⟩⟩)
  obtain ⟨correlationId, registered⟩ := registered
  obtain ⟨-, registrant, foundRegistrant, registeredIn⟩ :=
    invariant.correlation.registered correlationId request registered
  obtain rfl : issued = registrant := by simpa [found] using foundRegistrant
  rw [registeredIn.correlationId_eq]
  exact registered

theorem registrationInvariant_new : ({} : Multiplexer).RegistrationInvariant where
  correlation := correlationInvariant_new
  recorded := by simp
  ended := by simp
  live := by simp

/-- A run keeps every live request registered, and every reply to a sent
request expected, exactly if all its transitions meet the condition.  Then a
request is also registered in every state before its frame is written. -/
theorem staysRegistered_along_iff (actions : List MultiplexerAction) :
    (system.Along StaysRegistered ({} : Multiplexer) actions ↔
      system.StepsMeet KeepsRegistrations ({} : Multiplexer) actions) ∧
    ∀ mux later : Multiplexer, system.ReachableUnder KeepsRegistrations mux →
      system.LeadsUnder KeepsRegistrations mux later →
      ∀ (request : Nat) (issued sent : IssuedRequest), mux.requests[request]? = some issued →
        issued.answeredBy = none → later.requests[request]? = some sent →
        sent.session = later.session → sent.written = true →
        mux.correlated.lookup issued.pending.correlationId = some request := by
  refine ⟨?_, ?_⟩
  · exact system.along_iff_stepsMeet RegistrationInvariant
      (fun _ invariant => invariant.staysRegistered)
      (fun _ _ _ invariant keeps stepped => invariant.step keeps stepped)
      (fun _ _ _ invariant violates stepped => invariant.not_staysRegistered violates stepped)
      registrationInvariant_new actions
  · intro mux later reachable leads request issued sent found unanswered foundLater current
      written
    have invariant : mux.RegistrationInvariant := by
      refine LabelledSystem.Invariant.of_reachable ⟨?_, ?_⟩ reachable
      · rintro first rfl
        exact registrationInvariant_new
      · intro current action next invariant keeps stepped
        exact invariant.step keeps stepped
    exact invariant.registered_of_written_later leads found unanswered foundLater current
      written

/-- A request is registered before its send writes the frame. -/
theorem staysRegistered_before_write :
    ∃ mux : Multiplexer, mux.requests.map IssuedRequest.written = [false] ∧
      mux.correlated.lookup 1 = some 0 := by
  have issued : system.StepsMeet KeepsRegistrations ({} : Multiplexer)
      [.hello, .setConnected, .issue 7] :=
    system.stepsMeet_cons rfl trivial
      (system.stepsMeet_cons rfl trivial (system.stepsMeet_cons rfl trivial trivial))
  have reachable := system.reachableUnder_of_run rfl _ rfl issued
  refine ⟨_, rfl, (staysRegistered_along_iff []).2 _ _ reachable
    (system.leadsUnder_of_run [.write 0] rfl
      (system.stepsMeet_cons rfl ?_ trivial)) 0 _ _ rfl rfl rfl rfl rfl⟩
  intro written found _ _
  obtain rfl := Option.some.inj found
  rfl

/-- A request that is cancelled twice while its frame is being written leaves
the table, and the reply to the frame is an error. -/
theorem exists_sent_request_unregistered :
    ∃ mux : Multiplexer, system.Reachable mux ∧
      ∃ issued : IssuedRequest, mux.requests[0]? = some issued ∧
        issued.session = mux.session ∧ issued.answeredBy = none ∧ issued.written = true ∧
        mux.correlated.lookup issued.pending.correlationId = none ∧
        mux.dispatchCorrelated issued.pending.correlationId 7 [] true =
          .error "Unexpected response correlation 1 for message type 7" := by
  refine ⟨_, system.reachable_of_run rfl
    [.hello, .setConnected, .issue 7, .cancel 0, .cancel 0, .write 0] rfl, ?_⟩
  exact ⟨_, rfl, rfl, rfl, rfl, rfl, rfl⟩

end Multiplexer

end FitzClient
