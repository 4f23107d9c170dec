import FitzClient.MultiplexerRegistration

/-!
# Requests that keep their slot

The call of a request holds a slot of the request gate until `_issue_request`
ends.  A request must not end while the broker may still answer it: while its
frame is at the broker, or its send goes on, and no final response has arrived
in its session.  Three ways to end can come too early, a timeout, a
cancellation and a send that fails after writing.  Without them every request
the broker may answer belongs to a task that has not ended.
-/

namespace FitzClient

/-- A request of this session whose frame is at the broker or may still get
there, and which is not answered. -/
structure IssuedRequest.MayBeAnswered (issued : IssuedRequest) (session : Nat) : Prop where
  current : issued.session = session
  unanswered : issued.answeredBy = none
  handed : issued.written = true ∨ issued.send = .pending

/-- What keeps a request holding its slot until it is answered. -/
structure IssuedRequest.SlotHeld (issued : IssuedRequest) (session : Nat) : Prop where
  recorded : issued.SendRecorded
  unreset : issued.session = session → ∀ error, issued.pending.future ≠ some (.exception error)
  unended : issued.MayBeAnswered session → issued.phase.finished = false

namespace IssuedRequest

variable {before : IssuedRequest} {correlated : CorrelationTable}
  {outcome : IssuedRequest × CorrelationTable} {session : Nat}

theorem SlotHeld.of_earlier (recorded : before.SendRecorded) (earlier : before.session < session) :
    before.SlotHeld session where
  recorded := recorded
  unreset current := by omega
  unended mayBe := by
    have := mayBe.current
    omega

theorem SlotHeld.taskRun {removes : Bool} (held : before.SlotHeld session)
    (run : TaskRun before correlated outcome)
    (cleanup : TaskCleanup before correlated removes outcome)
    (kept : before.MayBeAnswered session → outcome.1.phase.finished = false) :
    outcome.1.SlotHeld session where
  recorded := cleanup.recorded
  unreset current error := by
    rcases run.future with same | dropped
    · rw [same]
      exact held.unreset (run.continues.session.symm.trans current) error
    · simp [dropped]
  unended mayBe :=
    kept
      { current := run.continues.session.symm.trans mayBe.current
        unanswered := run.continues.answeredBy.symm.trans mayBe.unanswered
        handed := by
          rw [← cleanup.written, ← cleanup.send]
          exact mayBe.handed }

/-- A request that is sent and neither answered nor reset goes on to await its
response. -/
theorem finished_eq_false_of_resume_sent (held : before.SlotHeld session)
    (current : before.session = session)
    (unresolved : ∀ payload, before.pending.future ≠ some (.result payload))
    (phase : before.phase = .sending) (send : before.send = .returned)
    (resumed : before.resume correlated = some outcome) :
    outcome.1.phase.finished = false := by
  simp only [resume, phase, send, Option.some.injEq] at resumed
  subst resumed
  have future : before.markSent.pending.future = before.pending.future := rfl
  unfold awaitFuture
  split
  next payload resolved => exact (unresolved payload (future ▸ resolved)).elim
  next error reset => exact (held.unreset current error (future ▸ reset)).elim
  next => rfl

theorem SlotHeld.write (held : before.SlotHeld session)
    (wrote : before.write correlated = some outcome) : outcome.1.SlotHeld session := by
  unfold IssuedRequest.write at wrote
  split_ifs at wrote with inFlight
  obtain rfl := Option.some.inj wrote
  exact
    { recorded := ⟨held.recorded.sending, held.recorded.draining, held.recorded.awaiting⟩
      unreset := held.unreset
      unended := fun mayBe =>
        held.unended ⟨mayBe.current, mayBe.unanswered, Or.inr inFlight.1⟩ }

theorem SlotHeld.sendDone {result : SendFuture} (held : before.SlotHeld session)
    (done : before.sendDone result correlated = some outcome) : outcome.1.SlotHeld session := by
  unfold IssuedRequest.sendDone at done
  split_ifs at done with inFlight
  obtain rfl := Option.some.inj done
  exact
    { recorded := ⟨held.recorded.sending, held.recorded.draining,
        fun awaiting => ((held.recorded.awaiting awaiting).2 inFlight.1).elim⟩
      unreset := held.unreset
      unended := fun mayBe =>
        held.unended ⟨mayBe.current, mayBe.unanswered, Or.inr inFlight.1⟩ }

end IssuedRequest

namespace Multiplexer

/-- The condition on request tasks: no task ends while its request may still
be answered. -/
def KeepsSlots (mux : Multiplexer) : MultiplexerAction → Prop
  | .resume request => ∀ issued, mux.requests[request]? = some issued →
      issued.MayBeAnswered mux.session → issued.phase = .sending ∧ issued.send = .returned
  | .cancel request => ∀ issued, mux.requests[request]? = some issued →
      issued.MayBeAnswered mux.session → issued.phase = .sending ∧ issued.send = .pending
  | .timeout request => ∀ issued, mux.requests[request]? = some issued →
      ¬ issued.MayBeAnswered mux.session
  | _ => True

structure CeilingInvariant (mux : Multiplexer) : Prop where
  correlation : mux.CorrelationInvariant
  held : ∀ (request : Nat) (issued : IssuedRequest), mux.requests[request]? = some issued →
    issued.SlotHeld mux.session

theorem CeilingInvariant.taskStep {mux next : Multiplexer} {request : Nat}
    {before : IssuedRequest} {outcome : IssuedRequest × CorrelationTable}
    (invariant : mux.CeilingInvariant) (step : mux.TaskStep next request before outcome)
    (held : outcome.1.SlotHeld mux.session) : next.CeilingInvariant := by
  have correlation := invariant.correlation.narrows (invariant.correlation.taskStep_narrows step)
  obtain ⟨found, -, rfl⟩ := step
  have inside : request < mux.requests.length := (List.getElem?_eq_some_iff.mp found).1
  refine ⟨correlation, ?_⟩
  intro other issued foundOther
  by_cases same : request = other
  · subst same
    obtain rfl : outcome.1 = issued := by simpa [inside] using foundOther
    exact held
  · exact invariant.held other issued (by simpa [same] using foundOther)

/-- In a new session no earlier request holds a slot of the gate. -/
theorem CeilingInvariant.resets {mux next : Multiplexer} (invariant : mux.CeilingInvariant)
    (resets : mux.Resets next)
    (recorded : ∀ (request : Nat) (issued : IssuedRequest),
      next.requests[request]? = some issued → issued.SendRecorded) :
    next.CeilingInvariant where
  correlation := invariant.correlation.resets resets
  held request after found := by
    obtain ⟨before, foundBefore, continues⟩ :=
      exists_of_forall₂_right resets.continues found
    refine .of_earlier (recorded request after found) ?_
    have session_le := (invariant.correlation.accounted request before foundBefore).session_le
    have session := continues.session
    have newSession := resets.session
    omega

theorem CeilingInvariant.unresolved {mux : Multiplexer} (invariant : mux.CeilingInvariant)
    {request : Nat} {issued : IssuedRequest} (found : mux.requests[request]? = some issued)
    (unanswered : issued.answeredBy = none) (payload : Bytes) :
    issued.pending.future ≠ some (.result payload) := by
  intro resolved
  obtain ⟨index, -, answered, -⟩ :=
    (invariant.correlation.accounted request issued found).result payload resolved
  simp [unanswered] at answered

theorem CeilingInvariant.of_same {mux next : Multiplexer} (invariant : mux.CeilingInvariant)
    (correlation : next.CorrelationInvariant) (requests : next.requests = mux.requests)
    (session : next.session = mux.session) : next.CeilingInvariant where
  correlation := correlation
  held := by
    rw [requests, session]
    exact invariant.held

theorem CeilingInvariant.issueRequest {mux next : Multiplexer} {messageType : Nat}
    (invariant : mux.CeilingInvariant) (usable : mux.usable = true)
    (issued : mux.issueRequest messageType = .ok next) : next.CeilingInvariant := by
  have correlation := invariant.correlation.issueRequest usable issued
  obtain ⟨-, rfl⟩ := issueRequest_eq_ok issued
  refine ⟨correlation, fun request cell found => ?_⟩
  rcases getElem?_concat_eq_some.mp found with old | ⟨-, rfl⟩
  · exact invariant.held request cell old
  · exact ⟨⟨fun _ => rfl, fun _ => rfl, by simp⟩, by simp, fun _ => rfl⟩

theorem CeilingInvariant.receive {mux next : Multiplexer} (invariant : mux.CeilingInvariant)
    {correlationId messageType : Nat} {payload : Bytes} {responseFinal : Bool}
    (stepped : mux.step (.receive correlationId messageType payload responseFinal) = some next) :
    next.CeilingInvariant := by
  have correlation := invariant.correlation.step stepped
  simp only [step, dispatchCorrelated] at stepped
  cases found : mux.correlated.lookup correlationId with
  | none =>
      simp only [found] at stepped
      obtain rfl := Option.some.inj stepped
      exact invariant.of_same correlation rfl rfl
  | some request =>
      cases responseFinal with
      | false =>
          simp only [found] at stepped
          obtain rfl := Option.some.inj stepped
          exact invariant.of_same correlation rfl rfl
      | true =>
          simp only [found] at stepped
          obtain rfl := Option.some.inj stepped
          refine ⟨correlation, fun other issued foundOther => ?_⟩
          obtain ⟨before, foundBefore, rfl⟩ := getElem?_modify_eq_some.mp foundOther
          have held := invariant.held other before foundBefore
          split_ifs
          · have recorded := sendRecorded_settle held.recorded (.result payload)
            refine ⟨⟨recorded.sending, recorded.draining, recorded.awaiting⟩, ?_, ?_⟩
            · intro current error
              have unreset := held.unreset (by rwa [IssuedRequest.settle_eq] at current) error
              change (before.settle _).pending.future ≠ _
              unfold IssuedRequest.settle
              split
              · simp
              · exact unreset
            · intro mayBe
              exact absurd mayBe.unanswered (by simp)
          · exact held

/-- Transitions that meet the condition keep every slot that is needed. -/
theorem CeilingInvariant.step {mux next : Multiplexer} (invariant : mux.CeilingInvariant)
    (action : MultiplexerAction) (keeps : mux.KeepsSlots action)
    (stepped : mux.step action = some next) : next.CeilingInvariant := by
  have correlation := invariant.correlation.step stepped
  have recorded : ∀ (request : Nat) (issued : IssuedRequest),
      mux.requests[request]? = some issued → issued.SendRecorded :=
    fun request issued found => (invariant.held request issued found).recorded
  cases action with
  | leave =>
      obtain rfl := Option.some.inj stepped
      exact invariant.of_same correlation rfl rfl
  | hello =>
      simp only [Multiplexer.step] at stepped
      split_ifs at stepped
      obtain rfl := Option.some.inj stepped
      exact invariant.of_same correlation rfl rfl
  | setConnected =>
      simp only [Multiplexer.step] at stepped
      split_ifs at stepped with ready
      obtain rfl := Option.some.inj stepped
      exact invariant.resets
        { continues := allContinue_of_requests_eq rfl
          session := rfl
          received := rfl
          empty := invariant.correlation.greeted ready.1 (by simpa using ready.2) }
        recorded
  | setDisconnected =>
      obtain rfl := Option.some.inj stepped
      exact invariant.resets mux.setDisconnected_resets
        (sendRecorded_of_setDisconnected recorded)
  | issue messageType =>
      simp only [Multiplexer.step] at stepped
      split_ifs at stepped with usable
      cases issued : mux.issueRequest messageType with
      | ok registered =>
          rw [issued] at stepped
          obtain rfl := Option.some.inj stepped
          exact invariant.issueRequest usable issued
      | error _ =>
          rw [issued] at stepped
          obtain rfl := Option.some.inj stepped
          exact invariant
  | oneWay =>
      simp only [Multiplexer.step] at stepped
      cases taken : mux.nextCorrelationId with
      | ok result =>
          rw [taken] at stepped
          obtain rfl := Option.some.inj stepped
          have after := nextCorrelationId_eq_ok taken
          exact invariant.of_same correlation (by rw [after]) (by rw [after])
      | error _ =>
          rw [taken] at stepped
          obtain rfl := Option.some.inj stepped
          exact invariant
  | write request =>
      obtain ⟨before, outcome, ran, step⟩ :=
        taskStep_of_runTask IssuedRequest.taskRun_write stepped
      exact invariant.taskStep step ((invariant.held request before step.found).write ran)
  | sendDone request result =>
      have task : mux.runTask request (IssuedRequest.sendDone · result) = some next := stepped
      obtain ⟨before, outcome, ran, step⟩ :=
        taskStep_of_runTask IssuedRequest.taskRun_sendDone task
      exact invariant.taskStep step ((invariant.held request before step.found).sendDone ran)
  | resume request =>
      obtain ⟨before, outcome, ran, step⟩ :=
        taskStep_of_runTask IssuedRequest.taskRun_resume stepped
      have held := invariant.held request before step.found
      refine invariant.taskStep step (held.taskRun step.run
        (IssuedRequest.taskCleanup_resume held.recorded ran) fun mayBe => ?_)
      obtain ⟨phase, send⟩ := keeps before step.found mayBe
      exact IssuedRequest.finished_eq_false_of_resume_sent held mayBe.current
        (invariant.unresolved step.found mayBe.unanswered) phase send ran
  | cancel request =>
      obtain ⟨before, outcome, ran, step⟩ :=
        taskStep_of_runTask IssuedRequest.taskRun_cancel stepped
      have held := invariant.held request before step.found
      refine invariant.taskStep step (held.taskRun step.run
        (IssuedRequest.taskCleanup_cancel held.recorded ran) fun mayBe => ?_)
      obtain ⟨phase, send⟩ := keeps before step.found mayBe
      simp only [IssuedRequest.cancel, IssuedRequest.drain, phase, send,
        Option.some.injEq] at ran
      rw [← ran]
      rfl
  | timeout request =>
      obtain ⟨before, outcome, ran, step⟩ :=
        taskStep_of_runTask IssuedRequest.taskRun_timeout stepped
      have held := invariant.held request before step.found
      exact invariant.taskStep step (held.taskRun step.run
        (IssuedRequest.taskCleanup_timeout held.recorded ran)
        fun mayBe => (keeps before step.found mayBe).elim)
  | receive correlationId messageType payload responseFinal => exact invariant.receive stepped

theorem ceilingInvariant_new : ({} : Multiplexer).CeilingInvariant where
  correlation := correlationInvariant_new
  held := by simp

end Multiplexer

end FitzClient
