import FitzClient.Multiplexer

/-!
# One call of `_issue_request`

A request task touches shared state in one place, its entry of the correlation
table.  Between two suspensions it leaves the table alone or removes the entry
under its own id, whoever is registered there by then.  It removes the entry
on four paths: a send that fails before the request counts as sent, a send
that fails while it is drained, and a second cancellation during the drain.
-/

namespace FitzClient

/-- `after` is the same call as `before`: its history has not changed, and its
future is the one it had or has been dropped. -/
structure IssuedRequest.Continues (before after : IssuedRequest) : Prop where
  correlationId : after.pending.correlationId = before.pending.correlationId
  session : after.session = before.session
  registeredAt : after.registeredAt = before.registeredAt
  answeredBy : after.answeredBy = before.answeredBy
  result : ∀ payload, after.pending.future = some (.result payload) →
    before.pending.future = some (.result payload)
  returned : ∀ payload, after.phase = .returned payload →
    after.pending.future = some (.result payload) ∨
      before.phase = .returned payload ∧
        (before.pending.future = some (.result payload) →
          after.pending.future = some (.result payload))

/-- A run of a request task from one suspension to the next: the call goes on
and only its own registration can leave the table. -/
structure TaskRun (before : IssuedRequest) (correlated : CorrelationTable)
    (outcome : IssuedRequest × CorrelationTable) : Prop where
  continues : before.Continues outcome.1
  future : outcome.1.pending.future = before.pending.future ∨
    outcome.1.pending.future = none
  lookup : ∀ correlationId,
    outcome.2.lookup correlationId = correlated.lookup correlationId ∨
      correlationId = before.pending.correlationId ∧
        outcome.2.lookup correlationId = none

namespace IssuedRequest

theorem Continues.refl (issued : IssuedRequest) : issued.Continues issued :=
  ⟨rfl, rfl, rfl, rfl, fun _ result => result, fun _ returned => Or.inr ⟨returned, id⟩⟩

variable {issued : IssuedRequest} {correlated : CorrelationTable}

theorem lookup_remove (pending : PendingRequest) (correlated : CorrelationTable)
    (correlationId : Nat) :
    (pending.remove correlated).lookup correlationId = correlated.lookup correlationId ∨
      correlationId = pending.correlationId ∧
        (pending.remove correlated).lookup correlationId = none := by
  by_cases same : correlationId = pending.correlationId
  · exact Or.inr ⟨same, by rw [same, PendingRequest.remove, AList.lookup_erase]⟩
  · exact Or.inl (by simp [PendingRequest.remove, same])

theorem taskRun_abandon (error : RequestError) :
    TaskRun issued correlated (issued.abandon correlated error) := by
  by_cases sent : issued.pending.sent = true
  · constructor
    · constructor <;> simp [abandon, PendingRequest.abandon, sent]
    · exact Or.inr (by simp [abandon, PendingRequest.abandon, sent])
    · simp [abandon, PendingRequest.abandon, sent]
  · constructor
    · constructor <;> simp [abandon, PendingRequest.abandon, sent]
    · exact Or.inl (by simp [abandon, PendingRequest.abandon, sent])
    · intro correlationId
      simpa [abandon, PendingRequest.abandon, sent] using
        lookup_remove issued.pending correlated correlationId

theorem taskRun_markSent {outcome : IssuedRequest × CorrelationTable}
    (run : TaskRun issued.markSent correlated outcome) : TaskRun issued correlated outcome where
  continues := ⟨run.continues.correlationId, run.continues.session,
    run.continues.registeredAt, run.continues.answeredBy, run.continues.result,
    run.continues.returned⟩
  future := run.future
  lookup := run.lookup

theorem taskRun_handleError (error : RequestError) :
    TaskRun issued correlated (issued.handleError correlated error) := by
  cases error with
  | timeout => exact taskRun_abandon .fitzTimeout
  | cancelled => exact taskRun_abandon .cancelled
  | fitzTimeout => exact taskRun_markSent (taskRun_abandon .fitzTimeout)
  | fitzConnection message => exact taskRun_markSent (taskRun_abandon (.fitzConnection message))
  | other =>
      by_cases sent : issued.pending.sent = true
      · rw [handleError, if_pos sent]
        exact taskRun_markSent (taskRun_abandon .other)
      · rw [handleError, if_neg sent]
        exact
          { continues := ⟨rfl, rfl, rfl, rfl, fun _ result => result, by simp⟩
            future := Or.inl rfl
            lookup := lookup_remove issued.pending correlated }

/-- A registration that was removed before the task went on is still missing. -/
theorem taskRun_of_removed {outcome : IssuedRequest × CorrelationTable}
    (run : TaskRun issued (issued.pending.remove correlated) outcome) :
    TaskRun issued correlated outcome where
  continues := run.continues
  future := run.future
  lookup correlationId := by
    rcases run.lookup correlationId with same | gone
    · rw [same]
      exact lookup_remove issued.pending correlated correlationId
    · exact Or.inr gone

theorem taskRun_drain : TaskRun issued correlated (issued.drain correlated) := by
  unfold drain
  split
  · exact ⟨⟨rfl, rfl, rfl, rfl, fun _ result => result, by simp⟩, Or.inl rfl,
      fun _ => Or.inl rfl⟩
  · exact taskRun_markSent (taskRun_handleError .cancelled)
  · exact taskRun_of_removed (taskRun_handleError .cancelled)

theorem taskRun_awaitFuture : TaskRun issued correlated (issued.awaitFuture correlated) := by
  unfold awaitFuture
  split
  next payload resolved =>
    refine ⟨⟨rfl, rfl, rfl, rfl, fun _ result => result, ?_⟩, Or.inl rfl,
      fun _ => Or.inl rfl⟩
    intro other returned
    obtain rfl : payload = other := by simpa using returned
    exact Or.inl resolved
  next error _ => exact taskRun_handleError error
  next => exact ⟨⟨rfl, rfl, rfl, rfl, fun _ result => result, by simp⟩, Or.inl rfl,
      fun _ => Or.inl rfl⟩

variable {outcome : IssuedRequest × CorrelationTable}

theorem taskRun_resume (resumed : issued.resume correlated = some outcome) :
    TaskRun issued correlated outcome := by
  unfold resume at resumed
  split at resumed
  · split at resumed
    · simp at resumed
    · obtain rfl := Option.some.inj resumed
      exact taskRun_markSent taskRun_awaitFuture
    · obtain rfl := Option.some.inj resumed
      exact taskRun_drain
    · obtain rfl := Option.some.inj resumed
      exact taskRun_handleError _
  · split_ifs at resumed
    obtain rfl := Option.some.inj resumed
    exact taskRun_drain
  · split_ifs at resumed
    obtain rfl := Option.some.inj resumed
    exact taskRun_awaitFuture
  all_goals simp at resumed

theorem taskRun_cancel (cancelled : issued.cancel correlated = some outcome) :
    TaskRun issued correlated outcome := by
  unfold cancel at cancelled
  split at cancelled
  · obtain rfl := Option.some.inj cancelled
    exact taskRun_drain
  · obtain rfl := Option.some.inj cancelled
    exact taskRun_of_removed (taskRun_handleError .cancelled)
  · obtain rfl := Option.some.inj cancelled
    exact taskRun_handleError .cancelled
  all_goals simp at cancelled

theorem taskRun_timeout (expired : issued.timeout correlated = some outcome) :
    TaskRun issued correlated outcome := by
  unfold timeout at expired
  split_ifs at expired
  obtain rfl := Option.some.inj expired
  exact taskRun_handleError .timeout

theorem taskRun_write (wrote : issued.write correlated = some outcome) :
    TaskRun issued correlated outcome := by
  unfold write at wrote
  split_ifs at wrote
  obtain rfl := Option.some.inj wrote
  exact ⟨⟨rfl, rfl, rfl, rfl, fun _ result => result, fun _ returned => Or.inr ⟨returned, id⟩⟩,
    Or.inl rfl, fun _ => Or.inl rfl⟩

theorem taskRun_sendDone {result : SendFuture}
    (done : issued.sendDone result correlated = some outcome) :
    TaskRun issued correlated outcome := by
  unfold sendDone at done
  split_ifs at done
  obtain rfl := Option.some.inj done
  exact ⟨⟨rfl, rfl, rfl, rfl, fun _ result => result, fun _ returned => Or.inr ⟨returned, id⟩⟩,
    Or.inl rfl, fun _ => Or.inl rfl⟩

end IssuedRequest

namespace IssuedRequest

/-- The exception makes the handlers remove the entry of the call. -/
def removesOn (issued : IssuedRequest) : RequestError → Bool
  | .timeout | .cancelled | .other => !issued.pending.sent
  | .fitzTimeout | .fitzConnection _ => false

/-- The call removes its entry when it resumes. -/
def removesOnResume (issued : IssuedRequest) : Bool :=
  match issued.phase, issued.send with
  | .sending, .raised .timeout | .sending, .raised .cancelled | .sending, .raised .other => true
  | .draining, .raised _ => true
  | _, _ => false

/-- The call removes its entry when it is cancelled. -/
def removesOnCancel (issued : IssuedRequest) : Bool :=
  match issued.phase, issued.send with
  | .sending, .raised _ => true
  | .draining, _ => true
  | _, _ => false

/-- The send counts as sent exactly once the call has left its first awaits. -/
structure SendRecorded (issued : IssuedRequest) : Prop where
  sending : issued.phase = .sending → issued.pending.sent = false
  draining : issued.phase = .draining → issued.pending.sent = false
  awaiting : issued.phase = .awaiting → issued.pending.sent = true ∧ issued.send ≠ .pending

end IssuedRequest

/-- A run of a task that ends it or suspends it again, and whether it removes
the entry of the call. -/
structure TaskCleanup (before : IssuedRequest) (correlated : CorrelationTable) (removes : Bool)
    (outcome : IssuedRequest × CorrelationTable) : Prop where
  written : outcome.1.written = before.written
  send : outcome.1.send = before.send
  recorded : outcome.1.SendRecorded
  lookup : ∀ correlationId, outcome.2.lookup correlationId =
    if removes = true ∧ correlationId = before.pending.correlationId then none
    else correlated.lookup correlationId
  finished : removes = true → outcome.1.phase.finished = true
  drained : outcome.1.phase.finished = true → outcome.1.send = .pending → removes = true

namespace IssuedRequest

variable {issued : IssuedRequest} {correlated : CorrelationTable}
  {outcome : IssuedRequest × CorrelationTable}

theorem sendRecorded_of_finished (finished : issued.phase.finished = true) :
    issued.SendRecorded := by
  constructor <;> intro phase <;> simp [phase, RequestPhase.finished] at finished

theorem taskCleanup_abandon (correlated : CorrelationTable) (error : RequestError)
    (drained : issued.send = .pending → issued.pending.sent = false) :
    TaskCleanup issued correlated (!issued.pending.sent) (issued.abandon correlated error) where
  written := rfl
  send := rfl
  recorded := sendRecorded_of_finished rfl
  lookup correlationId := by
    cases sent : issued.pending.sent with
    | true => simp [abandon, PendingRequest.abandon, sent]
    | false =>
        by_cases same : correlationId = issued.pending.correlationId
        · subst same
          simp [abandon, PendingRequest.abandon, PendingRequest.remove, sent]
        · simp [abandon, PendingRequest.abandon, PendingRequest.remove, sent, same]
  finished _ := rfl
  drained _ pending := by simp [drained pending]

theorem taskCleanup_handleError (correlated : CorrelationTable) (error : RequestError)
    (drained : issued.send = .pending → issued.removesOn error = true) :
    TaskCleanup issued correlated (issued.removesOn error)
      (issued.handleError correlated error) := by
  have unsent : issued.send = .pending → issued.pending.sent = false := by
    intro pending
    have removes := drained pending
    cases sent : issued.pending.sent with
    | false => rfl
    | true => cases error <;> simp [removesOn, sent] at removes
  have marked : issued.removesOn error = false → TaskCleanup issued correlated false
      (issued.markSent.abandon correlated error) := by
    intro keeps
    have notPending : issued.send ≠ .pending := by
      intro pending
      simp [drained pending] at keeps
    have cleanup : TaskCleanup issued.markSent correlated false
        (issued.markSent.abandon correlated error) :=
      taskCleanup_abandon correlated error fun pending => (notPending pending).elim
    exact ⟨cleanup.written, cleanup.send, cleanup.recorded, cleanup.lookup, cleanup.finished,
      cleanup.drained⟩
  cases error with
  | timeout => exact taskCleanup_abandon correlated .fitzTimeout unsent
  | cancelled => exact taskCleanup_abandon correlated .cancelled unsent
  | fitzTimeout => exact marked rfl
  | fitzConnection message => exact marked rfl
  | other =>
      cases sent : issued.pending.sent with
      | true =>
          have keeps : issued.removesOn .other = false := by simp [removesOn, sent]
          rw [handleError, if_pos sent, keeps]
          exact marked keeps
      | false =>
          have removes : issued.removesOn .other = true := by simp [removesOn, sent]
          rw [handleError, if_neg (by simp [sent]), removes]
          have abandoned := taskCleanup_abandon correlated .other unsent
          simpa [sent, abandon, PendingRequest.abandon] using abandoned

/-- Removing the entry before the handlers run removes it. -/
theorem taskCleanup_of_removed
    (cleanup : TaskCleanup issued (issued.pending.remove correlated) true outcome) :
    TaskCleanup issued correlated true outcome where
  written := cleanup.written
  send := cleanup.send
  recorded := cleanup.recorded
  lookup correlationId := by
    rw [cleanup.lookup]
    by_cases same : correlationId = issued.pending.correlationId
    · simp [same]
    · simp [same, PendingRequest.remove]
  finished := cleanup.finished
  drained := cleanup.drained

/-- The drain of a call that is not counted as sent. -/
theorem taskCleanup_drain (correlated : CorrelationTable)
    (unsent : issued.pending.sent = false) :
    TaskCleanup issued correlated
      (match issued.send with | .raised _ => true | _ => false) (issued.drain correlated) := by
  unfold drain
  cases send : issued.send with
  | pending =>
      exact
        { written := rfl
          send := send.symm
          recorded := ⟨by simp, fun _ => unsent, by simp⟩
          lookup := by simp
          finished := by simp
          drained := by simp [RequestPhase.finished] }
  | returned =>
      have cleanup : TaskCleanup issued.markSent correlated false
          (issued.markSent.handleError correlated .cancelled) :=
        taskCleanup_handleError correlated .cancelled fun pending => by
          simp [markSent, send] at pending
      exact ⟨cleanup.written, cleanup.send, cleanup.recorded, cleanup.lookup, cleanup.finished,
        cleanup.drained⟩
  | raised error =>
      have removes : issued.removesOn .cancelled = true := by simp [removesOn, unsent]
      have cleanup := taskCleanup_handleError (issued.pending.remove correlated) .cancelled
        fun _ => removes
      rw [removes] at cleanup
      exact taskCleanup_of_removed cleanup

theorem taskCleanup_awaitFuture (sent : issued.pending.sent = true)
    (notPending : issued.send ≠ .pending) :
    TaskCleanup issued correlated false (issued.awaitFuture correlated) := by
  unfold awaitFuture
  split
  next payload _ =>
    exact
      { written := rfl
        send := rfl
        recorded := sendRecorded_of_finished rfl
        lookup := by simp
        finished := by simp
        drained := fun _ pending => (notPending pending).elim }
  next error _ =>
    have keeps : issued.removesOn error = false := by cases error <;> simp [removesOn, sent]
    have cleanup := taskCleanup_handleError correlated error fun pending =>
      (notPending pending).elim
    rwa [keeps] at cleanup
  next =>
    exact
      { written := rfl
        send := rfl
        recorded := ⟨by simp, by simp, fun _ => ⟨sent, notPending⟩⟩
        lookup := by simp
        finished := by simp
        drained := fun _ pending => (notPending pending).elim }

theorem taskCleanup_resume (recorded : issued.SendRecorded)
    (resumed : issued.resume correlated = some outcome) :
    TaskCleanup issued correlated issued.removesOnResume outcome := by
  unfold resume at resumed
  cases phase : issued.phase with
  | sending =>
      have unsent := recorded.sending phase
      cases send : issued.send with
      | pending => simp [phase, send] at resumed
      | returned =>
          simp only [phase, send] at resumed
          obtain rfl := Option.some.inj resumed
          have cleanup : TaskCleanup issued.markSent correlated false
              (issued.markSent.awaitFuture correlated) :=
            taskCleanup_awaitFuture rfl (by simp [markSent, send])
          simp only [removesOnResume, phase, send]
          exact ⟨cleanup.written, cleanup.send, cleanup.recorded, cleanup.lookup,
            cleanup.finished, cleanup.drained⟩
      | raised error =>
          have notPending : issued.send ≠ .pending := by simp [send]
          have drained := taskCleanup_drain correlated unsent
          have handled := taskCleanup_handleError correlated error
            fun pending => (notPending pending).elim
          have same : error ≠ .cancelled → issued.removesOnResume = issued.removesOn error := by
            intro other
            cases error <;> simp_all [removesOnResume, removesOn]
          cases error with
          | cancelled =>
              simp only [phase, send] at resumed
              obtain rfl := Option.some.inj resumed
              simpa [removesOnResume, phase, send] using drained
          | _ =>
              simp only [phase, send] at resumed
              obtain rfl := Option.some.inj resumed
              rw [same (by simp)]
              exact handled
  | draining =>
      have unsent := recorded.draining phase
      simp only [phase] at resumed
      split_ifs at resumed with pending
      obtain rfl := Option.some.inj resumed
      have cleanup := taskCleanup_drain correlated unsent
      cases send : issued.send with
      | pending => exact (pending send).elim
      | returned => simpa [removesOnResume, phase, send] using cleanup
      | raised error => simpa [removesOnResume, phase, send] using cleanup
  | awaiting =>
      obtain ⟨sent, notPending⟩ := recorded.awaiting phase
      simp only [phase] at resumed
      split_ifs at resumed
      obtain rfl := Option.some.inj resumed
      have keeps : issued.removesOnResume = false := by simp [removesOnResume, phase]
      rw [keeps]
      exact taskCleanup_awaitFuture sent notPending
  | returned payload => simp [phase] at resumed
  | raised error => simp [phase] at resumed

theorem taskCleanup_cancel (recorded : issued.SendRecorded)
    (cancelled : issued.cancel correlated = some outcome) :
    TaskCleanup issued correlated issued.removesOnCancel outcome := by
  unfold cancel at cancelled
  cases phase : issued.phase with
  | sending =>
      simp only [phase] at cancelled
      obtain rfl := Option.some.inj cancelled
      have cleanup := taskCleanup_drain correlated (recorded.sending phase)
      cases send : issued.send <;> simpa [removesOnCancel, phase, send] using cleanup
  | draining =>
      simp only [phase] at cancelled
      obtain rfl := Option.some.inj cancelled
      have removes : issued.removesOn .cancelled = true := by
        simp [removesOn, recorded.draining phase]
      have cleanup := taskCleanup_handleError (issued.pending.remove correlated) .cancelled
        fun _ => removes
      rw [removes] at cleanup
      have removesOnCancel : issued.removesOnCancel = true := by
        simp [IssuedRequest.removesOnCancel, phase]
      rw [removesOnCancel]
      exact taskCleanup_of_removed cleanup
  | awaiting =>
      obtain ⟨sent, notPending⟩ := recorded.awaiting phase
      simp only [phase] at cancelled
      obtain rfl := Option.some.inj cancelled
      have cleanup := taskCleanup_handleError correlated .cancelled
        fun pending => (notPending pending).elim
      simpa [removesOnCancel, removesOn, phase, sent] using cleanup
  | returned payload => simp [phase] at cancelled
  | raised error => simp [phase] at cancelled

theorem taskCleanup_timeout (recorded : issued.SendRecorded)
    (expired : issued.timeout correlated = some outcome) :
    TaskCleanup issued correlated false outcome := by
  unfold timeout at expired
  split_ifs at expired with phase
  obtain rfl := Option.some.inj expired
  obtain ⟨sent, notPending⟩ := recorded.awaiting phase
  have cleanup := taskCleanup_handleError correlated .timeout
    fun pending => (notPending pending).elim
  simpa [removesOn, sent] using cleanup

end IssuedRequest

end FitzClient
