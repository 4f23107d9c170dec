import FitzClient.MultiplexerCorrelation

/-!
# Frames are written once

The send task of a request writes its frame at most once, and no transition
takes this back.  With the session and the correlation id of the request, which
never change either, this is all that the wires of a client depend on.
-/

namespace FitzClient

/-- A transition of the session or of a request task that neither takes a message
nor touches a wire. -/
def MultiplexerAction.isInternal : MultiplexerAction → Bool
  | leave | hello | setConnected | setDisconnected => true
  | sendDone .. | resume _ | cancel _ | timeout _ => true
  | issue _ | oneWay | write _ | receive .. => false

namespace IssuedRequest

variable {issued : IssuedRequest} {correlated : CorrelationTable}

@[simp]
theorem written_markSent : issued.markSent.written = issued.written :=
  rfl

@[simp]
theorem written_handleError (error : RequestError) :
    (issued.handleError correlated error).1.written = issued.written := by
  cases error with
  | other =>
      simp only [handleError]
      split <;> rfl
  | _ => rfl

@[simp]
theorem written_awaitFuture :
    (issued.awaitFuture correlated).1.written = issued.written := by
  unfold awaitFuture
  split <;> simp

@[simp]
theorem written_drain : (issued.drain correlated).1.written = issued.written := by
  unfold drain
  split <;> simp

variable {outcome : IssuedRequest × CorrelationTable}

theorem written_resume (resumed : issued.resume correlated = some outcome) :
    outcome.1.written = issued.written := by
  unfold resume at resumed
  split at resumed
  · split at resumed
    · simp at resumed
    all_goals
      obtain rfl := Option.some.inj resumed
      simp
  · split_ifs at resumed
    obtain rfl := Option.some.inj resumed
    simp
  · split_ifs at resumed
    obtain rfl := Option.some.inj resumed
    simp
  all_goals simp at resumed

theorem written_cancel (cancelled : issued.cancel correlated = some outcome) :
    outcome.1.written = issued.written := by
  unfold cancel at cancelled
  split at cancelled
  · obtain rfl := Option.some.inj cancelled
    simp
  · obtain rfl := Option.some.inj cancelled
    simp
  · obtain rfl := Option.some.inj cancelled
    simp
  all_goals simp at cancelled

theorem written_timeout (expired : issued.timeout correlated = some outcome) :
    outcome.1.written = issued.written := by
  unfold timeout at expired
  split_ifs at expired
  obtain rfl := Option.some.inj expired
  simp

theorem written_sendDone {result : SendFuture}
    (done : issued.sendDone result correlated = some outcome) :
    outcome.1.written = issued.written := by
  unfold sendDone at done
  split_ifs at done
  obtain rfl := Option.some.inj done
  rfl

/-- The same request, whose frame stays written. -/
structure GoesOn (before after : IssuedRequest) : Prop where
  session : after.session = before.session
  correlationId : after.pending.correlationId = before.pending.correlationId
  written : before.written = true → after.written = true

theorem GoesOn.refl (issued : IssuedRequest) : issued.GoesOn issued :=
  ⟨rfl, rfl, id⟩

theorem goesOn_settle (issued : IssuedRequest) (outcome : ResponseFuture) :
    issued.GoesOn (issued.settle outcome) := by
  rw [settle_eq]
  exact ⟨rfl, rfl, id⟩

end IssuedRequest

namespace Multiplexer

/-- Every request of `next` was there before and has gone on. -/
def AllGoOn (mux next : Multiplexer) : Prop :=
  List.Forall₂ IssuedRequest.GoesOn mux.requests next.requests

theorem allGoOn_of_requests_eq {mux next : Multiplexer} (same : next.requests = mux.requests) :
    mux.AllGoOn next := by
  rw [AllGoOn, same]
  exact List.forall₂_same.mpr fun issued _ => .refl issued

variable {mux next : Multiplexer} {request : Nat}

theorem allGoOn_of_runTask
    {task : IssuedRequest → CorrelationTable → Option (IssuedRequest × CorrelationTable)}
    (taskRun : ∀ {issued correlated outcome}, task issued correlated = some outcome →
      TaskRun issued correlated outcome)
    (written : ∀ {issued correlated outcome}, task issued correlated = some outcome →
      issued.written = true → outcome.1.written = true)
    (stepped : mux.runTask request task = some next) : mux.AllGoOn next := by
  obtain ⟨before, outcome, ran, found, run, rfl⟩ := taskStep_of_runTask taskRun stepped
  exact forall₂_set .refl found
    ⟨run.continues.session, run.continues.correlationId, written ran⟩

theorem allGoOn_setDisconnected (mux : Multiplexer) : mux.AllGoOn mux.setDisconnected := by
  refine forall₂_mapIdx (fun request issued => ?_) mux.requests
  split_ifs
  · exact issued.goesOn_settle _
  · exact .refl issued

/-- A response settles one request. -/
theorem allGoOn_answer (mux : Multiplexer) (frame : CorrelatedFrame) (request : Nat) :
    mux.AllGoOn (mux.answer frame request) := by
  refine forall₂_modify .refl (fun issued => ?_) mux.requests request
  have settled := issued.goesOn_settle (.result frame.payload)
  exact ⟨settled.session, settled.correlationId, settled.written⟩

theorem allGoOn_of_nextCorrelationId {correlationId : Nat}
    (taken : mux.nextCorrelationId = .ok (correlationId, next)) : mux.AllGoOn next := by
  rw [nextCorrelationId_eq_ok taken]
  exact allGoOn_of_requests_eq rfl

/-- A request that is written goes on, and was not written before. -/
theorem write_eq_some (wrote : mux.step (.write request) = some next) :
    mux.AllGoOn next ∧ next.received = mux.received ∧
      (∃ before, mux.requests[request]? = some before ∧ before.written = false) ∧
      ∃ after, next.requests[request]? = some after ∧ after.written = true := by
  have goesOn : mux.AllGoOn next := by
    refine allGoOn_of_runTask IssuedRequest.taskRun_write ?_ wrote
    intro issued correlated outcome ran _
    unfold IssuedRequest.write at ran
    split_ifs at ran
    obtain rfl := Option.some.inj ran
    rfl
  obtain ⟨before, outcome, ran, found, -, rfl⟩ :=
    taskStep_of_runTask IssuedRequest.taskRun_write wrote
  unfold IssuedRequest.write at ran
  split_ifs at ran with ready
  obtain rfl := Option.some.inj ran
  refine ⟨goesOn, rfl, ⟨before, found, ready.2⟩, _, List.getElem?_set_self ?_, rfl⟩
  exact (List.getElem?_eq_some_iff.mp found).1

/-- A frame that arrives is logged in the session in which it arrives. -/
theorem receive_eq_some {correlationId messageType : Nat} {payload : Bytes}
    {responseFinal : Bool}
    (received : mux.step (.receive correlationId messageType payload responseFinal) = some next) :
    mux.AllGoOn next ∧ next.received = mux.received ++
      [{ correlationId, messageType, payload, responseFinal, session := mux.session }] := by
  simp only [step, dispatchCorrelated] at received
  cases found : mux.correlated.lookup correlationId with
  | none =>
      simp only [found] at received
      obtain rfl := Option.some.inj received
      exact ⟨allGoOn_of_requests_eq rfl, rfl⟩
  | some request =>
      cases responseFinal with
      | false =>
          simp only [found] at received
          obtain rfl := Option.some.inj received
          exact ⟨allGoOn_of_requests_eq rfl, rfl⟩
      | true =>
          simp only [found] at received
          obtain rfl := Option.some.inj received
          let frame : CorrelatedFrame :=
            { correlationId, messageType, payload, responseFinal := true, session := mux.session }
          exact ⟨allGoOn_answer mux frame request, rfl⟩

/-- A transition that takes no message and no frame. -/
theorem internal_eq_some {action : MultiplexerAction} (internal : action.isInternal = true)
    (stepped : mux.step action = some next) :
    mux.AllGoOn next ∧ next.received = mux.received := by
  have task : ∀ {request : Nat} {task}, (∀ {issued correlated outcome},
      task issued correlated = some outcome → TaskRun issued correlated outcome) →
      (∀ {issued correlated outcome}, task issued correlated = some outcome →
        outcome.1.written = issued.written) →
      mux.runTask request task = some next → mux.AllGoOn next ∧ next.received = mux.received := by
    intro request task taskRun written ran
    refine ⟨allGoOn_of_runTask taskRun (fun ran before => (written ran).trans before) ran, ?_⟩
    obtain ⟨_, _, -, taskStep⟩ := taskStep_of_runTask taskRun ran
    rw [taskStep.next_eq]
  cases action with
  | leave =>
      obtain rfl := Option.some.inj stepped
      exact ⟨allGoOn_of_requests_eq rfl, rfl⟩
  | hello =>
      simp only [step] at stepped
      split_ifs at stepped
      obtain rfl := Option.some.inj stepped
      exact ⟨allGoOn_of_requests_eq rfl, rfl⟩
  | setConnected =>
      simp only [step] at stepped
      split_ifs at stepped
      obtain rfl := Option.some.inj stepped
      exact ⟨allGoOn_of_requests_eq rfl, rfl⟩
  | setDisconnected =>
      obtain rfl := Option.some.inj stepped
      exact ⟨mux.allGoOn_setDisconnected, rfl⟩
  | sendDone request outcome =>
      exact task IssuedRequest.taskRun_sendDone IssuedRequest.written_sendDone stepped
  | resume request => exact task IssuedRequest.taskRun_resume IssuedRequest.written_resume stepped
  | cancel request => exact task IssuedRequest.taskRun_cancel IssuedRequest.written_cancel stepped
  | timeout request =>
      exact task IssuedRequest.taskRun_timeout IssuedRequest.written_timeout stepped
  | _ => cases internal

end Multiplexer

end FitzClient
