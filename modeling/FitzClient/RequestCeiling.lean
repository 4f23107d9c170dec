import FitzClient.MultiplexerSlots
import FitzClient.RequestAdmission
import FitzClient.RequestGateSlots

/-!
# The in-flight ceiling

The gate has no more slots than the broker accepts requests, and each issued
request holds a token.  The broker counts frames, though: a call that times
out or is cancelled after its frame was handed over gives its slot to the next
caller while the broker still owes an answer.

When no call gives its slot back that early, distinct unanswered requests hold
distinct unreleased tokens of the current gate, so the account of the gate
bounds what the broker counts.
-/

namespace FitzClient

namespace RequestGate

/-- A later state of the same gate: no token is taken back, and a closed gate
stays closed. -/
structure Evolves (gate next : RequestGate) : Prop where
  released : gate.released <+: next.released
  closed : gate.closed = true → next.closed = true
  maximum : next.maximum = gate.maximum
  accounted : next.SlotInvariant 0

variable {gate next : RequestGate}

/-- A token that `acquire` hands out is a new one. -/
theorem acquire_token {token : Nat} (acquired : gate.acquire.1 = .token token) :
    gate.closed = false ∧ token = gate.released.length ∧
      gate.acquire.2.released = gate.released ++ [false] := by
  unfold acquire at acquired ⊢
  split_ifs at acquired ⊢ with closed free
  simp_all [releaseToken]

theorem acquire_evolves (invariant : gate.SlotInvariant 0) : gate.Evolves gate.acquire.2 where
  released := by
    unfold acquire
    split_ifs
    · exact List.prefix_rfl
    · exact List.prefix_append _ _
    · exact List.prefix_rfl
    · exact List.prefix_rfl
  closed closed := by
    unfold acquire
    rw [if_pos closed]
    exact closed
  maximum := step_maximum (show gate.step .acquire = some _ from rfl)
  accounted := invariant.acquire

/-- A cancellation changes nothing but the cancelled task. -/
theorem cancel_eq {waiter : Nat} (cancelled : gate.cancel waiter = some next) :
    ∃ acquirers, next = { gate with acquirers } := by
  unfold cancel at cancelled
  split at cancelled
  · simp at cancelled
  · split_ifs at cancelled
    · exact ⟨_, (Option.some.inj cancelled).symm⟩
    · exact ⟨_, (Option.some.inj cancelled).symm⟩

theorem cancel_evolves (invariant : gate.SlotInvariant 0) {waiter : Nat}
    (cancelled : gate.cancel waiter = some next) : gate.Evolves next := by
  have accounted := invariant.cancel cancelled
  obtain ⟨acquirers, rfl⟩ := cancel_eq cancelled
  exact ⟨List.prefix_rfl, id, rfl, accounted⟩

/-- A call that resumes without a token leaves the tokens alone; a token it
gets is a new one of an open gate. -/
theorem resume_tokens {waiter : Nat} {result : Option Nat × RequestGate}
    (resumed : gate.resume waiter = some result) :
    result.2.closed = gate.closed ∧
      (result.1 = none ∧ result.2.released = gate.released ∨
        gate.closed = false ∧ result.1 = some gate.released.length ∧
          result.2.released = gate.released ++ [false]) := by
  unfold resume at resumed
  split at resumed
  · simp at resumed
  · split_ifs at resumed with suspended granted closed queued <;>
      obtain rfl := Option.some.inj resumed
    · exact ⟨by simp [wake], Or.inl ⟨rfl, by simp [wake]⟩⟩
    · exact ⟨rfl, Or.inr ⟨by simpa using closed, rfl, rfl⟩⟩
    · exact ⟨rfl, Or.inl ⟨rfl, rfl⟩⟩
    · exact ⟨by simp [wake], Or.inl ⟨rfl, by simp [wake]⟩⟩

theorem resume_evolves (invariant : gate.SlotInvariant 0) (positive : 1 ≤ gate.maximum)
    {waiter : Nat} {result : Option Nat × RequestGate}
    (keeps : gate.KeepsAccount (.resume waiter))
    (resumed : gate.resume waiter = some result) : gate.Evolves result.2 := by
  obtain ⟨closed, tokens⟩ := resume_tokens resumed
  refine ⟨?_, fun wasClosed => closed.trans wasClosed, ?_,
    invariant.resume positive keeps resumed⟩
  · rcases tokens with ⟨-, same⟩ | ⟨-, -, issued⟩
    · exact same ▸ List.prefix_rfl
    · exact issued ▸ List.prefix_append _ _
  · have stepped : gate.step (.resume waiter) = some result.2 := by simp [step, resumed]
    exact step_maximum stepped

theorem close_evolves (invariant : gate.SlotInvariant 0) : gate.Evolves gate.close := by
  refine ⟨?_, ?_, step_maximum (show gate.step .close = some _ from rfl), invariant.close⟩
  · unfold close
    split_ifs
    · exact List.prefix_rfl
    · exact List.prefix_rfl
  · intro closed
    simp [close, closed]

theorem close_closed (gate : RequestGate) : gate.close.closed = true := by
  unfold close
  split_ifs with closed
  · exact closed
  · rfl

theorem acquire_closed (gate : RequestGate) : gate.acquire.2.closed = gate.closed := by
  unfold acquire
  split_ifs <;> rfl

theorem release_closed {token : Nat} (released : gate.release token = some next) :
    next.closed = gate.closed := by
  unfold release at released
  split at released
  · cases released
  · rw [← Option.some.inj released]
  · rw [← Option.some.inj released, releaseSlot_closed]

theorem release_eq {token : Nat} (unreleased : gate.released[token]? = some false) :
    gate.release token =
      some { gate with released := gate.released.set token true }.releaseSlot := by
  simp [release, unreleased]

end RequestGate

/-- Requests go on within a session: none is forgotten and none starts again. -/
structure Multiplexer.Progresses (mux next : Multiplexer) : Prop where
  requests : List.Forall₂ (fun before after : IssuedRequest =>
      after.session = before.session ∧
        (before.phase.finished = true → after.phase.finished = true))
    mux.requests next.requests
  session : next.session = mux.session
  usable : next.usable = mux.usable
  greeted : next.greeted = mux.greeted
  protocolVersion : next.protocolVersion = mux.protocolVersion

namespace Multiplexer

variable {mux next : Multiplexer}

theorem TaskStep.progresses {request : Nat} {before : IssuedRequest}
    {outcome : IssuedRequest × CorrelationTable}
    (step : mux.TaskStep next request before outcome)
    (finished : before.phase.finished = true → outcome.1.phase.finished = true) :
    mux.Progresses next := by
  obtain ⟨found, run, rfl⟩ := step
  exact ⟨forall₂_set (fun _ => ⟨rfl, id⟩) found ⟨run.continues.session, finished⟩,
    rfl, rfl, rfl, rfl⟩

theorem progresses_of_write {request : Nat} (stepped : mux.step (.write request) = some next) :
    mux.Progresses next := by
  obtain ⟨before, outcome, ran, step⟩ :=
    taskStep_of_runTask IssuedRequest.taskRun_write stepped
  refine step.progresses ?_
  unfold IssuedRequest.write at ran
  split_ifs at ran
  obtain rfl := Option.some.inj ran
  exact id

theorem progresses_of_sendDone {request : Nat} {result : SendFuture}
    (stepped : mux.step (.sendDone request result) = some next) : mux.Progresses next := by
  have task : mux.runTask request (IssuedRequest.sendDone · result) = some next := stepped
  obtain ⟨before, outcome, ran, step⟩ :=
    taskStep_of_runTask IssuedRequest.taskRun_sendDone task
  refine step.progresses ?_
  unfold IssuedRequest.sendDone at ran
  split_ifs at ran
  obtain rfl := Option.some.inj ran
  exact id

theorem progresses_of_resume {request : Nat} (stepped : mux.step (.resume request) = some next) :
    mux.Progresses next := by
  obtain ⟨before, outcome, ran, step⟩ :=
    taskStep_of_runTask IssuedRequest.taskRun_resume stepped
  refine step.progresses fun finished => ?_
  simp [finished_eq_false_of_resume ran] at finished

theorem progresses_of_cancel {request : Nat} (stepped : mux.step (.cancel request) = some next) :
    mux.Progresses next := by
  obtain ⟨before, outcome, ran, step⟩ :=
    taskStep_of_runTask IssuedRequest.taskRun_cancel stepped
  refine step.progresses fun finished => ?_
  simp [finished_eq_false_of_cancel ran] at finished

theorem progresses_of_timeout {request : Nat}
    (stepped : mux.step (.timeout request) = some next) : mux.Progresses next := by
  obtain ⟨before, outcome, ran, step⟩ :=
    taskStep_of_runTask IssuedRequest.taskRun_timeout stepped
  refine step.progresses fun finished => ?_
  unfold IssuedRequest.timeout at ran
  split_ifs at ran with awaiting
  simp [awaiting, RequestPhase.finished] at finished

theorem progresses_of_receive {correlationId messageType : Nat} {payload : Bytes}
    {responseFinal : Bool}
    (stepped : mux.step (.receive correlationId messageType payload responseFinal) = some next) :
    mux.Progresses next := by
  have same : mux.Progresses mux :=
    ⟨List.forall₂_same.mpr fun _ _ => ⟨rfl, id⟩, rfl, rfl, rfl, rfl⟩
  simp only [step, dispatchCorrelated] at stepped
  cases found : mux.correlated.lookup correlationId with
  | none =>
      simp only [found] at stepped
      obtain rfl := Option.some.inj stepped
      exact ⟨same.requests, rfl, rfl, rfl, rfl⟩
  | some request =>
      cases responseFinal with
      | false =>
          simp only [found] at stepped
          obtain rfl := Option.some.inj stepped
          exact ⟨same.requests, rfl, rfl, rfl, rfl⟩
      | true =>
          simp only [found] at stepped
          obtain rfl := Option.some.inj stepped
          refine ⟨forall₂_modify (fun _ => ⟨rfl, id⟩) (fun issued => ?_) _ _, rfl, rfl, rfl, rfl⟩
          rw [IssuedRequest.settle_eq]
          exact ⟨rfl, id⟩

theorem Progresses.ended (progresses : mux.Progresses next) {request : Nat}
    (ended : mux.ended request = true) : next.ended request = true := by
  unfold Multiplexer.ended at ended ⊢
  cases found : mux.requests[request]? with
  | none => simp [found] at ended
  | some before =>
      obtain ⟨after, foundAfter, -, finished⟩ :=
        exists_of_forall₂_left progresses.requests found
      rw [found] at ended
      rw [foundAfter]
      exact finished ended

end Multiplexer

namespace RequestAdmission

/-- `gate` is the gate of the current session. -/
def Current (admission : RequestAdmission) (gate : Nat) : Prop :=
  admission.multiplexer.usable = true ∧ gate = admission.currentGate

/-- The tokens of the gates and the requests that hold them. -/
structure HoldsSlots (admission : RequestAdmission) : Prop where
  nonempty : 0 < admission.gates.length
  accounted : ∀ (index : Nat) (gate : RequestGate), admission.gates[index]? = some gate →
    gate.SlotInvariant 0 ∧ 1 ≤ gate.maximum
  parallel : admission.holders.length = admission.multiplexer.requests.length
  held : ∀ (request : Nat) (holder : SlotHolder), admission.holders[request]? = some holder →
    ∃ gate released, admission.gates[holder.gate]? = some gate ∧
      gate.released[holder.token]? = some released ∧
      (admission.multiplexer.ended request = false → released = false)
  distinct : PairwiseUnlike admission.holders Eq
  waitingInside : ∀ (index : Nat) (call : WaitingCall), admission.waiting[index]? = some call →
    call.gate < admission.gates.length
  waitingCurrent : ∀ (index : Nat) (call : WaitingCall) (gate : RequestGate),
    admission.waiting[index]? = some call → admission.gates[call.gate]? = some gate →
    gate.closed = false → admission.Current call.gate
  holderCurrent : ∀ (request : Nat) (issued : IssuedRequest) (holder : SlotHolder),
    admission.multiplexer.requests[request]? = some issued →
    admission.holders[request]? = some holder →
    issued.session = admission.multiplexer.session → admission.Current holder.gate
  sized : admission.multiplexer.usable = true ∨ admission.multiplexer.greeted = true →
    ∀ gate, admission.gates[admission.currentGate]? = some gate →
      gate.maximum = admission.maxInFlight
  enabled : admission.multiplexer.usable = true ∨ admission.multiplexer.greeted = true →
    admission.multiplexer.protocolVersion ≠ 0

variable {admission : RequestAdmission}

/-- Requests that go on keep their tokens. -/
theorem HoldsSlots.progresses {next : Multiplexer} (holds : admission.HoldsSlots)
    (progresses : admission.multiplexer.Progresses next) :
    { admission with multiplexer := next }.HoldsSlots where
  nonempty := holds.nonempty
  accounted := holds.accounted
  parallel := holds.parallel.trans progresses.requests.length_eq
  held request holder found := by
    obtain ⟨gate, released, foundGate, foundToken, unended⟩ := holds.held request holder found
    refine ⟨gate, released, foundGate, foundToken, fun notEnded => unended ?_⟩
    cases ended : admission.multiplexer.ended request with
    | false => rfl
    | true => simp [progresses.ended ended] at notEnded
  distinct := holds.distinct
  waitingInside := holds.waitingInside
  waitingCurrent := by
    intro index call gate found foundGate isOpen
    obtain ⟨usable, current⟩ := holds.waitingCurrent index call gate found foundGate isOpen
    exact ⟨progresses.usable.trans usable, current⟩
  holderCurrent := by
    intro request after holder found foundHolder inSession
    obtain ⟨before, foundBefore, session, -⟩ :=
      exists_of_forall₂_right progresses.requests found
    obtain ⟨usable, current⟩ := holds.holderCurrent request before holder foundBefore foundHolder
      (session.symm.trans (inSession.trans progresses.session))
    exact ⟨progresses.usable.trans usable, current⟩
  sized ready := by
    rw [progresses.usable, progresses.greeted] at ready
    exact holds.sized ready
  enabled ready := by
    rw [progresses.usable, progresses.greeted] at ready
    change next.protocolVersion ≠ 0
    rw [progresses.protocolVersion]
    exact holds.enabled ready

/-- Replacing a gate by a later state that keeps the tokens in use. -/
theorem HoldsSlots.replaceGate {index : Nat} {gate after : RequestGate}
    (holds : admission.HoldsSlots) (found : admission.gates[index]? = some gate)
    (closed : gate.closed = true → after.closed = true) (maximum : after.maximum = gate.maximum)
    (accounted : after.SlotInvariant 0)
    (kept : ∀ (request : Nat) (holder : SlotHolder) (released : Bool),
      admission.holders[request]? = some holder → holder.gate = index →
      gate.released[holder.token]? = some released →
      ∃ releasedAfter, after.released[holder.token]? = some releasedAfter ∧
        (admission.multiplexer.ended request = false → releasedAfter = released)) :
    (admission.setGate index after).HoldsSlots := by
  have inside : index < admission.gates.length := (List.getElem?_eq_some_iff.mp found).1
  have currentGate : (admission.setGate index after).currentGate = admission.currentGate := by
    simp [RequestAdmission.currentGate, RequestAdmission.setGate]
  have current : ∀ other, admission.Current other →
      (admission.setGate index after).Current other :=
    fun _ current => ⟨current.1, current.2.trans currentGate.symm⟩
  have origin : ∀ (other : Nat) (cell : RequestGate),
      (admission.gates.set index after)[other]? = some cell →
      ∃ before, admission.gates[other]? = some before ∧
        (before.closed = true → cell.closed = true) ∧ cell.maximum = before.maximum ∧
        cell.SlotInvariant 0 := by
    intro other cell foundCell
    by_cases same : index = other
    · subst same
      obtain rfl : after = cell := by simpa [inside] using foundCell
      exact ⟨gate, found, closed, maximum, accounted⟩
    · rw [List.getElem?_set_ne same] at foundCell
      exact ⟨cell, foundCell, id, rfl, (holds.accounted other cell foundCell).1⟩
  refine ⟨?_, ?_, holds.parallel, ?_, holds.distinct, ?_, ?_, ?_, ?_, holds.enabled⟩
  · simpa [RequestAdmission.setGate] using holds.nonempty
  · intro other cell foundCell
    obtain ⟨before, foundBefore, -, sameMaximum, cellAccounted⟩ := origin other cell foundCell
    exact ⟨cellAccounted, sameMaximum ▸ (holds.accounted other before foundBefore).2⟩
  · intro request holder foundHolder
    obtain ⟨before, released, foundBefore, foundToken, unended⟩ :=
      holds.held request holder foundHolder
    by_cases same : holder.gate = index
    · obtain rfl : gate = before := by simpa [same, found] using foundBefore
      obtain ⟨releasedAfter, foundAfter, unchanged⟩ :=
        kept request holder released foundHolder same foundToken
      refine ⟨after, releasedAfter, ?_, foundAfter, fun notEnded => ?_⟩
      · simp [RequestAdmission.setGate, same, inside]
      · exact (unchanged notEnded).trans (unended notEnded)
    · refine ⟨before, released, ?_, foundToken, unended⟩
      simpa [RequestAdmission.setGate, Ne.symm same] using foundBefore
  · simpa [RequestAdmission.setGate] using holds.waitingInside
  · intro position call cell foundCall foundCell isOpen
    obtain ⟨before, foundBefore, staysClosed, -⟩ := origin call.gate cell foundCell
    refine current _ (holds.waitingCurrent position call before foundCall foundBefore ?_)
    cases wasClosed : before.closed with
    | false => rfl
    | true => simp [staysClosed wasClosed] at isOpen
  · intro request issued holder foundIssued foundHolder inSession
    exact current _ (holds.holderCurrent request issued holder foundIssued foundHolder inSession)
  · intro ready cell foundCell
    rw [currentGate] at foundCell
    obtain ⟨before, foundBefore, -, sameMaximum, -⟩ := origin _ cell foundCell
    exact sameMaximum.trans (holds.sized ready before foundBefore)

/-- A gate that evolves keeps the tokens it handed out. -/
theorem HoldsSlots.setGate {index : Nat} {gate after : RequestGate}
    (holds : admission.HoldsSlots) (found : admission.gates[index]? = some gate)
    (evolves : gate.Evolves after) : (admission.setGate index after).HoldsSlots := by
  refine holds.replaceGate found evolves.closed evolves.maximum evolves.accounted ?_
  intro request holder released _ _ foundToken
  obtain ⟨extra, extended⟩ := evolves.released
  refine ⟨released, ?_, fun _ => rfl⟩
  rw [← extended, List.getElem?_append_left]
  · exact foundToken
  · exact (List.getElem?_eq_some_iff.mp foundToken).1

/-- A call that has ended gives back its own token only. -/
theorem HoldsSlots.release {request : Nat} {holder : SlotHolder} (holds : admission.HoldsSlots)
    (found : admission.holders[request]? = some holder)
    (ended : admission.multiplexer.ended request = true) :
    (admission.release holder).HoldsSlots := by
  obtain ⟨gate, released, foundGate, foundToken, -⟩ := holds.held request holder found
  simp only [RequestAdmission.release, foundGate]
  cases released with
  | true =>
      have unchanged : gate.release holder.token = some gate := by
        simp [RequestGate.release, foundToken]
      rw [unchanged]
      exact holds.setGate foundGate
        ⟨List.prefix_rfl, id, rfl, (holds.accounted holder.gate gate foundGate).1⟩
  | false =>
      have released := RequestGate.release_eq foundToken
      have accounted := (holds.accounted holder.gate gate foundGate).1.release released
      rw [released]
      refine holds.replaceGate foundGate (by simp) (by simp) accounted ?_
      intro other otherHolder flag foundOther sameGate foundFlag
      by_cases sameToken : holder.token = otherHolder.token
      · obtain rfl : request = other := by
          refine holds.distinct request other holder otherHolder found foundOther ?_
          cases holder
          cases otherHolder
          simp_all
        refine ⟨true, ?_, fun notEnded => by simp [ended] at notEnded⟩
        have inside := (List.getElem?_eq_some_iff.mp foundToken).1
        simp [← sameToken, inside]
      · exact ⟨flag, by simpa [sameToken] using foundFlag, fun _ => rfl⟩

/-- Tokens in use were handed out before. -/
theorem HoldsSlots.token_lt {index : Nat} {gate : RequestGate} (holds : admission.HoldsSlots)
    (found : admission.gates[index]? = some gate) {request : Nat} {holder : SlotHolder}
    (foundHolder : admission.holders[request]? = some holder) (sameGate : holder.gate = index) :
    holder.token < gate.released.length := by
  obtain ⟨other, released, foundOther, foundToken, -⟩ := holds.held request holder foundHolder
  obtain rfl : gate = other := by simpa [sameGate, found] using foundOther
  exact (List.getElem?_eq_some_iff.mp foundToken).1

theorem HoldsSlots.issue {index : Nat} {gate after : RequestGate} {next : Multiplexer}
    {messageType : Nat} (holds : admission.HoldsSlots)
    (found : admission.gates[index]? = some gate) (evolves : gate.Evolves after)
    (issues : after.released = gate.released ++ [false]) (current : admission.Current index)
    (issued : admission.multiplexer.issueRequest messageType = .ok next) :
    HoldsSlots { admission.setGate index after with
      multiplexer := next
      holders := admission.holders ++ [⟨index, gate.released.length⟩] } := by
  have evolved := holds.setGate found evolves
  obtain ⟨-, rfl⟩ := Multiplexer.issueRequest_eq_ok issued
  have inside : index < admission.gates.length := (List.getElem?_eq_some_iff.mp found).1
  have currentGate : (admission.setGate index after).currentGate = admission.currentGate := by
    simp [RequestAdmission.currentGate, RequestAdmission.setGate]
  refine ⟨evolved.nonempty, evolved.accounted, ?_, ?_, ?_, evolved.waitingInside,
    evolved.waitingCurrent, ?_, evolved.sized, evolved.enabled⟩
  · simpa using holds.parallel
  · intro request holder foundHolder
    rcases getElem?_concat_eq_some.mp foundHolder with old | ⟨-, rfl⟩
    · obtain ⟨cell, released, foundCell, foundToken, unended⟩ :=
        evolved.held request holder old
      refine ⟨cell, released, foundCell, foundToken, fun notEnded => unended ?_⟩
      have before : request < admission.multiplexer.requests.length :=
        holds.parallel ▸ (List.getElem?_eq_some_iff.mp old).1
      simpa [Multiplexer.ended, RequestAdmission.setGate,
        List.getElem?_append_left before] using notEnded
    · exact ⟨after, false, by simp [RequestAdmission.setGate, inside], by simp [issues],
        fun _ => rfl⟩
  · refine holds.distinct.concat fun request old foundOld => ?_
    have unequal : old ≠ ⟨index, gate.released.length⟩ := by
      rintro rfl
      exact Nat.lt_irrefl _ (holds.token_lt found foundOld rfl)
    exact ⟨unequal, unequal.symm⟩
  · intro request cell holder foundCell foundHolder inSession
    rcases getElem?_concat_eq_some.mp foundHolder with old | ⟨-, rfl⟩
    · rcases getElem?_concat_eq_some.mp foundCell with oldCell | ⟨atEnd, -⟩
      · exact evolved.holderCurrent request cell holder oldCell old inSession
      · have before := (List.getElem?_eq_some_iff.mp old).1
        have parallel := holds.parallel
        omega
    · exact ⟨current.1, current.2.trans currentGate.symm⟩

/-- A call that could not issue its request gives its new token back. -/
theorem HoldsSlots.refuse {index : Nat} {gate after : RequestGate} (holds : admission.HoldsSlots)
    (found : admission.gates[index]? = some gate) (evolves : gate.Evolves after)
    (issues : after.released = gate.released ++ [false]) :
    ((admission.setGate index after).release ⟨index, gate.released.length⟩).HoldsSlots := by
  have evolved := holds.setGate found evolves
  have inside : index < admission.gates.length := (List.getElem?_eq_some_iff.mp found).1
  have foundAfter : (admission.setGate index after).gates[index]? = some after := by
    simp [RequestAdmission.setGate, inside]
  have unreleased : after.released[gate.released.length]? = some false := by simp [issues]
  have released := RequestGate.release_eq unreleased
  have accounted := evolves.accounted.release released
  simp only [RequestAdmission.release, foundAfter, released]
  refine evolved.replaceGate foundAfter (by simp) (by simp) accounted ?_
  intro request holder flag foundHolder sameGate foundFlag
  have before := holds.token_lt found foundHolder sameGate
  refine ⟨flag, ?_, fun _ => rfl⟩
  have different : gate.released.length ≠ holder.token := by omega
  simpa [different] using foundFlag

theorem HoldsSlots.enter {index : Nat} {gate after : RequestGate} {messageType : Nat}
    (holds : admission.HoldsSlots) (found : admission.gates[index]? = some gate)
    (evolves : gate.Evolves after) (issues : after.released = gate.released ++ [false])
    (current : admission.Current index) :
    ((admission.setGate index after).enter ⟨index, gate.released.length⟩
      messageType).HoldsSlots := by
  unfold RequestAdmission.enter
  cases issued : admission.multiplexer.issueRequest messageType with
  | ok next =>
      simp only [RequestAdmission.setGate, issued]
      exact holds.issue found evolves issues current issued
  | error _ =>
      simp only [RequestAdmission.setGate, issued]
      exact holds.refuse found evolves issues

theorem HoldsSlots.waitingClosed (holds : admission.HoldsSlots)
    (unusable : admission.multiplexer.usable = false) (index : Nat) (call : WaitingCall)
    (gate : RequestGate) (found : admission.waiting[index]? = some call)
    (foundGate : admission.gates[call.gate]? = some gate) : gate.closed = true := by
  cases closed : gate.closed with
  | true => rfl
  | false =>
      have current := holds.waitingCurrent index call gate found foundGate closed
      simp [Current, unusable] at current

theorem HoldsSlots.session_ne (holds : admission.HoldsSlots)
    (unusable : admission.multiplexer.usable = false) (request : Nat) (issued : IssuedRequest)
    (found : admission.multiplexer.requests[request]? = some issued) :
    issued.session ≠ admission.multiplexer.session := by
  intro inSession
  have inside : request < admission.holders.length :=
    holds.parallel ▸ (List.getElem?_eq_some_iff.mp found).1
  have current := holds.holderCurrent request issued _ found
    (List.getElem?_eq_getElem inside) inSession
  simp [Current, unusable] at current

/-- Between two sessions no call waits at an open gate and no request belongs
to the session. -/
structure BetweenSessions (admission : RequestAdmission) (next : Multiplexer) : Prop where
  finished : List.Forall₂ (fun before after : IssuedRequest =>
      before.phase.finished = true → after.phase.finished = true)
    admission.multiplexer.requests next.requests
  waitingClosed : ∀ (index : Nat) (call : WaitingCall) (gate : RequestGate),
    admission.waiting[index]? = some call → admission.gates[call.gate]? = some gate →
    gate.closed = true
  session_ne : ∀ (request : Nat) (issued : IssuedRequest),
    next.requests[request]? = some issued → issued.session ≠ next.session
  enabled : next.usable = true ∨ next.greeted = true → next.protocolVersion ≠ 0

theorem BetweenSessions.ended {next : Multiplexer} (between : admission.BetweenSessions next)
    {request : Nat} (notEnded : next.ended request = false) :
    admission.multiplexer.ended request = false := by
  unfold Multiplexer.ended at notEnded ⊢
  cases found : admission.multiplexer.requests[request]? with
  | none => rfl
  | some before =>
      obtain ⟨after, foundAfter, finished⟩ := exists_of_forall₂_left between.finished found
      rw [foundAfter] at notEnded
      cases before_finished : before.phase.finished with
      | false => exact before_finished
      | true => simp [finished before_finished] at notEnded

theorem HoldsSlots.changeSession {next : Multiplexer} (holds : admission.HoldsSlots)
    (between : admission.BetweenSessions next)
    (ready : next.usable = true ∨ next.greeted = true →
      admission.multiplexer.usable = true ∨ admission.multiplexer.greeted = true) :
    HoldsSlots { admission with multiplexer := next } where
  nonempty := holds.nonempty
  accounted := holds.accounted
  parallel := holds.parallel.trans between.finished.length_eq
  held request holder found := by
    obtain ⟨gate, released, foundGate, foundToken, unended⟩ := holds.held request holder found
    exact ⟨gate, released, foundGate, foundToken,
      fun notEnded => unended (between.ended notEnded)⟩
  distinct := holds.distinct
  waitingInside := holds.waitingInside
  waitingCurrent index call gate found foundGate isOpen := by
    simp [between.waitingClosed index call gate found foundGate] at isOpen
  holderCurrent request issued holder found _ inSession :=
    (between.session_ne request issued found inSession).elim
  sized isReady := holds.sized (ready isReady)
  enabled := between.enabled

/-- A new gate takes the place of one that nobody can use any more. -/
theorem HoldsSlots.renewGate {next : Multiplexer} {maximum maxInFlight : Nat}
    (holds : admission.HoldsSlots) (between : admission.BetweenSessions next)
    (positive : 1 ≤ maximum)
    (sized : next.usable = true ∨ next.greeted = true → maximum = maxInFlight) :
    HoldsSlots { admission with
      multiplexer := next
      maxInFlight := maxInFlight
      gates := admission.gates ++ [{ maximum, queueSize := admission.queueSize }] } where
  nonempty := by simp
  accounted index gate found := by
    rcases getElem?_concat_eq_some.mp found with old | ⟨-, rfl⟩
    · exact holds.accounted index gate old
    · exact ⟨RequestGate.slotInvariant_new maximum admission.queueSize, positive⟩
  parallel := holds.parallel.trans between.finished.length_eq
  held request holder found := by
    obtain ⟨gate, released, foundGate, foundToken, unended⟩ := holds.held request holder found
    exact ⟨gate, released, getElem?_concat_eq_some.mpr (Or.inl foundGate), foundToken,
      fun notEnded => unended (between.ended notEnded)⟩
  distinct := holds.distinct
  waitingInside index call found := by
    have inside := holds.waitingInside index call found
    rw [List.length_append]
    omega
  waitingCurrent index call gate found foundGate isOpen := by
    rcases getElem?_concat_eq_some.mp foundGate with old | ⟨atEnd, -⟩
    · simp [between.waitingClosed index call gate found old] at isOpen
    · have inside := holds.waitingInside index call found
      omega
  holderCurrent request issued holder found _ inSession :=
    (between.session_ne request issued found inSession).elim
  sized isReady gate found := by
    have atEnd : gate = { maximum, queueSize := admission.queueSize } := by
      simpa [currentGate] using found.symm
    rw [atEnd]
    exact sized isReady
  enabled := between.enabled

theorem HoldsSlots.enqueue {call : WaitingCall} (holds : admission.HoldsSlots)
    (inside : call.gate < admission.gates.length) (current : admission.Current call.gate) :
    HoldsSlots { admission with waiting := admission.waiting ++ [call] } where
  nonempty := holds.nonempty
  accounted := holds.accounted
  parallel := holds.parallel
  held := holds.held
  distinct := holds.distinct
  waitingInside index other found := by
    rcases getElem?_concat_eq_some.mp found with old | ⟨-, rfl⟩
    · exact holds.waitingInside index other old
    · exact inside
  waitingCurrent index other gate found foundGate isOpen := by
    rcases getElem?_concat_eq_some.mp found with old | ⟨-, rfl⟩
    · exact holds.waitingCurrent index other gate old foundGate isOpen
    · exact current
  holderCurrent := holds.holderCurrent
  sized := holds.sized
  enabled := holds.enabled

/-- The condition of the ceiling: no call gives its slot back while its
request may still be answered, and the gate keeps its own account. -/
def KeepsCeiling (admission : RequestAdmission) : AdmissionAction → Prop
  | .resumeWaiting index => ∀ (call : WaitingCall) (gate : RequestGate),
      admission.waiting[index]? = some call → admission.gates[call.gate]? = some gate →
      gate.KeepsAccount (.resume call.waiter)
  | .resume request => admission.multiplexer.KeepsSlots (.resume request)
  | .cancel request => admission.multiplexer.KeepsSlots (.cancel request)
  | .timeout request => admission.multiplexer.KeepsSlots (.timeout request)
  | _ => True

structure AdmissionInvariant (admission : RequestAdmission) : Prop where
  holds : admission.HoldsSlots
  ceiling : admission.multiplexer.CeilingInvariant
  positive : 1 ≤ admission.limit

variable {next : RequestAdmission}

/-- A transition of the multiplexer within the session. -/
theorem AdmissionInvariant.multiplex (invariant : admission.AdmissionInvariant)
    (action : MultiplexerAction)
    (keeps : admission.multiplexer.KeepsSlots action)
    (progresses : ∀ {after}, admission.multiplexer.step action = some after →
      admission.multiplexer.Progresses after)
    (stepped : admission.multiplex action = some next) : next.AdmissionInvariant := by
  obtain ⟨after, ran, rfl⟩ := Option.map_eq_some_iff.mp stepped
  exact ⟨invariant.holds.progresses (progresses ran), invariant.ceiling.step action keeps ran,
    invariant.positive⟩

/-- A transition of a request task; the token of a task that ends is given
back. -/
theorem AdmissionInvariant.runRequest (invariant : admission.AdmissionInvariant) (request : Nat)
    (action : MultiplexerAction)
    (keeps : admission.multiplexer.KeepsSlots action)
    (progresses : ∀ {after}, admission.multiplexer.step action = some after →
      admission.multiplexer.Progresses after)
    (stepped : admission.runRequest request action = some next) : next.AdmissionInvariant := by
  obtain ⟨after, ran, rfl⟩ := Option.map_eq_some_iff.mp stepped
  have stepInvariant := invariant.multiplex action keeps progresses ran
  cases found : admission.holders[request]? with
  | none => exact stepInvariant
  | some holder =>
      simp only
      split_ifs with ends
      · have ended : after.multiplexer.ended request = true := by
          simp only [Bool.and_eq_true] at ends
          exact ends.2
        have sameHolders : after.holders = admission.holders := by
          obtain ⟨_, -, rfl⟩ := Option.map_eq_some_iff.mp ran
          rfl
        have released := stepInvariant.holds.release (sameHolders ▸ found) ended
        refine ⟨released, ?_, ?_⟩
        · unfold RequestAdmission.release
          split
          · exact stepInvariant.ceiling
          · exact stepInvariant.ceiling
        · unfold RequestAdmission.release
          split
          · exact stepInvariant.positive
          · exact stepInvariant.positive
      · exact stepInvariant

/-- A call that got a token issues its request or gives the token back. -/
theorem AdmissionInvariant.enter {index : Nat} {gate after : RequestGate} {messageType : Nat}
    (invariant : admission.AdmissionInvariant) (found : admission.gates[index]? = some gate)
    (evolves : gate.Evolves after) (issues : after.released = gate.released ++ [false])
    (current : admission.Current index) :
    ((admission.setGate index after).enter ⟨index, gate.released.length⟩
      messageType).AdmissionInvariant := by
  refine ⟨invariant.holds.enter found evolves issues current, ?_, ?_⟩
  · unfold RequestAdmission.enter
    cases issued : (admission.setGate index after).multiplexer.issueRequest messageType with
    | ok registered => exact invariant.ceiling.issueRequest current.1 issued
    | error _ =>
        simp only [RequestAdmission.release]
        split
        · exact invariant.ceiling
        · exact invariant.ceiling
  · unfold RequestAdmission.enter
    cases issued : (admission.setGate index after).multiplexer.issueRequest messageType with
    | ok registered => exact invariant.positive
    | error _ =>
        simp only [RequestAdmission.release]
        split
        · exact invariant.positive
        · exact invariant.positive

theorem AdmissionInvariant.request {messageType : Nat}
    (invariant : admission.AdmissionInvariant)
    (stepped : admission.request messageType = some next) : next.AdmissionInvariant := by
  unfold RequestAdmission.request at stepped
  split_ifs at stepped with usable
  cases found : admission.gates[admission.currentGate]? with
  | none => simp [found] at stepped
  | some gate =>
      simp only [found] at stepped
      have current : admission.Current admission.currentGate := ⟨usable, rfl⟩
      have evolves :=
        RequestGate.acquire_evolves (invariant.holds.accounted _ gate found).1
      have evolved := invariant.holds.setGate found evolves
      cases acquired : gate.acquire.1 with
      | token token =>
          obtain ⟨-, rfl, issues⟩ := RequestGate.acquire_token acquired
          simp only [acquired] at stepped
          obtain rfl := Option.some.inj stepped
          exact invariant.enter found evolves issues current
      | waiting waiter =>
          simp only [acquired] at stepped
          obtain rfl := Option.some.inj stepped
          refine ⟨evolved.enqueue ?_ ⟨usable, ?_⟩, invariant.ceiling, invariant.positive⟩
          · simpa [RequestAdmission.setGate] using (List.getElem?_eq_some_iff.mp found).1
          · simp [RequestAdmission.setGate, currentGate]
      | connectionClosed =>
          simp only [acquired] at stepped
          obtain rfl := Option.some.inj stepped
          exact ⟨evolved, invariant.ceiling, invariant.positive⟩
      | queueFull =>
          simp only [acquired] at stepped
          obtain rfl := Option.some.inj stepped
          exact ⟨evolved, invariant.ceiling, invariant.positive⟩

theorem AdmissionInvariant.resumeWaiting {index : Nat} {call : WaitingCall}
    (invariant : admission.AdmissionInvariant)
    (foundCall : admission.waiting[index]? = some call)
    (keeps : ∀ gate, admission.gates[call.gate]? = some gate →
      gate.KeepsAccount (.resume call.waiter))
    (stepped : admission.resumeWaiting call = some next) : next.AdmissionInvariant := by
  unfold RequestAdmission.resumeWaiting at stepped
  cases found : admission.gates[call.gate]? with
  | none => simp [found] at stepped
  | some gate =>
      simp only [found] at stepped
      obtain ⟨accounted, positive⟩ := invariant.holds.accounted _ gate found
      cases resumed : gate.resume call.waiter with
      | none => simp [resumed] at stepped
      | some result =>
          have evolves := RequestGate.resume_evolves accounted positive (keeps gate found) resumed
          obtain ⟨-, tokens⟩ := RequestGate.resume_tokens resumed
          rcases result with ⟨token, after⟩
          rcases tokens with ⟨noToken, -⟩ | ⟨isOpen, newToken, issues⟩
          · simp only at noToken
            subst noToken
            simp only [resumed] at stepped
            obtain rfl := Option.some.inj stepped
            exact ⟨invariant.holds.setGate found evolves, invariant.ceiling,
              invariant.positive⟩
          · simp only at newToken
            subst newToken
            simp only [resumed] at stepped
            obtain rfl := Option.some.inj stepped
            exact invariant.enter found evolves issues
              (invariant.holds.waitingCurrent index call gate foundCall found isOpen)

theorem HoldsSlots.between_of_unusable (holds : admission.HoldsSlots) (next : Multiplexer)
    (unusable : admission.multiplexer.usable = false)
    (requests : next.requests = admission.multiplexer.requests)
    (session : next.session = admission.multiplexer.session)
    (enabled : next.usable = true ∨ next.greeted = true → next.protocolVersion ≠ 0) :
    admission.BetweenSessions next where
  finished := by
    rw [requests]
    exact List.forall₂_same.mpr fun _ _ => id
  waitingClosed := holds.waitingClosed unusable
  session_ne := by
    rw [requests, session]
    exact holds.session_ne unusable
  enabled := enabled

theorem AdmissionInvariant.disconnect (invariant : admission.AdmissionInvariant)
    (waitingClosed : ∀ (index : Nat) (call : WaitingCall) (gate : RequestGate),
      admission.waiting[index]? = some call → admission.gates[call.gate]? = some gate →
      gate.closed = true) : admission.disconnect.AdmissionInvariant := by
  have disconnected : admission.multiplexer.setDisconnected.CeilingInvariant :=
    invariant.ceiling.step .setDisconnected trivial rfl
  have left := disconnected.step .leave trivial rfl
  have between : admission.BetweenSessions
      { admission.multiplexer.setDisconnected with usable := false, greeted := false } :=
    { finished := by
        refine forall₂_mapIdx (fun request issued => ?_) admission.multiplexer.requests
        split_ifs
        · rw [IssuedRequest.settle_eq]
          exact id
        · exact id
      waitingClosed := waitingClosed
      session_ne := by
        intro request after found
        obtain ⟨before, foundBefore, continues⟩ := exists_of_forall₂_right
          admission.multiplexer.setDisconnected_resets.continues found
        have session_le :=
          (invariant.ceiling.correlation.accounted request before foundBefore).session_le
        have session := continues.session
        change after.session ≠ admission.multiplexer.session + 1
        omega
      enabled := by simp }
  exact ⟨invariant.holds.changeSession between (by simp), left, invariant.positive⟩

theorem AdmissionInvariant.connectionLost (invariant : admission.AdmissionInvariant) :
    admission.connectionLost.AdmissionInvariant := by
  unfold RequestAdmission.connectionLost
  have inside : admission.currentGate < admission.gates.length := by
    have nonempty := invariant.holds.nonempty
    unfold currentGate
    omega
  rw [List.getElem?_eq_getElem inside]
  simp only
  have found := List.getElem?_eq_getElem inside
  have evolves := RequestGate.close_evolves (invariant.holds.accounted _ _ found).1
  have closed : (admission.setGate admission.currentGate
      admission.gates[admission.currentGate].close).AdmissionInvariant :=
    ⟨invariant.holds.setGate found evolves, invariant.ceiling, invariant.positive⟩
  refine closed.disconnect fun index call gate foundCall foundGate => ?_
  cases isClosed : gate.closed with
  | true => rfl
  | false =>
      obtain ⟨-, current⟩ :=
        closed.holds.waitingCurrent index call gate foundCall foundGate isClosed
      have sameGate : call.gate = admission.currentGate := by
        simpa [RequestAdmission.currentGate, RequestAdmission.setGate] using current
      have closedGate : admission.gates[admission.currentGate].close = gate := by
        simpa [RequestAdmission.setGate, sameGate, inside] using foundGate
      rw [← closedGate, RequestGate.close_closed] at isClosed
      simp at isClosed

/-- Every transition that meets the condition keeps the invariant. -/
theorem AdmissionInvariant.step {action : AdmissionAction}
    (invariant : admission.AdmissionInvariant) (keeps : admission.KeepsCeiling action)
    (stepped : admission.step action = some next) : next.AdmissionInvariant := by
  cases action with
  | openTransport =>
      simp only [RequestAdmission.step] at stepped
      split_ifs at stepped with usable
      obtain ⟨after, ran, rfl⟩ := Option.map_eq_some_iff.mp stepped
      obtain rfl := Option.some.inj ran
      have between := invariant.holds.between_of_unusable
        { admission.multiplexer with usable := false, greeted := false }
        (by simpa using usable) rfl rfl (by simp)
      exact ⟨invariant.holds.renewGate between invariant.positive (by simp),
        invariant.ceiling.step .leave trivial rfl, invariant.positive⟩
  | hello serverMaxInFlight =>
      simp only [RequestAdmission.step] at stepped
      split_ifs at stepped with invalid
      obtain ⟨after, ran, rfl⟩ := Option.map_eq_some_iff.mp stepped
      obtain ⟨mux, greeted, rfl⟩ := Option.map_eq_some_iff.mp ran
      have ceiling := invariant.ceiling.step .hello trivial greeted
      simp only [Multiplexer.step] at greeted
      split_ifs at greeted with fresh
      obtain rfl := Option.some.inj greeted
      have unusable : admission.multiplexer.usable = false := by
        cases usable : admission.multiplexer.usable with
        | false => rfl
        | true => exact (invariant.holds.enabled (Or.inl usable) fresh).elim
      have between := invariant.holds.between_of_unusable
        { admission.multiplexer.setCapabilities 3 0 with greeted := true }
        unusable rfl rfl (by simp [Multiplexer.setCapabilities])
      have positive := invariant.positive
      exact ⟨invariant.holds.renewGate between (by omega) (fun _ => rfl), ceiling,
        invariant.positive⟩
  | setConnected =>
      obtain ⟨mux, connected, rfl⟩ := Option.map_eq_some_iff.mp stepped
      have ceiling := invariant.ceiling.step .setConnected trivial connected
      simp only [Multiplexer.step] at connected
      split_ifs at connected with ready
      obtain rfl := Option.some.inj connected
      have between : admission.BetweenSessions
          { admission.multiplexer.setConnected with usable := true, greeted := false } :=
        { finished := List.forall₂_same.mpr fun _ _ => id
          waitingClosed := invariant.holds.waitingClosed (by simpa using ready.2)
          session_ne := by
            intro request issued found
            have session_le :=
              (invariant.ceiling.correlation.accounted request issued found).session_le
            change issued.session ≠ admission.multiplexer.session + 1
            omega
          enabled := fun _ => invariant.holds.enabled (Or.inr ready.1) }
      exact ⟨invariant.holds.changeSession between (fun _ => Or.inr ready.1), ceiling,
        invariant.positive⟩
  | attemptFailed =>
      simp only [RequestAdmission.step] at stepped
      split_ifs at stepped with usable
      obtain rfl := Option.some.inj stepped
      exact invariant.disconnect (invariant.holds.waitingClosed (by simpa using usable))
  | connectionLost =>
      obtain rfl := Option.some.inj stepped
      exact invariant.connectionLost
  | request messageType => exact invariant.request stepped
  | cancelWaiting index =>
      simp only [RequestAdmission.step] at stepped
      split at stepped
      · simp at stepped
      · split at stepped
        · simp at stepped
        next gate foundGate =>
          obtain ⟨after, cancelled, rfl⟩ := Option.map_eq_some_iff.mp stepped
          have evolves :=
            RequestGate.cancel_evolves (invariant.holds.accounted _ gate foundGate).1 cancelled
          exact ⟨invariant.holds.setGate foundGate evolves, invariant.ceiling,
            invariant.positive⟩
  | resumeWaiting index =>
      simp only [RequestAdmission.step] at stepped
      split at stepped
      · simp at stepped
      next call foundCall =>
        exact invariant.resumeWaiting foundCall (fun gate => keeps call gate foundCall) stepped
  | write request =>
      exact invariant.multiplex (.write request) trivial Multiplexer.progresses_of_write stepped
  | sendDone request outcome =>
      exact invariant.multiplex (.sendDone request outcome) trivial
        Multiplexer.progresses_of_sendDone stepped
  | resume request =>
      exact invariant.runRequest request (.resume request) keeps
        Multiplexer.progresses_of_resume stepped
  | cancel request =>
      exact invariant.runRequest request (.cancel request) keeps
        Multiplexer.progresses_of_cancel stepped
  | timeout request =>
      exact invariant.runRequest request (.timeout request) keeps
        Multiplexer.progresses_of_timeout stepped
  | receive correlationId messageType payload responseFinal =>
      exact invariant.multiplex (.receive correlationId messageType payload responseFinal) trivial
        Multiplexer.progresses_of_receive stepped

/-- Unanswered requests hold different tokens of the current gate. -/
theorem AdmissionInvariant.unanswered_le_unreleased (invariant : admission.AdmissionInvariant)
    {gate : RequestGate} (found : admission.gates[admission.currentGate]? = some gate) :
    admission.unanswered ≤ gate.unreleased := by
  have holds := invariant.holds
  -- an unanswered request has an unreleased token of this gate
  have placed : ∀ (request : Nat) (issued : IssuedRequest),
      admission.multiplexer.requests[request]? = some issued →
      issued.unansweredIn admission.multiplexer.session = true →
      ∃ holder, admission.holders[request]? = some holder ∧
        holder.gate = admission.currentGate ∧ gate.released[holder.token]? = some false := by
    intro request issued foundIssued counted
    simp only [IssuedRequest.unansweredIn, Bool.and_eq_true, beq_iff_eq,
      Option.isNone_iff_eq_none] at counted
    obtain ⟨⟨inSession, written⟩, unanswered⟩ := counted
    have inside : request < admission.holders.length :=
      holds.parallel ▸ (List.getElem?_eq_some_iff.mp foundIssued).1
    have foundHolder := List.getElem?_eq_getElem inside
    obtain ⟨-, current⟩ :=
      holds.holderCurrent request issued _ foundIssued foundHolder inSession
    obtain ⟨other, released, foundOther, foundToken, unended⟩ :=
      holds.held request _ foundHolder
    obtain rfl : gate = other := by simpa [current, found] using foundOther
    have unfinished := (invariant.ceiling.held request issued foundIssued).unended
      ⟨inSession, unanswered, Or.inl written⟩
    have notEnded : admission.multiplexer.ended request = false := by
      simp [Multiplexer.ended, foundIssued, unfinished]
    exact ⟨_, foundHolder, current, by rw [foundToken, unended notEnded]⟩
  refine countP_le_countP_of_places _ _
    (fun request => (admission.holders[request]?.map SlotHolder.token).getD 0) ?_ ?_
  · intro request issued foundIssued counted
    obtain ⟨holder, foundHolder, -, unreleased⟩ := placed request issued foundIssued counted
    exact ⟨false, by simpa [foundHolder] using unreleased, rfl⟩
  · intro first second firstIssued secondIssued foundFirst countedFirst foundSecond
      countedSecond sameToken
    obtain ⟨firstHolder, firstFound, firstGate, -⟩ :=
      placed first firstIssued foundFirst countedFirst
    obtain ⟨secondHolder, secondFound, secondGate, -⟩ :=
      placed second secondIssued foundSecond countedSecond
    refine holds.distinct first second firstHolder secondHolder firstFound secondFound ?_
    cases firstHolder
    cases secondHolder
    simp_all

theorem AdmissionInvariant.unanswered_le (invariant : admission.AdmissionInvariant) :
    admission.unanswered ≤ admission.maxInFlight := by
  have holds := invariant.holds
  cases usable : admission.multiplexer.usable with
  | false =>
      have none_counted : admission.unanswered = 0 := by
        refine List.countP_eq_zero.mpr fun issued member => ?_
        obtain ⟨request, found⟩ := List.mem_iff_getElem?.mp member
        simp [IssuedRequest.unansweredIn, holds.session_ne usable request issued found]
      omega
  | true =>
      have inside : admission.currentGate < admission.gates.length := by
        have nonempty := holds.nonempty
        unfold currentGate
        omega
      have found := List.getElem?_eq_getElem inside
      have tokens := invariant.unanswered_le_unreleased found
      have bounded := (holds.accounted _ _ found).1.accounted.bounded
      have sized := holds.sized (Or.inl usable) _ found
      omega

theorem admissionInvariant_new (limit queueSize : Nat) (positive : 1 ≤ limit) :
    AdmissionInvariant
      { limit, queueSize, maxInFlight := limit, gates := [{ maximum := limit, queueSize }] } where
  holds :=
    { nonempty := by simp
      accounted := by
        intro index gate found
        obtain ⟨rfl, rfl⟩ : index = 0 ∧ { maximum := limit, queueSize } = gate := by
          simpa [List.getElem?_singleton] using found
        exact ⟨RequestGate.slotInvariant_new limit queueSize, positive⟩
      parallel := rfl
      held := by simp
      distinct := fun first _ _ _ found => by simp at found
      waitingInside := by simp
      waitingCurrent := by simp
      holderCurrent := by simp
      sized := by simp
      enabled := by simp }
  ceiling := Multiplexer.ceilingInvariant_new
  positive := positive

/-- As long as no call gives its slot back while its request may still be
answered, the broker never counts more unanswered requests than it allows. -/
theorem unanswered_le_maxInFlight (limit queueSize : Nat) (positive : 1 ≤ limit)
    (admission : RequestAdmission)
    (reachable : (system limit queueSize).ReachableUnder KeepsCeiling admission) :
    admission.unanswered ≤ admission.maxInFlight := by
  have invariant : admission.AdmissionInvariant := by
    refine LabelledSystem.Invariant.of_reachable ⟨?_, ?_⟩ reachable
    · rintro first rfl
      exact admissionInvariant_new limit queueSize positive
    · intro current action next invariant keeps stepped
      exact invariant.step keeps stepped
  exact invariant.unanswered_le

/-- One request at a broker that allows one. -/
theorem unanswered_le_maxInFlight_single :
    ∃ admission : RequestAdmission, admission.maxInFlight = 1 ∧ admission.unanswered = 1 ∧
      admission.unanswered ≤ admission.maxInFlight := by
  have meets : (system 4 1).StepsMeet KeepsCeiling
      { limit := 4, queueSize := 1, maxInFlight := 4, gates := [{ maximum := 4, queueSize := 1 }] }
      [.openTransport, .hello 1, .setConnected, .request 7, .write 0] :=
    (system 4 1).stepsMeet_cons rfl trivial <| (system 4 1).stepsMeet_cons rfl trivial <|
      (system 4 1).stepsMeet_cons rfl trivial <| (system 4 1).stepsMeet_cons rfl trivial <|
        (system 4 1).stepsMeet_cons rfl trivial trivial
  exact ⟨_, rfl, rfl, unanswered_le_maxInFlight 4 1 (by decide) _
    ((system 4 1).reachableUnder_of_run rfl _ rfl meets)⟩

/-- The broker allows one request.  The first caller is cancelled while it
awaits its response, and a second caller gets its slot. -/
theorem exists_unanswered_above_maxInFlight :
    ∃ admission, (system 4 1).Reachable admission ∧
      admission.multiplexer.usable = true ∧ admission.maxInFlight = 1 ∧
      admission.unanswered = 2 := by
  refine ⟨_, (system 4 1).reachable_of_run rfl
    [.openTransport, .hello 1, .setConnected, .request 7, .write 0, .sendDone 0 .returned,
      .resume 0, .cancel 0, .request 7, .write 1] rfl, ?_⟩
  exact ⟨rfl, rfl, rfl⟩

end RequestAdmission

end FitzClient
