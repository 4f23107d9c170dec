import FitzClient.RpcInvocation

/-!
# Starting handlers

A handler is started in one place, behind three guards that are read without a
suspension between them and the start: the table leads to the invocation, its
budget is not spent, and its context is not cancelled.  Whatever records a
cancellation closes one of the guards for good.  The semaphore of a registration
counts the work items between its acquisition and its release.
-/

namespace FitzClient

/-- The work item has not passed the guards of the handler yet. -/
def WorkPhase.pending : WorkPhase → Bool
  | .queued | .waiting => true
  | .running | .sendingError _ _ _ | .rejecting | .acknowledging _ | .ended => false

/-- The work item has the semaphore. -/
def WorkPhase.holdsPermit : WorkPhase → Bool
  | .running | .sendingError _ _ _ => true
  | .queued | .waiting | .rejecting | .acknowledging _ | .ended => false

theorem Invocation.pending_leave (invocation : Invocation) (gate : Option Nat) :
    (invocation.leave gate).phase.pending = false := by
  unfold leave
  split <;> rfl

theorem Invocation.holdsPermit_leave (invocation : Invocation) (gate : Option Nat) :
    (invocation.leave gate).phase.holdsPermit = false := by
  unfold leave
  split <;> rfl

theorem Invocation.registration_leave (invocation : Invocation) (gate : Option Nat) :
    (invocation.leave gate).registration = invocation.registration := by
  unfold leave
  split <;> rfl

namespace RpcClient

variable {before after client : RpcClient} {index : Nat} {invocation next : Invocation}
  {action : RpcAction} {active : Bool}

/-- How often the handler was started, and what a recorded cancellation has
closed. -/
structure StartsOnce (invocation : Invocation) (active : Bool) : Prop where
  once : invocation.starts ≤ 1
  unstarted : invocation.phase.pending = true → invocation.starts = 0
  timely : invocation.lateStart = false
  guarded : invocation.recorded = true → invocation.phase.pending = true →
    active = false ∨ invocation.cancelled = true

/-- Past the guards, nothing is left to show. -/
theorem StartsOnce.pass {other : Bool} (held : StartsOnce invocation active)
    (starts : next.starts = invocation.starts) (late : next.lateStart = invocation.lateStart)
    (passed : next.phase.pending = false) : StartsOnce next other where
  once := starts ▸ held.once
  unstarted pending := by
    rw [passed] at pending
    cases pending
  timely := late.trans held.timely
  guarded _ pending := by
    rw [passed] at pending
    cases pending

/-- A guard is closed. -/
theorem StartsOnce.guard {other : Bool} (held : StartsOnce invocation active)
    (starts : next.starts = invocation.starts) (late : next.lateStart = invocation.lateStart)
    (phase : next.phase = invocation.phase)
    (guarded : next.recorded = true → other = false ∨ next.cancelled = true) :
    StartsOnce next other where
  once := starts ▸ held.once
  unstarted pending := by
    rw [phase] at pending
    rw [starts]
    exact held.unstarted pending
  timely := late.trans held.timely
  guarded recorded _ := guarded recorded

/-- Nothing that the guards read changes. -/
theorem StartsOnce.keep (held : StartsOnce invocation active)
    (starts : next.starts = invocation.starts) (late : next.lateStart = invocation.lateStart)
    (phase : next.phase.pending = true → invocation.phase.pending = true)
    (recorded : next.recorded = invocation.recorded)
    (cancelled : next.cancelled = invocation.cancelled) : StartsOnce next active where
  once := starts ▸ held.once
  unstarted pending := by
    rw [starts]
    exact held.unstarted (phase pending)
  timely := late.trans held.timely
  guarded isRecorded pending := by
    rw [cancelled]
    exact held.guarded (recorded ▸ isRecorded) (phase pending)

theorem pending_of_enters (enters : client.Enters index invocation action) :
    invocation.phase.pending = true := by
  cases action with
  | begin item =>
      obtain ⟨-, queued, -⟩ := enters
      rw [queued]
      rfl
  | acquire item =>
      obtain ⟨-, waiting⟩ := enters
      rw [waiting]
      rfl
  | _ => exact enters.elim

theorem startsOnce_leaves {leaving : Invocation} {gate : Option Nat} {other : Bool}
    (held : StartsOnce invocation active) (leaves : Leaves client index invocation action leaving) :
    StartsOnce (leaving.leave gate) other := by
  have same : leaving.starts = invocation.starts ∧ leaving.lateStart = invocation.lateStart := by
    cases leaves <;> exact ⟨rfl, rfl⟩
  have left : (leaving.leave gate).starts = leaving.starts ∧
      (leaving.leave gate).lateStart = leaving.lateStart := by
    unfold Invocation.leave
    split <;> exact ⟨rfl, rfl⟩
  exact held.pass (left.1.trans same.1) (left.2.trans same.2) (leaving.pending_leave gate)

theorem startsOnce_evolves (held : StartsOnce invocation (client.isActive index invocation))
    (evolves : Evolves client index invocation action next active) : StartsOnce next active := by
  cases evolves with
  | unaffected _ => exact held
  | displaced _ _ => exact held.guard rfl rfl rfl fun _ => Or.inl rfl
  | requested _ _ _ _ =>
      unfold Invocation.requestCancellation
      split <;> exact held.guard rfl rfl rfl fun _ => Or.inr rfl
  | recorded _ _ => exact held.guard rfl rfl rfl fun _ => Or.inl rfl
  | timer _ _ => exact held.guard rfl rfl rfl fun _ => Or.inr rfl
  | disconnected =>
      unfold Invocation.disconnect
      split <;> exact held.guard rfl rfl rfl fun _ => Or.inl rfl
  | skipped _ _ => exact held.pass rfl rfl rfl
  | waits queued _ => exact held.keep rfl rfl (fun _ => by rw [queued]; rfl) rfl rfl
  | starts enters isActive _ uncancelled =>
      have pending := pending_of_enters enters
      have unrecorded : invocation.recorded = false := by
        by_contra recorded
        rcases held.guarded (by simpa using recorded) pending with inactive | cancelled
        · rw [isActive] at inactive
          cases inactive
        · rw [uncancelled] at cancelled
          cases cancelled
      exact {
        once := by simp [Invocation.start, held.unstarted pending]
        unstarted := nofun
        timely := by simp [Invocation.start, held.timely, unrecorded]
        guarded := fun _ => nofun }
  | expires _ _ _ => exact held.pass rfl rfl rfl
  | responds _ _ _ => exact held.keep rfl rfl id rfl rfl
  | raises _ _ _ => exact held.pass rfl rfl rfl
  | handlerCancels _ _ => exact held.pass rfl rfl rfl
  | leaves leaves => exact startsOnce_leaves held leaves
  | rejected _ => exact held.pass rfl rfl rfl
  | rejectFailed _ => exact held.pass rfl rfl rfl
  | ackSent _ _ _ _ => exact held.pass rfl rfl rfl
  | ackFailed _ _ => exact held.pass rfl rfl rfl
  | beginsAck _ _ => exact held.guard rfl rfl rfl fun _ => Or.inl rfl
  | taskSent _ _ _ _ _ => exact held.keep rfl rfl id rfl rfl
  | taskFailed _ _ _ => exact held.keep rfl rfl id rfl rfl

theorem startsOnce_fresh (fresh : Fresh client next active) : StartsOnce next active := by
  cases fresh with
  | accepted _ _ _ _ => exact ⟨Nat.zero_le 1, fun _ => rfl, rfl, nofun⟩
  | refused _ _ _ => exact ⟨Nat.zero_le 1, fun _ => rfl, rfl, nofun⟩

theorem invariant_startsOnce :
    system.Invariant (fun _ _ => True) (Throughout StartsOnce) where
  starts first starts := by
    obtain ⟨maximum, queueSize, rfl⟩ := starts
    exact fun _ _ found => by cases found
  preserved _ _ _ held _ stepped :=
    throughout_step held stepped startsOnce_fresh fun _ was evolves =>
      startsOnce_evolves was evolves

/-- The work item holds a permit of this registration. -/
def holds (registration : Nat) (invocation : Invocation) : Bool :=
  invocation.registration = registration && invocation.phase.holdsPermit

/-- The handler of this registration runs. -/
def runs (registration : Nat) (invocation : Invocation) : Bool :=
  invocation.registration = registration && invocation.phase = .running

/-- The counter of every semaphore and the permits that are held make up its
initial value. -/
structure PermitsKept (client : RpcClient) : Prop where
  balance : ∀ (registration : Nat) (registered : Registration),
    client.registrations[registration]? = some registered →
      registered.value + client.invocations.countP (holds registration) =
        registered.maxConcurrency
  vacant : ∀ registration, client.registrations[registration]? = none →
    client.invocations.countP (holds registration) = 0

theorem runs_le_of_permitsKept (kept : PermitsKept client) {registration : Nat}
    {registered : Registration}
    (found : client.registrations[registration]? = some registered) :
    client.invocations.countP (runs registration) ≤ registered.maxConcurrency := by
  have atMost : client.invocations.countP (runs registration) ≤
      client.invocations.countP (holds registration) := by
    apply List.countP_mono_left
    intro invocation _ runs
    simp only [RpcClient.runs, Bool.and_eq_true, decide_eq_true_eq] at runs
    simp [holds, runs.1, runs.2, WorkPhase.holdsPermit]
  have total := kept.balance registration registered found
  omega

/-- What one work item does to its semaphore is what it does to its permit. -/
theorem permitsKept_change (kept : PermitsKept before)
    (found : before.invocations[index]? = some invocation)
    (sameRegistration : next.registration = invocation.registration)
    (update : Registration → Registration)
    (registrations : after.registrations =
      before.registrations.modify invocation.registration update)
    (invocations : after.invocations = before.invocations.set index next)
    (balance : ∀ registered, before.registrations[invocation.registration]? = some registered →
      (update registered).maxConcurrency = registered.maxConcurrency ∧
        (update registered).value + next.phase.holdsPermit.toNat =
          registered.value + invocation.phase.holdsPermit.toNat)
    (vacant : before.registrations[invocation.registration]? = none →
      next.phase.holdsPermit = true → invocation.phase.holdsPermit = true) :
    PermitsKept after where
  balance registration registered foundAfter := by
    rw [registrations] at foundAfter
    obtain ⟨was, foundBefore, rfl⟩ := getElem?_modify_eq_some.mp foundAfter
    have counted := countP_set (holds registration) next found
    have total := kept.balance registration was foundBefore
    rw [invocations]
    by_cases same : invocation.registration = registration
    · subst same
      obtain ⟨maximum, value⟩ := balance was foundBefore
      simp only [holds, sameRegistration, decide_true, Bool.true_and] at counted total ⊢
      simp only [if_true]
      omega
    · have nextApart : next.registration ≠ registration := sameRegistration ▸ same
      simp only [holds, same, nextApart, decide_false, Bool.false_and, Bool.toNat_false] at counted
      simp only [same, if_false]
      omega
  vacant registration absent := by
    have absentBefore : before.registrations[registration]? = none := by
      rw [registrations, List.getElem?_modify] at absent
      cases found : before.registrations[registration]? with
      | none => rfl
      | some registered =>
          rw [found] at absent
          cases absent
    have counted := countP_set (holds registration) next found
    have total := kept.vacant registration absentBefore
    rw [invocations]
    by_cases same : invocation.registration = registration
    · subst same
      have implies := vacant absentBefore
      simp only [holds, sameRegistration, decide_true, Bool.true_and] at counted total ⊢
      have atMost : next.phase.holdsPermit.toNat ≤ invocation.phase.holdsPermit.toNat := by
        cases willHold : next.phase.holdsPermit with
        | false => exact Nat.zero_le _
        | true =>
            rw [implies willHold]
      omega
    · have nextApart : next.registration ≠ registration := sameRegistration ▸ same
      simp only [holds, same, nextApart, decide_false, Bool.false_and, Bool.toNat_false] at counted
      omega

theorem permitsKept_put (kept : PermitsKept before)
    (found : before.invocations[index]? = some invocation)
    (registration : next.registration = invocation.registration)
    (holdsPermit : next.phase.holdsPermit = invocation.phase.holdsPermit) :
    PermitsKept (before.put index next) := by
  refine permitsKept_change kept found registration id ?_ rfl
    (fun _ _ => ⟨rfl, by rw [holdsPermit]; rfl⟩) fun _ held => holdsPermit ▸ held
  exact (List.modify_id _ _).symm

theorem permitsKept_forget (kept : PermitsKept client) :
    PermitsKept (client.forget index invocation) := by
  unfold forget
  split
  · exact ⟨kept.balance, kept.vacant⟩
  · exact kept

theorem permitsKept_leave (kept : PermitsKept before)
    (found : before.invocations[index]? = some invocation) {leaving : Invocation}
    (registration : leaving.registration = invocation.registration)
    (free : invocation.phase.holdsPermit = false) : PermitsKept (before.leave index leaving) := by
  have left := (leaving.registration_leave before.gate).trans registration
  have put := permitsKept_put kept found left
    ((leaving.holdsPermit_leave before.gate).trans free.symm)
  unfold leave
  split
  · exact permitsKept_forget put
  · exact put

theorem permitsKept_leaveHolding (kept : PermitsKept before)
    (found : before.invocations[index]? = some invocation) {leaving : Invocation}
    (registration : leaving.registration = invocation.registration)
    (holdsPermit : invocation.phase.holdsPermit = true) :
    PermitsKept (before.leaveHolding index leaving) := by
  have left := (leaving.registration_leave before.gate).trans registration
  have put : PermitsKept ((before.release leaving.registration).put index
      (leaving.leave before.gate)) := by
    rw [registration]
    refine permitsKept_change kept found left _ rfl rfl (fun registered _ => ⟨rfl, ?_⟩)
      fun _ _ => holdsPermit
    rw [leaving.holdsPermit_leave, holdsPermit]
    rfl
  unfold leaveHolding leave
  split
  · exact permitsKept_forget put
  · exact put

/-- The permit that is taken is kept or given back. -/
theorem permitsKept_enter (kept : PermitsKept before)
    (found : before.invocations[index]? = some invocation)
    (available : before.available invocation.registration = true)
    (free : invocation.phase.holdsPermit = false) :
    PermitsKept (before.enter index invocation) := by
  have permit : ∀ registered, before.registrations[invocation.registration]? = some registered →
      0 < registered.value := by
    intro registered isRegistered
    simpa [RpcClient.available, isRegistered] using available
  have taken : ∀ {next : Invocation}, next.registration = invocation.registration →
      next.phase.holdsPermit = true →
        PermitsKept ((before.acquire invocation.registration).put index next) := by
    intro next registration holdsPermit
    refine permitsKept_change kept found registration _ rfl rfl
      (fun registered isRegistered => ⟨rfl, ?_⟩) fun absent => ?_
    · have positive := permit registered isRegistered
      rw [free, holdsPermit]
      simp only [Bool.toNat_true, Bool.toNat_false]
      omega
    · simp [RpcClient.available, absent] at available
  have givenBack : ∀ {leaving : Invocation}, leaving.registration = invocation.registration →
      PermitsKept ((before.acquire invocation.registration).leaveHolding index leaving) := by
    intro leaving registration
    have left := (leaving.registration_leave before.gate).trans registration
    have put : PermitsKept (((before.acquire invocation.registration).release
        leaving.registration).put index (leaving.leave before.gate)) := by
      rw [registration]
      refine permitsKept_change kept found left _ (List.modify_modify_eq _ _ _ _) rfl
        (fun registered isRegistered => ⟨rfl, ?_⟩) fun _ held => ?_
      · have positive := permit registered isRegistered
        rw [leaving.holdsPermit_leave, free]
        simp only [Function.comp_apply]
        omega
      · rw [leaving.holdsPermit_leave] at held
        cases held
    unfold leaveHolding leave
    split
    · exact permitsKept_forget put
    · exact put
  unfold enter
  split
  · exact givenBack rfl
  · split
    · split
      · exact givenBack rfl
      · exact taken rfl rfl
    · split
      · exact givenBack rfl
      · exact taken rfl rfl

theorem permitsKept_begin (kept : PermitsKept before)
    (found : before.invocations[index]? = some invocation)
    (queued : invocation.phase = .queued) : PermitsKept (before.begin index invocation) := by
  have free : invocation.phase.holdsPermit = false := by rw [queued]; rfl
  unfold begin
  split
  · exact permitsKept_put kept found rfl free.symm
  · split
    · next available => exact permitsKept_enter kept found available.1 free
    · exact permitsKept_put kept found rfl free.symm

/-- The semaphores and the permits that are held are all that counts. -/
theorem PermitsKept.congr (kept : PermitsKept before)
    (registrations : after.registrations = before.registrations)
    (permits : ∀ registration, after.invocations.countP (holds registration) =
      before.invocations.countP (holds registration)) : PermitsKept after where
  balance registration registered found := by
    rw [permits]
    rw [registrations] at found
    exact kept.balance registration registered found
  vacant registration absent := by
    rw [permits]
    rw [registrations] at absent
    exact kept.vacant registration absent

theorem permitsKept_onRequest (kept : PermitsKept before) (correlationId : CorrelationId)
    (registration : Nat) (budget : Option Nat) :
    PermitsKept (before.onRequest correlationId registration budget) := by
  rcases before.onRequest_cases correlationId registration budget with
    ⟨dispatcher, deadline, same⟩ | ⟨deadline, same⟩
  · rw [same]
    exact kept.congr rfl fun _ => by simp [holds, WorkPhase.holdsPermit]
  · rw [same]
    exact kept.congr rfl fun _ => by simp [holds, WorkPhase.holdsPermit]

theorem permitsKept_onLifecycle (kept : PermitsKept before) (kind : Nat)
    (correlationId : CorrelationId) (value : Nat) :
    PermitsKept (before.onLifecycle kind correlationId value) := by
  unfold onLifecycle
  split
  · refine kept.congr rfl fun registration => countP_mapIdx_of_eq _ _ fun index invocation => ?_
    split
    · split
      · unfold Invocation.requestCancellation
        split <;> rfl
      · rfl
    · rfl
  · exact kept

theorem permitsKept_disconnect (kept : PermitsKept before) : PermitsKept before.disconnect := by
  refine kept.congr rfl fun registration => countP_mapIdx_of_eq _ _ fun index invocation => ?_
  unfold Invocation.disconnect
  split <;> rfl

theorem permitsKept_register (kept : PermitsKept before) (maxConcurrency : Nat) :
    PermitsKept { before with
      registrations := before.registrations ++ [{ maxConcurrency, value := maxConcurrency }] } where
  balance registration registered found := by
    rcases getElem?_concat_eq_some.mp found with old | ⟨rfl, rfl⟩
    · exact kept.balance registration registered old
    · have vacant := kept.vacant before.registrations.length
        (List.getElem?_eq_none (Nat.le_refl _))
      simp only
      omega
  vacant registration absent := by
    refine kept.vacant registration (List.getElem?_eq_none ?_)
    have bound := List.getElem?_eq_none_iff.mp absent
    simp only [List.length_append, List.length_singleton] at bound
    omega

/-- A transition of one invocation keeps the balance of its semaphore. -/
theorem permitsKept_stepInvocation (kept : PermitsKept before)
    (found : before.invocations[index]? = some invocation)
    (stepped : before.stepInvocation index invocation action = some after) :
    PermitsKept after := by
  cases action with
  | begin _ =>
      obtain ⟨⟨queued, -⟩, same⟩ := Option.ite_none_right_eq_some.mp stepped
      obtain rfl := Option.some.inj same
      exact permitsKept_begin kept found queued
  | acquire _ =>
      obtain ⟨⟨waiting, available⟩, same⟩ := Option.ite_none_right_eq_some.mp stepped
      obtain rfl := Option.some.inj same
      exact permitsKept_enter kept found available (by rw [waiting]; rfl)
  | respond _ final =>
      obtain ⟨-, same⟩ := Option.ite_none_right_eq_some.mp stepped
      obtain rfl := Option.some.inj same
      exact permitsKept_put kept found rfl rfl
  | handlerReturned _ | handlerStopped _ =>
      obtain ⟨running, same⟩ := Option.ite_none_right_eq_some.mp stepped
      obtain rfl := Option.some.inj same
      exact permitsKept_leaveHolding kept found rfl (by rw [running]; rfl)
  | handlerRaised _ message =>
      obtain ⟨running, same⟩ := Option.ite_none_right_eq_some.mp stepped
      obtain rfl := Option.some.inj same
      have holdsPermit : invocation.phase.holdsPermit = true := by rw [running]; rfl
      split
      · exact permitsKept_leaveHolding kept found rfl holdsPermit
      · exact permitsKept_put kept found rfl holdsPermit.symm
  | handlerCancelled _ =>
      obtain ⟨running, same⟩ := Option.ite_none_right_eq_some.mp stepped
      obtain rfl := Option.some.inj same
      have holdsPermit : invocation.phase.holdsPermit = true := by rw [running]; rfl
      split
      · exact permitsKept_leaveHolding kept found rfl holdsPermit
      · exact permitsKept_put kept found rfl holdsPermit.symm
  | errorSent _ =>
      obtain ⟨-, sends⟩ := Option.ite_none_right_eq_some.mp stepped
      split at sends
      · next gate code message sending =>
          obtain ⟨-, same⟩ := Option.ite_none_right_eq_some.mp sends
          obtain rfl := Option.some.inj same
          exact permitsKept_leaveHolding kept found rfl (by rw [sending]; rfl)
      · next rejecting =>
          obtain ⟨-, same⟩ := Option.ite_none_right_eq_some.mp sends
          obtain rfl := Option.some.inj same
          exact permitsKept_forget (permitsKept_put kept found rfl (by rw [rejecting]; rfl))
      · cases sends
  | errorFailed _ =>
      simp only [stepInvocation] at stepped
      split at stepped
      · next gate code message sending =>
          obtain rfl := Option.some.inj stepped
          exact permitsKept_leaveHolding kept found rfl (by rw [sending]; rfl)
      · next rejecting =>
          obtain rfl := Option.some.inj stepped
          exact permitsKept_forget (permitsKept_put kept found rfl (by rw [rejecting]; rfl))
      · cases stepped
  | interrupt _ =>
      simp only [stepInvocation] at stepped
      split at stepped
      · next waiting =>
          obtain rfl := Option.some.inj stepped
          exact permitsKept_leave kept found rfl (by rw [waiting]; rfl)
      · next gate code message sending =>
          obtain rfl := Option.some.inj stepped
          exact permitsKept_leaveHolding kept found rfl (by rw [sending]; rfl)
      · cases stepped
  | ackSent _ =>
      simp only [stepInvocation] at stepped
      split at stepped
      · next gate acknowledging =>
          obtain ⟨session, -, rfl⟩ := Option.map_eq_some_iff.mp stepped
          exact permitsKept_put kept found rfl (by rw [acknowledging]; rfl)
      · cases stepped
  | ackFailed _ =>
      simp only [stepInvocation] at stepped
      split at stepped
      · next gate acknowledging =>
          obtain rfl := Option.some.inj stepped
          exact permitsKept_put kept found rfl (by rw [acknowledging]; rfl)
      · cases stepped
  | beginAck _ task =>
      obtain ⟨-, same⟩ := Option.ite_none_right_eq_some.mp stepped
      obtain rfl := Option.some.inj same
      exact permitsKept_forget (permitsKept_put kept found rfl rfl)
  | taskSent _ task =>
      simp only [stepInvocation] at stepped
      split at stepped
      · obtain ⟨session, -, rfl⟩ := Option.map_eq_some_iff.mp stepped
        exact permitsKept_put kept found rfl rfl
      · cases stepped
  | taskFailed _ task =>
      simp only [stepInvocation] at stepped
      split at stepped
      · obtain rfl := Option.some.inj stepped
        exact permitsKept_put kept found rfl rfl
      · cases stepped
  | completed _ =>
      obtain ⟨-, same⟩ := Option.ite_none_right_eq_some.mp stepped
      obtain rfl := Option.some.inj same
      exact kept.congr rfl fun _ => rfl
  | timer _ =>
      obtain ⟨-, same⟩ := Option.ite_none_right_eq_some.mp stepped
      obtain rfl := Option.some.inj same
      exact permitsKept_put kept found rfl rfl
  | register _ | request _ _ _ | lifecycle _ _ _ | elapse _ | lose _ _ | announce | openTransport
  | closeTransport | openSession | close => cases stepped

theorem permitsKept_step (kept : PermitsKept before) (stepped : before.step action = some after) :
    PermitsKept after := by
  cases action with
  | register maxConcurrency =>
      obtain ⟨-, same⟩ := Option.ite_none_right_eq_some.mp stepped
      obtain rfl := Option.some.inj same
      exact permitsKept_register kept maxConcurrency
  | request correlationId registration budget =>
      obtain ⟨-, same⟩ := Option.ite_none_right_eq_some.mp stepped
      obtain rfl := Option.some.inj same
      exact permitsKept_onRequest kept correlationId registration budget
  | lifecycle kind correlationId value =>
      obtain ⟨-, same⟩ := Option.ite_none_right_eq_some.mp stepped
      obtain rfl := Option.some.inj same
      exact permitsKept_onLifecycle kept kind correlationId value
  | announce =>
      obtain ⟨-, same⟩ := Option.ite_none_right_eq_some.mp stepped
      obtain rfl := Option.some.inj same
      exact (permitsKept_disconnect kept).congr rfl fun _ => rfl
  | elapse duration =>
      obtain rfl := Option.some.inj stepped
      exact kept.congr rfl fun _ => rfl
  | lose _ _ | openTransport | openSession =>
      obtain ⟨-, same⟩ := Option.ite_none_right_eq_some.mp stepped
      obtain rfl := Option.some.inj same
      exact kept.congr rfl fun _ => rfl
  | closeTransport | close =>
      obtain ⟨-, same⟩ := Option.ite_none_left_eq_some.mp stepped
      obtain rfl := Option.some.inj same
      exact kept.congr rfl fun _ => rfl
  | begin _ | acquire _ | respond _ _ | handlerReturned _ | handlerRaised _ _
  | handlerCancelled _ | handlerStopped _ | errorSent _ | errorFailed _ | interrupt _ | ackSent _
  | ackFailed _ | beginAck _ _ | taskSent _ _ | taskFailed _ _ | completed _ | timer _ =>
      obtain ⟨invocation, found, resumed⟩ := Option.bind_eq_some_iff.mp stepped
      exact permitsKept_stepInvocation kept found resumed

theorem invariant_permitsKept :
    system.Invariant (fun _ _ => True) PermitsKept where
  starts first starts := by
    obtain ⟨maximum, queueSize, rfl⟩ := starts
    exact { balance := fun _ _ found => by cases found
            vacant := fun _ _ => rfl }
  preserved _ _ _ kept _ stepped := permitsKept_step kept stepped

/-- No handler is started twice or after a recorded cancellation, and no more
handlers of a registration run than it admits. -/
theorem handlers_of_reachable (reachable : system.Reachable client) :
    (∀ invocation ∈ client.invocations,
      invocation.starts ≤ 1 ∧ invocation.lateStart = false) ∧
    ∀ (registration : Nat) (registered : Registration),
      client.registrations[registration]? = some registered →
        client.invocations.countP (runs registration) ≤ registered.maxConcurrency := by
  have startsOnce := invariant_startsOnce.of_reachable reachable
  have permits := invariant_permitsKept.of_reachable reachable
  refine ⟨fun invocation member => ?_, fun registration registered found =>
    runs_le_of_permitsKept permits found⟩
  obtain ⟨index, found⟩ := List.getElem?_of_mem member
  have held := startsOnce index invocation found
  exact ⟨held.once, held.timely⟩

/-- Of three requests with one id the first runs, the second is cancelled while
it waits for the semaphore, and the third takes its place in the table. -/
theorem handlers_reused_id : ∃ client : RpcClient,
    client.invocations.map (·.starts) = [1, 0, 1] ∧
      client.invocations.map (·.lateStart) = [false, false, false] ∧
      client.invocations.map (·.recorded) = [true, true, false] ∧
      client.invocations.countP (runs 0) ≤ 1 := by
  have reachable := system.reachable_of_run ⟨4, 1, rfl⟩
    [.register 1, .request 7 0 none, .begin 0, .request 7 0 none, .begin 1, .lifecycle 2 7 1,
      .request 7 0 none, .begin 2, .handlerReturned 0, .acquire 1, .acquire 2] rfl
  refine ⟨_, rfl, rfl, rfl, (handlers_of_reachable reachable).2 0 _ rfl⟩

end RpcClient

end FitzClient
