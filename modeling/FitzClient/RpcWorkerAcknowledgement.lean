import FitzClient.RpcWorkerStart

/-!
# Acknowledging the cleanup

Three places acknowledge the cleanup of a cancelled invocation: a task that the
cancellation message schedules, the `finally` block of the work item, and the
terminal task of a request that the dispatcher refused.  The first two exclude
each other through the table and the flags of the invocation, except where a
message finds the work item before its handler but behind its first check, or
finds a task that has yet to begin.  An acknowledgement waits in the gate of the
session in which it begins, and comes to another session only if this gate was
left open.
-/

namespace FitzClient

/-- The work item is suspended in `_run_worker`, before its `finally` block, or
in the terminal task. -/
def WorkPhase.working : WorkPhase → Bool
  | .waiting | .running | .sendingError _ _ _ | .rejecting => true
  | .queued | .acknowledging _ | .ended => false

namespace RpcClient

variable {before after client : RpcClient} {index : Nat} {invocation next : Invocation}
  {action : RpcAction} {active : Bool}

/-- Whether messages can be sent, in which session, over which transport, and
through which gates of earlier sessions. -/
def link (client : RpcClient) : Bool × Nat × Option Nat × List Nat :=
  (client.usable, client.session, client.transport, client.openGates)

/-- What belongs to no invocation: the session, and the time. -/
def environment (client : RpcClient) : (Bool × Nat × Option Nat × List Nat) × Nat :=
  (client.link, client.now)

@[simp]
theorem environment_put : (client.put index invocation).environment = client.environment := rfl

@[simp]
theorem environment_forget : (client.forget index invocation).environment = client.environment := by
  unfold forget
  split <;> rfl

@[simp]
theorem environment_leave : (client.leave index invocation).environment = client.environment := by
  unfold leave
  split
  · exact environment_forget
  · rfl

@[simp]
theorem environment_leaveHolding :
    (client.leaveHolding index invocation).environment = client.environment :=
  environment_leave

@[simp]
theorem environment_enter : (client.enter index invocation).environment = client.environment := by
  unfold enter
  split
  · exact environment_leaveHolding
  · split
    · split
      · exact environment_leaveHolding
      · rfl
    · split
      · exact environment_leaveHolding
      · rfl

@[simp]
theorem environment_begin : (client.begin index invocation).environment = client.environment := by
  unfold begin
  split
  · rfl
  · split
    · exact environment_enter
    · rfl

theorem environment_onRequest (client : RpcClient) (correlationId : CorrelationId)
    (registration : Nat) (budget : Option Nat) :
    (client.onRequest correlationId registration budget).environment = client.environment := by
  rcases client.onRequest_cases correlationId registration budget with
    ⟨dispatcher, deadline, same⟩ | ⟨deadline, same⟩ <;> rw [same] <;> rfl

theorem environment_onLifecycle (client : RpcClient) (kind : Nat) (correlationId : CorrelationId)
    (value : Nat) :
    (client.onLifecycle kind correlationId value).environment = client.environment := by
  unfold onLifecycle
  split <;> rfl

/-- A work item changes neither the session nor the time. -/
theorem environment_stepInvocation
    (stepped : before.stepInvocation index invocation action = some after) :
    after.environment = before.environment := by
  cases action with
  | begin _ | acquire _ | respond _ _ | handlerReturned _ | handlerStopped _ | beginAck _ _
  | timer _ =>
      obtain ⟨-, same⟩ := Option.ite_none_right_eq_some.mp stepped
      obtain rfl := Option.some.inj same
      simp
  | handlerRaised _ _ | handlerCancelled _ =>
      obtain ⟨-, same⟩ := Option.ite_none_right_eq_some.mp stepped
      obtain rfl := Option.some.inj same
      split <;> simp
  | completed _ =>
      obtain ⟨-, same⟩ := Option.ite_none_right_eq_some.mp stepped
      obtain rfl := Option.some.inj same
      rfl
  | errorSent _ =>
      obtain ⟨-, sends⟩ := Option.ite_none_right_eq_some.mp stepped
      split at sends
      · obtain ⟨-, same⟩ := Option.ite_none_right_eq_some.mp sends
        obtain rfl := Option.some.inj same
        simp
      · obtain ⟨-, same⟩ := Option.ite_none_right_eq_some.mp sends
        obtain rfl := Option.some.inj same
        simp
      · cases sends
  | errorFailed _ | interrupt _ =>
      simp only [stepInvocation] at stepped
      split at stepped
      · obtain rfl := Option.some.inj stepped
        simp
      · obtain rfl := Option.some.inj stepped
        simp
      · cases stepped
  | ackSent _ | taskSent _ _ =>
      simp only [stepInvocation] at stepped
      split at stepped
      · obtain ⟨session, -, rfl⟩ := Option.map_eq_some_iff.mp stepped
        simp
      · cases stepped
  | ackFailed _ | taskFailed _ _ =>
      simp only [stepInvocation] at stepped
      split at stepped
      · obtain rfl := Option.some.inj stepped
        simp
      · cases stepped
  | register _ | request _ _ _ | lifecycle _ _ _ | elapse _ | lose _ _ | announce | openTransport
  | closeTransport | openSession | close => cases stepped

/-- A session goes on, is lost or closed, or is followed by the next one; between
sessions transports come and go. -/
inductive SessionStep (before : RpcClient) (action : RpcAction) (after : RpcClient) : Prop
  | same (link : after.link = before.link)
  | lost (unusable : after.usable = false) (session : after.session = before.session)
      (transport : after.transport = none)
      (openGates : after.openGates ⊆ before.session :: before.openGates)
  | closed (unusable : after.usable = false) (session : after.session = before.session)
      (transport : after.transport = before.transport)
      (openGates : after.openGates = before.openGates)
  | moved (unusable : after.usable = false) (session : after.session = before.session)
      (transport : action = .openTransport ∨ after.transport = none)
      (openGates : after.openGates = before.openGates)
  | opened (unusable : before.usable = false) (session : after.session = before.session + 1)
      (transport : after.transport = some after.session)
      (kept : after.transport = before.transport)
      (openGates : after.openGates = before.openGates)

theorem SessionStep.of_environment (same : after.environment = before.environment) :
    SessionStep before action after :=
  .same (congrArg Prod.fst same)

theorem sessionStep_of_step (stepped : before.step action = some after) :
    SessionStep before action after := by
  cases action with
  | register maxConcurrency =>
      obtain ⟨-, same⟩ := Option.ite_none_right_eq_some.mp stepped
      obtain rfl := Option.some.inj same
      exact .same rfl
  | request correlationId registration budget =>
      obtain ⟨-, same⟩ := Option.ite_none_right_eq_some.mp stepped
      obtain rfl := Option.some.inj same
      exact .of_environment (before.environment_onRequest correlationId registration budget)
  | lifecycle kind correlationId value =>
      obtain ⟨-, same⟩ := Option.ite_none_right_eq_some.mp stepped
      obtain rfl := Option.some.inj same
      exact .of_environment (before.environment_onLifecycle kind correlationId value)
  | elapse duration =>
      obtain rfl := Option.some.inj stepped
      exact .same rfl
  | lose announced closesGate =>
      obtain ⟨-, same⟩ := Option.ite_none_right_eq_some.mp stepped
      obtain rfl := Option.some.inj same
      refine .lost rfl rfl rfl ?_
      cases closesGate with
      | true => exact List.subset_cons_self _ _
      | false => exact List.Subset.refl _
  | announce =>
      obtain ⟨-, same⟩ := Option.ite_none_right_eq_some.mp stepped
      obtain rfl := Option.some.inj same
      exact .same rfl
  | openTransport =>
      obtain ⟨⟨unusable, -⟩, same⟩ := Option.ite_none_right_eq_some.mp stepped
      obtain rfl := Option.some.inj same
      exact .moved (by simpa using unusable) rfl (Or.inl rfl) rfl
  | closeTransport =>
      obtain ⟨unusable, same⟩ := Option.ite_none_left_eq_some.mp stepped
      obtain rfl := Option.some.inj same
      exact .moved (by simpa using unusable) rfl (Or.inr rfl) rfl
  | openSession =>
      obtain ⟨⟨unusable, transport, -⟩, same⟩ := Option.ite_none_right_eq_some.mp stepped
      obtain rfl := Option.some.inj same
      exact .opened (by simpa using unusable) rfl transport rfl rfl
  | close =>
      obtain ⟨-, same⟩ := Option.ite_none_left_eq_some.mp stepped
      obtain rfl := Option.some.inj same
      exact .closed rfl rfl rfl rfl
  | begin _ | acquire _ | respond _ _ | handlerReturned _ | handlerRaised _ _
  | handlerCancelled _ | handlerStopped _ | errorSent _ | errorFailed _ | interrupt _ | ackSent _
  | ackFailed _ | beginAck _ _ | taskSent _ _ | taskFailed _ _ | completed _ | timer _ =>
      obtain ⟨invocation, -, resumed⟩ := Option.bind_eq_some_iff.mp stepped
      exact .of_environment (environment_stepInvocation resumed)

theorem session_of_link (same : after.link = before.link) : after.session = before.session :=
  congrArg (fun link => link.2.1) same

theorem session_le_of_step (stepped : before.step action = some after) :
    before.session ≤ after.session := by
  cases sessionStep_of_step stepped with
  | same link => exact Nat.le_of_eq (session_of_link link).symm
  | lost _ session _ _ | closed _ session _ _ | moved _ session _ _ =>
      exact Nat.le_of_eq session.symm
  | opened _ session _ _ _ =>
      rw [session]
      exact Nat.le_succ _

theorem isCurrent_iff {session : Nat} :
    client.isCurrent session = true ↔ client.usable = true ∧ session = client.session := by
  simp [isCurrent]

/-- A session that is over does not come back. -/
theorem isCurrent_of_step (stepped : before.step action = some after) {session : Nat}
    (bound : session ≤ before.session) (current : after.isCurrent session = true) :
    before.isCurrent session = true := by
  rw [isCurrent_iff] at current ⊢
  cases sessionStep_of_step stepped with
  | same link =>
      have usable : after.usable = before.usable := congrArg Prod.fst link
      rw [← usable, ← session_of_link link]
      exact current
  | lost unusable _ _ _ | closed unusable _ _ _ | moved unusable _ _ _ =>
      rw [unusable] at current
      cases current.1
  | opened _ opened _ _ _ => omega

/-- A session that is there has its own transport and its own gate, and no gate
is of a session that is yet to come. -/
structure Gated (client : RpcClient) : Prop where
  transport : client.usable = true → client.transport = some client.session
  fresh : client.usable = true → client.session ∉ client.openGates
  past : ∀ session ∈ client.openGates, session ≤ client.session

theorem Gated.step (gated : Gated before) (stepped : before.step action = some after) :
    Gated after := by
  cases sessionStep_of_step stepped with
  | same link =>
      obtain ⟨usable, session, transport, openGates⟩ : after.usable = before.usable ∧
          after.session = before.session ∧ after.transport = before.transport ∧
          after.openGates = before.openGates := by simpa [RpcClient.link] using link
      refine ⟨?_, ?_, ?_⟩
      · rw [usable, transport, session]
        exact gated.transport
      · rw [usable, session, openGates]
        exact gated.fresh
      · rw [session, openGates]
        exact gated.past
  | lost unusable session transport openGates =>
      refine ⟨by simp [unusable], by simp [unusable], fun gate isOpen => ?_⟩
      rw [session]
      rcases List.mem_cons.mp (openGates isOpen) with rfl | earlier
      · exact Nat.le_refl _
      · exact gated.past gate earlier
  | closed unusable session _ openGates | moved unusable session _ openGates =>
      refine ⟨by simp [unusable], by simp [unusable], ?_⟩
      rw [session, openGates]
      exact gated.past
  | opened _ session transport _ openGates =>
      refine ⟨fun _ => transport, fun _ isOpen => ?_, fun gate isOpen => ?_⟩
      · have past := gated.past _ (openGates ▸ isOpen)
        omega
      · have past := gated.past gate (openGates ▸ isOpen)
        omega

/-- Time does not run backwards. -/
theorem now_le_of_step (stepped : before.step action = some after) : before.now ≤ after.now := by
  have of_environment : after.environment = before.environment → before.now ≤ after.now :=
    fun same => Nat.le_of_eq (congrArg Prod.snd same).symm
  cases action with
  | register _ | lose _ _ | announce | openTransport | openSession =>
      obtain ⟨-, same⟩ := Option.ite_none_right_eq_some.mp stepped
      obtain rfl := Option.some.inj same
      exact Nat.le_refl _
  | request correlationId registration budget =>
      obtain ⟨-, same⟩ := Option.ite_none_right_eq_some.mp stepped
      obtain rfl := Option.some.inj same
      exact of_environment (before.environment_onRequest correlationId registration budget)
  | lifecycle kind correlationId value =>
      obtain ⟨-, same⟩ := Option.ite_none_right_eq_some.mp stepped
      obtain rfl := Option.some.inj same
      exact of_environment (before.environment_onLifecycle kind correlationId value)
  | elapse duration =>
      obtain rfl := Option.some.inj stepped
      exact Nat.le_add_right _ _
  | closeTransport | close =>
      obtain ⟨-, same⟩ := Option.ite_none_left_eq_some.mp stepped
      obtain rfl := Option.some.inj same
      exact Nat.le_refl _
  | begin _ | acquire _ | respond _ _ | handlerReturned _ | handlerRaised _ _
  | handlerCancelled _ | handlerStopped _ | errorSent _ | errorFailed _ | interrupt _ | ackSent _
  | ackFailed _ | beginAck _ _ | taskSent _ _ | taskFailed _ _ | completed _ | timer _ =>
      obtain ⟨invocation, -, resumed⟩ := Option.bind_eq_some_iff.mp stepped
      exact of_environment (environment_stepInvocation resumed)

/-- At most one acknowledgement was sent, in the session of the request, and the
handler does not run after it. -/
def AcknowledgedOnce (invocation : Invocation) : Prop :=
  invocation.acks.length ≤ 1 ∧ (∀ session ∈ invocation.acks, session = invocation.session) ∧
    (invocation.acks ≠ [] → invocation.phase ≠ .running)

/-- An acknowledgement in this gate comes to no other session than that of the
request: it entered the gate in that session, and if the gate was left open since,
no transport has come. -/
structure Lands (client : RpcClient) (invocation : Invocation) (gate : Option Nat) : Prop where
  own : ∀ session ∈ gate, session = invocation.session
  shut : client.transport ≠ none → ∀ session ∈ gate, session ∉ client.openGates

theorem Lands.destination {gate : Option Nat} {session : Nat} (gated : Gated client)
    (lands : Lands client invocation gate) (leads : client.destination gate = some session) :
    session = invocation.session := by
  cases gate with
  | none => cases leads
  | some entered =>
      simp only [RpcClient.destination] at leads
      split at leads
      · next passes =>
          rcases passes with current | isOpen
          · obtain ⟨usable, isSession⟩ := isCurrent_iff.mp current
            rw [gated.transport usable, ← isSession] at leads
            obtain rfl := Option.some.inj leads
            exact lands.own _ rfl
          · exact (lands.shut (by simp [leads]) entered rfl isOpen).elim
      · cases leads

theorem Lands.congr {gate : Option Nat} (lands : Lands client invocation gate)
    (session : next.session = invocation.session) : Lands client next gate where
  own entered inGate := (lands.own entered inGate).trans session.symm
  shut := lands.shut

/-- A `send` that is called now, while no other session is there. -/
theorem lands_gate (gated : Gated client)
    (own : client.usable = true → invocation.session = client.session) :
    Lands client invocation client.gate := by
  unfold RpcClient.gate
  split
  · next usable =>
      refine ⟨fun session entered => ?_, fun _ session entered => ?_⟩
      · obtain rfl := Option.some.inj entered
        exact (own usable).symm
      · obtain rfl := Option.some.inj entered
        exact gated.fresh usable
  · exact ⟨by simp, by simp⟩

/-- The acknowledgement of an invocation, from nowhere to the broker. -/
inductive AckStage (client : RpcClient) (invocation : Invocation) : Bool → Prop
  | unacknowledged (active : Bool) (tasks : invocation.ackTasks = []) (acks : invocation.acks = [])
      (apart : ∀ gate, invocation.phase ≠ .acknowledging gate)
      (unbegun : invocation.phase.pending = true → invocation.started = false ∧
        invocation.cancellationRequested = false ∧ invocation.ended = false) :
      AckStage client invocation active
  | leaving (gate : Option Nat) (tasks : invocation.ackTasks = []) (acks : invocation.acks = [])
      (phase : invocation.phase = .acknowledging gate) (lands : Lands client invocation gate) :
      AckStage client invocation false
  | left (tasks : invocation.ackTasks = []) (acks : invocation.acks = [invocation.session])
      (phase : invocation.phase = .ended) : AckStage client invocation false
  | scheduled (active : Bool) (tasks : invocation.ackTasks = [.scheduled])
      (acks : invocation.acks = [])
      (idle : invocation.phase = .queued ∨ invocation.phase = .ended) :
      AckStage client invocation active
  | sending (gate : Option Nat) (tasks : invocation.ackTasks = [.sending gate])
      (acks : invocation.acks = []) (idle : invocation.phase = .queued ∨ invocation.phase = .ended)
      (lands : Lands client invocation gate) : AckStage client invocation false
  | sent (tasks : invocation.ackTasks = [.sent]) (acks : invocation.acks = [invocation.session])
      (idle : invocation.phase = .queued ∨ invocation.phase = .ended) :
      AckStage client invocation false
  | failed (tasks : invocation.ackTasks = [.failed]) (acks : invocation.acks = [])
      (idle : invocation.phase = .queued ∨ invocation.phase = .ended) :
      AckStage client invocation false

/-- A cancellation message finds no work item between its first check and its
end that it acknowledges at once, no acknowledgement waits for its task to begin
when the message is repeated or the work item begins, none begins in a later
session than that of the request, and none waits in the gate of an earlier session
that was left open when a transport is opened. -/
def CleanedUpOnce (client : RpcClient) (action : RpcAction) : Prop :=
  ∀ (index : Nat) (invocation : Invocation), client.invocations[index]? = some invocation →
    match action with
    | .lifecycle kind correlationId value =>
        kind = 2 ∧ 1 ≤ value ∧ value ≤ 4 → invocation.correlationId = correlationId →
          client.isActive index invocation = true →
            invocation.finished = true ∨ invocation.started = false →
              invocation.phase.working = false ∧ .scheduled ∉ invocation.ackTasks
    | .begin item => item = index → client.isActive index invocation = true →
        .scheduled ∉ invocation.ackTasks
    | .handlerReturned item | .handlerStopped item => item = index →
        invocation.acknowledges = true → client.usable = true → invocation.session = client.session
    | .handlerRaised item message => item = index →
        invocation.ended = true ∨ message.encodes = false → invocation.acknowledges = true →
          client.usable = true → invocation.session = client.session
    | .handlerCancelled item => item = index →
        invocation.ended = true → client.usable = true → invocation.session = client.session
    | .errorFailed item | .interrupt item => item = index →
        invocation.acknowledges = true ∨ invocation.phase = .rejecting → client.usable = true →
          invocation.session = client.session
    | .errorSent item | .beginAck item _ => item = index →
        client.usable = true → invocation.session = client.session
    | .openTransport => ∀ gate,
        invocation.phase = .acknowledging gate ∨ .sending gate ∈ invocation.ackTasks →
          ∀ session ∈ gate, session ∉ client.openGates
    | _ => True

theorem AckStage.acknowledgedOnce (stage : AckStage client invocation active) :
    AcknowledgedOnce invocation := by
  cases stage with
  | unacknowledged _ tasks acks apart unbegun => simp [AcknowledgedOnce, acks]
  | leaving gate tasks acks phase lands => simp [AcknowledgedOnce, acks]
  | left tasks acks phase => simp [AcknowledgedOnce, acks, phase]
  | scheduled _ tasks acks idle => simp [AcknowledgedOnce, acks]
  | sending gate tasks acks idle lands => simp [AcknowledgedOnce, acks]
  | sent tasks acks idle =>
      rcases idle with queued | ended
      · simp [AcknowledgedOnce, acks, queued]
      · simp [AcknowledgedOnce, acks, ended]
  | failed tasks acks idle => simp [AcknowledgedOnce, acks]

theorem working_of_idle {phase : WorkPhase} (idle : phase = .queued ∨ phase = .ended) :
    phase.working = false := by
  rcases idle with rfl | rfl <;> rfl

/-- Whoever works has not been acknowledged. -/
theorem AckStage.of_working (stage : AckStage client invocation active)
    (working : invocation.phase.working = true) :
    invocation.ackTasks = [] ∧ invocation.acks = [] ∧
      (invocation.phase.pending = true → invocation.started = false ∧
        invocation.cancellationRequested = false ∧ invocation.ended = false) := by
  cases stage with
  | unacknowledged _ tasks acks apart unbegun => exact ⟨tasks, acks, unbegun⟩
  | leaving gate tasks acks phase lands =>
      rw [phase] at working
      cases working
  | left tasks acks phase =>
      rw [phase] at working
      cases working
  | scheduled _ _ _ idle | sending _ _ _ idle _ | sent _ _ idle | failed _ _ idle =>
      rw [working_of_idle idle] at working
      cases working

/-- Nothing that the acknowledgement depends on changes. -/
theorem AckStage.keep {other : Bool} (stage : AckStage client invocation active)
    (tasks : next.ackTasks = invocation.ackTasks) (acks : next.acks = invocation.acks)
    (phase : next.phase = invocation.phase) (session : next.session = invocation.session)
    (unbegun : invocation.phase.pending = true → invocation.started = false ∧
      invocation.cancellationRequested = false ∧ invocation.ended = false →
        next.started = false ∧ next.cancellationRequested = false ∧ next.ended = false)
    (table : active = false → other = false) : AckStage client next other := by
  cases stage with
  | unacknowledged _ wasTasks wasAcks apart wasUnbegun =>
      refine .unacknowledged other (tasks.trans wasTasks) (acks.trans wasAcks) ?_ ?_
      · rw [phase]
        exact apart
      · rw [phase]
        exact fun pending => unbegun pending (wasUnbegun pending)
  | leaving gate wasTasks wasAcks wasPhase lands =>
      rw [table rfl]
      exact .leaving gate (tasks.trans wasTasks) (acks.trans wasAcks) (phase.trans wasPhase)
        (lands.congr session)
  | left wasTasks wasAcks wasPhase =>
      rw [table rfl]
      refine .left (tasks.trans wasTasks) ?_ (phase.trans wasPhase)
      rw [acks, session, wasAcks]
  | scheduled _ wasTasks wasAcks idle =>
      refine .scheduled other (tasks.trans wasTasks) (acks.trans wasAcks) ?_
      rw [phase]
      exact idle
  | sending gate wasTasks wasAcks idle lands =>
      rw [table rfl]
      refine .sending gate (tasks.trans wasTasks) (acks.trans wasAcks) ?_ (lands.congr session)
      rw [phase]
      exact idle
  | sent wasTasks wasAcks idle =>
      rw [table rfl]
      refine .sent (tasks.trans wasTasks) ?_ ?_
      · rw [acks, session, wasAcks]
      · rw [phase]
        exact idle
  | failed wasTasks wasAcks idle =>
      rw [table rfl]
      refine .failed (tasks.trans wasTasks) (acks.trans wasAcks) ?_
      rw [phase]
      exact idle

/-- A work item passes its first check before it is cancelled, or is done for
without an acknowledgement of its own. -/
theorem AckStage.of_enters (stage : AckStage client invocation (client.isActive index invocation))
    (found : client.invocations[index]? = some invocation)
    (cleaned : CleanedUpOnce client action) (enters : client.Enters index invocation action) :
    invocation.ackTasks = [] ∧ invocation.acks = [] ∧ invocation.started = false ∧
      invocation.cancellationRequested = false ∧ invocation.ended = false := by
  cases action with
  | begin item =>
      obtain ⟨same, queued, isActive⟩ := enters
      have unscheduled := cleaned index invocation found same isActive
      have pending : invocation.phase.pending = true := by
        rw [queued]
        rfl
      rw [isActive] at stage
      cases stage with
      | unacknowledged _ tasks acks apart unbegun => exact ⟨tasks, acks, unbegun pending⟩
      | scheduled _ tasks acks idle =>
          rw [tasks] at unscheduled
          exact (unscheduled (List.mem_singleton.mpr rfl)).elim
  | acquire item =>
      obtain ⟨-, waiting⟩ := enters
      obtain ⟨tasks, acks, unbegun⟩ := stage.of_working (by rw [waiting]; rfl)
      exact ⟨tasks, acks, unbegun (by rw [waiting]; rfl)⟩
  | _ => exact enters.elim

/-- The `finally` block acknowledges, or there is nothing to acknowledge. -/
theorem ackStage_leave {leaving : Invocation} (gated : Gated client)
    (tasks : leaving.ackTasks = []) (acks : leaving.acks = [])
    (own : leaving.acknowledges = true → client.usable = true → leaving.session = client.session) :
    AckStage client (leaving.leave client.gate) (active && !leaving.acknowledges) := by
  cases acknowledges : leaving.acknowledges with
  | true =>
      rw [Bool.not_true, Bool.and_false]
      simp only [Invocation.leave, acknowledges, if_true]
      have lands : Lands client leaving client.gate := lands_gate gated (own acknowledges)
      exact .leaving client.gate tasks acks rfl (lands.congr rfl)
  | false =>
      simp only [Invocation.leave, acknowledges, Bool.false_eq_true, if_false]
      exact .unacknowledged _ tasks acks nofun nofun

theorem ackStage_leaves {leaving : Invocation}
    (gated : Gated client)
    (stage : AckStage client invocation (client.isActive index invocation))
    (found : client.invocations[index]? = some invocation)
    (cleaned : CleanedUpOnce client action)
    (leaves : Leaves client index invocation action leaving) :
    AckStage client (leaving.leave client.gate)
      (client.isActive index invocation && !leaving.acknowledges) := by
  cases leaves with
  | inactive enters _ =>
      obtain ⟨tasks, acks, -, unrequested, unended⟩ := stage.of_enters found cleaned enters
      refine ackStage_leave gated tasks acks ?_
      simp [Invocation.acknowledges, unrequested, unended]
  | cancelled enters _ _ =>
      obtain ⟨tasks, acks, -, unrequested, unended⟩ := stage.of_enters found cleaned enters
      refine ackStage_leave gated tasks acks ?_
      simp [Invocation.acknowledges, unrequested, unended]
  | expired enters requested =>
      obtain ⟨-, -, -, unrequested, -⟩ := stage.of_enters found cleaned enters
      rw [requested] at unrequested
      cases unrequested
  | returned running =>
      obtain ⟨tasks, acks, -⟩ := stage.of_working (by rw [running]; rfl)
      exact @ackStage_leave _ _ { invocation with returned := true } gated tasks acks
        (cleaned index invocation found rfl)
  | raised message running unsent =>
      obtain ⟨tasks, acks, -⟩ := stage.of_working (by rw [running]; rfl)
      exact ackStage_leave gated tasks acks (cleaned index invocation found rfl unsent)
  | handlerCancelled running ended =>
      obtain ⟨tasks, acks, -⟩ := stage.of_working (by rw [running]; rfl)
      exact ackStage_leave gated tasks acks fun _ => cleaned index invocation found rfl ended
  | stopped running =>
      obtain ⟨tasks, acks, -⟩ := stage.of_working (by rw [running]; rfl)
      exact ackStage_leave gated tasks acks (cleaned index invocation found rfl)
  | errorSent gate code message sending =>
      obtain ⟨tasks, acks, -⟩ := stage.of_working (by rw [sending]; rfl)
      exact @ackStage_leave _ _ { invocation with
        sequence := invocation.sequence + 1, ended := true } gated tasks acks fun _ =>
          cleaned index invocation found rfl
  | errorFailed gate code message sending =>
      obtain ⟨tasks, acks, -⟩ := stage.of_working (by rw [sending]; rfl)
      exact ackStage_leave gated tasks acks fun acknowledges =>
        cleaned index invocation found rfl (Or.inl acknowledges)
  | interrupted waiting =>
      obtain ⟨tasks, acks, -⟩ := stage.of_working (by rw [waiting]; rfl)
      exact ackStage_leave gated tasks acks fun acknowledges =>
        cleaned index invocation found rfl (Or.inl acknowledges)
  | errorInterrupted gate code message sending =>
      obtain ⟨tasks, acks, -⟩ := stage.of_working (by rw [sending]; rfl)
      exact ackStage_leave gated tasks acks fun acknowledges =>
        cleaned index invocation found rfl (Or.inl acknowledges)

/-- An invocation that the table leads to gets its first acknowledgement. -/
theorem AckStage.schedule (stage : AckStage client invocation true)
    (idle : invocation.phase.working = false) (unscheduled : .scheduled ∉ invocation.ackTasks) :
    invocation.ackTasks = [] ∧ invocation.acks = [] ∧
      (invocation.phase = .queued ∨ invocation.phase = .ended) := by
  cases stage with
  | unacknowledged _ tasks acks apart unbegun =>
      refine ⟨tasks, acks, ?_⟩
      cases phase : invocation.phase with
      | queued => exact Or.inl rfl
      | ended => exact Or.inr rfl
      | acknowledging gate => exact (apart gate phase).elim
      | waiting | running | sendingError _ _ _ | rejecting =>
          rw [phase] at idle
          cases idle
  | scheduled _ tasks acks idle =>
      rw [tasks] at unscheduled
      exact (unscheduled (List.mem_singleton.mpr rfl)).elim

/-- A work item that finds its invocation gone ends. -/
theorem AckStage.skip (stage : AckStage client invocation false)
    (queued : invocation.phase = .queued) :
    AckStage client { invocation with finished := true, phase := .ended } false := by
  cases stage with
  | unacknowledged _ tasks acks apart unbegun => exact .unacknowledged _ tasks acks nofun nofun
  | leaving gate tasks acks phase lands =>
      rw [queued] at phase
      cases phase
  | left tasks acks phase =>
      rw [queued] at phase
      cases phase
  | scheduled _ tasks acks idle => exact .scheduled _ tasks acks (Or.inr rfl)
  | sending gate tasks acks idle lands =>
      exact .sending gate tasks acks (Or.inr rfl) (lands.congr rfl)
  | sent tasks acks idle => exact .sent tasks acks (Or.inr rfl)
  | failed tasks acks idle => exact .failed tasks acks (Or.inr rfl)

theorem AckStage.of_acknowledging {gate : Option Nat} (stage : AckStage client invocation active)
    (acknowledging : invocation.phase = .acknowledging gate) :
    invocation.ackTasks = [] ∧ invocation.acks = [] ∧ active = false ∧
      Lands client invocation gate := by
  cases stage with
  | unacknowledged _ tasks acks apart unbegun => exact (apart gate acknowledging).elim
  | leaving entered tasks acks phase lands =>
      rw [acknowledging] at phase
      obtain rfl := WorkPhase.acknowledging.inj phase
      exact ⟨tasks, acks, rfl, lands⟩
  | left tasks acks phase =>
      rw [acknowledging] at phase
      cases phase
  | scheduled _ _ _ idle | sending _ _ _ idle _ | sent _ _ idle | failed _ _ idle =>
      rw [acknowledging] at idle
      rcases idle with idle | idle <;> cases idle

/-- A task that has yet to begin or to send is the only one. -/
theorem AckStage.of_task {task : Nat} {phase : AckPhase}
    (stage : AckStage client invocation active)
    (found : invocation.ackTasks[task]? = some phase) :
    task = 0 ∧ invocation.ackTasks = [phase] := by
  have single : ∀ {only : AckPhase}, invocation.ackTasks = [only] →
      task = 0 ∧ invocation.ackTasks = [phase] := by
    intro only tasks
    rw [tasks, List.getElem?_singleton] at found
    obtain ⟨first, same⟩ := Option.ite_none_right_eq_some.mp found
    exact ⟨first, by rw [tasks, Option.some.inj same]⟩
  cases stage with
  | unacknowledged _ tasks _ _ _ | leaving _ tasks _ _ _ | left tasks _ _ =>
      rw [tasks] at found
      cases found
  | scheduled _ tasks _ _ | sending _ tasks _ _ _ | sent tasks _ _ | failed tasks _ _ =>
      exact single tasks

theorem AckStage.of_scheduled (stage : AckStage client invocation active)
    (tasks : invocation.ackTasks = [.scheduled]) :
    invocation.acks = [] ∧ (invocation.phase = .queued ∨ invocation.phase = .ended) := by
  cases stage with
  | scheduled _ _ acks idle => exact ⟨acks, idle⟩
  | unacknowledged _ other _ _ _ | leaving _ other _ _ _ | left other _ _ | sending _ other _ _ _
  | sent other _ _ | failed other _ _ =>
      rw [tasks] at other
      cases other

theorem AckStage.of_sending {gate : Option Nat} (stage : AckStage client invocation active)
    (tasks : invocation.ackTasks = [.sending gate]) :
    invocation.acks = [] ∧ (invocation.phase = .queued ∨ invocation.phase = .ended) ∧
      active = false ∧ Lands client invocation gate := by
  cases stage with
  | sending entered same acks idle lands =>
      rw [tasks] at same
      obtain rfl := AckPhase.sending.inj (List.singleton_inj.mp same)
      exact ⟨acks, idle, rfl, lands⟩
  | unacknowledged _ other _ _ _ | leaving _ other _ _ _ | left other _ _ | scheduled _ other _ _
  | sent other _ _ | failed other _ _ =>
      rw [tasks] at other
      cases other

/-- The step lemma for one invocation. -/
theorem ackStage_evolves (gated : Gated before)
    (stage : AckStage before invocation (before.isActive index invocation))
    (found : before.invocations[index]? = some invocation)
    (cleaned : CleanedUpOnce before action)
    (evolves : Evolves before index invocation action next active) :
    AckStage before next active := by
  cases evolves with
  | unaffected _ => exact stage
  | displaced _ _ => exact stage.keep rfl rfl rfl rfl (fun _ => id) fun _ => rfl
  | requested value lower upper isActive =>
      unfold Invocation.requestCancellation
      split
      · next unstarted =>
          have unstarted' : invocation.finished = true ∨ invocation.started = false := by
            simpa using unstarted
          obtain ⟨idle, unscheduled⟩ :=
            cleaned index invocation found ⟨rfl, lower, upper⟩ rfl isActive unstarted'
          rw [isActive] at stage ⊢
          obtain ⟨tasks, acks, rests⟩ := stage.schedule idle unscheduled
          exact .scheduled true (by simp [tasks]) acks rests
      · next started =>
          refine stage.keep rfl rfl rfl rfl (fun _ unbegun => ?_) id
          exact (started (Or.inr (by simp [unbegun.1]))).elim
  | recorded _ _ => exact stage.keep rfl rfl rfl rfl (fun _ => id) fun _ => rfl
  | timer _ _ => exact stage.keep rfl rfl rfl rfl (fun _ => id) id
  | disconnected =>
      unfold Invocation.disconnect
      split <;> exact stage.keep rfl rfl rfl rfl (fun _ => id) fun _ => rfl
  | skipped queued inactive =>
      rw [inactive] at stage
      exact stage.skip queued
  | waits queued isActive =>
      obtain ⟨tasks, acks, unbegun⟩ := stage.of_enters found cleaned ⟨rfl, queued, isActive⟩
      exact .unacknowledged _ tasks acks nofun fun _ => unbegun
  | starts enters _ _ _ =>
      obtain ⟨tasks, acks, -⟩ := stage.of_enters found cleaned enters
      exact .unacknowledged _ tasks acks nofun nofun
  | expires enters _ _ =>
      obtain ⟨tasks, acks, -⟩ := stage.of_enters found cleaned enters
      exact .unacknowledged _ tasks acks nofun nofun
  | responds final started _ =>
      refine stage.keep rfl rfl rfl rfl (fun _ unbegun => ?_) id
      rw [started] at unbegun
      cases unbegun.1
  | raises message running _ =>
      obtain ⟨tasks, acks, -⟩ := stage.of_working (by rw [running]; rfl)
      exact .unacknowledged _ tasks acks nofun nofun
  | handlerCancels running _ =>
      obtain ⟨tasks, acks, -⟩ := stage.of_working (by rw [running]; rfl)
      exact .unacknowledged _ tasks acks nofun nofun
  | leaves leaves => exact ackStage_leaves gated stage found cleaned leaves
  | rejected rejecting =>
      obtain ⟨tasks, acks, -⟩ := stage.of_working (by rw [rejecting]; rfl)
      have lands : Lands before invocation before.gate :=
        lands_gate gated (cleaned index invocation found rfl)
      exact .leaving before.gate tasks acks rfl (lands.congr rfl)
  | rejectFailed rejecting =>
      obtain ⟨tasks, acks, -⟩ := stage.of_working (by rw [rejecting]; rfl)
      have lands : Lands before invocation before.gate :=
        lands_gate gated (cleaned index invocation found rfl (Or.inr rejecting))
      exact .leaving before.gate tasks acks rfl (lands.congr rfl)
  | ackSent gate session acknowledging destination =>
      obtain ⟨tasks, acks, inactive, lands⟩ := stage.of_acknowledging acknowledging
      obtain rfl := lands.destination gated destination
      rw [inactive]
      exact .left tasks (by simp [acks]) rfl
  | ackFailed gate acknowledging =>
      obtain ⟨tasks, acks, -⟩ := stage.of_acknowledging acknowledging
      exact .unacknowledged _ tasks acks nofun nofun
  | beginsAck task scheduled =>
      obtain ⟨rfl, tasks⟩ := stage.of_task scheduled
      obtain ⟨acks, idle⟩ := stage.of_scheduled tasks
      have lands : Lands before invocation before.gate :=
        lands_gate gated (cleaned index invocation found rfl)
      exact .sending before.gate (by simp [tasks]) acks idle (lands.congr rfl)
  | taskSent task gate session sending destination =>
      obtain ⟨rfl, tasks⟩ := stage.of_task sending
      obtain ⟨acks, idle, inactive, lands⟩ := stage.of_sending tasks
      obtain rfl := lands.destination gated destination
      rw [inactive]
      exact .sent (by simp [tasks]) (by simp [acks]) idle
  | taskFailed task gate sending =>
      obtain ⟨rfl, tasks⟩ := stage.of_task sending
      obtain ⟨acks, idle, inactive, -⟩ := stage.of_sending tasks
      rw [inactive]
      exact .failed (by simp [tasks]) acks idle

theorem ackStage_fresh (fresh : Fresh client next active) : AckStage client next active := by
  cases fresh with
  | accepted _ _ _ _ => exact .unacknowledged true rfl rfl nofun fun _ => ⟨rfl, rfl, rfl⟩
  | refused _ _ _ => exact .unacknowledged false rfl rfl nofun nofun

theorem Lands.of_step {gate : Option Nat} (lands : Lands before invocation gate)
    (stepped : before.step action = some after)
    (closed : action = .openTransport → ∀ session ∈ gate, session ∉ before.openGates) :
    Lands after invocation gate where
  own := lands.own
  shut served := by
    cases sessionStep_of_step stepped with
    | same link =>
        obtain ⟨transport, openGates⟩ : after.transport = before.transport ∧
            after.openGates = before.openGates := ⟨congrArg (·.2.2.1) link, congrArg (·.2.2.2) link⟩
        rw [openGates]
        rw [transport] at served
        exact lands.shut served
    | lost _ _ transport _ => exact (served transport).elim
    | closed _ _ transport openGates | opened _ _ _ transport openGates =>
        rw [openGates]
        rw [transport] at served
        exact lands.shut served
    | moved _ _ transport openGates =>
        rw [openGates]
        rcases transport with opens | transport
        · exact closed opens
        · exact (served transport).elim

/-- Sessions come and go without a message reaching another one. -/
theorem AckStage.of_step (stage : AckStage before invocation active)
    (stepped : before.step action = some after)
    (closed : action = .openTransport → ∀ gate,
      invocation.phase = .acknowledging gate ∨ .sending gate ∈ invocation.ackTasks →
        ∀ session ∈ gate, session ∉ before.openGates) :
    AckStage after invocation active := by
  cases stage with
  | unacknowledged _ tasks acks apart unbegun => exact .unacknowledged _ tasks acks apart unbegun
  | leaving gate tasks acks phase lands =>
      exact .leaving gate tasks acks phase <|
        lands.of_step stepped fun opens => closed opens gate (Or.inl phase)
  | left tasks acks phase => exact .left tasks acks phase
  | scheduled _ tasks acks idle => exact .scheduled _ tasks acks idle
  | sending gate tasks acks idle lands =>
      exact .sending gate tasks acks idle <|
        lands.of_step stepped fun opens => closed opens gate (Or.inr (by simp [tasks]))
  | sent tasks acks idle => exact .sent tasks acks idle
  | failed tasks acks idle => exact .failed tasks acks idle

/-- No invocation changes when a transport is opened. -/
theorem closed_of_openTransport (cleaned : CleanedUpOnce before action)
    (stepped : before.step action = some after)
    (found : after.invocations[index]? = some invocation) :
    action = .openTransport → ∀ gate,
      invocation.phase = .acknowledging gate ∨ .sending gate ∈ invocation.ackTasks →
        ∀ session ∈ gate, session ∉ before.openGates := by
  rintro rfl
  obtain ⟨-, same⟩ := Option.ite_none_right_eq_some.mp stepped
  obtain rfl := Option.some.inj same
  exact cleaned index invocation found

theorem invariant_ackStage :
    system.Invariant CleanedUpOnce fun client =>
      Gated client ∧ Throughout (AckStage client) client where
  starts first starts := by
    obtain ⟨maximum, queueSize, rfl⟩ := starts
    exact ⟨⟨fun _ => rfl, fun _ => List.not_mem_nil, by simp⟩, fun _ _ found => by cases found⟩
  preserved before action after held cleaned stepped := by
    obtain ⟨gated, staged⟩ := held
    have next : Throughout (AckStage before) after := throughout_step staged stepped ackStage_fresh
      fun found stage evolves => ackStage_evolves gated stage found cleaned evolves
    exact ⟨gated.step stepped, fun index invocation found =>
      (next index invocation found).of_step stepped (closed_of_openTransport cleaned stepped found)⟩

/-- While no message or session comes between, every invocation is acknowledged
once at most, in its own session, and not under its handler. -/
theorem acknowledgedOnce_of_reachable (reachable : system.ReachableUnder CleanedUpOnce client)
    (member : invocation ∈ client.invocations) : AcknowledgedOnce invocation := by
  obtain ⟨index, found⟩ := List.getElem?_of_mem member
  exact ((invariant_ackStage.of_reachable reachable).2 index invocation found).acknowledgedOnce

/-- A handler that is cancelled returns, and its cleanup is acknowledged. -/
theorem acknowledgedOnce_cancelled_handler : ∃ client : RpcClient,
    client.invocations.map (·.acks) = [[0]] ∧
      ∀ invocation ∈ client.invocations, AcknowledgedOnce invocation := by
  have meets : system.StepsMeet CleanedUpOnce { dispatcher := { maximum := 4, queueSize := 1 } }
      [.register 1, .request 7 0 none, .begin 0, .lifecycle 2 7 1, .handlerReturned 0,
        .ackSent 0] := by
    refine system.stepsMeet_cons rfl (fun _ _ _ => trivial) <|
      system.stepsMeet_cons rfl (fun _ _ _ => trivial) <|
      system.stepsMeet_cons rfl ?_ <| system.stepsMeet_cons rfl ?_ <|
      system.stepsMeet_cons rfl ?_ <| system.stepsMeet_cons rfl (fun _ _ _ => trivial) trivial
    · intro index invocation found _ _
      obtain rfl := List.mem_singleton.mp (List.mem_of_getElem? found)
      exact List.not_mem_nil
    · intro index invocation found _ _ _ unstarted
      obtain rfl := List.mem_singleton.mp (List.mem_of_getElem? found)
      rcases unstarted with finished | unstarted
      · cases finished
      · cases unstarted
    · intro index invocation found _ _ _
      obtain rfl := List.mem_singleton.mp (List.mem_of_getElem? found)
      rfl
  have reachable := system.reachableUnder_of_run ⟨4, 1, rfl⟩ _ rfl meets
  exact ⟨_, rfl, fun _ member => acknowledgedOnce_of_reachable reachable member⟩

/-- A message for a work item that waits for the semaphore is acknowledged at
once, and again when the item has the semaphore and finds itself cancelled. -/
theorem exists_acknowledged_twice : ∃ client : RpcClient, system.Reachable client ∧
    ∃ invocation ∈ client.invocations, ¬ AcknowledgedOnce invocation := by
  have reachable := system.reachable_of_run ⟨4, 1, rfl⟩
    [.register 1, .request 1 0 none, .begin 0, .request 2 0 none, .begin 1, .lifecycle 2 2 1,
      .beginAck 1 0, .taskSent 1 0, .handlerReturned 0, .acquire 1, .ackSent 1] rfl
  refine ⟨_, reachable, _, List.mem_cons_of_mem _ (List.mem_singleton.mpr rfl), ?_⟩
  intro once
  exact absurd once.1 (by decide)

end RpcClient

end FitzClient
