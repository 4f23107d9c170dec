import FitzClient.RpcWorker

/-!
# The life of an invocation

A transition of the client does one of a few things to an invocation, and what
it does depends on the invocation, on whether the table leads to it, on the
clock and on the session.  What is true of every invocation is therefore proved
for these things alone; the other invocations, the dispatcher and the semaphores
do not come into it.
-/

namespace FitzClient

namespace RpcClient

variable {before after : RpcClient} {index : Nat} {invocation next : Invocation}
  {action : RpcAction}

/-- The work item passes its first check, or has waited for the semaphore. -/
def Enters (client : RpcClient) (index : Nat) (invocation : Invocation) : RpcAction → Prop
  | .begin item => item = index ∧ invocation.phase = .queued ∧
      client.isActive index invocation = true
  | .acquire item => item = index ∧ invocation.phase = .waiting
  | _ => False

/-- The work item reaches its `finally` block, and what it is like there. -/
inductive Leaves (client : RpcClient) (index : Nat) (invocation : Invocation) :
    RpcAction → Invocation → Prop
  | inactive {action : RpcAction} (enters : client.Enters index invocation action)
      (inactive : client.isActive index invocation = false) :
      Leaves client index invocation action invocation
  | cancelled {action : RpcAction} (enters : client.Enters index invocation action)
      (left : invocation.remainingTimeMs client.now ≠ some 0)
      (cancelled : invocation.cancelled = true) : Leaves client index invocation action invocation
  | expired {action : RpcAction} (enters : client.Enters index invocation action)
      (requested : invocation.cancellationRequested = true) :
      Leaves client index invocation action { invocation with cancelled := true }
  | returned (running : invocation.phase = .running) :
      Leaves client index invocation (.handlerReturned index) { invocation with returned := true }
  | raised (message : CodePoints) (running : invocation.phase = .running)
      (unsent : invocation.ended = true ∨ message.encodes = false) :
      Leaves client index invocation (.handlerRaised index message) invocation
  | handlerCancelled (running : invocation.phase = .running) (ended : invocation.ended = true) :
      Leaves client index invocation (.handlerCancelled index) invocation
  | stopped (running : invocation.phase = .running) :
      Leaves client index invocation (.handlerStopped index) invocation
  | errorSent (gate : Option Nat) (code : Nat) (message : CodePoints)
      (sending : invocation.phase = .sendingError gate code message) :
      Leaves client index invocation (.errorSent index)
        { invocation with sequence := invocation.sequence + 1, ended := true }
  | errorFailed (gate : Option Nat) (code : Nat) (message : CodePoints)
      (sending : invocation.phase = .sendingError gate code message) :
      Leaves client index invocation (.errorFailed index) invocation
  | interrupted (waiting : invocation.phase = .waiting) :
      Leaves client index invocation (.interrupt index) invocation
  | errorInterrupted (gate : Option Nat) (code : Nat) (message : CodePoints)
      (sending : invocation.phase = .sendingError gate code message) :
      Leaves client index invocation (.interrupt index) invocation

/-- What a transition does to an invocation, and whether the table leads to it
afterwards. -/
inductive Evolves (client : RpcClient) (index : Nat) (invocation : Invocation) :
    RpcAction → Invocation → Bool → Prop
  | unaffected (action : RpcAction) :
      Evolves client index invocation action invocation (client.isActive index invocation)
  | displaced (registration : Nat) (budget : Option Nat) :
      Evolves client index invocation (.request invocation.correlationId registration budget)
        invocation false
  | requested (value : Nat) (lower : 1 ≤ value) (upper : value ≤ 4)
      (active : client.isActive index invocation = true) :
      Evolves client index invocation (.lifecycle 2 invocation.correlationId value)
        invocation.requestCancellation (client.isActive index invocation)
  | recorded (value : Nat) (inactive : client.isActive index invocation = false) :
      Evolves client index invocation (.lifecycle 2 invocation.correlationId value)
        { invocation with recorded := true } false
  | timer (armed : invocation.deadlineHandle = true)
      (expired : invocation.remainingTimeMs client.now = some 0) :
      Evolves client index invocation (.timer index)
        { invocation with cancelled := true, deadlineHandle := false, recorded := true }
        (client.isActive index invocation)
  | disconnected :
      Evolves client index invocation .announce
        (invocation.disconnect (client.isActive index invocation)) false
  | skipped (queued : invocation.phase = .queued)
      (inactive : client.isActive index invocation = false) :
      Evolves client index invocation (.begin index)
        { invocation with finished := true, phase := .ended } false
  | waits (queued : invocation.phase = .queued)
      (active : client.isActive index invocation = true) :
      Evolves client index invocation (.begin index) { invocation with phase := .waiting }
        (client.isActive index invocation)
  | starts {action : RpcAction} (enters : client.Enters index invocation action)
      (active : client.isActive index invocation = true)
      (left : invocation.remainingTimeMs client.now ≠ some 0)
      (uncancelled : invocation.cancelled = false) :
      Evolves client index invocation action (invocation.start (client.writerGate invocation))
        (client.isActive index invocation)
  | expires {action : RpcAction} (enters : client.Enters index invocation action)
      (active : client.isActive index invocation = true)
      (unrequested : invocation.cancellationRequested = false) :
      Evolves client index invocation action
        { invocation with
          cancelled := true
          phase := .sendingError (client.writerGate invocation) 6007
            (.ofString "Inbound RPC request deadline elapsed") }
        (client.isActive index invocation)
  | responds (final : Bool) (started : invocation.started = true)
      (unended : invocation.ended = false) :
      Evolves client index invocation (.respond index final)
        { invocation with sequence := invocation.sequence + 1, ended := final }
        (client.isActive index invocation)
  | raises (message : CodePoints) (running : invocation.phase = .running)
      (unended : invocation.ended = false) :
      Evolves client index invocation (.handlerRaised index message)
        { invocation with phase := .sendingError (client.writerGate invocation) 6006 message }
        (client.isActive index invocation)
  | handlerCancels (running : invocation.phase = .running) (unended : invocation.ended = false) :
      Evolves client index invocation (.handlerCancelled index)
        { invocation with
          phase := .sendingError (client.writerGate invocation) 6007
            (.ofString "Worker handler cancelled") } (client.isActive index invocation)
  | leaves {action : RpcAction} {leaving : Invocation}
      (leaves : Leaves client index invocation action leaving) :
      Evolves client index invocation action (leaving.leave client.gate)
        (client.isActive index invocation && !leaving.acknowledges)
  | rejected (rejecting : invocation.phase = .rejecting) :
      Evolves client index invocation (.errorSent index)
        ({ invocation with
          sequence := invocation.sequence + 1, ended := true }.acknowledge client.gate) false
  | rejectFailed (rejecting : invocation.phase = .rejecting) :
      Evolves client index invocation (.errorFailed index)
        (invocation.acknowledge client.gate) false
  | ackSent (gate : Option Nat) (session : Nat)
      (acknowledging : invocation.phase = .acknowledging gate)
      (destination : client.destination gate = some session) :
      Evolves client index invocation (.ackSent index)
        { invocation with acks := invocation.acks ++ [session], phase := .ended }
        (client.isActive index invocation)
  | ackFailed (gate : Option Nat) (acknowledging : invocation.phase = .acknowledging gate) :
      Evolves client index invocation (.ackFailed index) { invocation with phase := .ended }
        (client.isActive index invocation)
  | beginsAck (task : Nat) (scheduled : invocation.ackTasks[task]? = some .scheduled) :
      Evolves client index invocation (.beginAck index task)
        { invocation with
          deadlineHandle := false
          ackTasks := invocation.ackTasks.set task (.sending client.gate) } false
  | taskSent (task : Nat) (gate : Option Nat) (session : Nat)
      (sending : invocation.ackTasks[task]? = some (.sending gate))
      (destination : client.destination gate = some session) :
      Evolves client index invocation (.taskSent index task)
        { invocation with
          ackTasks := invocation.ackTasks.set task .sent
          acks := invocation.acks ++ [session] } (client.isActive index invocation)
  | taskFailed (task : Nat) (gate : Option Nat)
      (sending : invocation.ackTasks[task]? = some (.sending gate)) :
      Evolves client index invocation (.taskFailed index task)
        { invocation with ackTasks := invocation.ackTasks.set task .failed }
        (client.isActive index invocation)

/-- The table depends on the id of an invocation only. -/
theorem isActive_congr {other : Invocation}
    (same : other.correlationId = invocation.correlationId) (client : RpcClient) :
    client.isActive index other = client.isActive index invocation := by
  unfold isActive
  rw [same]

theorem isActive_forget (client : RpcClient) (index : Nat) (invocation : Invocation) :
    (client.forget index invocation).isActive index invocation = false := by
  unfold forget
  cases active : client.isActive index invocation with
  | true => simp [isActive]
  | false => simp [active]

theorem isActive_forget_of_ne {other : Nat} (apart : other ≠ index) (client : RpcClient)
    (invocation otherInvocation : Invocation) :
    (client.forget index invocation).isActive other otherInvocation =
      client.isActive other otherInvocation := by
  unfold forget
  split
  · next active =>
      have found : client.activeInvocations.lookup invocation.correlationId = some index := by
        simpa [isActive] using active
      by_cases same : otherInvocation.correlationId = invocation.correlationId
      · simp only [isActive]
        rw [same, found, AList.lookup_erase]
        simp [Ne.symm apart]
      · simp [isActive, same]
  · rfl

/-- Only this invocation changes, and the table leads to it afterwards or not. -/
structure Changes (before after : RpcClient) (index : Nat) (next : Invocation) (active : Bool) :
    Prop where
  moved : after.invocations[index]? = some next
  others : ∀ other, other ≠ index → after.invocations[other]? = before.invocations[other]?
  active : after.isActive index next = active
  table : ∀ other, other ≠ index → ∀ invocation,
    after.isActive other invocation = before.isActive other invocation

theorem changes_put (found : before.invocations[index]? = some invocation) (next : Invocation)
    (same : next.correlationId = invocation.correlationId) :
    Changes before (before.put index next) index next (before.isActive index invocation) where
  moved := by
    have bound := (List.getElem?_eq_some_iff.mp found).1
    simp [put, bound]
  others other apart := by simp [put, Ne.symm apart]
  active := isActive_congr same before
  table _ _ _ := rfl

theorem changes_forget (found : before.invocations[index]? = some invocation)
    (next other : Invocation) (same : next.correlationId = invocation.correlationId)
    (sameOther : other.correlationId = invocation.correlationId) :
    Changes before ((before.put index next).forget index other) index next false where
  moved := by
    have put := (changes_put found next same).moved
    unfold forget
    split <;> exact put
  others position apart := by
    have put := (changes_put found next same).others position apart
    unfold forget
    split <;> exact put
  active := by
    rw [isActive_congr (same.trans sameOther.symm)]
    exact isActive_forget _ index other
  table _ apart _ := isActive_forget_of_ne apart _ other _

theorem changes_leave (found : before.invocations[index]? = some invocation)
    {leaving : Invocation} (same : leaving.correlationId = invocation.correlationId) :
    Changes before (before.leave index leaving) index (leaving.leave before.gate)
      (before.isActive index invocation && !leaving.acknowledges) := by
  have left : (leaving.leave before.gate).correlationId = invocation.correlationId := by
    rw [← same]
    unfold Invocation.leave
    split <;> rfl
  unfold leave
  cases acknowledges : leaving.acknowledges with
  | true =>
      rw [Bool.not_true, Bool.and_false]
      exact changes_forget found _ leaving left same
  | false =>
      rw [Bool.not_false, Bool.and_true]
      exact changes_put found _ left

/-- Neither the invocations nor the table are another client's. -/
theorem Changes.congr {same : RpcClient} {active : Bool}
    (changes : Changes same after index next active)
    (invocations : same.invocations = before.invocations)
    (table : same.activeInvocations = before.activeInvocations) :
    Changes before after index next active where
  moved := changes.moved
  others other apart := by rw [changes.others other apart, invocations]
  active := changes.active
  table other apart invocation := by
    rw [changes.table other apart invocation]
    simp only [isActive, table]

theorem changes_leaveHolding (found : before.invocations[index]? = some invocation)
    {leaving : Invocation} (same : leaving.correlationId = invocation.correlationId) :
    Changes before (before.leaveHolding index leaving) index (leaving.leave before.gate)
      (before.isActive index invocation && !leaving.acknowledges) := by
  have released : (before.release leaving.registration).invocations[index]? = some invocation :=
    found
  exact (changes_leave released same).congr rfl rfl

/-- A work item with its permit leaves, sends an error, or runs the handler. -/
theorem evolves_enter (found : before.invocations[index]? = some invocation)
    (enters : before.Enters index invocation action) :
    ∃ next active, Changes before (before.enter index invocation) index next active ∧
      Evolves before index invocation action next active := by
  have acquired : (before.acquire invocation.registration).invocations[index]? =
      some invocation := found
  unfold enter
  cases isActive : before.isActive index invocation with
  | false =>
      simp only [Bool.false_eq_true, not_false_eq_true, if_true]
      exact ⟨_, _, (changes_leaveHolding acquired rfl).congr rfl rfl,
        .leaves (.inactive enters isActive)⟩
  | true =>
      simp only [not_true_eq_false, if_false]
      split
      · next expired =>
          by_cases requested : invocation.cancellationRequested = true
          · rw [if_pos requested]
            have changes := @changes_leaveHolding _ _ _ acquired
              { invocation with cancelled := true } rfl
            exact ⟨_, _, changes.congr rfl rfl, .leaves (.expired enters requested)⟩
          · rw [if_neg requested]
            have changes := changes_put acquired { invocation with
              cancelled := true
              phase := .sendingError (before.writerGate invocation) 6007
                (.ofString "Inbound RPC request deadline elapsed") } rfl
            exact ⟨_, _, changes.congr rfl rfl, .expires enters isActive (by simpa using requested)⟩
      · next left =>
          cases cancelled : invocation.cancelled with
          | true =>
              simp only [if_true]
              exact ⟨_, _, (changes_leaveHolding acquired rfl).congr rfl rfl,
                .leaves (.cancelled enters left cancelled)⟩
          | false =>
              simp only [Bool.false_eq_true, if_false]
              have changes := changes_put acquired
                (invocation.start (before.writerGate invocation)) rfl
              exact ⟨_, _, changes.congr rfl rfl, .starts enters isActive left cancelled⟩

theorem evolves_begin (found : before.invocations[index]? = some invocation)
    (queued : invocation.phase = .queued) :
    ∃ next active, Changes before (before.begin index invocation) index next active ∧
      Evolves before index invocation (.begin index) next active := by
  unfold begin
  cases isActive : before.isActive index invocation with
  | false =>
      simp only [Bool.false_eq_true, not_false_eq_true, if_true]
      have evolves := Evolves.skipped queued isActive
      rw [← isActive] at evolves
      exact ⟨_, _, changes_put found { invocation with finished := true, phase := .ended } rfl,
        evolves⟩
  | true =>
      simp only [not_true_eq_false, if_false]
      split
      · exact evolves_enter found ⟨rfl, queued, isActive⟩
      · exact ⟨_, _, changes_put found { invocation with phase := .waiting } rfl,
          .waits queued isActive⟩

/-- A transition changes one invocation, in one of the ways above. -/
def Touches (before after : RpcClient) (action : RpcAction) : Prop :=
  ∃ index invocation next active, before.invocations[index]? = some invocation ∧
    Changes before after index next active ∧ Evolves before index invocation action next active

theorem touches_of_left (found : before.invocations[index]? = some invocation)
    {leaving : Invocation} (leaves : Leaves before index invocation action leaving)
    (same : leaving.correlationId = invocation.correlationId)
    (after_eq : after = before.leave index leaving ∨ after = before.leaveHolding index leaving) :
    Touches before after action := by
  rcases after_eq with rfl | rfl
  · exact ⟨_, _, _, _, found, changes_leave found same, .leaves leaves⟩
  · exact ⟨_, _, _, _, found, changes_leaveHolding found same, .leaves leaves⟩

theorem touches_handlerRaised (found : before.invocations[index]? = some invocation)
    (running : invocation.phase = .running) (message : CodePoints) :
    Touches before
      (if invocation.ended ∨ ¬ message.encodes then before.leaveHolding index invocation
      else before.put index
        { invocation with phase := .sendingError (before.writerGate invocation) 6006 message })
      (.handlerRaised index message) := by
  by_cases unsent : invocation.ended ∨ ¬ message.encodes
  · rw [if_pos unsent]
    exact touches_of_left found (.raised message running (by simpa using unsent)) rfl (Or.inr rfl)
  · rw [if_neg unsent]
    exact ⟨_, _, _, _, found, changes_put found _ rfl,
      .raises message running (by simpa using (not_or.mp unsent).1)⟩

theorem touches_handlerCancelled (found : before.invocations[index]? = some invocation)
    (running : invocation.phase = .running) :
    Touches before (if invocation.ended then before.leaveHolding index invocation
      else before.put index
        { invocation with
          phase := .sendingError (before.writerGate invocation) 6007
            (.ofString "Worker handler cancelled") })
      (.handlerCancelled index) := by
  by_cases ended : invocation.ended = true
  · rw [if_pos ended]
    exact touches_of_left found (.handlerCancelled running ended) rfl (Or.inr rfl)
  · rw [if_neg ended]
    exact ⟨_, _, _, _, found, changes_put found _ rfl,
      .handlerCancels running (by simpa using ended)⟩

theorem touches_errorSent (found : before.invocations[index]? = some invocation)
    (stepped : before.stepInvocation index invocation (.errorSent index) = some after) :
    Touches before after (.errorSent index) := by
  obtain ⟨-, sends⟩ := Option.ite_none_right_eq_some.mp stepped
  split at sends
  · next gate code message sending =>
      obtain ⟨-, same⟩ := Option.ite_none_right_eq_some.mp sends
      obtain rfl := Option.some.inj same
      exact touches_of_left found (.errorSent gate code message sending) rfl (Or.inr rfl)
  · next rejecting =>
      obtain ⟨-, same⟩ := Option.ite_none_right_eq_some.mp sends
      obtain rfl := Option.some.inj same
      exact ⟨_, _, _, _, found, changes_forget found _ _ rfl rfl, .rejected rejecting⟩
  · cases sends

theorem touches_errorFailed (found : before.invocations[index]? = some invocation)
    (stepped : before.stepInvocation index invocation (.errorFailed index) = some after) :
    Touches before after (.errorFailed index) := by
  simp only [stepInvocation] at stepped
  split at stepped
  · next gate code message sending =>
      obtain rfl := Option.some.inj stepped
      exact touches_of_left found (.errorFailed gate code message sending) rfl (Or.inr rfl)
  · next rejecting =>
      obtain rfl := Option.some.inj stepped
      exact ⟨_, _, _, _, found, changes_forget found _ _ rfl rfl, .rejectFailed rejecting⟩
  · cases stepped

theorem touches_interrupt (found : before.invocations[index]? = some invocation)
    (stepped : before.stepInvocation index invocation (.interrupt index) = some after) :
    Touches before after (.interrupt index) := by
  simp only [stepInvocation] at stepped
  split at stepped
  · next waiting =>
      obtain rfl := Option.some.inj stepped
      exact touches_of_left found (.interrupted waiting) rfl (Or.inl rfl)
  · next gate code message sending =>
      obtain rfl := Option.some.inj stepped
      exact touches_of_left found (.errorInterrupted gate code message sending) rfl (Or.inr rfl)
  · cases stepped

theorem touches_ackSent (found : before.invocations[index]? = some invocation)
    (stepped : before.stepInvocation index invocation (.ackSent index) = some after) :
    Touches before after (.ackSent index) := by
  simp only [stepInvocation] at stepped
  split at stepped
  · next gate acknowledging =>
      obtain ⟨session, destination, rfl⟩ := Option.map_eq_some_iff.mp stepped
      exact ⟨_, _, _, _, found, changes_put found _ rfl,
        .ackSent gate session acknowledging destination⟩
  · cases stepped

theorem touches_taskSent (found : before.invocations[index]? = some invocation) {task : Nat}
    (stepped : before.stepInvocation index invocation (.taskSent index task) = some after) :
    Touches before after (.taskSent index task) := by
  simp only [stepInvocation] at stepped
  split at stepped
  · next gate sending =>
      obtain ⟨session, destination, rfl⟩ := Option.map_eq_some_iff.mp stepped
      exact ⟨_, _, _, _, found, changes_put found _ rfl,
        .taskSent task gate session sending destination⟩
  · cases stepped

/-- What a transition does to the invocations and the table. -/
inductive StepCase (before after : RpcClient) : RpcAction → Prop
  | touches {action : RpcAction} (touches : Touches before after action) :
      StepCase before after action
  | elsewhere {action : RpcAction} (invocations : after.invocations = before.invocations)
      (table : after.activeInvocations = before.activeInvocations) : StepCase before after action
  | request (correlationId : CorrelationId) (registration : Nat) (budget : Option Nat)
      (same : after = before.onRequest correlationId registration budget) :
      StepCase before after (.request correlationId registration budget)
  | lifecycle (kind : Nat) (correlationId : CorrelationId) (value : Nat)
      (same : after = before.onLifecycle kind correlationId value) :
      StepCase before after (.lifecycle kind correlationId value)
  | announce (invocations : after.invocations = before.disconnect.invocations)
      (table : after.activeInvocations = ∅) : StepCase before after .announce

theorem stepCase_of_step (stepped : before.step action = some after) :
    StepCase before after action := by
  cases action with
  | register maxConcurrency =>
      obtain ⟨-, same⟩ := Option.ite_none_right_eq_some.mp stepped
      obtain rfl := Option.some.inj same
      exact .elsewhere rfl rfl
  | request correlationId registration budget =>
      obtain ⟨-, same⟩ := Option.ite_none_right_eq_some.mp stepped
      exact .request correlationId registration budget (Option.some.inj same).symm
  | lifecycle kind correlationId value =>
      obtain ⟨-, same⟩ := Option.ite_none_right_eq_some.mp stepped
      exact .lifecycle kind correlationId value (Option.some.inj same).symm
  | elapse duration =>
      obtain rfl := Option.some.inj stepped
      exact .elsewhere rfl rfl
  | lose _ _ | openTransport | openSession =>
      obtain ⟨-, same⟩ := Option.ite_none_right_eq_some.mp stepped
      obtain rfl := Option.some.inj same
      exact .elsewhere rfl rfl
  | announce =>
      obtain ⟨-, same⟩ := Option.ite_none_right_eq_some.mp stepped
      obtain rfl := Option.some.inj same
      exact .announce rfl rfl
  | closeTransport | close =>
      obtain ⟨-, same⟩ := Option.ite_none_left_eq_some.mp stepped
      obtain rfl := Option.some.inj same
      exact .elsewhere rfl rfl
  | begin index =>
      obtain ⟨invocation, found, resumed⟩ := Option.bind_eq_some_iff.mp stepped
      obtain ⟨⟨queued, -⟩, same⟩ := Option.ite_none_right_eq_some.mp resumed
      obtain rfl := Option.some.inj same
      obtain ⟨next, active, changes, evolves⟩ := evolves_begin found queued
      exact .touches ⟨_, _, _, _, found, changes, evolves⟩
  | acquire index =>
      obtain ⟨invocation, found, resumed⟩ := Option.bind_eq_some_iff.mp stepped
      obtain ⟨⟨waiting, -⟩, same⟩ := Option.ite_none_right_eq_some.mp resumed
      obtain rfl := Option.some.inj same
      have enters : before.Enters index invocation (.acquire index) := ⟨rfl, waiting⟩
      obtain ⟨next, active, changes, evolves⟩ := evolves_enter found enters
      exact .touches ⟨_, _, _, _, found, changes, evolves⟩
  | respond index final =>
      obtain ⟨invocation, found, resumed⟩ := Option.bind_eq_some_iff.mp stepped
      obtain ⟨⟨started, unended, -⟩, same⟩ := Option.ite_none_right_eq_some.mp resumed
      obtain rfl := Option.some.inj same
      exact .touches ⟨_, _, _, _, found, changes_put found _ rfl,
        .responds final started (by simpa using unended)⟩
  | handlerReturned index =>
      obtain ⟨invocation, found, resumed⟩ := Option.bind_eq_some_iff.mp stepped
      obtain ⟨running, same⟩ := Option.ite_none_right_eq_some.mp resumed
      obtain rfl := Option.some.inj same
      exact .touches (touches_of_left found (.returned running) rfl (Or.inr rfl))
  | handlerRaised index message =>
      obtain ⟨invocation, found, resumed⟩ := Option.bind_eq_some_iff.mp stepped
      obtain ⟨running, same⟩ := Option.ite_none_right_eq_some.mp resumed
      obtain rfl := Option.some.inj same
      exact .touches (touches_handlerRaised found running message)
  | handlerCancelled index =>
      obtain ⟨invocation, found, resumed⟩ := Option.bind_eq_some_iff.mp stepped
      obtain ⟨running, same⟩ := Option.ite_none_right_eq_some.mp resumed
      obtain rfl := Option.some.inj same
      exact .touches (touches_handlerCancelled found running)
  | handlerStopped index =>
      obtain ⟨invocation, found, resumed⟩ := Option.bind_eq_some_iff.mp stepped
      obtain ⟨running, same⟩ := Option.ite_none_right_eq_some.mp resumed
      obtain rfl := Option.some.inj same
      exact .touches (touches_of_left found (.stopped running) rfl (Or.inr rfl))
  | errorSent index =>
      obtain ⟨invocation, found, resumed⟩ := Option.bind_eq_some_iff.mp stepped
      exact .touches (touches_errorSent found resumed)
  | errorFailed index =>
      obtain ⟨invocation, found, resumed⟩ := Option.bind_eq_some_iff.mp stepped
      exact .touches (touches_errorFailed found resumed)
  | interrupt index =>
      obtain ⟨invocation, found, resumed⟩ := Option.bind_eq_some_iff.mp stepped
      exact .touches (touches_interrupt found resumed)
  | ackSent index =>
      obtain ⟨invocation, found, resumed⟩ := Option.bind_eq_some_iff.mp stepped
      exact .touches (touches_ackSent found resumed)
  | ackFailed index =>
      obtain ⟨invocation, found, resumed⟩ := Option.bind_eq_some_iff.mp stepped
      simp only [stepInvocation] at resumed
      split at resumed
      · next gate acknowledging =>
          obtain rfl := Option.some.inj resumed
          exact .touches ⟨_, _, _, _, found, changes_put found _ rfl,
            .ackFailed gate acknowledging⟩
      · cases resumed
  | beginAck index task =>
      obtain ⟨invocation, found, resumed⟩ := Option.bind_eq_some_iff.mp stepped
      obtain ⟨scheduled, same⟩ := Option.ite_none_right_eq_some.mp resumed
      obtain rfl := Option.some.inj same
      exact .touches ⟨_, _, _, _, found, changes_forget found _ _ rfl rfl,
        .beginsAck task scheduled⟩
  | taskSent index task =>
      obtain ⟨invocation, found, resumed⟩ := Option.bind_eq_some_iff.mp stepped
      exact .touches (touches_taskSent found resumed)
  | taskFailed index task =>
      obtain ⟨invocation, found, resumed⟩ := Option.bind_eq_some_iff.mp stepped
      simp only [stepInvocation] at resumed
      split at resumed
      · next gate sending =>
          obtain rfl := Option.some.inj resumed
          exact .touches ⟨_, _, _, _, found, changes_put found _ rfl,
            .taskFailed task gate sending⟩
      · cases resumed
  | completed index =>
      obtain ⟨invocation, found, resumed⟩ := Option.bind_eq_some_iff.mp stepped
      obtain ⟨-, same⟩ := Option.ite_none_right_eq_some.mp resumed
      obtain rfl := Option.some.inj same
      exact .elsewhere rfl rfl
  | timer index =>
      obtain ⟨invocation, found, resumed⟩ := Option.bind_eq_some_iff.mp stepped
      obtain ⟨⟨armed, expired⟩, same⟩ := Option.ite_none_right_eq_some.mp resumed
      obtain rfl := Option.some.inj same
      exact .touches ⟨_, _, _, _, found, changes_put found _ rfl, .timer armed expired⟩

/-- A request that was accepted, or refused, by the dispatcher. -/
inductive Fresh (client : RpcClient) : Invocation → Bool → Prop
  | accepted (correlationId : CorrelationId) (registration : Nat) (deadline : Option Nat)
      (deadlineHandle : Bool) :
      Fresh client
        { correlationId, registration, deadline, deadlineHandle, session := client.session } true
  | refused (correlationId : CorrelationId) (registration : Nat) (deadline : Option Nat) :
      Fresh client
        { correlationId, registration, deadline, session := client.session, phase := .rejecting }
        false

/-- The dispatcher takes the work item of a request, or refuses it. -/
theorem onRequest_cases (client : RpcClient) (correlationId : CorrelationId) (registration : Nat)
    (budget : Option Nat) :
    (∃ dispatcher deadline, client.onRequest correlationId registration budget =
      { client with
        dispatcher
        invocations := client.invocations ++ [{
          correlationId, registration, deadline
          session := client.session
          deadlineHandle := deadline.isSome }]
        activeInvocations :=
          client.activeInvocations.insert correlationId client.invocations.length }) ∨
    ∃ deadline, client.onRequest correlationId registration budget =
      { client with
        invocations := client.invocations ++ [{
          correlationId, registration, deadline
          session := client.session
          phase := .rejecting }]
        activeInvocations := (client.activeInvocations.insert correlationId
          client.invocations.length).erase correlationId } := by
  cases dispatched : client.dispatcher.dispatch client.invocations.length with
  | some dispatcher =>
      refine Or.inl ⟨dispatcher, budget.map (client.now + · * 1000), ?_⟩
      simp only [onRequest, dispatched]
  | none =>
      refine Or.inr ⟨budget.map (client.now + · * 1000), ?_⟩
      simp only [onRequest, dispatched]

/-- A request changes the table for its id only. -/
theorem evolves_onRequest (found : before.invocations[index]? = some invocation)
    (correlationId : CorrelationId) (registration : Nat) (budget : Option Nat) :
    ∃ next, (before.onRequest correlationId registration budget).invocations[index]? = some next ∧
      Evolves before index invocation (.request correlationId registration budget) next
        ((before.onRequest correlationId registration budget).isActive index next) := by
  have bound := (List.getElem?_eq_some_iff.mp found).1
  have apart : before.invocations.length ≠ index := Nat.ne_of_gt bound
  refine ⟨invocation, ?_, ?_⟩
  · rcases before.onRequest_cases correlationId registration budget with
      ⟨dispatcher, deadline, same⟩ | ⟨deadline, same⟩
    · rw [same]
      exact getElem?_concat_eq_some.mpr (Or.inl found)
    · rw [same]
      exact getElem?_concat_eq_some.mpr (Or.inl found)
  · by_cases isSame : invocation.correlationId = correlationId
    · subst isSame
      have inactive : (before.onRequest invocation.correlationId registration budget).isActive index
          invocation = false := by
        rcases before.onRequest_cases invocation.correlationId registration budget with
          ⟨dispatcher, deadline, same⟩ | ⟨deadline, same⟩
        · rw [same]
          simp [isActive, apart]
        · rw [same]
          simp [isActive]
      rw [inactive]
      exact .displaced registration budget
    · have unaffected : (before.onRequest correlationId registration budget).isActive index
          invocation = before.isActive index invocation := by
        rcases before.onRequest_cases correlationId registration budget with
          ⟨dispatcher, deadline, same⟩ | ⟨deadline, same⟩
        · rw [same]
          simp [isActive, isSame]
        · rw [same]
          simp [isActive, isSame]
      rw [unaffected]
      exact .unaffected _

theorem evolves_onLifecycle (found : before.invocations[index]? = some invocation) (kind : Nat)
    (correlationId : CorrelationId) (value : Nat) :
    ∃ next, (before.onLifecycle kind correlationId value).invocations[index]? = some next ∧
      Evolves before index invocation (.lifecycle kind correlationId value) next
        ((before.onLifecycle kind correlationId value).isActive index next) := by
  unfold onLifecycle
  split
  · next valid =>
      obtain ⟨rfl, lower, upper⟩ := valid
      simp only [List.getElem?_mapIdx, found, Option.map_some, Option.some.injEq,
        exists_eq_left']
      split
      · next same =>
          subst same
          cases active : before.isActive index invocation with
          | true =>
              have evolves := Evolves.requested value lower upper active
              have kept : invocation.requestCancellation.correlationId =
                  invocation.correlationId := by
                unfold Invocation.requestCancellation
                split <;> rfl
              simp only [if_true]
              rw [← isActive_congr kept] at evolves
              exact evolves
          | false =>
              have evolves := Evolves.recorded value active
              rw [← active] at evolves
              simp only [Bool.false_eq_true, if_false]
              exact evolves
      · exact .unaffected _
  · exact ⟨invocation, found, .unaffected _⟩

/-- A transition does one of a few things to every invocation. -/
theorem step_evolves (stepped : before.step action = some after)
    (found : before.invocations[index]? = some invocation) :
    ∃ next, after.invocations[index]? = some next ∧
      Evolves before index invocation action next (after.isActive index next) := by
  cases stepCase_of_step stepped with
  | touches touches =>
      obtain ⟨item, touched, next, active, foundItem, changes, evolves⟩ := touches
      by_cases same : index = item
      · subst same
        rw [found] at foundItem
        obtain rfl := Option.some.inj foundItem
        refine ⟨next, changes.moved, ?_⟩
        rw [changes.active]
        exact evolves
      · refine ⟨invocation, by rw [changes.others index same]; exact found, ?_⟩
        rw [changes.table index same]
        exact .unaffected _
  | elsewhere invocations table =>
      refine ⟨invocation, by rw [invocations]; exact found, ?_⟩
      have unaffected : after.isActive index invocation = before.isActive index invocation := by
        simp only [isActive, table]
      rw [unaffected]
      exact .unaffected _
  | request correlationId registration budget same =>
      subst same
      exact evolves_onRequest found correlationId registration budget
  | lifecycle kind correlationId value same =>
      subst same
      exact evolves_onLifecycle found kind correlationId value
  | announce invocations table =>
      refine ⟨invocation.disconnect (before.isActive index invocation), ?_, ?_⟩
      · rw [invocations]
        simp [disconnect, found]
      · have inactive : ∀ next, after.isActive index next = false := by
          intro next
          simp [isActive, table]
        rw [inactive]
        exact .disconnected

theorem fresh_onRequest (absent : before.invocations[index]? = none)
    {correlationId : CorrelationId} {registration : Nat} {budget : Option Nat}
    (found : (before.onRequest correlationId registration budget).invocations[index]? = some next) :
    Fresh before next
      ((before.onRequest correlationId registration budget).isActive index next) := by
  rcases before.onRequest_cases correlationId registration budget with
    ⟨dispatcher, deadline, same⟩ | ⟨deadline, same⟩
  · rw [same] at found ⊢
    rcases getElem?_concat_eq_some.mp found with old | ⟨atEnd, rfl⟩
    · rw [absent] at old
      cases old
    · have fresh := @Fresh.accepted before correlationId registration deadline deadline.isSome
      simpa [isActive, atEnd] using fresh
  · rw [same] at found ⊢
    rcases getElem?_concat_eq_some.mp found with old | ⟨-, rfl⟩
    · rw [absent] at old
      cases old
    · have fresh := @Fresh.refused before correlationId registration deadline
      simpa [isActive] using fresh

/-- An invocation comes into being with its request. -/
theorem step_fresh (stepped : before.step action = some after)
    (absent : before.invocations[index]? = none) (found : after.invocations[index]? = some next) :
    Fresh before next (after.isActive index next) ∧
      ∃ correlationId registration budget, action = .request correlationId registration budget := by
  cases stepCase_of_step stepped with
  | touches touches =>
      obtain ⟨item, touched, moved, active, foundItem, changes, -⟩ := touches
      by_cases same : index = item
      · subst same
        rw [absent] at foundItem
        cases foundItem
      · rw [changes.others index same, absent] at found
        cases found
  | elsewhere invocations _ =>
      rw [invocations, absent] at found
      cases found
  | request correlationId registration budget same =>
      subst same
      exact ⟨fresh_onRequest absent found, correlationId, registration, budget, rfl⟩
  | lifecycle kind correlationId value same =>
      subst same
      unfold onLifecycle at found
      split at found
      · simp [absent] at found
      · rw [absent] at found
        cases found
  | announce invocations _ =>
      rw [invocations] at found
      simp [disconnect, absent] at found

/-- A property of every invocation and of whether the table leads to it. -/
def Throughout (holds : Invocation → Bool → Prop) (client : RpcClient) : Prop :=
  ∀ (index : Nat) (invocation : Invocation), client.invocations[index]? = some invocation →
    holds invocation (client.isActive index invocation)

/-- What a new invocation has and every change keeps holds throughout. -/
theorem throughout_step {holds : Invocation → Bool → Prop} (held : Throughout holds before)
    (stepped : before.step action = some after)
    (fresh : ∀ {next active}, Fresh before next active → holds next active)
    (evolves : ∀ {index invocation next active},
      before.invocations[index]? = some invocation →
      holds invocation (before.isActive index invocation) →
        Evolves before index invocation action next active → holds next active) :
    Throughout holds after := by
  intro index next found
  cases was : before.invocations[index]? with
  | none => exact fresh (step_fresh stepped was found).1
  | some invocation =>
      obtain ⟨again, foundAgain, evolved⟩ := step_evolves stepped was
      rw [found] at foundAgain
      obtain rfl := Option.some.inj foundAgain
      exact evolves was (held index invocation was) evolved

end RpcClient

end FitzClient
