import FitzClient.RpcWorkerAcknowledgement

/-!
# Answering requests

While the session that delivered a request is current, its invocation is under
way to an answer: it stands in front of the handler with its place in the table,
is in the hands of the handler or of an error frame, or was cancelled by the
broker and owes an acknowledgement.  Work items leave this way where they are
interrupted or displaced in front of the handler, and where an error frame or an
acknowledgement cannot be sent.
-/

namespace FitzClient

/-- The task acknowledges the invocation, or is about to. -/
def AckPhase.underWay : AckPhase → Bool
  | .scheduled | .sending _ => true
  | .sent | .failed => false

/-- The work item will acknowledge a cancellation that has been requested. -/
def WorkPhase.willAcknowledge : WorkPhase → Bool
  | .waiting | .running | .sendingError _ _ _ | .acknowledging _ => true
  | .queued | .rejecting | .ended => false

namespace RpcClient

variable {before after client : RpcClient} {index : Nat} {invocation next : Invocation}
  {action : RpcAction} {active : Bool}

/-- The handler returned, or the response was ended. -/
def HasAnswer (invocation : Invocation) : Prop :=
  invocation.returned = true ∨ invocation.ended = true

/-- Once its work item has ended and no acknowledgement is under way, a request
of the current session has been answered, or was cancelled and acknowledged. -/
def Answered (client : RpcClient) (invocation : Invocation) : Prop :=
  invocation.phase = .ended → (∀ task ∈ invocation.ackTasks, task.underWay = false) →
    client.isCurrent invocation.session = true →
      HasAnswer invocation ∨ invocation.cancellationRequested = true ∧ invocation.acks ≠ []

/-- No uncancelled request of the current session is displaced or disconnected in
front of the handler, or leaves without an answer, and no acknowledgement that
is the last one under way fails. -/
def Attends (client : RpcClient) (action : RpcAction) : Prop :=
  ∀ (index : Nat) (invocation : Invocation), client.invocations[index]? = some invocation →
    client.isCurrent invocation.session = true → ¬ HasAnswer invocation →
      match action with
      | .request correlationId _ _ => invocation.correlationId = correlationId →
          client.isActive index invocation = true → invocation.phase.pending = true →
            invocation.cancellationRequested = true
      | .announce => client.isActive index invocation = true → invocation.phase.pending = true →
          invocation.cancellationRequested = true
      | .handlerRaised item message => item = index → message.encodes = false →
          invocation.cancellationRequested = true
      | .handlerStopped item | .errorFailed item | .interrupt item => item = index →
          invocation.cancellationRequested = true
      | .ackFailed item => item = index →
          invocation.acks ≠ [] ∨ ∃ task ∈ invocation.ackTasks, task.underWay = true
      | .taskFailed item task => item = index → invocation.acks ≠ [] ∨
          (∃ other phase, other ≠ task ∧ invocation.ackTasks[other]? = some phase ∧
            phase.underWay = true) ∨
          invocation.phase.willAcknowledge = true
      | _ => True

/-- How an invocation will come to its answer, or why it needs none. -/
inductive Accounted (client : RpcClient) (invocation : Invocation) : Bool → Prop
  | past (active : Bool) (ended : client.isCurrent invocation.session = false) :
      Accounted client invocation active
  | answered (active : Bool) (answer : HasAnswer invocation) : Accounted client invocation active
  | pending (pending : invocation.phase.pending = true) (unstarted : invocation.started = false)
      (unrequested : invocation.cancellationRequested = false) (tasks : invocation.ackTasks = [])
      (expired : invocation.cancelled = true → invocation.remainingTimeMs client.now = some 0) :
      Accounted client invocation true
  | handling (active : Bool) (holdsPermit : invocation.phase.holdsPermit = true) :
      Accounted client invocation active
  | rejecting (active : Bool) (rejecting : invocation.phase = .rejecting) :
      Accounted client invocation active
  | cancelled (active : Bool) (requested : invocation.cancellationRequested = true)
      (acknowledged : invocation.acks ≠ [] ∨ (∃ task ∈ invocation.ackTasks, task.underWay = true) ∨
        invocation.phase.willAcknowledge = true) : Accounted client invocation active

theorem Accounted.answered_of_ended (accounted : Accounted client invocation active) :
    Answered client invocation := by
  intro ended settled current
  cases accounted with
  | past _ ended =>
      rw [current] at ended
      cases ended
  | answered _ answer => exact Or.inl answer
  | pending pending _ _ _ _ =>
      rw [ended] at pending
      cases pending
  | handling _ holdsPermit =>
      rw [ended] at holdsPermit
      cases holdsPermit
  | rejecting _ rejecting =>
      rw [ended] at rejecting
      cases rejecting
  | cancelled _ requested acknowledged =>
      rcases acknowledged with acks | ⟨task, member, underWay⟩ | willAcknowledge
      · exact Or.inr ⟨requested, acks⟩
      · rw [settled task member] at underWay
        cases underWay
      · rw [ended] at willAcknowledge
        cases willAcknowledge

theorem hasAnswer_leave {leaving : Invocation} (answer : HasAnswer leaving) (gate : Option Nat) :
    HasAnswer (leaving.leave gate) := by
  unfold Invocation.leave
  split <;> exact answer

/-- An answer is not taken back. -/
theorem hasAnswer_evolves (answer : HasAnswer invocation)
    (evolves : Evolves before index invocation action next active) : HasAnswer next := by
  cases evolves with
  | responds final _ unended =>
      refine Or.inl (answer.resolve_right ?_)
      rw [unended]
      nofun
  | rejected _ => exact Or.inr rfl
  | leaves leaves =>
      cases leaves with
      | returned _ => exact hasAnswer_leave (Or.inl rfl) _
      | errorSent _ _ _ _ => exact hasAnswer_leave (Or.inr rfl) _
      | _ =>
          refine hasAnswer_leave ?_ _
          exact answer
  | requested _ _ _ _ =>
      unfold Invocation.requestCancellation
      split <;> exact answer
  | disconnected =>
      unfold Invocation.disconnect
      split <;> exact answer
  | _ => exact answer

theorem session_evolves (evolves : Evolves before index invocation action next active) :
    next.session = invocation.session := by
  have left : ∀ {leaving : Invocation} {gate : Option Nat},
      (leaving.leave gate).session = leaving.session := by
    intro leaving gate
    unfold Invocation.leave
    split <;> rfl
  cases evolves with
  | leaves leaves => cases leaves <;> exact left
  | requested _ _ _ _ =>
      unfold Invocation.requestCancellation
      split <;> rfl
  | disconnected =>
      unfold Invocation.disconnect
      split <;> rfl
  | _ => rfl

/-- What a work item that waits in front of the handler comes to. -/
theorem accounted_evolves_pending (found : before.invocations[index]? = some invocation)
    (current : before.isCurrent invocation.session = true) (unanswered : ¬ HasAnswer invocation)
    (attends : Attends before action) (pending : invocation.phase.pending = true)
    (isActive : before.isActive index invocation = true)
    (unstarted : invocation.started = false)
    (unrequested : invocation.cancellationRequested = false) (tasks : invocation.ackTasks = [])
    (expired : invocation.cancelled = true → invocation.remainingTimeMs before.now = some 0)
    (evolves : Evolves before index invocation action next active) :
    Accounted before next active := by
  have attended := attends index invocation found current unanswered
  have notRequested : invocation.cancellationRequested ≠ true := by
    rw [unrequested]
    nofun
  cases evolves with
  | unaffected _ =>
      rw [isActive]
      exact .pending pending unstarted unrequested tasks expired
  | displaced _ _ => exact (notRequested (attended rfl isActive pending)).elim
  | requested _ _ _ _ =>
      unfold Invocation.requestCancellation
      rw [if_pos (Or.inr (by simp [unstarted]))]
      exact .cancelled _ rfl (Or.inr (Or.inl ⟨.scheduled, by simp, rfl⟩))
  | recorded _ inactive | skipped _ inactive =>
      rw [isActive] at inactive
      cases inactive
  | timer _ remaining =>
      rw [isActive]
      exact .pending pending unstarted unrequested tasks fun _ => remaining
  | disconnected => exact (notRequested (attended isActive pending)).elim
  | waits _ _ =>
      rw [isActive]
      exact .pending rfl unstarted unrequested tasks expired
  | starts _ _ _ _ => exact .handling _ rfl
  | expires _ _ _ => exact .handling _ rfl
  | responds _ started _ =>
      rw [unstarted] at started
      cases started
  | leaves leaves =>
      cases leaves with
      | inactive _ inactive =>
          rw [isActive] at inactive
          cases inactive
      | cancelled _ left cancelled => exact (left (expired cancelled)).elim
      | expired _ requested => exact (notRequested requested).elim
      | interrupted _ => exact (notRequested (attended rfl)).elim
      | returned phase | raised _ phase _ | handlerCancelled phase _ | stopped phase
      | errorSent _ _ _ phase | errorFailed _ _ _ phase | errorInterrupted _ _ _ phase =>
          rw [phase] at pending
          cases pending
  | raises _ phase _ | handlerCancels phase _ | rejected phase | rejectFailed phase
  | ackSent _ _ phase _ | ackFailed _ phase =>
      rw [phase] at pending
      cases pending
  | beginsAck _ scheduled | taskSent _ _ _ scheduled _ | taskFailed _ _ scheduled =>
      rw [tasks] at scheduled
      cases scheduled

/-- A cancelled invocation leaves through an acknowledgement. -/
theorem accounted_leave {leaving : Invocation} {gate : Option Nat}
    (requested : leaving.cancellationRequested = true) :
    Accounted client (leaving.leave gate) active := by
  have acknowledges : leaving.acknowledges = true := by simp [Invocation.acknowledges, requested]
  simp only [Invocation.leave, acknowledges, if_true]
  exact .cancelled _ requested (Or.inr (Or.inr rfl))

/-- What a work item with the handler or an error frame comes to. -/
theorem accounted_evolves_handling (found : before.invocations[index]? = some invocation)
    (current : before.isCurrent invocation.session = true) (unanswered : ¬ HasAnswer invocation)
    (attends : Attends before action) (holdsPermit : invocation.phase.holdsPermit = true)
    (evolves : Evolves before index invocation action next active) :
    Accounted before next active := by
  have attended := attends index invocation found current unanswered
  have notEnded : invocation.ended ≠ true := fun ended => unanswered (Or.inr ended)
  cases evolves with
  | unaffected _ | displaced _ _ | recorded _ _ | timer _ _ | responds _ _ _ | beginsAck _ _
  | taskSent _ _ _ _ _ | taskFailed _ _ _ => exact .handling _ holdsPermit
  | requested _ _ _ _ =>
      unfold Invocation.requestCancellation
      split <;> exact .handling _ holdsPermit
  | disconnected =>
      unfold Invocation.disconnect
      split <;> exact .handling _ holdsPermit
  | starts _ _ _ _ | expires _ _ _ | raises _ _ _ | handlerCancels _ _ => exact .handling _ rfl
  | leaves leaves =>
      cases leaves with
      | returned _ => exact .answered _ (hasAnswer_leave (Or.inl rfl) _)
      | errorSent _ _ _ _ => exact .answered _ (hasAnswer_leave (Or.inr rfl) _)
      | raised message _ unsent =>
          exact accounted_leave (attended rfl (unsent.resolve_left notEnded))
      | handlerCancelled _ ended => exact (notEnded ended).elim
      | stopped _ | errorFailed _ _ _ _ | errorInterrupted _ _ _ _ =>
          exact accounted_leave (attended rfl)
      | interrupted phase =>
          rw [phase] at holdsPermit
          cases holdsPermit
      | inactive enters _ | cancelled enters _ _ | expired enters _ =>
          have pending := pending_of_enters enters
          cases phase : invocation.phase with
          | queued | waiting =>
              rw [phase] at holdsPermit
              cases holdsPermit
          | running | sendingError _ _ _ | rejecting | acknowledging _ | ended =>
              rw [phase] at pending
              cases pending
  | skipped phase _ | waits phase _ | rejected phase | rejectFailed phase | ackSent _ _ phase _
  | ackFailed _ phase =>
      rw [phase] at holdsPermit
      cases holdsPermit

/-- What a refused request comes to. -/
theorem accounted_evolves_rejecting (found : before.invocations[index]? = some invocation)
    (current : before.isCurrent invocation.session = true) (unanswered : ¬ HasAnswer invocation)
    (attends : Attends before action) (rejecting : invocation.phase = .rejecting)
    (evolves : Evolves before index invocation action next active) :
    Accounted before next active := by
  have attended := attends index invocation found current unanswered
  cases evolves with
  | unaffected _ | displaced _ _ | recorded _ _ | timer _ _ | responds _ _ _ | beginsAck _ _
  | taskSent _ _ _ _ _ | taskFailed _ _ _ => exact .rejecting _ rejecting
  | requested _ _ _ _ =>
      unfold Invocation.requestCancellation
      split <;> exact .rejecting _ rejecting
  | disconnected =>
      unfold Invocation.disconnect
      split <;> exact .rejecting _ rejecting
  | rejected _ => exact .answered _ (Or.inr rfl)
  | rejectFailed _ => exact .cancelled _ (attended rfl) (Or.inr (Or.inr rfl))
  | starts enters _ _ _ | expires enters _ _ =>
      have pending := pending_of_enters enters
      rw [rejecting] at pending
      cases pending
  | leaves leaves =>
      cases leaves with
      | inactive enters _ | cancelled enters _ _ | expired enters _ =>
          have pending := pending_of_enters enters
          rw [rejecting] at pending
          cases pending
      | returned phase | raised _ phase _ | handlerCancelled phase _ | stopped phase
      | errorSent _ _ _ phase | errorFailed _ _ _ phase | interrupted phase
      | errorInterrupted _ _ _ phase =>
          rw [rejecting] at phase
          cases phase
  | skipped phase _ | waits phase _ | raises _ phase _ | handlerCancels phase _
  | ackSent _ _ phase _ | ackFailed _ phase =>
      rw [rejecting] at phase
      cases phase

/-- What a cancelled request comes to. -/
theorem accounted_evolves_cancelled (found : before.invocations[index]? = some invocation)
    (current : before.isCurrent invocation.session = true) (unanswered : ¬ HasAnswer invocation)
    (attends : Attends before action) (requested : invocation.cancellationRequested = true)
    (acknowledged : invocation.acks ≠ [] ∨ (∃ task ∈ invocation.ackTasks, task.underWay = true) ∨
      invocation.phase.willAcknowledge = true)
    (evolves : Evolves before index invocation action next active) :
    Accounted before next active := by
  have attended := attends index invocation found current unanswered
  cases evolves with
  | unaffected _ | displaced _ _ | recorded _ _ | timer _ _ | responds _ _ _ =>
      exact .cancelled _ requested acknowledged
  | requested _ _ _ _ =>
      unfold Invocation.requestCancellation
      split
      · exact .cancelled _ rfl (Or.inr (Or.inl ⟨.scheduled, by simp, rfl⟩))
      · exact .cancelled _ rfl acknowledged
  | disconnected =>
      unfold Invocation.disconnect
      split <;> exact .cancelled _ requested acknowledged
  | skipped queued _ =>
      refine .cancelled _ requested
        (acknowledged.imp_right (Or.imp_right fun willAcknowledge => ?_))
      rw [queued] at willAcknowledge
      cases willAcknowledge
  | waits _ _ | starts _ _ _ _ | expires _ _ _ | raises _ _ _ | handlerCancels _ _
  | rejectFailed _ => exact .cancelled _ requested (Or.inr (Or.inr rfl))
  | leaves leaves => cases leaves <;> exact accounted_leave requested
  | rejected _ => exact .answered _ (Or.inr rfl)
  | ackSent _ _ _ _ => exact .cancelled _ requested (Or.inl (by simp))
  | ackFailed _ _ => exact .cancelled _ requested ((attended rfl).imp_right Or.inl)
  | beginsAck task scheduled =>
      have bound := (List.getElem?_eq_some_iff.mp scheduled).1
      exact .cancelled _ requested
        (Or.inr (Or.inl ⟨.sending before.gate, List.mem_set bound _, rfl⟩))
  | taskSent _ _ _ _ _ => exact .cancelled _ requested (Or.inl (by simp))
  | taskFailed task gate sending =>
      refine .cancelled _ requested ((attended rfl).imp_right (Or.imp_left ?_))
      rintro ⟨other, phase, apart, foundOther, underWay⟩
      exact ⟨phase, List.mem_of_getElem? (by rwa [List.getElem?_set_ne (Ne.symm apart)]), underWay⟩

/-- The step lemma for one invocation. -/
theorem accounted_evolves
    (accounted : Accounted before invocation (before.isActive index invocation))
    (found : before.invocations[index]? = some invocation) (attends : Attends before action)
    (evolves : Evolves before index invocation action next active) :
    Accounted before next active := by
  by_cases answer : HasAnswer invocation
  · exact .answered _ (hasAnswer_evolves answer evolves)
  · cases current : before.isCurrent invocation.session with
    | false =>
        refine .past _ ?_
        rw [session_evolves evolves]
        exact current
    | true =>
        generalize isActive : before.isActive index invocation = wasActive at accounted
        cases accounted with
        | past _ ended =>
            rw [current] at ended
            cases ended
        | answered _ answered => exact (answer answered).elim
        | pending pending unstarted unrequested tasks expired =>
            exact accounted_evolves_pending found current answer attends pending isActive unstarted
              unrequested tasks expired evolves
        | handling _ holdsPermit =>
            exact accounted_evolves_handling found current answer attends holdsPermit evolves
        | rejecting _ rejecting =>
            exact accounted_evolves_rejecting found current answer attends rejecting evolves
        | cancelled _ requested acknowledged =>
            exact accounted_evolves_cancelled found current answer attends requested acknowledged
              evolves

theorem accounted_fresh (fresh : Fresh client next active) : Accounted client next active := by
  cases fresh with
  | accepted _ _ _ _ => exact .pending rfl rfl rfl rfl nofun
  | refused _ _ _ => exact .rejecting _ rfl

/-- Time passes and sessions end without an invocation losing its way. -/
theorem Accounted.of_step (accounted : Accounted before invocation active)
    (bound : invocation.session ≤ before.session) (stepped : before.step action = some after) :
    Accounted after invocation active := by
  cases accounted with
  | past _ ended =>
      refine .past _ (Bool.eq_false_iff.mpr fun current => ?_)
      rw [isCurrent_of_step stepped bound current] at ended
      cases ended
  | answered _ answer => exact .answered _ answer
  | pending pending unstarted unrequested tasks expired =>
      refine .pending pending unstarted unrequested tasks fun cancelled => ?_
      obtain ⟨deadline, armed, elapsed⟩ := Option.map_eq_some_iff.mp (expired cancelled)
      have later := now_le_of_step stepped
      simp only [Invocation.remainingTimeMs, armed, Option.map_some]
      exact congrArg some (by omega)
  | handling _ holdsPermit => exact .handling _ holdsPermit
  | rejecting _ rejecting => exact .rejecting _ rejecting
  | cancelled _ requested acknowledged => exact .cancelled _ requested acknowledged

theorem invariant_accounted :
    system.Invariant Attends fun client => Throughout (fun invocation active =>
      invocation.session ≤ client.session ∧ Accounted client invocation active) client where
  starts first starts := by
    obtain ⟨maximum, queueSize, rfl⟩ := starts
    exact fun _ _ found => by cases found
  preserved before action after held attends stepped := by
    have next : Throughout (fun invocation active => invocation.session ≤ before.session ∧
        Accounted before invocation active) after :=
      throughout_step held stepped
        (fun fresh => ⟨by cases fresh <;> exact Nat.le_refl _, accounted_fresh fresh⟩)
        fun found was evolves => ⟨session_evolves evolves ▸ was.1,
          accounted_evolves was.2 found attends evolves⟩
    intro index invocation found
    obtain ⟨bound, accounted⟩ := next index invocation found
    exact ⟨bound.trans (session_le_of_step stepped), accounted.of_step bound stepped⟩

/-- While every request is attended to, none is dropped. -/
theorem answered_of_reachable (reachable : system.ReachableUnder Attends client)
    (member : invocation ∈ client.invocations) : Answered client invocation := by
  obtain ⟨index, found⟩ := List.getElem?_of_mem member
  exact (invariant_accounted.of_reachable reachable index invocation found).2.answered_of_ended

/-- A handler raises, and the error frame answers its request. -/
theorem answered_failing_handler : ∃ client : RpcClient,
    client.invocations.map (·.phase) = [.ended] ∧
      ∀ invocation ∈ client.invocations, Answered client invocation := by
  have meets : system.StepsMeet Attends { dispatcher := { maximum := 4, queueSize := 1 } }
      [.register 1, .request 7 0 none, .begin 0, .handlerRaised 0 [0x6f, 0x68], .errorSent 0,
        .ackSent 0] := by
    refine system.stepsMeet_cons rfl (fun _ _ _ _ _ => trivial) <|
      system.stepsMeet_cons rfl (fun _ _ found _ _ => by cases found) <|
      system.stepsMeet_cons rfl (fun _ _ _ _ _ => trivial) <|
      system.stepsMeet_cons rfl (fun _ _ _ _ _ _ broken => by cases broken) <|
      system.stepsMeet_cons rfl (fun _ _ _ _ _ => trivial) <|
      system.stepsMeet_cons rfl (fun _ _ _ _ _ => trivial) trivial
  have reachable := system.reachableUnder_of_run ⟨4, 1, rfl⟩ _ rfl meets
  exact ⟨_, rfl, fun _ member => answered_of_reachable reachable member⟩

/-- The message of the exception has a surrogate in it. -/
theorem exists_dropped_request : ∃ client : RpcClient, system.Reachable client ∧
    ∃ invocation ∈ client.invocations, ¬ Answered client invocation := by
  have reachable := system.reachable_of_run ⟨4, 1, rfl⟩
    [.register 1, .request 7 0 none, .begin 0, .handlerRaised 0 [0xD800]] rfl
  refine ⟨_, reachable, _, List.mem_singleton.mpr rfl, ?_⟩
  intro answered
  rcases answered rfl nofun rfl with answer | ⟨requested, -⟩
  · rcases answer with returned | ended
    · cases returned
    · cases ended
  · cases requested

end RpcClient

end FitzClient
