import FitzClient.LabelledSystem
import FitzClient.RequestOutbox

/-!
# Stream sessions

The methods of a `StreamSession` check that the session is open and begin their
request at once, without a lock.  COMMIT and ROLLBACK close the session after a
successful reply, so that until then other operations get past the check.
-/

namespace FitzClient

inductive StreamOperation
  | append
  | commit
  | rollback
  deriving DecidableEq, Repr

/-- A session with the requests of its methods; `connectionGeneration` is that
of the connection. -/
structure StreamSession where
  generation : Nat
  connectionGeneration : Nat
  closed : Bool := false
  outbox : RequestOutbox StreamOperation := {}
  deriving DecidableEq

/-- What can happen at a session.  `resume` continues a method whose request
was accepted, with a reply that may be malformed; `exit` is the end of the
context and `invalidate` the disconnect listener. -/
inductive StreamAction
  | call (operation : StreamOperation)
  | exit
  | grant (request : Nat)
  | refuse (request : Nat)
  | write
  | failWrite
  | answer (request : Nat) (outcome : OutboxOutcome)
  | cancel (request : Nat)
  | resume (request : Nat) (wellFormed : Bool)
  | invalidate
  | newGeneration
  deriving DecidableEq, Repr

namespace StreamSession

/-- `_ensure_open` does not raise. -/
def ensureOpen (session : StreamSession) : Bool :=
  !session.closed && session.generation == session.connectionGeneration

/-- A method up to its request. -/
def call (session : StreamSession) (operation : StreamOperation) : StreamSession :=
  if session.ensureOpen then
    { session with outbox := session.outbox.enter operation }
  else
    session

/-- `__aexit__` -/
def exit (session : StreamSession) : StreamSession :=
  if session.closed then session else session.call .rollback

/-- The end of `commit` and `rollback`. -/
def finish (session : StreamSession) (operation : StreamOperation) : StreamSession :=
  if operation = .append then session else { session with closed := true }

/-- A transition of the requests. -/
def stepOutbox (session : StreamSession) (action : OutboxAction) : Option StreamSession :=
  (session.outbox.step action).map ({ session with outbox := · })

/-- One transition. -/
def step (session : StreamSession) : StreamAction → Option StreamSession
  | .call operation => some (session.call operation)
  | .exit => some session.exit
  | .grant request => session.stepOutbox (.grant request)
  | .refuse request => session.stepOutbox (.refuse request)
  | .write => session.stepOutbox .write
  | .failWrite => session.stepOutbox .failWrite
  | .answer request outcome => session.stepOutbox (.answer request outcome)
  | .cancel request => session.stepOutbox (.cancel request)
  | .resume request wellFormed =>
      if session.outbox.phase? request = some (.ended .accepted) then
        match session.outbox.frame? request with
        | some operation => some (if wellFormed then session.finish operation else session)
        | none => none
      else
        none
  | .invalidate => some { session with closed := true }
  | .newGeneration =>
      some { session with connectionGeneration := session.connectionGeneration + 1 }

/-- All interleavings of a new session. -/
def system (generation : Nat) : LabelledSystem StreamSession StreamAction where
  starts session := session = { generation, connectionGeneration := generation }
  step := step

/-- After a COMMIT that the broker has not definitely rejected, no frame of the
session was sent. -/
def CommitsLast (session : StreamSession) : Prop :=
  ∀ (earlier : List Nat) (request : Nat) (later : List Nat),
    session.outbox.sent = earlier ++ request :: later →
    session.outbox.frame? request = some .commit →
    session.outbox.phase? request ≠ some (.ended (.rejected true)) → later = []

/-- A COMMIT that waits for its slot, or whose frame is written or will be, and
that the broker has not definitely rejected. -/
def Undecided (session : StreamSession) (request : Nat) : Prop :=
  session.outbox.frame? request = some .commit ∧
    (session.outbox.phase? request = some .admitting ∨ request ∈ session.outbox.order) ∧
    session.outbox.phase? request ≠ some (.ended (.rejected true))

instance (session : StreamSession) (request : Nat) : Decidable (session.Undecided request) :=
  inferInstanceAs (Decidable (_ ∧ _ ∧ _))

/-- No operation gets past the check while a COMMIT is undecided, and a COMMIT
gets its slot only while no other operation waits for one. -/
def Yields (session : StreamSession) : StreamAction → Prop
  | .call _ | .exit => session.ensureOpen = true →
      ∀ request < session.outbox.requests.length, ¬ session.Undecided request
  | .grant request => session.outbox.frame? request = some .commit →
      ∀ other < session.outbox.requests.length,
        session.outbox.phase? other = some .admitting → other = request
  | _ => True

instance (session : StreamSession) : (action : StreamAction) → Decidable (session.Yields action)
  | .call _ | .exit => inferInstanceAs (Decidable (_ → ∀ request < _, ¬ session.Undecided request))
  | .grant request => inferInstanceAs (Decidable (_ → ∀ other < _, _ → other = request))
  | .refuse _ | .write | .failWrite | .answer _ _ | .cancel _ | .resume _ _ | .invalidate
  | .newGeneration => inferInstanceAs (Decidable True)

variable {session before after : StreamSession}

/-- An undecided COMMIT in order is the last one, and nothing waits to
follow it. -/
structure Guarded (session : StreamSession) : Prop where
  ordered : session.outbox.Ordered
  last : ∀ request ∈ session.outbox.order, session.Undecided request →
    session.outbox.order.getLast? = some request ∧
      ∀ other, session.outbox.phase? other ≠ some .admitting

theorem bound_of_phase {request : Nat} {phase : OutboxPhase}
    (found : session.outbox.phase? request = some phase) :
    request < session.outbox.requests.length := by
  by_contra outside
  rw [RequestOutbox.phase?_eq_none_iff.mpr (by omega)] at found
  cases found

namespace Guarded

theorem call (guarded : Guarded before)
    (yields : before.ensureOpen = true →
      ∀ request < before.outbox.requests.length, ¬ before.Undecided request)
    (operation : StreamOperation) : Guarded (before.call operation) := by
  unfold StreamSession.call
  split
  · next opened =>
    refine ⟨guarded.ordered.enter operation, fun request member undecided => ?_⟩
    -- nothing in order is undecided: a new request changes nothing there
    have bound := (guarded.ordered.admitted request member).1
    obtain ⟨commits, -, open'⟩ := undecided
    refine (yields opened request bound ⟨?_, Or.inr member, ?_⟩).elim
    · rw [RequestOutbox.frame?_enter, if_neg (by omega)] at commits
      exact commits
    · rw [RequestOutbox.phase?_enter, if_neg (by omega)] at open'
      exact open'
  · exact guarded

theorem stepOutbox (guarded : Guarded before) {action : OutboxAction}
    (yields : ∀ request, action = .grant request →
      before.outbox.frame? request = some .commit →
      ∀ other < before.outbox.requests.length,
        before.outbox.phase? other = some .admitting → other = request)
    (stepped : before.stepOutbox action = some after) : Guarded after := by
  obtain ⟨outbox, advanced, rfl⟩ := Option.map_eq_some_iff.mp stepped
  have advances := RequestOutbox.advances_step advanced
  refine ⟨guarded.ordered.advance advances, fun request member undecided => ?_⟩
  obtain ⟨commits, -, open'⟩ := undecided
  have commitsBefore : before.outbox.frame? request = some .commit := by
    rw [← advances.frames]
    exact commits
  have openBefore : before.outbox.phase? request ≠ some (.ended (.rejected true)) :=
    fun rejected => open' (advances.ended request _ rejected)
  rcases advances.order with sublist | ⟨entered, waits, written, appended⟩
  · obtain ⟨last, quiet⟩ := guarded.last request (sublist.subset member)
      ⟨commitsBefore, Or.inr (sublist.subset member), openBefore⟩
    exact ⟨RequestOutbox.getLast?_of_sublist guarded.ordered.nodup sublist last member,
      fun other waiting => quiet other (advances.admitting other waiting)⟩
  · change request ∈ outbox.order at member
    rw [appended] at member
    rcases List.mem_append.mp member with old | new
    · have quiet := (guarded.last request old ⟨commitsBefore, Or.inr old, openBefore⟩).2
      exact (quiet entered waits).elim
    · obtain rfl := List.mem_singleton.mp new
      refine ⟨?_, fun other waiting => ?_⟩
      · change outbox.order.getLast? = some request
        rw [appended]
        simp
      · -- it was admitted alone, and is not waiting any more
        have waitingBefore := advances.admitting other waiting
        obtain rfl := yields request (RequestOutbox.eq_grant_of_step advanced waits written)
          commitsBefore other (bound_of_phase waitingBefore) waitingBefore
        change outbox.phase? other = some .admitting at waiting
        rw [written] at waiting
        cases waiting

theorem of_outbox (guarded : Guarded before) (outbox : after.outbox = before.outbox) :
    Guarded after where
  ordered := by
    rw [outbox]
    exact guarded.ordered
  last request member undecided := by
    rw [Undecided, outbox] at undecided
    rw [outbox] at member ⊢
    exact guarded.last request member undecided

theorem step (guarded : Guarded before) {action : StreamAction} (yields : before.Yields action)
    (stepped : before.step action = some after) : Guarded after := by
  cases action with
  | call operation =>
      obtain rfl := Option.some.inj stepped
      exact guarded.call yields operation
  | exit =>
      obtain rfl := Option.some.inj stepped
      unfold StreamSession.exit
      split
      · exact guarded
      · exact guarded.call yields .rollback
  | grant request =>
      refine guarded.stepOutbox (fun other same => ?_) stepped
      cases same
      exact yields
  | refuse request => exact guarded.stepOutbox (fun _ same => by cases same) stepped
  | write => exact guarded.stepOutbox (fun _ same => by cases same) stepped
  | failWrite => exact guarded.stepOutbox (fun _ same => by cases same) stepped
  | answer request outcome => exact guarded.stepOutbox (fun _ same => by cases same) stepped
  | cancel request => exact guarded.stepOutbox (fun _ same => by cases same) stepped
  | resume request wellFormed =>
      simp only [StreamSession.step] at stepped
      split at stepped
      · split at stepped
        · obtain rfl := Option.some.inj stepped
          refine guarded.of_outbox ?_
          unfold finish
          split
          · split <;> rfl
          · rfl
        · cases stepped
      · cases stepped
  | invalidate =>
      obtain rfl := Option.some.inj stepped
      exact guarded.of_outbox rfl
  | newGeneration =>
      obtain rfl := Option.some.inj stepped
      exact guarded.of_outbox rfl

theorem new (generation : Nat) :
    Guarded { generation, connectionGeneration := generation } where
  ordered := .empty
  last request member := by cases member

theorem commitsLast (guarded : Guarded session) : session.CommitsLast := by
  intro earlier request later sent commits undecided
  have member : request ∈ session.outbox.order := by
    simp [RequestOutbox.order, sent]
  exact RequestOutbox.eq_nil_of_sent guarded.ordered sent
    (guarded.last request member ⟨commits, Or.inr member, undecided⟩).1

end Guarded

/-- In every run whose operations yield to an undecided COMMIT, its frame stays
the last one. -/
theorem commitsLast_of_reachable {generation : Nat}
    (reachable : (system generation).ReachableUnder Yields session) : session.CommitsLast := by
  have invariant : (system generation).Invariant Yields Guarded := {
    starts := fun first starts => by
      rw [starts]
      exact Guarded.new generation
    preserved := fun current action next guarded yields stepped => guarded.step yields stepped }
  exact (invariant.of_reachable reachable).commitsLast

/-- Two appends at once, a COMMIT that is rejected, a second one that succeeds,
and the end of the context. -/
theorem commitsLast_second_commit :
    ∃ session : StreamSession,
      session.outbox.framesSent = [.append, .append, .commit, .commit] ∧
      session.closed = true ∧ session.CommitsLast := by
  have meets : (system 1).StepsMeet Yields { generation := 1, connectionGeneration := 1 }
      [.call .append, .call .append, .grant 0, .grant 1, .write, .write, .call .commit,
        .grant 2, .write, .answer 2 (.rejected true), .call .commit, .grant 3, .write,
        .answer 3 .accepted, .resume 3 true, .exit] :=
    (system 1).stepsMeet_cons rfl (by decide) <| (system 1).stepsMeet_cons rfl (by decide) <|
      (system 1).stepsMeet_cons rfl (by decide) <| (system 1).stepsMeet_cons rfl (by decide) <|
      (system 1).stepsMeet_cons rfl trivial <| (system 1).stepsMeet_cons rfl trivial <|
      (system 1).stepsMeet_cons rfl (by decide) <| (system 1).stepsMeet_cons rfl (by decide) <|
      (system 1).stepsMeet_cons rfl trivial <| (system 1).stepsMeet_cons rfl trivial <|
      (system 1).stepsMeet_cons rfl (by decide) <| (system 1).stepsMeet_cons rfl (by decide) <|
      (system 1).stepsMeet_cons rfl trivial <| (system 1).stepsMeet_cons rfl trivial <|
      (system 1).stepsMeet_cons rfl trivial <| (system 1).stepsMeet_cons rfl (by decide) trivial
  exact ⟨_, rfl, rfl, commitsLast_of_reachable
    ((system 1).reachableUnder_of_run rfl _ rfl meets)⟩

/-- A call to `commit` is cancelled while its reply is awaited, and the end of the
context sends a ROLLBACK. -/
theorem exists_rollback_after_commit :
    ∃ session : StreamSession, (system 1).Reachable session ∧ ¬ session.CommitsLast := by
  refine ⟨_, (system 1).reachable_of_run rfl
    [.call .append, .grant 0, .write, .answer 0 .accepted, .resume 0 true, .call .commit,
      .grant 1, .write, .cancel 1, .exit, .grant 2, .write] rfl, ?_⟩
  intro commitsLast
  have nothing := commitsLast [0] 1 [2] rfl rfl (by decide)
  cases nothing

end StreamSession

end FitzClient
