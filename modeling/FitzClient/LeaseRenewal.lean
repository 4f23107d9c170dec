import FitzClient.Dictionary
import FitzClient.LabelledSystem
import FitzClient.RequestOutbox

/-!
# Fencing tokens

`Lease.extend` and `Lease.release` read the token of the lease, await the
request, and `extend` stores the new token afterwards.  A managed lease also
extends it from a renewal task.  Its exit cancels the task at whatever await it
is at, waits for its end, and releases the lease unless that has been done.

The broker accepts the current token only and replaces it with every EXTEND
that it accepts.  The log of stale requests, whose frames carried a replaced
token when they were sent, is history.
-/

namespace FitzClient

inductive LeaseOperation
  | extend
  | release
  deriving DecidableEq, Repr

/-- An EXTEND or RELEASE and the token it carries. -/
structure LeaseFrame where
  operation : LeaseOperation
  token : Nat
  deriving DecidableEq, Repr

/-- What the broker knows of the lease: its current token, the tokens that an
accepted EXTEND has replaced, and which requests were processed and accepted,
an EXTEND with its new token. -/
structure LeaseBroker where
  current : Nat
  replaced : List Nat := []
  held : Bool := true
  processed : List Nat := []
  granted : Dictionary Nat Nat := ∅
  deriving DecidableEq

/-- `_renewal`; a task that was cancelled while its reply was on the way does
not store it. -/
inductive RenewalTask
  | absent
  | sleeping
  | extending (request : Nat) (cancelled : Bool)
  | ended
  deriving DecidableEq, Repr

/-- `__aexit__` waits for the renewal task, and then it is past it. -/
inductive LeaseExit
  | outside
  | joining
  | left
  deriving DecidableEq, Repr

/-- A lease of one live session, its renewal task and its broker. -/
structure ManagedLease where
  token : Nat
  released : Bool := false
  renewal : RenewalTask := .absent
  exit : LeaseExit := .outside
  outbox : RequestOutbox LeaseFrame := {}
  resumed : List Nat := []
  broker : LeaseBroker
  stale : List Nat := []
  deriving DecidableEq

/-- What can happen at a lease.  `renew` is the end of the sleep of the renewal
task, `process` the broker at a request that was sent, and `resume` continues
the method whose request has ended. -/
inductive LeaseTokenAction
  | call (operation : LeaseOperation)
  | manage
  | renew
  | exit
  | leave
  | grant (request : Nat)
  | refuse (request : Nat)
  | write
  | failWrite
  | process (request newToken : Nat)
  | answer (request : Nat) (outcome : OutboxOutcome)
  | cancel (request : Nat)
  | resume (request : Nat)
  deriving DecidableEq, Repr

namespace LeaseBroker

/-- The broker processes a frame. -/
def process (broker : LeaseBroker) (request : Nat) (frame : LeaseFrame) (newToken : Nat) :
    LeaseBroker :=
  if broker.held ∧ frame.token = broker.current then
    match frame.operation with
    | .extend =>
        { broker with
          current := newToken
          replaced := broker.replaced ++ [broker.current]
          processed := broker.processed ++ [request]
          granted := broker.granted.insert request newToken }
    | .release =>
        { broker with
          held := false
          processed := broker.processed ++ [request]
          granted := broker.granted.insert request frame.token }
  else
    { broker with processed := broker.processed ++ [request] }

end LeaseBroker

namespace ManagedLease

/-- `extend` and `release` up to their request; `_valid` raises once the lease
is released. -/
def call (lease : ManagedLease) (operation : LeaseOperation) : ManagedLease :=
  if lease.released then
    lease
  else
    { lease with outbox := lease.outbox.enter { operation, token := lease.token } }

/-- A round of the renewal task, which ends when `_valid` raises. -/
def renew (lease : ManagedLease) : ManagedLease :=
  if lease.released then
    { lease with renewal := .ended }
  else
    { lease.call .extend with renewal := .extending lease.outbox.requests.length false }

/-- `__aexit__` up to its first `await`. -/
def startExit (lease : ManagedLease) : ManagedLease :=
  match lease.renewal with
  | .extending request _ =>
      { lease with
        outbox := lease.outbox.move request OutboxPhase.cancelled
        renewal := .extending request true
        exit := .joining }
  | .absent | .sleeping | .ended => { lease with renewal := .ended, exit := .joining }

/-- `__aexit__` after the renewal task. -/
def leave (lease : ManagedLease) : ManagedLease :=
  { lease.call .release with exit := .left }

/-- `extend` and `release` after an accepted reply. -/
def store (lease : ManagedLease) (request : Nat) (operation : LeaseOperation) : ManagedLease :=
  match operation with
  | .extend => { lease with token := (lease.broker.granted.lookup request).getD lease.token }
  | .release => { lease with released := true }

/-- A method whose request has ended with this outcome goes on. -/
def resume (lease : ManagedLease) (request : Nat) (operation : LeaseOperation)
    (outcome : OutboxOutcome) : ManagedLease :=
  let lease := { lease with resumed := lease.resumed ++ [request] }
  if lease.renewal = .extending request true then
    { lease with renewal := .ended }
  else if lease.renewal = .extending request false then
    if outcome = .accepted then
      { lease.store request operation with renewal := .sleeping }
    else
      { lease with renewal := .ended }
  else if outcome = .accepted then
    lease.store request operation
  else
    lease

/-- A transition of the requests. -/
def stepOutbox (lease : ManagedLease) (action : OutboxAction) : Option ManagedLease :=
  (lease.outbox.step action).map ({ lease with outbox := · })

/-- The first write task hands its frame to the transport. -/
def write (lease : ManagedLease) : Option ManagedLease :=
  (lease.stepOutbox .write).map fun written =>
    { written with
      stale := lease.stale ++ (lease.outbox.writes.take 1).filter fun request =>
        (lease.outbox.frame? request).any (·.token ∈ lease.broker.replaced) }

/-- The broker processes every request that was sent once; the token of an
EXTEND that it accepts is new. -/
def process (lease : ManagedLease) (request newToken : Nat) : Option ManagedLease :=
  if request ∈ lease.outbox.sent ∧ request ∉ lease.broker.processed ∧
      newToken ≠ lease.broker.current ∧ newToken ∉ lease.broker.replaced then
    (lease.outbox.frame? request).map fun frame =>
      { lease with broker := lease.broker.process request frame newToken }
  else
    none

/-- The broker answers what it has processed. -/
def answer (lease : ManagedLease) (request : Nat) (outcome : OutboxOutcome) :
    Option ManagedLease :=
  match outcome with
  | .accepted =>
      if (lease.broker.granted.lookup request).isSome then
        lease.stepOutbox (.answer request outcome)
      else
        none
  | .rejected _ =>
      if request ∈ lease.broker.processed ∧ lease.broker.granted.lookup request = none then
        lease.stepOutbox (.answer request outcome)
      else
        none
  | .raised | .cancelled => lease.stepOutbox (.answer request outcome)

/-- One transition. -/
def step (lease : ManagedLease) : LeaseTokenAction → Option ManagedLease
  | .call operation => some (lease.call operation)
  | .manage => if lease.renewal = .absent then some { lease with renewal := .sleeping } else none
  | .renew => if lease.renewal = .sleeping then some lease.renew else none
  | .exit => if lease.exit = .outside then some lease.startExit else none
  | .leave => if lease.exit = .joining ∧ lease.renewal = .ended then some lease.leave else none
  | .grant request => lease.stepOutbox (.grant request)
  | .refuse request => lease.stepOutbox (.refuse request)
  | .write => lease.write
  | .failWrite => lease.stepOutbox .failWrite
  | .process request newToken => lease.process request newToken
  | .answer request outcome => lease.answer request outcome
  | .cancel request => lease.stepOutbox (.cancel request)
  | .resume request =>
      if request ∈ lease.resumed then
        none
      else
        match lease.outbox.frame? request, lease.outbox.phase? request with
        | some frame, some (.ended outcome) => some (lease.resume request frame.operation outcome)
        | _, _ => none

/-- All interleavings of a lease that was acquired with this token. -/
def system (token : Nat) : LabelledSystem ManagedLease LeaseTokenAction where
  starts lease := lease = { token, broker := { current := token } }
  step := step

/-- The method of this request reads the token of the lease. -/
def ReadsCurrent (lease : ManagedLease) : Prop :=
  lease.released = false → lease.token ∉ lease.broker.replaced

/-- This EXTEND is accepted by the broker. -/
def Extends (lease : ManagedLease) (request : Nat) : Prop :=
  lease.outbox.frame? request = some { operation := .extend, token := lease.broker.current } ∧
    lease.broker.held = true

instance (lease : ManagedLease) (request : Nat) : Decidable (lease.Extends request) :=
  inferInstanceAs (Decidable (_ ∧ _))

/-- An operation reads the token only while no accepted EXTEND has replaced
it, and the broker accepts an EXTEND only while no other operation that has
read the token waits to be sent. -/
def Fenced (lease : ManagedLease) : LeaseTokenAction → Prop
  | .call _ | .renew | .leave => lease.ReadsCurrent
  | .process request _ => lease.Extends request →
      ∀ other < lease.outbox.requests.length, lease.outbox.Unsent other →
        (lease.outbox.frame? other).all (·.token ≠ lease.broker.current) = true
  | _ => True

instance (lease : ManagedLease) : (action : LeaseTokenAction) → Decidable (lease.Fenced action)
  | .call _ | .renew | .leave => inferInstanceAs (Decidable (_ → _))
  | .process request _ => inferInstanceAs (Decidable (lease.Extends request → ∀ other < _,
      lease.outbox.Unsent other → _))
  | .manage | .exit | .grant _ | .refuse _ | .write | .failWrite | .answer _ _ | .cancel _
  | .resume _ => inferInstanceAs (Decidable True)

variable {lease before after : ManagedLease}

/-- What is still to be sent carries the current token. -/
structure Fresh (lease : ManagedLease) : Prop where
  stale : lease.stale = []
  unsent : ∀ request frame, lease.outbox.Unsent request →
    lease.outbox.frame? request = some frame → frame.token ∉ lease.broker.replaced

namespace Fresh

theorem of_fields (fresh : Fresh before) (outbox : after.outbox = before.outbox)
    (broker : after.broker = before.broker) (stale : after.stale = before.stale) :
    Fresh after where
  stale := stale.trans fresh.stale
  unsent request frame unsent found := by
    rw [outbox] at unsent found
    rw [broker]
    exact fresh.unsent request frame unsent found

theorem call (fresh : Fresh before) (reads : before.ReadsCurrent) (operation : LeaseOperation) :
    Fresh (before.call operation) := by
  unfold ManagedLease.call
  split
  · exact fresh
  · next usable =>
    refine ⟨fresh.stale, fun request frame unsent found => ?_⟩
    rw [RequestOutbox.frame?_enter] at found
    split_ifs at found with last
    · obtain rfl := Option.some.inj found
      exact reads (by simpa using usable)
    · refine fresh.unsent request frame ?_ found
      rcases unsent with waits | queued
      · rw [RequestOutbox.phase?_enter, if_neg last] at waits
        exact Or.inl waits
      · exact Or.inr queued

/-- The requests go on, and nothing stale is sent. -/
theorem advance (fresh : Fresh before) {action : OutboxAction} {outbox : RequestOutbox LeaseFrame}
    (advanced : before.outbox.step action = some outbox) (after : ManagedLease)
    (outboxAfter : after.outbox = outbox) (broker : after.broker = before.broker)
    (stale : after.stale = before.stale) : Fresh after where
  stale := stale.trans fresh.stale
  unsent request frame unsent found := by
    rw [outboxAfter] at unsent found
    rw [(RequestOutbox.advances_step advanced).frames] at found
    rw [broker]
    exact fresh.unsent request frame (RequestOutbox.unsent_of_step advanced unsent) found

theorem stepOutbox (fresh : Fresh before) {action : OutboxAction}
    (stepped : before.stepOutbox action = some after) : Fresh after := by
  obtain ⟨outbox, advanced, rfl⟩ := Option.map_eq_some_iff.mp stepped
  exact fresh.advance advanced _ rfl rfl rfl

theorem write (fresh : Fresh before) (stepped : before.write = some after) : Fresh after := by
  obtain ⟨written, advanced, rfl⟩ := Option.map_eq_some_iff.mp stepped
  obtain ⟨outbox, sent, rfl⟩ := Option.map_eq_some_iff.mp advanced
  refine fresh.advance sent _ rfl rfl ?_
  -- the request whose frame is sent was unsent, and carries the current token
  have none : ((before.outbox.writes.take 1).filter fun request =>
      (before.outbox.frame? request).any (·.token ∈ before.broker.replaced)) = [] := by
    rw [List.filter_eq_nil_iff]
    intro request first
    have unsent : before.outbox.Unsent request := Or.inr (List.mem_of_mem_take first)
    cases found : before.outbox.frame? request with
    | none => simp
    | some frame => simpa using fresh.unsent request frame unsent found
  dsimp only
  rw [none, List.append_nil]

theorem process (fresh : Fresh before) {request newToken : Nat}
    (fenced : before.Fenced (.process request newToken))
    (stepped : before.process request newToken = some after) : Fresh after := by
  unfold ManagedLease.process at stepped
  split at stepped
  · obtain ⟨frame, found, rfl⟩ := Option.map_eq_some_iff.mp stepped
    refine ⟨fresh.stale, fun other otherFrame unsent foundOther => ?_⟩
    have before_replaced := fresh.unsent other otherFrame unsent foundOther
    change otherFrame.token ∉ (before.broker.process request frame newToken).replaced
    unfold LeaseBroker.process
    split
    · next accepted =>
      cases operation : frame.operation with
      | extend =>
          dsimp only
          rw [List.mem_append, List.mem_singleton]
          rintro (old | same)
          · exact before_replaced old
          · have extending : before.Extends request := by
              refine ⟨?_, accepted.1⟩
              rw [found, ← operation, ← accepted.2]
            have bound : other < before.outbox.requests.length := by
              by_contra outside
              have absent := RequestOutbox.frame?_eq_none_iff.mpr (Nat.le_of_not_lt outside)
              rw [foundOther] at absent
              cases absent
            have apart := fenced extending other bound unsent
            simp [foundOther, same] at apart
      | release => exact before_replaced
    · exact before_replaced
  · cases stepped

theorem store (fresh : Fresh before) (request : Nat) (operation : LeaseOperation) :
    Fresh (before.store request operation) := by
  cases operation with
  | extend => exact fresh.of_fields rfl rfl rfl
  | release => exact fresh.of_fields rfl rfl rfl

theorem resume (fresh : Fresh before) (request : Nat) (operation : LeaseOperation)
    (outcome : OutboxOutcome) : Fresh (before.resume request operation outcome) := by
  have noted : Fresh { before with resumed := before.resumed ++ [request] } :=
    fresh.of_fields rfl rfl rfl
  unfold ManagedLease.resume
  dsimp only
  split
  · exact noted.of_fields rfl rfl rfl
  · split
    · split
      · exact (noted.store request operation).of_fields rfl rfl rfl
      · exact noted.of_fields rfl rfl rfl
    · split
      · exact noted.store request operation
      · exact noted

theorem step (fresh : Fresh before) {action : LeaseTokenAction} (fenced : before.Fenced action)
    (stepped : before.step action = some after) : Fresh after := by
  cases action with
  | call operation =>
      obtain rfl := Option.some.inj stepped
      exact fresh.call fenced operation
  | manage =>
      simp only [ManagedLease.step] at stepped
      split_ifs at stepped
      obtain rfl := Option.some.inj stepped
      exact fresh.of_fields rfl rfl rfl
  | renew =>
      simp only [ManagedLease.step] at stepped
      split_ifs at stepped
      obtain rfl := Option.some.inj stepped
      unfold ManagedLease.renew
      split
      · exact fresh.of_fields rfl rfl rfl
      · exact (fresh.call fenced .extend).of_fields rfl rfl rfl
  | exit =>
      simp only [ManagedLease.step] at stepped
      split_ifs at stepped
      obtain rfl := Option.some.inj stepped
      unfold ManagedLease.startExit
      split
      · next request _ _ =>
        exact @Fresh.advance before fresh (.cancel request) _ rfl _ rfl rfl rfl
      all_goals exact fresh.of_fields rfl rfl rfl
  | leave =>
      simp only [ManagedLease.step] at stepped
      split_ifs at stepped
      obtain rfl := Option.some.inj stepped
      exact (fresh.call fenced .release).of_fields rfl rfl rfl
  | grant request => exact fresh.stepOutbox stepped
  | refuse request => exact fresh.stepOutbox stepped
  | write => exact fresh.write stepped
  | failWrite => exact fresh.stepOutbox stepped
  | process request newToken => exact fresh.process fenced stepped
  | answer request outcome =>
      simp only [ManagedLease.step, ManagedLease.answer] at stepped
      split at stepped
      · split at stepped
        · exact fresh.stepOutbox stepped
        · cases stepped
      · split at stepped
        · exact fresh.stepOutbox stepped
        · cases stepped
      · exact fresh.stepOutbox stepped
      · exact fresh.stepOutbox stepped
  | cancel request => exact fresh.stepOutbox stepped
  | resume request =>
      simp only [ManagedLease.step] at stepped
      split at stepped
      · cases stepped
      · split at stepped
        · next frame outcome _ _ =>
          obtain rfl := Option.some.inj stepped
          exact fresh.resume request frame.operation outcome
        · cases stepped

theorem new (token : Nat) : Fresh { token, broker := { current := token } } where
  stale := rfl
  unsent request frame unsent found := by simp [RequestOutbox.frame?] at found

end Fresh

/-- In every run whose operations read current tokens, and whose EXTENDs are
accepted while nothing else waits to be sent, no frame carries a token that was
replaced before it was sent. -/
theorem stale_eq_nil_of_reachable {token : Nat}
    (reachable : (system token).ReachableUnder Fenced lease) : lease.stale = [] := by
  have invariant : (system token).Invariant Fenced Fresh := {
    starts := fun first starts => by
      rw [starts]
      exact Fresh.new token
    preserved := fun current action next fresh fenced stepped => fresh.step fenced stepped }
  exact (invariant.of_reachable reachable).stale

/-- A renewal, an EXTEND of the user, and the exit of the managed lease. -/
theorem stale_eq_nil_renewed :
    ∃ lease : ManagedLease, lease.outbox.sent = [0, 1, 2] ∧ lease.released = true ∧
      lease.broker.replaced = [7, 8] ∧ lease.stale = [] := by
  have meets : (system 7).StepsMeet Fenced { token := 7, broker := { current := 7 } }
      [.manage, .renew, .grant 0, .write, .process 0 8, .answer 0 .accepted, .resume 0,
        .call .extend, .grant 1, .write, .process 1 9, .answer 1 .accepted, .resume 1, .exit,
        .leave, .grant 2, .write, .process 2 10, .answer 2 .accepted, .resume 2] :=
    (system 7).stepsMeet_cons rfl trivial <| (system 7).stepsMeet_cons rfl (by decide) <|
      (system 7).stepsMeet_cons rfl trivial <| (system 7).stepsMeet_cons rfl trivial <|
      (system 7).stepsMeet_cons rfl (by decide) <| (system 7).stepsMeet_cons rfl trivial <|
      (system 7).stepsMeet_cons rfl trivial <| (system 7).stepsMeet_cons rfl (by decide) <|
      (system 7).stepsMeet_cons rfl trivial <| (system 7).stepsMeet_cons rfl trivial <|
      (system 7).stepsMeet_cons rfl (by decide) <| (system 7).stepsMeet_cons rfl trivial <|
      (system 7).stepsMeet_cons rfl trivial <| (system 7).stepsMeet_cons rfl trivial <|
      (system 7).stepsMeet_cons rfl (by decide) <| (system 7).stepsMeet_cons rfl trivial <|
      (system 7).stepsMeet_cons rfl trivial <| (system 7).stepsMeet_cons rfl (by decide) <|
      (system 7).stepsMeet_cons rfl trivial <| (system 7).stepsMeet_cons rfl trivial trivial
  exact ⟨_, rfl, rfl, rfl, stale_eq_nil_of_reachable
    ((system 7).reachableUnder_of_run rfl _ rfl meets)⟩

/-- The renewal is cancelled by the exit while the reply to its accepted EXTEND
is on the way, and the RELEASE carries the token before. -/
theorem exists_stale_release :
    ∃ lease : ManagedLease, (system 7).Reachable lease ∧ lease.stale = [1] :=
  ⟨_, (system 7).reachable_of_run rfl
    [.manage, .renew, .grant 0, .write, .process 0 8, .exit, .resume 0, .leave, .grant 1,
      .write] rfl, rfl⟩

end ManagedLease

end FitzClient
