import FitzClient.LabelledSystem
import FitzClient.RequestOutbox

/-!
# KV transactions

A `KVTransaction` takes its lock for every operation.  Under the lock it checks
that it is open and of the current generation, and awaits its request; GET and
SCAN run in a retry loop there.  COMMIT and ROLLBACK close the transaction
before their request.  `rollback`, which also ends the context, returns at once
when the transaction is closed.

A cancelled call may leave a write task behind after it has released the lock.
-/

namespace FitzClient

/-- `emptyScan` is a `scan_page` whose bounds exclude each other. -/
inductive KvOperation
  | get
  | scanPage
  | emptyScan
  | put
  | insert
  | delete
  | deleteRange
  | commit
  | rollback
  deriving DecidableEq, Repr

namespace KvOperation

/-- The argument `replay_safe` of `run_with_retry`. -/
def replaySafe : KvOperation → Bool
  | .get | .scanPage => true
  | _ => false

/-- The operations that run through `_finish`. -/
def finishes : KvOperation → Bool
  | .commit | .rollback => true
  | _ => false

end KvOperation

/-- Where a call is suspended: at the lock, at its request, or in the sleep of
the retry loop after some number of attempts. -/
inductive KvCallPhase
  | locking
  | requesting (request attempt : Nat)
  | sleeping (attempt : Nat)
  | ended
  deriving DecidableEq, Repr

structure KvCall where
  operation : KvOperation
  phase : KvCallPhase := .locking
  deriving DecidableEq, Repr

/-- A transaction with every call of its methods.  `attempts` is what the retry
policy allows a read, and `connectionGeneration` is that of the connection. -/
structure KvTransaction where
  attempts : Nat
  generation : Nat
  connectionGeneration : Nat
  closed : Bool := false
  holder : Option Nat := none
  calls : List KvCall := []
  outbox : RequestOutbox KvOperation := {}
  deriving DecidableEq

namespace KvTransaction

/-- `_ensure_open` does not raise. -/
def ensureOpen (transaction : KvTransaction) : Bool :=
  transaction.generation == transaction.connectionGeneration && !transaction.closed

/-- Suspend a call at another await. -/
def setPhase (transaction : KvTransaction) (call : Nat) (phase : KvCallPhase) : KvTransaction :=
  { transaction with
    calls := transaction.calls.modify call fun state => { state with phase } }

/-- A call ends and releases the lock. -/
def release (transaction : KvTransaction) (call : Nat) : KvTransaction :=
  { transaction.setPhase call .ended with holder := none }

/-- The request of a call in its attempt. -/
def issue (transaction : KvTransaction) (call : Nat) (operation : KvOperation) (attempt : Nat) :
    KvTransaction :=
  { transaction.setPhase call (.requesting transaction.outbox.requests.length attempt) with
    outbox := transaction.outbox.enter operation }

/-- A method up to its lock. -/
def call (transaction : KvTransaction) (operation : KvOperation) : KvTransaction :=
  { transaction with
    calls := transaction.calls ++ [{
      operation
      phase := if operation = .rollback ∧ transaction.closed then .ended else .locking }] }

/-- A method once it has the lock, up to its next `await`. -/
def lock (transaction : KvTransaction) (call : Nat) (operation : KvOperation) : KvTransaction :=
  if transaction.ensureOpen then
    if operation = .emptyScan then
      transaction.setPhase call .ended
    else
      { transaction with
        holder := some call
        closed := transaction.closed || operation.finishes }.issue call operation 1
  else
    transaction.setPhase call .ended

/-- A read is tried again after an exception that may be retried. -/
def retries (transaction : KvTransaction) (operation : KvOperation) (attempt : Nat)
    (outcome : OutboxOutcome) (retryable : Bool) : Bool :=
  operation.replaySafe && retryable && attempt < transaction.attempts &&
    outcome != .accepted && outcome != .cancelled

end KvTransaction

/-- What can happen at a transaction.  `resume` continues a call whose request
has ended, `invalidate` is the disconnect listener. -/
inductive KvAction
  | call (operation : KvOperation)
  | lock (call : Nat)
  | grant (request : Nat)
  | refuse (request : Nat)
  | write
  | failWrite
  | answer (request : Nat) (outcome : OutboxOutcome)
  | resume (call : Nat) (retryable : Bool)
  | wake (call : Nat)
  | cancel (call : Nat)
  | invalidate
  | newGeneration
  deriving DecidableEq, Repr

namespace KvTransaction

/-- A transition of the requests. -/
def stepOutbox (transaction : KvTransaction) (action : OutboxAction) : Option KvTransaction :=
  (transaction.outbox.step action).map ({ transaction with outbox := · })

/-- One transition. -/
def step (transaction : KvTransaction) : KvAction → Option KvTransaction
  | .call operation => some (transaction.call operation)
  | .lock call =>
      match transaction.calls[call]? with
      | some { operation, phase := .locking } =>
          if transaction.holder = none then some (transaction.lock call operation) else none
      | _ => none
  | .grant request => transaction.stepOutbox (.grant request)
  | .refuse request => transaction.stepOutbox (.refuse request)
  | .write => transaction.stepOutbox .write
  | .failWrite => transaction.stepOutbox .failWrite
  | .answer request outcome => transaction.stepOutbox (.answer request outcome)
  | .resume call retryable =>
      match transaction.calls[call]? with
      | some { operation, phase := .requesting request attempt } =>
          match transaction.outbox.phase? request with
          | some (.ended outcome) =>
              if transaction.retries operation attempt outcome retryable then
                some (transaction.setPhase call (.sleeping attempt))
              else
                some (transaction.release call)
          | _ => none
      | _ => none
  | .wake call =>
      match transaction.calls[call]? with
      | some { operation, phase := .sleeping attempt } =>
          if transaction.ensureOpen then
            some (transaction.issue call operation (attempt + 1))
          else
            some (transaction.release call)
      | _ => none
  | .cancel call =>
      match transaction.calls[call]? with
      | some { operation := _, phase := .locking } => some (transaction.setPhase call .ended)
      | some { operation := _, phase := .requesting request _ } =>
          transaction.stepOutbox (.cancel request)
      | some { operation := _, phase := .sleeping _ } => some (transaction.release call)
      | _ => none
  | .invalidate => some { transaction with closed := true }
  | .newGeneration =>
      some { transaction with connectionGeneration := transaction.connectionGeneration + 1 }

/-- All interleavings of a new transaction. -/
def system (attempts generation : Nat) : LabelledSystem KvTransaction KvAction where
  starts transaction := transaction = {
    attempts, generation, connectionGeneration := generation }
  step := step

/-- At most one COMMIT or ROLLBACK is sent and nothing after it; once a
COMMIT has been requested, neither a ROLLBACK nor another COMMIT ever is. -/
structure Terminates (transaction : KvTransaction) : Prop where
  atMostOne : (transaction.outbox.framesSent.filter (·.finishes)).length ≤ 1
  nothingAfter : ∀ (earlier : List KvOperation) (operation : KvOperation)
    (later : List KvOperation),
    transaction.outbox.framesSent = earlier ++ operation :: later → operation.finishes = true →
    later = []
  onlyCommit : ∀ request, transaction.outbox.frame? request = some .commit →
    ∀ other operation, transaction.outbox.frame? other = some operation →
      operation.finishes = true → other = request

variable {transaction before after : KvTransaction}

/-- The call has the lock. -/
def Holds (transaction : KvTransaction) (call : Nat) : Prop :=
  ∃ state, transaction.calls[call]? = some state ∧
    ((∃ request attempt, state.phase = .requesting request attempt) ∨
      ∃ attempt, state.phase = .sleeping attempt)

/-- The call awaits this request. -/
def Awaits (transaction : KvTransaction) (call request : Nat) : Prop :=
  ∃ state attempt, transaction.calls[call]? = some state ∧
    state.phase = .requesting request attempt

theorem Awaits.holds {call request : Nat} (awaits : transaction.Awaits call request) :
    transaction.Holds call := by
  obtain ⟨state, attempt, found, phase⟩ := awaits
  exact ⟨state, found, Or.inl ⟨request, attempt, phase⟩⟩

/-- Who has the lock is its holder, only the holder has a request that has not
ended, requests join the order one after the other, and a COMMIT or ROLLBACK
is the last request and has closed the transaction. -/
structure Serial (transaction : KvTransaction) : Prop where
  holder : ∀ call, transaction.Holds call → transaction.holder = some call
  awaited : ∀ request, request < transaction.outbox.requests.length →
    (∃ outcome, transaction.outbox.phase? request = some (.ended outcome)) ∨
      ∃ call, transaction.Awaits call request
  ended : ∀ request, request + 1 < transaction.outbox.requests.length →
    ∃ outcome, transaction.outbox.phase? request = some (.ended outcome)
  sleeping : ∀ (call : Nat) (state : KvCall) (attempt : Nat),
    transaction.calls[call]? = some state →
    state.phase = .sleeping attempt → state.operation.replaySafe = true
  ordered : transaction.outbox.Ordered
  increasing : transaction.outbox.order.Pairwise (· < ·)
  finished : ∀ request operation, transaction.outbox.frame? request = some operation →
    operation.finishes = true →
    transaction.closed = true ∧ request + 1 = transaction.outbox.requests.length

namespace Serial

/-- A transition that touches neither the calls nor their requests. -/
theorem of_fields (serial : Serial before) (calls : after.calls = before.calls)
    (holder : after.holder = before.holder) (outbox : after.outbox = before.outbox)
    (closed : before.closed = true → after.closed = true) : Serial after where
  holder call holds := by
    rw [Holds, calls] at holds
    rw [holder]
    exact serial.holder call holds
  awaited request bound := by
    rw [outbox] at bound ⊢
    rcases serial.awaited request bound with ended | ⟨call, awaits⟩
    · exact Or.inl ended
    · refine Or.inr ⟨call, ?_⟩
      rw [Awaits, calls]
      exact awaits
  ended := by
    rw [outbox]
    exact serial.ended
  sleeping := by
    rw [calls]
    exact serial.sleeping
  ordered := by
    rw [outbox]
    exact serial.ordered
  increasing := by
    rw [outbox]
    exact serial.increasing
  finished request operation found finishes := by
    rw [outbox] at found ⊢
    obtain ⟨wasClosed, last⟩ := serial.finished request operation found finishes
    exact ⟨closed wasClosed, last⟩

/-- The requests go on. -/
theorem advance (serial : Serial before) {outbox : RequestOutbox KvOperation}
    (advances : before.outbox.Advances outbox) : Serial { before with outbox } where
  holder := serial.holder
  awaited request bound := by
    change request < outbox.requests.length at bound
    rw [advances.length] at bound
    rcases serial.awaited request bound with ⟨outcome, ended⟩ | awaits
    · exact Or.inl ⟨outcome, advances.ended request outcome ended⟩
    · exact Or.inr awaits
  ended request bound := by
    change request + 1 < outbox.requests.length at bound
    rw [advances.length] at bound
    obtain ⟨outcome, ended⟩ := serial.ended request bound
    exact ⟨outcome, advances.ended request outcome ended⟩
  sleeping := serial.sleeping
  ordered := serial.ordered.advance advances
  increasing := by
    rcases advances.order with sublist | ⟨request, waits, -, appended⟩
    · exact serial.increasing.sublist sublist
    · change outbox.order.Pairwise (· < ·)
      rw [appended, List.pairwise_append]
      refine ⟨serial.increasing, List.pairwise_singleton _ _, fun other member last single => ?_⟩
      obtain rfl := List.mem_singleton.mp single
      obtain ⟨bound, admitted⟩ := serial.ordered.admitted other member
      -- the request that is admitted is the last one, and `other` is not it
      have apart : other ≠ last := by
        rintro rfl
        exact admitted waits
      by_contra behind
      obtain ⟨outcome, ended⟩ := serial.ended last (by omega)
      rw [waits] at ended
      cases ended
  finished request operation found finishes := by
    change outbox.frame? request = some operation at found
    rw [advances.frames] at found
    obtain ⟨closed, last⟩ := serial.finished request operation found finishes
    exact ⟨closed, last.trans advances.length.symm⟩

/-- A call is suspended elsewhere: it has the lock afterwards only if it had it
before, and awaits no other request. -/
theorem rephase (serial : Serial before) {call : Nat} {state : KvCall} {phase : KvCallPhase}
    (found : before.calls[call]? = some state)
    (calls : after.calls = before.calls.modify call fun state => { state with phase })
    (outbox : after.outbox = before.outbox) (closed : after.closed = before.closed)
    (holder : ∀ other, (other ≠ call → before.Holds other) →
      (other = call → ∃ attempt, phase = .sleeping attempt) → after.holder = some other)
    (ends : ∀ request attempt, state.phase = .requesting request attempt →
      ∃ outcome, before.outbox.phase? request = some (.ended outcome))
    (requests : ∀ request attempt, phase ≠ .requesting request attempt)
    (replays : ∀ attempt, phase = .sleeping attempt → state.operation.replaySafe = true) :
    Serial after where
  holder other holds := by
    obtain ⟨later, foundLater, phases⟩ := holds
    rw [calls] at foundLater
    obtain ⟨earlier, foundEarlier, same⟩ := getElem?_modify_eq_some.mp foundLater
    refine holder other (fun apart => ?_) fun same' => ?_
    · rw [if_neg (Ne.symm apart)] at same
      exact ⟨earlier, foundEarlier, same ▸ phases⟩
    · rw [if_pos same'.symm] at same
      rw [same] at phases
      rcases phases with ⟨request, attempt, requesting⟩ | asleep
      · exact (requests request attempt requesting).elim
      · exact asleep
  awaited request bound := by
    rw [outbox] at bound ⊢
    rcases serial.awaited request bound with
      ended | ⟨other, earlier, attempt, foundEarlier, phaseEq⟩
    · exact Or.inl ended
    · by_cases same : other = call
      · subst same
        rw [found] at foundEarlier
        obtain rfl := Option.some.inj foundEarlier
        exact Or.inl (ends request attempt phaseEq)
      · refine Or.inr ⟨other, earlier, attempt, ?_, phaseEq⟩
        rw [calls]
        exact getElem?_modify_eq_some.mpr ⟨earlier, foundEarlier, by rw [if_neg (Ne.symm same)]⟩
  ended := by
    rw [outbox]
    exact serial.ended
  sleeping other later attempt foundLater asleep := by
    rw [calls] at foundLater
    obtain ⟨earlier, foundEarlier, same⟩ := getElem?_modify_eq_some.mp foundLater
    split_ifs at same with here
    · subst here
      rw [found] at foundEarlier
      obtain rfl := Option.some.inj foundEarlier
      rw [same] at asleep ⊢
      exact replays attempt asleep
    · rw [same] at asleep ⊢
      exact serial.sleeping other earlier attempt foundEarlier asleep
  ordered := by
    rw [outbox]
    exact serial.ordered
  increasing := by
    rw [outbox]
    exact serial.increasing
  finished := by
    rw [outbox, closed]
    exact serial.finished

/-- A call that had no lock ends. -/
theorem endUnlocked (serial : Serial before) {call : Nat} {state : KvCall}
    (found : before.calls[call]? = some state) (phase : state.phase = .locking) :
    Serial (before.setPhase call .ended) := by
  refine serial.rephase found rfl rfl rfl (fun other holds here => ?_) (fun _ _ requesting => ?_)
    (fun _ _ => nofun) (fun _ => nofun)
  · by_cases same : other = call
    · obtain ⟨attempt, asleep⟩ := here same
      cases asleep
    · exact serial.holder other (holds same)
  · rw [phase] at requesting
    cases requesting

/-- The holder of the lock is alone with it. -/
theorem alone (serial : Serial before) {call other : Nat} (holds : before.Holds call)
    (alsoHolds : before.Holds other) : other = call :=
  Option.some.inj ((serial.holder other alsoHolds).symm.trans (serial.holder call holds))

theorem release (serial : Serial before) {call : Nat} {state : KvCall}
    (found : before.calls[call]? = some state) (holds : before.Holds call)
    (ends : ∀ request attempt, state.phase = .requesting request attempt →
      ∃ outcome, before.outbox.phase? request = some (.ended outcome)) :
    Serial (before.release call) := by
  refine serial.rephase found rfl rfl rfl (fun other others here => ?_) ends
    (fun _ _ => nofun) (fun _ => nofun)
  by_cases same : other = call
  · obtain ⟨attempt, asleep⟩ := here same
    cases asleep
  · exact (same (serial.alone holds (others same))).elim

/-- A request begins while all others have ended and the transaction is
open. -/
theorem issue (serial : Serial before) {call attempt : Nat} {state : KvCall}
    {operation : KvOperation} (found : before.calls[call]? = some state)
    (alone : ∀ other, before.Holds other → other = call)
    (idle : ∀ request, request < before.outbox.requests.length →
      ∃ outcome, before.outbox.phase? request = some (.ended outcome))
    (opened : before.closed = false)
    (calls : after.calls = before.calls.modify call fun state =>
      { state with phase := .requesting before.outbox.requests.length attempt })
    (outbox : after.outbox = before.outbox.enter operation) (holder : after.holder = some call)
    (closed : operation.finishes = true → after.closed = true) : Serial after where
  holder other holds := by
    obtain ⟨later, foundLater, phases⟩ := holds
    rw [calls] at foundLater
    obtain ⟨earlier, foundEarlier, same⟩ := getElem?_modify_eq_some.mp foundLater
    rw [holder]
    split_ifs at same with here
    · rw [here]
    · rw [alone other ⟨earlier, foundEarlier, same ▸ phases⟩]
  awaited request bound := by
    rw [outbox] at bound ⊢
    rw [RequestOutbox.phase?_enter]
    split_ifs with last
    · refine Or.inr ⟨call, { state with phase := .requesting request attempt }, attempt, ?_, rfl⟩
      rw [calls, last]
      exact getElem?_modify_eq_some.mpr ⟨state, found, by rw [if_pos rfl]⟩
    · simp only [RequestOutbox.enter, List.length_append, List.length_singleton] at bound
      exact Or.inl (idle request (by omega))
  ended request bound := by
    rw [outbox] at bound ⊢
    simp only [RequestOutbox.enter, List.length_append, List.length_singleton] at bound
    rw [RequestOutbox.phase?_enter, if_neg (by omega)]
    exact idle request (by omega)
  sleeping other later attempts foundLater asleep := by
    rw [calls] at foundLater
    obtain ⟨earlier, foundEarlier, same⟩ := getElem?_modify_eq_some.mp foundLater
    split_ifs at same with here
    · rw [same] at asleep
      cases asleep
    · rw [same] at asleep ⊢
      exact serial.sleeping other earlier attempts foundEarlier asleep
  ordered := by
    rw [outbox]
    exact serial.ordered.enter operation
  increasing := by
    rw [outbox]
    exact serial.increasing
  finished request other foundFrame finishes := by
    rw [outbox] at foundFrame ⊢
    rw [RequestOutbox.frame?_enter] at foundFrame
    split_ifs at foundFrame with last
    · obtain rfl := Option.some.inj foundFrame
      exact ⟨closed finishes, by simp [RequestOutbox.enter, last]⟩
    · obtain ⟨wasClosed, -⟩ := serial.finished request other foundFrame finishes
      rw [opened] at wasClosed
      cases wasClosed

/-- While nobody has the lock, and while its holder sleeps, every request has
ended. -/
theorem idle (serial : Serial before)
    (nobody : ∀ call request, ¬ before.Awaits call request) (request : Nat)
    (bound : request < before.outbox.requests.length) :
    ∃ outcome, before.outbox.phase? request = some (.ended outcome) := by
  rcases serial.awaited request bound with ended | ⟨call, awaits⟩
  · exact ended
  · exact (nobody call request awaits).elim

theorem not_holds (serial : Serial before) (free : before.holder = none) (call : Nat) :
    ¬ before.Holds call := by
  intro holds
  have holder := serial.holder call holds
  rw [free] at holder
  cases holder

theorem lock (serial : Serial before) {call : Nat} {operation : KvOperation}
    (found : before.calls[call]? = some { operation, phase := .locking })
    (free : before.holder = none) : Serial (before.lock call operation) := by
  unfold KvTransaction.lock
  split
  · next opened =>
    split
    · exact serial.endUnlocked found rfl
    · refine serial.issue found (fun other holds => (serial.not_holds free other holds).elim)
        (serial.idle fun other request awaits => serial.not_holds free other awaits.holds)
        ?_ rfl rfl rfl fun finishes => ?_
      · simp only [ensureOpen, Bool.and_eq_true, Bool.not_eq_true'] at opened
        exact opened.2
      · change (before.closed || operation.finishes) = true
        rw [finishes, Bool.or_true]
  · exact serial.endUnlocked found rfl

theorem call (serial : Serial before) (operation : KvOperation) :
    Serial (before.call operation) := by
  have unheld : ∀ other, (before.call operation).Holds other → before.Holds other := by
    rintro other ⟨state, found, phases⟩
    rcases getElem?_concat_eq_some.mp found with old | ⟨-, rfl⟩
    · exact ⟨state, old, phases⟩
    · dsimp only at phases
      split at phases <;> rcases phases with ⟨_, _, requesting⟩ | ⟨_, asleep⟩ <;> contradiction
  refine ⟨fun other holds => serial.holder other (unheld other holds), fun request bound => ?_,
    serial.ended, fun other state attempt found asleep => ?_, serial.ordered,
    serial.increasing, serial.finished⟩
  · rcases serial.awaited request bound with ended | ⟨other, state, attempt, found, phase⟩
    · exact Or.inl ended
    · exact Or.inr ⟨other, state, attempt, getElem?_concat_eq_some.mpr (Or.inl found), phase⟩
  · rcases getElem?_concat_eq_some.mp found with old | ⟨-, rfl⟩
    · exact serial.sleeping other state attempt old asleep
    · dsimp only at asleep
      split at asleep <;> cases asleep

theorem stepOutbox (serial : Serial before) {action : OutboxAction}
    (stepped : before.stepOutbox action = some after) : Serial after := by
  obtain ⟨outbox, advanced, rfl⟩ := Option.map_eq_some_iff.mp stepped
  exact serial.advance (RequestOutbox.advances_step advanced)

theorem resume (serial : Serial before) {call request attempt : Nat} {operation : KvOperation}
    {outcome : OutboxOutcome}
    (found : before.calls[call]? = some { operation, phase := .requesting request attempt })
    (ended : before.outbox.phase? request = some (.ended outcome)) (retryable : Bool) :
    Serial (if before.retries operation attempt outcome retryable then
      before.setPhase call (.sleeping attempt) else before.release call) := by
  have holds : before.Holds call := ⟨_, found, Or.inl ⟨request, attempt, rfl⟩⟩
  have ends : ∀ other tried, KvCallPhase.requesting request attempt = .requesting other tried →
      ∃ outcome, before.outbox.phase? other = some (.ended outcome) := by
    rintro other tried same
    cases same
    exact ⟨outcome, ended⟩
  split
  · next again =>
    refine serial.rephase found rfl rfl rfl (fun other others here => ?_) ends (fun _ _ => nofun)
      fun tried _ => ?_
    · by_cases same : other = call
      · rw [same]
        exact serial.holder call holds
      · exact serial.holder other (others same)
    · simp only [retries, Bool.and_eq_true] at again
      exact again.1.1.1.1
  · exact serial.release found holds ends

theorem wake (serial : Serial before) {call attempt : Nat} {operation : KvOperation}
    (found : before.calls[call]? = some { operation, phase := .sleeping attempt }) :
    Serial (if before.ensureOpen then before.issue call operation (attempt + 1)
      else before.release call) := by
  have holds : before.Holds call := ⟨_, found, Or.inr ⟨attempt, rfl⟩⟩
  split
  · next opened =>
    simp only [ensureOpen, Bool.and_eq_true, Bool.not_eq_true'] at opened
    refine serial.issue found (fun other => serial.alone holds) (serial.idle ?_) opened.2 rfl rfl
      (serial.holder call holds) fun finishes => ?_
    · rintro other request ⟨state, tried, foundOther, phase⟩
      obtain rfl := serial.alone holds ⟨state, foundOther, Or.inl ⟨request, tried, phase⟩⟩
      rw [found] at foundOther
      obtain rfl := Option.some.inj foundOther
      cases phase
    · have replays := serial.sleeping call _ attempt found rfl
      dsimp only at replays
      cases operation <;> simp [KvOperation.replaySafe, KvOperation.finishes] at replays finishes
  · exact serial.release found holds fun _ _ => nofun

theorem step (serial : Serial before) {action : KvAction}
    (stepped : before.step action = some after) : Serial after := by
  cases action with
  | call operation =>
      obtain rfl := Option.some.inj stepped
      exact serial.call operation
  | lock call =>
      simp only [KvTransaction.step] at stepped
      split at stepped
      · next operation found =>
        split_ifs at stepped with free
        obtain rfl := Option.some.inj stepped
        exact serial.lock found free
      · cases stepped
  | grant request => exact serial.stepOutbox stepped
  | refuse request => exact serial.stepOutbox stepped
  | write => exact serial.stepOutbox stepped
  | failWrite => exact serial.stepOutbox stepped
  | answer request outcome => exact serial.stepOutbox stepped
  | resume call retryable =>
      simp only [KvTransaction.step] at stepped
      split at stepped
      · next operation request attempt found =>
        split at stepped
        · next outcome ended =>
          have resumed := serial.resume found ended retryable
          split at stepped <;> obtain rfl := Option.some.inj stepped
          · next again => rwa [if_pos again] at resumed
          · next stops => rwa [if_neg stops] at resumed
        · cases stepped
      · cases stepped
  | wake call =>
      simp only [KvTransaction.step] at stepped
      split at stepped
      · next operation attempt found =>
        have woken := serial.wake found
        split at stepped <;> obtain rfl := Option.some.inj stepped
        · next opened => rwa [if_pos opened] at woken
        · next shut => rwa [if_neg shut] at woken
      · cases stepped
  | cancel call =>
      simp only [KvTransaction.step] at stepped
      split at stepped
      · next operation found =>
        obtain rfl := Option.some.inj stepped
        exact serial.endUnlocked found rfl
      · exact serial.stepOutbox stepped
      · next operation attempt found =>
        obtain rfl := Option.some.inj stepped
        exact serial.release found ⟨_, found, Or.inr ⟨attempt, rfl⟩⟩ fun _ _ => nofun
      · cases stepped
  | invalidate =>
      obtain rfl := Option.some.inj stepped
      exact serial.of_fields rfl rfl rfl fun _ => rfl
  | newGeneration =>
      obtain rfl := Option.some.inj stepped
      exact serial.of_fields rfl rfl rfl id

theorem new (attempts generation : Nat) :
    Serial { attempts, generation, connectionGeneration := generation } where
  holder call holds := by
    obtain ⟨state, found, -⟩ := holds
    simp at found
  awaited request bound := by simp at bound
  ended request bound := by simp at bound
  sleeping call state attempt found := by simp at found
  ordered := .empty
  increasing := List.Pairwise.nil
  finished request operation found := by simp [RequestOutbox.frame?] at found

theorem nothingAfter (serial : Serial transaction) {operation : KvOperation}
    {earlier later : List KvOperation}
    (sent : transaction.outbox.framesSent = earlier ++ operation :: later)
    (finishes : operation.finishes = true) : later = [] :=
  RequestOutbox.eq_nil_of_framesSent serial.ordered serial.increasing
    (fun request found => (serial.finished request operation found finishes).2) sent

theorem terminates (serial : Serial transaction) : Terminates transaction where
  atMostOne := by
    -- the first terminal frame is the last frame
    by_contra several
    obtain ⟨operation, others, split⟩ := List.exists_cons_of_length_pos
      (l := transaction.outbox.framesSent.filter (·.finishes)) (by omega)
    obtain ⟨earlier, later, sent, -, finishes, rest⟩ := List.filter_eq_cons_iff.mp split
    have last := serial.nothingAfter sent finishes
    rw [last] at rest
    rw [split, ← rest] at several
    simp at several
  nothingAfter earlier operation later sent finishes := serial.nothingAfter sent finishes
  onlyCommit request commits other operation found finishes := by
    have last := (serial.finished request .commit commits rfl).2
    have alsoLast := (serial.finished other operation found finishes).2
    omega

end Serial

/-- Whatever the calls, their retries, failures and cancellations, one frame
ends the transaction and nothing follows it. -/
theorem terminates_of_reachable {attempts generation : Nat}
    (reachable : (system attempts generation).Reachable transaction) :
    transaction.Terminates := by
  have invariant : (system attempts generation).Invariant (fun _ _ => True) Serial := {
    starts := fun first starts => by
      rw [starts]
      exact Serial.new attempts generation
    preserved := fun current action next serial _ stepped => serial.step stepped }
  exact (invariant.of_reachable reachable).terminates

/-- A read that is retried, a commit that is cancelled twice while its write
is queued, and the rollback at the end of the context. -/
theorem terminates_cancelled_commit :
    ∃ transaction : KvTransaction,
      transaction.outbox.framesSent = [.get, .get, .commit] ∧
      transaction.calls.map (·.phase) = [.ended, .ended, .ended] ∧
      transaction.Terminates :=
  ⟨_, rfl, rfl, terminates_of_reachable ((system 3 1).reachable_of_run rfl
    [.call .get, .call .commit, .lock 0, .grant 0, .write, .answer 0 .raised, .resume 0 true,
      .wake 0, .grant 1, .write, .answer 1 .accepted, .resume 0 true, .lock 1, .grant 2,
      .cancel 1, .cancel 1, .resume 1 false, .call .rollback, .write] rfl)⟩

end KvTransaction

end FitzClient
