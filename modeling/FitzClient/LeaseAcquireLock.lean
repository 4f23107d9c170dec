import FitzClient.LeaseAcquire

/-!
# The lock of `acquire`

The lock serialises all calls of `acquire` with their futures: at most one
future is queued, that of the holder of the lock.  A drain keeps the lock until
its future is done, so what matters is whether anything is left that will
complete it.  While the connection is up this is the deferred reply that the
broker owes for the cancelled call.
-/

namespace FitzClient

namespace LeaseClient

variable {before after : LeaseClient} {index : Nat} {call : AcquireCall}

/-- At most one future is queued, that of the call that holds the lock. -/
structure Serialized (client : LeaseClient) : Prop where
  queued : ∀ index ∈ client.queued, client.acquireLock = some index ∧
    ∃ call, client.calls[index]? = some call ∧ 0 < call.wait ∧ call.future = .pending
  nodup : client.queued.Nodup
  holder : ∀ index, client.acquireLock = some index ↔
    ∃ call, client.calls[index]? = some call ∧ call.phase.holdsLock = true
  waits : ∀ (index : Nat) (call : AcquireCall), client.calls[index]? = some call →
    call.phase = .draining → call.future = .pending → index ∈ client.queued
  fresh : ∀ (index : Nat) (call : AcquireCall), client.calls[index]? = some call →
    call.phase = .locking → call.future = .pending

/-- Only this call differs, and is this one afterwards. -/
structure Moves (before after : LeaseClient) (index : Nat) (next : AcquireCall) : Prop where
  moved : after.calls[index]? = some next
  others : ∀ other, other ≠ index → after.calls[other]? = before.calls[other]?

theorem moves_modify (found : before.calls[index]? = some call)
    (update : AcquireCall → AcquireCall) (same : after.calls = before.calls.modify index update) :
    Moves before after index (update call) where
  moved := by simp [same, found]
  others other apart := by simp [same, Ne.symm apart]

theorem Moves.forall {next : AcquireCall} (moves : Moves before after index next)
    {holds : AcquireCall → Prop}
    (all : ∀ (index : Nat) (call : AcquireCall), before.calls[index]? = some call → holds call)
    (moved : holds next)
    (other : Nat) (call : AcquireCall) (found : after.calls[other]? = some call) : holds call := by
  by_cases same : other = index
  · subst same
    rw [moves.moved] at found
    exact Option.some.inj found ▸ moved
  · rw [moves.others other same] at found
    exact all other call found

namespace Serialized

/-- At most one future is queued. -/
theorem eq_singleton (serialized : Serialized before) (member : index ∈ before.queued) :
    before.queued = [index] := by
  have same : ∀ other ∈ before.queued, other = index := by
    intro other isMember
    have holds := (serialized.queued other isMember).1
    rw [(serialized.queued index member).1] at holds
    exact (Option.some.inj holds).symm
  match queue : before.queued, serialized.nodup with
  | [], _ =>
      rw [queue] at member
      cases member
  | [only], _ =>
      rw [same only (by rw [queue]; exact List.mem_singleton.mpr rfl)]
  | first :: second :: rest, nodup =>
      have firstSame := same first (by rw [queue]; simp)
      have secondSame := same second (by rw [queue]; simp)
      rw [firstSame, secondSame] at nodup
      simp at nodup

/-- A call goes on, and neither the lock nor the queue changes. -/
theorem proceed {next : AcquireCall} (serialized : Serialized before)
    (found : before.calls[index]? = some call) (moves : Moves before after index next)
    (lock : after.acquireLock = before.acquireLock) (queue : after.queued = before.queued)
    (wait : next.wait = call.wait) (future : next.future = call.future)
    (holds : next.phase.holdsLock = call.phase.holdsLock)
    (drains : next.phase = .draining → call.phase = .draining ∨ index ∈ before.queued)
    (locks : next.phase = .locking → call.phase = .locking) :
    Serialized after where
  queued other member := by
    rw [queue] at member
    obtain ⟨holder, otherCall, otherFound, waits, pending⟩ := serialized.queued other member
    rw [lock]
    refine ⟨holder, ?_⟩
    by_cases same : other = index
    · subst same
      rw [found] at otherFound
      obtain rfl := Option.some.inj otherFound
      exact ⟨next, moves.moved, by rwa [wait], by rwa [future]⟩
    · exact ⟨otherCall, by rw [moves.others other same]; exact otherFound, waits, pending⟩
  nodup := by
    rw [queue]
    exact serialized.nodup
  holder other := by
    rw [lock, serialized.holder]
    by_cases same : other = index
    · subst same
      simp only [found, moves.moved, Option.some.injEq, exists_eq_left', holds]
    · rw [moves.others other same]
  waits other otherCall otherFound draining pending := by
    rw [queue]
    by_cases same : other = index
    · subst same
      rw [moves.moved] at otherFound
      obtain rfl := Option.some.inj otherFound
      rcases drains draining with was | member
      · exact serialized.waits other call found was (future ▸ pending)
      · exact member
    · rw [moves.others other same] at otherFound
      exact serialized.waits other otherCall otherFound draining pending
  fresh := moves.forall serialized.fresh fun locking =>
    future ▸ serialized.fresh index call found (locks locking)

/-- The holder of the lock ends, and its future leaves the queue. -/
theorem finish {next : AcquireCall} (serialized : Serialized before)
    (holds : before.acquireLock = some index) (moves : Moves before after index next)
    (lock : after.acquireLock = none) (queue : after.queued = before.queued.erase index)
    (ended : next.phase.holdsLock = false) (left : next.phase ≠ .locking) :
    Serialized after where
  queued other member := by
    rw [queue] at member
    -- nothing but the future of the holder was queued
    have was := List.mem_of_mem_erase member
    have single := serialized.eq_singleton was
    have isHolder := (serialized.queued other was).1
    rw [holds] at isHolder
    obtain rfl := Option.some.inj isHolder
    rw [single] at member
    simp at member
  nodup := by
    rw [queue]
    exact serialized.nodup.erase index
  holder other := by
    rw [lock]
    refine ⟨nofun, ?_⟩
    rintro ⟨otherCall, otherFound, otherHolds⟩
    by_cases same : other = index
    · subst same
      rw [moves.moved] at otherFound
      obtain rfl := Option.some.inj otherFound
      rw [ended] at otherHolds
      cases otherHolds
    · rw [moves.others other same] at otherFound
      have held := (serialized.holder other).mpr ⟨otherCall, otherFound, otherHolds⟩
      rw [holds] at held
      exact (same (Option.some.inj held).symm).elim
  waits other otherCall otherFound draining pending := by
    by_cases same : other = index
    · subst same
      rw [moves.moved] at otherFound
      obtain rfl := Option.some.inj otherFound
      rw [draining] at ended
      cases ended
    · rw [moves.others other same] at otherFound
      have held := (serialized.holder other).mpr ⟨otherCall, otherFound, by rw [draining]; rfl⟩
      rw [holds] at held
      exact (same (Option.some.inj held).symm).elim
  fresh := moves.forall serialized.fresh fun locking => (left locking).elim

/-- The lock is taken, and the future of a call that waits is queued. -/
theorem take {next : AcquireCall} (serialized : Serialized before)
    (idle : before.acquireLock = none) (moves : Moves before after index next)
    (lock : after.acquireLock = some index)
    (queue : after.queued = if 0 < next.wait then [index] else [])
    (future : next.future = .pending) (admitting : next.phase = .admitting) :
    Serialized after where
  queued other member := by
    rw [queue] at member
    split at member
    · next waits =>
        obtain rfl := List.mem_singleton.mp member
        exact ⟨lock, next, moves.moved, waits, future⟩
    · cases member
  nodup := by
    rw [queue]
    split
    · exact List.nodup_singleton _
    · exact List.nodup_nil
  holder other := by
    rw [lock]
    constructor
    · intro same
      obtain rfl := Option.some.inj same
      exact ⟨next, moves.moved, by rw [admitting]; rfl⟩
    · rintro ⟨otherCall, otherFound, otherHolds⟩
      by_cases same : other = index
      · rw [same]
      · rw [moves.others other same] at otherFound
        have held := (serialized.holder other).mpr ⟨otherCall, otherFound, otherHolds⟩
        rw [idle] at held
        cases held
  waits other otherCall otherFound draining pending := by
    by_cases same : other = index
    · subst same
      rw [moves.moved] at otherFound
      obtain rfl := Option.some.inj otherFound
      rw [admitting] at draining
      cases draining
    · rw [moves.others other same] at otherFound
      have held := (serialized.holder other).mpr ⟨otherCall, otherFound, by rw [draining]; rfl⟩
      rw [idle] at held
      cases held
  fresh := moves.forall serialized.fresh fun _ => future

/-- Nothing is queued while nobody holds the lock. -/
theorem queued_eq_nil (serialized : Serialized before) (idle : before.acquireLock = none) :
    before.queued = [] := by
  cases queue : before.queued with
  | nil => rfl
  | cons first rest =>
      have holds := (serialized.queued first (by rw [queue]; exact List.mem_cons_self)).1
      rw [idle] at holds
      cases holds

/-- The lock, the queue and the calls are all that counts. -/
theorem congr (serialized : Serialized before) (calls : after.calls = before.calls)
    (lock : after.acquireLock = before.acquireLock) (queue : after.queued = before.queued) :
    Serialized after := by
  obtain ⟨queued, nodup, holder, waits, fresh⟩ := serialized
  refine ⟨?_, ?_, ?_, ?_, ?_⟩
  · rw [queue, calls, lock]
    exact queued
  · rw [queue]
    exact nodup
  · rw [calls, lock]
    exact holder
  · rw [calls, queue]
    exact waits
  · rw [calls]
    exact fresh

end Serialized

theorem Serialized.lock_eq (serialized : Serialized before)
    (found : before.calls[index]? = some call) (holds : call.phase.holdsLock = true) :
    before.acquireLock = some index :=
  (serialized.holder index).mpr ⟨call, found, holds⟩

/-- A call that has no future, or whose future is done, is not in the queue. -/
theorem Serialized.absent (serialized : Serialized before)
    (found : before.calls[index]? = some call)
    (unqueued : call.wait = 0 ∨ call.future ≠ .pending) : index ∉ before.queued := by
  intro member
  obtain ⟨-, again, foundAgain, waits, pending⟩ := serialized.queued index member
  rw [found] at foundAgain
  obtain rfl := Option.some.inj foundAgain
  rcases unqueued with none | done
  · omega
  · exact done pending

theorem serialized_finish (serialized : Serialized before)
    (found : before.calls[index]? = some call) (holds : call.phase.holdsLock = true)
    (absent : index ∉ before.queued) {phase : AcquirePhase} (ended : phase.holdsLock = false)
    (left : phase ≠ .locking) : Serialized (before.finish index phase) :=
  serialized.finish (serialized.lock_eq found holds) (moves_modify found _ rfl) rfl
    (List.erase_of_not_mem absent).symm ended left

theorem serialized_leave (serialized : Serialized before)
    (found : before.calls[index]? = some call) (holds : call.phase.holdsLock = true)
    {phase : AcquirePhase} (ended : phase.holdsLock = false) (left : phase ≠ .locking) :
    Serialized ({ before with queued := before.queued.erase index }.finish index phase) :=
  serialized.finish (serialized.lock_eq found holds) (moves_modify found _ rfl) rfl rfl ended left

theorem serialized_abort (serialized : Serialized before)
    (found : before.calls[index]? = some call) (holds : call.phase.holdsLock = true) :
    Serialized (before.abort index) :=
  serialized_leave serialized found holds rfl nofun

theorem serialized_enter (serialized : Serialized before)
    (found : before.calls[index]? = some call) (locking : call.phase = .locking)
    (idle : before.acquireLock = none) : Serialized (before.enter index call.wait) := by
  let entered := { before with
    acquireLock := some index
    queued := if 0 < call.wait then before.queued ++ [index] else before.queued
    }.updateCall index ({ · with phase := .admitting, enteredIn := before.session })
  have moves : Moves before entered index
      { call with phase := .admitting, enteredIn := before.session } :=
    moves_modify found ({ · with phase := .admitting, enteredIn := before.session }) rfl
  have taken : Serialized entered := by
    refine serialized.take idle moves rfl ?_ (serialized.fresh index call found locking) rfl
    change (if 0 < call.wait then before.queued ++ [index] else before.queued) = _
    rw [serialized.queued_eq_nil idle]
    rfl
  change Serialized (if before.usable then entered else entered.abort index)
  split
  · exact taken
  · exact serialized_abort taken moves.moved rfl

/-- The future of the holder is done and leaves the queue. -/
theorem Serialized.pop {next : AcquireCall} (serialized : Serialized before)
    (member : index ∈ before.queued) (found : before.calls[index]? = some call)
    (moves : Moves before after index next) (lock : after.acquireLock = before.acquireLock)
    (queue : after.queued = []) (phase : next.phase = call.phase)
    (done : next.future ≠ .pending) : Serialized after where
  queued other isMember := by
    rw [queue] at isMember
    cases isMember
  nodup := by
    rw [queue]
    exact List.nodup_nil
  holder other := by
    rw [lock, serialized.holder]
    by_cases same : other = index
    · subst same
      simp only [found, moves.moved, Option.some.injEq, exists_eq_left', phase]
    · rw [moves.others other same]
  waits other otherCall otherFound draining pending := by
    by_cases same : other = index
    · subst same
      rw [moves.moved] at otherFound
      obtain rfl := Option.some.inj otherFound
      exact (done pending).elim
    · rw [moves.others other same] at otherFound
      have isMember := serialized.waits other otherCall otherFound draining pending
      rw [serialized.eq_singleton member] at isMember
      exact (same (List.mem_singleton.mp isMember)).elim
  fresh := moves.forall serialized.fresh fun locking => by
    have holder := (serialized.queued index member).1
    obtain ⟨again, foundAgain, holds⟩ := (serialized.holder index).mp holder
    rw [found] at foundAgain
    rw [← Option.some.inj foundAgain, ← phase, locking] at holds
    cases holds

/-- `_queued_reply` completes the only future in the queue, if there is one. -/
theorem Serialized.queuedReply_eq (serialized : Serialized before) (debtor : Nat)
    (reply : AcquireReply) :
    (before.queued = [] ∧ before.queuedReply debtor reply = before) ∨
      ∃ index, before.queued = [index] ∧ before.queuedReply debtor reply =
        { before with
          queued := []
          delivered := before.delivered ++ [(debtor, index)]
          }.updateCall index ({ · with future := .result reply }) := by
  cases queue : before.queued with
  | nil =>
      refine Or.inl ⟨rfl, ?_⟩
      simp only [LeaseClient.queuedReply, queue, firstPending]
      rw [← queue]
  | cons first rest =>
      have member : first ∈ before.queued := by rw [queue]; exact List.mem_cons_self
      have single := serialized.eq_singleton member
      obtain ⟨-, call, found, -, pending⟩ := serialized.queued first member
      rw [queue] at single
      obtain rfl : rest = [] := (List.cons.inj single).2
      refine Or.inr ⟨first, rfl, ?_⟩
      have isFirst : firstPending before.calls [first] = some (first, []) := by
        simp [firstPending, found, pending]
      simp only [LeaseClient.queuedReply, queue, isFirst]

theorem serialized_queuedReply (serialized : Serialized before) (debtor : Nat)
    (reply : AcquireReply) : Serialized (before.queuedReply debtor reply) := by
  rcases serialized.queuedReply_eq debtor reply with ⟨-, same⟩ | ⟨index, queue, same⟩
  · rw [same]
    exact serialized
  · have member : index ∈ before.queued := by rw [queue]; exact List.mem_singleton.mpr rfl
    obtain ⟨-, call, found, -, -⟩ := serialized.queued index member
    rw [same]
    exact serialized.pop member found (moves_modify found _ rfl) rfl rfl rfl nofun

/-- `_disconnect` fails the only future in the queue, if there is one. -/
theorem moves_disconnect (serialized : Serialized before) (member : index ∈ before.queued)
    (found : before.calls[index]? = some call) :
    Moves before before.disconnect index { call with future := .exception } where
  moved := by
    obtain ⟨-, again, foundAgain, -, pending⟩ := serialized.queued index member
    rw [found] at foundAgain
    obtain rfl := Option.some.inj foundAgain
    simp [disconnect, List.getElem?_mapIdx, found, member, pending]
  others other apart := by
    have absent : other ∉ before.queued := by
      rw [serialized.eq_singleton member]
      simpa using apart
    simp only [disconnect, List.getElem?_mapIdx, absent, false_and, if_false]
    cases before.calls[other]? <;> rfl

theorem disconnect_of_nil (queue : before.queued = []) : before.disconnect = before := by
  have same : before.calls.mapIdx (fun index call =>
      if index ∈ before.queued ∧ call.future = .pending then
        { call with future := .exception }
      else
        call) = before.calls := by
    apply List.ext_getElem?
    intro index
    rw [List.getElem?_mapIdx]
    simp [queue]
  unfold disconnect
  rw [same, ← queue]

theorem serialized_disconnect (serialized : Serialized before) :
    Serialized before.disconnect := by
  cases queue : before.queued with
  | nil =>
      rw [disconnect_of_nil queue]
      exact serialized
  | cons index rest =>
      have member : index ∈ before.queued := by rw [queue]; exact List.mem_cons_self
      obtain ⟨-, call, found, -, -⟩ := serialized.queued index member
      exact serialized.pop member found (moves_disconnect serialized member found) rfl rfl rfl nofun

theorem serialized_callStep (serialized : Serialized before)
    (found : before.calls[index]? = some call) {action : LeaseAction}
    (stepped : CallStep before index call action after) : Serialized after := by
  cases stepped with
  | enter locking idle => exact serialized_enter serialized found locking idle
  | send admitting _ _ =>
      exact serialized.proceed found (moves_modify found _ rfl) rfl rfl rfl rfl
        (by rw [admitting]; rfl) nofun nofun
  | fail failing =>
      refine serialized_abort serialized found ?_
      rcases failing with admitting | ⟨requested, -⟩
      · rw [admitting]; rfl
      · rw [requested]; rfl
  | timeout requested _ _ _ =>
      exact serialized_abort serialized found (by rw [requested]; rfl)
  | timeoutLose requested _ _ _ =>
      have lost : Serialized before.lose := serialized.congr rfl rfl rfl
      exact serialized_abort lost found (by rw [requested]; rfl)
  | decide reply _ _ _ _ =>
      exact serialized.proceed found (moves_modify found _ rfl) rfl rfl rfl rfl rfl Or.inl id
  | reply _ _ _ _ requested =>
      exact serialized.proceed found (moves_modify found _ rfl) rfl rfl rfl rfl
        (by rw [requested]; rfl) nofun nofun
  | replyUnread _ _ _ =>
      exact serialized.proceed found (moves_modify found _ rfl) rfl rfl rfl rfl rfl Or.inl id
  | settle reply _ _ _ =>
      let settled := { before with
        granted := before.granted ++ reply.grant index
        debts := before.debts.erase index }
      have held : Serialized settled := serialized.congr rfl rfl rfl
      exact serialized_queuedReply held index reply
  | returnAtOnce token answered none =>
      exact serialized_finish serialized found (by rw [answered]; rfl)
        (serialized.absent found (Or.inl none)) rfl nofun
  | returnWaiting token answered _ =>
      exact serialized_leave serialized found (by rw [answered]; rfl) rfl nofun
  | defer answered _ =>
      exact serialized.proceed found (moves_modify found _ rfl) rfl rfl rfl rfl
        (by rw [answered]; rfl) nofun nofun
  | refuse reply answered _ =>
      exact serialized_abort serialized found (by rw [answered]; rfl)
  | returnDeferred token deferred result =>
      exact serialized_finish serialized found (by rw [deferred]; rfl)
        (serialized.absent found (Or.inr (by rw [result]; nofun))) rfl nofun
  | interrupted deferred _ =>
      exact serialized_abort serialized found (by rw [deferred]; rfl)
  | drained draining done =>
      exact serialized_finish serialized found (by rw [draining]; rfl)
        (serialized.absent found (Or.inr done)) rfl nofun
  | cancelLocking locking =>
      exact serialized.proceed found (moves_modify found _ rfl) rfl rfl rfl rfl
        (by rw [locking]; rfl) nofun nofun
  | drain holds member =>
      exact serialized.proceed found (moves_modify found _ rfl) rfl rfl rfl rfl
        holds.symm (fun _ => Or.inr member) nofun
  | cancelHolding holds absent => exact serialized_finish serialized found holds absent rfl nofun

theorem serialized_acquire (serialized : Serialized before) (route : String) (wait : Nat) :
    Serialized { before with calls := before.calls ++ [{ route, wait }] } where
  queued index member := by
    obtain ⟨holder, call, found, held⟩ := serialized.queued index member
    exact ⟨holder, call, getElem?_concat_eq_some.mpr (Or.inl found), held⟩
  nodup := serialized.nodup
  holder index := by
    refine (serialized.holder index).trans ⟨?_, ?_⟩
    · rintro ⟨call, found, holds⟩
      exact ⟨call, getElem?_concat_eq_some.mpr (Or.inl found), holds⟩
    · rintro ⟨call, found, holds⟩
      rcases getElem?_concat_eq_some.mp found with found | ⟨-, rfl⟩
      · exact ⟨call, found, holds⟩
      · cases holds
  waits index call found draining pending := by
    rcases getElem?_concat_eq_some.mp found with found | ⟨-, rfl⟩
    · exact serialized.waits index call found draining pending
    · cases draining
  fresh index call found locking := by
    rcases getElem?_concat_eq_some.mp found with found | ⟨-, rfl⟩
    · exact serialized.fresh index call found locking
    · rfl

/-- The lock stays with one future. -/
theorem serialized_step (serialized : Serialized before) {action : LeaseAction}
    (stepped : before.step action = some after) : Serialized after := by
  cases leaseStep_of_step stepped with
  | ofCall found ofCall => exact serialized_callStep serialized found ofCall
  | acquire route wait => exact serialized_acquire serialized route wait
  | lose _ => exact serialized.congr rfl rfl rfl
  | announce _ => exact (serialized_disconnect serialized).congr rfl rfl rfl
  | openSession _ => exact serialized.congr rfl rfl rfl

theorem serialized_start : Serialized {} where
  queued _ member := by cases member
  nodup := List.nodup_nil
  holder _ := by
    constructor
    · intro same
      cases same
    · rintro ⟨_, found, _⟩
      cases found
  waits _ _ found := by cases found
  fresh _ _ found := by cases found

theorem invariant_serialized (admitted : LeaseClient → LeaseAction → Prop) :
    system.Invariant admitted Serialized where
  starts first starts := by
    obtain rfl : first = {} := starts
    exact serialized_start
  preserved _ _ _ serialized _ stepped := serialized_step serialized stepped

/-- No `acquire` is executing, and no drain is about to. -/
def Quiet (client : LeaseClient) : Prop :=
  ∀ call ∈ client.calls, call.phase.holdsLock = false ∧ call.phase ≠ .locking ∨
    call.phase = .draining ∧ call.future = .pending

/-- While no `acquire` is executing, the lock is held only if the broker owes a
deferred reply for a cancelled one. -/
def LockOwed (client : LeaseClient) : Prop :=
  client.Quiet → client.acquireLock ≠ none →
    ∃ debtor ∈ client.debts, ∃ call, client.calls[debtor]? = some call ∧ call.phase = .draining

/-- A call is cancelled with its future in the queue only once the broker has
queued its request, and a new session begins only once the loss of the one
before was announced to a drain. -/
def KeepsOwed (client : LeaseClient) : LeaseAction → Prop
  | .cancel index => index ∈ client.queued → index ∈ client.debts
  | .openSession => ∀ index ∈ client.queued, ∀ call, client.calls[index]? = some call →
      call.phase ≠ .draining
  | _ => True

/-- A drain that waits in the queue is owed its reply. -/
def DrainsOwed (client : LeaseClient) : Prop :=
  ∀ index ∈ client.queued, ∀ call, client.calls[index]? = some call → call.phase = .draining →
    index ∈ client.debts

theorem drainsOwed_of_nil (queue : after.queued = []) : DrainsOwed after := by
  intro index member
  rw [queue] at member
  cases member

/-- The call that moves is not in the queue afterwards, or does not drain, or
is owed its reply. -/
theorem DrainsOwed.move {next : AcquireCall} (owed : DrainsOwed before)
    (moves : Moves before after index next)
    (queue : ∀ other ∈ after.queued, other ∈ before.queued ∨ other = index)
    (debts : ∀ other ∈ before.debts, other ∈ after.debts)
    (moved : index ∈ after.queued → next.phase = .draining → index ∈ after.debts) :
    DrainsOwed after := by
  intro other member call found draining
  by_cases same : other = index
  · subst same
    rw [moves.moved] at found
    obtain rfl := Option.some.inj found
    exact moved member draining
  · rw [moves.others other same] at found
    have was := (queue other member).resolve_right same
    exact debts other (owed other was call found draining)

theorem drainsOwed_finish (owed : DrainsOwed before) (found : before.calls[index]? = some call)
    {phase : AcquirePhase} (ended : phase ≠ .draining) :
    DrainsOwed (before.finish index phase) :=
  owed.move (moves_modify found _ rfl) (fun _ => Or.inl) (fun _ => id)
    (fun _ draining => (ended draining).elim)

theorem drainsOwed_leave (owed : DrainsOwed before) (found : before.calls[index]? = some call)
    {phase : AcquirePhase} (ended : phase ≠ .draining) :
    DrainsOwed ({ before with queued := before.queued.erase index }.finish index phase) :=
  owed.move (moves_modify found _ rfl) (fun _ member => Or.inl (List.mem_of_mem_erase member))
    (fun _ => id) (fun _ draining => (ended draining).elim)

theorem drainsOwed_callStep (serialized : Serialized before) (owed : DrainsOwed before)
    (found : before.calls[index]? = some call) {action : LeaseAction}
    (keeps : KeepsOwed before action) (stepped : CallStep before index call action after) :
    DrainsOwed after := by
  cases stepped with
  | enter _ idle =>
      have empty := serialized.queued_eq_nil idle
      let entered := { before with
        acquireLock := some index
        queued := if 0 < call.wait then before.queued ++ [index] else before.queued
        }.updateCall index ({ · with phase := .admitting, enteredIn := before.session })
      have moves : Moves before entered index
          { call with phase := .admitting, enteredIn := before.session } :=
        moves_modify found ({ · with phase := .admitting, enteredIn := before.session }) rfl
      have taken : DrainsOwed entered := by
        refine owed.move moves (fun other member => ?_) (fun _ => id) nofun
        change other ∈ (if 0 < call.wait then before.queued ++ [index] else before.queued) at member
        rw [empty] at member
        split at member
        · exact Or.inr (List.mem_singleton.mp member)
        · cases member
      change DrainsOwed (if before.usable then entered else entered.abort index)
      split
      · exact taken
      · exact drainsOwed_leave taken moves.moved nofun
  | send _ _ _ => exact owed.move (moves_modify found _ rfl) (fun _ => Or.inl) (fun _ => id) nofun
  | fail _ => exact drainsOwed_leave owed found nofun
  | timeout _ _ _ _ => exact drainsOwed_leave owed found nofun
  | timeoutLose _ _ _ _ =>
      have lost : DrainsOwed before.lose := owed
      exact drainsOwed_leave lost found nofun
  | decide reply _ _ _ _ =>
      have grows : ∀ other ∈ before.debts, other ∈ (before.decide index reply).debts := by
        intro other member
        change other ∈
          (if reply = AcquireReply.queued then before.debts ++ [index] else before.debts)
        split
        · exact List.mem_append_left _ member
        · exact member
      exact owed.move (moves_modify found _ rfl) (fun _ => Or.inl) grows
        fun member draining => grows index (owed index member call found draining)
  | reply _ _ _ _ _ =>
      exact owed.move (moves_modify found _ rfl) (fun _ => Or.inl) (fun _ => id) nofun
  | replyUnread _ _ _ =>
      exact owed.move (moves_modify found _ rfl) (fun _ => Or.inl) (fun _ => id)
        fun member draining => owed index member call found draining
  | settle reply _ _ _ =>
      let settled := { before with
        granted := before.granted ++ reply.grant index
        debts := before.debts.erase index }
      have held : Serialized settled := serialized.congr rfl rfl rfl
      rcases held.queuedReply_eq index reply with ⟨empty, same⟩ | ⟨first, -, same⟩
      · exact drainsOwed_of_nil ((congrArg LeaseClient.queued same).trans empty)
      · exact drainsOwed_of_nil (congrArg LeaseClient.queued same)
  | returnAtOnce _ _ _ => exact drainsOwed_finish owed found nofun
  | returnWaiting _ _ _ => exact drainsOwed_leave owed found nofun
  | defer _ _ => exact owed.move (moves_modify found _ rfl) (fun _ => Or.inl) (fun _ => id) nofun
  | refuse _ _ _ => exact drainsOwed_leave owed found nofun
  | returnDeferred _ _ _ => exact drainsOwed_finish owed found nofun
  | interrupted _ _ => exact drainsOwed_leave owed found nofun
  | drained _ _ => exact drainsOwed_finish owed found nofun
  | cancelLocking _ =>
      exact owed.move (moves_modify found _ rfl) (fun _ => Or.inl) (fun _ => id) nofun
  | drain _ member =>
      exact owed.move (moves_modify found _ rfl) (fun _ => Or.inl) (fun _ => id)
        fun _ _ => keeps member
  | cancelHolding _ _ => exact drainsOwed_finish owed found nofun

theorem drainsOwed_step (serialized : Serialized before) (owed : DrainsOwed before)
    {action : LeaseAction} (keeps : KeepsOwed before action)
    (stepped : before.step action = some after) : DrainsOwed after := by
  cases leaseStep_of_step stepped with
  | ofCall found ofCall => exact drainsOwed_callStep serialized owed found keeps ofCall
  | acquire route wait =>
      intro index member call found draining
      rcases getElem?_concat_eq_some.mp found with found | ⟨-, rfl⟩
      · exact owed index member call found draining
      · cases draining
  | lose _ => exact owed
  | announce _ => exact drainsOwed_of_nil rfl
  | openSession _ =>
      exact fun index member call found draining => (keeps index member call found draining).elim

theorem invariant_drainsOwed :
    system.Invariant KeepsOwed fun client => Serialized client ∧ DrainsOwed client :=
  (invariant_serialized KeepsOwed).strengthen
    (fun first starts => by
      obtain rfl : first = {} := starts
      exact drainsOwed_of_nil rfl)
    fun _ _ _ serialized _ owed keeps stepped => drainsOwed_step serialized owed keeps stepped

/-- While no `acquire` is executing, whoever holds the lock drains a reply that
the broker owes. -/
theorem lockOwed_of_reachable {client : LeaseClient}
    (reachable : system.ReachableUnder KeepsOwed client) : LockOwed client := by
  obtain ⟨serialized, owed⟩ := invariant_drainsOwed.of_reachable reachable
  intro quiet held
  obtain ⟨holder, isHolder⟩ := Option.ne_none_iff_exists'.mp held
  obtain ⟨call, found, holds⟩ := (serialized.holder holder).mp isHolder
  rcases quiet call (List.mem_of_getElem? found) with ⟨ended, -⟩ | ⟨draining, pending⟩
  · rw [ended] at holds
    cases holds
  · have member := serialized.waits holder call found draining pending
    exact ⟨holder, owed holder member call found draining, call, found, draining⟩

/-- A call is cancelled while its request is queued, and the lock waits for the
decision. -/
theorem lockOwed_cancelled_while_queued : ∃ client : LeaseClient,
    client.acquireLock = some 0 ∧ client.Quiet ∧ LockOwed client := by
  have meets : system.StepsMeet KeepsOwed {} [.acquire "jobs" 30, .enter 0, .send 0,
      .decide 0 .queued, .reply 0, .resume 0, .cancel 0] :=
    system.stepsMeet_cons rfl trivial <| system.stepsMeet_cons rfl trivial <|
      system.stepsMeet_cons rfl trivial <| system.stepsMeet_cons rfl trivial <|
      system.stepsMeet_cons rfl trivial <| system.stepsMeet_cons rfl trivial <|
      system.stepsMeet_cons rfl id trivial
  refine ⟨_, rfl, ?_, lockOwed_of_reachable (system.reachableUnder_of_run rfl _ rfl meets)⟩
  intro call isCall
  obtain rfl := List.mem_singleton.mp isCall
  exact Or.inr ⟨rfl, rfl⟩

/-- A call is cancelled before its reply, which then grants the lease at once.
Nothing completes the queued future, and the lock is never released. -/
theorem exists_unowed_lock : ∃ client : LeaseClient, system.Reachable client ∧
    ¬ LockOwed client := by
  refine ⟨_, system.reachable_of_run rfl [.acquire "jobs" 30, .enter 0, .send 0, .cancel 0,
    .decide 0 (.granted 7), .reply 0] rfl, ?_⟩
  intro owed
  obtain ⟨debtor, isDebtor, -⟩ := owed (by
    intro call isCall
    obtain rfl := List.mem_singleton.mp isCall
    exact Or.inr ⟨rfl, rfl⟩) nofun
  cases isDebtor

end LeaseClient

end FitzClient
