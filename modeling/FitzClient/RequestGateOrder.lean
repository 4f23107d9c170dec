import FitzClient.RequestGateSlots
import Mathlib.Data.List.TakeWhile

/-!
# The queue of the request gate

Waiters are numbered as they arrive.  A slot that is given back goes to the
first of them that was not cancelled; a newcomer gets one only while nobody is
queued; somebody is queued only while all slots are in use; and a closed gate
hands out nothing.  None of this rests on the slot account: a slot that is
given back twice only makes `active` smaller than the number of slots in use.
-/

namespace FitzClient.RequestGate

/-- The future of a waiter. -/
def futureOf (gate : RequestGate) (waiter : Nat) : Option WaiterFuture :=
  gate.acquirers[waiter]?.map Acquirer.future

/-- The callers that wait for a slot. -/
def waiting (gate : RequestGate) : Nat :=
  gate.acquirers.countP fun acquirer => acquirer.future = .pending

/-- The slots that somebody owns: callers with a token and granted waiters. -/
def inUse (gate : RequestGate) : Nat :=
  gate.unreleased + gate.grantedUnresumed

/-- What a step may do to the futures: one that is settled stays as it is, and
a slot goes to a waiter only when all older ones are settled. -/
structure Orderly (gate next : RequestGate) : Prop where
  settled : ∀ waiter future, gate.futureOf waiter = some future → future ≠ .pending →
    next.futureOf waiter = some future
  inOrder : ∀ waiter, gate.futureOf waiter = some .pending →
    next.futureOf waiter = some .granted →
      ∀ earlier < waiter, gate.futureOf earlier ≠ some .pending

@[simp]
theorem futureOf_settle (gate : RequestGate) (waiter other : Nat) (future : WaiterFuture) :
    (gate.settle waiter future).futureOf other =
      (gate.futureOf other).map fun before => if waiter = other then future else before := by
  simp only [futureOf, settle, List.getElem?_modify, Option.map_map]
  cases gate.acquirers[other]? with
  | none => rfl
  | some acquirer => by_cases same : waiter = other <;> simp [same]

@[simp]
theorem futureOf_wake (gate : RequestGate) (waiter other : Nat) :
    (gate.wake waiter).futureOf other = gate.futureOf other := by
  simp only [futureOf, wake, List.getElem?_modify]
  cases gate.acquirers[other]? with
  | none => rfl
  | some acquirer => by_cases same : waiter = other <;> simp [same]

theorem waiterDone_eq_false_iff {gate : RequestGate} {waiter : Nat} :
    gate.waiterDone waiter = false ↔ gate.futureOf waiter = some .pending := by
  rw [waiterDone, futureOf]
  cases gate.acquirers[waiter]? with
  | none => simp
  | some acquirer => simp [WaiterFuture.done]

theorem futureOf_eq_some {gate : RequestGate} {waiter : Nat} {future : WaiterFuture} :
    gate.futureOf waiter = some future ↔
      ∃ acquirer, gate.acquirers[waiter]? = some acquirer ∧ acquirer.future = future :=
  Option.map_eq_some_iff

/-- `_release_slot` passes over the settled waiters at the front. -/
theorem releaseSlot_order (gate : RequestGate) :
    (∃ skipped waiter rest, gate.waiters = skipped ++ waiter :: rest ∧
        (∀ other ∈ skipped, gate.futureOf other ≠ some .pending) ∧
        gate.futureOf waiter = some .pending ∧
        gate.releaseSlot = { gate.settle waiter .granted with waiters := rest }) ∨
      (∀ other ∈ gate.waiters, gate.futureOf other ≠ some .pending) ∧
        gate.releaseSlot = { gate with waiters := [], active := gate.active - 1 } := by
  have parts := List.takeWhile_append_dropWhile (p := gate.waiterDone) (l := gate.waiters)
  have passed : ∀ other ∈ gate.waiters.takeWhile gate.waiterDone,
      gate.futureOf other ≠ some .pending := by
    intro other member pending
    have done := List.mem_takeWhile_imp member
    rw [waiterDone_eq_false_iff.mpr pending] at done
    cases done
  cases remaining : gate.waiters.dropWhile gate.waiterDone with
  | nil =>
      rw [remaining, List.append_nil] at parts
      rw [parts] at passed
      exact Or.inr ⟨passed, by simp [releaseSlot, remaining]⟩
  | cons waiter rest =>
      rw [remaining] at parts
      have nonempty : gate.waiters.dropWhile gate.waiterDone ≠ [] := by simp [remaining]
      have head := List.head_dropWhile_not gate.waiterDone nonempty
      have pending : gate.waiterDone waiter = false := by simpa [remaining] using head
      exact Or.inl ⟨_, waiter, rest, parts.symm, passed, waiterDone_eq_false_iff.mp pending,
        by simp [releaseSlot, remaining]⟩

/-- The queue holds the pending waiters in the order of their arrival, and they
wait for slots that are all in use.  `surplus` slots are just being given
back. -/
structure QueueInvariant (surplus : Nat) (gate : RequestGate) : Prop where
  ordered : gate.waiters.Pairwise (· < ·)
  queued : ∀ waiter ∈ gate.waiters, ∃ acquirer, gate.acquirers[waiter]? = some acquirer ∧
    acquirer.future ≠ .granted
  pending : ∀ waiter acquirer, gate.acquirers[waiter]? = some acquirer →
    acquirer.future = .pending → waiter ∈ gate.waiters ∧ acquirer.resumed = false
  bounded : gate.waiters.length ≤ gate.queueSize
  full : gate.waiters ≠ [] → gate.active = gate.maximum
  active_le : gate.active ≤ gate.maximum
  covered : gate.active ≤ gate.inUse + surplus
  closed_empty : gate.closed = true → gate.waiters = []

theorem QueueInvariant.mem_waiters {surplus : Nat} {gate : RequestGate}
    (invariant : gate.QueueInvariant surplus) {waiter : Nat}
    (pending : gate.futureOf waiter = some .pending) : waiter ∈ gate.waiters := by
  obtain ⟨acquirer, found, isPending⟩ := futureOf_eq_some.mp pending
  exact (invariant.pending waiter acquirer found isPending).1

/-- The slot goes to the oldest waiter that is not settled. -/
theorem QueueInvariant.orderly_releaseSlot {surplus : Nat} {gate : RequestGate}
    (invariant : gate.QueueInvariant surplus) : gate.Orderly gate.releaseSlot := by
  rcases gate.releaseSlot_order with ⟨skipped, waiter, rest, queue, passed, pending, released⟩ |
    ⟨passed, released⟩
  · have futures (other : Nat) : gate.releaseSlot.futureOf other =
        (gate.settle waiter .granted).futureOf other := by
      rw [released]
      rfl
    constructor
    · intro other future found settled
      have apart : waiter ≠ other := by
        rintro rfl
        exact settled (Option.some.inj (found.symm.trans pending))
      rw [futures, futureOf_settle, found, Option.map_some, if_neg apart]
    · intro other found granted earlier before isPending
      rw [futures, futureOf_settle, found, Option.map_some, Option.some.injEq] at granted
      by_cases same : waiter = other
      · subst same
        -- an older waiter would stand in front of it
        have ordered := invariant.ordered
        rw [queue] at ordered
        have member := invariant.mem_waiters isPending
        rw [queue, List.mem_append, List.mem_cons] at member
        rcases member with inFront | rfl | behind
        · exact passed earlier inFront isPending
        · exact lt_irrefl _ before
        · have after := (List.pairwise_cons.mp (List.pairwise_append.mp ordered).2.1).1 _ behind
          exact lt_asymm before after
      · rw [if_neg same] at granted
        cases granted
  · have futures (other : Nat) : gate.releaseSlot.futureOf other = gate.futureOf other := by
      rw [released]
      rfl
    constructor
    · intro other future found _
      rw [futures, found]
    · intro other found granted
      rw [futures, found] at granted
      cases granted

/-- `_release_slot` keeps the queue. -/
theorem QueueInvariant.releaseSlot {gate : RequestGate} (invariant : gate.QueueInvariant 1) :
    gate.releaseSlot.QueueInvariant 0 := by
  have covered := invariant.covered
  have active_le := invariant.active_le
  rcases gate.releaseSlot_order with ⟨skipped, waiter, rest, queue, passed, pending, released⟩ |
    ⟨passed, released⟩
  · obtain ⟨acquirer, found, isPending⟩ := futureOf_eq_some.mp pending
    have unresumed := (invariant.pending waiter acquirer found isPending).2
    have granted := grantedUnresumed_settle found unresumed (by simp [isPending])
    have ordered := invariant.ordered
    rw [queue, List.pairwise_append] at ordered
    have nonempty : gate.waiters ≠ [] := by simp [queue]
    rw [released]
    exact
      { ordered := (List.pairwise_cons.mp ordered.2.1).2
        queued := by
          intro other member
          have after := (List.pairwise_cons.mp ordered.2.1).1 other member
          obtain ⟨before, foundBefore, ungranted⟩ :=
            invariant.queued other (by simp [queue, member])
          refine ⟨before, getElem?_modify_eq_some.mpr ⟨before, foundBefore, ?_⟩, ungranted⟩
          rw [if_neg after.ne]
        pending := by
          intro other after foundAfter isPendingAfter
          obtain ⟨before, foundBefore, rfl⟩ := getElem?_modify_eq_some.mp foundAfter
          split_ifs at isPendingAfter with same
          rw [if_neg same]
          obtain ⟨member, unresumedBefore⟩ :=
            invariant.pending other before foundBefore isPendingAfter
          refine ⟨?_, unresumedBefore⟩
          rw [queue, List.mem_append, List.mem_cons] at member
          rcases member with inFront | rfl | behind
          · exact absurd (futureOf_eq_some.mpr ⟨before, foundBefore, isPendingAfter⟩)
              (passed other inFront)
          · exact absurd rfl same
          · exact behind
        bounded := by
          have bounded := invariant.bounded
          rw [queue, List.length_append, List.length_cons] at bounded
          change rest.length ≤ gate.queueSize
          omega
        full := fun _ => invariant.full nonempty
        active_le := active_le
        covered := by
          change gate.active ≤ gate.unreleased + (gate.settle waiter .granted).grantedUnresumed + 0
          rw [granted]
          exact covered
        closed_empty := fun closed => absurd (invariant.closed_empty closed) nonempty }
  · rw [released]
    exact
      { ordered := List.Pairwise.nil
        queued := nofun
        pending := by
          intro other acquirer found isPending
          have member := (invariant.pending other acquirer found isPending).1
          exact absurd (futureOf_eq_some.mpr ⟨acquirer, found, isPending⟩) (passed other member)
        bounded := Nat.zero_le _
        full := fun nonempty => absurd rfl nonempty
        active_le := Nat.le_trans (Nat.sub_le _ _) active_le
        covered := by
          change gate.active - 1 ≤ gate.inUse + 0
          omega
        closed_empty := fun _ => rfl }

/-- A step that grants nothing and settles pending waiters only. -/
theorem orderly_of_ungranted {gate next : RequestGate}
    (kept : ∀ waiter future, gate.futureOf waiter = some future →
      next.futureOf waiter = some future ∨
        future = .pending ∧ next.futureOf waiter ≠ some .granted) : gate.Orderly next where
  settled waiter future found settled :=
    (kept waiter future found).resolve_right fun changed => settled changed.1
  inOrder waiter found granted := by
    rcases kept waiter .pending found with same | ⟨-, ungranted⟩
    · rw [same] at granted
      cases granted
    · exact absurd granted ungranted

theorem Orderly.of_futures_eq {gate middle next : RequestGate}
    (same : ∀ waiter, middle.futureOf waiter = gate.futureOf waiter)
    (orderly : middle.Orderly next) : gate.Orderly next where
  settled waiter future found := orderly.settled waiter future ((same waiter).trans found)
  inOrder waiter found granted earlier before := by
    rw [← same earlier]
    exact orderly.inOrder waiter ((same waiter).trans found) granted earlier before

theorem inUse_releaseToken (gate : RequestGate) : gate.releaseToken.inUse = gate.inUse + 1 := by
  simp [inUse, unreleased, grantedUnresumed, releaseToken, Nat.add_right_comm]

theorem futureOf_concat {gate : RequestGate} {waiter : Nat} {future : WaiterFuture}
    (found : gate.futureOf waiter = some future) (fresh : Acquirer) (queue : List Nat) :
    { gate with waiters := queue, acquirers := gate.acquirers ++ [fresh] }.futureOf waiter =
      some future := by
  obtain ⟨acquirer, inGate, rfl⟩ := futureOf_eq_some.mp found
  exact futureOf_eq_some.mpr
    ⟨acquirer, getElem?_concat_eq_some.mpr (Or.inl inGate), rfl⟩

theorem QueueInvariant.acquire {gate : RequestGate} (invariant : gate.QueueInvariant 0) :
    gate.Orderly gate.acquire.2 ∧ gate.acquire.2.QueueInvariant 0 := by
  have covered := invariant.covered
  have active_le := invariant.active_le
  unfold RequestGate.acquire
  split_ifs with closed free full
  · exact ⟨orderly_of_ungranted fun _ _ => Or.inl, invariant⟩
  · refine ⟨orderly_of_ungranted fun _ _ => Or.inl, ?_⟩
    exact
      { invariant with
        full := fun nonempty => absurd free.2 nonempty
        active_le := free.1
        covered := by
          rw [inUse_releaseToken]
          change gate.active + 1 ≤ gate.inUse + 1 + 0
          omega }
  · exact ⟨orderly_of_ungranted fun _ _ => Or.inl, invariant⟩
  · refine ⟨orderly_of_ungranted fun _ _ found => Or.inl (futureOf_concat found _ _), ?_⟩
    exact
      { ordered := by
          rw [List.pairwise_append]
          refine ⟨invariant.ordered, List.pairwise_singleton _ _, fun waiter member other new => ?_⟩
          obtain ⟨acquirer, found, -⟩ := invariant.queued waiter member
          rw [List.mem_singleton.mp new]
          exact (List.getElem?_eq_some_iff.mp found).1
        queued := by
          intro waiter member
          rcases List.mem_append.mp member with old | new
          · obtain ⟨acquirer, found, ungranted⟩ := invariant.queued waiter old
            exact ⟨acquirer, getElem?_concat_eq_some.mpr (Or.inl found), ungranted⟩
          · rw [List.mem_singleton.mp new]
            exact ⟨{}, getElem?_concat_eq_some.mpr (Or.inr ⟨rfl, rfl⟩), nofun⟩
        pending := by
          intro waiter acquirer found isPending
          rcases getElem?_concat_eq_some.mp found with old | ⟨rfl, rfl⟩
          · obtain ⟨member, unresumed⟩ := invariant.pending waiter acquirer old isPending
            exact ⟨List.mem_append_left _ member, unresumed⟩
          · exact ⟨List.mem_append_right _ (List.mem_singleton_self _), rfl⟩
        bounded := by
          simp only [List.length_append, List.length_singleton]
          omega
        full := by
          intro _
          by_cases empty : gate.waiters = []
          · have notBelow : ¬ gate.active < gate.maximum := fun below => free ⟨below, empty⟩
            change gate.active = gate.maximum
            omega
          · exact invariant.full empty
        active_le := active_le
        covered := by
          have queuedOwnsNone : ({} : Acquirer).ownsSlot = false := rfl
          simpa [inUse, grantedUnresumed, unreleased, queuedOwnsNone] using covered
        closed_empty := fun isClosed => absurd isClosed closed }

/-- An update of one acquirer that neither grants nor makes pending. -/
theorem QueueInvariant.modify {surplus : Nat} {gate : RequestGate}
    (invariant : gate.QueueInvariant 0) {waiter : Nat} (update : Acquirer → Acquirer)
    (grants : ∀ acquirer, (update acquirer).future = .granted → acquirer.future = .granted)
    (waits : ∀ acquirer, gate.acquirers[waiter]? = some acquirer →
      (update acquirer).future = .pending →
        acquirer.future = .pending ∧ (update acquirer).resumed = acquirer.resumed)
    (counted : gate.grantedUnresumed ≤
      (gate.acquirers.modify waiter update).countP Acquirer.ownsSlot + surplus) :
    { gate with acquirers := gate.acquirers.modify waiter update }.QueueInvariant surplus :=
  { invariant with
    queued := by
      intro other member
      obtain ⟨before, found, ungranted⟩ := invariant.queued other member
      refine ⟨_, getElem?_modify_eq_some.mpr ⟨before, found, rfl⟩, ?_⟩
      split_ifs
      · exact fun granted => ungranted (grants before granted)
      · exact ungranted
    pending := by
      intro other after found isPending
      obtain ⟨before, foundBefore, rfl⟩ := getElem?_modify_eq_some.mp found
      by_cases same : waiter = other
      · subst same
        rw [if_pos rfl] at isPending ⊢
        obtain ⟨wasPending, resumed⟩ := waits before foundBefore isPending
        obtain ⟨member, unresumed⟩ := invariant.pending waiter before foundBefore wasPending
        exact ⟨member, resumed.trans unresumed⟩
      · rw [if_neg same] at isPending ⊢
        exact invariant.pending other before foundBefore isPending
    covered := by
      have covered : gate.active ≤ gate.unreleased + gate.grantedUnresumed + 0 := invariant.covered
      change gate.active ≤ gate.unreleased +
        (gate.acquirers.modify waiter update).countP Acquirer.ownsSlot + surplus
      omega }

theorem QueueInvariant.cancel {gate next : RequestGate} (invariant : gate.QueueInvariant 0)
    {waiter : Nat} (stepped : gate.cancel waiter = some next) :
    gate.Orderly next ∧ next.QueueInvariant 0 := by
  unfold RequestGate.cancel at stepped
  cases found : gate.acquirers[waiter]? with
  | none => simp [found] at stepped
  | some acquirer =>
      simp only [found] at stepped
      split_ifs at stepped with resumed done
      · obtain rfl := Option.some.inj stepped
        have same : (gate.acquirers.modify waiter fun acquirer : Acquirer =>
            { acquirer with mustCancel := true }).countP Acquirer.ownsSlot =
              gate.grantedUnresumed := countP_modify_of_eq _ fun _ _ => rfl
        refine ⟨orderly_of_ungranted fun other future foundFuture => Or.inl ?_,
          invariant.modify _ (fun _ => id) (fun _ _ isPending => ⟨isPending, rfl⟩) same.ge⟩
        obtain ⟨before, foundBefore, rfl⟩ := futureOf_eq_some.mp foundFuture
        refine futureOf_eq_some.mpr ⟨_, getElem?_modify_eq_some.mpr ⟨before, foundBefore, rfl⟩, ?_⟩
        split_ifs <;> rfl
      · obtain rfl := Option.some.inj stepped
        have pending : acquirer.future = .pending := by
          simpa [WaiterFuture.done] using done
        have same : (gate.settle waiter .cancelled).grantedUnresumed = gate.grantedUnresumed := by
          refine countP_modify_of_eq _ fun cell foundCell => ?_
          obtain rfl : acquirer = cell := by simpa [found] using foundCell
          simp only [Acquirer.ownsSlot, pending]
          rfl
        refine ⟨orderly_of_ungranted fun other future foundFuture => ?_,
          invariant.modify _ (fun _ granted => by cases granted)
            (fun _ _ isPending => by cases isPending) same.ge⟩
        rw [futureOf_settle, foundFuture, Option.map_some]
        by_cases same : waiter = other
        · subst same
          rw [futureOf, found, Option.map_some, Option.some.injEq, pending] at foundFuture
          exact Or.inr ⟨foundFuture.symm, by simp⟩
        · rw [if_neg same]
          exact Or.inl rfl

/-- A task that runs again may hold a slot outside the account. -/
theorem QueueInvariant.wake {gate : RequestGate} (invariant : gate.QueueInvariant 0)
    {waiter : Nat} {acquirer : Acquirer} (found : gate.acquirers[waiter]? = some acquirer)
    (settled : acquirer.future ≠ .pending) : (gate.wake waiter).QueueInvariant 1 := by
  refine invariant.modify _ (fun _ => id) (fun cell foundCell isPending => ?_) ?_
  · obtain rfl : acquirer = cell := by simpa [found] using foundCell
    exact absurd isPending settled
  · have counted := countP_modify Acquirer.ownsSlot
      (fun acquirer => { acquirer with resumed := true }) found
    have atMost := Bool.toNat_le acquirer.ownsSlot
    rw [grantedUnresumed]
    omega

/-- A cancelled waiter that still finds itself in the queue leaves it. -/
theorem QueueInvariant.wake_queued {gate : RequestGate} (invariant : gate.QueueInvariant 0)
    {waiter : Nat} {acquirer : Acquirer} (found : gate.acquirers[waiter]? = some acquirer)
    (settled : acquirer.future ≠ .pending) (member : waiter ∈ gate.waiters) :
    { gate.wake waiter with waiters := gate.waiters.erase waiter }.QueueInvariant 0 := by
  obtain ⟨cell, foundCell, ungranted⟩ := invariant.queued waiter member
  obtain rfl : acquirer = cell := by simpa [found] using foundCell
  have woken : (gate.wake waiter).QueueInvariant 0 := by
    refine invariant.modify _ (fun _ => id) (fun cell foundCell isPending => ?_)
      (grantedUnresumed_wake found ungranted).ge
    obtain rfl : acquirer = cell := by simpa [found] using foundCell
    exact absurd isPending settled
  have fewer : List.Sublist (gate.waiters.erase waiter) gate.waiters := List.erase_sublist
  exact
    { woken with
      ordered := invariant.ordered.sublist fewer
      queued := fun other inQueue => woken.queued other (fewer.mem inQueue)
      pending := by
        intro other after foundAfter isPending
        obtain ⟨inQueue, unresumed⟩ := woken.pending other after foundAfter isPending
        have apart : other ≠ waiter := by
          rintro rfl
          obtain ⟨before, foundBefore, rfl⟩ := getElem?_modify_eq_some.mp foundAfter
          obtain rfl : acquirer = before := by simpa [found] using foundBefore
          rw [if_pos rfl] at isPending
          exact settled isPending
        exact ⟨(List.mem_erase_of_ne apart).mpr inQueue, unresumed⟩
      bounded := fewer.length_le.trans invariant.bounded
      full := fun nonempty => invariant.full fun empty => nonempty (by simp [empty])
      closed_empty := fun closed => by simp [invariant.closed_empty closed] }

theorem QueueInvariant.resume {gate : RequestGate} (invariant : gate.QueueInvariant 0)
    {waiter : Nat} {result : Option Nat × RequestGate}
    (resumed : gate.resume waiter = some result) :
    gate.Orderly result.2 ∧ result.2.QueueInvariant 0 := by
  have woken : ∀ other, (gate.wake waiter).futureOf other = gate.futureOf other :=
    futureOf_wake gate waiter
  have unchanged : gate.Orderly (gate.wake waiter) :=
    orderly_of_ungranted fun other future found => Or.inl ((woken other).trans found)
  obtain ⟨acquirer, found, unresumed, outcome⟩ := resume_cases resumed
  have settled : acquirer.future ≠ .pending := by
    intro pending
    simp [RequestGate.resume, found, pending] at resumed
  have surplus := invariant.wake found settled
  rcases outcome with ⟨granted, released⟩ | ⟨granted, -, rfl⟩ | ⟨queued, rfl⟩ | ⟨dropped, rfl⟩
  · rw [released]
    exact ⟨surplus.orderly_releaseSlot.of_futures_eq woken, surplus.releaseSlot⟩
  · refine ⟨⟨unchanged.settled, unchanged.inOrder⟩, { surplus with covered := ?_ }⟩
    rw [inUse_releaseToken]
    exact surplus.covered
  · exact ⟨⟨unchanged.settled, unchanged.inOrder⟩, invariant.wake_queued found settled queued⟩
  · exact ⟨surplus.orderly_releaseSlot.of_futures_eq woken, surplus.releaseSlot⟩

theorem QueueInvariant.release {gate next : RequestGate} (invariant : gate.QueueInvariant 0)
    {token : Nat} (stepped : gate.release token = some next) :
    gate.Orderly next ∧ next.QueueInvariant 0 := by
  unfold RequestGate.release at stepped
  cases found : gate.released[token]? with
  | none => simp [found] at stepped
  | some alreadyReleased =>
      simp only [found] at stepped
      cases alreadyReleased with
      | true =>
          obtain rfl := Option.some.inj stepped
          exact ⟨orderly_of_ungranted fun _ _ => Or.inl, invariant⟩
      | false =>
          obtain rfl := Option.some.inj stepped
          obtain ⟨inRange, held⟩ := List.getElem?_eq_some_iff.mp found
          have counted : gate.unreleased ≤
              ({ gate with released := gate.released.set token true }).unreleased + 1 := by
            simp only [unreleased, List.count_set inRange, held, beq_self_eq_true, if_true]
            omega
          have surplus : { gate with
              released := gate.released.set token true }.QueueInvariant 1 :=
            { invariant with
              covered := by
                have covered : gate.active ≤ gate.unreleased + gate.grantedUnresumed + 0 :=
                  invariant.covered
                change gate.active ≤ _ + gate.grantedUnresumed + 1
                omega }
          have orderly := surplus.orderly_releaseSlot
          exact ⟨⟨orderly.settled, orderly.inOrder⟩, surplus.releaseSlot⟩

theorem QueueInvariant.close {gate : RequestGate} (invariant : gate.QueueInvariant 0) :
    gate.Orderly gate.close ∧ gate.close.QueueInvariant 0 := by
  unfold RequestGate.close
  split_ifs with closed
  · exact ⟨orderly_of_ungranted fun _ _ => Or.inl, invariant⟩
  have after {waiter : Nat} {acquirer : Acquirer}
      (found : gate.acquirers[waiter]? = some acquirer) :
      (gate.acquirers.mapIdx fun waiter acquirer =>
        if waiter ∈ gate.waiters ∧ acquirer.future = .pending then
          { acquirer with future := .failed }
        else acquirer)[waiter]? =
          some (if acquirer.future = .pending then { acquirer with future := .failed }
            else acquirer) := by
    rw [List.getElem?_mapIdx, found, Option.map_some]
    by_cases isPending : acquirer.future = .pending
    · have queued := (invariant.pending waiter acquirer found isPending).1
      rw [if_pos isPending, if_pos ⟨queued, isPending⟩]
    · rw [if_neg isPending, if_neg fun failing => isPending failing.2]
  constructor
  · refine orderly_of_ungranted fun waiter future found => ?_
    obtain ⟨acquirer, inGate, rfl⟩ := futureOf_eq_some.mp found
    by_cases isPending : acquirer.future = .pending
    · refine Or.inr ⟨isPending, ?_⟩
      rw [futureOf, after inGate, if_pos isPending]
      simp
    · left
      rw [futureOf, after inGate, if_neg isPending]
      rfl
  · have failOwnsNone : ∀ (waiter : Nat) (acquirer : Acquirer),
        (if waiter ∈ gate.waiters ∧ acquirer.future = .pending then
          { acquirer with future := .failed } else acquirer).ownsSlot = acquirer.ownsSlot := by
      intro waiter acquirer
      split_ifs with failing
      · simp only [Acquirer.ownsSlot, failing.2]
        rfl
      · rfl
    exact
      { ordered := List.Pairwise.nil
        queued := by rintro _ ⟨⟩
        pending := by
          intro waiter acquirer found isPending
          rw [List.getElem?_mapIdx] at found
          obtain ⟨before, foundBefore, rfl⟩ := Option.map_eq_some_iff.mp found
          split_ifs at isPending with failing
          exact absurd ⟨(invariant.pending waiter before foundBefore isPending).1, isPending⟩
            failing
        bounded := Nat.zero_le _
        full := fun nonempty => absurd rfl nonempty
        active_le := invariant.active_le
        covered := by
          have same := countP_mapIdx_of_eq Acquirer.ownsSlot gate.acquirers failOwnsNone
          simpa [inUse, grantedUnresumed, unreleased, same] using invariant.covered
        closed_empty := fun _ => rfl }

/-- Every step keeps the queue and is orderly. -/
theorem QueueInvariant.step {gate next : RequestGate} (invariant : gate.QueueInvariant 0)
    {action : GateAction} (stepped : gate.step action = some next) :
    gate.Orderly next ∧ next.QueueInvariant 0 := by
  cases action with
  | acquire =>
      obtain rfl := Option.some.inj stepped
      exact invariant.acquire
  | cancel waiter => exact invariant.cancel stepped
  | resume waiter =>
      obtain ⟨result, resumed, rfl⟩ := Option.map_eq_some_iff.mp stepped
      exact invariant.resume resumed
  | release token => exact invariant.release stepped
  | close =>
      obtain rfl := Option.some.inj stepped
      exact invariant.close

end FitzClient.RequestGate
