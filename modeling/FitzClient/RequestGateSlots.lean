import FitzClient.IndexedCells
import FitzClient.RequestGate

/-!
# Slot accounting of the request gate

`active` is meant to count the slots that somebody owns: a caller with an
unreleased token, or a waiter that was granted a slot and has not run yet.
Every path of the gate keeps this account except one.  A waiter that was
cancelled while queued is dropped by the next `_release_slot`, and a queued
waiter is dropped by `close`; neither owns a slot, but when its task resumes it
no longer finds itself in the queue and gives a slot back that it never had.

The account is an invariant of every run in which such a waiter resumes only
while no slot is active, and each other resumption of such a waiter breaks it.
-/

namespace FitzClient.RequestGate

/-- No more than `maximum` callers hold a token, and `active` counts exactly
the owned slots. -/
structure SlotsAccounted (gate : RequestGate) : Prop where
  bounded : gate.unreleased ≤ gate.maximum
  active_eq : gate.active = gate.unreleased + gate.grantedUnresumed

instance (gate : RequestGate) : Decidable gate.SlotsAccounted :=
  decidable_of_iff
    (gate.unreleased ≤ gate.maximum ∧
      gate.active = gate.unreleased + gate.grantedUnresumed)
    ⟨fun ⟨bounded, active_eq⟩ => ⟨bounded, active_eq⟩,
      fun accounted => ⟨accounted.bounded, accounted.active_eq⟩⟩

/-- A waiter whose future was settled without a grant and which is no longer
queued: `_release_slot` popped it after its cancellation, or `close` failed
it. -/
def Dropped (gate : RequestGate) (waiter : Nat) : Prop :=
  waiter ∉ gate.waiters ∧
    ∃ acquirer, gate.acquirers[waiter]? = some acquirer ∧ acquirer.future ≠ .granted

/-- The condition of the accounting theorem: a dropped waiter resumes only
while no slot is active. -/
def KeepsAccount (gate : RequestGate) : GateAction → Prop
  | .resume waiter => gate.Dropped waiter → gate.active = 0
  | _ => True

/-- The account with `surplus` slots that are just being given back. -/
structure SlotInvariant (surplus : Nat) (gate : RequestGate) : Prop where
  active_eq : gate.active = gate.unreleased + gate.grantedUnresumed + surplus
  active_le : gate.active ≤ gate.maximum
  full : gate.waiters ≠ [] → gate.active = gate.maximum
  queued : ∀ waiter ∈ gate.waiters, ∃ acquirer, gate.acquirers[waiter]? = some acquirer ∧
    acquirer.resumed = false ∧ (acquirer.future = .pending ∨ acquirer.future = .cancelled)
  nodup : gate.waiters.Nodup
  closed_empty : gate.closed = true → gate.waiters = []

theorem SlotInvariant.accounted {gate : RequestGate} (invariant : gate.SlotInvariant 0) :
    gate.SlotsAccounted where
  bounded := by
    have := invariant.active_eq
    have := invariant.active_le
    omega
  active_eq := invariant.active_eq

/-- The two outcomes of the loop in `_release_slot`. -/
theorem releaseSlot_cases (gate : RequestGate) :
    (∃ waiter rest, (waiter :: rest) <:+ gate.waiters ∧ gate.waiterDone waiter = false ∧
        gate.releaseSlot = { gate.settle waiter .granted with waiters := rest }) ∨
      gate.releaseSlot = { gate with waiters := [], active := gate.active - 1 } := by
  cases remaining : gate.waiters.dropWhile gate.waiterDone with
  | nil => exact Or.inr (by simp [releaseSlot, remaining])
  | cons waiter rest =>
      have suffix : (waiter :: rest) <:+ gate.waiters :=
        remaining ▸ List.dropWhile_suffix gate.waiterDone
      have notDone : gate.waiterDone waiter = false := by
        have nonempty : gate.waiters.dropWhile gate.waiterDone ≠ [] := by simp [remaining]
        have head := List.head_dropWhile_not gate.waiterDone nonempty
        simpa [remaining] using head
      exact Or.inl ⟨waiter, rest, suffix, notDone, by simp [releaseSlot, remaining]⟩

/-- Handing the slot to a pending waiter makes one more waiter own a slot. -/
theorem grantedUnresumed_settle {gate : RequestGate} {waiter : Nat} {acquirer : Acquirer}
    (found : gate.acquirers[waiter]? = some acquirer) (unresumed : acquirer.resumed = false)
    (ungranted : acquirer.future ≠ .granted) :
    (gate.settle waiter .granted).grantedUnresumed = gate.grantedUnresumed + 1 := by
  have counted := countP_modify Acquirer.ownsSlot
    (fun acquirer => { acquirer with future := .granted }) found
  have before : acquirer.ownsSlot = false := by simp [Acquirer.ownsSlot, ungranted]
  have after : ({ acquirer with future := .granted } : Acquirer).ownsSlot = true := by
    simp [Acquirer.ownsSlot, unresumed]
  rw [before, after] at counted
  exact counted

/-- A slot that is given back always leaves the account: it moves to a waiter
while `active` stays, or `active` drops. -/
theorem releaseSlot_balance {surplus : Nat} {gate : RequestGate}
    (invariant : gate.SlotInvariant surplus) (positive : 0 < gate.active) :
    gate.releaseSlot.active + gate.grantedUnresumed + 1 =
      gate.active + gate.releaseSlot.grantedUnresumed := by
  rcases gate.releaseSlot_cases with ⟨waiter, rest, suffix, notDone, released⟩ | released
  · obtain ⟨acquirer, found, unresumed, pending⟩ :=
      invariant.queued waiter (suffix.mem (by simp))
    have ungranted : acquirer.future ≠ .granted := by
      rcases pending with pending | pending <;> simp [pending]
    have granted := grantedUnresumed_settle found unresumed ungranted
    rw [released]
    change gate.active + gate.grantedUnresumed + 1 =
      gate.active + (gate.settle waiter .granted).grantedUnresumed
    omega
  · rw [released]
    change gate.active - 1 + gate.grantedUnresumed + 1 = gate.active + gate.grantedUnresumed
    omega

/-- With nobody waiting and nothing active there is no slot to give back. -/
theorem releaseSlot_of_idle {gate : RequestGate} (empty : gate.waiters = [])
    (idle : gate.active = 0) : gate.releaseSlot = gate := by
  cases gate
  simp_all [RequestGate.releaseSlot]

@[simp]
theorem releaseSlot_closed (gate : RequestGate) : gate.releaseSlot.closed = gate.closed := by
  rcases gate.releaseSlot_cases with ⟨_, _, _, _, released⟩ | released
  · rw [released]
    rfl
  · rw [released]

@[simp]
theorem releaseSlot_released (gate : RequestGate) :
    gate.releaseSlot.released = gate.released := by
  rcases gate.releaseSlot_cases with ⟨_, _, _, _, released⟩ | released
  · rw [released]; rfl
  · rw [released]

@[simp]
theorem releaseSlot_maximum (gate : RequestGate) :
    gate.releaseSlot.maximum = gate.maximum := by
  rcases gate.releaseSlot_cases with ⟨_, _, _, _, released⟩ | released
  · rw [released]; rfl
  · rw [released]

@[simp]
theorem releaseSlot_unreleased (gate : RequestGate) :
    gate.releaseSlot.unreleased = gate.unreleased := by
  simp [unreleased]

/-- `_release_slot` settles one surplus slot. -/
theorem SlotInvariant.releaseSlot {gate : RequestGate} (invariant : gate.SlotInvariant 1) :
    gate.releaseSlot.SlotInvariant 0 := by
  have active_eq := invariant.active_eq
  have balance := releaseSlot_balance invariant (by omega)
  have active_eq' : gate.releaseSlot.active =
      gate.releaseSlot.unreleased + gate.releaseSlot.grantedUnresumed + 0 := by
    rw [releaseSlot_unreleased]
    omega
  rcases gate.releaseSlot_cases with ⟨waiter, rest, suffix, notDone, released⟩ | released
  · have nonempty : gate.waiters ≠ [] := by
      rintro empty
      simp [empty] at suffix
    have member : ∀ other ∈ rest, other ∈ gate.waiters := fun other otherMem =>
      suffix.mem (by simp [otherMem])
    have nodup : (waiter :: rest).Nodup := suffix.sublist.nodup invariant.nodup
    rw [released] at active_eq' ⊢
    exact
      { active_eq := active_eq'
        active_le := invariant.active_le
        full := fun _ => invariant.full nonempty
        queued := by
          intro other otherMem
          have different : waiter ≠ other := by
            rintro rfl
            exact (List.nodup_cons.mp nodup).1 otherMem
          simpa [settle, List.getElem?_modify, different] using
            invariant.queued other (member other otherMem)
        nodup := (List.nodup_cons.mp nodup).2
        closed_empty := fun closed => (nonempty (invariant.closed_empty closed)).elim }
  · have active_le := invariant.active_le
    rw [released] at active_eq' ⊢
    exact
      { active_eq := active_eq'
        active_le := by simp only; omega
        full := fun nonempty => (nonempty rfl).elim
        queued := fun other otherMem => by simp at otherMem
        nodup := List.nodup_nil
        closed_empty := fun _ => rfl }

/-- An update of one acquirer that is not queued leaves the queue's
description alone. -/
theorem SlotInvariant.queued_modify {surplus : Nat} {gate : RequestGate}
    (invariant : gate.SlotInvariant surplus) {waiter : Nat} (unqueued : waiter ∉ gate.waiters)
    (update : Acquirer → Acquirer) :
    ∀ other ∈ gate.waiters, ∃ acquirer,
      (gate.acquirers.modify waiter update)[other]? = some acquirer ∧
        acquirer.resumed = false ∧
          (acquirer.future = .pending ∨ acquirer.future = .cancelled) := by
  intro other otherMem
  have different : waiter ≠ other := by
    rintro rfl
    exact unqueued otherMem
  simpa [List.getElem?_modify, different] using invariant.queued other otherMem

theorem SlotInvariant.unqueued_of_granted {surplus : Nat} {gate : RequestGate}
    (invariant : gate.SlotInvariant surplus) {waiter : Nat} {acquirer : Acquirer}
    (found : gate.acquirers[waiter]? = some acquirer) (granted : acquirer.future = .granted) :
    waiter ∉ gate.waiters := by
  intro member
  obtain ⟨queued, foundQueued, -, unsettled⟩ := invariant.queued waiter member
  obtain rfl : acquirer = queued := by simpa [found] using foundQueued
  simp [granted] at unsettled

/-- A granted waiter that runs again holds one slot outside the account. -/
theorem SlotInvariant.wake_granted {gate : RequestGate} (invariant : gate.SlotInvariant 0)
    {waiter : Nat} {acquirer : Acquirer} (found : gate.acquirers[waiter]? = some acquirer)
    (unresumed : acquirer.resumed = false) (granted : acquirer.future = .granted) :
    (gate.wake waiter).SlotInvariant 1 where
  active_eq := by
    have counted := countP_modify Acquirer.ownsSlot
      (fun acquirer => { acquirer with resumed := true }) found
    have before : acquirer.ownsSlot = true := by simp [Acquirer.ownsSlot, granted, unresumed]
    have after : ({ acquirer with resumed := true } : Acquirer).ownsSlot = false := by
      simp [Acquirer.ownsSlot]
    rw [before, after] at counted
    have active_eq := invariant.active_eq
    change gate.active = gate.unreleased + (gate.wake waiter).grantedUnresumed + 1
    change (gate.wake waiter).grantedUnresumed + 1 = gate.grantedUnresumed at counted
    omega
  active_le := invariant.active_le
  full := invariant.full
  queued := invariant.queued_modify (invariant.unqueued_of_granted found granted) _
  nodup := invariant.nodup
  closed_empty := invariant.closed_empty

theorem grantedUnresumed_wake {gate : RequestGate} {waiter : Nat} {acquirer : Acquirer}
    (found : gate.acquirers[waiter]? = some acquirer) (ungranted : acquirer.future ≠ .granted) :
    (gate.wake waiter).grantedUnresumed = gate.grantedUnresumed := by
  refine countP_modify_of_eq _ fun cell foundCell => ?_
  obtain rfl : acquirer = cell := by simpa [found] using foundCell
  simp [Acquirer.ownsSlot, ungranted]

/-- A waiter without a slot that runs again does not touch the account. -/
theorem SlotInvariant.wake_dropped {gate : RequestGate} (invariant : gate.SlotInvariant 0)
    {waiter : Nat} {acquirer : Acquirer} (found : gate.acquirers[waiter]? = some acquirer)
    (ungranted : acquirer.future ≠ .granted) (unqueued : waiter ∉ gate.waiters) :
    (gate.wake waiter).SlotInvariant 0 where
  active_eq := by
    have active_eq := invariant.active_eq
    have same := grantedUnresumed_wake found ungranted
    change gate.active = gate.unreleased + (gate.wake waiter).grantedUnresumed + 0
    omega
  active_le := invariant.active_le
  full := invariant.full
  queued := invariant.queued_modify unqueued _
  nodup := invariant.nodup
  closed_empty := invariant.closed_empty

/-- A cancelled waiter that still finds itself in the queue leaves it. -/
theorem SlotInvariant.wake_queued {gate : RequestGate} (invariant : gate.SlotInvariant 0)
    {waiter : Nat} {acquirer : Acquirer} (found : gate.acquirers[waiter]? = some acquirer)
    (ungranted : acquirer.future ≠ .granted) :
    { gate.wake waiter with waiters := gate.waiters.erase waiter }.SlotInvariant 0 where
  active_eq := by
    have active_eq := invariant.active_eq
    have same := grantedUnresumed_wake found ungranted
    change gate.active = gate.unreleased + (gate.wake waiter).grantedUnresumed + 0
    omega
  active_le := invariant.active_le
  full := by
    intro nonempty
    refine invariant.full ?_
    rintro empty
    simp [empty] at nonempty
  queued := by
    intro other otherMem
    obtain ⟨different, member⟩ := (invariant.nodup.mem_erase_iff).mp otherMem
    simpa [wake, List.getElem?_modify, different.symm] using invariant.queued other member
  nodup := invariant.nodup.erase waiter
  closed_empty := by
    intro closed
    simp [invariant.closed_empty closed]

theorem SlotInvariant.acquire {gate : RequestGate} (invariant : gate.SlotInvariant 0) :
    gate.acquire.2.SlotInvariant 0 := by
  have active_eq := invariant.active_eq
  unfold RequestGate.acquire
  split_ifs with closed free full
  · exact invariant
  · obtain ⟨below, empty⟩ := free
    have unreleased_eq :
        ({ gate with active := gate.active + 1 }.releaseToken).unreleased =
          gate.unreleased + 1 := by
      simp [unreleased, releaseToken]
    exact
      { active_eq := by
          rw [unreleased_eq]
          change gate.active + 1 = gate.unreleased + 1 + gate.grantedUnresumed + 0
          omega
        active_le := below
        full := fun nonempty => (nonempty empty).elim
        queued := invariant.queued
        nodup := invariant.nodup
        closed_empty := invariant.closed_empty }
  · exact invariant
  · have fresh : gate.acquirers.length ∉ gate.waiters := by
      intro member
      obtain ⟨acquirer, found, -⟩ := invariant.queued _ member
      simp at found
    exact
      { active_eq := by
          have queuedOwnsNone : ({} : Acquirer).ownsSlot = false := rfl
          simpa [grantedUnresumed, unreleased, queuedOwnsNone] using active_eq
        active_le := invariant.active_le
        full := by
          intro _
          by_cases empty : gate.waiters = []
          · have active_le := invariant.active_le
            have notBelow : ¬ gate.active < gate.maximum := fun below => free ⟨below, empty⟩
            change gate.active = gate.maximum
            omega
          · exact invariant.full empty
        queued := by
          intro waiter member
          rcases List.mem_append.mp member with old | new
          · obtain ⟨acquirer, found, unsettled⟩ := invariant.queued waiter old
            exact ⟨acquirer, getElem?_concat_eq_some.mpr (Or.inl found), unsettled⟩
          · obtain rfl : waiter = gate.acquirers.length := by simpa using new
            exact ⟨{}, by simp, rfl, Or.inl rfl⟩
        nodup := by
          simpa [List.nodup_append, List.nodup_cons] using
            ⟨invariant.nodup, fun waiter member equal => fresh (equal ▸ member)⟩
        closed_empty := fun isClosed => (closed isClosed).elim }

theorem SlotInvariant.cancel {gate next : RequestGate} (invariant : gate.SlotInvariant 0)
    {waiter : Nat} (stepped : gate.cancel waiter = some next) : next.SlotInvariant 0 := by
  unfold RequestGate.cancel at stepped
  cases found : gate.acquirers[waiter]? with
  | none => simp [found] at stepped
  | some acquirer =>
      simp only [found] at stepped
      split_ifs at stepped with resumed done
      · obtain rfl := Option.some.inj stepped
        exact
          { active_eq := by
              have same : (gate.acquirers.modify waiter fun acquirer : Acquirer =>
                  { acquirer with mustCancel := true }).countP Acquirer.ownsSlot =
                  gate.grantedUnresumed :=
                countP_modify_of_eq _ fun _ _ => rfl
              simpa [grantedUnresumed, unreleased, same] using invariant.active_eq
            active_le := invariant.active_le
            full := invariant.full
            queued := by
              intro other otherMem
              obtain ⟨queued, foundQueued, unresumed, unsettled⟩ := invariant.queued other otherMem
              refine ⟨_, getElem?_modify_eq_some.mpr ⟨queued, foundQueued, rfl⟩, ?_, ?_⟩
              · split_ifs <;> exact unresumed
              · split_ifs <;> exact unsettled
            nodup := invariant.nodup
            closed_empty := invariant.closed_empty }
      · obtain rfl := Option.some.inj stepped
        have pending : acquirer.future = .pending := by
          simpa [WaiterFuture.done] using done
        exact
          { active_eq := by
              have same : (gate.settle waiter .cancelled).grantedUnresumed =
                  gate.grantedUnresumed := by
                refine countP_modify_of_eq _ fun cell foundCell => ?_
                obtain rfl : acquirer = cell := by simpa [found] using foundCell
                simp only [Acquirer.ownsSlot, pending]
                rfl
              have active_eq := invariant.active_eq
              change gate.active =
                gate.unreleased + (gate.settle waiter .cancelled).grantedUnresumed
              omega
            active_le := invariant.active_le
            full := invariant.full
            queued := by
              intro other otherMem
              obtain ⟨queued, foundQueued, unresumed, unsettled⟩ := invariant.queued other otherMem
              refine ⟨_, getElem?_modify_eq_some.mpr ⟨queued, foundQueued, rfl⟩, ?_, ?_⟩
              · split_ifs <;> exact unresumed
              · split_ifs
                · exact Or.inr rfl
                · exact unsettled
            nodup := invariant.nodup
            closed_empty := invariant.closed_empty }

theorem SlotInvariant.release {gate next : RequestGate} (invariant : gate.SlotInvariant 0)
    {token : Nat} (stepped : gate.release token = some next) : next.SlotInvariant 0 := by
  unfold RequestGate.release at stepped
  cases found : gate.released[token]? with
  | none => simp [found] at stepped
  | some alreadyReleased =>
      simp only [found] at stepped
      cases alreadyReleased with
      | true =>
          obtain rfl := Option.some.inj stepped
          exact invariant
      | false =>
          obtain rfl := Option.some.inj stepped
          obtain ⟨inRange, held⟩ := List.getElem?_eq_some_iff.mp found
          have counted : gate.unreleased =
              ({ gate with released := gate.released.set token true }).unreleased + 1 := by
            have positive : 0 < gate.released.count false :=
              List.count_pos_iff.mpr (held ▸ List.getElem_mem inRange)
            simp only [unreleased, List.count_set inRange, held, beq_self_eq_true, if_true]
            simp
            omega
          refine SlotInvariant.releaseSlot
            { invariant with active_eq := ?_ }
          have active_eq := invariant.active_eq
          change gate.active = _ + gate.grantedUnresumed + 1
          omega

theorem SlotInvariant.close {gate : RequestGate} (invariant : gate.SlotInvariant 0) :
    gate.close.SlotInvariant 0 := by
  unfold RequestGate.close
  split_ifs with closed
  · exact invariant
  · exact
      { active_eq := by
          have failOwnsNone : ∀ (waiter : Nat) (acquirer : Acquirer),
              (if waiter ∈ gate.waiters ∧ acquirer.future = .pending then
                { acquirer with future := .failed } else acquirer).ownsSlot =
                  acquirer.ownsSlot := by
            intro waiter acquirer
            split_ifs with failing
            · simp only [Acquirer.ownsSlot, failing.2]
              rfl
            · rfl
          have same := countP_mapIdx_of_eq Acquirer.ownsSlot gate.acquirers failOwnsNone
          simpa [grantedUnresumed, unreleased, same] using invariant.active_eq
        active_le := invariant.active_le
        full := fun nonempty => (nonempty rfl).elim
        queued := fun waiter member => by simp at member
        nodup := List.nodup_nil
        closed_empty := fun _ => rfl }

/-- What a resuming waiter does, for each way its future was settled. -/
theorem resume_cases {gate : RequestGate} {waiter : Nat} {result : Option Nat × RequestGate}
    (resumed : gate.resume waiter = some result) :
    ∃ acquirer, gate.acquirers[waiter]? = some acquirer ∧ acquirer.resumed = false ∧
      (acquirer.future = .granted ∧ result.2 = (gate.wake waiter).releaseSlot ∨
        acquirer.future = .granted ∧ gate.closed = false ∧
          result = (some gate.released.length, (gate.wake waiter).releaseToken) ∨
        waiter ∈ gate.waiters ∧
          result = (none, { gate.wake waiter with waiters := gate.waiters.erase waiter }) ∨
        gate.Dropped waiter ∧ result = (none, (gate.wake waiter).releaseSlot)) := by
  unfold RequestGate.resume at resumed
  cases found : gate.acquirers[waiter]? with
  | none => simp [found] at resumed
  | some acquirer =>
      simp only [found] at resumed
      split_ifs at resumed with suspended granted closed queued
      · obtain rfl := Option.some.inj resumed
        exact ⟨acquirer, rfl, by simp_all, Or.inl ⟨granted.1, rfl⟩⟩
      · obtain rfl := Option.some.inj resumed
        exact ⟨acquirer, rfl, by simp_all,
          Or.inr (Or.inl ⟨granted.1, by simpa using closed, rfl⟩)⟩
      · obtain rfl := Option.some.inj resumed
        exact ⟨acquirer, rfl, by simp_all, Or.inr (Or.inr (Or.inl ⟨queued, rfl⟩))⟩
      · obtain rfl := Option.some.inj resumed
        refine ⟨acquirer, rfl, by simp_all, ?_⟩
        by_cases reserved : acquirer.future = .granted
        · exact Or.inl ⟨reserved, rfl⟩
        · exact Or.inr (Or.inr (Or.inr ⟨⟨queued, acquirer, found, reserved⟩, rfl⟩))

theorem SlotInvariant.resume {gate : RequestGate} (invariant : gate.SlotInvariant 0)
    (positive : 1 ≤ gate.maximum) {waiter : Nat} {result : Option Nat × RequestGate}
    (keeps : gate.KeepsAccount (.resume waiter))
    (resumed : gate.resume waiter = some result) : result.2.SlotInvariant 0 := by
  obtain ⟨acquirer, found, unresumed, outcome⟩ := resume_cases resumed
  rcases outcome with ⟨granted, released⟩ | ⟨granted, -, rfl⟩ | ⟨queued, rfl⟩ | ⟨dropped, rfl⟩
  · rw [released]
    exact (invariant.wake_granted found unresumed granted).releaseSlot
  · have woken := invariant.wake_granted found unresumed granted
    exact
      { woken with
        active_eq := by
          have active_eq := woken.active_eq
          have unreleased_eq : (gate.wake waiter).releaseToken.unreleased =
              (gate.wake waiter).unreleased + 1 := by
            simp [unreleased, releaseToken]
          rw [unreleased_eq]
          change (gate.wake waiter).active = _ + (gate.wake waiter).grantedUnresumed + 0
          omega }
  · obtain ⟨queuedAcquirer, foundQueued, -, unsettled⟩ := invariant.queued waiter queued
    obtain rfl : acquirer = queuedAcquirer := by simpa [found] using foundQueued
    refine invariant.wake_queued found ?_
    rcases unsettled with pending | cancelled
    · simp [pending]
    · simp [cancelled]
  · -- nothing is active, hence nobody waits and there is nothing to give back
    have inactive : gate.active = 0 := keeps dropped
    obtain ⟨unqueued, cell, foundCell, ungranted⟩ := dropped
    obtain rfl : acquirer = cell := by simpa [found] using foundCell
    have woken := invariant.wake_dropped found ungranted unqueued
    have empty : (gate.wake waiter).waiters = [] := by
      by_contra nonempty
      have full : gate.active = gate.maximum := woken.full nonempty
      omega
    rw [releaseSlot_of_idle empty inactive]
    exact woken

theorem step_maximum {gate next : RequestGate} {action : GateAction}
    (stepped : gate.step action = some next) : next.maximum = gate.maximum := by
  cases action with
  | acquire =>
      obtain rfl := Option.some.inj stepped
      unfold RequestGate.acquire
      split_ifs <;> rfl
  | cancel waiter =>
      change gate.cancel waiter = some next at stepped
      unfold RequestGate.cancel at stepped
      cases found : gate.acquirers[waiter]? with
      | none => simp [found] at stepped
      | some acquirer =>
          simp only [found] at stepped
          split_ifs at stepped <;> obtain rfl := Option.some.inj stepped <;> rfl
  | resume waiter =>
      obtain ⟨result, resumed, rfl⟩ := Option.map_eq_some_iff.mp stepped
      obtain ⟨_, _, _, ⟨_, released⟩ | ⟨_, _, rfl⟩ | ⟨_, rfl⟩ | ⟨_, rfl⟩⟩ := resume_cases resumed
      · rw [released, releaseSlot_maximum]
        rfl
      · rfl
      · rfl
      · exact releaseSlot_maximum _
  | release token =>
      change gate.release token = some next at stepped
      unfold RequestGate.release at stepped
      split at stepped
      · simp at stepped
      · obtain rfl := Option.some.inj stepped
        rfl
      · obtain rfl := Option.some.inj stepped
        exact releaseSlot_maximum _
  | close =>
      obtain rfl := Option.some.inj stepped
      unfold RequestGate.close
      split_ifs <;> rfl

/-- Transitions that meet the condition keep the slot account. -/
theorem SlotInvariant.step {gate next : RequestGate} (invariant : gate.SlotInvariant 0)
    (positive : 1 ≤ gate.maximum) {action : GateAction} (keeps : gate.KeepsAccount action)
    (stepped : gate.step action = some next) : next.SlotInvariant 0 := by
  cases action with
  | acquire =>
      obtain rfl := Option.some.inj stepped
      exact invariant.acquire
  | cancel waiter => exact invariant.cancel stepped
  | resume waiter =>
      obtain ⟨result, resumed, rfl⟩ := Option.map_eq_some_iff.mp stepped
      exact invariant.resume positive keeps resumed
  | release token => exact invariant.release stepped
  | close =>
      obtain rfl := Option.some.inj stepped
      exact invariant.close

/-- Every other transition loses a slot that somebody still owns. -/
theorem SlotInvariant.not_accounted {gate next : RequestGate} (invariant : gate.SlotInvariant 0)
    {action : GateAction} (loses : ¬ gate.KeepsAccount action)
    (stepped : gate.step action = some next) : ¬ next.SlotsAccounted := by
  intro accounted
  cases action with
  | resume waiter =>
      obtain ⟨dropped, active⟩ : gate.Dropped waiter ∧ gate.active ≠ 0 := by
        simpa [KeepsAccount] using loses
      obtain ⟨unqueued, cell, foundCell, ungranted⟩ := dropped
      obtain ⟨result, resumed, rfl⟩ := Option.map_eq_some_iff.mp stepped
      obtain ⟨acquirer, found, unresumed, outcome⟩ := resume_cases resumed
      obtain rfl : acquirer = cell := by simpa [found] using foundCell
      have woken := invariant.wake_dropped found ungranted unqueued
      have released : result.2 = (gate.wake waiter).releaseSlot := by
        rcases outcome with ⟨granted, -⟩ | ⟨granted, -⟩ | ⟨queued, -⟩ | ⟨-, rfl⟩
        · exact (ungranted granted).elim
        · exact (ungranted granted).elim
        · exact (unqueued queued).elim
        · rfl
      rw [released] at accounted
      have positive : 0 < (gate.wake waiter).active := Nat.pos_of_ne_zero active
      have balance := releaseSlot_balance woken positive
      have before := woken.active_eq
      have after := accounted.active_eq
      rw [releaseSlot_unreleased] at after
      omega
  | acquire => exact loses trivial
  | cancel waiter => exact loses trivial
  | release token => exact loses trivial
  | close => exact loses trivial

theorem slotInvariant_new (maximum queueSize : Nat) :
    ({ maximum, queueSize } : RequestGate).SlotInvariant 0 where
  active_eq := rfl
  active_le := Nat.zero_le _
  full := fun nonempty => (nonempty rfl).elim
  queued := fun waiter member => by simp at member
  nodup := List.nodup_nil
  closed_empty := fun _ => rfl

/-- The slot account holds in every state of a run exactly if no dropped
waiter resumes while a slot is active. -/
theorem slotsAccounted_along_iff (maximum queueSize : Nat) (positive : 1 ≤ maximum)
    (actions : List GateAction) :
    (system maximum queueSize).Along SlotsAccounted { maximum, queueSize } actions ↔
      (system maximum queueSize).StepsMeet KeepsAccount { maximum, queueSize } actions :=
  (system maximum queueSize).along_iff_stepsMeet
    (fun gate => gate.SlotInvariant 0 ∧ 1 ≤ gate.maximum)
    (fun _ invariant => invariant.1.accounted)
    (fun _ _ _ invariant keeps stepped =>
      ⟨invariant.1.step invariant.2 keeps stepped, step_maximum stepped ▸ invariant.2⟩)
    (fun _ _ _ invariant loses stepped => invariant.1.not_accounted loses stepped)
    ⟨slotInvariant_new maximum queueSize, positive⟩ actions

/-- A hand-over to a queued waiter, with the account kept throughout. -/
theorem slotsAccounted_along_handover :
    (system 1 1).Along SlotsAccounted { maximum := 1, queueSize := 1 }
        [.acquire, .acquire, .release 0, .resume 0, .release 1] ↔
      (system 1 1).StepsMeet KeepsAccount { maximum := 1, queueSize := 1 }
        [.acquire, .acquire, .release 0, .resume 0, .release 1] :=
  slotsAccounted_along_iff 1 1 (by decide) [.acquire, .acquire, .release 0, .resume 0, .release 1]

/-- One slot, two queued waiters.  The first waiter is cancelled, the holder
releases and the second waiter gets the slot; then the cancelled task resumes,
frees the slot a second time, and a newcomer takes it. -/
theorem exists_two_holders_of_one_slot :
    ∃ gate, (system 1 2).Reachable gate ∧ gate.maximum < gate.unreleased ∧
      gate.active ≠ gate.unreleased + gate.grantedUnresumed := by
  refine ⟨_, (system 1 2).reachable_of_run rfl [.acquire, .acquire, .acquire, .cancel 0,
    .release 0, .resume 0, .acquire, .resume 1] rfl, ?_, ?_⟩
  · decide
  · decide

end FitzClient.RequestGate
