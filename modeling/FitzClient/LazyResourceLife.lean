import FitzClient.LazyResource
import Mathlib.Algebra.GroupWithZero.Nat

/-!
# The life of a lazy resource

A lazy value makes one resource at most.  It is published, being closed, or
gone, and the call that holds the lock tells which: a start that is in its
factory holds it before there is a resource, and whoever closes the resource
has taken it out first.
-/

namespace FitzClient

namespace LazyResource

section

variable {lazy next : LazyResource} {entering : Option Nat} {call : Nat} {cell : LazyCall}
  {phase : LazyPhase}

/-- No call of `aclose` has come to its end. -/
def NoneClosed (lazy : LazyResource) : Prop :=
  ∀ cell ∈ lazy.calls, cell.entry = .aclose → cell.phase.isEnded = false

/-- What has become of the resource. -/
inductive Stage (lazy : LazyResource) : Prop
  | idle (lock : lazy.lock = none) (resource : lazy.resource = none)
      (products : lazy.products = [])
  | creating (call : Nat) (cell : LazyCall) (found : lazy.calls[call]? = some cell)
      (phase : cell.phase = .creating) (entry : cell.entry = .start)
      (resource : lazy.resource = none) (products : lazy.products = [])
      (noneClosed : lazy.NoneClosed)
  | published (product : LazyProduct) (lock : lazy.lock = none)
      (resource : lazy.resource = some 0) (products : lazy.products = [product])
      (live : product.live = true) (unclosed : product.closeCalls = 0)
      (noneClosed : lazy.NoneClosed)
  | closing (call : Nat) (cell : LazyCall) (product : LazyProduct)
      (found : lazy.calls[call]? = some cell) (phase : cell.phase = .closing 0)
      (resource : lazy.resource = none) (closed : lazy.closed = true)
      (products : lazy.products = [product]) (hasClose : product.hasClose = true)
      (called : product.closeCalls = 1) (noneClosed : lazy.NoneClosed)
  | gone (product : LazyProduct) (lock : lazy.lock = none) (resource : lazy.resource = none)
      (closed : lazy.closed = true) (products : lazy.products = [product])
      (disposed : product.Disposed)

theorem NoneClosed.move (noneClosed : lazy.NoneClosed) (found : lazy.calls[call]? = some cell)
    (calls : next.calls = lazy.calls.modify call fun cell => { cell with phase := phase })
    (goesOn : cell.entry = .start ∨ phase.isEnded = false) : next.NoneClosed := by
  intro after member isClose
  rw [calls] at member
  rcases mem_modify member with old | ⟨before, foundBefore, rfl⟩
  · exact noneClosed after old isClose
  · obtain rfl : cell = before := by simpa [found] using foundBefore
    exact goesOn.resolve_left fun isStart => by
      rw [isStart] at isClose
      cases isClose

/-- A call that joins the others changes nothing about the resource. -/
theorem Stage.join (stage : lazy.Stage) {entry : LazyEntry} {late : Bool}
    (calls : next.calls = lazy.calls ++ [{ entry := entry, late := late }])
    (lock : next.lock = lazy.lock)
    (closed : lazy.closed = true → next.closed = true) (resource : next.resource = lazy.resource)
    (products : next.products = lazy.products) : next.Stage := by
  have kept {call : Nat} {cell : LazyCall} (found : lazy.calls[call]? = some cell) :
      next.calls[call]? = some cell := by
    rw [calls]
    exact getElem?_concat_eq_some.mpr (Or.inl found)
  have noneClosed (before : lazy.NoneClosed) : next.NoneClosed := by
    intro cell member isClose
    rw [calls, List.mem_append, List.mem_singleton] at member
    rcases member with old | rfl
    · exact before cell old isClose
    · rfl
  cases stage with
  | idle isFree none empty =>
      exact .idle (lock.trans isFree) (resource.trans none) (products.trans empty)
  | creating call cell found phase entry none empty before =>
      exact .creating call cell (kept found) phase entry (resource.trans none)
        (products.trans empty) (noneClosed before)
  | published product isFree some single live unclosed before =>
      exact .published product (lock.trans isFree) (resource.trans some) (products.trans single)
        live unclosed (noneClosed before)
  | closing call cell product found phase none isClosed single hasClose called before =>
      exact .closing call cell product (kept found) phase (resource.trans none) (closed isClosed)
        (products.trans single) hasClose called (noneClosed before)
  | gone product isFree none isClosed single disposed =>
      exact .gone product (lock.trans isFree) (resource.trans none) (closed isClosed)
        (products.trans single) disposed

/-- Closing the only resource, with the lock. -/
theorem beginClose_spec (invariant : lazy.CallInvariant entering)
    (found : lazy.calls[call]? = some cell) (inside : entering = some call ∨ lazy.lock = some call)
    (alone : entering = none ∨ entering = some call)
    (early : cell.entry = .start → cell.late = false)
    (resource : lazy.resource = none) (closed : lazy.closed = true) {product : LazyProduct}
    (products : lazy.products = [product]) (unclosed : product.closeCalls = 0)
    (noneClosed : lazy.NoneClosed) :
    (lazy.beginClose call cell.entry 0).CallInvariant none ∧
      (lazy.beginClose call cell.entry 0).Stage := by
  have lateStart {phase : LazyPhase} (isStart : cell.entry = .start) (isLate : cell.late = true) :
      phase = .ended (.raised (.closed lazy.closedMessage)) := by
    rw [early isStart] at isLate
    cases isLate
  unfold beginClose
  cases hasClose : product.hasClose with
  | true =>
      have closes : lazy.products[0]?.any LazyProduct.hasClose = true := by
        simp [products, hasClose]
      rw [if_pos closes]
      refine ⟨invariant.move found inside alone rfl rfl rfl rfl rfl nofun lateStart, ?_⟩
      exact .closing call { cell with phase := .closing 0 } { product with closeCalls := 1 }
        (by simp [setPhase, found]) rfl resource closed (by simp [products, unclosed]) hasClose rfl
        (noneClosed.move found rfl (Or.inr rfl))
  | false =>
      have gives : ¬ lazy.products[0]?.any LazyProduct.hasClose = true := by
        simp [products, hasClose]
      rw [if_neg gives]
      refine ⟨invariant.move found inside alone rfl rfl rfl rfl rfl nofun lateStart, ?_⟩
      exact .gone { product with live := false } rfl resource closed
        (by simp [finish, setPhase, products]) ⟨rfl, by simp [unclosed, hasClose]⟩

/-- What a call does once it has the lock. -/
theorem held_spec (invariant : lazy.CallInvariant (some call)) (stage : lazy.Stage)
    (found : lazy.calls[call]? = some cell) :
    (lazy.held call cell.entry).CallInvariant none ∧ (lazy.held call cell.entry).Stage := by
  have member : cell ∈ lazy.calls := List.mem_of_getElem? found
  have free := (invariant.entering_free call rfl).2
  have unlocked {other : Nat} {holding : LazyCall} (foundOther : lazy.calls[other]? = some holding)
      (holds : holding.phase.holdsLock = true) : False := by
    have locked := (invariant.holds other).mpr ⟨holding, foundOther, holds⟩
    rw [free] at locked
    cases locked
  cases entry : cell.entry with
  | start =>
      have before (noneClosed : lazy.NoneClosed) {phase : LazyPhase} :
          (lazy.setPhase call phase).NoneClosed := noneClosed.move found rfl (Or.inl entry)
      unfold held
      by_cases closed : lazy.closed = true
      · dsimp only
        rw [if_pos closed]
        refine ⟨invariant.move found (Or.inl rfl) (Or.inr rfl) rfl rfl rfl rfl rfl nofun
          fun _ _ => rfl, ?_⟩
        cases stage with
        | idle _ missing empty => exact .idle rfl missing empty
        | creating other holding foundOther phase =>
            exact (unlocked foundOther (by rw [phase]; rfl)).elim
        | published product _ kept single live unclosed noneClosed =>
            exact .published product rfl kept single live unclosed (before noneClosed)
        | closing other holding product foundOther phase =>
            exact (unlocked foundOther (by rw [phase]; rfl)).elim
        | gone product _ missing isClosed single disposed =>
            exact .gone product rfl missing isClosed single disposed
      · have lateStart {phase : LazyPhase} (_ : cell.entry = .start) (isLate : cell.late = true) :
            phase = .ended (.raised (.closed lazy.closedMessage)) :=
          absurd (invariant.late cell member isLate) closed
        dsimp only
        rw [if_neg closed]
        cases stage with
        | idle _ missing empty =>
            simp only [missing]
            refine ⟨invariant.move found (Or.inl rfl) (Or.inr rfl) rfl rfl rfl rfl rfl nofun
              lateStart, .creating call { cell with phase := .creating } (by simp [setPhase, found])
              rfl entry missing empty (before fun other inCalls isClose => ?_)⟩
            exact absurd (invariant.closed_iff.mpr ⟨other, inCalls, isClose⟩) closed
        | creating other holding foundOther phase =>
            exact (unlocked foundOther (by rw [phase]; rfl)).elim
        | published product _ kept single live unclosed noneClosed =>
            simp only [kept]
            exact ⟨invariant.move found (Or.inl rfl) (Or.inr rfl) rfl rfl rfl rfl rfl nofun
              lateStart, .published product rfl kept single live unclosed (before noneClosed)⟩
        | closing other holding product foundOther phase =>
            exact (unlocked foundOther (by rw [phase]; rfl)).elim
        | gone product _ missing isClosed => exact absurd isClosed closed
  | aclose =>
      have closed : lazy.closed = true := invariant.closed_iff.mpr ⟨cell, member, entry⟩
      have lateStart {phase : LazyPhase} (isStart : cell.entry = .start) (_ : cell.late = true) :
          phase = .ended (.raised (.closed lazy.closedMessage)) := by
        rw [entry] at isStart
        cases isStart
      unfold held
      dsimp only
      cases stage with
      | idle _ missing empty =>
          simp only [missing]
          exact ⟨invariant.move found (Or.inl rfl) (Or.inr rfl) rfl rfl rfl rfl rfl nofun
            lateStart, .idle rfl missing empty⟩
      | creating other holding foundOther phase =>
          exact (unlocked foundOther (by rw [phase]; rfl)).elim
      | published product _ kept single live unclosed noneClosed =>
          simp only [kept]
          have taken : { lazy with resource := none }.CallInvariant (some call) :=
            { invariant with }
          rw [← entry]
          exact beginClose_spec taken found (Or.inl rfl) (Or.inr rfl)
            (fun isStart => by rw [entry] at isStart; cases isStart) rfl closed single unclosed
            noneClosed
      | closing other holding product foundOther phase =>
          exact (unlocked foundOther (by rw [phase]; rfl)).elim
      | gone product _ missing isClosed single disposed =>
          simp only [missing]
          exact ⟨invariant.move found (Or.inl rfl) (Or.inr rfl) rfl rfl rfl rfl rfl nofun
            lateStart, .gone product rfl missing isClosed single disposed⟩

/-- The calls and the resource in every state. -/
structure LazyInvariant (lazy : LazyResource) : Prop where
  calls : lazy.CallInvariant none
  stage : lazy.Stage

theorem LazyInvariant.newCall (invariant : lazy.LazyInvariant) (entry : LazyEntry) :
    (lazy.newCall entry).LazyInvariant := by
  obtain ⟨calls, stage⟩ := invariant
  have stays (isClosed : lazy.closed = true) :
      (lazy.closed || decide (entry = LazyEntry.aclose)) = true := by simp [isClosed]
  unfold LazyResource.newCall
  split_ifs with free
  · obtain ⟨isFree, empty⟩ := free
    have joined := @CallInvariant.join lazy
      { lazy with
        closed := lazy.closed || decide (entry = LazyEntry.aclose)
        calls := lazy.calls ++ [{ entry, late := lazy.closed }] }
      (some lazy.calls.length) calls entry rfl (Or.inr ⟨empty, empty, rfl, isFree⟩) rfl rfl rfl
    obtain ⟨callsAfter, stageAfter⟩ := held_spec joined (stage.join rfl rfl stays rfl rfl)
      (getElem?_concat_eq_some.mpr (Or.inr ⟨rfl, rfl⟩))
    exact ⟨callsAfter, stageAfter⟩
  · exact ⟨calls.join rfl (Or.inl ⟨rfl, rfl⟩) rfl rfl rfl, stage.join rfl rfl stays rfl rfl⟩

theorem resume_cases (stepped : lazy.resume = some next) : ∃ call waiters cell,
    lazy.lock = none ∧ lazy.waiters = call :: waiters ∧ lazy.calls[call]? = some cell ∧
      next = { lazy with waiters := waiters }.held call cell.entry := by
  unfold LazyResource.resume at stepped
  split at stepped
  · next call waiters free queue =>
      obtain ⟨cell, found, rfl⟩ := Option.map_eq_some_iff.mp stepped
      exact ⟨call, waiters, cell, free, queue, found, rfl⟩
  · cases stepped

theorem LazyInvariant.resume (invariant : lazy.LazyInvariant)
    (stepped : lazy.resume = some next) : next.LazyInvariant := by
  obtain ⟨calls, stage⟩ := invariant
  obtain ⟨call, waiters, cell, free, queue, found, rfl⟩ := resume_cases stepped
  have distinct := calls.nodup
  rw [queue, List.nodup_cons] at distinct
  have enters : { lazy with waiters := waiters }.CallInvariant (some call) :=
    { queue := fun other => by
        rw [← calls.queue other, queue]
        simp [or_comm, eq_comm]
      nodup := distinct.2
      entering_free := fun other same => by
        obtain rfl : call = other := by simpa using same
        exact ⟨distinct.1, free⟩
      holds := calls.holds
      closed_iff := calls.closed_iff
      late := calls.late
      lateStart := calls.lateStart }
  have kept : { lazy with waiters := waiters }.Stage := by
    cases stage with
    | idle isFree missing empty => exact .idle isFree missing empty
    | creating other holding foundOther phase entry missing empty noneClosed =>
        exact .creating other holding foundOther phase entry missing empty noneClosed
    | published product isFree kept single live unclosed noneClosed =>
        exact .published product isFree kept single live unclosed noneClosed
    | closing other holding product foundOther phase missing closed single hasClose called
        noneClosed =>
        exact .closing other holding product foundOther phase missing closed single hasClose called
          noneClosed
    | gone product isFree missing closed single disposed =>
        exact .gone product isFree missing closed single disposed
  obtain ⟨callsAfter, stageAfter⟩ := held_spec enters kept found
  exact ⟨callsAfter, stageAfter⟩

theorem holder_eq_some {holding : Nat × LazyCall} :
    lazy.holder = some holding ↔
      lazy.lock = some holding.1 ∧ lazy.calls[holding.1]? = some holding.2 := by
  unfold holder
  constructor
  · intro held
    obtain ⟨call, locked, found⟩ := Option.bind_eq_some_iff.mp held
    obtain ⟨cell, inCalls, rfl⟩ := Option.map_eq_some_iff.mp found
    exact ⟨locked, inCalls⟩
  · rintro ⟨locked, found⟩
    rw [locked, Option.bind_some, found]
    rfl

/-- The transitions of a call in its factory. -/
theorem factory_cases {action : LazyAction} (stepped : lazy.step action = some next)
    (fromFactory : action = .factoryRaises ∨ ∃ hasClose, action = .factoryReturns hasClose) :
    ∃ call cell, lazy.lock = some call ∧ lazy.calls[call]? = some cell ∧ cell.phase = .creating ∧
      (next = lazy.finish call (.raised .factory) ∨
        ∃ hasClose, action = .factoryReturns hasClose ∧ next = lazy.produce call hasClose) := by
  rcases fromFactory with rfl | ⟨hasClose, rfl⟩
  · unfold step at stepped
    dsimp only at stepped
    split at stepped
    · next call entry late held =>
        obtain ⟨locked, found⟩ := holder_eq_some.mp held
        exact ⟨call, _, locked, found, rfl, Or.inl (Option.some.inj stepped).symm⟩
    · cases stepped
  · unfold step at stepped
    dsimp only at stepped
    split at stepped
    · next call entry late held =>
        obtain ⟨locked, found⟩ := holder_eq_some.mp held
        split_ifs at stepped
        exact ⟨call, _, locked, found, rfl,
          Or.inr ⟨hasClose, rfl, (Option.some.inj stepped).symm⟩⟩
    · cases stepped

/-- While a factory runs nothing has been made. -/
theorem Stage.of_creating (stage : lazy.Stage) (calls : lazy.CallInvariant none)
    (found : lazy.calls[call]? = some cell) (phase : cell.phase = .creating) :
    cell.entry = .start ∧ lazy.resource = none ∧ lazy.products = [] ∧ lazy.NoneClosed := by
  have locked := (calls.holds call).mpr ⟨cell, found, by rw [phase]; rfl⟩
  have same {other : Nat} {holding : LazyCall} (foundOther : lazy.calls[other]? = some holding)
      (holds : holding.phase.holdsLock = true) : cell = holding := by
    have lockedOther := (calls.holds other).mpr ⟨holding, foundOther, holds⟩
    obtain rfl : call = other := Option.some.inj (locked.symm.trans lockedOther)
    exact Option.some.inj (found.symm.trans foundOther)
  cases stage with
  | idle isFree => exact absurd (isFree.symm.trans locked) nofun
  | creating other holding foundOther phaseOther entry missing empty noneClosed =>
      obtain rfl := same foundOther (by rw [phaseOther]; rfl)
      exact ⟨entry, missing, empty, noneClosed⟩
  | published product isFree => exact absurd (isFree.symm.trans locked) nofun
  | closing other holding product foundOther phaseOther =>
      obtain rfl := same foundOther (by rw [phaseOther]; rfl)
      exact absurd (phase.symm.trans phaseOther) nofun
  | gone product isFree => exact absurd (isFree.symm.trans locked) nofun

/-- A call that holds the lock in its close holds it for the only resource. -/
theorem Stage.of_closing (stage : lazy.Stage) (calls : lazy.CallInvariant none)
    (found : lazy.calls[call]? = some cell) {index : Nat} (phase : cell.phase = .closing index) :
    index = 0 ∧ lazy.resource = none ∧ lazy.closed = true ∧ ∃ product,
      lazy.products = [product] ∧ product.hasClose = true ∧ product.closeCalls = 1 := by
  have locked := (calls.holds call).mpr ⟨cell, found, by rw [phase]; rfl⟩
  have same {other : Nat} {holding : LazyCall} (foundOther : lazy.calls[other]? = some holding)
      (holds : holding.phase.holdsLock = true) : cell = holding := by
    have lockedOther := (calls.holds other).mpr ⟨holding, foundOther, holds⟩
    obtain rfl : call = other := Option.some.inj (locked.symm.trans lockedOther)
    exact Option.some.inj (found.symm.trans foundOther)
  cases stage with
  | idle isFree => exact absurd (isFree.symm.trans locked) nofun
  | creating other holding foundOther phaseOther =>
      obtain rfl := same foundOther (by rw [phaseOther]; rfl)
      exact absurd (phase.symm.trans phaseOther) nofun
  | published product isFree => exact absurd (isFree.symm.trans locked) nofun
  | closing other holding product foundOther phaseOther missing closed single hasClose called =>
      obtain rfl := same foundOther (by rw [phaseOther]; rfl)
      exact ⟨by simpa [phase] using phaseOther, missing, closed, product, single, hasClose, called⟩
  | gone product isFree => exact absurd (isFree.symm.trans locked) nofun

/-- A start whose call came after `aclose` never runs the factory. -/
theorem CallInvariant.early_of_holds (calls : lazy.CallInvariant none)
    (found : lazy.calls[call]? = some cell) (holds : cell.phase.holdsLock = true)
    (isStart : cell.entry = .start) : cell.late = false := by
  by_contra isLate
  rcases calls.lateStart cell (List.mem_of_getElem? found) isStart (by simpa using isLate) with
    waits | ended
  · rw [waits] at holds
    cases holds
  · rw [ended] at holds
    cases holds

theorem LazyInvariant.factory (invariant : lazy.LazyInvariant) {action : LazyAction}
    (stepped : lazy.step action = some next)
    (fromFactory : action = .factoryRaises ∨ ∃ hasClose, action = .factoryReturns hasClose) :
    next.LazyInvariant := by
  obtain ⟨calls, stage⟩ := invariant
  obtain ⟨call, cell, locked, found, phase, outcome⟩ := factory_cases stepped fromFactory
  obtain ⟨entry, missing, empty, noneClosed⟩ := stage.of_creating calls found phase
  have early := calls.early_of_holds found (by rw [phase]; rfl)
  have lateStart {phase : LazyPhase} (isStart : cell.entry = .start) (isLate : cell.late = true) :
      phase = .ended (.raised (.closed lazy.closedMessage)) := by
    rw [early isStart] at isLate
    cases isLate
  rcases outcome with rfl | ⟨hasClose, -, rfl⟩
  · exact ⟨calls.move found (Or.inr locked) (Or.inl rfl) rfl rfl rfl rfl rfl nofun lateStart,
      .idle rfl missing empty⟩
  · have made : { lazy with
        products := lazy.products ++ [LazyProduct.mk hasClose 0 true] }.CallInvariant none :=
      { calls with }
    have single : lazy.products ++ [({ hasClose := hasClose } : LazyProduct)] =
        [{ hasClose := hasClose }] := by
      rw [empty]
      rfl
    have first : lazy.products.length = 0 := by rw [empty]; rfl
    unfold produce
    rw [first]
    split_ifs with closed
    · rw [← entry]
      obtain ⟨callsAfter, stageAfter⟩ := beginClose_spec made found (Or.inr locked) (Or.inl rfl)
        early missing closed single rfl noneClosed
      exact ⟨callsAfter, stageAfter⟩
    · exact ⟨calls.move found (Or.inr locked) (Or.inl rfl) rfl rfl rfl rfl rfl nofun lateStart,
          .published { hasClose := hasClose } rfl rfl single rfl rfl
            (noneClosed.move found rfl (Or.inl entry))⟩

theorem closeEnds_cases {succeeds : Bool} (stepped : lazy.step (.closeEnds succeeds) = some next) :
    ∃ call cell product, lazy.lock = some call ∧ lazy.calls[call]? = some cell ∧
      cell.phase = .closing product ∧ next = { lazy with
        products := lazy.products.modify product fun made => { made with live := false } }.finish
          call (if succeeds then lazy.closedOutcome cell.entry else .raised .close) := by
  unfold step at stepped
  dsimp only at stepped
  split at stepped
  · next call entry late product held =>
      obtain ⟨locked, found⟩ := holder_eq_some.mp held
      exact ⟨call, _, product, locked, found, rfl, (Option.some.inj stepped).symm⟩
  · cases stepped

theorem LazyInvariant.closeEnds (invariant : lazy.LazyInvariant) {succeeds : Bool}
    (stepped : lazy.step (.closeEnds succeeds) = some next) : next.LazyInvariant := by
  obtain ⟨calls, stage⟩ := invariant
  obtain ⟨call, cell, index, locked, found, phase, rfl⟩ := closeEnds_cases stepped
  obtain ⟨rfl, missing, closed, product, single, hasClose, called⟩ :=
    stage.of_closing calls found phase
  have early := calls.early_of_holds found (by rw [phase]; rfl)
  refine ⟨calls.move found (Or.inr locked) (Or.inl rfl) rfl rfl rfl rfl rfl nofun
    fun isStart isLate => ?_, ?_⟩
  · rw [early isStart] at isLate
    cases isLate
  · exact .gone { product with live := false } rfl missing closed
      (by simp [finish, setPhase, single]) ⟨rfl, by simp [hasClose, called]⟩

/-- Every transition keeps the calls and the resource. -/
theorem LazyInvariant.step (invariant : lazy.LazyInvariant) {action : LazyAction}
    (stepped : lazy.step action = some next) : next.LazyInvariant := by
  cases action with
  | call entry =>
      obtain rfl := Option.some.inj stepped
      exact invariant.newCall entry
  | resume => exact invariant.resume stepped
  | factoryRaises => exact invariant.factory stepped (Or.inl rfl)
  | factoryReturns hasClose => exact invariant.factory stepped (Or.inr ⟨hasClose, rfl⟩)
  | closeEnds succeeds => exact invariant.closeEnds stepped

theorem lazyInvariant_of_reachable {fresh : LazyResource}
    (isNew : fresh = lazyAsyncContext ∨ fresh = lazyAsyncIterator)
    (reachable : (system fresh).Reachable lazy) : lazy.LazyInvariant := by
  have invariant : (system fresh).Invariant (fun _ _ => True) LazyInvariant :=
    { starts := by
        rintro _ rfl
        rcases isNew with rfl | rfl
        all_goals exact ⟨⟨by simp [lazyAsyncContext, lazyAsyncIterator], List.nodup_nil, nofun,
          by simp [lazyAsyncContext, lazyAsyncIterator],
          by simp [lazyAsyncContext, lazyAsyncIterator], nofun, nofun⟩, .idle rfl rfl rfl⟩
      preserved := fun _ _ _ holds _ stepped => holds.step stepped }
  exact invariant.of_reachable reachable

/-- How often the calls may still be resumed. -/
def work (lazy : LazyResource) : Nat :=
  (lazy.calls.map fun cell => cell.phase.work).sum

/-- The promises of a lazy value in one state: on its resources, on starts
after `aclose`, and that its calls come to an end if factory and close do. -/
structure Managed (lazy : LazyResource) : Prop where
  oneLive : lazy.products.countP LazyProduct.live ≤ 1
  factoryOnce : lazy.products ≠ [] → ∀ action next, lazy.step action = some next →
    next.factoryRuns = lazy.factoryRuns
  closedAtMostOnce : ∀ product ∈ lazy.products, product.closeCalls ≤ 1
  closedOnce : ∀ cell ∈ lazy.calls, cell.entry = .aclose → cell.phase.isEnded = true →
    ∀ product ∈ lazy.products, product.Disposed
  closed_iff : lazy.closed = true ↔ ∃ cell ∈ lazy.calls, cell.entry = .aclose
  lateStart : ∀ cell ∈ lazy.calls, cell.entry = .start → cell.late = true →
    cell.phase = .waiting ∨ cell.phase = .ended (.raised (.closed lazy.closedMessage))
  lateFactory : lazy.closed = true → ∀ action next, lazy.step action = some next →
    next.factoryRuns = lazy.factoryRuns
  notStuck : ∀ cell ∈ lazy.calls, cell.phase.isEnded = false →
    ∃ action next, action.isCall = false ∧ lazy.step action = some next
  settles : ∀ action next, action.isCall = false → lazy.step action = some next →
    next.work < lazy.work

theorem beginClose_factoryRuns (entry : LazyEntry) {product : Nat} :
    (lazy.beginClose call entry product).factoryRuns = lazy.factoryRuns := by
  unfold beginClose
  split_ifs <;> rfl

theorem held_factoryRuns (entry : LazyEntry)
    (owned : entry = .start → lazy.closed = true ∨ lazy.resource ≠ none) :
    (lazy.held call entry).factoryRuns = lazy.factoryRuns := by
  cases entry with
  | start =>
      unfold held
      by_cases closed : lazy.closed = true
      · simp [closed, finish, setPhase]
      · obtain ⟨product, made⟩ :=
          Option.ne_none_iff_exists'.mp ((owned rfl).resolve_left closed)
        simp [closed, made, finish, setPhase]
  | aclose =>
      unfold held
      dsimp only
      split
      · exact beginClose_factoryRuns .aclose
      · rfl

/-- Once there is a resource, or the value is closed, no step runs the
factory. -/
theorem step_factoryRuns (owned : lazy.closed = true ∨ lazy.resource ≠ none)
    {action : LazyAction} (stepped : lazy.step action = some next) :
    next.factoryRuns = lazy.factoryRuns := by
  cases action with
  | call entry =>
      obtain rfl := Option.some.inj stepped
      unfold newCall
      split_ifs
      · refine held_factoryRuns entry fun _ => owned.imp_left fun closed => ?_
        simp [closed]
      · rfl
  | resume =>
      obtain ⟨call, waiters, cell, -, -, -, rfl⟩ := resume_cases stepped
      exact held_factoryRuns cell.entry fun _ => owned
  | factoryRaises =>
      obtain ⟨call, cell, -, -, -, rfl | ⟨_, isReturn, -⟩⟩ := factory_cases stepped (Or.inl rfl)
      · rfl
      · cases isReturn
  | factoryReturns hasClose =>
      obtain ⟨call, cell, -, -, -, rfl | ⟨_, -, rfl⟩⟩ :=
        factory_cases stepped (Or.inr ⟨hasClose, rfl⟩)
      · rfl
      · unfold produce
        split_ifs
        · exact beginClose_factoryRuns .start
        · rfl
  | closeEnds succeeds =>
      obtain ⟨call, cell, product, -, -, -, rfl⟩ := closeEnds_cases stepped
      rfl

theorem Stage.owned (stage : lazy.Stage) (made : lazy.products ≠ []) :
    lazy.closed = true ∨ lazy.resource ≠ none := by
  cases stage with
  | idle _ _ empty => exact absurd empty made
  | creating _ _ _ _ _ _ empty => exact absurd empty made
  | published _ _ kept => exact Or.inr (by simp [kept])
  | closing _ _ _ _ _ _ closed => exact Or.inl closed
  | gone _ _ _ closed => exact Or.inl closed

theorem sum_work_modify_lt {cells : List LazyCall} (found : cells[call]? = some cell)
    (less : phase.work < cell.phase.work) :
    ((cells.modify call fun cell => { cell with phase := phase }).map fun cell =>
        cell.phase.work).sum < (cells.map fun cell => cell.phase.work).sum := by
  induction cells generalizing call with
  | nil => cases found
  | cons first cells ih =>
      cases call with
      | zero =>
          obtain rfl : first = cell := by simpa using found
          simpa using less
      | succ call =>
          have inCells : cells[call]? = some cell := by simpa using found
          simpa using ih inCells

theorem work_lt (found : lazy.calls[call]? = some cell)
    (calls : next.calls = lazy.calls.modify call fun cell => { cell with phase := phase })
    (less : phase.work < cell.phase.work) : next.work < lazy.work := by
  unfold work
  rw [calls]
  exact sum_work_modify_lt found less

/-- A call that goes on in its critical section comes to a later phase. -/
theorem beginClose_calls (entry : LazyEntry) (product : Nat) : ∃ phase : LazyPhase,
    phase.work ≤ 1 ∧ (lazy.beginClose call entry product).calls =
      lazy.calls.modify call fun cell => { cell with phase := phase } := by
  unfold beginClose
  split_ifs
  · exact ⟨.closing product, le_rfl, rfl⟩
  · exact ⟨.ended _, Nat.zero_le _, rfl⟩

theorem held_calls (entry : LazyEntry) : ∃ phase : LazyPhase, phase.work ≤ 2 ∧
    (lazy.held call entry).calls =
      lazy.calls.modify call fun cell => { cell with phase := phase } := by
  cases entry with
  | start =>
      unfold held
      dsimp only
      split_ifs
      · exact ⟨.ended _, Nat.zero_le _, rfl⟩
      · split
        · exact ⟨.ended _, Nat.zero_le _, rfl⟩
        · exact ⟨.creating, le_rfl, rfl⟩
  | aclose =>
      unfold held
      dsimp only
      split
      · next product _ =>
          obtain ⟨phase, less, calls⟩ :=
            @beginClose_calls { lazy with resource := none } call .aclose product
          exact ⟨phase, less.trans (by decide), calls⟩
      · exact ⟨.ended _, Nat.zero_le _, rfl⟩

/-- Every step but a new call leaves less to do. -/
theorem LazyInvariant.settles (invariant : lazy.LazyInvariant) {action : LazyAction}
    (within : action.isCall = false) (stepped : lazy.step action = some next) :
    next.work < lazy.work := by
  cases action with
  | call entry => cases within
  | resume =>
      obtain ⟨call, waiters, cell, -, queue, found, rfl⟩ := resume_cases stepped
      obtain ⟨waiting, foundWaiting, waits⟩ :=
        (invariant.calls.queue call).mp (Or.inl (by simp [queue]))
      obtain rfl : cell = waiting := Option.some.inj (found.symm.trans foundWaiting)
      obtain ⟨phase, less, calls⟩ := @held_calls { lazy with waiters := waiters } call cell.entry
      refine work_lt found calls ?_
      rw [waits]
      exact Nat.lt_succ_of_le less
  | factoryRaises =>
      obtain ⟨call, cell, -, found, phase, rfl | ⟨_, isReturn, -⟩⟩ :=
        factory_cases stepped (Or.inl rfl)
      · exact work_lt found rfl (by rw [phase]; exact Nat.zero_lt_two)
      · cases isReturn
  | factoryReturns hasClose =>
      obtain ⟨call, cell, -, found, phase, rfl | ⟨made, -, rfl⟩⟩ :=
        factory_cases stepped (Or.inr ⟨hasClose, rfl⟩)
      · exact work_lt found rfl (by rw [phase]; exact Nat.zero_lt_two)
      · unfold produce
        split_ifs
        · obtain ⟨after, less, calls⟩ := @beginClose_calls
            { lazy with products := lazy.products ++ [{ hasClose := made }] } call .start
              lazy.products.length
          exact work_lt found calls (by rw [phase]; exact Nat.lt_succ_of_le less)
        · exact work_lt found rfl (by rw [phase]; exact Nat.zero_lt_two)
  | closeEnds succeeds =>
      obtain ⟨call, cell, product, -, found, phase, rfl⟩ := closeEnds_cases stepped
      exact work_lt found rfl (by rw [phase]; exact Nat.zero_lt_one)

/-- A call that has not ended waits for a step that can be taken. -/
theorem LazyInvariant.notStuck (invariant : lazy.LazyInvariant) (member : cell ∈ lazy.calls)
    (unended : cell.phase.isEnded = false) :
    ∃ action next, action.isCall = false ∧ lazy.step action = some next := by
  obtain ⟨calls, -⟩ := invariant
  obtain ⟨call, found⟩ := List.mem_iff_getElem?.mp member
  have enabled {action : LazyAction} (within : action.isCall = false)
      (possible : (lazy.step action).isSome = true) :
      ∃ action next, action.isCall = false ∧ lazy.step action = some next := by
    obtain ⟨next, stepped⟩ := Option.isSome_iff_exists.mp possible
    exact ⟨action, next, within, stepped⟩
  cases locked : lazy.lock with
  | some holding =>
      obtain ⟨inside, foundInside, holds⟩ := (calls.holds holding).mp locked
      have held : lazy.holder = some (holding, inside) :=
        holder_eq_some.mpr ⟨locked, foundInside⟩
      obtain ⟨entry, late, phase⟩ := inside
      cases phase with
      | waiting => cases holds
      | creating => exact @enabled .factoryRaises rfl (by simp only [LazyResource.step, held]; rfl)
      | closing product =>
          exact @enabled (.closeEnds true) rfl (by simp only [LazyResource.step, held]; rfl)
      | ended outcome => cases holds
  | none =>
      have waits : cell.phase = .waiting := by
        cases phase : cell.phase with
        | waiting => rfl
        | creating =>
            have inside := (calls.holds call).mpr ⟨cell, found, by rw [phase]; rfl⟩
            exact absurd (locked.symm.trans inside) nofun
        | closing product =>
            have inside := (calls.holds call).mpr ⟨cell, found, by rw [phase]; rfl⟩
            exact absurd (locked.symm.trans inside) nofun
        | ended outcome =>
            rw [phase] at unended
            cases unended
      have queued : call ∈ lazy.waiters :=
        ((calls.queue call).mpr ⟨cell, found, waits⟩).resolve_right nofun
      cases queue : lazy.waiters with
      | nil =>
          rw [queue] at queued
          cases queued
      | cons first waiters =>
          obtain ⟨next, foundNext, -⟩ := (calls.queue first).mp (Or.inl (by simp [queue]))
          refine @enabled .resume rfl ?_
          simp only [LazyResource.step, LazyResource.resume, locked, queue, foundNext]
          rfl

theorem LazyInvariant.managed (invariant : lazy.LazyInvariant) : lazy.Managed := by
  obtain ⟨calls, stage⟩ := invariant
  have atMostOne (product : LazyProduct) : [product].countP LazyProduct.live ≤ 1 :=
    List.countP_le_length
  have disposed : (∃ cell ∈ lazy.calls, cell.entry = .aclose ∧ cell.phase.isEnded = true) →
      ∀ product ∈ lazy.products, product.Disposed := by
    rintro ⟨cell, member, isClose, ended⟩ product made
    cases stage with
    | idle _ _ empty =>
        rw [empty] at made
        cases made
    | creating _ _ _ _ _ _ _ noneClosed | published _ _ _ _ _ _ noneClosed
      | closing _ _ _ _ _ _ _ _ _ _ noneClosed =>
        exact absurd (ended.symm.trans (noneClosed cell member isClose)) nofun
    | gone _ _ _ _ single disposed =>
        rw [single, List.mem_singleton] at made
        rwa [made]
  exact
    { oneLive := by
        cases stage with
        | idle _ _ empty | creating _ _ _ _ _ _ empty => simp [empty]
        | published product _ _ single | closing _ _ product _ _ _ _ single
          | gone product _ _ _ single =>
            rw [single]
            exact atMostOne product
      factoryOnce := fun made _ _ stepped => step_factoryRuns (stage.owned made) stepped
      closedAtMostOnce := by
        intro product made
        cases stage with
        | idle _ _ empty | creating _ _ _ _ _ _ empty =>
            rw [empty] at made
            cases made
        | published _ _ _ single _ unclosed =>
            rw [single, List.mem_singleton] at made
            rw [made, unclosed]
            exact Nat.zero_le _
        | closing _ _ _ _ _ _ _ single _ called =>
            rw [single, List.mem_singleton] at made
            rw [made, called]
        | gone _ _ _ _ single disposed =>
            rw [single, List.mem_singleton] at made
            rw [made, disposed.2]
            exact Bool.toNat_le _
      closedOnce := fun cell member isClose ended => disposed ⟨cell, member, isClose, ended⟩
      closed_iff := calls.closed_iff
      lateStart := calls.lateStart
      lateFactory := fun closed _ _ stepped => step_factoryRuns (Or.inl closed) stepped
      notStuck := fun _ member unended => LazyInvariant.notStuck ⟨calls, stage⟩ member unended
      settles := fun _ _ within stepped => LazyInvariant.settles ⟨calls, stage⟩ within stepped }

/-- Contexts and iterators keep their promises in every state that they
reach. -/
theorem managed_of_reachable {fresh : LazyResource}
    (isNew : fresh = lazyAsyncContext ∨ fresh = lazyAsyncIterator)
    (reachable : (system fresh).Reachable lazy) : lazy.Managed :=
  (lazyInvariant_of_reachable isNew reachable).managed

/-- A stream that is closed while its factory runs, by a close that fails. -/
theorem managed_of_close_during_start :
    Managed
      { lazyAsyncIterator with
        closed := true
        calls :=
          [{ entry := .start, late := false, phase := .ended (.raised .close) },
            { entry := .aclose, late := false, phase := .ended .finished },
            { entry := .start, late := true,
              phase := .ended (.raised (.closed "Stream is closed")) }]
        products := [{ hasClose := true, closeCalls := 1, live := false }]
        factoryRuns := 1 } :=
  managed_of_reachable (Or.inr rfl) ((system lazyAsyncIterator).reachable_of_run rfl
    [.call .start, .call .aclose, .call .start, .factoryReturns true, .closeEnds false,
      .resume, .resume] (by decide))

end

end LazyResource

end FitzClient
