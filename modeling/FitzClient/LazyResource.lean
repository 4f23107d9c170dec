import FitzClient.IndexedCells
import FitzClient.LabelledSystem

/-!
# Resources that are made when they are needed

`LazyAsyncContext` and `LazyAsyncIterator` run a factory at the first start and
keep what it made until `aclose`.  Starts and closes take turns under
`_start_lock`, but `aclose` sets `_closed` before it asks for the lock, so a
start may find the flag set when its factory comes to an end; it then closes
what it was given itself.

A call is suspended in one of three places: waiting for the lock, in the
factory, or in the close of a resource.  The lock goes to those that wait in
the order of their arrival.
-/

namespace FitzClient

/-- `_start` or `aclose`. -/
inductive LazyEntry
  | start
  | aclose
  deriving DecidableEq, Repr

inductive LazyError
  | closed (message : String)
  | factory
  | close
  deriving DecidableEq, Repr

/-- How a call ends: with the resource, without a value, or with an error. -/
inductive LazyOutcome
  | resource (product : Nat)
  | finished
  | raised (error : LazyError)
  deriving DecidableEq, Repr

inductive LazyPhase
  | waiting
  | creating
  | closing (product : Nat)
  | ended (outcome : LazyOutcome)
  deriving DecidableEq, Repr

/-- A call; `late` if `_closed` was set before it. -/
structure LazyCall where
  entry : LazyEntry
  late : Bool
  phase : LazyPhase := .waiting
  deriving DecidableEq, Repr

/-- Something that the factory made.  It is live until its close has come to an
end; an iterator may have no `aclose`, and is then only given up. -/
structure LazyProduct where
  hasClose : Bool
  closeCalls : Nat := 0
  live : Bool := true
  deriving DecidableEq, Repr

/-- Its close, if it has one, was called once and is over. -/
def LazyProduct.Disposed (product : LazyProduct) : Prop :=
  product.live = false ∧ product.closeCalls = product.hasClose.toNat

/-- The call is suspended with the lock. -/
def LazyPhase.holdsLock : LazyPhase → Bool
  | .creating | .closing _ => true
  | .waiting | .ended _ => false

def LazyPhase.isEnded : LazyPhase → Bool
  | .ended _ => true
  | .waiting | .creating | .closing _ => false

/-- How often a call may still be resumed. -/
def LazyPhase.work : LazyPhase → Nat
  | .waiting => 3
  | .creating => 2
  | .closing _ => 1
  | .ended _ => 0

/-- A lazy value, the calls on it, and what its factory made.  A context closes
every resource, an iterator those that have an `aclose`. -/
structure LazyResource where
  closedMessage : String
  closesAll : Bool
  resource : Option Nat := none
  closed : Bool := false
  lock : Option Nat := none
  waiters : List Nat := []
  calls : List LazyCall := []
  products : List LazyProduct := []
  factoryRuns : Nat := 0
  deriving DecidableEq, Repr

/-- Calls, a waiting call that gets the lock, and the ends of the factory and
of the close. -/
inductive LazyAction
  | call (entry : LazyEntry)
  | resume
  | factoryRaises
  | factoryReturns (hasClose : Bool)
  | closeEnds (succeeds : Bool)
  deriving DecidableEq, Repr

def LazyAction.isCall : LazyAction → Bool
  | .call _ => true
  | .resume | .factoryRaises | .factoryReturns _ | .closeEnds _ => false

/-- A new `LazyAsyncContext`. -/
def lazyAsyncContext : LazyResource where
  closedMessage := "Context is closed"
  closesAll := true

/-- A new `LazyAsyncIterator`. -/
def lazyAsyncIterator : LazyResource where
  closedMessage := "Stream is closed"
  closesAll := false

namespace LazyResource

def setPhase (lazy : LazyResource) (call : Nat) (phase : LazyPhase) : LazyResource :=
  { lazy with calls := lazy.calls.modify call fun cell => { cell with phase := phase } }

/-- The call leaves `async with self._start_lock` and ends. -/
def finish (lazy : LazyResource) (call : Nat) (outcome : LazyOutcome) : LazyResource :=
  { lazy.setPhase call (.ended outcome) with lock := none }

/-- What a call ends with after it has closed a resource. -/
def closedOutcome (lazy : LazyResource) : LazyEntry → LazyOutcome
  | .start => .raised (.closed lazy.closedMessage)
  | .aclose => .finished

/-- `await self._close(resource)`, or `await close()` where there is one. -/
def beginClose (lazy : LazyResource) (call : Nat) (entry : LazyEntry) (product : Nat) :
    LazyResource :=
  if lazy.products[product]?.any LazyProduct.hasClose then
    { lazy.setPhase call (.closing product) with
      lock := some call
      products := lazy.products.modify product fun made =>
        { made with closeCalls := made.closeCalls + 1 } }
  else
    { lazy with
      products := lazy.products.modify product fun made => { made with live := false } }.finish
        call (lazy.closedOutcome entry)

/-- What `_start` and `aclose` do with the lock, up to their next `await`. -/
def held (lazy : LazyResource) (call : Nat) : LazyEntry → LazyResource
  | .start =>
      if lazy.closed then
        lazy.finish call (.raised (.closed lazy.closedMessage))
      else
        match lazy.resource with
        | some product => lazy.finish call (.resource product)
        | none =>
            { lazy.setPhase call .creating with
              lock := some call
              factoryRuns := lazy.factoryRuns + 1 }
  | .aclose =>
      match lazy.resource with
      | some product => { lazy with resource := none }.beginClose call .aclose product
      | none => lazy.finish call .finished

/-- A call of `_start` or `aclose` up to its first `await`. -/
def newCall (lazy : LazyResource) (entry : LazyEntry) : LazyResource :=
  let called : LazyResource :=
    { lazy with
      closed := lazy.closed || decide (entry = LazyEntry.aclose)
      calls := lazy.calls ++ [{ entry, late := lazy.closed }] }
  if lazy.lock = none ∧ lazy.waiters = [] then
    called.held lazy.calls.length entry
  else
    { called with waiters := lazy.waiters ++ [lazy.calls.length] }

/-- The first call that waits gets the lock. -/
def resume (lazy : LazyResource) : Option LazyResource :=
  match lazy.lock, lazy.waiters with
  | none, call :: waiters =>
      lazy.calls[call]?.map fun cell => { lazy with waiters := waiters }.held call cell.entry
  | _, _ => none

/-- `_start` after its factory made a resource. -/
def produce (lazy : LazyResource) (call : Nat) (hasClose : Bool) : LazyResource :=
  let made : LazyResource := { lazy with products := lazy.products ++ [{ hasClose }] }
  if lazy.closed then
    made.beginClose call .start lazy.products.length
  else
    { made with resource := some lazy.products.length }.finish call
      (.resource lazy.products.length)

/-- The call that holds the lock, and where it is suspended. -/
def holder (lazy : LazyResource) : Option (Nat × LazyCall) :=
  lazy.lock.bind fun call => lazy.calls[call]?.map fun cell => (call, cell)

/-- One transition. -/
def step (lazy : LazyResource) : LazyAction → Option LazyResource
  | .call entry => some (lazy.newCall entry)
  | .resume => lazy.resume
  | .factoryRaises =>
      match lazy.holder with
      | some (call, { phase := .creating, .. }) => some (lazy.finish call (.raised .factory))
      | _ => none
  | .factoryReturns hasClose =>
      match lazy.holder with
      | some (call, { phase := .creating, .. }) =>
          if lazy.closesAll ∧ ¬ hasClose then none else some (lazy.produce call hasClose)
      | _ => none
  | .closeEnds succeeds =>
      match lazy.holder with
      | some (call, { phase := .closing product, entry, .. }) =>
          let ended : LazyResource :=
            { lazy with
              products := lazy.products.modify product fun made => { made with live := false } }
          some (ended.finish call
            (if succeeds then lazy.closedOutcome entry else .raised .close))
      | _ => none

/-- All interleavings at a new lazy value. -/
def system (fresh : LazyResource) : LabelledSystem LazyResource LazyAction where
  starts lazy := lazy = fresh
  step := step

/-- The calls are in the queue of the lock, have it, or have ended.  `entering`
is a call that gets the lock in this step. -/
structure CallInvariant (entering : Option Nat) (lazy : LazyResource) : Prop where
  queue : ∀ call, call ∈ lazy.waiters ∨ entering = some call ↔
    ∃ cell, lazy.calls[call]? = some cell ∧ cell.phase = .waiting
  nodup : lazy.waiters.Nodup
  entering_free : ∀ call, entering = some call → call ∉ lazy.waiters ∧ lazy.lock = none
  holds : ∀ call, lazy.lock = some call ↔
    ∃ cell, lazy.calls[call]? = some cell ∧ cell.phase.holdsLock = true
  closed_iff : lazy.closed = true ↔ ∃ cell ∈ lazy.calls, cell.entry = .aclose
  late : ∀ cell ∈ lazy.calls, cell.late = true → lazy.closed = true
  lateStart : ∀ cell ∈ lazy.calls, cell.entry = .start → cell.late = true →
    cell.phase = .waiting ∨ cell.phase = .ended (.raised (.closed lazy.closedMessage))

section

variable {lazy next : LazyResource} {entering : Option Nat} {call : Nat} {cell : LazyCall}
  {phase : LazyPhase}

/-- The call that has the lock, or gets it, goes on. -/
theorem CallInvariant.move (invariant : lazy.CallInvariant entering)
    (found : lazy.calls[call]? = some cell) (inside : entering = some call ∨ lazy.lock = some call)
    (alone : entering = none ∨ entering = some call)
    (calls : next.calls = lazy.calls.modify call fun cell => { cell with phase := phase })
    (lock : next.lock = if phase.holdsLock then some call else none)
    (waiters : next.waiters = lazy.waiters) (closed : next.closed = lazy.closed)
    (message : next.closedMessage = lazy.closedMessage) (notWaiting : phase ≠ .waiting)
    (lateStart : cell.entry = .start → cell.late = true →
      phase = .ended (.raised (.closed lazy.closedMessage))) : next.CallInvariant none := by
  have unqueued : call ∉ lazy.waiters := by
    rcases inside with enters | locked
    · exact (invariant.entering_free call enters).1
    · intro member
      obtain ⟨first, foundFirst, waits⟩ := (invariant.queue call).mp (Or.inl member)
      obtain ⟨second, foundSecond, holds⟩ := (invariant.holds call).mp locked
      obtain rfl : first = second := Option.some.inj (foundFirst.symm.trans foundSecond)
      rw [waits] at holds
      cases holds
  have others (other : Nat) (apart : call ≠ other) : next.calls[other]? = lazy.calls[other]? := by
    simp [calls, apart]
  have own : next.calls[call]? = some { cell with phase := phase } := by
    simp [calls, found]
  have members {after : LazyCall} (member : after ∈ next.calls) :
      after = { cell with phase := phase } ∨ after ∈ lazy.calls := by
    rw [calls] at member
    rcases mem_modify member with old | ⟨before, foundBefore, rfl⟩
    · exact Or.inr old
    · obtain rfl : cell = before := by simpa [found] using foundBefore
      exact Or.inl rfl
  have inCalls : cell ∈ lazy.calls := List.mem_of_getElem? found
  refine ⟨fun other => ?_, waiters ▸ invariant.nodup, nofun, fun other => ?_, ?_, ?_, ?_⟩
  · rw [waiters]
    by_cases same : call = other
    · subst same
      rw [own]
      simp [unqueued, notWaiting]
    · rw [others other same, ← invariant.queue other]
      rcases alone with rfl | rfl
      · rfl
      · simp [same]
  · by_cases same : call = other
    · subst same
      rw [own, lock]
      by_cases holds : phase.holdsLock = true <;> simp [holds]
    · rw [others other same, ← invariant.holds other, lock]
      have free : lazy.lock ≠ some other := by
        rcases inside with enters | locked
        · rw [(invariant.entering_free call enters).2]
          nofun
        · rw [locked]
          simpa using same
      by_cases holds : phase.holdsLock = true <;> simp [holds, same, free]
  · rw [closed, invariant.closed_iff]
    constructor
    · rintro ⟨before, member, isClose⟩
      obtain ⟨index, inLazy⟩ := List.mem_iff_getElem?.mp member
      by_cases same : call = index
      · subst same
        obtain rfl : cell = before := by simpa [found] using inLazy
        exact ⟨_, List.mem_of_getElem? own, isClose⟩
      · exact ⟨before, List.mem_of_getElem? ((others index same).trans inLazy), isClose⟩
    · rintro ⟨after, member, isClose⟩
      rcases members member with rfl | old
      · exact ⟨cell, inCalls, isClose⟩
      · exact ⟨after, old, isClose⟩
  · intro after member isLate
    rw [closed]
    rcases members member with rfl | old
    · exact invariant.late cell inCalls isLate
    · exact invariant.late after old isLate
  · intro after member isStart isLate
    rw [message]
    rcases members member with rfl | old
    · exact Or.inr (lateStart isStart isLate)
    · exact invariant.lateStart after old isStart isLate

/-- A call joins the others, waiting. -/
theorem CallInvariant.join (invariant : lazy.CallInvariant none) {entry : LazyEntry}
    (calls : next.calls = lazy.calls ++ [{ entry, late := lazy.closed }])
    (queued : next.waiters = lazy.waiters ++ [lazy.calls.length] ∧ entering = none ∨
      next.waiters = [] ∧ lazy.waiters = [] ∧ entering = some lazy.calls.length ∧
        lazy.lock = none)
    (lock : next.lock = lazy.lock)
    (closed : next.closed = (lazy.closed || decide (entry = LazyEntry.aclose)))
    (message : next.closedMessage = lazy.closedMessage) : next.CallInvariant entering := by
  have fresh : lazy.calls.length ∉ lazy.waiters := by
    intro member
    obtain ⟨cell, found, -⟩ := (invariant.queue _).mp (Or.inl member)
    simp at found
  have wasClosed (isClosed : lazy.closed = true) : next.closed = true := by simp [closed, isClosed]
  refine ⟨fun call => ?_, ?_, fun call enters => ?_, fun call => ?_, ?_, ?_, ?_⟩
  · have before := invariant.queue call
    simp only [reduceCtorEq, or_false] at before
    have after : call ∈ next.waiters ∨ entering = some call ↔
        call ∈ lazy.waiters ∨ call = lazy.calls.length := by
      rcases queued with ⟨waiters, rfl⟩ | ⟨waiters, empty, rfl, -⟩
      · simp [waiters]
      · simp [waiters, empty, eq_comm]
    rw [after, before, calls]
    constructor
    · rintro (⟨cell, found, waits⟩ | rfl)
      · exact ⟨cell, getElem?_concat_eq_some.mpr (Or.inl found), waits⟩
      · exact ⟨_, getElem?_concat_eq_some.mpr (Or.inr ⟨rfl, rfl⟩), rfl⟩
    · rintro ⟨cell, found, waits⟩
      rcases getElem?_concat_eq_some.mp found with old | ⟨rfl, rfl⟩
      · exact Or.inl ⟨cell, old, waits⟩
      · exact Or.inr rfl
  · rcases queued with ⟨waiters, -⟩ | ⟨waiters, -⟩
    · rw [waiters]
      exact List.Nodup.append invariant.nodup (List.nodup_singleton _)
        (List.disjoint_singleton.mpr fresh)
    · rw [waiters]
      exact List.nodup_nil
  · rcases queued with ⟨-, rfl⟩ | ⟨waiters, -, -, free⟩
    · cases enters
    · rw [waiters, lock]
      exact ⟨List.not_mem_nil, free⟩
  · rw [lock, invariant.holds call, calls]
    constructor
    · rintro ⟨cell, found, holds⟩
      exact ⟨cell, getElem?_concat_eq_some.mpr (Or.inl found), holds⟩
    · rintro ⟨cell, found, holds⟩
      rcases getElem?_concat_eq_some.mp found with old | ⟨rfl, rfl⟩
      · exact ⟨cell, old, holds⟩
      · cases holds
  · rw [closed, Bool.or_eq_true, invariant.closed_iff, decide_eq_true_eq, calls]
    simp [or_and_right, exists_or]
  · intro cell member isLate
    rw [calls, List.mem_append, List.mem_singleton] at member
    rcases member with old | rfl
    · exact wasClosed (invariant.late cell old isLate)
    · exact wasClosed isLate
  · intro cell member isStart isLate
    rw [calls, List.mem_append, List.mem_singleton] at member
    rw [message]
    rcases member with old | rfl
    · exact invariant.lateStart cell old isStart isLate
    · exact Or.inl rfl

end

end LazyResource

end FitzClient
