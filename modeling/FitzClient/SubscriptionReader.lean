import FitzClient.AsyncSubscription
import FitzClient.LabelledSystem

/-!
# The reader of a subscription

One task iterates over an `AsyncSubscription` while others push into it, fail
it, finish it and close it.  A reader that finds the queue empty leaves a
future with the queue; what is put next settles that future, and the reader
takes the head of the queue when it runs again, which may be after more has
happened.  Every call of `aclose` waits for `_close_lock`, and the first one
that has it calls `_close_wire`, during which all other calls may come, also
those that the registry makes in answer to it.

Here `put_nowait` may raise `QueueFull`, and the loops that drain the queue are
those of the source; that they make room for what is put after them is proved,
not assumed.
-/

namespace FitzClient

namespace AsyncSubscription

variable {Item : Type}

/-- `put_nowait`, with `none` for `QueueFull`. -/
def putNowait (subscription : AsyncSubscription Item) (capacity : Nat) (entry : QueueEntry Item) :
    Option (AsyncSubscription Item) :=
  if subscription.full capacity then
    none
  else
    some { subscription with queue := subscription.queue ++ [entry] }

/-- `while not self._queue.empty(): self._queue.get_nowait()` -/
def drain : List (QueueEntry Item) → List (QueueEntry Item)
  | [] => []
  | _ :: queue => drain queue

/-- `fail` -/
def failNowait (subscription : AsyncSubscription Item) (capacity : Nat)
    (error : SubscriptionError) : Option (AsyncSubscription Item) :=
  if subscription.closed then
    some subscription
  else
    { subscription with
      closed := true
      queue := drain subscription.queue
      failure := some error }.putNowait capacity (.exception error)

/-- `finish` -/
def finishNowait (subscription : AsyncSubscription Item) (capacity : Nat) :
    Option (AsyncSubscription Item) :=
  if subscription.closed then
    some subscription
  else
    { subscription with closed := true, queue := drain subscription.queue }.putNowait capacity
      .finished

/-- `push` and what it returns. -/
def pushNowait (subscription : AsyncSubscription Item) (capacity : Nat) (item : Item) :
    Option (AsyncSubscription Item × Bool) :=
  if subscription.closed then
    some (subscription, false)
  else
    match subscription.putNowait capacity (.item item) with
    | some after => some (after, true)
    | none => (subscription.failNowait capacity .backpressure).map fun after => (after, false)

@[simp]
theorem drain_eq_nil (queue : List (QueueEntry Item)) : drain queue = [] := by
  induction queue with
  | nil => rfl
  | cons _ queue ih => exact ih

theorem putNowait_of_empty {subscription : AsyncSubscription Item}
    (empty : subscription.queue = []) (capacity : Nat) (entry : QueueEntry Item) :
    subscription.putNowait capacity entry = some { subscription with queue := [entry] } := by
  have room : subscription.full capacity = false := by
    simp [full, empty, Nat.pos_iff_ne_zero]
  simp [putNowait, room, empty]

/-- After the loop, `fail` always finds room. -/
theorem failNowait_eq (subscription : AsyncSubscription Item) (capacity : Nat)
    (error : SubscriptionError) :
    subscription.failNowait capacity error = some (subscription.fail error) := by
  unfold failNowait fail
  split
  · rfl
  · rw [putNowait_of_empty (drain_eq_nil subscription.queue)]

theorem finishNowait_eq (subscription : AsyncSubscription Item) (capacity : Nat) :
    subscription.finishNowait capacity = some subscription.finish := by
  unfold finishNowait finish
  split
  · rfl
  · rw [putNowait_of_empty (drain_eq_nil subscription.queue)]

theorem pushNowait_eq (subscription : AsyncSubscription Item) (capacity : Nat) (item : Item) :
    subscription.pushNowait capacity item = some (subscription.push capacity item) := by
  unfold pushNowait push putNowait
  cases subscription.closed <;> cases subscription.full capacity <;>
    simp [failNowait_eq]

section closing

variable (subscription : AsyncSubscription Item)

@[simp]
theorem closing_fail (error : SubscriptionError) :
    (subscription.fail error).closing = subscription.closing := by
  unfold fail
  split <;> rfl

@[simp]
theorem closing_finish : subscription.finish.closing = subscription.closing := by
  unfold finish
  split <;> rfl

@[simp]
theorem closing_push (capacity : Nat) (item : Item) :
    (subscription.push capacity item).1.closing = subscription.closing := by
  unfold push
  split
  · rfl
  · split
    · exact subscription.closing_fail .backpressure
    · rfl

@[simp]
theorem closing_read : subscription.read.closing = subscription.closing := by
  unfold read
  split <;> rfl

end closing

end AsyncSubscription

/-- What a read ends with: an item, an exception, or `StopAsyncIteration`. -/
inductive ReadResult (Item : Type)
  | item (value : Item)
  | raised (error : SubscriptionError)
  | stopped
  deriving DecidableEq, Repr

/-- The item that a read gave, if any. -/
def ReadResult.item? {Item : Type} : ReadResult Item → Option Item
  | .item value => some value
  | .raised _ | .stopped => none

/-- What `__anext__` makes of an entry. -/
def QueueEntry.result {Item : Type} : QueueEntry Item → ReadResult Item
  | .item value => .item value
  | .exception error => .raised error
  | .finished => .stopped

/-- Whether the iterating task is in `__anext__`, and whether its future is
settled. -/
inductive ReaderPhase
  | idle
  | waiting
  | woken
  deriving DecidableEq, Repr

/-- `put_nowait` settles the future of a waiting reader. -/
def ReaderPhase.wake : ReaderPhase → ReaderPhase
  | .waiting | .woken => .woken
  | .idle => .idle

/-- How far a call of `aclose` has come. -/
inductive CloserPhase
  | locking
  | closing
  | returned
  | raised
  deriving DecidableEq, Repr

/-- A subscription with its reader and its closers; what pushes accepted, what
reads ended with, how often `_close_wire` was called and whether a `QueueFull`
escaped is history. -/
structure ReadSubscription (Item : Type) where
  capacity : Nat
  subscription : AsyncSubscription Item
  reader : ReaderPhase := .idle
  closeLock : Option Nat := none
  closers : List CloserPhase := []
  wireRuns : Nat := 0
  accepted : List Item := []
  reads : List (ReadResult Item) := []
  escaped : Bool := false
  deriving DecidableEq, Repr

/-- Calls from outside, a closer that gets the lock, the end of `_close_wire`,
and the reading task. -/
inductive SubscriptionUse (Item : Type)
  | push (item : Item)
  | fail (error : SubscriptionError)
  | finish
  | aclose
  | enterClose (closer : Nat)
  | wireEnds (succeeds : Bool)
  | read
  | resumeRead
  | cancelRead
  deriving DecidableEq, Repr

theorem ReaderPhase.wake_ne_waiting (phase : ReaderPhase) : phase.wake ≠ .waiting := by
  cases phase <;> nofun

namespace ReadSubscription

variable {Item : Type}

/-- A method that puts something unless the subscription is closed. -/
def replace (state : ReadSubscription Item) (after : Option (AsyncSubscription Item)) :
    ReadSubscription Item :=
  match after with
  | none => { state with escaped := true }
  | some after =>
      { state with
        subscription := after
        reader := if state.subscription.closed then state.reader else state.reader.wake }

def push (state : ReadSubscription Item) (item : Item) : ReadSubscription Item :=
  let answer := state.subscription.pushNowait state.capacity item
  let after := state.replace (answer.map Prod.fst)
  if answer.any Prod.snd then { after with accepted := state.accepted ++ [item] } else after

/-- `__anext__` takes the head of the queue. -/
def takeHead (state : ReadSubscription Item) (entry : QueueEntry Item) : ReadSubscription Item :=
  { state with
    subscription := state.subscription.read
    reader := .idle
    reads := state.reads ++ [entry.result] }

/-- `__anext__` up to its `await`. -/
def read (state : ReadSubscription Item) : Option (ReadSubscription Item) :=
  if state.reader ≠ .idle then
    none
  else
    match state.subscription.queue with
    | [] =>
        if state.subscription.closed then
          some { state with reads := state.reads ++ [.stopped] }
        else
          some { state with reader := .waiting }
    | entry :: _ => some (state.takeHead entry)

/-- `__anext__` once its future is settled: it waits again if the queue is
empty. -/
def resumeRead (state : ReadSubscription Item) : Option (ReadSubscription Item) :=
  if state.reader ≠ .woken then
    none
  else
    match state.subscription.queue with
    | [] => some { state with reader := .waiting }
    | entry :: _ => some (state.takeHead entry)

/-- The reading task is cancelled inside `__anext__`. -/
def cancelRead (state : ReadSubscription Item) : Option (ReadSubscription Item) :=
  if state.reader = .idle then none else some { state with reader := .idle }

/-- `aclose` with the lock, up to the end of `_close_wire`. -/
def enterClose (state : ReadSubscription Item) (closer : Nat) : Option (ReadSubscription Item) :=
  if state.closeLock ≠ none ∨ state.closers[closer]? ≠ some .locking then
    none
  else if state.subscription.closing ≠ .idle then
    some { state with closers := state.closers.set closer .returned }
  else
    some { state with
      subscription := state.subscription.aclose
      closeLock := some closer
      closers := state.closers.set closer .closing
      wireRuns := state.wireRuns + 1 }

/-- `_close_wire` ends, and `aclose` with it. -/
def wireEnds (state : ReadSubscription Item) (succeeds : Bool) : Option (ReadSubscription Item) :=
  state.closeLock.map fun closer =>
    let ended := state.replace (state.subscription.finishNowait state.capacity)
    { ended with
      subscription := { ended.subscription with closing := .ended }
      closeLock := none
      closers := state.closers.set closer (if succeeds then .returned else .raised) }

/-- One transition. -/
def step (state : ReadSubscription Item) : SubscriptionUse Item → Option (ReadSubscription Item)
  | .push item => some (state.push item)
  | .fail error => some (state.replace (state.subscription.failNowait state.capacity error))
  | .finish => some (state.replace (state.subscription.finishNowait state.capacity))
  | .aclose => some { state with closers := state.closers ++ [.locking] }
  | .enterClose closer => state.enterClose closer
  | .wireEnds succeeds => state.wireEnds succeeds
  | .read => state.read
  | .resumeRead => state.resumeRead
  | .cancelRead => state.cancelRead

/-- All interleavings at a new subscription of this capacity. -/
def system (Item : Type) (capacity : Nat) (registration : String) :
    LabelledSystem (ReadSubscription Item) (SubscriptionUse Item) where
  starts state := state = { capacity, subscription := { registration } }
  step := step

/-- The items that the reads gave. -/
def yielded (state : ReadSubscription Item) : List Item :=
  state.reads.filterMap ReadResult.item?

/-- What the reader of a closed subscription has to see. -/
def terminal (state : ReadSubscription Item) : QueueEntry Item :=
  match state.subscription.failure with
  | some error => .exception error
  | none => .finished

section transitions

variable {state next : ReadSubscription Item}

theorem terminal_congr (failure : next.subscription.failure = state.subscription.failure) :
    next.terminal = state.terminal := by
  rw [terminal, terminal, failure]

/-- What a transition does to the queue, to its history and to the reader. -/
inductive Change (state next : ReadSubscription Item) : Prop
  | quiet (closed : next.subscription.closed = state.subscription.closed)
      (failure : next.subscription.failure = state.subscription.failure)
      (queue : next.subscription.queue = state.subscription.queue)
      (reads : next.reads = state.reads) (accepted : next.accepted = state.accepted)
      (reader : next.reader = state.reader ∨ next.reader = .idle ∨
        next.reader = .waiting ∧ state.subscription.queue = [] ∧
          (state.subscription.closed = false ∨ state.reader = .woken))
  | accept (item : Item) (isOpen : state.subscription.closed = false)
      (room : state.subscription.full state.capacity = false)
      (closed : next.subscription.closed = false)
      (failure : next.subscription.failure = state.subscription.failure)
      (queue : next.subscription.queue = state.subscription.queue ++ [.item item])
      (reads : next.reads = state.reads) (accepted : next.accepted = state.accepted ++ [item])
      (reader : next.reader = state.reader.wake)
  | finish (isOpen : state.subscription.closed = false) (closed : next.subscription.closed = true)
      (queue : next.subscription.queue = [next.terminal])
      (reads : next.reads = state.reads) (accepted : next.accepted = state.accepted)
      (reader : next.reader = state.reader.wake)
  | take (entry : QueueEntry Item) (rest : List (QueueEntry Item))
      (found : state.subscription.queue = entry :: rest)
      (closed : next.subscription.closed = true ↔
        state.subscription.closed = true ∨ ∃ error, entry = .exception error)
      (failure : next.subscription.failure = state.subscription.failure)
      (queue : next.subscription.queue = rest)
      (reads : next.reads = state.reads ++ [entry.result])
      (accepted : next.accepted = state.accepted) (reader : next.reader = .idle)
  | stop (isClosed : state.subscription.closed = true) (empty : state.subscription.queue = [])
      (closed : next.subscription.closed = true)
      (failure : next.subscription.failure = state.subscription.failure)
      (queue : next.subscription.queue = []) (reads : next.reads = state.reads ++ [.stopped])
      (accepted : next.accepted = state.accepted) (reader : next.reader = .idle)

/-- Only a consumer that is ended has a failure. -/
def Unfailed (state : ReadSubscription Item) : Prop :=
  state.subscription.closed = false → state.subscription.failure = none

theorem change_fail (error : SubscriptionError) :
    Change state (state.replace (some (state.subscription.fail error))) := by
  cases closed : state.subscription.closed with
  | true =>
      have kept : state.subscription.fail error = state.subscription := if_pos closed
      rw [kept]
      exact .quiet rfl rfl rfl rfl rfl (Or.inl (if_pos closed))
  | false =>
      exact .finish closed (by simp [replace, AsyncSubscription.fail, closed])
        (by simp [replace, AsyncSubscription.fail, closed, terminal]) rfl rfl
        (by simp [replace, closed])

/-- The end of a subscription, alone or with that of `_close_wire`. -/
theorem change_finish (unfailed : state.Unfailed) (closing : ClosePhase) (closeLock : Option Nat)
    (closers : List CloserPhase) :
    Change state { state.replace (some state.subscription.finish) with
      subscription := { state.subscription.finish with closing }
      closeLock
      closers } := by
  cases closed : state.subscription.closed with
  | true =>
      have kept : state.subscription.finish = state.subscription := if_pos closed
      rw [kept]
      exact .quiet rfl rfl rfl rfl rfl (Or.inl (if_pos closed))
  | false =>
      exact .finish closed (by simp [AsyncSubscription.finish, closed])
        (by simp [AsyncSubscription.finish, closed, terminal, unfailed closed]) rfl rfl
        (by simp [replace, closed])

/-- A push accepts the item, or ends the subscription, or finds it ended. -/
theorem change_push (item : Item) : Change state (state.push item) := by
  unfold push
  rw [AsyncSubscription.pushNowait_eq]
  unfold AsyncSubscription.push
  cases closed : state.subscription.closed with
  | true => exact .quiet rfl rfl rfl rfl rfl (Or.inl (if_pos closed))
  | false =>
      cases full : state.subscription.full state.capacity with
      | true => exact change_fail .backpressure
      | false =>
          exact .accept item closed full rfl rfl rfl rfl rfl (by simp [replace, closed])

theorem change_takeHead {entry : QueueEntry Item} {rest : List (QueueEntry Item)}
    (found : state.subscription.queue = entry :: rest) : Change state (state.takeHead entry) := by
  cases entry <;>
    exact .take _ rest found (by simp [takeHead, AsyncSubscription.read, found])
      (AsyncSubscription.failure_read) (by simp [takeHead, AsyncSubscription.read, found]) rfl rfl
      rfl

theorem change_read (stepped : state.read = some next) : Change state next := by
  unfold read at stepped
  split at stepped
  · cases stepped
  · next idle =>
      rw [not_not] at idle
      split at stepped
      · next empty =>
          cases closed : state.subscription.closed with
          | true =>
              simp only [closed, if_true, Option.some.injEq] at stepped
              subst stepped
              exact .stop closed empty closed rfl empty rfl rfl idle
          | false =>
              simp only [closed, Bool.false_eq_true, if_false, Option.some.injEq] at stepped
              subst stepped
              exact .quiet rfl rfl rfl rfl rfl (Or.inr (Or.inr ⟨rfl, empty, Or.inl closed⟩))
      · next entry rest found =>
          cases stepped
          exact change_takeHead found

theorem change_resumeRead (stepped : state.resumeRead = some next) : Change state next := by
  unfold resumeRead at stepped
  split at stepped
  · cases stepped
  · next woken =>
      rw [not_not] at woken
      split at stepped
      · next empty =>
          cases stepped
          exact .quiet rfl rfl rfl rfl rfl (Or.inr (Or.inr ⟨rfl, empty, Or.inr woken⟩))
      · next entry rest found =>
          cases stepped
          exact change_takeHead found

/-- Every transition is one of these changes. -/
theorem change_of_step {use : SubscriptionUse Item} (unfailed : state.Unfailed)
    (stepped : state.step use = some next) : Change state next := by
  cases use with
  | push item =>
      cases stepped
      exact change_push item
  | fail error =>
      rw [ReadSubscription.step, AsyncSubscription.failNowait_eq] at stepped
      cases stepped
      exact change_fail error
  | finish =>
      rw [ReadSubscription.step, AsyncSubscription.finishNowait_eq] at stepped
      cases stepped
      exact change_finish unfailed state.subscription.finish.closing state.closeLock state.closers
  | aclose =>
      cases stepped
      exact .quiet rfl rfl rfl rfl rfl (Or.inl rfl)
  | enterClose closer =>
      change state.enterClose closer = some next at stepped
      unfold enterClose at stepped
      split at stepped
      · cases stepped
      · split at stepped
        · cases stepped
          exact .quiet rfl rfl rfl rfl rfl (Or.inl rfl)
        · next first =>
            have entered : state.subscription.aclose =
                { state.subscription with closing := .waiting } := if_pos (not_not.mp first)
            rw [entered] at stepped
            cases stepped
            exact .quiet rfl rfl rfl rfl rfl (Or.inl rfl)
  | wireEnds succeeds =>
      change state.wireEnds succeeds = some next at stepped
      unfold wireEnds at stepped
      rw [AsyncSubscription.finishNowait_eq, Option.map_eq_some_iff] at stepped
      obtain ⟨closer, _, rfl⟩ := stepped
      exact change_finish unfailed .ended none _
  | read => exact change_read stepped
  | resumeRead => exact change_resumeRead stepped
  | cancelRead =>
      change state.cancelRead = some next at stepped
      unfold cancelRead at stepped
      split at stepped
      · cases stepped
      · cases stepped
        exact .quiet rfl rfl rfl rfl rfl (Or.inr (Or.inl rfl))

end transitions

end ReadSubscription

end FitzClient
