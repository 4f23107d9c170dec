import Mathlib.Data.List.Basic

/-!
# Subscription consumers

An `AsyncSubscription` is one local consumer of a subscription: a bounded
queue that `push` fills and the application reads, ended by an exception or by
the end marker.  `aclose` waits for the lock of the registry, leaves the wire
there and, as the last consumer, unsubscribes.  The exception that a consumer
was failed with is history.

The callbacks `on_push` and `on_failure` do not touch the queue and are left
out.
-/

namespace FitzClient

/-- The exceptions that a consumer is failed with: a
`SubscriptionBackpressureError`, a `ReconnectRestoreError`, or any other. -/
inductive SubscriptionError
  | backpressure
  | restore
  | other
  deriving DecidableEq, Repr

/-- What the queue of a consumer holds; `finished` is the marker `_END`. -/
inductive QueueEntry (Item : Type)
  | item (value : Item)
  | exception (error : SubscriptionError)
  | finished
  deriving DecidableEq, Repr

/-- How far `aclose` has come.  The flag `_wire_closed` is set in every phase
but the first. -/
inductive ClosePhase
  | idle
  | waiting
  | unsubscribing
  | ended
  deriving DecidableEq, Repr

structure AsyncSubscription (Item : Type) where
  registration : String
  queue : List (QueueEntry Item) := []
  closed : Bool := false
  closing : ClosePhase := .idle
  failure : Option SubscriptionError := none
  deriving DecidableEq, Repr

namespace AsyncSubscription

variable {Item : Type}

/-- `put_nowait` raises `QueueFull`; a queue of capacity zero is unbounded. -/
def full (subscription : AsyncSubscription Item) (capacity : Nat) : Bool :=
  0 < capacity && capacity ≤ subscription.queue.length

def fail (subscription : AsyncSubscription Item) (error : SubscriptionError) :
    AsyncSubscription Item :=
  if subscription.closed then
    subscription
  else
    { subscription with closed := true, queue := [.exception error], failure := some error }

def finish (subscription : AsyncSubscription Item) : AsyncSubscription Item :=
  if subscription.closed then
    subscription
  else
    { subscription with closed := true, queue := [.finished] }

/-- `push` and what it returns. -/
def push (subscription : AsyncSubscription Item) (capacity : Nat) (item : Item) :
    AsyncSubscription Item × Bool :=
  if subscription.closed then
    (subscription, false)
  else if subscription.full capacity then
    (subscription.fail .backpressure, false)
  else
    ({ subscription with queue := subscription.queue ++ [.item item] }, true)

/-- `__anext__` takes the first entry of the queue; on an empty one it waits,
or stops the iteration of a closed consumer. -/
def read (subscription : AsyncSubscription Item) : AsyncSubscription Item :=
  match subscription.queue with
  | [] => subscription
  | .exception _ :: queue => { subscription with queue, closed := true }
  | _ :: queue => { subscription with queue }

/-- `aclose` up to the lock of the registry, where a first call waits. -/
def aclose (subscription : AsyncSubscription Item) : AsyncSubscription Item :=
  if subscription.closing = .idle then
    { subscription with closing := .waiting }
  else
    subscription

/-- The last consumer of a wire waits for its UNSUBSCRIBE. -/
def awaitUnsubscribe (subscription : AsyncSubscription Item) : AsyncSubscription Item :=
  { subscription with closing := .unsubscribing }

/-- The end of `aclose`, however `_close_wire` ended. -/
def endClose (subscription : AsyncSubscription Item) : AsyncSubscription Item :=
  { subscription.finish with closing := .ended }

section registrations

variable (subscription : AsyncSubscription Item)

@[simp]
theorem registration_fail (error : SubscriptionError) :
    (subscription.fail error).registration = subscription.registration := by
  unfold fail
  split <;> rfl

@[simp]
theorem registration_finish :
    subscription.finish.registration = subscription.registration := by
  unfold finish
  split <;> rfl

@[simp]
theorem registration_push (capacity : Nat) (item : Item) :
    (subscription.push capacity item).1.registration = subscription.registration := by
  unfold push
  split
  · rfl
  · split
    · exact subscription.registration_fail .backpressure
    · rfl

@[simp]
theorem registration_aclose :
    subscription.aclose.registration = subscription.registration := by
  unfold aclose
  split <;> rfl

@[simp]
theorem registration_endClose :
    subscription.endClose.registration = subscription.registration :=
  subscription.registration_finish

@[simp]
theorem registration_awaitUnsubscribe :
    subscription.awaitUnsubscribe.registration = subscription.registration :=
  rfl

@[simp]
theorem registration_read : subscription.read.registration = subscription.registration := by
  unfold read
  split <;> rfl

end registrations

/-- Only the exception that the consumer was failed with is in its queue. -/
def Sound (subscription : AsyncSubscription Item) : Prop :=
  ∀ error, .exception error ∈ subscription.queue → subscription.failure = some error

/-- Unless the consumer has failed, it accepts items. -/
def Receiving (subscription : AsyncSubscription Item) : Prop :=
  subscription.failure = none → subscription.closed = false

variable {subscription : AsyncSubscription Item}

/-- A push fails a consumer that is open and full, and no other. -/
theorem failure_push (capacity : Nat) (item : Item) :
    (subscription.push capacity item).1.failure =
      if subscription.closed = false ∧ subscription.full capacity = true then
        some .backpressure
      else
        subscription.failure := by
  unfold push fail
  cases subscription.closed <;> cases subscription.full capacity <;> rfl

theorem closed_push (capacity : Nat) (item : Item) :
    (subscription.push capacity item).1.closed =
      (subscription.closed || subscription.full capacity) := by
  unfold push fail
  cases closed : subscription.closed <;> cases subscription.full capacity <;> simp [closed]

theorem Receiving.push (receiving : subscription.Receiving) (capacity : Nat) (item : Item) :
    (subscription.push capacity item).1.Receiving := by
  intro unfailed
  rw [failure_push] at unfailed
  rw [closed_push]
  split at unfailed
  · cases unfailed
  · next room =>
      have isOpen := receiving unfailed
      simpa [isOpen] using room

/-- A push that does not fail a receiving consumer is accepted. -/
theorem push_accepted (receiving : subscription.Receiving) {capacity : Nat} {item : Item}
    (unfailed : (subscription.push capacity item).1.failure = none) :
    subscription.failure = none ∧ (subscription.push capacity item).2 = true := by
  rw [failure_push] at unfailed
  split at unfailed
  · cases unfailed
  · next room =>
      have isOpen := receiving unfailed
      have notFull : subscription.full capacity = false := by simpa [isOpen] using room
      exact ⟨unfailed, by simp [push, isOpen, notFull]⟩

theorem mem_queue_push {error : SubscriptionError} {capacity : Nat} {item : Item}
    (member : .exception error ∈ (subscription.push capacity item).1.queue) :
    .exception error ∈ subscription.queue ∨
      (subscription.push capacity item).1.failure = some error := by
  unfold push fail at member ⊢
  cases isClosed : subscription.closed <;> cases isFull : subscription.full capacity <;>
    simp_all

theorem Sound.push (sound : subscription.Sound) (capacity : Nat) (item : Item) :
    (subscription.push capacity item).1.Sound := by
  intro error member
  rcases mem_queue_push member with old | failed
  · rw [failure_push]
    split
    · next failing =>
        simp [AsyncSubscription.push, fail, failing.1, failing.2] at member
        rw [member]
    · exact sound error old
  · exact failed

/-- Ending a consumer, and the phases of its end, fail nobody. -/
theorem failure_endClose : subscription.endClose.failure = subscription.failure := by
  unfold endClose finish
  split <;> rfl

theorem Sound.endClose (sound : subscription.Sound) : subscription.endClose.Sound := by
  intro error member
  rw [failure_endClose]
  unfold AsyncSubscription.endClose finish at member
  split at member
  · exact sound error member
  · cases List.mem_singleton.mp member

theorem failure_read : subscription.read.failure = subscription.failure := by
  unfold read
  split <;> rfl

theorem Sound.read (sound : subscription.Sound) : subscription.read.Sound := by
  intro error member
  rw [failure_read]
  unfold AsyncSubscription.read at member
  split at member
  · exact sound error member
  · next entry rest found =>
      exact sound error (found ▸ List.mem_cons_of_mem _ member)
  · next entry rest _ found =>
      exact sound error (found ▸ List.mem_cons_of_mem _ member)

theorem Receiving.read (receiving : subscription.Receiving) (sound : subscription.Sound) :
    subscription.read.Receiving := by
  intro unfailed
  rw [failure_read] at unfailed
  unfold AsyncSubscription.read
  split
  · exact receiving unfailed
  · next error rest found =>
      have failed := sound error (found ▸ List.mem_cons_self)
      rw [unfailed] at failed
      cases failed
  · exact receiving unfailed

/-- A consumer that is open has nothing but items in its queue. -/
def Plain (subscription : AsyncSubscription Item) : Prop :=
  subscription.closed = false → ∀ entry ∈ subscription.queue, ∃ item, entry = .item item

theorem Plain.push (plain : subscription.Plain) (capacity : Nat) (item : Item) :
    (subscription.push capacity item).1.Plain := by
  unfold AsyncSubscription.push fail
  split
  · exact plain
  · next isOpen =>
      split
      · exact nofun
      · intro unclosed entry present
        rcases List.mem_append.mp present with queued | last
        · exact plain unclosed entry queued
        · exact ⟨item, List.mem_singleton.mp last⟩

theorem Plain.read (plain : subscription.Plain) : subscription.read.Plain := by
  unfold AsyncSubscription.read
  split
  · exact plain
  · exact nofun
  · next queue queued =>
      intro isOpen entry present
      exact plain isOpen entry (queued ▸ List.mem_cons_of_mem _ present)

theorem Plain.fail (plain : subscription.Plain) (error : SubscriptionError) :
    (subscription.fail error).Plain := by
  unfold AsyncSubscription.fail
  split
  · exact plain
  · exact nofun

theorem Plain.finish (plain : subscription.Plain) : subscription.finish.Plain := by
  unfold AsyncSubscription.finish
  split
  · exact plain
  · exact nofun

theorem closed_fail (error : SubscriptionError) : (subscription.fail error).closed = true := by
  unfold AsyncSubscription.fail
  split
  · next closed => exact closed
  · rfl

theorem closed_finish : subscription.finish.closed = true := by
  unfold AsyncSubscription.finish
  split
  · next closed => exact closed
  · rfl

/-- Reading never opens a consumer. -/
theorem closed_read (closed : subscription.closed = true) : subscription.read.closed = true := by
  unfold AsyncSubscription.read
  split
  · exact closed
  · rfl
  · exact closed

end AsyncSubscription

end FitzClient
