import FitzClient.LabelledSystem
import Mathlib.Data.List.Basic

/-!
# The request gate

`RequestGate` bounds the requests that run at the same time.  A caller that
finds no free slot queues a future; a slot that is given back is handed to the
first queued future that is still pending, so `active` stays unchanged across
the hand-over and the waiter owns the slot before its task runs again.

Settling a future and resuming the task that awaits it are separate
transitions here, as they are on the event loop.  Cancelling a waiting task
cancels a pending future at once; when the future is already done it only
marks the task, which then sees the cancellation when it resumes.
-/

namespace FitzClient

/-- The `asyncio.Future` that a queued acquirer awaits. -/
inductive WaiterFuture
  | pending
  | granted
  | failed
  | cancelled
  deriving DecidableEq, Repr

/-- `Future.done()`. -/
def WaiterFuture.done (future : WaiterFuture) : Bool :=
  future != .pending

/-- A task suspended at `await waiter`.  `mustCancel` is a cancellation that
found the future already done. -/
structure Acquirer where
  future : WaiterFuture := .pending
  mustCancel : Bool := false
  resumed : Bool := false
  deriving DecidableEq, Repr

/-- The slot was granted and the task has not run again yet. -/
def Acquirer.ownsSlot (acquirer : Acquirer) : Bool :=
  acquirer.future == .granted && !acquirer.resumed

/-- The gate, the tasks that ever queued at it (`waiters` holds their indices)
and the `released` flag of every release token it handed out. -/
structure RequestGate where
  maximum : Nat
  queueSize : Nat
  active : Nat := 0
  closed : Bool := false
  waiters : List Nat := []
  acquirers : List Acquirer := []
  released : List Bool := []
  deriving DecidableEq, Repr

/-- What a call of `acquire` does before it first suspends. -/
inductive Admission
  | connectionClosed
  | queueFull
  | token (token : Nat)
  | waiting (waiter : Nat)
  deriving DecidableEq, Repr

namespace RequestGate

/-- `waiter.done()` for a queued waiter. -/
def waiterDone (gate : RequestGate) (waiter : Nat) : Bool :=
  match gate.acquirers[waiter]? with
  | some acquirer => acquirer.future.done
  | none => true

/-- Settle the future of one waiter. -/
def settle (gate : RequestGate) (waiter : Nat) (future : WaiterFuture) : RequestGate :=
  { gate with
    acquirers := gate.acquirers.modify waiter fun acquirer => { acquirer with future := future } }

/-- `_release_slot`: pop waiters until one is not done and hand it the slot;
when the queue runs empty the slot becomes free. -/
def releaseSlot (gate : RequestGate) : RequestGate :=
  match gate.waiters.dropWhile gate.waiterDone with
  | waiter :: rest => { gate.settle waiter .granted with waiters := rest }
  | [] => { gate with waiters := [], active := gate.active - 1 }

/-- `_release_token`: a new one-shot release closure. -/
def releaseToken (gate : RequestGate) : RequestGate :=
  { gate with released := gate.released ++ [false] }

/-- `acquire` up to its only `await`. -/
def acquire (gate : RequestGate) : Admission × RequestGate :=
  if gate.closed then
    (.connectionClosed, gate)
  else if gate.active < gate.maximum ∧ gate.waiters = [] then
    (.token gate.released.length, { gate with active := gate.active + 1 }.releaseToken)
  else if gate.queueSize ≤ gate.waiters.length then
    (.queueFull, gate)
  else
    (.waiting gate.acquirers.length,
      { gate with
        waiters := gate.waiters ++ [gate.acquirers.length]
        acquirers := gate.acquirers ++ [{}] })

/-- `task.cancel()` on a task suspended in `acquire`. -/
def cancel (gate : RequestGate) (waiter : Nat) : Option RequestGate :=
  match gate.acquirers[waiter]? with
  | none => none
  | some acquirer =>
      if acquirer.resumed then
        none
      else if acquirer.future.done then
        some { gate with
          acquirers := gate.acquirers.modify waiter fun acquirer =>
            { acquirer with mustCancel := true } }
      else
        some (gate.settle waiter .cancelled)

/-- The task of a waiter runs again. -/
def wake (gate : RequestGate) (waiter : Nat) : RequestGate :=
  { gate with
    acquirers := gate.acquirers.modify waiter fun acquirer => { acquirer with resumed := true } }

/-- `acquire` from its `await` on, once the future is done: the release token
it returns, or `none` when it raises. -/
def resume (gate : RequestGate) (waiter : Nat) : Option (Option Nat × RequestGate) :=
  match gate.acquirers[waiter]? with
  | none => none
  | some acquirer =>
      if acquirer.resumed ∨ acquirer.future = .pending then
        none
      else if acquirer.future = .granted ∧ acquirer.mustCancel = false then
        if gate.closed then
          some (none, (gate.wake waiter).releaseSlot)
        else
          some (some gate.released.length, (gate.wake waiter).releaseToken)
      -- `except BaseException`: leave the queue, or give a reserved slot back
      else if waiter ∈ gate.waiters then
        some (none, { gate.wake waiter with waiters := gate.waiters.erase waiter })
      else
        some (none, (gate.wake waiter).releaseSlot)

/-- A call of a release token: only its first call has an effect. -/
def release (gate : RequestGate) (token : Nat) : Option RequestGate :=
  match gate.released[token]? with
  | none => none
  | some true => some gate
  | some false => some { gate with released := gate.released.set token true }.releaseSlot

/-- `close`: fail every queued waiter that is still pending. -/
def close (gate : RequestGate) : RequestGate :=
  if gate.closed then
    gate
  else
    { gate with
      closed := true
      waiters := []
      acquirers := gate.acquirers.mapIdx fun waiter acquirer =>
        if waiter ∈ gate.waiters ∧ acquirer.future = .pending then
          { acquirer with future := .failed }
        else
          acquirer }

end RequestGate

/-- What can happen at a gate: calls from outside and waiting tasks resuming. -/
inductive GateAction
  | acquire
  | cancel (waiter : Nat)
  | resume (waiter : Nat)
  | release (token : Nat)
  | close
  deriving DecidableEq, Repr

namespace RequestGate

/-- One transition of the gate. -/
def step (gate : RequestGate) : GateAction → Option RequestGate
  | .acquire => some gate.acquire.2
  | .cancel waiter => gate.cancel waiter
  | .resume waiter => (gate.resume waiter).map Prod.snd
  | .release token => gate.release token
  | .close => some gate.close

/-- All interleavings at a gate created with the given bounds. -/
def system (maximum queueSize : Nat) : LabelledSystem RequestGate GateAction where
  starts gate := gate = { maximum, queueSize }
  step := step

/-- The callers that hold a token they have not released. -/
def unreleased (gate : RequestGate) : Nat :=
  gate.released.count false

/-- The waiters that own a slot but have not run again yet. -/
def grantedUnresumed (gate : RequestGate) : Nat :=
  gate.acquirers.countP Acquirer.ownsSlot

end RequestGate

end FitzClient
