import FitzClient.AsyncSubscription
import FitzClient.Dictionary
import FitzClient.LabelledSystem

/-!
# The observer of a lease inventory

`LeaseInventoryObserver` keeps a view of all leases of a pattern.  A bootstrap
task assembles the view in LIST passes, a consumer task reads the notifications
of a subscription and replaces the subscription when it fails, a third task
asks for a pass from time to time, and the connection calls in for every push,
failure and reconnect.  They communicate through two events, two generation
counters, a mode and a buffer.

`_lock` is never held across an `await`, so that no task ever waits for it:
what it encloses is one step together with the code around it.  A wait for an
event that is set does not suspend, and one that does is resumed even if the
event has been cleared again; only the bootstrap task clears `_invalidate`.

What has been recorded, and how much of it when the pass of the view began, is
history.  The queue of `changes()` is written only and left out.
-/

namespace FitzClient

/-- `_mode` -/
inductive ObserverMode
  | buffering
  | steady
  deriving DecidableEq, Repr

/-- What is recorded for an observer: a notification, the failure of its
subscription, a subscription, and a reconnect. -/
inductive ObserverEvent
  | notification
  | failure
  | subscribed
  | reconnect
  deriving DecidableEq, Repr

/-- What `_bootstrap` reads before a pass; how much was recorded by then is
history. -/
structure PassStart where
  subscriptionGeneration : Nat
  startGeneration : Nat
  recorded : Nat
  deriving DecidableEq, Repr

/-- Where the bootstrap task is suspended: in its wait for `_invalidate`, in the
wait for `_subscription_ready` after it, in that of `_bootstrap`, in a LIST pass
with the items so far, or in one of two sleeps.  `woken` means that the event
was set during the wait. -/
inductive BootstrapPhase (Item : Type)
  | parked
  | awaitingSubscription (woken : Bool)
  | awaitingPass (woken : Bool)
  | listing (start : PassStart) (view : Dictionary String Item)
  | retrying
  | failing
  | ended

/-- `_subscription_ready` is set. -/
def BootstrapPhase.wake {Item : Type} : BootstrapPhase Item → BootstrapPhase Item
  | .awaitingSubscription _ => .awaitingSubscription true
  | .awaitingPass _ => .awaitingPass true
  | phase => phase

/-- Where the consumer task is suspended: reading, in `aclose` of a failed
subscription, in the entry of its replacement, or in a sleep. -/
inductive ConsumePhase
  | reading
  | closingOld
  | resubscribing
  | sleeping
  | ended
  deriving DecidableEq, Repr

structure LeaseInventoryObserver (Item : Type) where
  pattern : String
  capacity : Nat
  view : Dictionary String Item := ∅
  ready : Bool := false
  closed : Bool := false
  mode : ObserverMode := .buffering
  buffer : List String := []
  notificationGeneration : Nat := 0
  invalidate : Bool := true
  subscription : AsyncSubscription String
  subscriptionReady : Bool := false
  subscriptionGeneration : Nat := 0
  bootstrap : BootstrapPhase Item := .parked
  consumer : ConsumePhase := .reading
  recorded : List ObserverEvent := []
  viewStart : Nat := 0

namespace LeaseInventoryObserver

variable {Item : Type}

def record (observer : LeaseInventoryObserver Item) (event : ObserverEvent) :
    LeaseInventoryObserver Item :=
  { observer with recorded := observer.recorded ++ [event] }

/-- `_ready.clear()` and `_invalidate.set()`. -/
def requestPass (observer : LeaseInventoryObserver Item) : LeaseInventoryObserver Item :=
  { observer with ready := false, invalidate := true }

/-- A notification is counted. -/
def countNotification (observer : LeaseInventoryObserver Item) : LeaseInventoryObserver Item :=
  { observer.record .notification with
    notificationGeneration := observer.notificationGeneration + 1 }

/-- `_note_notification` -/
def noteNotification (observer : LeaseInventoryObserver Item) : LeaseInventoryObserver Item :=
  if observer.mode = .buffering then
    observer.countNotification
  else
    observer.countNotification.requestPass

/-- `_note_subscription_failure` -/
def noteSubscriptionFailure (observer : LeaseInventoryObserver Item) :
    LeaseInventoryObserver Item :=
  { observer.record .failure with
    subscriptionGeneration := observer.subscriptionGeneration + 1
    subscriptionReady := false
    mode := .buffering
    buffer := [] }.requestPass

/-- `_handle_reconnect` -/
def handleReconnect (observer : LeaseInventoryObserver Item) : LeaseInventoryObserver Item :=
  { observer.record .reconnect with
    mode := .buffering
    buffer := []
    subscriptionGeneration := observer.subscriptionGeneration + 1 }.requestPass

/-- `AsyncSubscription.push`, which calls `_note_notification` first, and
`_note_subscription_failure` if the queue is full. -/
def push (observer : LeaseInventoryObserver Item) (route : String) :
    LeaseInventoryObserver Item :=
  if observer.subscription.closed then
    observer
  else
    let noted := observer.noteNotification
    let pushed := noted.subscription.push noted.capacity route
    let queued := { noted with subscription := pushed.1 }
    if pushed.2 then queued else queued.noteSubscriptionFailure

/-- `AsyncSubscription.fail`, which calls `_note_subscription_failure`. -/
def failSubscription (observer : LeaseInventoryObserver Item) (error : SubscriptionError) :
    LeaseInventoryObserver Item :=
  if observer.subscription.closed then
    observer
  else
    { observer.noteSubscriptionFailure with subscription := observer.subscription.fail error }

/-- A subscription has been entered, was pushed what the registry had buffered
for it, and is read from now on. -/
def subscribed (observer : LeaseInventoryObserver Item) (buffered : List String) :
    LeaseInventoryObserver Item :=
  let entered := buffered.foldl push
    { observer with subscription := { registration := observer.pattern } }
  { entered.record .subscribed with
    subscriptionGeneration := entered.subscriptionGeneration + 1
    subscriptionReady := true
    bootstrap := entered.bootstrap.wake
    consumer := .reading }

/-- `_start` -/
def start (pattern : String) (capacity : Nat) (buffered : List String) :
    LeaseInventoryObserver Item :=
  ({ pattern, capacity, subscription := { registration := pattern } } :
    LeaseInventoryObserver Item).subscribed buffered

/-- `_bootstrap` reads the generations, and the pass begins. -/
def beginPass (observer : LeaseInventoryObserver Item) : LeaseInventoryObserver Item :=
  let start : PassStart := {
    subscriptionGeneration := observer.subscriptionGeneration
    startGeneration := observer.notificationGeneration
    recorded := observer.recorded.length }
  { observer with bootstrap := .listing start ∅ }

/-- `_bootstrap` at the head of its loop. -/
def nextPass (observer : LeaseInventoryObserver Item) : LeaseInventoryObserver Item :=
  if observer.subscriptionReady then
    observer.beginPass
  else
    { observer with bootstrap := .awaitingPass false }

/-- `_bootstrap_loop` from its second `_invalidate.clear()` into `_bootstrap`. -/
def beginBootstrap (observer : LeaseInventoryObserver Item) : LeaseInventoryObserver Item :=
  { observer with invalidate := false, mode := .buffering, buffer := [] }.nextPass

/-- `_bootstrap_loop` once `_invalidate` is set. -/
def invalidated (observer : LeaseInventoryObserver Item) : LeaseInventoryObserver Item :=
  if observer.closed then
    { observer with bootstrap := .ended }
  else if observer.subscriptionReady then
    { observer with invalidate := false }.beginBootstrap
  else
    { observer with invalidate := false, bootstrap := .awaitingSubscription false }

/-- `_bootstrap_loop` at its head. -/
def loopBootstrap (observer : LeaseInventoryObserver Item) : LeaseInventoryObserver Item :=
  if observer.invalidate then observer.invalidated else { observer with bootstrap := .parked }

/-- An invalidation raced the pass. -/
def raced (observer : LeaseInventoryObserver Item) (start : PassStart) : Bool :=
  !observer.buffer.isEmpty || observer.notificationGeneration != start.startGeneration ||
    !observer.subscriptionReady ||
    observer.subscriptionGeneration != start.subscriptionGeneration

/-- `_bootstrap` after the pass. -/
def finishPass (observer : LeaseInventoryObserver Item) (start : PassStart)
    (view : Dictionary String Item) : LeaseInventoryObserver Item :=
  if observer.raced start then
    { observer with buffer := [], bootstrap := .retrying }
  else
    { observer with
      view := view
      mode := .steady
      buffer := []
      ready := true
      viewStart := start.recorded }.loopBootstrap

/-- `_bootstrap_loop` when the pass has failed. -/
def failPass (observer : LeaseInventoryObserver Item) : LeaseInventoryObserver Item :=
  { observer with ready := false, bootstrap := .failing }

/-- The bootstrap task resumes from a wait or a sleep. -/
def resume (observer : LeaseInventoryObserver Item) : Option (LeaseInventoryObserver Item) :=
  match observer.bootstrap with
  | .parked => if observer.invalidate then some observer.invalidated else none
  | .awaitingSubscription true => some observer.beginBootstrap
  | .awaitingPass true => some observer.beginPass
  | .retrying => some observer.nextPass
  | .failing => some { observer with invalidate := true }.loopBootstrap
  | _ => none

/-- `_consume` with a route. -/
def consumeRoute (observer : LeaseInventoryObserver Item) (route : String) :
    LeaseInventoryObserver Item :=
  if observer.mode = .buffering then
    { observer with buffer := observer.buffer ++ [route] }
  else
    observer.requestPass

/-- `_consume` when the subscription has raised. -/
def consumeFailure (observer : LeaseInventoryObserver Item) : LeaseInventoryObserver Item :=
  let noted := if observer.subscriptionReady then observer.noteSubscriptionFailure else observer
  { noted with consumer := .closingOld }

/-- `_consume` when the subscription has been finished. -/
def consumeEnd (observer : LeaseInventoryObserver Item) : LeaseInventoryObserver Item :=
  { observer with subscriptionReady := false, ready := false, consumer := .ended }

/-- `_consume` takes an entry of the queue. -/
def consume (observer : LeaseInventoryObserver Item) : Option (LeaseInventoryObserver Item) :=
  let read := { observer with subscription := observer.subscription.read }
  match observer.subscription.queue with
  | .item route :: _ => some (read.consumeRoute route)
  | .exception _ :: _ => some read.consumeFailure
  | .finished :: _ => some read.consumeEnd
  | [] => if observer.subscription.closed then some read.consumeEnd else none

/-- `close`, which cancels the tasks. -/
def close (observer : LeaseInventoryObserver Item) : LeaseInventoryObserver Item :=
  { observer with closed := true, invalidate := true, bootstrap := .ended, consumer := .ended }

end LeaseInventoryObserver

/-- What can happen to an observer.  `notify`, `fail` and `terminate` come from
the registry, `reconnect` from the connection, and `tick` is the end of a sleep
of the reconciler. -/
inductive ObserverAction (Item : Type)
  | notify (route : String)
  | fail (error : SubscriptionError)
  | terminate
  | reconnect
  | tick
  | resume
  | page (items : List (String × Item))
  | listed
  | listFailed
  | consume
  | oldClosed
  | subscribed (buffered : List String)
  | subscribeFailed
  | retrySubscribe
  | close

namespace LeaseInventoryObserver

variable {Item : Type}

/-- One transition. -/
def step (observer : LeaseInventoryObserver Item) :
    ObserverAction Item → Option (LeaseInventoryObserver Item)
  | .notify route => some (observer.push route)
  | .fail error => some (observer.failSubscription error)
  | .terminate => some { observer with subscription := observer.subscription.finish }
  -- the listener and the reconciler are gone once the observer is closed
  | .reconnect => if observer.closed then none else some observer.handleReconnect
  | .tick => if observer.closed then none else some observer.requestPass
  | .resume => observer.resume
  | .page items =>
      match observer.bootstrap with
      | .listing start view =>
          let extended := items.foldl (fun view item => view.insert item.1 item.2) view
          some { observer with bootstrap := .listing start extended }
      | _ => none
  | .listed =>
      match observer.bootstrap with
      | .listing start view => some (observer.finishPass start view)
      | _ => none
  | .listFailed =>
      match observer.bootstrap with
      | .listing _ _ => some observer.failPass
      | _ => none
  | .consume => if observer.consumer = .reading then observer.consume else none
  | .oldClosed =>
      if observer.consumer = .closingOld then
        some { observer with consumer := .resubscribing }
      else
        none
  | .subscribed buffered =>
      if observer.consumer = .resubscribing then
        some { observer.subscribed buffered with invalidate := true }
      else
        none
  | .subscribeFailed =>
      if observer.consumer = .resubscribing then
        some { observer with consumer := .sleeping }
      else
        none
  | .retrySubscribe =>
      if observer.consumer = .sleeping then
        some { observer with consumer := .resubscribing }
      else
        none
  | .close => if observer.closed then none else some observer.close

variable (Item) in
/-- All interleavings from the start of an observer. -/
def system : LabelledSystem (LeaseInventoryObserver Item) (ObserverAction Item) where
  starts observer := ∃ pattern capacity buffered, observer = start pattern capacity buffered
  step := step

end LeaseInventoryObserver

end FitzClient
