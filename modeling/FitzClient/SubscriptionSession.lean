import FitzClient.SubscriptionInverse
import FitzClient.SubscriptionDelivery

/-!
# Deliveries within one session

Once the broker has given an id to a SUBSCRIBE it sends items for that id,
possibly before `subscribe` has learned of it: these wait in the buffer, next
to notifications for any other id that is not known.  The items pushed to a
consumer are to be all items with its id, from the moment the broker gave the
id for the first consumer of a wire, from the moment it joined for a later
one, until it leaves the wire.

This is so unless the bounded buffer has dropped a notification that arrived
for the id in between.  What was published, what was dropped and the window of
every consumer are history.
-/

namespace FitzClient

/-- What a consumer is to be sent: the items with an id, from the number of
items that had been published at the start. -/
structure Window where
  subId : Nat
  start : Nat
  stop : Option Nat := none
  deriving DecidableEq, Repr

/-- The notifications with an id. -/
def withId {Item : Type} (subId : Nat) (notifications : List (Notification Item)) :
    List (Notification Item) :=
  notifications.filter (·.subId = subId)

/-- The published items that fall into a window. -/
def Window.items {Item : Type} (window : Window) (published : List (Notification Item)) :
    List (Notification Item) :=
  withId window.subId
    ((published.take (window.stop.getD published.length)).drop window.start)

/-- The id that the broker gave to the SUBSCRIBE in flight, the number of items
published before, and what the buffer held for the id then. -/
structure AwaitedId (Item : Type) where
  subId : Nat
  start : Nat
  waiting : List (Notification Item)
  deriving DecidableEq, Repr

/-- The consumer leaves; it may leave a wire twice. -/
def Window.close (window : Window) (published : Nat) : Window :=
  { window with stop := window.stop.or (some published) }

/-- A registry in one session; `dropped` is what the buffer has dropped since
the broker last gave an id. -/
structure SessionRegistry (Item : Type) where
  registry : SubscriptionRegistry Item
  published : List (Notification Item) := []
  dropped : List (Notification Item) := []
  awaited : Option (AwaitedId Item) := none
  windows : List Window := []
  deriving DecidableEq

/-- What can happen within one session when no task is cancelled. -/
inductive SessionAction (Item : Type)
  | subscribe (registration : String)
  | assign (subId : Nat)
  | subscribed
  | subscribeFailed
  | publish (subId : Nat) (item : Item)
  | read (consumer : Nat)
  | aclose (consumer : Nat)
  | cleanup (consumer : Nat)
  | close (consumer : Nat)
  | unsubscribed
  | unsubscribeFailed
  deriving DecidableEq, Repr

namespace SubscriptionRegistry

variable {Item : Type}

/-- What the bounded buffer drops when this notification arrives. -/
def overflow (registry : SubscriptionRegistry Item) (notification : Notification Item) :
    List (Notification Item) :=
  match registry.byId.lookup notification.subId with
  | none => (registry.pendingNotifications ++ [notification]).take
      (registry.pendingNotifications.length + 1 - registry.capacity)
  | some _ => []

/-- The notifications that were pushed to a consumer, in order. -/
def pushedTo (registry : SubscriptionRegistry Item) (consumer : Nat) :
    List (Notification Item) :=
  (registry.deliveries.filter (·.consumer = consumer)).map (·.notification)

end SubscriptionRegistry

namespace SessionRegistry

variable {Item : Type}

/-- A step of the registry, with this history. -/
def advance (session : SessionRegistry Item) (action : RegistryAction Item) :
    Option (SessionRegistry Item) :=
  (session.registry.step action).map ({ session with registry := · })

/-- One transition. -/
def step (session : SessionRegistry Item) :
    SessionAction Item → Option (SessionRegistry Item)
  -- a consumer that joins a registered wire gets what is published from now on
  | .subscribe registration =>
      (session.advance (.subscribe registration)).map fun next =>
        match session.registry.wireOf registration with
        | some state => { next with windows := session.windows ++
            [{ subId := state.subId, start := session.published.length }] }
        | none => next
  -- the broker accepts the SUBSCRIBE in flight
  | .assign subId =>
      match session.registry.holder, session.awaited with
      | some (.subscribing registration _ _), none =>
          (session.advance (.assign registration subId)).map fun next =>
            { next with
              dropped := []
              awaited := some { subId, start := session.published.length,
                                waiting := withId subId session.registry.pendingNotifications } }
      | _, _ => none
  | .subscribed =>
      match session.awaited with
      | some { subId, start, .. } =>
          (session.advance (.subscribed session.registry.session subId)).map fun next =>
            { next with awaited := none, windows := session.windows ++ [{ subId, start }] }
      | none => none
  | .subscribeFailed =>
      (session.advance .subscribeFailed).map fun next => { next with awaited := none }
  | .publish subId item =>
      let notification := { subId, item, session := session.registry.session }
      (session.advance (.publish subId item)).map fun next =>
        { next with
          published := session.published ++ [notification]
          dropped := session.dropped ++ session.registry.overflow notification }
  | .read consumer => session.advance (.read consumer)
  | .aclose consumer => session.advance (.aclose consumer)
  | .cleanup consumer => session.advance (.cleanup consumer)
  | .close consumer =>
      (session.advance (.close consumer)).map fun next =>
        { next with
          windows := session.windows.modify consumer (·.close session.published.length) }
  | .unsubscribed => session.advance .unsubscribed
  | .unsubscribeFailed => session.advance .unsubscribeFailed

/-- All interleavings of a new registry within one session. -/
def system (Item : Type) (capacity : Nat) :
    LabelledSystem (SessionRegistry Item) (SessionAction Item) where
  starts session := session = { registry := { capacity } }
  step := step

/-- Every consumer that has not been failed was pushed exactly the items of its
window, in order. -/
def DeliversAll (session : SessionRegistry Item) : Prop :=
  ∀ (consumer : Nat) (subscription : AsyncSubscription Item) (window : Window),
    session.registry.consumers[consumer]? = some subscription →
    session.windows[consumer]? = some window → subscription.failure = none →
    session.registry.pushedTo consumer = window.items session.published

/-- When a SUBSCRIBE returns, the buffer has dropped, of the notifications for
its id, exactly those that it held already when the broker gave the id. -/
def BufferIntact (session : SessionRegistry Item) : SessionAction Item → Prop
  | .subscribed => ∀ awaited, session.awaited = some awaited →
      withId awaited.subId session.dropped = awaited.waiting
  | _ => True

end SessionRegistry

end FitzClient
