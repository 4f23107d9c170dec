import FitzClient.AsyncSubscription
import FitzClient.Dictionary
import FitzClient.IndexedCells
import FitzClient.LabelledSystem

/-!
# The subscription registry

`SubscriptionRegistry` shares one broker subscription, a wire, among all local
consumers of a registration.  It keeps the wire of every registration and the
registration of every broker id, and buffers notifications whose id it does
not know.  Subscribing, the end of the last consumer and restoration take the
lock and await the broker under it; `publish`, `fail_registration` and
`terminate` run between two awaits of whoever holds the lock.

The broker assigns ids.  Within a session it never gives one id to two
registrations; in another session it may give it to any registration.  The
assignments, the session in which an id was stored, the session of a
buffered notification and the log of deliveries are history: the registry
reads none of them.
-/

namespace FitzClient

/-- The broker gave `subId` to `registration` in `session`. -/
structure Assignment where
  session : Nat
  subId : Nat
  registration : String
  deriving DecidableEq, Repr

/-- An item for a broker id, and the session in which it arrived. -/
structure Notification (Item : Type) where
  subId : Nat
  item : Item
  session : Nat
  deriving DecidableEq, Repr

/-- One call of `push`. -/
structure Delivery (Item : Type) where
  consumer : Nat
  notification : Notification Item
  deriving DecidableEq, Repr

/-- A wire; its registration and the session of its id are history. -/
structure WireSubscription where
  registration : String
  subId : Nat
  session : Nat
  consumers : List Nat := []
  deriving DecidableEq, Repr

/-- The operation that holds the lock, suspended at its await.

A cancelled `subscribe` still waits for its SUBSCRIBE and then compensates
it, and a cancelled `close` still waits for its UNSUBSCRIBE.  Restoration keeps
the snapshot of the registrations it has yet to visit.
`since` is the session in which the wait for a SUBSCRIBE began; the request may
wait for admission and be sent in a later one. -/
inductive RegistryOperation
  | subscribing (registration : String) (since : Nat) (cancelled : Bool)
  | compensating (registration : String) (subId session : Nat)
  | closing (registration : String) (wire consumer : Nat) (cancelled : Bool)
  | restoring (registration : String) (wire oldId since : Nat) (remaining : List (String × Nat))
  deriving DecidableEq, Repr

/-- The registry with every wire and every consumer it ever created. -/
structure SubscriptionRegistry (Item : Type) where
  capacity : Nat
  wires : List WireSubscription := []
  byRegistration : Dictionary String Nat := ∅
  byId : Dictionary Nat String := ∅
  consumers : List (AsyncSubscription Item) := []
  cleanupTasks : List Nat := []
  pendingNotifications : List (Notification Item) := []
  holder : Option RegistryOperation := none
  session : Nat := 0
  assigned : List Assignment := []
  storedIn : Dictionary Nat Nat := ∅
  deliveries : List (Delivery Item) := []
  deriving DecidableEq

namespace SubscriptionRegistry

variable {Item : Type}

/-- The wire registered under a registration. -/
def wireOf (registry : SubscriptionRegistry Item) (registration : String) :
    Option WireSubscription :=
  (registry.byRegistration.lookup registration).bind (registry.wires[·]?)

/-- The items of `_by_registration` in the order of insertion. -/
def registrations (registry : SubscriptionRegistry Item) : List (String × Nat) :=
  registry.byRegistration.entries.reverse.map fun entry => (entry.1, entry.2)

/-- Update one consumer. -/
def updateConsumer (registry : SubscriptionRegistry Item) (consumer : Nat)
    (update : AsyncSubscription Item → AsyncSubscription Item) : SubscriptionRegistry Item :=
  { registry with consumers := registry.consumers.modify consumer update }

/-- Push a notification to these consumers. -/
def pushTo (registry : SubscriptionRegistry Item) (targets : List Nat)
    (notification : Notification Item) : SubscriptionRegistry Item :=
  { registry with
    consumers := registry.consumers.mapIdx fun index consumer =>
      if index ∈ targets then
        (consumer.push registry.capacity notification.item).1
      else
        consumer
    deliveries := registry.deliveries ++ targets.map fun consumer =>
      { consumer, notification } }

/-- `push` of this consumer returns `False`. -/
def refuses (registry : SubscriptionRegistry Item) (item : Item) (consumer : Nat) : Bool :=
  registry.consumers[consumer]?.any fun subscription =>
    !(subscription.push registry.capacity item).2

/-- `publish` to the wire it has found; dead consumers leave it. -/
def deliver (registry : SubscriptionRegistry Item) (wire : Nat)
    (notification : Notification Item) : SubscriptionRegistry Item :=
  match registry.wires[wire]? with
  | none => registry
  | some state =>
      { registry.pushTo state.consumers notification with
        wires := registry.wires.modify wire fun state =>
          { state with
            consumers := state.consumers.filter (!registry.refuses notification.item ·) }
        cleanupTasks := registry.cleanupTasks ++
          state.consumers.filter (registry.refuses notification.item ·) }

/-- Append to the bounded deque of notifications: the oldest one is dropped. -/
def buffer (registry : SubscriptionRegistry Item) (notification : Notification Item) :
    SubscriptionRegistry Item :=
  { registry with
    pendingNotifications := (registry.pendingNotifications ++ [notification]).drop
      (registry.pendingNotifications.length + 1 - registry.capacity) }

def publish (registry : SubscriptionRegistry Item) (subId : Nat) (item : Item) :
    SubscriptionRegistry Item :=
  let notification := { subId, item, session := registry.session }
  match registry.byId.lookup subId with
  | none => registry.buffer notification
  | some registration =>
      match registry.byRegistration.lookup registration with
      | none => registry
      | some wire => registry.deliver wire notification

/-- `_flush_pending`; what is retained fits the deque it came from. -/
def flushPending (registry : SubscriptionRegistry Item) (wire : Nat) :
    SubscriptionRegistry Item :=
  match registry.wires[wire]? with
  | none => registry
  | some state =>
      { (registry.pendingNotifications.filter (·.subId = state.subId)).foldl
          (pushTo · state.consumers ·) registry with
        pendingNotifications := registry.pendingNotifications.filter (·.subId ≠ state.subId) }

/-- Store a new wire, the last one, under both keys. -/
def store (registry : SubscriptionRegistry Item) (registration : String) (subId session : Nat) :
    SubscriptionRegistry Item :=
  { registry with
    wires := registry.wires ++ [{ registration, subId, session }]
    byRegistration := registry.byRegistration.insert registration registry.wires.length
    byId := registry.byId.insert subId registration
    storedIn := registry.storedIn.insert subId session }

/-- `state.consumers.add(subscription)` of a new consumer, the last one. -/
def enroll (registry : SubscriptionRegistry Item) (registration : String) (wire : Nat) :
    SubscriptionRegistry Item :=
  { registry with
    consumers := registry.consumers ++ [({ registration } : AsyncSubscription Item)]
    wires := registry.wires.modify wire fun state =>
      { state with consumers := state.consumers ++ [registry.consumers.length] } }

/-- `subscribe` after its lock: a new consumer joins the wire. -/
def join (registry : SubscriptionRegistry Item) (registration : String) (wire : Nat) :
    SubscriptionRegistry Item :=
  (registry.enroll registration wire).flushPending wire

/-- `subscribe` once it has the lock, up to its first `await`. -/
def subscribe (registry : SubscriptionRegistry Item) (registration : String) :
    SubscriptionRegistry Item :=
  match registry.byRegistration.lookup registration with
  | some wire => registry.join registration wire
  | none =>
      { registry with holder := some (.subscribing registration registry.session false) }

/-- `current.consumers.discard(subscription)` -/
def discard (registry : SubscriptionRegistry Item) (wire consumer : Nat) :
    SubscriptionRegistry Item :=
  { registry with
    wires := registry.wires.modify wire fun state =>
      { state with consumers := state.consumers.filter (· ≠ consumer) } }

/-- `close` of a consumer once it has the lock, up to its first `await`. -/
def close (registry : SubscriptionRegistry Item) (registration : String) (consumer : Nat) :
    SubscriptionRegistry Item :=
  match registry.byRegistration.lookup registration with
  | none => registry.updateConsumer consumer AsyncSubscription.endClose
  | some wire =>
      if (registry.discard wire consumer).wires[wire]?.any (·.consumers ≠ []) then
        (registry.discard wire consumer).updateConsumer consumer AsyncSubscription.endClose
      else
        { (registry.discard wire consumer).updateConsumer consumer
            AsyncSubscription.awaitUnsubscribe with
          holder := some (.closing registration wire consumer false) }

/-- `close` after its UNSUBSCRIBE has succeeded. -/
def forget (registry : SubscriptionRegistry Item) (registration : String) (wire : Nat) :
    SubscriptionRegistry Item :=
  { registry with
    byRegistration := registry.byRegistration.erase registration
    byId := match registry.wires[wire]? with
      | some current => registry.byId.erase current.subId
      | none => registry.byId }

/-- `restore` at the head of its loop. -/
def restoreNext (registry : SubscriptionRegistry Item) :
    List (String × Nat) → SubscriptionRegistry Item
  | [] => { registry with holder := none }
  | (registration, wire) :: remaining =>
      let oldId := (registry.wires[wire]?.map (·.subId)).getD 0
      { registry with
        holder := some (.restoring registration wire oldId registry.session remaining) }

/-- Move a wire from one id to another. -/
def remap (registry : SubscriptionRegistry Item) (registration : String)
    (wire oldId newId session : Nat) : SubscriptionRegistry Item :=
  { registry with
    wires := registry.wires.modify wire fun state => { state with subId := newId, session }
    byId := (registry.byId.erase oldId).insert newId registration
    storedIn := registry.storedIn.insert newId session }

/-- `restore` once it has the new id of a registration. -/
def rekey (registry : SubscriptionRegistry Item) (registration : String)
    (wire oldId newId session : Nat) : SubscriptionRegistry Item :=
  (registry.remap registration wire oldId newId session).flushPending wire

/-- Fail or finish these consumers. -/
def settle (registry : SubscriptionRegistry Item) (targets : List Nat)
    (error : Option SubscriptionError) : SubscriptionRegistry Item :=
  { registry with
    consumers := registry.consumers.mapIdx fun index consumer =>
      if index ∈ targets then
        match error with
        | none => consumer.finish
        | some error => consumer.fail error
      else
        consumer }

/-- `fail_registration` -/
def failRegistration (registry : SubscriptionRegistry Item) (registration : String)
    (error : SubscriptionError) : SubscriptionRegistry Item :=
  match registry.wireOf registration with
  | none => registry
  | some state =>
      { registry with
        byRegistration := registry.byRegistration.erase registration
        byId := registry.byId.erase state.subId }.settle state.consumers (some error)

/-- The consumers of all registered wires. -/
def registeredConsumers (registry : SubscriptionRegistry Item) : List Nat :=
  registry.byRegistration.entries.flatMap fun entry =>
    (registry.wires[entry.2]?.map (·.consumers)).getD []

def terminate (registry : SubscriptionRegistry Item) (error : Option SubscriptionError) :
    SubscriptionRegistry Item :=
  { registry with
    byRegistration := ∅
    byId := ∅
    pendingNotifications := [] }.settle registry.registeredConsumers error

end SubscriptionRegistry

/-- What can happen at a registry.  `subscribed`, `unsubscribed` and their
failures are what the lock holder's await on the broker comes to. -/
inductive RegistryAction (Item : Type)
  | newSession
  | assign (registration : String) (subId : Nat)
  | publish (subId : Nat) (item : Item)
  | subscribe (registration : String)
  | subscribed (session subId : Nat)
  | subscribeFailed
  | unsubscribed
  | unsubscribeFailed
  | cancel
  | aclose (consumer : Nat)
  | cleanup (consumer : Nat)
  | close (consumer : Nat)
  | cancelClose (consumer : Nat)
  | read (consumer : Nat)
  | restore
  | failRegistration (registration : String) (error : SubscriptionError)
  | terminate (error : Option SubscriptionError)
  deriving DecidableEq, Repr

namespace SubscriptionRegistry

variable {Item : Type}

/-- The SUBSCRIBE of the lock holder, sent in `session`, returns an id. -/
def subscribed (registry : SubscriptionRegistry Item) (session subId : Nat) :
    Option (SubscriptionRegistry Item) :=
  match registry.holder with
  | some (.subscribing registration since cancelled) =>
      if since ≤ session ∧ { session, subId, registration } ∈ registry.assigned then
        if cancelled then
          some { registry with holder := some (.compensating registration subId session) }
        else
          some ({ registry.store registration subId session with holder := none
            }.join registration registry.wires.length)
      else
        none
  | some (.restoring registration wire oldId since remaining) =>
      if since ≤ session ∧ { session, subId, registration } ∈ registry.assigned then
        some ((registry.rekey registration wire oldId subId session).restoreNext remaining)
      else
        none
  | _ => none

/-- The SUBSCRIBE of the lock holder raises; restoration goes on. -/
def subscribeFailed (registry : SubscriptionRegistry Item) :
    Option (SubscriptionRegistry Item) :=
  match registry.holder with
  | some (.subscribing _ _ _) => some { registry with holder := none }
  | some (.restoring registration _ _ _ remaining) =>
      some ((registry.failRegistration registration .restore).restoreNext remaining)
  | _ => none

def unsubscribed (registry : SubscriptionRegistry Item) : Option (SubscriptionRegistry Item) :=
  match registry.holder with
  | some (.compensating _ _ _) => some { registry with holder := none }
  | some (.closing registration wire consumer _) =>
      some ({ registry.forget registration wire with holder := none }.updateConsumer consumer
        AsyncSubscription.endClose)
  | _ => none

/-- A failed UNSUBSCRIBE leaves the wire registered; after a cancelled
`subscribe` it is registered without consumers. -/
def unsubscribeFailed (registry : SubscriptionRegistry Item) :
    Option (SubscriptionRegistry Item) :=
  match registry.holder with
  | some (.compensating registration subId session) =>
      some { registry.store registration subId session with holder := none }
  | some (.closing _ _ consumer _) =>
      some ({ registry with holder := none }.updateConsumer consumer AsyncSubscription.endClose)
  | _ => none

/-- The task that holds the lock is cancelled at a shielded await, or in
`restore`.  At the other awaits the cancellation reaches the wire request, and
is no more than the failure of what is awaited. -/
def cancel (registry : SubscriptionRegistry Item) : Option (SubscriptionRegistry Item) :=
  match registry.holder with
  | some (.subscribing registration since false) =>
      some { registry with holder := some (.subscribing registration since true) }
  | some (.closing registration wire consumer false) =>
      some { registry with holder := some (.closing registration wire consumer true) }
  | some (.restoring _ _ _ _ _) => some { registry with holder := none }
  | _ => none

/-- One transition. -/
def step (registry : SubscriptionRegistry Item) :
    RegistryAction Item → Option (SubscriptionRegistry Item)
  | .newSession => some { registry with session := registry.session + 1 }
  -- the broker gives no id to two registrations in one session
  | .assign registration subId =>
      if ∀ assignment ∈ registry.assigned, assignment.session = registry.session →
          assignment.subId = subId → assignment.registration = registration then
        some { registry with
          assigned := registry.assigned ++ [{ session := registry.session, subId, registration }] }
      else
        none
  | .publish subId item => some (registry.publish subId item)
  | .subscribe registration =>
      if registry.holder = none then some (registry.subscribe registration) else none
  | .subscribed session subId => registry.subscribed session subId
  | .subscribeFailed => registry.subscribeFailed
  | .unsubscribed => registry.unsubscribed
  | .unsubscribeFailed => registry.unsubscribeFailed
  | .cancel => registry.cancel
  | .aclose consumer => some (registry.updateConsumer consumer AsyncSubscription.aclose)
  | .cleanup consumer =>
      if consumer ∈ registry.cleanupTasks then
        some ({ registry with cleanupTasks := registry.cleanupTasks.erase consumer
          }.updateConsumer consumer AsyncSubscription.aclose)
      else
        none
  | .close consumer =>
      match registry.consumers[consumer]? with
      | none => none
      | some subscription =>
          if registry.holder = none ∧ subscription.closing = .waiting then
            some (registry.close subscription.registration consumer)
          else
            none
  -- cancelled while it waits for the lock
  | .cancelClose consumer =>
      if registry.consumers[consumer]?.any (·.closing = .waiting) then
        some (registry.updateConsumer consumer AsyncSubscription.endClose)
      else
        none
  | .read consumer => some (registry.updateConsumer consumer AsyncSubscription.read)
  | .restore =>
      if registry.holder = none then some (registry.restoreNext registry.registrations) else none
  | .failRegistration registration error =>
      some (registry.failRegistration registration error)
  | .terminate error => some (registry.terminate error)

/-- All interleavings of a new registry. -/
def system (Item : Type) (capacity : Nat) :
    LabelledSystem (SubscriptionRegistry Item) (RegistryAction Item) where
  starts registry := registry = { capacity }
  step := step

end SubscriptionRegistry

end FitzClient
