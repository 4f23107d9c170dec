import FitzClient.SubscriptionBroker

/-!
# The subscriptions of the notice client

`NoticeClient` does not use the shared registry.  It keeps its own wires, by
pattern and by id, and subscribes, fans out, buffers early notifications and
unsubscribes in its own words.  Its `open_subscription` awaits the SUBSCRIBE
without a shield: a cancellation reaches the request and releases the lock,
while the broker may still accept the SUBSCRIBE.

The events below drive this client and a shared registry alike.  An event that
nobody waits for changes nothing.
-/

namespace FitzClient

/-- `_Wire` -/
structure NoticeWire where
  subId : Nat
  consumers : List Nat := []
  deriving DecidableEq, Repr

/-- The operation that holds the lock, suspended at its await. -/
inductive NoticeOperation
  | subscribing (pattern : String)
  | closing (pattern : String) (wire consumer : Nat)
  deriving DecidableEq, Repr

/-- The client with every wire and every consumer it ever created; the log of
deliveries is history. -/
structure NoticeClient (Item : Type) where
  bufferSize : Nat
  wires : List NoticeWire := []
  byPattern : Dictionary String Nat := ∅
  patternById : Dictionary Nat String := ∅
  consumers : List (AsyncSubscription Item) := []
  cleanupTasks : List Nat := []
  pendingNotifications : List (Nat × Item) := []
  holder : Option NoticeOperation := none
  deliveries : List (Nat × Item) := []
  deriving DecidableEq

namespace NoticeClient

variable {Item : Type}

/-- Update one consumer. -/
def updateConsumer (client : NoticeClient Item) (consumer : Nat)
    (update : AsyncSubscription Item → AsyncSubscription Item) : NoticeClient Item :=
  { client with consumers := client.consumers.modify consumer update }

/-- Push an item to these consumers. -/
def pushTo (client : NoticeClient Item) (targets : List Nat) (item : Item) : NoticeClient Item :=
  { client with
    consumers := client.consumers.mapIdx fun index consumer =>
      if index ∈ targets then (consumer.push client.bufferSize item).1 else consumer
    deliveries := client.deliveries ++ targets.map fun consumer => (consumer, item) }

/-- `push` of this consumer returns `False`. -/
def refuses (client : NoticeClient Item) (item : Item) (consumer : Nat) : Bool :=
  client.consumers[consumer]?.any fun subscription =>
    !(subscription.push client.bufferSize item).2

/-- `_notify`: a notification whose id leads to no wire is buffered, dead
consumers leave the wire. -/
def notify (client : NoticeClient Item) (subId : Nat) (item : Item) : NoticeClient Item :=
  match (client.patternById.lookup subId).bind client.byPattern.lookup with
  | none =>
      { client with
        pendingNotifications := (client.pendingNotifications ++ [(subId, item)]).drop
          (client.pendingNotifications.length + 1 - client.bufferSize) }
  | some wire =>
      match client.wires[wire]? with
      | none => client
      | some state =>
          { client.pushTo state.consumers item with
            wires := client.wires.modify wire fun state =>
              { state with consumers := state.consumers.filter (!client.refuses item ·) }
            cleanupTasks := client.cleanupTasks ++
              state.consumers.filter (client.refuses item ·) }

/-- `_flush_pending` -/
def flushPending (client : NoticeClient Item) (wire : Nat) : NoticeClient Item :=
  match client.wires[wire]? with
  | none => client
  | some state =>
      { (client.pendingNotifications.filter (·.1 = state.subId)).foldl
          (fun client entry => client.pushTo state.consumers entry.2) client with
        pendingNotifications := client.pendingNotifications.filter (·.1 ≠ state.subId) }

/-- The end of `open_subscription`: a new consumer, the last one, joins the
wire. -/
def attach (client : NoticeClient Item) (pattern : String) (wire : Nat) : NoticeClient Item :=
  { client with
    consumers := client.consumers ++ [({ registration := pattern } : AsyncSubscription Item)]
    wires := client.wires.modify wire fun state =>
      { state with consumers := state.consumers ++ [client.consumers.length] } }.flushPending wire

/-- `open_subscription` once it has the lock, up to its first `await`. -/
def openSubscription (client : NoticeClient Item) (pattern : String) : NoticeClient Item :=
  match client.byPattern.lookup pattern with
  | some wire => client.attach pattern wire
  | none => { client with holder := some (.subscribing pattern) }

/-- `_subscribe_wire` returns an id to `open_subscription`. -/
def subscribed (client : NoticeClient Item) (pattern : String) (subId : Nat) :
    NoticeClient Item :=
  { client with
    wires := client.wires ++ [({ subId } : NoticeWire)]
    byPattern := client.byPattern.insert pattern client.wires.length
    patternById := client.patternById.insert subId pattern
    holder := none }.attach pattern client.wires.length

/-- `_subscribe_wire` raises, or the task is cancelled: the lock is released. -/
def release (client : NoticeClient Item) : NoticeClient Item :=
  { client with holder := none }

/-- `current.consumers.discard(subscription)` -/
def discard (client : NoticeClient Item) (wire consumer : Nat) : NoticeClient Item :=
  { client with
    wires := client.wires.modify wire fun state =>
      { state with consumers := state.consumers.filter (· ≠ consumer) } }

/-- `close` of a consumer once it has the lock, up to its first `await`. -/
def close (client : NoticeClient Item) (pattern : String) (consumer : Nat) :
    NoticeClient Item :=
  match client.byPattern.lookup pattern with
  | none => client.updateConsumer consumer AsyncSubscription.endClose
  | some wire =>
      if (client.discard wire consumer).wires[wire]?.any (·.consumers ≠ []) then
        (client.discard wire consumer).updateConsumer consumer AsyncSubscription.endClose
      else
        { (client.discard wire consumer).updateConsumer consumer
            AsyncSubscription.awaitUnsubscribe with
          holder := some (.closing pattern wire consumer) }

/-- The id that `close` sends with its UNSUBSCRIBE. -/
def idOf (client : NoticeClient Item) (wire : Nat) : Nat :=
  (client.wires[wire]?.map (·.subId)).getD 0

/-- `close` after its UNSUBSCRIBE has succeeded. -/
def unsubscribed (client : NoticeClient Item) (pattern : String) (wire consumer : Nat) :
    NoticeClient Item :=
  { client with
    byPattern := client.byPattern.erase pattern
    patternById := client.patternById.erase (client.idOf wire)
    holder := none }.updateConsumer consumer AsyncSubscription.endClose

end NoticeClient

/-- A notice client and its broker: the patterns of the live ids, the ids that
the broker has given, and the patterns of the SUBSCRIBEs in flight whose task
was cancelled. -/
structure BrokeredNotice (Item : Type) where
  client : NoticeClient Item
  live : Dictionary Nat String := ∅
  given : List (Nat × String) := []
  abandoned : List String := []
  deriving DecidableEq

/-- What happens to a client within one session.  `subscribe` and `close` take
the lock, `cancelSubscribe` cancels the subscribe that holds it, and `answer`
is the answer of the broker to the oldest request. -/
inductive SubscriptionEvent (Item : Type)
  | subscribe (pattern : String)
  | cancelSubscribe
  | aclose (consumer : Nat)
  | cleanup (consumer : Nat)
  | close (consumer : Nat)
  | read (consumer : Nat)
  | notify (subId : Nat) (item : Item)
  | answer (outcome : WireOutcome)
  deriving DecidableEq, Repr

namespace BrokeredNotice

variable {Item : Type}

/-- The broker gives no id to two patterns. -/
def Available (noticed : BrokeredNotice Item) (pattern : String) (subId : Nat) : Prop :=
  ∀ entry ∈ noticed.given, entry.1 = subId → entry.2 = pattern

instance (noticed : BrokeredNotice Item) (pattern : String) (subId : Nat) :
    Decidable (Available noticed pattern subId) :=
  inferInstanceAs (Decidable (∀ entry ∈ noticed.given, entry.1 = subId → entry.2 = pattern))

/-- The broker accepts a SUBSCRIBE. -/
def grant (noticed : BrokeredNotice Item) (pattern : String) (subId : Nat) :
    BrokeredNotice Item :=
  { noticed with
    live := noticed.live.insert subId pattern
    given := noticed.given ++ [(subId, pattern)] }

/-- The answer to a SUBSCRIBE whose task was cancelled reaches nobody. -/
def answerAbandoned (noticed : BrokeredNotice Item) (pattern : String) :
    WireOutcome → Option (BrokeredNotice Item)
  | .granted subId =>
      if Available noticed pattern subId then some (noticed.grant pattern subId) else none
  | .rejected => some noticed
  | .removed => none

/-- The answer to the request of the lock holder. -/
def answerHolder (noticed : BrokeredNotice Item) :
    NoticeOperation → WireOutcome → Option (BrokeredNotice Item)
  | .subscribing pattern, .granted subId =>
      if Available noticed pattern subId then
        some { noticed.grant pattern subId with
          client := noticed.client.subscribed pattern subId }
      else
        none
  | .subscribing _, .rejected => some { noticed with client := noticed.client.release }
  | .closing pattern wire consumer, .removed =>
      some { noticed with
        live := noticed.live.erase (noticed.client.idOf wire)
        client := noticed.client.unsubscribed pattern wire consumer }
  | .closing _ _ consumer, .rejected =>
      some { noticed with
        client := noticed.client.release.updateConsumer consumer AsyncSubscription.endClose }
  | _, _ => none

/-- One transition, if the event finds somebody. -/
def step (noticed : BrokeredNotice Item) :
    SubscriptionEvent Item → Option (BrokeredNotice Item)
  | .subscribe pattern =>
      if noticed.client.holder = none then
        some { noticed with client := noticed.client.openSubscription pattern }
      else
        none
  | .cancelSubscribe =>
      match noticed.client.holder with
      | some (.subscribing pattern) =>
          some { noticed with
            client := noticed.client.release
            abandoned := noticed.abandoned ++ [pattern] }
      | _ => none
  | .aclose consumer =>
      some { noticed with
        client := noticed.client.updateConsumer consumer AsyncSubscription.aclose }
  | .cleanup consumer =>
      if consumer ∈ noticed.client.cleanupTasks then
        some { noticed with
          client := { noticed.client with
            cleanupTasks := noticed.client.cleanupTasks.erase consumer
            }.updateConsumer consumer AsyncSubscription.aclose }
      else
        none
  | .close consumer =>
      match noticed.client.consumers[consumer]? with
      | none => none
      | some subscription =>
          if noticed.client.holder = none ∧ subscription.closing = .waiting then
            some { noticed with
              client := noticed.client.close subscription.registration consumer }
          else
            none
  | .read consumer =>
      some { noticed with
        client := noticed.client.updateConsumer consumer AsyncSubscription.read }
  | .notify subId item => some { noticed with client := noticed.client.notify subId item }
  | .answer outcome =>
      match noticed.abandoned with
      | pattern :: abandoned =>
          (noticed.answerAbandoned pattern outcome).map ({ · with abandoned })
      | [] => noticed.client.holder.bind (noticed.answerHolder · outcome)

end BrokeredNotice

/-- The same event at a shared registry. -/
def BrokeredRegistry.handle {Item : Type} (brokered : BrokeredRegistry Item) :
    SubscriptionEvent Item → Option (BrokeredRegistry Item)
  | .subscribe pattern => brokered.step (.subscribe pattern)
  | .cancelSubscribe =>
      match brokered.registry.holder with
      | some (.subscribing _ _ _) => brokered.step .cancel
      | _ => none
  | .aclose consumer => brokered.step (.aclose consumer)
  | .cleanup consumer => brokered.step (.cleanup consumer)
  | .close consumer => brokered.step (.close consumer)
  | .read consumer => brokered.step (.read consumer)
  | .notify subId item => brokered.step (.publish subId item)
  | .answer outcome => brokered.step (.answer outcome)

/-- A notice client and a shared registry that are driven by the same
events. -/
structure SubscriberPair (Item : Type) where
  noticed : BrokeredNotice Item
  brokered : BrokeredRegistry Item
  deriving DecidableEq

namespace SubscriberPair

variable {Item : Type}

def step (pair : SubscriberPair Item) (event : SubscriptionEvent Item) :
    Option (SubscriberPair Item) :=
  some {
    noticed := (pair.noticed.step event).getD pair.noticed
    brokered := (pair.brokered.handle event).getD pair.brokered }

def system (Item : Type) (capacity : Nat) :
    LabelledSystem (SubscriberPair Item) (SubscriptionEvent Item) where
  starts pair := pair = {
    noticed := { client := { bufferSize := capacity } }
    brokered := { registry := { capacity } } }
  step := step

/-- The same patterns are registered, the same subscriptions are live on the
broker, and every consumer was sent the same items. -/
structure Agree (pair : SubscriberPair Item) : Prop where
  registered : ∀ pattern, (pair.noticed.client.byPattern.lookup pattern).isSome =
    (pair.brokered.registry.byRegistration.lookup pattern).isSome
  live : ∀ pattern subId, pair.brokered.live.lookup pattern = some subId ↔
    pair.noticed.live.lookup subId = some pattern
  delivered : ∀ consumer,
    (pair.noticed.client.deliveries.filter (·.1 = consumer)).map (·.2) =
      (pair.brokered.registry.deliveries.filter (·.consumer = consumer)).map
        (·.notification.item)

/-- Neither client is in an operation, and no request is in flight. -/
def Idle (pair : SubscriberPair Item) : Prop :=
  pair.noticed.client.holder = none ∧ pair.noticed.abandoned = [] ∧
    pair.brokered.registry.holder = none

/-- The SUBSCRIBE of a subscribe that was cancelled while it held the lock is
rejected, and until then no other operation takes the lock. -/
def SparesSubscribe (pair : SubscriberPair Item) (event : SubscriptionEvent Item) : Prop :=
  ∀ pattern since,
    pair.brokered.registry.holder = some (.subscribing pattern since true) →
    match event with
    | .subscribe _ | .close _ | .answer (.granted _) => False
    | _ => True

end SubscriberPair

end FitzClient
