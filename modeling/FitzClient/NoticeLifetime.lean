import FitzClient.NoticeClient

/-!
# The notice client over sessions

`NoticeClient` restores its wires after a reconnect, drops all of them at
`unsubscribe_all`, and ends its consumers when the connection closes.  The first
two hold the lock; `_terminate` runs between two awaits of whoever holds it.

What the broker answers is part of the action: it may give any id.
-/

namespace FitzClient

/-- What holds the lock beside `open_subscription` and `close`, suspended at its
await.  `_restore` keeps the wires it has yet to visit. -/
inductive NoticeUpkeep
  | restoring (pattern : String) (wire oldId : Nat) (remaining : List (String × Nat))
  | unsubscribingAll
  deriving DecidableEq, Repr

structure NoticeLifetime (Item : Type) where
  client : NoticeClient Item
  upkeep : Option NoticeUpkeep := none
  deriving DecidableEq

namespace NoticeClient

variable {Item : Type}

/-- The consumers of a wire. -/
def seats (client : NoticeClient Item) (wire : Nat) : List Nat :=
  (client.wires[wire]?.map (·.consumers)).getD []

/-- The items of `_by_pattern` in the order of insertion. -/
def patterns (client : NoticeClient Item) : List (String × Nat) :=
  client.byPattern.entries.reverse.map fun entry => (entry.1, entry.2)

/-- Fail or finish these consumers. -/
def settle (client : NoticeClient Item) (targets : List Nat) (error : Option SubscriptionError) :
    NoticeClient Item :=
  { client with
    consumers := client.consumers.mapIdx fun index consumer =>
      if index ∈ targets then
        match error with
        | none => consumer.finish
        | some error => consumer.fail error
      else
        consumer }

/-- Move a wire from one id to another. -/
def remap (client : NoticeClient Item) (pattern : String) (wire oldId newId : Nat) :
    NoticeClient Item :=
  { client with
    wires := client.wires.modify wire fun state => { state with subId := newId }
    patternById := (client.patternById.erase oldId).insert newId pattern }

/-- `_restore` once it has the new id of a pattern. -/
def rekey (client : NoticeClient Item) (pattern : String) (wire oldId newId : Nat) :
    NoticeClient Item :=
  (client.remap pattern wire oldId newId).flushPending wire

/-- `_restore` when the SUBSCRIBE of a pattern raises. -/
def failPattern (client : NoticeClient Item) (pattern : String) (wire oldId : Nat) :
    NoticeClient Item :=
  { client with
    byPattern := client.byPattern.erase pattern
    patternById := client.patternById.erase oldId }.settle (client.seats wire) (some .other)

/-- The consumers of all registered wires. -/
def registeredConsumers (client : NoticeClient Item) : List Nat :=
  client.byPattern.entries.flatMap fun entry => client.seats entry.2

/-- Both tables are emptied, and their consumers finished. -/
def finishAll (client : NoticeClient Item) : NoticeClient Item :=
  { client with byPattern := ∅, patternById := ∅ }.settle client.registeredConsumers none

/-- `_terminate` -/
def terminate (client : NoticeClient Item) : NoticeClient Item :=
  { client.finishAll with pendingNotifications := [] }

end NoticeClient

/-- What can happen at the notice client.  `subscribed`, `unsubscribed` and
their failures are what the await of the lock holder comes to; the failures
include a cancellation of its request. -/
inductive NoticeAction (Item : Type)
  | notify (subId : Nat) (item : Item)
  | subscribe (pattern : String)
  | subscribed (subId : Nat)
  | subscribeFailed
  | unsubscribed
  | unsubscribeFailed
  | aclose (consumer : Nat)
  | cleanup (consumer : Nat)
  | close (consumer : Nat)
  | cancelClose (consumer : Nat)
  | read (consumer : Nat)
  | restore
  | cancelRestore
  | unsubscribeAll
  | terminate
  deriving DecidableEq, Repr

namespace NoticeLifetime

variable {Item : Type}

/-- Nobody holds the lock. -/
def idle (lifetime : NoticeLifetime Item) : Prop :=
  lifetime.client.holder = none ∧ lifetime.upkeep = none

instance (lifetime : NoticeLifetime Item) : Decidable lifetime.idle :=
  inferInstanceAs (Decidable (_ = _ ∧ _ = _))

/-- `_restore` at the head of its loop. -/
def restoreNext (client : NoticeClient Item) : List (String × Nat) → NoticeLifetime Item
  | [] => { client }
  | (pattern, wire) :: remaining =>
      { client, upkeep := some (.restoring pattern wire (client.idOf wire) remaining) }

/-- The SUBSCRIBE of the lock holder returns an id. -/
def subscribed (lifetime : NoticeLifetime Item) (subId : Nat) : Option (NoticeLifetime Item) :=
  match lifetime.client.holder, lifetime.upkeep with
  | some (.subscribing pattern), none =>
      some { lifetime with client := lifetime.client.subscribed pattern subId }
  | none, some (.restoring pattern wire oldId remaining) =>
      some (restoreNext (lifetime.client.rekey pattern wire oldId subId) remaining)
  | _, _ => none

/-- The SUBSCRIBE of the lock holder raises; restoration goes on. -/
def subscribeFailed (lifetime : NoticeLifetime Item) : Option (NoticeLifetime Item) :=
  match lifetime.client.holder, lifetime.upkeep with
  | some (.subscribing _), none => some { lifetime with client := lifetime.client.release }
  | none, some (.restoring pattern wire oldId remaining) =>
      some (restoreNext (lifetime.client.failPattern pattern wire oldId) remaining)
  | _, _ => none

def unsubscribed (lifetime : NoticeLifetime Item) : Option (NoticeLifetime Item) :=
  match lifetime.client.holder, lifetime.upkeep with
  | some (.closing pattern wire consumer), none =>
      some { lifetime with client := lifetime.client.unsubscribed pattern wire consumer }
  | none, some .unsubscribingAll => some { client := lifetime.client.finishAll }
  | _, _ => none

def unsubscribeFailed (lifetime : NoticeLifetime Item) : Option (NoticeLifetime Item) :=
  match lifetime.client.holder, lifetime.upkeep with
  | some (.closing _ _ consumer), none =>
      some { lifetime with
        client := lifetime.client.release.updateConsumer consumer AsyncSubscription.endClose }
  | none, some .unsubscribingAll => some { client := lifetime.client }
  | _, _ => none

/-- One transition. -/
def step (lifetime : NoticeLifetime Item) : NoticeAction Item → Option (NoticeLifetime Item)
  | .notify subId item => some { lifetime with client := lifetime.client.notify subId item }
  | .subscribe pattern =>
      if lifetime.idle then
        some { lifetime with client := lifetime.client.openSubscription pattern }
      else
        none
  | .subscribed subId => lifetime.subscribed subId
  | .subscribeFailed => lifetime.subscribeFailed
  | .unsubscribed => lifetime.unsubscribed
  | .unsubscribeFailed => lifetime.unsubscribeFailed
  | .aclose consumer =>
      some { lifetime with
        client := lifetime.client.updateConsumer consumer AsyncSubscription.aclose }
  | .cleanup consumer =>
      if consumer ∈ lifetime.client.cleanupTasks then
        some { lifetime with
          client := { lifetime.client with
            cleanupTasks := lifetime.client.cleanupTasks.erase consumer
            }.updateConsumer consumer AsyncSubscription.aclose }
      else
        none
  | .close consumer =>
      match lifetime.client.consumers[consumer]? with
      | none => none
      | some subscription =>
          if lifetime.idle ∧ subscription.closing = .waiting then
            some { lifetime with
              client := lifetime.client.close subscription.registration consumer }
          else
            none
  -- cancelled while it waits for the lock
  | .cancelClose consumer =>
      if lifetime.client.consumers[consumer]?.any (·.closing = .waiting) then
        some { lifetime with
          client := lifetime.client.updateConsumer consumer AsyncSubscription.endClose }
      else
        none
  | .read consumer =>
      some { lifetime with
        client := lifetime.client.updateConsumer consumer AsyncSubscription.read }
  | .restore =>
      if lifetime.idle then
        some (restoreNext lifetime.client lifetime.client.patterns)
      else
        none
  | .cancelRestore =>
      match lifetime.upkeep with
      | some (.restoring _ _ _ _) => some { lifetime with upkeep := none }
      | _ => none
  | .unsubscribeAll =>
      if lifetime.idle then
        some { lifetime with upkeep := some .unsubscribingAll }
      else
        none
  | .terminate => some { lifetime with client := lifetime.client.terminate }

end NoticeLifetime

end FitzClient
