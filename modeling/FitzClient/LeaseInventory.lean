import FitzClient.LeaseObserverRest

/-!
# An observer and the leases at its broker

The broker holds the leases of a pattern in a table that anybody may change.
While an observer is attached, that is, while the broker has its subscription
and the registry gives it what arrives, every change sends a notification, which
may take any time and overtake others.  The pages of a LIST pass come from a
snapshot that the broker takes for the first of them, in any order of its leases.

An observer is detached when the connection is lost or its subscription fails,
and attached again when the restoration has reached it or a new subscription has
been entered, unless the session is over by then.  What is in flight at that
time may still arrive or not: notifications that no change since then has
caused may arrive whenever they like.  The tables that the broker held before
are history.
-/

namespace FitzClient

structure LeaseInventory (Item : Type) where
  observer : LeaseInventoryObserver Item
  leases : Dictionary String Item
  attached : Bool
  inFlight : List String := []
  unlisted : Option (List (String × Item)) := none
  past : List (Dictionary String Item) := []

/-- What can happen to the leases, on the way, and to the observer.  A lease that
begins or is renewed changes to an item, and one that ends to nothing. -/
inductive InventoryAction (Item : Type)
  | change (route : String) (item : Option Item)
  | arrive (index : Nat)
  | stray (route : String)
  | detach
  | resume
  | snapshot (items : List (String × Item))
  | page (size : Nat)
  | listed
  | listFailed
  | subscribed (buffered : List String) (live : Bool)
  | reconnect (live : Bool)
  | own (action : ObserverAction Item)

namespace LeaseInventory

variable {Item : Type}

/-- The observer has made a step.  If it was attached, it still is unless its
subscription has failed. -/
def follow (inventory : LeaseInventory Item) (attached : Bool)
    (observer : LeaseInventoryObserver Item) : LeaseInventory Item :=
  let attached := attached && !observer.subscription.closed
  { inventory with
    observer, attached, inFlight := if attached then inventory.inFlight else [] }

/-- The observer has been attached in a session, if that one is still live. -/
def attach (inventory : LeaseInventory Item) (live : Bool)
    (observer : LeaseInventoryObserver Item) : LeaseInventory Item :=
  { inventory with inFlight := [] }.follow live observer

/-- A lease of the table is set or removed. -/
def change (inventory : LeaseInventory Item) (route : String) (item : Option Item) :
    LeaseInventory Item :=
  { inventory with
    leases :=
      match item with
      | some item => inventory.leases.insert route item
      | none => inventory.leases.erase route
    inFlight :=
      if inventory.attached then inventory.inFlight ++ [route] else inventory.inFlight
    past := inventory.past ++ [inventory.leases] }

variable [DecidableEq Item]

/-- One transition. -/
def step (inventory : LeaseInventory Item) :
    InventoryAction Item → Option (LeaseInventory Item)
  | .change route item => some (inventory.change route item)
  | .arrive index =>
      inventory.inFlight[index]?.map fun route =>
        { inventory with inFlight := inventory.inFlight.eraseIdx index }.follow
          inventory.attached (inventory.observer.push route)
  | .stray route => some (inventory.follow inventory.attached (inventory.observer.push route))
  | .detach => some { inventory with attached := false, inFlight := [] }
  | .resume =>
      (inventory.observer.step .resume).map fun observer =>
        { inventory with unlisted := none }.follow inventory.attached observer
  | .snapshot items =>
      match inventory.observer.bootstrap, inventory.unlisted with
      | .listing _ _, none =>
          if items.Perm (Dictionary.items inventory.leases) then
            some { inventory with unlisted := some items }
          else
            none
      | _, _ => none
  | .page size =>
      inventory.unlisted.bind fun items =>
        (inventory.observer.step (.page (items.take size))).map fun observer =>
          { inventory with unlisted := some (items.drop size) }.follow inventory.attached observer
  | .listed =>
      if inventory.unlisted = some [] then
        (inventory.observer.step .listed).map fun observer =>
          { inventory with unlisted := none }.follow inventory.attached observer
      else
        none
  | .listFailed =>
      (inventory.observer.step .listFailed).map fun observer =>
        { inventory with unlisted := none }.follow inventory.attached observer
  | .subscribed buffered live =>
      (inventory.observer.step (.subscribed buffered)).map (inventory.attach live)
  | .reconnect live => (inventory.observer.step .reconnect).map (inventory.attach live)
  | .own action =>
      if action.isOwn then
        (inventory.observer.step action).map (inventory.follow inventory.attached)
      else
        none

/-- The observer has been started on the leases that there are. -/
def start (pattern : String) (capacity : Nat) (buffered : List String)
    (leases : Dictionary String Item) : LeaseInventory Item :=
  let observer := LeaseInventoryObserver.start pattern capacity buffered
  { observer, leases, attached := !observer.subscription.closed }

variable (Item) in
/-- All interleavings from the start of an observer. -/
def system : LabelledSystem (LeaseInventory Item) (InventoryAction Item) where
  starts inventory := ∃ pattern capacity buffered leases,
    inventory = start pattern capacity buffered leases
  step := step

end LeaseInventory

end FitzClient
