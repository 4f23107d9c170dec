import FitzClient.LeaseInventory

/-!
# The view of an observer at rest

A pass shows a table that the broker held when it was asked for the first page,
and unless it is raced that table is still held, or the notification of a change
since is in flight.  An observer that rests with nothing in flight therefore
shows the leases as they are.
-/

namespace FitzClient

open LeaseInventoryObserver (Beside Consistent Settled Subscribed)

namespace LeaseInventory

variable {Item : Type} {inventory next : LeaseInventory Item}
  {observer : LeaseInventoryObserver Item}

/-- The tables that the broker has held. -/
def tables (inventory : LeaseInventory Item) : List (Dictionary String Item) :=
  inventory.past ++ [inventory.leases]

/-- A view has exactly the leases of a table. -/
def Shows (view table : Dictionary String Item) : Prop :=
  ∀ route, view.lookup route = table.lookup route

/-- Nothing asks for another pass, and nothing is on its way that will. -/
structure AtRest (inventory : LeaseInventory Item) : Prop where
  attached : inventory.attached = true
  arrived : inventory.inFlight = []
  parked : inventory.observer.bootstrap = .parked
  unset : inventory.observer.invalidate = false

/-- A pass that began at `start` has listed part of a table that the broker has held, and
still holds unless the observer has missed something or will be told. -/
def Listing (inventory : LeaseInventory Item) (start : PassStart)
    (view : Dictionary String Item) : Option (List (String × Item)) → Prop
  | none => view = ∅
  | some unlisted => ∃ table ∈ inventory.tables, ∃ listed,
      (listed ++ unlisted).Perm (Dictionary.items table) ∧ view = Dictionary.assign ∅ listed ∧
        (inventory.attached = true → inventory.inFlight = [] →
          inventory.observer.notificationGeneration = start.startGeneration →
          inventory.observer.subscriptionGeneration = start.subscriptionGeneration →
            table = inventory.leases)

structure Current (inventory : LeaseInventory Item) : Prop where
  consistent : Consistent inventory.observer
  settled : Settled inventory.observer
  subscribed : Subscribed inventory.observer
  attached : inventory.attached = true → inventory.observer.subscription.closed = false
  pass : ∀ start view, inventory.observer.bootstrap = .listing start view →
    inventory.Listing start view inventory.unlisted
  held : inventory.observer.view = ∅ ∨ ∃ table ∈ inventory.tables,
    Shows inventory.observer.view table
  rest : inventory.AtRest → Shows inventory.observer.view inventory.leases

/-- The observer has made a step beside its bootstrap task.  It is not newly without
notifications in flight unless it has recorded something, and not newly at rest. -/
structure Beside (inventory next : LeaseInventory Item) : Prop where
  observer : LeaseInventoryObserver.Beside inventory.observer next.observer
  leases : next.leases = inventory.leases
  past : next.past = inventory.past
  unlisted : next.unlisted = inventory.unlisted
  quiet : next.attached = true → next.inFlight = [] →
    next.observer.notificationGeneration = inventory.observer.notificationGeneration →
    next.observer.subscriptionGeneration = inventory.observer.subscriptionGeneration →
      inventory.attached = true ∧ inventory.inFlight = []
  rest : next.AtRest → inventory.AtRest

theorem Beside.tables (beside : Beside inventory next) : next.tables = inventory.tables := by
  rw [LeaseInventory.tables, beside.past, beside.leases, LeaseInventory.tables]

theorem Beside.listing (beside : Beside inventory next) {start : PassStart}
    {view : Dictionary String Item}
    (within : start.Within inventory.observer.notificationGeneration
      inventory.observer.subscriptionGeneration)
    (listing : inventory.Listing start view inventory.unlisted) :
    next.Listing start view next.unlisted := by
  rw [beside.unlisted]
  cases unlisted : inventory.unlisted with
  | none =>
      rw [unlisted] at listing
      exact listing
  | some items =>
      rw [unlisted] at listing
      obtain ⟨table, held, listed, all, same, current⟩ := listing
      refine ⟨table, beside.tables ▸ held, listed, all, same, ?_⟩
      intro attached arrived notifications subscriptions
      have more := beside.observer.notifications
      have later := beside.observer.subscriptions
      have before := within.notifications
      have behind := within.subscriptions
      obtain ⟨wasAttached, wasArrived⟩ :=
        beside.quiet attached arrived (by omega) (by omega)
      rw [beside.leases]
      exact current wasAttached wasArrived (by omega) (by omega)

/-- A step beside the bootstrap task keeps the view as current as it was. -/
theorem Current.beside (current : Current inventory) (beside : Beside inventory next)
    (consistent : Consistent next.observer) (settled : Settled next.observer)
    (subscribed : Subscribed next.observer)
    (attached : next.attached = true → next.observer.subscription.closed = false) :
    Current next where
  consistent := consistent
  settled := settled
  subscribed := subscribed
  attached := attached
  pass start view listing :=
    have was := beside.observer.pass start view listing
    beside.listing (current.consistent.pass start view was) (current.pass start view was)
  held := by
    rw [beside.observer.view, beside.tables]
    exact current.held
  rest atRest := by
    rw [beside.observer.view, beside.leases]
    exact current.rest (beside.rest atRest)

section follow

@[simp]
theorem observer_follow (attached : Bool) :
    (inventory.follow attached observer).observer = observer := rfl

@[simp]
theorem observer_attach (live : Bool) :
    (inventory.attach live observer).observer = observer := rfl

theorem attached_follow {attached : Bool}
    (isAttached : (inventory.follow attached observer).attached = true) :
    attached = true ∧ observer.subscription.closed = false := by
  simpa [follow] using isAttached

theorem inFlight_follow {attached : Bool}
    (isAttached : (inventory.follow attached observer).attached = true) :
    (inventory.follow attached observer).inFlight = inventory.inFlight := by
  obtain ⟨was, isOpen⟩ := attached_follow isAttached
  simp [follow, was, isOpen]

end follow

/-- An observer that stays attached follows its own action. -/
theorem beside_follow (beside : LeaseInventoryObserver.Beside inventory.observer observer) :
    Beside inventory (inventory.follow inventory.attached observer) where
  observer := beside
  leases := rfl
  past := rfl
  unlisted := rfl
  quiet attached arrived _ _ := by
    rw [inFlight_follow attached] at arrived
    exact ⟨(attached_follow attached).1, arrived⟩
  rest atRest := by
    obtain ⟨parked, unset⟩ := beside.rest atRest.parked atRest.unset
    have arrived := atRest.arrived
    rw [inFlight_follow atRest.attached] at arrived
    exact ⟨(attached_follow atRest.attached).1, arrived, parked, unset⟩

/-- A notification that arrives is recorded. -/
theorem beside_arrive (current : Current inventory) {route : String} (inFlight : List String) :
    Beside inventory ({ inventory with inFlight }.follow inventory.attached
      (inventory.observer.push route)) where
  observer := LeaseInventoryObserver.beside_push route
  leases := rfl
  past := rfl
  unlisted := rfl
  quiet attached _ same := by
    have isOpen := current.attached (attached_follow attached).1
    have counted := LeaseInventoryObserver.notificationGeneration_push isOpen route
    rw [observer_follow, counted] at same
    omega
  rest atRest := by
    have isOpen := current.attached (attached_follow atRest.attached).1
    have set := LeaseInventoryObserver.invalidate_of_push current.settled current.subscribed isOpen
      atRest.parked
    have unset := atRest.unset
    rw [observer_follow, set] at unset
    cases unset

/-- An observer that is attached has recorded that it is. -/
theorem beside_attach {live : Bool}
    (beside : LeaseInventoryObserver.Beside inventory.observer observer)
    (recorded : inventory.observer.subscriptionGeneration < observer.subscriptionGeneration)
    (set : observer.invalidate = true) :
    Beside inventory (inventory.attach live observer) where
  observer := beside
  leases := rfl
  past := rfl
  unlisted := rfl
  quiet _ _ _ same := by
    rw [observer_attach] at same
    omega
  rest atRest := by
    have unset := atRest.unset
    rw [observer_attach, set] at unset
    cases unset

/-- Whatever the observer does beside its bootstrap task. -/
theorem Current.follow (current : Current inventory) (action : ObserverAction Item)
    (stepped : inventory.observer.step action = some observer)
    (beside : Beside inventory next) (same : next.observer = observer)
    (attached : next.attached = true → observer.subscription.closed = false) : Current next := by
  subst same
  exact current.beside beside
    (LeaseInventoryObserver.consistent_step current.consistent stepped)
    (LeaseInventoryObserver.settled_step current.consistent current.settled stepped)
    (LeaseInventoryObserver.subscribed_step current.subscribed stepped) attached

/-- A change leaves its notification in flight. -/
theorem Current.change (current : Current inventory) (route : String) (item : Option Item) :
    Current (inventory.change route item) := by
  have held : ∀ table ∈ inventory.tables, table ∈ (inventory.change route item).tables :=
    fun table present => List.mem_append_left _ present
  have told : (inventory.change route item).attached = true →
      (inventory.change route item).inFlight ≠ [] := by
    intro attached
    have was : inventory.attached = true := attached
    simp [LeaseInventory.change, was]
  refine ⟨current.consistent, current.settled, current.subscribed, current.attached, ?_, ?_,
    fun atRest => (told atRest.attached atRest.arrived).elim⟩
  · intro start view listing
    have pass := current.pass start view listing
    change Listing _ start view inventory.unlisted
    cases unlisted : inventory.unlisted with
    | none =>
        rw [unlisted] at pass
        exact pass
    | some items =>
        rw [unlisted] at pass
        obtain ⟨table, present, listed, all, same, -⟩ := pass
        exact ⟨table, held table present, listed, all, same,
          fun attached arrived => (told attached arrived).elim⟩
  · exact current.held.imp_right fun ⟨table, present, shows⟩ => ⟨table, held table present, shows⟩

/-- Nothing is promised to an observer that is detached. -/
theorem Current.detach (current : Current inventory) :
    Current { inventory with attached := false, inFlight := [] } :=
  current.beside ⟨.refl _, rfl, rfl, rfl, nofun, fun atRest => by cases atRest.attached⟩
    current.consistent current.settled current.subscribed nofun

section bootstrap

variable {action : ObserverAction Item}

/-- A task that restarts has listed nothing. -/
theorem Current.restart (current : Current inventory)
    (stepped : inventory.observer.step action = some observer)
    (restarts : inventory.observer.Restarts observer) :
    Current ({ inventory with unlisted := none }.follow inventory.attached observer) where
  consistent := LeaseInventoryObserver.consistent_step current.consistent stepped
  settled := LeaseInventoryObserver.settled_step current.consistent current.settled stepped
  subscribed := LeaseInventoryObserver.subscribed_step current.subscribed stepped
  attached attached := (attached_follow attached).2
  pass start view listing := restarts.fresh start view listing
  held := by
    rw [observer_follow, restarts.view]
    exact current.held
  rest atRest := (restarts.busy atRest.parked).elim

/-- The pass has shown the whole table. -/
theorem Current.listed (current : Current inventory) (done : inventory.unlisted = some [])
    (stepped : inventory.observer.step .listed = some observer) :
    Current ({ inventory with unlisted := none }.follow inventory.attached observer) := by
  have finish := stepped
  simp only [LeaseInventoryObserver.step] at finish
  split at finish
  · next start view listing =>
      obtain rfl := Option.some.inj finish
      rcases LeaseInventoryObserver.finishPass_cases inventory.observer start view with
        restarts | ⟨unraced, finished⟩
      · exact current.restart stepped restarts
      obtain ⟨table, present, listed, all, rfl, same⟩ :=
        done ▸ current.pass start view listing
      rw [List.append_nil] at all
      have shows : Shows (Dictionary.assign ∅ listed) table := Dictionary.lookup_assign_items all
      refine {
        consistent := LeaseInventoryObserver.consistent_step current.consistent stepped
        settled := LeaseInventoryObserver.settled_step current.consistent current.settled stepped
        subscribed := LeaseInventoryObserver.subscribed_step current.subscribed stepped
        attached := fun attached => (attached_follow attached).2
        pass := fun start view listing => ?_
        held := Or.inr ⟨table, present, ?_⟩
        rest := fun atRest => ?_ }
      · rcases finished with ⟨parked, -⟩ | restarts
        · rw [observer_follow, parked] at listing
          cases listing
        · exact restarts.fresh start view listing
      · rcases finished with ⟨-, shown⟩ | restarts
        · rw [observer_follow, shown]
          exact shows
        · rw [observer_follow, restarts.view]
          exact shows
      · rcases finished with ⟨-, shown⟩ | restarts
        · have arrived := atRest.arrived
          rw [inFlight_follow atRest.attached] at arrived
          simp only [LeaseInventoryObserver.raced, Bool.or_eq_false_iff, bne_eq_false_iff_eq]
            at unraced
          rw [observer_follow, shown, ← same (attached_follow atRest.attached).1 arrived
            unraced.1.1.2 unraced.2]
          exact shows
        · exact (restarts.busy atRest.parked).elim
  · cases finish

/-- A page goes on with the table of the pass. -/
theorem Current.page (current : Current inventory) {items : List (String × Item)} {size : Nat}
    (unlisted : inventory.unlisted = some items)
    (stepped : inventory.observer.step (.page (items.take size)) = some observer) :
    Current ({ inventory with unlisted := some (items.drop size) }.follow inventory.attached
      observer) := by
  have extended := stepped
  simp only [LeaseInventoryObserver.step] at extended
  split at extended
  · next start view listing =>
      obtain rfl := Option.some.inj extended
      refine {
        consistent := LeaseInventoryObserver.consistent_step current.consistent stepped
        settled := LeaseInventoryObserver.settled_step current.consistent current.settled stepped
        subscribed := LeaseInventoryObserver.subscribed_step current.subscribed stepped
        attached := fun attached => (attached_follow attached).2
        pass := fun other extension another => ?_
        held := current.held
        rest := fun atRest => by cases atRest.parked }
      obtain ⟨rfl, rfl⟩ := BootstrapPhase.listing.inj another
      obtain ⟨table, present, listed, all, rfl, same⟩ :=
        unlisted ▸ current.pass start view listing
      refine ⟨table, present, listed ++ items.take size, ?_, ?_, fun attached arrived => ?_⟩
      · rw [List.append_assoc, List.take_append_drop]
        exact all
      · exact (List.foldl_append ..).symm
      · rw [inFlight_follow attached] at arrived
        exact same (attached_follow attached).1 arrived
  · cases extended

end bootstrap

theorem current_start (pattern : String) (capacity : Nat) (buffered : List String)
    (leases : Dictionary String Item) : Current (start pattern capacity buffered leases) := by
  have started : (LeaseInventoryObserver.system Item).Reachable
      (.start pattern capacity buffered) :=
    ⟨_, ⟨pattern, capacity, buffered, rfl⟩, .refl⟩
  have entered := LeaseInventoryObserver.beside_foldl_push
    ({ pattern, capacity, subscription := { registration := pattern } } :
      LeaseInventoryObserver Item) buffered
  exact {
    consistent := (LeaseInventoryObserver.invariant_settled.of_reachable started).1
    settled := (LeaseInventoryObserver.invariant_settled.of_reachable started).2
    subscribed := LeaseInventoryObserver.subscribed_subscribed _ buffered
    attached := fun attached => by simpa [start] using attached
    pass := fun start view listing => by
      cases entered.pass start view (BootstrapPhase.wake_eq_listing.mp listing)
    held := Or.inl entered.view
    rest := fun atRest => by
      have set : (start pattern capacity buffered leases).observer.invalidate = true :=
        LeaseInventoryObserver.invalidate_foldl_push rfl buffered
      cases set.symm.trans atRest.unset }

variable [DecidableEq Item]

/-- The broker takes a snapshot of the table it holds. -/
theorem Current.snapshot (current : Current inventory) {items : List (String × Item)}
    (stepped : inventory.step (.snapshot items) = some next) : Current next := by
  simp only [step] at stepped
  split at stepped
  · next start view listing unlisted =>
      obtain ⟨all, same⟩ := Option.ite_none_right_eq_some.mp stepped
      obtain rfl := Option.some.inj same
      have pass := current.pass start view listing
      rw [unlisted] at pass
      refine ⟨current.consistent, current.settled, current.subscribed, current.attached, ?_,
        current.held, fun atRest => current.rest ⟨atRest.attached, atRest.arrived, atRest.parked,
          atRest.unset⟩⟩
      intro other another relisting
      obtain ⟨rfl, rfl⟩ := BootstrapPhase.listing.inj (listing.symm.trans relisting)
      exact ⟨inventory.leases, List.mem_append_right _ List.mem_cons_self, [], all, pass,
        fun _ _ _ _ => rfl⟩
  · cases stepped

theorem current_step (current : Current inventory) {action : InventoryAction Item}
    (stepped : inventory.step action = some next) : Current next := by
  cases action with
  | change route item =>
      obtain rfl := Option.some.inj stepped
      exact current.change route item
  | arrive index =>
      obtain ⟨route, -, rfl⟩ := Option.map_eq_some_iff.mp stepped
      exact current.follow (.notify route) rfl (beside_arrive current _) rfl
        fun attached => (attached_follow attached).2
  | stray route =>
      obtain rfl := Option.some.inj stepped
      exact current.follow (.notify route) rfl
        (beside_follow (LeaseInventoryObserver.beside_push route)) rfl
        fun attached => (attached_follow attached).2
  | detach =>
      obtain rfl := Option.some.inj stepped
      exact current.detach
  | resume =>
      obtain ⟨observer, resumed, rfl⟩ := Option.map_eq_some_iff.mp stepped
      exact current.restart resumed (LeaseInventoryObserver.restarts_resume resumed)
  | snapshot items => exact current.snapshot stepped
  | page size =>
      obtain ⟨items, unlisted, paged⟩ := Option.bind_eq_some_iff.mp stepped
      obtain ⟨observer, extended, rfl⟩ := Option.map_eq_some_iff.mp paged
      exact current.page unlisted extended
  | listed =>
      obtain ⟨done, listed⟩ := Option.ite_none_right_eq_some.mp stepped
      obtain ⟨observer, finished, rfl⟩ := Option.map_eq_some_iff.mp listed
      exact current.listed done finished
  | listFailed =>
      obtain ⟨observer, failed, rfl⟩ := Option.map_eq_some_iff.mp stepped
      exact current.restart failed (LeaseInventoryObserver.restarts_listFailed failed)
  | subscribed buffered live =>
      obtain ⟨observer, entered, rfl⟩ := Option.map_eq_some_iff.mp stepped
      obtain ⟨beside, recorded, set⟩ := LeaseInventoryObserver.beside_subscribed entered
      exact current.follow _ entered (beside_attach beside recorded set) rfl
        fun attached => (attached_follow attached).2
  | reconnect live =>
      obtain ⟨observer, restored, rfl⟩ := Option.map_eq_some_iff.mp stepped
      obtain ⟨beside, recorded, set⟩ := LeaseInventoryObserver.beside_reconnect restored
      exact current.follow _ restored (beside_attach beside recorded set) rfl
        fun attached => (attached_follow attached).2
  | own action =>
      obtain ⟨own, acted⟩ := Option.ite_none_right_eq_some.mp stepped
      obtain ⟨observer, did, rfl⟩ := Option.map_eq_some_iff.mp acted
      exact current.follow _ did (beside_follow (LeaseInventoryObserver.beside_own own did)) rfl
        fun attached => (attached_follow attached).2

variable (Item) in
theorem invariant_current : (system Item).Invariant (fun _ _ => True) Current where
  starts first starts := by
    obtain ⟨pattern, capacity, buffered, leases, rfl⟩ := starts
    exact current_start pattern capacity buffered leases
  preserved _ _ _ current _ stepped := current_step current stepped

/-- The view of an observer is empty or a table that the broker has held; an observer at rest
shows the leases as they are. -/
theorem view_of_reachable (reachable : (system Item).Reachable inventory) :
    (inventory.observer.view = ∅ ∨ ∃ table ∈ inventory.tables,
      Shows inventory.observer.view table) ∧
    (inventory.AtRest → Shows inventory.observer.view inventory.leases) :=
  have current := (invariant_current Item).of_reachable reachable
  ⟨current.held, current.rest⟩

/-- A lease begins while the first pass is under way.  The pass misses it and the observer
rests, until the notification arrives and is read during the second pass. -/
theorem view_of_reachable_missed : ∃ inventory : LeaseInventory Nat,
    inventory.past.length = 1 ∧ inventory.AtRest ∧
      (inventory.observer.view = ∅ ∨ ∃ table ∈ inventory.tables,
        Shows inventory.observer.view table) ∧
      (inventory.AtRest → Shows inventory.observer.view inventory.leases) :=
  ⟨_, rfl, ⟨rfl, rfl, rfl, rfl⟩, view_of_reachable
    ((system Nat).reachable_of_run
      ⟨"lease://r/a/*", 4, [], Dictionary.assign ∅ [("lease://r/a/1", 1)], rfl⟩
      [.resume, .snapshot [("lease://r/a/1", 1)], .change "lease://r/a/2" (some 2), .page 1,
        .listed, .arrive 0, .resume, .own .consume,
        .snapshot [("lease://r/a/1", 1), ("lease://r/a/2", 2)], .page 5, .listed, .resume,
        .snapshot [("lease://r/a/2", 2), ("lease://r/a/1", 1)], .page 1, .page 1, .listed] rfl)⟩

end LeaseInventory

end FitzClient
