import FitzClient.LeaseInventoryView
import FitzClient.LeaseObserverTasks
import FitzClient.Settling

/-!
# Observers come to rest

When the leases do not change any more and an attached observer has room for what
is in flight, whatever order the notifications arrive in, are read, and the passes
go on in, it ends in a rest.  A notification is worth two more passes, one for its
arrival and one for its reading, and a pass is worth its pages.
-/

namespace FitzClient

open LeaseInventoryObserver (Alert Begins)

namespace LeaseInventoryObserver

variable {Item : Type} {before after : LeaseInventoryObserver Item}

/-- The pass under way, or the next one, is raced already. -/
def dirty (observer : LeaseInventoryObserver Item) : Bool :=
  !observer.buffer.isEmpty ||
    match observer.bootstrap with
    | .listing start _ => observer.notificationGeneration != start.startGeneration ||
        observer.subscriptionGeneration != start.subscriptionGeneration
    | _ => false

theorem dirty_of_begins (begins : Begins before after) (dirty : after.dirty = true) :
    before.dirty = true := by
  obtain ⟨start, listing, notifications, subscriptions⟩ := begins.pass
  have some : after.buffer ≠ [] := by
    simpa [LeaseInventoryObserver.dirty, listing, notifications, subscriptions] using dirty
  rw [LeaseInventoryObserver.dirty]
  simpa using Or.inl (begins.buffer some)

theorem raced_eq_dirty (ready : before.subscriptionReady = true) {start : PassStart}
    {view : Dictionary String Item} (listing : before.bootstrap = .listing start view) :
    before.raced start = before.dirty := by
  simp [raced, LeaseInventoryObserver.dirty, listing, ready, Bool.or_assoc]

/-- A push that has room asks for one more pass at most. -/
theorem push_of_room (isOpen : before.subscription.closed = false)
    (room : before.subscription.full before.capacity = false) (route : String) :
    (before.push route).bootstrap = before.bootstrap ∧
      (before.push route).closed = before.closed ∧
      (before.push route).capacity = before.capacity ∧
      (before.push route).subscription.closed = false ∧
      (before.push route).subscription.queue.length = before.subscription.queue.length + 1 := by
  have noted : before.noteNotification.bootstrap = before.bootstrap ∧
      before.noteNotification.closed = before.closed ∧
      before.noteNotification.capacity = before.capacity := by
    unfold noteNotification
    split <;> exact ⟨rfl, rfl, rfl⟩
  have pushed : (before.push route).subscription.closed = false ∧
      (before.push route).subscription.queue.length =
        before.subscription.queue.length + 1 := by
    rw [subscription_push]
    simp [AsyncSubscription.push, isOpen, room]
  rcases before.push_cases route with ⟨closed, -⟩ | ⟨-, -, subscription, same⟩ |
    ⟨-, full, -, -⟩
  · rw [isOpen] at closed
    cases closed
  · rw [same] at pushed ⊢
    exact ⟨noted.1, noted.2.1, noted.2.2, pushed⟩
  · rw [room] at full
    cases full

/-- A route that is read asks for one more pass at most. -/
theorem consume_of_open (plain : before.subscription.Plain)
    (isOpen : before.subscription.closed = false) (consumed : before.consume = some after) :
    after.bootstrap = before.bootstrap ∧ after.closed = before.closed ∧
      after.capacity = before.capacity ∧ after.subscription.closed = false ∧
      after.subscription.queue.length + 1 = before.subscription.queue.length := by
  unfold consume at consumed
  split at consumed
  · next route queue queued =>
      obtain rfl := Option.some.inj consumed
      have read : before.subscription.read.closed = false ∧
          before.subscription.read.queue.length + 1 = before.subscription.queue.length := by
        simp [AsyncSubscription.read, queued, isOpen]
      unfold consumeRoute
      split <;> exact ⟨rfl, rfl, rfl, read⟩
  · next error queue queued =>
      obtain ⟨item, same⟩ := plain isOpen (.exception error) (queued ▸ List.mem_cons_self)
      cases same
  · next queue queued =>
      obtain ⟨item, same⟩ := plain isOpen .finished (queued ▸ List.mem_cons_self)
      cases same
  · rw [isOpen] at consumed
    cases consumed

end LeaseInventoryObserver

namespace LeaseInventory

variable {Item : Type} {inventory next : LeaseInventory Item}

/-- The actions that bring an attached observer to rest: what is in flight arrives and is
read, and passes go on with pages that are not empty. -/
def Settling (inventory : LeaseInventory Item) : InventoryAction Item → Prop
  | .arrive _ | .resume | .snapshot _ | .listed | .own .consume => True
  | .page size => 0 < size ∧ inventory.unlisted ≠ some []
  | _ => False

/-- An attached observer with room for what is in flight. -/
structure Converging (inventory : LeaseInventory Item) : Prop where
  current : Current inventory
  alert : Alert inventory.observer
  attached : inventory.attached = true
  running : inventory.observer.closed = false
  room : inventory.observer.capacity = 0 ∨
    inventory.inFlight.length + inventory.observer.subscription.queue.length ≤
      inventory.observer.capacity

/-- `flag` is worth as much. -/
def worth (flag : Bool) (weight : Nat) : Nat :=
  if flag then weight else 0

theorem worth_le (flag : Bool) (weight : Nat) : worth flag weight ≤ weight := by
  unfold worth
  split <;> omega

theorem worth_mono {first second : Bool} (more : first = true → second = true) (weight : Nat) :
    worth first weight ≤ worth second weight := by
  unfold worth
  cases first <;> cases second <;> simp_all

/-- What the pass under way, or the next one, has to list. -/
def remaining (inventory : LeaseInventory Item) : Nat :=
  match inventory.observer.bootstrap with
  | .listing _ _ =>
      match inventory.unlisted with
      | none => (Dictionary.items inventory.leases).length + 2
      | some items => items.length + 1
  | .parked | .ended => 0
  | _ => (Dictionary.items inventory.leases).length + 3

/-- What a pass is worth. -/
def passWorth (inventory : LeaseInventory Item) : Nat :=
  (Dictionary.items inventory.leases).length + 4

/-- What is on its way to the observer: an arrival and a reading for each notification in
flight, and a reading for each in the queue. -/
def load (inventory : LeaseInventory Item) : Nat :=
  2 * inventory.inFlight.length + inventory.observer.subscription.queue.length

/-- What the passes are worth that have been asked for, and what is left of the one under way. -/
def demand (inventory : LeaseInventory Item) : Nat :=
  worth inventory.observer.invalidate inventory.passWorth +
    worth inventory.observer.dirty inventory.passWorth + inventory.remaining

/-- How many settling actions there can be. -/
def settlingBound (inventory : LeaseInventory Item) : Nat :=
  inventory.load * (2 * inventory.passWorth + 1) + inventory.demand

/-- What arrives or is read asks for two more passes at most. -/
theorem settlingBound_of_load (leases : next.leases = inventory.leases)
    (load : next.load + 1 = inventory.load)
    (remaining : next.remaining = inventory.remaining) :
    settlingBound next < settlingBound inventory := by
  have pass : next.passWorth = inventory.passWorth := by rw [passWorth, passWorth, leases]
  have invalidate := worth_le next.observer.invalidate inventory.passWorth
  have dirty := worth_le next.observer.dirty inventory.passWorth
  rw [settlingBound, settlingBound, demand, demand, ← load, pass, remaining, Nat.add_mul,
    Nat.one_mul]
  omega

theorem settlingBound_of_demand (leases : next.leases = inventory.leases)
    (load : next.load = inventory.load) (less : next.demand < inventory.demand) :
    settlingBound next < settlingBound inventory := by
  rw [settlingBound, settlingBound, load, passWorth, leases]
  exact Nat.add_lt_add_left less _

/-- A subscription is ready that an observer is attached to. -/
theorem Converging.isOpen (converging : Converging inventory) :
    inventory.observer.subscription.closed = false :=
  converging.current.attached converging.attached

theorem Converging.ready (converging : Converging inventory) :
    inventory.observer.subscriptionReady = true := by
  cases ready : inventory.observer.subscriptionReady with
  | true => rfl
  | false =>
      have closed := converging.current.subscribed.unready ready
      rw [converging.isOpen] at closed
      cases closed

theorem follow_eq (inventory : LeaseInventory Item) {observer : LeaseInventoryObserver Item}
    (isOpen : observer.subscription.closed = false) (attached : inventory.attached = true) :
    inventory.follow inventory.attached observer = { inventory with observer } := by
  simp [follow, isOpen, attached]

/-- A pass that begins has been paid for. -/
theorem demand_begins {middle observer : LeaseInventoryObserver Item}
    (begins : Begins middle observer)
    (dirty : middle.dirty = true → inventory.observer.dirty = true)
    (paid : worth observer.invalidate inventory.passWorth +
        ((Dictionary.items inventory.leases).length + 2) <
      worth inventory.observer.invalidate inventory.passWorth + inventory.remaining) :
    demand { inventory with observer, unlisted := none } < demand inventory := by
  obtain ⟨start, listing, -, -⟩ := begins.pass
  have dirtier := worth_mono
    (fun isDirty => dirty (LeaseInventoryObserver.dirty_of_begins begins isDirty))
    inventory.passWorth
  have rest : remaining { inventory with observer, unlisted := none } =
      (Dictionary.items inventory.leases).length + 2 := by
    simp only [remaining, listing]
  rw [demand, demand, rest]
  change _ + worth observer.dirty inventory.passWorth + _ < _
  change worth observer.invalidate inventory.passWorth + _ + _ < _
  omega

/-- What a step of the bootstrap task leaves alone. -/
structure Alike (before after : LeaseInventoryObserver Item) : Prop where
  subscription : after.subscription = before.subscription
  closed : after.closed = before.closed
  capacity : after.capacity = before.capacity

/-- The task is resumed and begins a pass. -/
theorem Converging.resume (converging : Converging inventory)
    {observer : LeaseInventoryObserver Item}
    (resumed : inventory.observer.step .resume = some observer) :
    Alike inventory.observer observer ∧
      demand { inventory with observer, unlisted := none } < demand inventory := by
  rcases LeaseInventoryObserver.begins_resume converging.ready converging.running resumed with
    ⟨asked, begins, unset⟩ | ⟨⟨rested, running, idle⟩, begins⟩
  · refine ⟨⟨begins.subscription, begins.closed, begins.capacity⟩, demand_begins begins id ?_⟩
    rw [unset]
    rcases asked with ⟨parked, set⟩ | failing
    · simp [worth, set, passWorth, remaining, parked]
    · simp [worth, remaining, failing]
      omega
  · refine ⟨⟨begins.subscription, begins.closed, begins.capacity⟩, demand_begins begins id ?_⟩
    have invalidate := worth_mono begins.invalidate inventory.passWorth
    have was : inventory.remaining = (Dictionary.items inventory.leases).length + 3 := by
      unfold remaining
      split
      · next another => exact (idle _ _ another).elim
      · next parked => exact (rested parked).elim
      · next ended => exact (running ended).elim
      · rfl
    omega

/-- The pass has come to its end: it is repeated if it was raced, and followed by another if
one was asked for. -/
theorem Converging.listed (converging : Converging inventory)
    {observer : LeaseInventoryObserver Item} (done : inventory.unlisted = some [])
    (finished : inventory.observer.step .listed = some observer) :
    Alike inventory.observer observer ∧
      demand { inventory with observer, unlisted := none } < demand inventory := by
  simp only [LeaseInventoryObserver.step] at finished
  split at finished
  · next start view listing =>
      obtain rfl := Option.some.inj finished
      have last : inventory.remaining = 1 := by
        simp [remaining, listing, done]
      have dirty := LeaseInventoryObserver.raced_eq_dirty converging.ready listing
      rw [LeaseInventoryObserver.finishPass_eq]
      split
      · next raced =>
          refine ⟨⟨rfl, rfl, rfl⟩, ?_⟩
          rw [dirty] at raced
          have paid : demand inventory =
              worth inventory.observer.invalidate inventory.passWorth + inventory.passWorth +
                1 := by
            rw [demand, last, raced]
            rfl
          rw [paid]
          change worth inventory.observer.invalidate inventory.passWorth + 0 +
            ((Dictionary.items inventory.leases).length + 3) < _
          rw [passWorth]
          omega
      · next unraced =>
          rw [dirty] at unraced
          have clean : inventory.observer.dirty = false := by simpa using unraced
          unfold LeaseInventoryObserver.loopBootstrap
          split
          · next set =>
              obtain ⟨begins, unset⟩ := LeaseInventoryObserver.begins_invalidated
                (inventory.observer.installed start view) converging.ready converging.running
              refine ⟨⟨begins.subscription, begins.closed, begins.capacity⟩,
                demand_begins begins (fun isDirty => ?_) ?_⟩
              · simp only [LeaseInventoryObserver.dirty, LeaseInventoryObserver.installed, listing,
                  List.isEmpty_nil, Bool.not_true, Bool.false_or] at isDirty
                simp only [LeaseInventoryObserver.dirty, listing, isDirty, Bool.or_true]
              · rw [unset, last]
                have was : inventory.observer.invalidate = true := set
                simp [worth, was, passWorth]
          · next unset =>
              change ¬ inventory.observer.invalidate = true at unset
              have was : inventory.observer.invalidate = false := by simpa using unset
              refine ⟨⟨rfl, rfl, rfl⟩, ?_⟩
              have paid : demand inventory = 1 := by
                rw [demand, last, clean, was]
                rfl
              rw [paid]
              change worth inventory.observer.invalidate _ + 0 + 0 < 1
              rw [was]
              exact Nat.one_pos
  · cases finished

/-- A page has listed something. -/
theorem demand_page {observer : LeaseInventoryObserver Item} {items : List (String × Item)}
    {size : Nat}
    (unlisted : inventory.unlisted = some items) (positive : 0 < size) (some : items ≠ [])
    (extended : inventory.observer.step (.page (items.take size)) = .some observer) :
    Alike inventory.observer observer ∧
      demand { inventory with observer, unlisted := .some (items.drop size) } <
        demand inventory := by
  simp only [LeaseInventoryObserver.step] at extended
  split at extended
  · next start view listing =>
      obtain rfl := Option.some.inj extended
      refine ⟨⟨rfl, rfl, rfl⟩, ?_⟩
      have was : inventory.remaining = items.length + 1 := by
        simp [remaining, listing, unlisted]
      have dirty : inventory.observer.dirty = (!inventory.observer.buffer.isEmpty ||
          (inventory.observer.notificationGeneration != start.startGeneration ||
            inventory.observer.subscriptionGeneration != start.subscriptionGeneration)) := by
        simp only [LeaseInventoryObserver.dirty, listing]
      rw [demand, demand, was, dirty]
      change worth _ inventory.passWorth + worth _ inventory.passWorth +
        ((items.drop size).length + 1) < _
      have shorter : (items.drop size).length < items.length := by
        have nonempty := List.length_pos_of_ne_nil some
        rw [List.length_drop]
        omega
      exact Nat.add_lt_add_left (Nat.succ_lt_succ shorter) _
  · cases extended

/-- The bootstrap task has made a step. -/
theorem Converging.bootstrap (converging : Converging inventory) {action : ObserverAction Item}
    {observer : LeaseInventoryObserver Item} {unlisted : Option (List (String × Item))}
    (stepped : inventory.observer.step action = some observer)
    (alike : Alike inventory.observer observer)
    (current : Current ({ inventory with unlisted }.follow inventory.attached observer))
    (less : demand { inventory with observer, unlisted } < demand inventory) :
    Converging ({ inventory with unlisted }.follow inventory.attached observer) ∧
      settlingBound ({ inventory with unlisted }.follow inventory.attached observer) <
        inventory.settlingBound := by
  have followed := follow_eq { inventory with unlisted } (alike.subscription ▸ converging.isOpen)
    converging.attached
  rw [followed] at current ⊢
  have load : load { inventory with observer, unlisted } = inventory.load := by
    simp only [LeaseInventory.load, alike.subscription]
  refine ⟨⟨current, LeaseInventoryObserver.alert_step converging.alert
    converging.current.subscribed stepped, converging.attached,
    alike.closed.trans converging.running, ?_⟩, settlingBound_of_demand rfl load less⟩
  simpa only [alike.capacity, alike.subscription] using converging.room

/-- A notification arrives at a queue that has room for it. -/
theorem Converging.arrive (converging : Converging inventory) {index : Nat} {route : String}
    (present : inventory.inFlight[index]? = some route) :
    let observer := inventory.observer.push route
    let arrived := { inventory with inFlight := inventory.inFlight.eraseIdx index }.follow
      inventory.attached observer
    Converging arrived ∧ settlingBound arrived < inventory.settlingBound := by
  intro observer arrived
  have isOpen := converging.isOpen
  obtain ⟨bound, -⟩ := List.getElem?_eq_some_iff.mp present
  have shorter := List.length_eraseIdx_add_one bound
  have room : inventory.observer.subscription.full inventory.observer.capacity = false := by
    have room := converging.room
    simp only [AsyncSubscription.full, Bool.and_eq_false_iff, decide_eq_false_iff_not]
    omega
  obtain ⟨phase, closed, capacity, stillOpen, queued⟩ :=
    LeaseInventoryObserver.push_of_room isOpen room route
  have current : Current arrived := converging.current.follow (.notify route) rfl
    (beside_arrive converging.current _) rfl fun attached => (attached_follow attached).2
  have followed := follow_eq { inventory with inFlight := inventory.inFlight.eraseIdx index }
    stillOpen converging.attached
  simp only [arrived] at current ⊢
  rw [followed] at current ⊢
  refine ⟨⟨current, LeaseInventoryObserver.alert_push converging.alert route,
    converging.attached, closed.trans converging.running, ?_⟩, settlingBound_of_load ?_ ?_ ?_⟩
  · have room := converging.room
    simp only [capacity, queued]
    omega
  · rfl
  · simp only [load, queued]
    omega
  · simp only [remaining, phase]

/-- A route is read off the queue. -/
theorem Converging.consume (converging : Converging inventory)
    {observer : LeaseInventoryObserver Item}
    (consumed : inventory.observer.step .consume = some observer) :
    Converging (inventory.follow inventory.attached observer) ∧
      settlingBound (inventory.follow inventory.attached observer) < inventory.settlingBound := by
  have read := (Option.ite_none_right_eq_some.mp consumed).2
  obtain ⟨phase, closed, capacity, stillOpen, queued⟩ :=
    LeaseInventoryObserver.consume_of_open converging.current.subscribed.plain converging.isOpen
      read
  have current := converging.current.follow .consume consumed
    (beside_follow (LeaseInventoryObserver.beside_consume read)) rfl
    fun attached => (attached_follow attached).2
  have followed := follow_eq inventory stillOpen converging.attached
  rw [followed] at current ⊢
  refine ⟨⟨current, LeaseInventoryObserver.alert_consume converging.alert
    converging.current.subscribed read, converging.attached, closed.trans converging.running, ?_⟩,
    settlingBound_of_load ?_ ?_ ?_⟩
  · have room := converging.room
    simp only [capacity]
    omega
  · rfl
  · simp only [load]
    omega
  · simp only [remaining, phase]

variable [DecidableEq Item]

/-- The pass has been given a snapshot. -/
theorem Converging.snapshot (converging : Converging inventory) {items : List (String × Item)}
    (stepped : inventory.step (.snapshot items) = some next) :
    Converging next ∧ next.settlingBound < inventory.settlingBound := by
  have current := converging.current.snapshot stepped
  simp only [step] at stepped
  split at stepped
  · next start view listing unlisted =>
      obtain ⟨all, same⟩ := Option.ite_none_right_eq_some.mp stepped
      obtain rfl := Option.some.inj same
      refine ⟨⟨current, converging.alert, converging.attached, converging.running,
        converging.room⟩, settlingBound_of_demand ?_ ?_ (Nat.add_lt_add_left ?_ _)⟩
      · rfl
      · rfl
      · have length := all.length_eq
        simp only [remaining, listing, unlisted]
        omega
  · cases stepped

/-- Each settling action keeps an observer attached and lowers the bound. -/
theorem Converging.step (converging : Converging inventory) {action : InventoryAction Item}
    (settling : inventory.Settling action) (stepped : inventory.step action = some next) :
    Converging next ∧ next.settlingBound < inventory.settlingBound := by
  have current := current_step converging.current stepped
  cases action with
  | arrive index =>
      obtain ⟨route, present, rfl⟩ := Option.map_eq_some_iff.mp stepped
      exact converging.arrive present
  | resume =>
      obtain ⟨observer, resumed, rfl⟩ := Option.map_eq_some_iff.mp stepped
      obtain ⟨alike, less⟩ := converging.resume resumed
      exact converging.bootstrap resumed alike current less
  | snapshot items => exact converging.snapshot stepped
  | page size =>
      obtain ⟨items, unlisted, paged⟩ := Option.bind_eq_some_iff.mp stepped
      obtain ⟨observer, extended, rfl⟩ := Option.map_eq_some_iff.mp paged
      have some : items ≠ [] := fun empty => settling.2 (empty ▸ unlisted)
      obtain ⟨alike, less⟩ := demand_page unlisted settling.1 some extended
      exact converging.bootstrap extended alike current less
  | listed =>
      obtain ⟨done, listed⟩ := Option.ite_none_right_eq_some.mp stepped
      obtain ⟨observer, finished, rfl⟩ := Option.map_eq_some_iff.mp listed
      obtain ⟨alike, less⟩ := converging.listed done finished
      exact converging.bootstrap finished alike current less
  | own action =>
      cases action <;> try exact settling.elim
      obtain ⟨observer, consumed, rfl⟩ := Option.map_eq_some_iff.mp stepped
      exact converging.consume consumed
  | _ => exact settling.elim

theorem leases_of_settling {action : InventoryAction Item}
    (settling : inventory.Settling action) (stepped : inventory.step action = some next) :
    next.leases = inventory.leases := by
  cases action with
  | arrive index =>
      obtain ⟨route, -, rfl⟩ := Option.map_eq_some_iff.mp stepped
      rfl
  | resume =>
      obtain ⟨observer, -, rfl⟩ := Option.map_eq_some_iff.mp stepped
      rfl
  | snapshot items =>
      simp only [step] at stepped
      split at stepped
      · obtain ⟨-, same⟩ := Option.ite_none_right_eq_some.mp stepped
        obtain rfl := Option.some.inj same
        rfl
      · cases stepped
  | page size =>
      obtain ⟨items, -, paged⟩ := Option.bind_eq_some_iff.mp stepped
      obtain ⟨observer, -, rfl⟩ := Option.map_eq_some_iff.mp paged
      rfl
  | listed =>
      obtain ⟨-, listed⟩ := Option.ite_none_right_eq_some.mp stepped
      obtain ⟨observer, -, rfl⟩ := Option.map_eq_some_iff.mp listed
      rfl
  | own action =>
      obtain ⟨-, acted⟩ := Option.ite_none_right_eq_some.mp stepped
      obtain ⟨observer, -, rfl⟩ := Option.map_eq_some_iff.mp acted
      rfl
  | _ => exact settling.elim

theorem settles (leases : Dictionary String Item) :
    (system Item).Settles Settling
      (fun inventory => Converging inventory ∧ inventory.leases = leases) settlingBound where
  kept holds settling stepped :=
    ⟨(holds.1.step settling stepped).1, (leases_of_settling settling stepped).trans holds.2⟩
  lowered holds settling stepped := (holds.1.step settling stepped).2

/-- An attached observer rests where no settling action is enabled. -/
theorem Converging.atRest (converging : Converging inventory)
    (settled : (system Item).Settled Settling inventory) : inventory.AtRest := by
  have asleep : inventory.observer.resume = none :=
    Option.map_eq_none_iff.mp (settled .resume trivial)
  have parked : inventory.observer.bootstrap = .parked := by
    cases phase : inventory.observer.bootstrap with
    | parked => rfl
    | awaitingSubscription woken =>
        cases woken with
        | false => exact (converging.alert.subscription converging.ready phase).elim
        | true => simp [LeaseInventoryObserver.resume, phase] at asleep
    | awaitingPass woken =>
        cases woken with
        | false => exact (converging.alert.pass converging.ready phase).elim
        | true => simp [LeaseInventoryObserver.resume, phase] at asleep
    | listing start view =>
        cases unlisted : inventory.unlisted with
        | none =>
            have stuck := settled (.snapshot (Dictionary.items inventory.leases)) trivial
            simp [system, LeaseInventory.step, phase, unlisted] at stuck
        | some items =>
            cases items with
            | nil =>
                have stuck : inventory.step .listed = none := settled .listed trivial
                simp [LeaseInventory.step, unlisted, LeaseInventoryObserver.step, phase] at stuck
            | cons item items =>
                have stuck : inventory.step (.page 1) = none :=
                  settled (.page 1) ⟨Nat.one_pos, by simp [unlisted]⟩
                simp [LeaseInventory.step, unlisted, LeaseInventoryObserver.step, phase] at stuck
    | retrying => simp [LeaseInventoryObserver.resume, phase] at asleep
    | failing => simp [LeaseInventoryObserver.resume, phase] at asleep
    | ended => exact (converging.alert.running converging.running phase).elim
  refine ⟨converging.attached, ?_, parked, ?_⟩
  · cases inFlight : inventory.inFlight with
    | nil => rfl
    | cons route others =>
        have stuck : inventory.step (.arrive 0) = none := settled (.arrive 0) trivial
        simp [LeaseInventory.step, inFlight] at stuck
  · cases set : inventory.observer.invalidate with
    | false => rfl
    | true => simp [LeaseInventoryObserver.resume, parked, set] at asleep

variable (Item) in
theorem invariant_alert : (system Item).Invariant (fun _ _ => True)
    fun inventory => Current inventory ∧ Alert inventory.observer :=
  (invariant_current Item).strengthen
    (fun first starts => by
      obtain ⟨pattern, capacity, buffered, leases, rfl⟩ := starts
      have fresh : Alert ({ pattern, capacity, subscription := { registration := pattern } } :
          LeaseInventoryObserver Item) := ⟨nofun, nofun, nofun, nofun⟩
      exact LeaseInventoryObserver.alert_subscribed fresh nofun buffered)
    fun current action next known _ alert _ stepped => by
      have follows {observer : LeaseInventoryObserver Item} {action : ObserverAction Item}
          (did : current.observer.step action = some observer) : Alert observer :=
        LeaseInventoryObserver.alert_step alert known.subscribed did
      cases action with
      | change route item =>
          obtain rfl := Option.some.inj stepped
          exact alert
      | arrive index =>
          obtain ⟨route, -, rfl⟩ := Option.map_eq_some_iff.mp stepped
          exact LeaseInventoryObserver.alert_push alert route
      | stray route =>
          obtain rfl := Option.some.inj stepped
          exact LeaseInventoryObserver.alert_push alert route
      | detach =>
          obtain rfl := Option.some.inj stepped
          exact alert
      | snapshot items =>
          simp only [system, step] at stepped
          split at stepped
          · obtain ⟨-, same⟩ := Option.ite_none_right_eq_some.mp stepped
            obtain rfl := Option.some.inj same
            exact alert
          · cases stepped
      | page size =>
          obtain ⟨items, -, paged⟩ := Option.bind_eq_some_iff.mp stepped
          obtain ⟨observer, did, rfl⟩ := Option.map_eq_some_iff.mp paged
          exact follows did
      | listed | own action =>
          obtain ⟨-, acted⟩ := Option.ite_none_right_eq_some.mp stepped
          obtain ⟨observer, did, rfl⟩ := Option.map_eq_some_iff.mp acted
          exact follows did
      | resume | listFailed | subscribed buffered live | reconnect live =>
          obtain ⟨observer, did, rfl⟩ := Option.map_eq_some_iff.mp stepped
          exact follows did

/-- Once the leases stay as they are, an attached observer with room for what is in flight
comes to rest after finitely many steps, in whatever order they are made, and then shows the
leases. -/
theorem comes_to_rest (reachable : (system Item).Reachable inventory)
    (attached : inventory.attached = true) (running : inventory.observer.closed = false)
    (room : inventory.observer.capacity = 0 ∨
      inventory.inFlight.length + inventory.observer.subscription.queue.length ≤
        inventory.observer.capacity) :
    (∃ actions last, (system Item).run inventory actions = some last ∧
      (system Item).StepsMeet Settling inventory actions ∧
        (system Item).Settled Settling last) ∧
    ∀ actions last, (system Item).run inventory actions = some last →
      (system Item).StepsMeet Settling inventory actions →
        actions.length ≤ inventory.settlingBound ∧
          ((system Item).Settled Settling last → last.AtRest ∧
            Shows last.observer.view inventory.leases) := by
  obtain ⟨current, alert⟩ := (invariant_alert Item).of_reachable reachable
  have converging : Converging inventory := ⟨current, alert, attached, running, room⟩
  refine ⟨(settles inventory.leases).exists_settled ⟨converging, rfl⟩,
    fun actions last ran meets => ?_⟩
  obtain ⟨⟨rested, same⟩, bound⟩ := (settles inventory.leases).run ⟨converging, rfl⟩ ran meets
  refine ⟨by omega, fun settled => ?_⟩
  have atRest := rested.atRest settled
  exact ⟨atRest, same ▸ rested.current.rest atRest⟩

/-- Two changes are in flight to an observer that has just been started. -/
theorem comes_to_rest_changes : ∃ inventory : LeaseInventory Nat,
    inventory.inFlight = ["lease://r/a/1", "lease://r/a/2"] ∧
      (∃ actions last, (system Nat).run inventory actions = some last ∧
        (system Nat).StepsMeet Settling inventory actions ∧
          (system Nat).Settled Settling last) ∧
      ∀ actions last, (system Nat).run inventory actions = some last →
        (system Nat).StepsMeet Settling inventory actions →
          actions.length ≤ inventory.settlingBound ∧
            ((system Nat).Settled Settling last → last.AtRest ∧
              Shows last.observer.view inventory.leases) :=
  ⟨_, rfl, comes_to_rest
    ((system Nat).reachable_of_run ⟨"lease://r/a/*", 2, [], ∅, rfl⟩
      [.change "lease://r/a/1" (some 1), .change "lease://r/a/2" (some 2)] rfl)
    rfl rfl (Or.inr (by decide))⟩

end LeaseInventory

end FitzClient
