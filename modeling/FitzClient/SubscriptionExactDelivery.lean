import FitzClient.SubscriptionSession

/-!
# Exact delivery within one session

An item is pushed as it arrives, or waits in the buffer until the SUBSCRIBE
that got its id returns.  Two invariants carry the proof.  What has been
published for an awaited id since the broker gave it is what the buffer has
dropped and what it holds.  And the consumers with an open window that have not
failed are those of the wire that the id of the window is mapped to.
-/

namespace FitzClient

namespace SessionRegistry

open SubscriptionRegistry

variable {Item : Type} {before after : SessionRegistry Item}

theorem withId_append (subId : Nat) (first second : List (Notification Item)) :
    withId subId (first ++ second) = withId subId first ++ withId subId second :=
  List.filter_append ..

theorem exists_of_advance {action : RegistryAction Item}
    (advanced : before.advance action = some after) :
    ∃ registry, before.registry.step action = some registry ∧
      { before with registry } = after :=
  Option.map_eq_some_iff.mp advanced

/-- The id of the SUBSCRIBE in flight is mapped to nothing yet.  What the buffer
held for it and what was published for it since is what the buffer has dropped
and what it holds. -/
structure Awaits (session : SessionRegistry Item) (awaited : AwaitedId Item) : Prop where
  holder : ∃ registration since,
    session.registry.holder = some (.subscribing registration since false)
  unmapped : session.registry.byId.lookup awaited.subId = none
  bounded : awaited.start ≤ session.published.length
  partition : awaited.waiting ++ withId awaited.subId (session.published.drop awaited.start) =
    withId awaited.subId session.dropped ++
      withId awaited.subId session.registry.pendingNotifications

/-- The buffer holds notifications for ids that are mapped to nothing. -/
structure Buffered (session : SessionRegistry Item) : Prop where
  awaits : ∀ awaited, session.awaited = some awaited → Awaits session awaited
  unmapped : ∀ notification ∈ session.registry.pendingNotifications,
    session.registry.byId.lookup notification.subId = none
  mapped : ∀ subId registration, session.registry.byId.lookup subId = some registration →
    { session := session.registry.session, subId, registration } ∈ session.registry.assigned
  fits : session.registry.pendingNotifications.length ≤ session.registry.capacity

/-- The buffer and its history are left alone, and no id is mapped. -/
structure KeepsBuffer (before after : SessionRegistry Item) : Prop where
  capacity : after.registry.capacity = before.registry.capacity
  pending : after.registry.pendingNotifications = before.registry.pendingNotifications
  published : after.published = before.published
  dropped : after.dropped = before.dropped
  session : after.registry.session = before.registry.session
  assigned : after.registry.assigned = before.registry.assigned
  byId : ∀ subId registration, after.registry.byId.lookup subId = some registration →
    before.registry.byId.lookup subId = some registration
  awaited : after.awaited = none ∨
    after.awaited = before.awaited ∧ after.registry.holder = before.registry.holder

theorem KeepsBuffer.unmapped (keeps : KeepsBuffer before after) {subId : Nat}
    (unmapped : before.registry.byId.lookup subId = none) :
    after.registry.byId.lookup subId = none := by
  cases found : after.registry.byId.lookup subId with
  | none => rfl
  | some registration =>
      have wasFound := keeps.byId subId registration found
      rw [unmapped] at wasFound
      cases wasFound

theorem Buffered.of_keeps (buffered : Buffered before) (keeps : KeepsBuffer before after) :
    Buffered after where
  awaits awaited waits := by
    rcases keeps.awaited with settled | ⟨same, sameHolder⟩
    · rw [settled] at waits
      cases waits
    · rw [same] at waits
      obtain ⟨holds, unmapped, bounded, partition⟩ := buffered.awaits awaited waits
      refine ⟨by rwa [sameHolder], keeps.unmapped unmapped, by rwa [keeps.published], ?_⟩
      rw [keeps.published, keeps.dropped, keeps.pending]
      exact partition
  unmapped notification member := by
    rw [keeps.pending] at member
    exact keeps.unmapped (buffered.unmapped notification member)
  mapped subId registration found := by
    rw [keeps.assigned, keeps.session]
    exact buffered.mapped subId registration (keeps.byId subId registration found)
  fits := by
    rw [keeps.pending, keeps.capacity]
    exact buffered.fits

/-- The last consumer has left the wire, and its window is closed. -/
def Left (session : SessionRegistry Item) (wire consumer : Nat) : Prop :=
  (∀ state, session.registry.wires[wire]? = some state → state.consumers = []) ∧
    ∀ window, session.windows[consumer]? = some window → window.stop ≠ none

/-- A consumer with an open window accepts items unless it has failed. -/
structure Seated (session : SessionRegistry Item) : Prop where
  sizes : session.windows.length = session.registry.consumers.length
  nodup : ∀ (wire : Nat) (state : WireSubscription),
    session.registry.wires[wire]? = some state → state.consumers.Nodup
  joined : ∀ (wire : Nat) (state : WireSubscription),
    session.registry.wires[wire]? = some state → ∀ consumer ∈ state.consumers,
      ∃ start, session.windows[consumer]? = some { subId := state.subId, start }
  home : ∀ (wire : Nat) (state : WireSubscription),
    session.registry.wires[wire]? = some state → ∀ consumer ∈ state.consumers,
      ∃ subscription, session.registry.consumers[consumer]? = some subscription ∧
        session.registry.byRegistration.lookup subscription.registration = some wire
  closing : ∀ registration wire consumer cancelled,
    session.registry.holder = some (.closing registration wire consumer cancelled) →
    Left session wire consumer
  reached : ∀ (consumer : Nat) (window : Window) (subscription : AsyncSubscription Item),
    session.windows[consumer]? = some window → window.stop = none →
    session.registry.consumers[consumer]? = some subscription → subscription.failure = none →
    ∃ registration state, session.registry.wireOf registration = some state ∧
      state.subId = window.subId ∧ consumer ∈ state.consumers
  receiving : ∀ (consumer : Nat) (window : Window) (subscription : AsyncSubscription Item),
    session.windows[consumer]? = some window → window.stop = none →
    session.registry.consumers[consumer]? = some subscription → subscription.Receiving
  sound : ∀ (consumer : Nat) (subscription : AsyncSubscription Item),
    session.registry.consumers[consumer]? = some subscription → subscription.Sound
  bounds : ∀ (consumer : Nat) (window : Window), session.windows[consumer]? = some window →
    window.start ≤ session.published.length ∧
      ∀ stop, window.stop = some stop → stop ≤ session.published.length

/-- What the lock is held for when no task is cancelled and no session is
restored. -/
def Uninterrupted : RegistryOperation → Prop
  | .subscribing _ _ cancelled => cancelled = false
  | .closing _ _ _ _ => True
  | _ => False

/-- The whole invariant. -/
structure Tracks (session : SessionRegistry Item) : Prop where
  holder : ∀ operation, session.registry.holder = some operation → Uninterrupted operation
  wellFormed : session.registry.WellFormed
  inverse : session.registry.InverseHeld
  buffered : Buffered session
  seated : Seated session
  logged : ∀ delivery ∈ session.registry.deliveries,
    delivery.consumer < session.registry.consumers.length
  exact : DeliversAll session

/-- One consumer after another: it fails only now if at all and, if `isOpen`,
goes on accepting items. -/
structure Ages (isOpen : Prop) (earlier later : AsyncSubscription Item) : Prop where
  registration : later.registration = earlier.registration
  failure : later.failure = none → earlier.failure = none
  receiving : isOpen → earlier.Sound → earlier.Receiving → later.Receiving
  sound : earlier.Sound → later.Sound

section Ages

variable {isOpen : Prop}

theorem Ages.refl (subscription : AsyncSubscription Item) :
    Ages isOpen subscription subscription :=
  ⟨rfl, id, fun _ _ => id, id⟩

theorem Ages.trans {earlier middle later : AsyncSubscription Item}
    (first : Ages isOpen earlier middle) (second : Ages isOpen middle later) :
    Ages isOpen earlier later where
  registration := second.registration.trans first.registration
  failure unfailed := first.failure (second.failure unfailed)
  receiving opened sound receiving :=
    second.receiving opened (first.sound sound) (first.receiving opened sound receiving)
  sound sound := second.sound (first.sound sound)

theorem ages_push (subscription : AsyncSubscription Item) (capacity : Nat) (item : Item) :
    Ages isOpen subscription (subscription.push capacity item).1 where
  registration := subscription.registration_push capacity item
  failure unfailed := by
    rw [AsyncSubscription.failure_push] at unfailed
    split at unfailed
    · cases unfailed
    · exact unfailed
  receiving _ _ receiving := receiving.push capacity item
  sound sound := sound.push capacity item

theorem ages_read (subscription : AsyncSubscription Item) :
    Ages isOpen subscription subscription.read where
  registration := subscription.registration_read
  failure unfailed := by rwa [AsyncSubscription.failure_read] at unfailed
  receiving _ sound receiving := receiving.read sound
  sound sound := sound.read

theorem ages_aclose (subscription : AsyncSubscription Item) :
    Ages isOpen subscription subscription.aclose := by
  unfold AsyncSubscription.aclose
  split
  · exact ⟨rfl, id, fun _ _ => id, id⟩
  · exact Ages.refl subscription

/-- The end of a consumer is for those whose window is closed. -/
theorem ages_endClose (closed : ¬ isOpen) (subscription : AsyncSubscription Item) :
    Ages isOpen subscription subscription.endClose where
  registration := subscription.registration_endClose
  failure unfailed := by rwa [AsyncSubscription.failure_endClose] at unfailed
  receiving opened := (closed opened).elim
  sound sound := sound.endClose

end Ages

/-- The window of a consumer is open. -/
def Attends (session : SessionRegistry Item) (consumer : Nat) : Prop :=
  ∃ window, session.windows[consumer]? = some window ∧ window.stop = none

/-- Only consumers change, and no wire. -/
structure KeepsSeats (before after : SessionRegistry Item) : Prop where
  wires : after.registry.wires = before.registry.wires
  byRegistration : after.registry.byRegistration = before.registry.byRegistration
  windows : after.windows = before.windows
  published : after.published = before.published
  sizes : after.registry.consumers.length = before.registry.consumers.length
  closing : ∀ registration wire consumer cancelled,
    after.registry.holder = some (.closing registration wire consumer cancelled) →
    before.registry.holder = some (.closing registration wire consumer cancelled)
  ages : ∀ (consumer : Nat) (later : AsyncSubscription Item),
    after.registry.consumers[consumer]? = some later →
    ∃ earlier, before.registry.consumers[consumer]? = some earlier ∧
      Ages (Attends before consumer) earlier later

theorem Seated.of_keeps (seated : Seated before) (keeps : KeepsSeats before after) :
    Seated after where
  sizes := by rw [keeps.windows, keeps.sizes, seated.sizes]
  nodup := by
    rw [keeps.wires]
    exact seated.nodup
  joined := by
    rw [keeps.wires, keeps.windows]
    exact seated.joined
  home wire state found consumer member := by
    rw [keeps.wires] at found
    obtain ⟨earlier, wasInStore, registered⟩ := seated.home wire state found consumer member
    have inside := (List.getElem?_eq_some_iff.mp wasInStore).1
    rw [← keeps.sizes] at inside
    obtain ⟨again, atIndex, ages⟩ := keeps.ages consumer _ (List.getElem?_eq_getElem inside)
    rw [wasInStore] at atIndex
    obtain rfl := Option.some.inj atIndex
    refine ⟨_, List.getElem?_eq_getElem inside, ?_⟩
    rw [ages.registration, keeps.byRegistration]
    exact registered
  closing registration wire consumer cancelled holds := by
    rw [Left, keeps.wires, keeps.windows]
    exact seated.closing registration wire consumer cancelled (keeps.closing _ _ _ _ holds)
  reached consumer window later found isOpen inStore unfailed := by
    rw [keeps.windows] at found
    obtain ⟨earlier, wasInStore, ages⟩ := keeps.ages consumer later inStore
    obtain ⟨registration, state, registered, sameId, member⟩ :=
      seated.reached consumer window earlier found isOpen wasInStore (ages.failure unfailed)
    refine ⟨registration, state, ?_, sameId, member⟩
    rw [wireOf, keeps.byRegistration, keeps.wires]
    exact registered
  receiving consumer window later found isOpen inStore := by
    rw [keeps.windows] at found
    obtain ⟨earlier, wasInStore, ages⟩ := keeps.ages consumer later inStore
    exact ages.receiving ⟨window, found, isOpen⟩ (seated.sound consumer earlier wasInStore)
      (seated.receiving consumer window earlier found isOpen wasInStore)
  sound consumer later inStore := by
    obtain ⟨earlier, wasInStore, ages⟩ := keeps.ages consumer later inStore
    exact ages.sound (seated.sound consumer earlier wasInStore)
  bounds := by
    rw [keeps.windows, keeps.published]
    exact seated.bounds

theorem DeliversAll.of_keeps (delivers : DeliversAll before) (keeps : KeepsSeats before after)
    (silent : after.registry.deliveries = before.registry.deliveries) : DeliversAll after := by
  intro consumer later window inStore found unfailed
  obtain ⟨earlier, wasInStore, ages⟩ := keeps.ages consumer later inStore
  rw [keeps.windows] at found
  rw [pushedTo, silent, keeps.published]
  exact delivers consumer earlier window wasInStore found (ages.failure unfailed)

theorem keepsSeats_updateConsumer (session : SessionRegistry Item) (consumer : Nat)
    {update : AsyncSubscription Item → AsyncSubscription Item}
    (ages : ∀ subscription, Ages (Attends session consumer) subscription (update subscription)) :
    KeepsSeats session
      { session with registry := session.registry.updateConsumer consumer update } where
  wires := rfl
  byRegistration := rfl
  windows := rfl
  published := rfl
  sizes := List.length_modify ..
  closing _ _ _ _ := id
  ages index later found := by
    obtain ⟨earlier, inStore, rfl⟩ := getElem?_modify_eq_some.mp found
    refine ⟨earlier, inStore, ?_⟩
    split
    · next same =>
        subst same
        exact ages earlier
    · exact Ages.refl earlier

/-- What arrives after a window was closed does not count. -/
theorem items_append_of_stopped {window : Window} {published : List (Notification Item)}
    {stop : Nat} (stopped : window.stop = some stop) (bounded : stop ≤ published.length)
    (notification : Notification Item) :
    window.items (published ++ [notification]) = window.items published := by
  simp only [Window.items, stopped, Option.getD_some]
  rw [List.take_append_of_le_length bounded]

theorem items_of_open {window : Window} (isOpen : window.stop = none)
    (published : List (Notification Item)) :
    window.items published = withId window.subId (published.drop window.start) := by
  simp only [Window.items, isOpen, Option.getD_none, List.take_length, withId]

theorem items_append_of_open {window : Window} {published : List (Notification Item)}
    (isOpen : window.stop = none) (bounded : window.start ≤ published.length)
    (notification : Notification Item) :
    window.items (published ++ [notification]) =
      window.items published ++ withId window.subId [notification] := by
  rw [items_of_open isOpen, items_of_open isOpen, List.drop_append_of_le_length bounded,
    withId_append]

/-- Closing a window now leaves the items of an open one. -/
theorem items_close (window : Window) (published : List (Notification Item)) :
    (window.close published.length).items published = window.items published := by
  cases stopped : window.stop with
  | none => simp [Window.items, Window.close, stopped]
  | some stop => simp [Window.items, Window.close, stopped]

theorem pushedTo_pushTo (registry : SubscriptionRegistry Item) {targets : List Nat}
    (nodup : targets.Nodup) (notification : Notification Item) (consumer : Nat) :
    (registry.pushTo targets notification).pushedTo consumer =
      registry.pushedTo consumer ++ if consumer ∈ targets then [notification] else [] := by
  simp only [pushedTo, pushTo, List.filter_append, List.map_append]
  congr 1
  induction targets with
  | nil => rfl
  | cons target targets ih =>
      obtain ⟨apart, nodupTail⟩ := List.nodup_cons.mp nodup
      rw [List.map_cons, List.filter_cons]
      by_cases same : target = consumer
      · subst same
        simp [ih nodupTail, apart]
      · simp [same, ih nodupTail, Ne.symm same]

theorem pushedTo_foldl_pushTo (registry : SubscriptionRegistry Item) {targets : List Nat}
    (nodup : targets.Nodup) (notifications : List (Notification Item)) (consumer : Nat) :
    (notifications.foldl (pushTo · targets ·) registry).pushedTo consumer =
      registry.pushedTo consumer ++ if consumer ∈ targets then notifications else [] := by
  induction notifications generalizing registry with
  | nil => simp
  | cons notification notifications ih =>
      rw [List.foldl_cons, ih, pushedTo_pushTo registry nodup]
      split
      · rw [List.append_assoc, List.singleton_append]
      · rw [List.append_nil]

/-- What a push does to a consumer. -/
theorem ages_pushTo {registry : SubscriptionRegistry Item} {targets : List Nat}
    {notification : Notification Item} {consumer : Nat} {later : AsyncSubscription Item}
    (found : (registry.pushTo targets notification).consumers[consumer]? = some later)
    (isOpen : Prop) :
    ∃ earlier, registry.consumers[consumer]? = some earlier ∧ Ages isOpen earlier later ∧
      (consumer ∈ targets →
        later = (earlier.push registry.capacity notification.item).1) := by
  simp only [pushTo, List.getElem?_mapIdx] at found
  obtain ⟨earlier, inStore, rfl⟩ := Option.map_eq_some_iff.mp found
  refine ⟨earlier, inStore, ?_, fun target => if_pos target⟩
  split
  · exact ages_push earlier registry.capacity notification.item
  · exact Ages.refl earlier

theorem registered_pushTo {registry : SubscriptionRegistry Item} {consumer : Nat}
    {subscription : AsyncSubscription Item}
    (inStore : registry.consumers[consumer]? = some subscription) (targets : List Nat)
    (notification : Notification Item) :
    ∃ later, (registry.pushTo targets notification).consumers[consumer]? = some later ∧
      later.registration = subscription.registration := by
  simp only [pushTo, List.getElem?_mapIdx, inStore, Option.map_some]
  refine ⟨_, rfl, ?_⟩
  split
  · exact subscription.registration_push registry.capacity notification.item
  · rfl

theorem ages_foldl_pushTo {registry : SubscriptionRegistry Item} {targets : List Nat}
    {notifications : List (Notification Item)} {consumer : Nat}
    {later : AsyncSubscription Item}
    (found : (notifications.foldl (pushTo · targets ·) registry).consumers[consumer]? =
      some later) (isOpen : Prop) :
    ∃ earlier, registry.consumers[consumer]? = some earlier ∧ Ages isOpen earlier later := by
  induction notifications generalizing registry with
  | nil => exact ⟨later, found, Ages.refl later⟩
  | cons notification notifications ih =>
      obtain ⟨middle, inMiddle, later⟩ := ih found
      obtain ⟨earlier, inStore, first, -⟩ := ages_pushTo inMiddle isOpen
      exact ⟨earlier, inStore, first.trans later⟩

theorem logged_pushTo {registry : SubscriptionRegistry Item} {targets : List Nat}
    (notification : Notification Item)
    (logged : ∀ delivery ∈ registry.deliveries, delivery.consumer < registry.consumers.length)
    (seated : ∀ target ∈ targets, target < registry.consumers.length) :
    ∀ delivery ∈ (registry.pushTo targets notification).deliveries,
      delivery.consumer < (registry.pushTo targets notification).consumers.length := by
  intro delivery member
  simp only [pushTo, List.length_mapIdx]
  rcases List.mem_append.mp member with old | new
  · exact logged delivery old
  · obtain ⟨target, isTarget, rfl⟩ := List.mem_map.mp new
    exact seated target isTarget

theorem Seated.lt_length (seated : Seated before) {wire : Nat} {state : WireSubscription}
    (inStore : before.registry.wires[wire]? = some state) :
    ∀ consumer ∈ state.consumers, consumer < before.registry.consumers.length := by
  intro consumer member
  obtain ⟨start, found⟩ := seated.joined wire state inStore consumer member
  rw [← seated.sizes]
  exact (List.getElem?_eq_some_iff.mp found).1

/-- The wire that an id is mapped to. -/
theorem wireOf_of_mapped {registry : SubscriptionRegistry Item} (inverse : registry.Inverse)
    {subId : Nat} {registration : String}
    (mapped : registry.byId.lookup subId = some registration) :
    ∃ state, registry.wireOf registration = some state ∧ state.subId = subId :=
  (inverse subId registration).mp mapped

theorem seated_deliver (seated : Seated before) {wire : Nat} {state : WireSubscription}
    (inStore : before.registry.wires[wire]? = some state) (notification : Notification Item) :
    Seated { before with
      registry := before.registry.deliver wire notification
      published := before.published ++ [notification] } := by
  have pushed : before.registry.deliver wire notification =
      { before.registry.pushTo state.consumers notification with
        wires := before.registry.wires.modify wire fun state => { state with
          consumers := state.consumers.filter
            (!before.registry.refuses notification.item ·) }
        cleanupTasks := before.registry.cleanupTasks ++
          state.consumers.filter (before.registry.refuses notification.item ·) } := by
    simp only [deliver, inStore]
  rw [pushed]
  have older : ∀ (index : Nat) (current : WireSubscription),
      (before.registry.wires.modify wire fun state => { state with
        consumers := state.consumers.filter
          (!before.registry.refuses notification.item ·) })[index]? = some current →
      ∃ earlier, before.registry.wires[index]? = some earlier ∧
        current.subId = earlier.subId ∧ List.Sublist current.consumers earlier.consumers := by
    intro index current found
    obtain ⟨earlier, wasInStore, rfl⟩ := getElem?_modify_eq_some.mp found
    refine ⟨earlier, wasInStore, ?_⟩
    split
    · exact ⟨rfl, List.filter_sublist⟩
    · exact ⟨rfl, List.Sublist.refl _⟩
  constructor
  · simpa [pushTo] using seated.sizes
  · intro index current found
    obtain ⟨earlier, wasInStore, -, fewer⟩ := older index current found
    exact (seated.nodup index earlier wasInStore).sublist fewer
  · intro index current found consumer member
    obtain ⟨earlier, wasInStore, sameId, fewer⟩ := older index current found
    rw [sameId]
    exact seated.joined index earlier wasInStore consumer (fewer.subset member)
  · intro index current found consumer member
    obtain ⟨earlier, wasInStore, -, fewer⟩ := older index current found
    obtain ⟨subscription, isConsumer, home⟩ :=
      seated.home index earlier wasInStore consumer (fewer.subset member)
    obtain ⟨later, isLater, same⟩ := registered_pushTo isConsumer state.consumers notification
    exact ⟨later, isLater, by rw [same]; exact home⟩
  · intro registration index consumer cancelled holds
    obtain ⟨empty, stopped⟩ := seated.closing registration index consumer cancelled holds
    refine ⟨fun current found => ?_, stopped⟩
    obtain ⟨earlier, wasInStore, -, fewer⟩ := older index current found
    rw [empty earlier wasInStore] at fewer
    exact List.sublist_nil.mp fewer
  · intro consumer window later found isOpen laterInStore unfailed
    obtain ⟨earlier, wasInStore, ages, pushes⟩ := ages_pushTo laterInStore True
    obtain ⟨registration, current, registered, sameId, member⟩ := seated.reached consumer window
      earlier found isOpen wasInStore (ages.failure unfailed)
    obtain ⟨index, leads, atIndex⟩ := Option.bind_eq_some_iff.mp registered
    by_cases same : wire = index
    · subst same
      rw [inStore] at atIndex
      obtain rfl := Option.some.inj atIndex
      refine ⟨registration, _, Option.bind_eq_some_iff.mpr ⟨wire, leads,
        getElem?_modify_eq_some.mpr ⟨state, inStore, rfl⟩⟩, ?_, ?_⟩
      · rw [if_pos rfl]
        exact sameId
      · -- a consumer that has not failed has accepted the item and stays
        rw [if_pos rfl]
        refine List.mem_filter.mpr ⟨member, ?_⟩
        have receives := seated.receiving consumer window earlier found isOpen wasInStore
        rw [pushes member] at unfailed
        have accepted := (AsyncSubscription.push_accepted receives unfailed).2
        simp [refuses, wasInStore, accepted]
    · refine ⟨registration, current, Option.bind_eq_some_iff.mpr ⟨index, leads,
        getElem?_modify_eq_some.mpr ⟨current, atIndex, ?_⟩⟩, sameId, member⟩
      rw [if_neg same]
  · intro consumer window later found isOpen laterInStore
    obtain ⟨earlier, wasInStore, ages, -⟩ := ages_pushTo laterInStore True
    exact ages.receiving trivial (seated.sound consumer earlier wasInStore)
      (seated.receiving consumer window earlier found isOpen wasInStore)
  · intro consumer later laterInStore
    obtain ⟨earlier, wasInStore, ages, -⟩ := ages_pushTo laterInStore True
    exact ages.sound (seated.sound consumer earlier wasInStore)
  · intro consumer window found
    obtain ⟨started, stopped⟩ := seated.bounds consumer window found
    rw [List.length_append]
    exact ⟨by omega, fun stop isStop => by have := stopped stop isStop; omega⟩

/-- Whoever has an open window for the id of the item, and nobody else, is
pushed the item. -/
theorem delivers_deliver (tracks : Tracks before) {wire : Nat} {state : WireSubscription}
    {registration : String} {notification : Notification Item}
    (mapped : before.registry.byId.lookup notification.subId = some registration)
    (registered : before.registry.wireOf registration = some state)
    (inStore : before.registry.wires[wire]? = some state) :
    DeliversAll { before with
      registry := before.registry.deliver wire notification
      published := before.published ++ [notification] } := by
  have inverse := tracks.inverse.inverse
  obtain ⟨other, registeredAgain, atId⟩ := wireOf_of_mapped inverse mapped
  rw [registered] at registeredAgain
  obtain rfl := Option.some.inj registeredAgain
  intro consumer later window laterInStore found unfailed
  have pushed := pushedTo_pushTo before.registry (tracks.seated.nodup wire state inStore)
    notification consumer
  have log : (before.registry.deliver wire notification).pushedTo consumer =
      (before.registry.pushTo state.consumers notification).pushedTo consumer := by
    simp only [pushedTo, deliver, inStore]
  have laterPushed : (before.registry.pushTo state.consumers notification).consumers[consumer]? =
      some later := by
    simpa only [deliver, inStore] using laterInStore
  obtain ⟨earlier, wasInStore, ages, -⟩ := ages_pushTo laterPushed True
  have wasExact := tracks.exact consumer earlier window wasInStore found (ages.failure unfailed)
  obtain ⟨started, stopped⟩ := tracks.seated.bounds consumer window found
  rw [log, pushed, wasExact]
  cases isOpen : window.stop with
  | some stop =>
      have absent : consumer ∉ state.consumers := by
        intro member
        obtain ⟨start, again⟩ := tracks.seated.joined wire state inStore consumer member
        rw [found] at again
        rw [Option.some.inj again] at isOpen
        cases isOpen
      rw [if_neg absent, List.append_nil,
        items_append_of_stopped isOpen (stopped stop isOpen)]
  | none =>
      rw [items_append_of_open isOpen started]
      congr 1
      by_cases member : consumer ∈ state.consumers
      · obtain ⟨start, again⟩ := tracks.seated.joined wire state inStore consumer member
        rw [found] at again
        rw [if_pos member, Option.some.inj again]
        simp [withId, atId]
      · rw [if_neg member]
        have apart : notification.subId ≠ window.subId := by
          intro same
          obtain ⟨name, seat, seated, sameId, isMember⟩ := tracks.seated.reached consumer window
            earlier found isOpen wasInStore (ages.failure unfailed)
          have mappedTo := (inverse notification.subId name).mpr ⟨seat, seated, by
            rw [sameId, same]⟩
          rw [mapped] at mappedTo
          obtain rfl := Option.some.inj mappedTo
          rw [registered] at seated
          obtain rfl := Option.some.inj seated
          exact member isMember
        simp [withId, apart]

theorem overflow_append_pending (registry : SubscriptionRegistry Item)
    (notification : Notification Item)
    (unmapped : registry.byId.lookup notification.subId = none) :
    registry.overflow notification ++ (registry.buffer notification).pendingNotifications =
      registry.pendingNotifications ++ [notification] := by
  simp only [overflow, unmapped, buffer]
  exact List.take_append_drop ..

/-- A notification for an unknown id is buffered, and the oldest may be
dropped. -/
theorem buffered_buffer (buffered : Buffered before) {notification : Notification Item}
    (unmapped : before.registry.byId.lookup notification.subId = none) :
    Buffered { before with
      registry := before.registry.buffer notification
      published := before.published ++ [notification]
      dropped := before.dropped ++ before.registry.overflow notification } := by
  have moved := overflow_append_pending before.registry notification unmapped
  refine ⟨fun awaited waits => ?_, fun other member => ?_, buffered.mapped, ?_⟩
  · obtain ⟨holds, unknown, bounded, partition⟩ := buffered.awaits awaited waits
    refine ⟨holds, unknown, ?_, ?_⟩
    · rw [List.length_append]
      omega
    · change awaited.waiting ++
          withId awaited.subId ((before.published ++ [notification]).drop awaited.start) =
        withId awaited.subId (before.dropped ++ before.registry.overflow notification) ++
          withId awaited.subId (before.registry.buffer notification).pendingNotifications
      rw [withId_append, List.append_assoc, ← withId_append, moved,
        List.drop_append_of_le_length bounded, withId_append, ← List.append_assoc, partition,
        withId_append, List.append_assoc]
  · have appended : other ∈ before.registry.pendingNotifications ++ [notification] := by
      rw [← moved]
      exact List.mem_append_right _ member
    rcases List.mem_append.mp appended with old | new
    · exact buffered.unmapped other old
    · rw [List.mem_singleton.mp new]
      exact unmapped
  · simp only [buffer, List.length_drop, List.length_append, List.length_singleton]
    omega

/-- A notification that is delivered directly leaves the buffer alone. -/
theorem buffered_deliver (buffered : Buffered before) {wire : Nat}
    {state : WireSubscription} (inStore : before.registry.wires[wire]? = some state)
    {notification : Notification Item} {registration : String}
    (mapped : before.registry.byId.lookup notification.subId = some registration) :
    Buffered { before with
      registry := before.registry.deliver wire notification
      published := before.published ++ [notification] } := by
  have delivered : before.registry.deliver wire notification =
      { before.registry.pushTo state.consumers notification with
        wires := before.registry.wires.modify wire fun state => { state with
          consumers := state.consumers.filter
            (!before.registry.refuses notification.item ·) }
        cleanupTasks := before.registry.cleanupTasks ++
          state.consumers.filter (before.registry.refuses notification.item ·) } := by
    simp only [deliver, inStore]
  rw [delivered]
  refine ⟨fun awaited waits => ?_, buffered.unmapped, buffered.mapped, buffered.fits⟩
  obtain ⟨holds, unknown, bounded, partition⟩ := buffered.awaits awaited waits
  have apart : notification.subId ≠ awaited.subId := by
    intro same
    rw [same, unknown] at mapped
    cases mapped
  refine ⟨holds, unknown, ?_, ?_⟩
  · rw [List.length_append]
    omega
  · have silent : withId awaited.subId [notification] = [] := by simp [withId, apart]
    change awaited.waiting ++
      withId awaited.subId ((before.published ++ [notification]).drop awaited.start) = _
    rw [List.drop_append_of_le_length bounded, withId_append, silent, List.append_nil]
    exact partition

theorem keepsSeats_buffer (session : SessionRegistry Item) (notification : Notification Item)
    (dropped : List (Notification Item)) :
    KeepsSeats session { session with
      registry := session.registry.buffer notification
      dropped := dropped } where
  wires := rfl
  byRegistration := rfl
  windows := rfl
  published := rfl
  sizes := rfl
  closing _ _ _ _ := id
  ages _ later found := ⟨later, found, Ages.refl later⟩

/-- Publishing more keeps the seats. -/
theorem Seated.publish (seated : Seated before) (notification : Notification Item) :
    Seated { before with published := before.published ++ [notification] } where
  sizes := seated.sizes
  nodup := seated.nodup
  joined := seated.joined
  home := seated.home
  closing := seated.closing
  reached := seated.reached
  receiving := seated.receiving
  sound := seated.sound
  bounds consumer window found := by
    obtain ⟨started, stopped⟩ := seated.bounds consumer window found
    rw [List.length_append]
    exact ⟨by omega, fun stop isStop => by have := stopped stop isStop; omega⟩

/-- An item for an unknown id is for nobody who is seated. -/
theorem delivers_buffer (tracks : Tracks before) {notification : Notification Item}
    (unmapped : before.registry.byId.lookup notification.subId = none)
    (dropped : List (Notification Item)) :
    DeliversAll { before with
      registry := before.registry.buffer notification
      published := before.published ++ [notification]
      dropped := dropped } := by
  intro consumer subscription window inStore found unfailed
  have wasExact := tracks.exact consumer subscription window inStore found unfailed
  obtain ⟨started, stopped⟩ := tracks.seated.bounds consumer window found
  change before.registry.pushedTo consumer = _
  rw [wasExact]
  cases isOpen : window.stop with
  | some stop => rw [items_append_of_stopped isOpen (stopped stop isOpen)]
  | none =>
      have apart : notification.subId ≠ window.subId := by
        intro same
        obtain ⟨name, seat, seated, sameId, -⟩ :=
          tracks.seated.reached consumer window subscription found isOpen inStore unfailed
        have mappedTo := (tracks.inverse.inverse notification.subId name).mpr
          ⟨seat, seated, by rw [sameId, same]⟩
        rw [unmapped] at mappedTo
        cases mappedTo
      rw [items_append_of_open isOpen started]
      simp [withId, apart]

theorem tracks_publish (tracks : Tracks before) {subId : Nat} {item : Item}
    (stepped : before.step (.publish subId item) = some after) : Tracks after := by
  simp only [step] at stepped
  obtain ⟨next, advanced, rfl⟩ := Option.map_eq_some_iff.mp stepped
  obtain ⟨registry, taken, rfl⟩ := Option.map_eq_some_iff.mp advanced
  have wellFormed := wellFormed_step tracks.wellFormed taken
  have free : StoresFreeId before.registry (.publish subId item) := trivial
  have inverse := inverseHeld_step tracks.inverse tracks.wellFormed free taken
  cases taken
  let notification : Notification Item :=
    { subId, item, session := before.registry.session }
  cases mapped : before.registry.byId.lookup subId with
  | none =>
      have published : before.registry.publish subId item =
          before.registry.buffer notification := by
        simp only [publish, mapped, notification]
      rw [published] at wellFormed inverse ⊢
      have unmapped : before.registry.byId.lookup notification.subId = none := mapped
      have seats := tracks.seated.of_keeps (keepsSeats_buffer before notification
        (before.dropped ++ before.registry.overflow notification))
      exact ⟨tracks.holder, wellFormed, inverse, buffered_buffer tracks.buffered unmapped,
        seats.publish notification, tracks.logged, delivers_buffer tracks unmapped _⟩
  | some registration =>
      obtain ⟨state, registered, sameId⟩ :=
        wireOf_of_mapped tracks.inverse.inverse mapped
      obtain ⟨wire, leads, inStore⟩ := Option.bind_eq_some_iff.mp registered
      have published : before.registry.publish subId item =
          before.registry.deliver wire notification := by
        simp only [publish, mapped, leads, notification]
      have nothing : before.registry.overflow notification = [] := by
        simp only [overflow, notification, mapped]
      rw [published] at wellFormed inverse ⊢
      rw [nothing, List.append_nil]
      have logged := logged_pushTo notification tracks.logged
        (tracks.seated.lt_length inStore)
      have sameHolder : (before.registry.deliver wire notification).holder =
          before.registry.holder := by
        simp only [deliver, inStore]
        rfl
      refine ⟨by rw [sameHolder]; exact tracks.holder, wellFormed, inverse,
        buffered_deliver tracks.buffered inStore mapped,
        seated_deliver tracks.seated inStore notification, ?_,
        delivers_deliver tracks mapped registered inStore⟩
      simp only [deliver, inStore]
      exact logged

theorem seated_enroll (seated : Seated before) (idle : before.registry.holder = none)
    {registration : String} {wire start : Nat} {state : WireSubscription}
    (registered : before.registry.byRegistration.lookup registration = some wire)
    (inStore : before.registry.wires[wire]? = some state)
    (bounded : start ≤ before.published.length) :
    Seated { before with
      registry := before.registry.enroll registration wire
      windows := before.windows ++ [{ subId := state.subId, start }] } := by
  have wasSeated := seated.lt_length inStore
  constructor
  · simpa [enroll] using seated.sizes
  · intro index current found
    obtain ⟨earlier, wasInStore, rfl⟩ := getElem?_modify_eq_some.mp found
    have wasNodup := seated.nodup index earlier wasInStore
    split
    · refine List.nodup_append.mpr ⟨wasNodup, List.nodup_singleton _, ?_⟩
      rintro consumer member other isNew rfl
      have inside := seated.lt_length wasInStore consumer member
      rw [List.mem_singleton.mp isNew] at inside
      omega
    · exact wasNodup
  · intro index current found consumer member
    obtain ⟨earlier, wasInStore, rfl⟩ := getElem?_modify_eq_some.mp found
    split at member
    · next same =>
        subst same
        rw [inStore] at wasInStore
        obtain rfl := Option.some.inj wasInStore
        rw [if_pos rfl]
        rcases List.mem_append.mp member with old | new
        · obtain ⟨began, window⟩ := seated.joined wire state inStore consumer old
          exact ⟨began, getElem?_concat_eq_some.mpr (Or.inl window)⟩
        · refine ⟨start, getElem?_concat_eq_some.mpr (Or.inr ⟨?_, rfl⟩)⟩
          rw [List.mem_singleton.mp new, seated.sizes]
    · next apart =>
        rw [if_neg apart]
        obtain ⟨began, window⟩ := seated.joined index earlier wasInStore consumer member
        exact ⟨began, getElem?_concat_eq_some.mpr (Or.inl window)⟩
  · intro index current found consumer member
    obtain ⟨earlier, wasInStore, rfl⟩ := getElem?_modify_eq_some.mp found
    have old : consumer ∈ earlier.consumers → ∃ subscription,
        (before.registry.enroll registration wire).consumers[consumer]? = some subscription ∧
          before.registry.byRegistration.lookup subscription.registration = some index := by
      intro wasMember
      obtain ⟨subscription, isConsumer, home⟩ :=
        seated.home index earlier wasInStore consumer wasMember
      exact ⟨subscription, getElem?_concat_eq_some.mpr (Or.inl isConsumer), home⟩
    split at member
    · next same =>
        rcases List.mem_append.mp member with wasMember | new
        · exact old wasMember
        · refine ⟨_, getElem?_concat_eq_some.mpr (Or.inr ⟨List.mem_singleton.mp new, rfl⟩), ?_⟩
          rw [← same]
          exact registered
    · exact old member
  · intro name index consumer cancelled holds
    change before.registry.holder = _ at holds
    rw [idle] at holds
    cases holds
  · intro consumer window subscription found isOpen isConsumer unfailed
    rcases getElem?_concat_eq_some.mp found with old | ⟨atEnd, rfl⟩
    · rcases getElem?_concat_eq_some.mp isConsumer with wasConsumer | ⟨atEnd, -⟩
      · obtain ⟨name, current, registeredAs, sameId, member⟩ :=
          seated.reached consumer window subscription old isOpen wasConsumer unfailed
        obtain ⟨index, leads, atIndex⟩ := Option.bind_eq_some_iff.mp registeredAs
        refine ⟨name, _, Option.bind_eq_some_iff.mpr ⟨index, leads,
          getElem?_modify_eq_some.mpr ⟨current, atIndex, rfl⟩⟩, ?_, ?_⟩
        · split <;> exact sameId
        · split
          · exact List.mem_append_left _ member
          · exact member
      · have inside := (List.getElem?_eq_some_iff.mp old).1
        have sizes := seated.sizes
        omega
    · refine ⟨registration, _, Option.bind_eq_some_iff.mpr ⟨wire, registered,
        getElem?_modify_eq_some.mpr ⟨state, inStore, rfl⟩⟩, ?_, ?_⟩
      · rw [if_pos rfl]
      · rw [if_pos rfl]
        refine List.mem_append_right _ (List.mem_singleton.mpr ?_)
        rw [atEnd, seated.sizes]
  · intro consumer window subscription found isOpen isConsumer
    rcases getElem?_concat_eq_some.mp isConsumer with wasConsumer | ⟨atEnd, rfl⟩
    · rcases getElem?_concat_eq_some.mp found with old | ⟨atEnd, -⟩
      · exact seated.receiving consumer window subscription old isOpen wasConsumer
      · have inside := (List.getElem?_eq_some_iff.mp wasConsumer).1
        have sizes := seated.sizes
        omega
    · exact fun _ => rfl
  · intro consumer subscription isConsumer
    rcases getElem?_concat_eq_some.mp isConsumer with wasConsumer | ⟨-, rfl⟩
    · exact seated.sound consumer subscription wasConsumer
    · rintro _ ⟨⟩
  · intro consumer window found
    rcases getElem?_concat_eq_some.mp found with old | ⟨-, rfl⟩
    · exact seated.bounds consumer window old
    · exact ⟨bounded, (by rintro _ ⟨⟩)⟩

theorem keepsSeats_flushPending (session : SessionRegistry Item) (wire : Nat) :
    KeepsSeats session { session with registry := session.registry.flushPending wire } := by
  have tables := session.registry.sameTables_flushPending wire
  have wires := session.registry.wires_flushPending wire
  have ages : ∀ (consumer : Nat) (later : AsyncSubscription Item),
      (session.registry.flushPending wire).consumers[consumer]? = some later →
      ∃ earlier, session.registry.consumers[consumer]? = some earlier ∧
        Ages (Attends session consumer) earlier later := by
    intro consumer later found
    unfold flushPending at found
    split at found
    · exact ⟨later, found, Ages.refl later⟩
    · exact ages_foldl_pushTo found _
  have names : (session.registry.flushPending wire).names = session.registry.names :=
    (retains_flushPending session.registry wire).names
  refine ⟨wires, tables.byRegistration, rfl, rfl, ?_, ?_, ages⟩
  · simpa [SubscriptionRegistry.names] using congrArg List.length names
  · intro registration index consumer cancelled holds
    rwa [← tables.holder]

theorem pushedTo_flushPending {registry : SubscriptionRegistry Item} {wire : Nat}
    {state : WireSubscription} (inStore : registry.wires[wire]? = some state)
    (nodup : state.consumers.Nodup) (consumer : Nat) :
    (registry.flushPending wire).pushedTo consumer = registry.pushedTo consumer ++
      if consumer ∈ state.consumers then
        withId state.subId registry.pendingNotifications
      else
        [] := by
  have pushed := pushedTo_foldl_pushTo registry nodup
    (registry.pendingNotifications.filter (·.subId = state.subId)) consumer
  simp only [flushPending, inStore]
  exact pushed

/-- Nobody is pushed anything before it joins. -/
theorem pushedTo_length {registry : SubscriptionRegistry Item}
    (logged : ∀ delivery ∈ registry.deliveries, delivery.consumer < registry.consumers.length) :
    registry.pushedTo registry.consumers.length = [] := by
  rw [pushedTo, List.map_eq_nil_iff, List.filter_eq_nil_iff]
  intro delivery member
  have inside := logged delivery member
  simp only [decide_eq_true_eq]
  omega

theorem logged_flushPending {registry : SubscriptionRegistry Item} {wire : Nat}
    (logged : ∀ delivery ∈ registry.deliveries, delivery.consumer < registry.consumers.length)
    (seated : ∀ state, registry.wires[wire]? = some state →
      ∀ target ∈ state.consumers, target < registry.consumers.length) :
    ∀ delivery ∈ (registry.flushPending wire).deliveries,
      delivery.consumer < (registry.flushPending wire).consumers.length := by
  have pushed : ∀ (notifications : List (Notification Item)) (targets : List Nat)
      (registry : SubscriptionRegistry Item),
      (∀ delivery ∈ registry.deliveries, delivery.consumer < registry.consumers.length) →
      (∀ target ∈ targets, target < registry.consumers.length) →
      ∀ delivery ∈ (notifications.foldl (pushTo · targets ·) registry).deliveries,
        delivery.consumer <
          (notifications.foldl (pushTo · targets ·) registry).consumers.length := by
    intro notifications targets
    induction notifications with
    | nil => exact fun _ logged _ => logged
    | cons notification notifications ih =>
        intro registry logged seated
        apply ih _ (logged_pushTo notification logged seated)
        simpa only [pushTo, List.length_mapIdx] using seated
  unfold flushPending
  split
  · exact logged
  · next state found => exact pushed _ _ registry logged (seated state found)

/-- A new consumer is pushed what is buffered for its wire; nobody who was
there has missed anything. -/
theorem delivers_join (seated : Seated before) (exact : DeliversAll before)
    (logged : ∀ delivery ∈ before.registry.deliveries,
      delivery.consumer < before.registry.consumers.length)
    {registration : String} {wire start : Nat} {state : WireSubscription}
    (inStore : before.registry.wires[wire]? = some state)
    (buffered : withId state.subId before.registry.pendingNotifications =
      withId state.subId (before.published.drop start))
    (missed : ∀ consumer ∈ state.consumers,
      withId state.subId before.registry.pendingNotifications = []) :
    DeliversAll { before with
      registry := before.registry.join registration wire
      windows := before.windows ++ [{ subId := state.subId, start }] } := by
  intro consumer later window isConsumer found unfailed
  let newcomer := before.registry.consumers.length
  have enrolled : (before.registry.enroll registration wire).wires[wire]? =
      some { state with consumers := state.consumers ++ [newcomer] } := by
    simp [enroll, inStore, newcomer]
  have nodup : (state.consumers ++ [newcomer]).Nodup := by
    refine List.nodup_append.mpr ⟨seated.nodup wire state inStore, List.nodup_singleton _, ?_⟩
    rintro other member _ isNew rfl
    have inside := seated.lt_length inStore other member
    rw [List.mem_singleton.mp isNew] at inside
    exact lt_irrefl _ inside
  have pushed := pushedTo_flushPending enrolled nodup consumer
  change ((before.registry.enroll registration wire).flushPending wire).pushedTo consumer = _
  rw [pushed]
  change before.registry.pushedTo consumer ++ (if consumer ∈ state.consumers ++ [newcomer] then
    withId state.subId before.registry.pendingNotifications else []) = _
  obtain ⟨earlier, wasConsumer, ages⟩ := (keepsSeats_flushPending
    { before with registry := before.registry.enroll registration wire } wire).ages consumer later
      isConsumer
  rcases getElem?_concat_eq_some.mp found with old | ⟨atEnd, rfl⟩
  · have inside := (List.getElem?_eq_some_iff.mp old).1
    rw [seated.sizes] at inside
    rcases getElem?_concat_eq_some.mp wasConsumer with inStore | ⟨atEnd, -⟩
    · have nothing : (if consumer ∈ state.consumers ++ [newcomer] then
          withId state.subId before.registry.pendingNotifications else []) = [] := by
        split
        · next member =>
            rcases List.mem_append.mp member with wasMember | isNew
            · exact missed consumer wasMember
            · rw [List.mem_singleton.mp isNew] at inside
              exact (lt_irrefl _ inside).elim
        · rfl
      rw [nothing, List.append_nil]
      exact exact consumer earlier window inStore old (ages.failure unfailed)
    · omega
  · have isNew : consumer = newcomer := by rw [atEnd, seated.sizes]
    have member : consumer ∈ state.consumers ++ [newcomer] :=
      List.mem_append_right _ (List.mem_singleton.mpr isNew)
    rw [if_pos member, isNew, pushedTo_length logged, List.nil_append, buffered, items_of_open rfl]

/-- The buffer after a consumer has joined. -/
theorem unmapped_join {registry : SubscriptionRegistry Item} {registration : String} {wire : Nat}
    {state : WireSubscription} (inStore : registry.wires[wire]? = some state)
    (unmapped : ∀ notification ∈ registry.pendingNotifications, notification.subId ≠ state.subId →
      registry.byId.lookup notification.subId = none) :
    ∀ notification ∈ (registry.join registration wire).pendingNotifications,
      (registry.join registration wire).byId.lookup notification.subId = none := by
  intro notification member
  have tables := registry.sameTables_join registration wire
  have enrolled : (registry.enroll registration wire).wires[wire]? =
      some { state with consumers := state.consumers ++ [registry.consumers.length] } := by
    simp [enroll, inStore]
  simp only [join, flushPending, enrolled] at member
  obtain ⟨waits, apart⟩ := List.mem_filter.mp member
  rw [tables.byId]
  exact unmapped notification waits (by simpa using apart)

theorem logged_join (seated : Seated before)
    (logged : ∀ delivery ∈ before.registry.deliveries,
      delivery.consumer < before.registry.consumers.length)
    (idle : before.registry.holder = none) {registration : String} {wire start : Nat}
    {state : WireSubscription}
    (registered : before.registry.byRegistration.lookup registration = some wire)
    (inStore : before.registry.wires[wire]? = some state)
    (bounded : start ≤ before.published.length) :
    ∀ delivery ∈ (before.registry.join registration wire).deliveries,
      delivery.consumer < (before.registry.join registration wire).consumers.length := by
  have enrolled := seated_enroll seated idle registered inStore bounded
  apply logged_flushPending
  · intro delivery member
    have inside := logged delivery member
    simp only [enroll, List.length_append]
    omega
  · intro current found
    exact enrolled.lt_length found

theorem fits_join (registry : SubscriptionRegistry Item) (registration : String) (wire : Nat)
    (fits : registry.pendingNotifications.length ≤ registry.capacity) :
    (registry.join registration wire).pendingNotifications.length ≤
      (registry.join registration wire).capacity := by
  obtain ⟨consumers, deliveries, pending, flushed, fewer⟩ :=
    (registry.enroll registration wire).exists_flushPending wire
  rw [join, flushed]
  exact fewer.trans fits

/-- Nobody waits for an id unless it subscribes. -/
theorem awaited_eq_none (buffered : Buffered before)
    (notSubscribing : ∀ registration since,
      before.registry.holder ≠ some (.subscribing registration since false)) :
    before.awaited = none := by
  cases awaits : before.awaited with
  | none => rfl
  | some awaited =>
      obtain ⟨registration, since, holds⟩ := (buffered.awaits awaited awaits).holder
      exact (notSubscribing registration since holds).elim

theorem tracks_subscribe (tracks : Tracks before) {registration : String}
    (stepped : before.step (.subscribe registration) = some after) : Tracks after := by
  simp only [step] at stepped
  obtain ⟨next, advanced, rfl⟩ := Option.map_eq_some_iff.mp stepped
  obtain ⟨registry, taken, rfl⟩ := Option.map_eq_some_iff.mp advanced
  have wellFormed := wellFormed_step tracks.wellFormed taken
  have free : StoresFreeId before.registry (.subscribe registration) := trivial
  have inverse := inverseHeld_step tracks.inverse tracks.wellFormed free taken
  simp only [SubscriptionRegistry.step] at taken
  split at taken <;> cases taken
  next idle =>
  have noneAwaited : before.awaited = none :=
    awaited_eq_none tracks.buffered fun _ _ holds => by
      rw [idle] at holds
      cases holds
  cases registered : before.registry.byRegistration.lookup registration with
  | none =>
      have waits : before.registry.subscribe registration = { before.registry with
          holder := some (.subscribing registration before.registry.session false) } := by
        simp only [SubscriptionRegistry.subscribe, registered]
      have unseated : before.registry.wireOf registration = none := by
        simp only [wireOf, registered, Option.bind_none]
      rw [waits] at wellFormed inverse ⊢
      rw [unseated]
      have keepsBuffer : KeepsBuffer before { before with registry := { before.registry with
          holder := some (.subscribing registration before.registry.session false) } } :=
        ⟨rfl, rfl, rfl, rfl, rfl, rfl, fun _ _ => id, Or.inl noneAwaited⟩
      have keepsSeats : KeepsSeats before { before with registry := { before.registry with
          holder := some (.subscribing registration before.registry.session false) } } :=
        ⟨rfl, rfl, rfl, rfl, rfl, (by rintro _ _ _ _ ⟨⟩),
          fun _ later found => ⟨later, found, Ages.refl later⟩⟩
      refine ⟨fun operation holds => ?_, wellFormed, inverse,
        tracks.buffered.of_keeps keepsBuffer, tracks.seated.of_keeps keepsSeats, tracks.logged,
        tracks.exact.of_keeps keepsSeats rfl⟩
      cases holds
      rfl
  | some wire =>
      obtain ⟨state, inStore, -⟩ := tracks.wellFormed.owned registration wire registered
      have joins : before.registry.subscribe registration =
          before.registry.join registration wire := by
        simp only [SubscriptionRegistry.subscribe, registered]
      have seat : before.registry.wireOf registration = some state := by
        simp only [wireOf, registered, Option.bind_some, inStore]
      have mapped : before.registry.byId.lookup state.subId = some registration :=
        (tracks.inverse.inverse state.subId registration).mpr ⟨state, seat, rfl⟩
      -- the id is mapped, so that nothing is buffered for it
      have nothing : withId state.subId before.registry.pendingNotifications = [] := by
        rw [withId, List.filter_eq_nil_iff]
        intro notification member
        have unmapped := tracks.buffered.unmapped notification member
        intro same
        rw [of_decide_eq_true same, mapped] at unmapped
        cases unmapped
      have tables := before.registry.sameTables_join registration wire
      obtain ⟨assigned, session⟩ := ledger_join before.registry registration wire
      rw [joins] at wellFormed inverse ⊢
      rw [seat]
      have seated := seated_enroll tracks.seated idle registered inStore
        (le_refl before.published.length)
      refine ⟨fun operation holds => ?_, wellFormed, inverse,
        ⟨?_, ?_, ?_, fits_join before.registry registration wire tracks.buffered.fits⟩,
        seated.of_keeps (keepsSeats_flushPending _ wire),
        logged_join tracks.seated tracks.logged idle registered inStore
          (le_refl before.published.length),
        delivers_join tracks.seated tracks.exact tracks.logged inStore ?_ fun _ _ => nothing⟩
      · rw [tables.holder, idle] at holds
        cases holds
      · intro awaited waits
        change before.awaited = some awaited at waits
        rw [noneAwaited] at waits
        cases waits
      · exact unmapped_join inStore fun notification member _ =>
          tracks.buffered.unmapped notification member
      · intro subId name found
        rw [tables.byId] at found
        rw [assigned, session]
        exact tracks.buffered.mapped subId name found
      · rw [nothing, List.drop_length]
        rfl

theorem tracks_assign (tracks : Tracks before) {subId : Nat}
    (stepped : before.step (.assign subId) = some after) : Tracks after := by
  simp only [step] at stepped
  split at stepped
  · next registration since cancelled holds _ =>
      obtain ⟨next, advanced, rfl⟩ := Option.map_eq_some_iff.mp stepped
      obtain ⟨registry, taken, rfl⟩ := Option.map_eq_some_iff.mp advanced
      have wellFormed := wellFormed_step tracks.wellFormed taken
      have free : StoresFreeId before.registry (.assign registration subId) := trivial
      have inverse := inverseHeld_step tracks.inverse tracks.wellFormed free taken
      have attended : cancelled = false := tracks.holder _ holds
      have absent : before.registry.byRegistration.lookup registration = none :=
        tracks.wellFormed.holder _ holds
      simp only [SubscriptionRegistry.step] at taken
      split at taken <;> cases taken
      next alone =>
      -- the broker gives the id to no other registration, and this one is not registered
      have unmapped : before.registry.byId.lookup subId = none := by
        cases found : before.registry.byId.lookup subId with
        | none => rfl
        | some other =>
            have same : other = registration :=
              alone _ (tracks.buffered.mapped subId other found) rfl rfl
            obtain ⟨state, registered, -⟩ := wireOf_of_mapped tracks.inverse.inverse found
            rw [same, wireOf, absent] at registered
            cases registered
      have keepsSeats : KeepsSeats before { before with
          registry := { before.registry with
            assigned := before.registry.assigned ++
              [{ session := before.registry.session, subId, registration }] }
          dropped := []
          awaited := some { subId, start := before.published.length,
                            waiting := withId subId before.registry.pendingNotifications } } :=
        ⟨rfl, rfl, rfl, rfl, rfl, fun _ _ _ _ => id,
          fun _ later found => ⟨later, found, Ages.refl later⟩⟩
      refine ⟨tracks.holder, wellFormed, inverse, ⟨?_, tracks.buffered.unmapped, ?_,
        tracks.buffered.fits⟩, tracks.seated.of_keeps keepsSeats, tracks.logged,
        tracks.exact.of_keeps keepsSeats rfl⟩
      · intro awaited waits
        cases waits
        refine ⟨⟨registration, since, by rw [← attended]; exact holds⟩, unmapped, le_refl _, ?_⟩
        rw [List.drop_length]
        exact List.append_nil _
      · intro other name found
        exact List.mem_append_left _ (tracks.buffered.mapped other name found)
  · cases stepped

/-- Storing a wire without consumers seats nobody. -/
theorem seated_store (seated : Seated before) {registration : String} (subId session : Nat)
    (absent : before.registry.byRegistration.lookup registration = none) :
    Seated { before with
      registry := { before.registry.store registration subId session with holder := none }
      awaited := none } := by
  have apart : ∀ {name : String} {wire : Nat},
      before.registry.byRegistration.lookup name = some wire → name ≠ registration := by
    rintro name wire found rfl
    rw [absent] at found
    cases found
  constructor
  · exact seated.sizes
  · intro wire state found
    rcases getElem?_concat_eq_some.mp found with old | ⟨-, rfl⟩
    · exact seated.nodup wire state old
    · exact List.nodup_nil
  · intro wire state found consumer member
    rcases getElem?_concat_eq_some.mp found with old | ⟨-, rfl⟩
    · exact seated.joined wire state old consumer member
    · cases member
  · intro wire state found consumer member
    rcases getElem?_concat_eq_some.mp found with old | ⟨-, rfl⟩
    · obtain ⟨subscription, isConsumer, home⟩ := seated.home wire state old consumer member
      refine ⟨subscription, isConsumer, ?_⟩
      simp only [store]
      rwa [AList.lookup_insert_ne (apart home)]
    · cases member
  · rintro _ _ _ _ ⟨⟩
  · intro consumer window subscription found isOpen isConsumer unfailed
    obtain ⟨name, state, registered, sameId, member⟩ :=
      seated.reached consumer window subscription found isOpen isConsumer unfailed
    obtain ⟨wire, leads, inStore⟩ := Option.bind_eq_some_iff.mp registered
    refine ⟨name, state, Option.bind_eq_some_iff.mpr ⟨wire, ?_,
      getElem?_concat_eq_some.mpr (Or.inl inStore)⟩, sameId, member⟩
    simp only [store]
    rwa [AList.lookup_insert_ne (apart leads)]
  · exact seated.receiving
  · exact seated.sound
  · exact seated.bounds

theorem tracks_subscribed (tracks : Tracks before) (intact : BufferIntact before .subscribed)
    (stepped : before.step .subscribed = some after) : Tracks after := by
  simp only [step] at stepped
  split at stepped
  · next subId start waiting waits =>
      obtain ⟨⟨registration, since, holds⟩, unmapped, bounded, partition⟩ :=
        tracks.buffered.awaits _ waits
      have held := intact _ waits
      obtain ⟨next, advanced, rfl⟩ := Option.map_eq_some_iff.mp stepped
      obtain ⟨registry, taken, rfl⟩ := Option.map_eq_some_iff.mp advanced
      have wellFormed := wellFormed_step tracks.wellFormed taken
      have absent : before.registry.byRegistration.lookup registration = none :=
        tracks.wellFormed.holder _ holds
      have free : StoresFreeId before.registry
          (.subscribed before.registry.session subId) := by
        simp only [StoresFreeId, holds]
        intro other _ hasId
        obtain ⟨state, registered, sameId⟩ := Option.map_eq_some_iff.mp hasId
        have mapped := (tracks.inverse.inverse subId other).mpr ⟨state, registered, sameId⟩
        rw [unmapped] at mapped
        cases mapped
      have inverse := inverseHeld_step tracks.inverse tracks.wellFormed free taken
      simp only [SubscriptionRegistry.step, SubscriptionRegistry.subscribed, holds] at taken
      split at taken <;> cases taken
      next given =>
      let stored : SubscriptionRegistry Item :=
        { before.registry.store registration subId before.registry.session with holder := none }
      let middle : SessionRegistry Item := { before with registry := stored, awaited := none }
      have seated : Seated middle := seated_store tracks.seated subId _ absent
      have registered : stored.byRegistration.lookup registration =
          some before.registry.wires.length := AList.lookup_insert _
      have inStore : stored.wires[before.registry.wires.length]? =
          some { registration, subId, session := before.registry.session } :=
        getElem?_concat_eq_some.mpr (Or.inr ⟨rfl, rfl⟩)
      have enrolled := seated_enroll seated rfl registered inStore bounded
      have tables := stored.sameTables_join registration before.registry.wires.length
      obtain ⟨assigned, session⟩ := ledger_join stored registration before.registry.wires.length
      -- what the buffer has dropped is what it held before, so that it still holds the rest
      have arrived : withId subId before.registry.pendingNotifications =
          withId subId (before.published.drop start) := by
        rw [held] at partition
        exact (List.append_cancel_left partition).symm
      refine ⟨fun operation suspended => ?_, wellFormed, inverse,
        ⟨(by rintro _ ⟨⟩), ?_, ?_, fits_join stored registration _ tracks.buffered.fits⟩,
        enrolled.of_keeps (keepsSeats_flushPending _ _),
        logged_join seated tracks.logged rfl registered inStore bounded,
        delivers_join seated tracks.exact tracks.logged inStore arrived (by rintro _ ⟨⟩)⟩
      · rw [tables.holder] at suspended
        cases suspended
      · apply unmapped_join inStore
        intro notification member apart
        simp only [stored, store]
        rw [AList.lookup_insert_ne apart]
        exact tracks.buffered.unmapped notification member
      · intro other name found
        rw [tables.byId] at found
        rw [assigned, session]
        rcases Dictionary.lookup_insert_eq_some.mp found with ⟨rfl, rfl⟩ | ⟨-, old⟩
        · exact given.2
        · exact tracks.buffered.mapped other name old
  · cases stepped

theorem tracks_subscribeFailed (tracks : Tracks before)
    (stepped : before.step .subscribeFailed = some after) : Tracks after := by
  simp only [step] at stepped
  obtain ⟨next, advanced, rfl⟩ := Option.map_eq_some_iff.mp stepped
  obtain ⟨registry, taken, rfl⟩ := Option.map_eq_some_iff.mp advanced
  have wellFormed := wellFormed_step tracks.wellFormed taken
  have free : StoresFreeId before.registry .subscribeFailed := trivial
  have inverse := inverseHeld_step tracks.inverse tracks.wellFormed free taken
  simp only [SubscriptionRegistry.step, SubscriptionRegistry.subscribeFailed] at taken
  split at taken <;> cases taken
  · have keepsSeats : KeepsSeats before { before with
        registry := { before.registry with holder := none }, awaited := none } :=
      ⟨rfl, rfl, rfl, rfl, rfl, (by rintro _ _ _ _ ⟨⟩),
        fun _ later found => ⟨later, found, Ages.refl later⟩⟩
    have keepsBuffer : KeepsBuffer before { before with
        registry := { before.registry with holder := none }, awaited := none } :=
      ⟨rfl, rfl, rfl, rfl, rfl, rfl, fun _ _ => id, Or.inl rfl⟩
    exact ⟨(by rintro _ ⟨⟩), wellFormed, inverse, tracks.buffered.of_keeps keepsBuffer,
      tracks.seated.of_keeps keepsSeats, tracks.logged, tracks.exact.of_keeps keepsSeats rfl⟩
  · next holds => exact (tracks.holder _ holds).elim

/-- Only one consumer changes. -/
theorem tracks_updateConsumer (tracks : Tracks before) (consumer : Nat)
    {update : AsyncSubscription Item → AsyncSubscription Item}
    (ages : ∀ subscription, Ages (Attends before consumer) subscription (update subscription)) :
    Tracks { before with registry := before.registry.updateConsumer consumer update } := by
  have same := before.registry.sameTables_updateConsumer consumer update
  have keepsSeats := keepsSeats_updateConsumer before consumer ages
  have keepsBuffer : KeepsBuffer before
      { before with registry := before.registry.updateConsumer consumer update } :=
    ⟨rfl, rfl, rfl, rfl, rfl, rfl, fun _ _ => id, Or.inr ⟨rfl, rfl⟩⟩
  refine ⟨tracks.holder, tracks.wellFormed.of_sameTables same,
    tracks.inverse.of_sameTables same, tracks.buffered.of_keeps keepsBuffer,
    tracks.seated.of_keeps keepsSeats, ?_, tracks.exact.of_keeps keepsSeats rfl⟩
  simpa only [updateConsumer, List.length_modify] using tracks.logged

theorem tracks_cleanupTasks (tracks : Tracks before) (cleanupTasks : List Nat) :
    Tracks { before with registry := { before.registry with cleanupTasks } } := by
  have same : SameTables before.registry { before.registry with cleanupTasks } :=
    ⟨rfl, rfl, rfl, rfl, rfl⟩
  have keepsSeats : KeepsSeats before
      { before with registry := { before.registry with cleanupTasks } } :=
    ⟨rfl, rfl, rfl, rfl, rfl, fun _ _ _ _ => id,
      fun _ later found => ⟨later, found, Ages.refl later⟩⟩
  have keepsBuffer : KeepsBuffer before
      { before with registry := { before.registry with cleanupTasks } } :=
    ⟨rfl, rfl, rfl, rfl, rfl, rfl, fun _ _ => id, Or.inr ⟨rfl, rfl⟩⟩
  exact ⟨tracks.holder, tracks.wellFormed.of_sameTables same,
    tracks.inverse.of_sameTables same, tracks.buffered.of_keeps keepsBuffer,
    tracks.seated.of_keeps keepsSeats, tracks.logged, tracks.exact.of_keeps keepsSeats rfl⟩

/-- Nobody is seated at a wire that its registration does not lead to. -/
theorem filter_elsewhere (seated : Seated before) {consumer index : Nat}
    {subscription : AsyncSubscription Item} {state : WireSubscription}
    (isConsumer : before.registry.consumers[consumer]? = some subscription)
    (inStore : before.registry.wires[index]? = some state)
    (elsewhere : before.registry.byRegistration.lookup subscription.registration ≠ some index) :
    state.consumers.filter (· ≠ consumer) = state.consumers := by
  rw [List.filter_eq_self]
  intro other member
  obtain ⟨again, isAgain, home⟩ := seated.home index state inStore other member
  refine decide_eq_true fun isSame => elsewhere ?_
  rw [isSame, isConsumer] at isAgain
  rwa [← Option.some.inj isAgain] at home

theorem getElem?_discard (seated : Seated before) {consumer wire : Nat}
    {subscription : AsyncSubscription Item}
    (isConsumer : before.registry.consumers[consumer]? = some subscription)
    (registered : before.registry.byRegistration.lookup subscription.registration = some wire)
    (index : Nat) :
    (before.registry.discard wire consumer).wires[index]? =
      before.registry.wires[index]?.map fun state =>
        { state with consumers := state.consumers.filter (· ≠ consumer) } := by
  simp only [SubscriptionRegistry.discard, List.getElem?_modify]
  cases inStore : before.registry.wires[index]? with
  | none => rfl
  | some state =>
      by_cases same : wire = index
      · simp [same]
      · have absent := filter_elsewhere seated isConsumer inStore (by simpa [registered] using same)
        change some (if wire = index then _ else state) = some _
        rw [if_neg same]
        simp only [absent]

/-- A consumer whose registration is gone has left already. -/
theorem getElem?_gone (seated : Seated before) {consumer : Nat}
    {subscription : AsyncSubscription Item}
    (isConsumer : before.registry.consumers[consumer]? = some subscription)
    (gone : before.registry.byRegistration.lookup subscription.registration = none)
    (index : Nat) :
    before.registry.wires[index]? = before.registry.wires[index]?.map fun state =>
      { state with consumers := state.consumers.filter (· ≠ consumer) } := by
  cases inStore : before.registry.wires[index]? with
  | none => rfl
  | some state =>
      have absent := filter_elsewhere seated isConsumer inStore (by simp [gone])
      rw [Option.map_some, absent]

theorem not_attends_close (session : SessionRegistry Item) (consumer published : Nat)
    (window : Window)
    (found : (session.windows.modify consumer (·.close published))[consumer]? = some window) :
    window.stop ≠ none := by
  obtain ⟨earlier, -, rfl⟩ := getElem?_modify_eq_some.mp found
  rw [if_pos rfl]
  cases stopped : earlier.stop with
  | none => simp [Window.close, stopped]
  | some stop => simp [Window.close, stopped]

theorem seated_leave (seated : Seated before) {consumer : Nat} {wires : List WireSubscription}
    (left : ∀ index : Nat, wires[index]? = before.registry.wires[index]?.map fun state =>
      { state with consumers := state.consumers.filter (· ≠ consumer) })
    (holder : Option RegistryOperation)
    (closing : ∀ registration wire other cancelled,
      holder = some (.closing registration wire other cancelled) →
      (∀ state, wires[wire]? = some state → state.consumers = []) ∧ other = consumer) :
    Seated { before with
      registry := { before.registry with wires, holder }
      windows := before.windows.modify consumer (·.close before.published.length) } := by
  have older : ∀ {index : Nat} {current : WireSubscription}, wires[index]? = some current →
      ∃ earlier, before.registry.wires[index]? = some earlier ∧
        current = { earlier with consumers := earlier.consumers.filter (· ≠ consumer) } := by
    intro index current found
    rw [left] at found
    obtain ⟨earlier, wasInStore, rfl⟩ := Option.map_eq_some_iff.mp found
    exact ⟨earlier, wasInStore, rfl⟩
  have others : ∀ {index : Nat} {window : Window},
      (before.windows.modify consumer (·.close before.published.length))[index]? = some window →
      window.stop = none → index ≠ consumer ∧ before.windows[index]? = some window := by
    intro index window found isOpen
    have apart : index ≠ consumer := by
      rintro rfl
      exact not_attends_close before index _ window found isOpen
    obtain ⟨earlier, wasFound, same⟩ := getElem?_modify_eq_some.mp found
    rw [if_neg (Ne.symm apart)] at same
    exact ⟨apart, same ▸ wasFound⟩
  constructor
  · simpa using seated.sizes
  · intro index current found
    obtain ⟨earlier, wasInStore, rfl⟩ := older found
    exact (seated.nodup index earlier wasInStore).filter _
  · intro index current found other member
    obtain ⟨earlier, wasInStore, rfl⟩ := older found
    obtain ⟨wasMember, apart⟩ := List.mem_filter.mp member
    obtain ⟨start, window⟩ := seated.joined index earlier wasInStore other wasMember
    refine ⟨start, ?_⟩
    have isOther : consumer ≠ other := Ne.symm (of_decide_eq_true apart)
    refine getElem?_modify_eq_some.mpr ⟨_, window, ?_⟩
    rw [if_neg isOther]
  · intro index current found other member
    obtain ⟨earlier, wasInStore, rfl⟩ := older found
    exact seated.home index earlier wasInStore other (List.mem_filter.mp member).1
  · intro registration wire other cancelled holds
    obtain ⟨empty, rfl⟩ := closing registration wire other cancelled holds
    exact ⟨empty, not_attends_close before other _⟩
  · intro other window subscription found isOpen isConsumer unfailed
    obtain ⟨apart, wasFound⟩ := others found isOpen
    obtain ⟨registration, state, registered, sameId, member⟩ :=
      seated.reached other window subscription wasFound isOpen isConsumer unfailed
    obtain ⟨index, leads, inStore⟩ := Option.bind_eq_some_iff.mp registered
    have inWires : wires[index]? =
        some { state with consumers := state.consumers.filter (· ≠ consumer) } := by
      rw [left, inStore]
      rfl
    exact ⟨registration, _, Option.bind_eq_some_iff.mpr ⟨index, leads, inWires⟩, sameId,
      List.mem_filter.mpr ⟨member, decide_eq_true apart⟩⟩
  · intro other window subscription found isOpen isConsumer
    obtain ⟨-, wasFound⟩ := others found isOpen
    exact seated.receiving other window subscription wasFound isOpen isConsumer
  · exact seated.sound
  · intro other window found
    obtain ⟨earlier, wasFound, rfl⟩ := getElem?_modify_eq_some.mp found
    obtain ⟨started, stopped⟩ := seated.bounds other earlier wasFound
    split
    · refine ⟨started, fun stop isStop => ?_⟩
      rcases Option.or_eq_some_iff.mp isStop with was | ⟨-, isNow⟩
      · exact stopped stop was
      · obtain rfl := Option.some.inj isNow
        exact le_refl _
    · exact ⟨started, stopped⟩

theorem DeliversAll.leave (delivers : DeliversAll before) (consumer : Nat)
    (wires : List WireSubscription) (holder : Option RegistryOperation) :
    DeliversAll { before with
      registry := { before.registry with wires, holder }
      windows := before.windows.modify consumer (·.close before.published.length) } := by
  intro other subscription window isConsumer found unfailed
  obtain ⟨earlier, wasFound, rfl⟩ := getElem?_modify_eq_some.mp found
  have wasExact := delivers other subscription earlier isConsumer wasFound unfailed
  split
  · rw [items_close]
    exact wasExact
  · exact wasExact

/-- A consumer leaves its wire, and as the last one it unsubscribes. -/
theorem tracks_close (tracks : Tracks before) {consumer : Nat}
    (stepped : before.step (.close consumer) = some after) : Tracks after := by
  simp only [step] at stepped
  obtain ⟨next, advanced, rfl⟩ := Option.map_eq_some_iff.mp stepped
  obtain ⟨registry, taken, rfl⟩ := Option.map_eq_some_iff.mp advanced
  have wellFormed := wellFormed_step tracks.wellFormed taken
  have free : StoresFreeId before.registry (.close consumer) := trivial
  have inverse := inverseHeld_step tracks.inverse tracks.wellFormed free taken
  simp only [SubscriptionRegistry.step] at taken
  split at taken
  · cases taken
  next subscription isConsumer =>
  split at taken <;> cases taken
  next enabled =>
  have idle := enabled.1
  have noneAwaited : before.awaited = none :=
    awaited_eq_none tracks.buffered fun _ _ holds => by
      rw [idle] at holds
      cases holds
  -- after leaving, only the consumer itself changes
  have finish : ∀ (wires : List WireSubscription) (holder : Option RegistryOperation)
      (update : AsyncSubscription Item → AsyncSubscription Item),
      (∀ isOpen, ¬ isOpen → ∀ current, Ages isOpen current (update current)) →
      (∀ operation, holder = some operation → Uninterrupted operation) →
      Seated { before with
        registry := { before.registry with wires, holder }
        windows := before.windows.modify consumer (·.close before.published.length) } →
      ({ before.registry with wires, holder }.updateConsumer consumer update).WellFormed →
      ({ before.registry with wires, holder }.updateConsumer consumer update).InverseHeld →
      Tracks { before with
        registry := { before.registry with wires, holder }.updateConsumer consumer update
        windows := before.windows.modify consumer (·.close before.published.length) } := by
    intro wires holder update ages uninterrupted seated wellFormed inverse
    let left : SessionRegistry Item := { before with
      registry := { before.registry with wires, holder }
      windows := before.windows.modify consumer (·.close before.published.length) }
    have absent : ¬ Attends left consumer := by
      rintro ⟨window, found, isOpen⟩
      exact not_attends_close before consumer _ window found isOpen
    have keepsSeats := keepsSeats_updateConsumer left consumer (ages _ absent)
    have keepsBuffer : KeepsBuffer before { left with
        registry := left.registry.updateConsumer consumer update } :=
      ⟨rfl, rfl, rfl, rfl, rfl, rfl, fun _ _ => id, Or.inl noneAwaited⟩
    refine ⟨uninterrupted, wellFormed, inverse, tracks.buffered.of_keeps keepsBuffer,
      seated.of_keeps keepsSeats, ?_,
      (tracks.exact.leave consumer wires holder).of_keeps keepsSeats rfl⟩
    simpa only [updateConsumer, List.length_modify] using tracks.logged
  have endClose : ∀ isOpen, ¬ isOpen → ∀ current : AsyncSubscription Item,
      Ages isOpen current current.endClose := fun _ closed current => ages_endClose closed current
  have noHolder : ∀ operation, before.registry.holder = some operation →
      Uninterrupted operation := tracks.holder
  cases registered : before.registry.byRegistration.lookup subscription.registration with
  | none =>
      have closes : before.registry.close subscription.registration consumer =
          before.registry.updateConsumer consumer AsyncSubscription.endClose := by
        simp only [SubscriptionRegistry.close, registered]
      rw [closes] at wellFormed inverse ⊢
      have seated := seated_leave tracks.seated
        (getElem?_gone tracks.seated isConsumer registered) before.registry.holder
        (fun _ _ _ _ holds => by rw [idle] at holds; cases holds)
      exact finish _ _ _ endClose noHolder seated wellFormed inverse
  | some wire =>
      have left := getElem?_discard tracks.seated isConsumer registered
      by_cases remain : (before.registry.discard wire consumer).wires[wire]?.any
          (·.consumers ≠ [])
      · have closes : before.registry.close subscription.registration consumer =
            (before.registry.discard wire consumer).updateConsumer consumer
              AsyncSubscription.endClose := by
          simp only [SubscriptionRegistry.close, registered, if_pos remain]
        rw [closes] at wellFormed inverse ⊢
        have seated := seated_leave tracks.seated left before.registry.holder
          (fun _ _ _ _ holds => by rw [idle] at holds; cases holds)
        exact finish _ _ _ endClose noHolder seated wellFormed inverse
      · have closes : before.registry.close subscription.registration consumer =
            { (before.registry.discard wire consumer).updateConsumer consumer
                AsyncSubscription.awaitUnsubscribe with
              holder := some (.closing subscription.registration wire consumer false) } := by
          simp only [SubscriptionRegistry.close, registered, if_neg remain]
        rw [closes] at wellFormed inverse ⊢
        have seated := seated_leave tracks.seated left
          (some (.closing subscription.registration wire consumer false)) fun _ _ _ _ holds => by
            cases holds
            refine ⟨fun state found => ?_, rfl⟩
            rw [found] at remain
            simpa using remain
        have awaits : ∀ isOpen, ¬ isOpen → ∀ current : AsyncSubscription Item,
            Ages isOpen current current.awaitUnsubscribe :=
          fun _ _ current => ⟨rfl, id, fun _ _ => id, id⟩
        exact finish _ _ _ awaits (fun _ holds => by cases holds; trivial) seated wellFormed
          inverse

/-- Nobody is seated at a wire that is unsubscribed. -/
theorem seated_forget (seated : Seated before) (wellFormed : before.registry.WellFormed)
    {registration : String} {wire consumer : Nat} {cancelled : Bool}
    (holds : before.registry.holder = some (.closing registration wire consumer cancelled)) :
    Seated { before with
      registry := { before.registry.forget registration wire with holder := none } } := by
  obtain ⟨empty, -⟩ := seated.closing registration wire consumer cancelled holds
  obtain ⟨-, unique⟩ := wellFormed.holder _ holds
  have others : ∀ {name : String} {index member : Nat} {state : WireSubscription},
      before.registry.byRegistration.lookup name = some index →
      before.registry.wires[index]? = some state → member ∈ state.consumers →
      (before.registry.byRegistration.erase registration).lookup name = some index := by
    intro name index member state leads inStore isMember
    refine Dictionary.lookup_erase_eq_some.mpr ⟨?_, leads⟩
    rintro rfl
    rw [unique index leads] at inStore
    rw [empty state inStore] at isMember
    cases isMember
  refine ⟨seated.sizes, seated.nodup, seated.joined, ?_, nofun, ?_, seated.receiving,
    seated.sound, seated.bounds⟩
  · intro index state inStore member isMember
    obtain ⟨subscription, isConsumer, home⟩ := seated.home index state inStore member isMember
    exact ⟨subscription, isConsumer, others home inStore isMember⟩
  · intro member window subscription found isOpen isConsumer unfailed
    obtain ⟨name, state, registered, sameId, isMember⟩ :=
      seated.reached member window subscription found isOpen isConsumer unfailed
    obtain ⟨index, leads, inStore⟩ := Option.bind_eq_some_iff.mp registered
    exact ⟨name, state,
      Option.bind_eq_some_iff.mpr ⟨index, others leads inStore isMember, inStore⟩, sameId,
      isMember⟩

theorem tracks_unsubscribed (tracks : Tracks before)
    (stepped : before.step .unsubscribed = some after) : Tracks after := by
  simp only [step] at stepped
  obtain ⟨registry, taken, rfl⟩ := Option.map_eq_some_iff.mp stepped
  have wellFormed := wellFormed_step tracks.wellFormed taken
  have free : StoresFreeId before.registry .unsubscribed := trivial
  have inverse := inverseHeld_step tracks.inverse tracks.wellFormed free taken
  simp only [SubscriptionRegistry.step, SubscriptionRegistry.unsubscribed] at taken
  split at taken <;> cases taken
  · next holds => exact (tracks.holder _ holds).elim
  · next registration wire consumer cancelled holds =>
      have noneAwaited : before.awaited = none :=
        awaited_eq_none tracks.buffered fun _ _ subscribing => by
          rw [holds] at subscribing
          cases subscribing
      obtain ⟨-, stopped⟩ := tracks.seated.closing registration wire consumer cancelled holds
      let forgotten : SessionRegistry Item := { before with
        registry := { before.registry.forget registration wire with holder := none } }
      have absent : ¬ Attends forgotten consumer := by
        rintro ⟨window, found, isOpen⟩
        exact stopped window found isOpen
      have keepsSeats := keepsSeats_updateConsumer forgotten consumer (ages_endClose absent)
      have keepsBuffer : KeepsBuffer before { forgotten with
          registry := forgotten.registry.updateConsumer consumer AsyncSubscription.endClose } := by
        refine ⟨rfl, rfl, rfl, rfl, rfl, rfl, fun subId name found => ?_, Or.inl noneAwaited⟩
        exact (retains_forget before.registry registration wire).byId subId name found
      have exact : DeliversAll forgotten := tracks.exact
      refine ⟨(by rintro _ ⟨⟩), wellFormed, inverse, tracks.buffered.of_keeps keepsBuffer,
        (seated_forget tracks.seated tracks.wellFormed holds).of_keeps keepsSeats, ?_,
        exact.of_keeps keepsSeats rfl⟩
      simpa only [updateConsumer, forget, List.length_modify] using tracks.logged

/-- The wire stays registered without consumers. -/
theorem tracks_unsubscribeFailed (tracks : Tracks before)
    (stepped : before.step .unsubscribeFailed = some after) : Tracks after := by
  simp only [step] at stepped
  obtain ⟨registry, taken, rfl⟩ := Option.map_eq_some_iff.mp stepped
  simp only [SubscriptionRegistry.step, SubscriptionRegistry.unsubscribeFailed] at taken
  split at taken <;> cases taken
  · next holds => exact (tracks.holder _ holds).elim
  · next registration wire consumer cancelled holds =>
      have noneAwaited : before.awaited = none :=
        awaited_eq_none tracks.buffered fun _ _ subscribing => by
          rw [holds] at subscribing
          cases subscribing
      obtain ⟨-, stopped⟩ := tracks.seated.closing registration wire consumer cancelled holds
      let released : SessionRegistry Item := { before with
        registry := { before.registry with holder := none } }
      have keepsSeats : KeepsSeats before released :=
        ⟨rfl, rfl, rfl, rfl, rfl, (by rintro _ _ _ _ ⟨⟩),
          fun _ later found => ⟨later, found, Ages.refl later⟩⟩
      have keepsBuffer : KeepsBuffer before released :=
        ⟨rfl, rfl, rfl, rfl, rfl, rfl, fun _ _ => id, Or.inl noneAwaited⟩
      have tracksReleased : Tracks released :=
        ⟨(by rintro _ ⟨⟩), tracks.wellFormed.release ⟨fun _ _ => id, rfl⟩ rfl,
          InverseHeld.of_inverse (tracks.inverse.inverse.congr rfl rfl rfl) (by rintro _ _ _ _ ⟨⟩),
          tracks.buffered.of_keeps keepsBuffer, tracks.seated.of_keeps keepsSeats, tracks.logged,
          tracks.exact.of_keeps keepsSeats rfl⟩
      have absent : ¬ Attends released consumer := by
        rintro ⟨window, found, isOpen⟩
        exact stopped window found isOpen
      exact tracks_updateConsumer tracksReleased consumer (ages_endClose absent)

theorem tracks_step (tracks : Tracks before) {action : SessionAction Item}
    (intact : BufferIntact before action) (stepped : before.step action = some after) :
    Tracks after := by
  cases action with
  | subscribe registration => exact tracks_subscribe tracks stepped
  | assign subId => exact tracks_assign tracks stepped
  | subscribed => exact tracks_subscribed tracks intact stepped
  | subscribeFailed => exact tracks_subscribeFailed tracks stepped
  | publish subId item => exact tracks_publish tracks stepped
  | read consumer =>
      obtain ⟨registry, taken, rfl⟩ := exists_of_advance stepped
      cases taken
      exact tracks_updateConsumer tracks consumer ages_read
  | aclose consumer =>
      obtain ⟨registry, taken, rfl⟩ := exists_of_advance stepped
      cases taken
      exact tracks_updateConsumer tracks consumer ages_aclose
  | cleanup consumer =>
      obtain ⟨registry, taken, rfl⟩ := exists_of_advance stepped
      simp only [SubscriptionRegistry.step] at taken
      split at taken <;> cases taken
      exact tracks_updateConsumer (tracks_cleanupTasks tracks _) consumer ages_aclose
  | close consumer => exact tracks_close tracks stepped
  | unsubscribed => exact tracks_unsubscribed tracks stepped
  | unsubscribeFailed => exact tracks_unsubscribeFailed tracks stepped

theorem invariant_tracks (capacity : Nat) :
    (system Item capacity).Invariant BufferIntact Tracks where
  starts first isFirst := by
    cases isFirst
    have initial := (@invariant_inverseHeld Item capacity).starts _ rfl
    exact ⟨nofun, initial.1, initial.2, ⟨nofun, nofun, fun subId name found => by
      change (∅ : Dictionary Nat String).lookup subId = some name at found
      simp at found, Nat.zero_le _⟩,
      ⟨rfl, nofun, nofun, nofun, nofun, nofun, nofun, nofun, nofun⟩, nofun, nofun⟩
  preserved _ _ _ tracks intact stepped := tracks_step tracks intact stepped

/-- A consumer with room for all of them accepts what it is pushed. -/
theorem unfailed_foldl_pushTo (registry : SubscriptionRegistry Item) (targets : List Nat)
    {consumer : Nat} {subscription : AsyncSubscription Item}
    {notifications : List (Notification Item)}
    (inStore : registry.consumers[consumer]? = some subscription)
    (isOpen : subscription.closed = false) (unfailed : subscription.failure = none)
    (room : subscription.queue.length + notifications.length ≤ registry.capacity) :
    ∃ later, (notifications.foldl (pushTo · targets ·) registry).consumers[consumer]? =
      some later ∧ later.failure = none := by
  induction notifications generalizing registry subscription with
  | nil => exact ⟨subscription, inStore, unfailed⟩
  | cons notification notifications ih =>
      rw [List.length_cons] at room
      have notFull : subscription.full registry.capacity = false := by
        simp only [AsyncSubscription.full, Bool.and_eq_false_iff, decide_eq_false_iff_not]
        omega
      have pushed : (registry.pushTo targets notification).consumers[consumer]? =
          some (if consumer ∈ targets then
            { subscription with queue := subscription.queue ++ [.item notification.item] }
          else
            subscription) := by
        simp [pushTo, List.getElem?_mapIdx, inStore, AsyncSubscription.push, isOpen, notFull]
      rw [List.foldl_cons]
      split at pushed
      · apply ih _ pushed isOpen unfailed
        change (subscription.queue ++ [_]).length + notifications.length ≤ registry.capacity
        rw [List.length_append, List.length_singleton]
        omega
      · apply ih _ pushed isOpen unfailed
        change subscription.queue.length + notifications.length ≤ registry.capacity
        omega

/-- What a new consumer is pushed is what the buffer holds for its wire. -/
theorem exists_newcomer {registry : SubscriptionRegistry Item} (registration : String)
    {wire : Nat} {state : WireSubscription} (inStore : registry.wires[wire]? = some state)
    (nodup : (state.consumers ++ [registry.consumers.length]).Nodup)
    (logged : ∀ delivery ∈ registry.deliveries, delivery.consumer < registry.consumers.length)
    (fits : registry.pendingNotifications.length ≤ registry.capacity) :
    ∃ newcomer, (registry.join registration wire).consumers[registry.consumers.length]? =
      some newcomer ∧ newcomer.failure = none ∧
        (registry.join registration wire).pushedTo registry.consumers.length =
          withId state.subId registry.pendingNotifications := by
  have enrolled : (registry.enroll registration wire).wires[wire]? =
      some { state with consumers := state.consumers ++ [registry.consumers.length] } := by
    simp [enroll, inStore]
  have room : (0 + (registry.pendingNotifications.filter (·.subId = state.subId)).length) ≤
      registry.capacity := by
    rw [Nat.zero_add]
    exact (List.length_filter_le _ _).trans fits
  obtain ⟨newcomer, isNewcomer, unfailed⟩ := unfailed_foldl_pushTo
    (registry.enroll registration wire) (state.consumers ++ [registry.consumers.length])
    (getElem?_concat_eq_some.mpr (Or.inr ⟨rfl, rfl⟩)) rfl rfl room
  refine ⟨newcomer, ?_, unfailed, ?_⟩
  · simp only [join, flushPending, enrolled]
    exact isNewcomer
  · have pushed := pushedTo_flushPending enrolled nodup registry.consumers.length
    rw [if_pos (List.mem_append_right _ (List.mem_singleton.mpr rfl))] at pushed
    have nothing : (registry.enroll registration wire).pushedTo registry.consumers.length = [] :=
      pushedTo_length logged
    rw [nothing, List.nil_append] at pushed
    exact pushed

theorem not_deliversAll (tracks : Tracks before) {action : SessionAction Item}
    (lost : ¬ BufferIntact before action) (stepped : before.step action = some after) :
    ¬ DeliversAll after := by
  unfold BufferIntact at lost
  split at lost
  · simp only [not_forall] at lost
    obtain ⟨awaited, waits, lost⟩ := lost
    obtain ⟨⟨registration, since, holds⟩, unmapped, bounded, partition⟩ :=
      tracks.buffered.awaits _ waits
    simp only [step, waits] at stepped
    obtain ⟨next, advanced, rfl⟩ := Option.map_eq_some_iff.mp stepped
    obtain ⟨registry, taken, rfl⟩ := exists_of_advance advanced
    simp only [SubscriptionRegistry.step, SubscriptionRegistry.subscribed, holds] at taken
    split at taken <;> cases taken
    let stored : SubscriptionRegistry Item :=
      { before.registry.store registration awaited.subId before.registry.session with
        holder := none }
    have inStore : stored.wires[before.registry.wires.length]? = some
        { registration, subId := awaited.subId, session := before.registry.session } :=
      getElem?_concat_eq_some.mpr (Or.inr ⟨rfl, rfl⟩)
    obtain ⟨newcomer, isNewcomer, unfailed, pushed⟩ :=
      exists_newcomer registration inStore (List.nodup_singleton _)
        tracks.logged tracks.buffered.fits
    intro delivers
    have delivered := delivers _ newcomer { subId := awaited.subId, start := awaited.start }
      isNewcomer (getElem?_concat_eq_some.mpr (Or.inr ⟨tracks.seated.sizes.symm, rfl⟩)) unfailed
    rw [items_of_open rfl] at delivered
    have held : withId awaited.subId before.registry.pendingNotifications =
        withId awaited.subId (before.published.drop awaited.start) := pushed.symm.trans delivered
    rw [held] at partition
    exact lost (List.append_cancel_right partition).symm
  · exact (lost trivial).elim

/-- Every consumer that has not been failed is pushed exactly the items of its
window throughout a run, exactly if the buffer is intact whenever a SUBSCRIBE
returns. -/
theorem along_deliversAll_iff (capacity : Nat) (actions : List (SessionAction Item)) :
    (system Item capacity).Along DeliversAll { registry := { capacity } } actions ↔
      (system Item capacity).StepsMeet BufferIntact { registry := { capacity } } actions := by
  have invariant := @invariant_tracks Item capacity
  apply (system Item capacity).along_iff_stepsMeet Tracks
  · exact fun _ tracks => tracks.exact
  · exact invariant.preserved
  · exact fun current action next tracks lost stepped => not_deliversAll tracks lost stepped
  · exact invariant.starts _ rfl

/-- Three items arrive before `subscribe` has learned of its id, and the buffer
holds two. -/
def earlyBurst : List (SessionAction Nat) :=
  [.subscribe "orders", .assign 1, .publish 1 10, .publish 1 11, .publish 1 12, .subscribed]

/-- The first of them is lost, and the consumer has not been failed. -/
theorem exists_silent_loss : ∃ session : SessionRegistry Nat,
    (system Nat 2).Reachable session ∧ ¬ DeliversAll session := by
  let test (session : SessionRegistry Nat) : Bool :=
    session.registry.consumers[0]?.any (·.failure = none) &&
      (session.windows[0]? = some { subId := 1, start := 0 } &&
        session.registry.pushedTo 0 ≠ withId 1 session.published)
  obtain ⟨session, reachable, tested⟩ := (system Nat 2).exists_reachable_of_run rfl earlyBurst
    test (by decide)
  refine ⟨session, reachable, fun delivers => ?_⟩
  simp only [test, Bool.and_eq_true, decide_eq_true_eq] at tested
  obtain ⟨healthy, found, apart⟩ := tested
  obtain ⟨subscription, isConsumer, unfailed⟩ := Option.any_eq_true _ _ |>.mp healthy
  have delivered := delivers 0 subscription _ isConsumer found (of_decide_eq_true unfailed)
  rw [items_of_open rfl] at delivered
  exact apart delivered

end SessionRegistry

end FitzClient
