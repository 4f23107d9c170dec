import FitzClient.SubscriptionTables

/-!
# Deliveries over several sessions

The broker may give an id of one session to another registration in the next.
An item is meant for the registration that had its id in the session in which
it arrived.  Two things outlive a session and lead items astray: the mapping of
an id that restoration has not replaced yet, and a buffered notification.
Every other step pushes an item only where the broker sent it.
-/

namespace FitzClient

namespace SubscriptionRegistry

variable {Item : Type} {before after : SubscriptionRegistry Item}
  {registration : String} {wire : Nat}

/-- The broker gave this id to this registration in this session. -/
def Gave (registry : SubscriptionRegistry Item) (session subId : Nat) (registration : String) :
    Prop :=
  { session, subId, registration } ∈ registry.assigned

/-- Items were only pushed to consumers of the registration that had their id
in their session. -/
def DeliveredToOwner (registry : SubscriptionRegistry Item) : Prop :=
  ∀ delivery ∈ registry.deliveries, ∃ consumer,
    registry.consumers[delivery.consumer]? = some consumer ∧
      Gave registry delivery.notification.session delivery.notification.subId
        consumer.registration

/-- A notification that is buffered for this id is of this session, or the
broker gave the id to the same registration in its session too. -/
def BufferedFor (registry : SubscriptionRegistry Item) (registration : String)
    (subId session : Nat) : Prop :=
  ∀ notification ∈ registry.pendingNotifications, notification.subId = subId →
    notification.session = session ∨ Gave registry notification.session subId registration

/-- The id of an arriving item is not mapped since an earlier session to a
registration that lost it, and an id for which the buffer is flushed has no
notification there from a session in which another registration had it. -/
def NotStale (registry : SubscriptionRegistry Item) : RegistryAction Item → Prop
  | .publish subId _ => ∀ registration state,
      registry.byId.lookup subId = some registration →
      registry.wireOf registration = some state → state.consumers ≠ [] →
      registry.storedIn.lookup subId = some registry.session ∨
        Gave registry registry.session subId registration
  | .subscribe registration => ∀ state, registry.wireOf registration = some state →
      BufferedFor registry registration state.subId state.session
  | .subscribed session subId =>
      match registry.holder with
      | some (.subscribing registration _ false) =>
          BufferedFor registry registration subId session
      | some (.restoring registration wire _ _ _) => ∀ state, registry.wires[wire]? = some state →
          state.consumers ≠ [] → BufferedFor registry registration subId session
      | _ => True
  | _ => True

/-- The registrations of all consumers. -/
def names (registry : SubscriptionRegistry Item) : List String :=
  registry.consumers.map (·.registration)

/-- The second registry is the first one after these pushes. -/
structure Pushes (before after : SubscriptionRegistry Item) (pushed : List (Delivery Item)) :
    Prop where
  deliveries : after.deliveries = before.deliveries ++ pushed
  names : after.names = before.names
  assigned : after.assigned = before.assigned

/-- All these pushes go to owners. -/
def Owners (registry : SubscriptionRegistry Item) (pushed : List (Delivery Item)) : Prop :=
  ∀ delivery ∈ pushed, ∃ name, registry.names[delivery.consumer]? = some name ∧
    Gave registry delivery.notification.session delivery.notification.subId name

theorem deliveredToOwner_iff {registry : SubscriptionRegistry Item} :
    DeliveredToOwner registry ↔ Owners registry registry.deliveries := by
  constructor
  · intro delivered delivery member
    obtain ⟨consumer, found, given⟩ := delivered delivery member
    exact ⟨consumer.registration, by simp [names, found], given⟩
  · intro owners delivery member
    obtain ⟨name, named, given⟩ := owners delivery member
    rw [names, List.getElem?_map] at named
    obtain ⟨consumer, found, rfl⟩ := Option.map_eq_some_iff.mp named
    exact ⟨consumer, found, given⟩

theorem Pushes.deliveredToOwner_iff {pushed : List (Delivery Item)}
    (pushes : Pushes before after pushed) :
    DeliveredToOwner after ↔ DeliveredToOwner before ∧ Owners before pushed := by
  have gave : ∀ session subId name,
      Gave after session subId name ↔ Gave before session subId name := by
    intro session subId name
    rw [Gave, pushes.assigned, ← Gave]
  simp only [SubscriptionRegistry.deliveredToOwner_iff, Owners, pushes.deliveries, pushes.names,
    gave, List.mem_append]
  constructor
  · exact fun all => ⟨fun delivery old => all delivery (Or.inl old),
      fun delivery new => all delivery (Or.inr new)⟩
  · rintro ⟨olds, news⟩ delivery (old | new)
    · exact olds delivery old
    · exact news delivery new

theorem names_mapIdx (consumers : List (AsyncSubscription Item))
    {update : Nat → AsyncSubscription Item → AsyncSubscription Item}
    (same : ∀ index consumer, (update index consumer).registration = consumer.registration) :
    (consumers.mapIdx update).map (·.registration) = consumers.map (·.registration) := by
  apply List.ext_getElem?
  intro index
  rw [List.getElem?_map, List.getElem?_map, List.getElem?_mapIdx]
  cases consumers[index]? with
  | none => rfl
  | some consumer => exact congrArg some (same index consumer)

theorem names_modify (consumers : List (AsyncSubscription Item)) (consumer : Nat)
    {update : AsyncSubscription Item → AsyncSubscription Item}
    (same : ∀ subscription, (update subscription).registration = subscription.registration) :
    (consumers.modify consumer update).map (·.registration) =
      consumers.map (·.registration) := by
  apply List.ext_getElem?
  intro index
  rw [List.getElem?_map, List.getElem?_map, List.getElem?_modify]
  cases consumers[index]? with
  | none => rfl
  | some subscription =>
      by_cases touched : consumer = index
      · simp [touched, same]
      · simp [touched]

theorem pushes_pushTo (registry : SubscriptionRegistry Item) (targets : List Nat)
    (notification : Notification Item) :
    Pushes registry (registry.pushTo targets notification)
      (targets.map fun consumer => { consumer, notification }) where
  deliveries := rfl
  names := names_mapIdx _ fun index consumer => by
    split
    · exact consumer.registration_push registry.capacity notification.item
    · rfl
  assigned := rfl

theorem Pushes.trans {middle : SubscriptionRegistry Item} {first second : List (Delivery Item)}
    (one : Pushes before middle first) (two : Pushes middle after second) :
    Pushes before after (first ++ second) where
  deliveries := by rw [two.deliveries, one.deliveries, List.append_assoc]
  names := two.names.trans one.names
  assigned := two.assigned.trans one.assigned

theorem Pushes.refl (registry : SubscriptionRegistry Item) : Pushes registry registry [] :=
  ⟨(List.append_nil _).symm, rfl, rfl⟩

/-- The pushes of several notifications, one after the other. -/
def fanOut (targets : List Nat) (notifications : List (Notification Item)) :
    List (Delivery Item) :=
  notifications.flatMap fun notification =>
    targets.map fun consumer => { consumer, notification }

theorem pushes_foldl_pushTo (registry : SubscriptionRegistry Item) (targets : List Nat)
    (notifications : List (Notification Item)) :
    Pushes registry (notifications.foldl (pushTo · targets ·) registry)
      (fanOut targets notifications) := by
  induction notifications generalizing registry with
  | nil => exact Pushes.refl registry
  | cons notification notifications ih =>
      exact (registry.pushes_pushTo targets notification).trans (ih _)

theorem pushes_flushPending {registry : SubscriptionRegistry Item} {state : WireSubscription}
    (found : registry.wires[wire]? = some state) :
    Pushes registry (registry.flushPending wire) (fanOut state.consumers
      (registry.pendingNotifications.filter (·.subId = state.subId))) := by
  obtain ⟨deliveries, names, assigned⟩ := registry.pushes_foldl_pushTo state.consumers
    (registry.pendingNotifications.filter (·.subId = state.subId))
  simp only [flushPending, found]
  exact ⟨deliveries, names, assigned⟩

theorem owners_fanOut_iff {registry : SubscriptionRegistry Item} {targets : List Nat}
    {notifications : List (Notification Item)}
    (named : ∀ target ∈ targets, registry.names[target]? = some registration) :
    Owners registry (fanOut targets notifications) ↔ targets ≠ [] →
      ∀ notification ∈ notifications,
        Gave registry notification.session notification.subId registration := by
  simp only [Owners, fanOut, List.mem_flatMap, List.mem_map]
  constructor
  · intro owners nonempty notification member
    obtain ⟨target, isTarget⟩ := List.exists_mem_of_ne_nil targets nonempty
    obtain ⟨name, found, given⟩ := owners _ ⟨notification, member, target, isTarget, rfl⟩
    rw [named target isTarget] at found
    obtain rfl := Option.some.inj found
    exact given
  · rintro given delivery ⟨notification, member, target, isTarget, rfl⟩
    exact ⟨registration, named target isTarget,
      given (List.ne_nil_of_mem isTarget) notification member⟩

/-- Every id in use was given by the broker, and the consumers of a wire are
consumers of its registration. -/
structure Granted (registry : SubscriptionRegistry Item) : Prop where
  wires : ∀ (wire : Nat) (state : WireSubscription), registry.wires[wire]? = some state →
    Gave registry state.session state.subId state.registration
  mapped : ∀ subId registration, registry.byId.lookup subId = some registration →
    ∃ session, registry.storedIn.lookup subId = some session ∧
      Gave registry session subId registration
  compensating : ∀ registration subId session,
    registry.holder = some (.compensating registration subId session) →
    Gave registry session subId registration
  members : ∀ (wire : Nat) (state : WireSubscription), registry.wires[wire]? = some state →
    ∀ consumer ∈ state.consumers, registry.names[consumer]? = some state.registration

/-- What a step may do without giving anyone an id. -/
structure Retains (before after : SubscriptionRegistry Item) : Prop where
  assigned : ∀ assignment ∈ before.assigned, assignment ∈ after.assigned
  keys : after.wires.map WireSubscription.key = before.wires.map WireSubscription.key
  byId : ∀ subId registration, after.byId.lookup subId = some registration →
    before.byId.lookup subId = some registration
  storedIn : after.storedIn = before.storedIn
  holder : ∀ registration subId session,
    after.holder = some (.compensating registration subId session) →
    before.holder = some (.compensating registration subId session)
  members : ∀ (wire : Nat) (state : WireSubscription), after.wires[wire]? = some state →
    ∃ earlier, before.wires[wire]? = some earlier ∧ ∀ consumer ∈ state.consumers,
      consumer ∈ earlier.consumers
  names : after.names = before.names

theorem Granted.of_retains (granted : Granted before) (retains : Retains before after) :
    Granted after where
  wires wire state found := by
    have keyed : (before.wires.map WireSubscription.key)[wire]? = some state.key := by
      rw [← retains.keys, List.getElem?_map, found]
      rfl
    rw [List.getElem?_map] at keyed
    obtain ⟨earlier, inStore, sameKey⟩ := Option.map_eq_some_iff.mp keyed
    have given := granted.wires wire earlier inStore
    simp only [WireSubscription.key, Prod.mk.injEq] at sameKey
    rw [sameKey.1, sameKey.2.1, sameKey.2.2] at given
    exact retains.assigned _ given
  mapped subId registration mapped := by
    obtain ⟨session, stored, given⟩ :=
      granted.mapped subId registration (retains.byId _ _ mapped)
    exact ⟨session, by rwa [retains.storedIn], retains.assigned _ given⟩
  compensating registration subId session holds :=
    retains.assigned _ (granted.compensating _ _ _ (retains.holder _ _ _ holds))
  members wire state found consumer member := by
    obtain ⟨earlier, inStore, joined⟩ := retains.members wire state found
    have named := granted.members wire earlier inStore consumer (joined consumer member)
    have keyed := congrArg (·[wire]?) retains.keys
    simp only [List.getElem?_map, found, inStore, Option.map_some, Option.some.injEq,
      WireSubscription.key, Prod.mk.injEq] at keyed
    rw [retains.names, keyed.1]
    exact named

theorem members_refl (wires : List WireSubscription) (wire : Nat) (state : WireSubscription)
    (found : wires[wire]? = some state) :
    ∃ earlier, wires[wire]? = some earlier ∧ ∀ consumer ∈ state.consumers,
      consumer ∈ earlier.consumers :=
  ⟨state, found, fun _ member => member⟩

theorem members_filter (wires : List WireSubscription) (target : Nat) (stays : Nat → Bool)
    (wire : Nat) (state : WireSubscription)
    (found : (wires.modify target fun state =>
      { state with consumers := state.consumers.filter stays })[wire]? = some state) :
    ∃ earlier, wires[wire]? = some earlier ∧ ∀ consumer ∈ state.consumers,
      consumer ∈ earlier.consumers := by
  obtain ⟨earlier, inStore, rfl⟩ := getElem?_modify_eq_some.mp found
  refine ⟨earlier, inStore, fun consumer member => ?_⟩
  split at member
  · exact (List.mem_filter.mp member).1
  · exact member

theorem retains_of_tables (same : SameTables before after)
    (assigned : ∀ assignment ∈ before.assigned, assignment ∈ after.assigned)
    (names : after.names = before.names)
    (members : ∀ (wire : Nat) (state : WireSubscription), after.wires[wire]? = some state →
      ∃ earlier, before.wires[wire]? = some earlier ∧ ∀ consumer ∈ state.consumers,
        consumer ∈ earlier.consumers) : Retains before after where
  assigned := assigned
  keys := same.keys
  byId subId registration mapped := by
    rwa [same.byId] at mapped
  storedIn := same.storedIn
  holder registration subId session holds := by
    rwa [same.holder] at holds
  members := members
  names := names

theorem retains_updateConsumer (registry : SubscriptionRegistry Item) (consumer : Nat)
    {update : AsyncSubscription Item → AsyncSubscription Item}
    (same : ∀ subscription, (update subscription).registration = subscription.registration) :
    Retains registry (registry.updateConsumer consumer update) :=
  retains_of_tables (registry.sameTables_updateConsumer consumer update) (fun _ => id)
    (names_modify _ _ same) (members_refl _)

theorem retains_discard (registry : SubscriptionRegistry Item) (wire consumer : Nat) :
    Retains registry (registry.discard wire consumer) :=
  retains_of_tables (registry.sameTables_discard wire consumer) (fun _ => id) rfl
    (members_filter _ _ _)

theorem names_settle (registry : SubscriptionRegistry Item) (targets : List Nat)
    (error : Option SubscriptionError) :
    (registry.settle targets error).names = registry.names :=
  names_mapIdx _ fun index consumer => by
    split
    · cases error with
      | none => exact consumer.registration_finish
      | some error => exact consumer.registration_fail error
    · rfl

theorem retains_publish (registry : SubscriptionRegistry Item) (subId : Nat) (item : Item) :
    Retains registry (registry.publish subId item) := by
  have tables := registry.sameTables_publish subId item
  unfold publish at tables ⊢
  split
  · exact retains_of_tables ⟨rfl, rfl, rfl, rfl, rfl⟩ (fun _ => id) rfl (members_refl _)
  · split
    · exact retains_of_tables (SameTables.refl registry) (fun _ => id) rfl (members_refl _)
    · unfold deliver
      split
      · exact retains_of_tables (SameTables.refl registry) (fun _ => id) rfl (members_refl _)
      · exact retains_of_tables ⟨rfl, rfl, rfl, keys_modify _ _ fun _ => rfl, rfl⟩ (fun _ => id)
          (registry.pushes_pushTo _ _).names (members_filter _ _ _)

/-- `publish` pushes to the wire that the id is mapped to. -/
theorem pushes_publish {registry : SubscriptionRegistry Item} {subId : Nat} (item : Item)
    {state : WireSubscription} (mapped : registry.byId.lookup subId = some registration)
    (registered : registry.wireOf registration = some state) :
    Pushes registry (registry.publish subId item)
      (fanOut state.consumers [{ subId, item, session := registry.session }]) := by
  obtain ⟨wire, found, inStore⟩ := Option.bind_eq_some_iff.mp registered
  obtain ⟨deliveries, names, assigned⟩ := registry.pushes_pushTo state.consumers
    { subId, item, session := registry.session }
  simp only [publish, mapped, found, deliver, inStore, fanOut, List.flatMap_cons,
    List.flatMap_nil, List.append_nil]
  exact ⟨deliveries, names, assigned⟩

theorem pushes_publish_nil {registry : SubscriptionRegistry Item} {subId : Nat} (item : Item)
    (nowhere : ∀ registration state, registry.byId.lookup subId = some registration →
      registry.wireOf registration ≠ some state) :
    Pushes registry (registry.publish subId item) [] := by
  unfold publish
  split
  · exact ⟨(List.append_nil _).symm, rfl, rfl⟩
  · next registration mapped =>
      split
      · exact Pushes.refl registry
      · next wire found =>
          have missing : registry.wires[wire]? = none := by
            cases inStore : registry.wires[wire]? with
            | none => rfl
            | some state =>
                refine (nowhere registration state mapped ?_).elim
                rw [wireOf, found]
                exact inStore
          simp only [deliver, missing]
          exact Pushes.refl registry

theorem not_stale_publish_iff (granted : Granted before) (wellFormed : WellFormed before)
    (subId : Nat) (item : Item) (delivered : DeliveredToOwner before) :
    DeliveredToOwner (before.publish subId item) ↔ NotStale before (.publish subId item) := by
  by_cases somewhere : ∃ registration state, before.byId.lookup subId = some registration ∧
      before.wireOf registration = some state
  · obtain ⟨registration, state, mapped, registered⟩ := somewhere
    rw [(pushes_publish item mapped registered).deliveredToOwner_iff]
    have named : ∀ target ∈ state.consumers, before.names[target]? = some registration := by
      obtain ⟨wire, found, inStore⟩ := Option.bind_eq_some_iff.mp registered
      obtain ⟨again, inStoreAgain, rfl⟩ := wellFormed.owned _ _ found
      rw [inStore] at inStoreAgain
      obtain rfl := Option.some.inj inStoreAgain
      exact granted.members wire state inStore
    rw [owners_fanOut_iff named]
    constructor
    · rintro ⟨-, owner⟩ other found mappedTo registeredTo nonempty
      rw [mapped] at mappedTo
      obtain rfl := Option.some.inj mappedTo
      rw [registered] at registeredTo
      obtain rfl := Option.some.inj registeredTo
      exact Or.inr (owner nonempty _ (List.mem_singleton.mpr rfl))
    · intro fresh
      refine ⟨delivered, fun nonempty notification member => ?_⟩
      obtain rfl := List.mem_singleton.mp member
      rcases fresh registration state mapped registered nonempty with current | given
      · obtain ⟨session, stored, given⟩ := granted.mapped subId registration mapped
        rw [current] at stored
        obtain rfl := Option.some.inj stored
        exact given
      · exact given
  · have nowhere : ∀ registration state, before.byId.lookup subId = some registration →
        before.wireOf registration ≠ some state :=
      fun registration state mapped registered =>
        somewhere ⟨registration, state, mapped, registered⟩
    rw [(pushes_publish_nil item nowhere).deliveredToOwner_iff]
    constructor
    · exact fun _ registration state mapped registered =>
        (nowhere registration state mapped registered).elim
    · exact fun _ => ⟨delivered, nofun⟩

theorem retains_flushPending (registry : SubscriptionRegistry Item) (wire : Nat) :
    Retains registry (registry.flushPending wire) := by
  obtain ⟨assigned, names⟩ : (registry.flushPending wire).assigned = registry.assigned ∧
      (registry.flushPending wire).names = registry.names := by
    cases found : registry.wires[wire]? with
    | none =>
        simp only [flushPending, found]
        trivial
    | some state => exact ⟨(pushes_flushPending found).assigned, (pushes_flushPending found).names⟩
  refine retains_of_tables (registry.sameTables_flushPending wire) ?_ names ?_
  · rw [assigned]
    exact fun _ => id
  · rw [wires_flushPending]
    exact members_refl _

theorem deliveredToOwner_flush_iff {registry : SubscriptionRegistry Item}
    (granted : Granted registry) {state : WireSubscription}
    (found : registry.wires[wire]? = some state) (delivered : DeliveredToOwner registry) :
    DeliveredToOwner (registry.flushPending wire) ↔
      (state.consumers ≠ [] → BufferedFor registry state.registration state.subId
        state.session) := by
  rw [(pushes_flushPending found).deliveredToOwner_iff,
    owners_fanOut_iff (granted.members wire state found)]
  simp only [List.mem_filter, decide_eq_true_eq, delivered, true_and]
  constructor
  · rintro owner nonempty notification buffered sameId
    exact Or.inr (sameId ▸ owner nonempty notification ⟨buffered, sameId⟩)
  · rintro fresh nonempty notification ⟨buffered, sameId⟩
    rcases fresh nonempty notification buffered sameId with current | given
    · rw [current, sameId]
      exact granted.wires wire state found
    · rwa [sameId]

theorem granted_enroll (granted : Granted before) (owned : Owned before registration wire) :
    Granted (before.enroll registration wire) where
  wires index state found := by
    obtain ⟨earlier, inStore, rfl⟩ := getElem?_modify_eq_some.mp found
    split
    · exact granted.wires index earlier inStore
    · exact granted.wires index earlier inStore
  mapped := granted.mapped
  compensating := granted.compensating
  members index state found consumer member := by
    obtain ⟨earlier, inStore, rfl⟩ := getElem?_modify_eq_some.mp found
    have appended : (before.enroll registration wire).names = before.names ++ [registration] := by
      simp [names, enroll]
    rw [appended, getElem?_concat_eq_some]
    split at member
    · next same =>
        subst same
        obtain ⟨again, inStoreAgain, rfl⟩ := owned
        rw [inStore] at inStoreAgain
        obtain rfl := Option.some.inj inStoreAgain
        rcases List.mem_append.mp member with old | new
        · rw [if_pos rfl]
          exact Or.inl (granted.members wire earlier inStore consumer old)
        · rw [if_pos rfl]
          exact Or.inr ⟨by simpa [names] using new, rfl⟩
    · next apart =>
        rw [if_neg apart]
        exact Or.inl (granted.members index earlier inStore consumer member)

/-- An entry that is stored with the session of its id. -/
theorem mapped_insert {byId : Dictionary Nat String} (granted : Granted before) {subId : Nat}
    {session : Nat} (given : Gave before session subId registration)
    (fewer : ∀ other name, byId.lookup other = some name → before.byId.lookup other = some name)
    (other : Nat) (name : String)
    (mapped : (byId.insert subId registration).lookup other = some name) :
    ∃ session', (before.storedIn.insert subId session).lookup other = some session' ∧
      Gave before session' other name := by
  rcases Dictionary.lookup_insert_eq_some.mp mapped with ⟨rfl, rfl⟩ | ⟨apart, old⟩
  · exact ⟨session, AList.lookup_insert _, given⟩
  · obtain ⟨earlier, stored, gave⟩ := granted.mapped other name (fewer other name old)
    exact ⟨earlier, by rwa [AList.lookup_insert_ne apart], gave⟩

theorem granted_store (granted : Granted before) {subId session : Nat}
    (given : Gave before session subId registration) :
    Granted { before.store registration subId session with holder := none } where
  wires index state found := by
    rcases getElem?_concat_eq_some.mp found with old | ⟨-, rfl⟩
    · exact granted.wires index state old
    · exact given
  mapped := mapped_insert granted given fun _ _ => id
  compensating := nofun
  members index state found consumer member := by
    rcases getElem?_concat_eq_some.mp found with old | ⟨-, rfl⟩
    · exact granted.members index state old consumer member
    · cases member

theorem granted_remap (granted : Granted before) (owned : Owned before registration wire)
    (oldId : Nat) {newId session : Nat} (given : Gave before session newId registration) :
    Granted (before.remap registration wire oldId newId session) where
  wires index state found := by
    obtain ⟨earlier, inStore, rfl⟩ := getElem?_modify_eq_some.mp found
    split
    · next same =>
        subst same
        obtain ⟨again, inStoreAgain, rfl⟩ := owned
        rw [inStore] at inStoreAgain
        obtain rfl := Option.some.inj inStoreAgain
        exact given
    · exact granted.wires index earlier inStore
  mapped := mapped_insert granted given fun _ _ found =>
    (Dictionary.lookup_erase_eq_some.mp found).2
  compensating := granted.compensating
  members index state found consumer member := by
    obtain ⟨earlier, inStore, rfl⟩ := getElem?_modify_eq_some.mp found
    split at member
    · next same =>
        rw [if_pos same]
        exact granted.members index earlier inStore consumer member
    · next apart =>
        rw [if_neg apart]
        exact granted.members index earlier inStore consumer member

theorem retains_restoreNext (registry : SubscriptionRegistry Item)
    (remaining : List (String × Nat)) : Retains registry (registry.restoreNext remaining) := by
  cases remaining with
  | nil => exact ⟨fun _ => id, rfl, fun _ _ => id, rfl, nofun, members_refl _, rfl⟩
  | cons entry remaining =>
      exact ⟨fun _ => id, rfl, fun _ _ => id, rfl, nofun, members_refl _, rfl⟩

theorem retains_failRegistration (registry : SubscriptionRegistry Item) (registration : String)
    (error : SubscriptionError) :
    Retains registry (registry.failRegistration registration error) := by
  have names := fun state : WireSubscription => names_settle registry state.consumers (some error)
  unfold failRegistration
  split
  · exact retains_of_tables (SameTables.refl registry) (fun _ => id) rfl (members_refl _)
  · next state _ =>
      exact ⟨fun _ => id, rfl, fun _ _ found => (Dictionary.lookup_erase_eq_some.mp found).2, rfl,
        fun _ _ _ => id, members_refl _, names state⟩

theorem retains_terminate (registry : SubscriptionRegistry Item)
    (error : Option SubscriptionError) : Retains registry (registry.terminate error) := by
  refine ⟨fun _ => id, rfl, fun subId registration mapped => ?_, rfl, fun _ _ _ => id,
    members_refl _, names_settle registry registry.registeredConsumers error⟩
  change (∅ : Dictionary Nat String).lookup subId = some registration at mapped
  simp at mapped

theorem retains_forget (registry : SubscriptionRegistry Item) (registration : String)
    (wire : Nat) : Retains registry { registry.forget registration wire with holder := none } := by
  refine ⟨fun _ => id, rfl, fun subId name mapped => ?_, rfl, nofun, members_refl _, rfl⟩
  simp only [forget] at mapped
  split at mapped
  · exact (Dictionary.lookup_erase_eq_some.mp mapped).2
  · exact mapped

theorem DeliveredToOwner.of_retains (delivered : DeliveredToOwner before)
    (retains : Retains before after) (silent : after.deliveries = before.deliveries) :
    DeliveredToOwner after := by
  rw [deliveredToOwner_iff] at delivered ⊢
  intro delivery member
  rw [silent] at member
  obtain ⟨name, named, given⟩ := delivered delivery member
  exact ⟨name, by rwa [retains.names], retains.assigned _ given⟩

theorem DeliveredToOwner.enroll (delivered : DeliveredToOwner before) (registration : String)
    (wire : Nat) : DeliveredToOwner (before.enroll registration wire) := by
  intro delivery member
  obtain ⟨consumer, found, given⟩ := delivered delivery member
  exact ⟨consumer, getElem?_concat_eq_some.mpr (Or.inl found), given⟩

theorem deliveredToOwner_restoreNext {registry : SubscriptionRegistry Item}
    {remaining : List (String × Nat)} :
    DeliveredToOwner (registry.restoreNext remaining) ↔ DeliveredToOwner registry := by
  cases remaining with
  | nil => exact Iff.rfl
  | cons entry remaining => exact Iff.rfl

/-- A new consumer gets what is buffered for the id of its wire. -/
theorem join_delivers (granted : Granted before) (owned : Owned before registration wire)
    {state : WireSubscription} (found : before.wires[wire]? = some state)
    (delivered : DeliveredToOwner before) :
    Granted (before.join registration wire) ∧
      (DeliveredToOwner (before.join registration wire) ↔
        BufferedFor before registration state.subId state.session) := by
  have enrolled := granted_enroll granted owned
  obtain ⟨again, foundAgain, rfl⟩ := owned
  rw [found] at foundAgain
  obtain rfl := Option.some.inj foundAgain
  have joined : (before.enroll state.registration wire).wires[wire]? = some { state with
      consumers := state.consumers ++ [before.consumers.length] } := by
    simp [enroll, found]
  refine ⟨enrolled.of_retains (retains_flushPending _ wire), ?_⟩
  rw [join, deliveredToOwner_flush_iff enrolled joined (delivered.enroll _ _)]
  exact ⟨fun fits => fits (List.concat_ne_nil _ _), fun fits _ => fits⟩

theorem subscribe_delivers (granted : Granted before) (wellFormed : WellFormed before)
    (delivered : DeliveredToOwner before) (registration : String) :
    Granted (before.subscribe registration) ∧
      (DeliveredToOwner (before.subscribe registration) ↔
        NotStale before (.subscribe registration)) := by
  unfold subscribe
  split
  · next wire registered =>
      have owned := wellFormed.owned _ _ registered
      obtain ⟨state, found, -⟩ := id owned
      obtain ⟨joinedGranted, joinedDelivered⟩ := join_delivers granted owned found delivered
      have registeredState : before.wireOf registration = some state := by
        rw [wireOf, registered]
        exact found
      refine ⟨joinedGranted, joinedDelivered.trans ⟨fun fits other foundOther => ?_,
        fun fits => fits state registeredState⟩⟩
      rw [registeredState] at foundOther
      obtain rfl := Option.some.inj foundOther
      exact fits
  · next unregistered =>
      refine ⟨granted.of_retains ⟨fun _ => id, rfl, fun _ _ => id, rfl, nofun, members_refl _,
        rfl⟩, fun _ state registered => ?_, fun _ => delivered⟩
      rw [wireOf, unregistered] at registered
      cases registered

theorem subscribed_delivers (granted : Granted before) (wellFormed : WellFormed before)
    (delivered : DeliveredToOwner before) {session subId : Nat}
    (stepped : before.subscribed session subId = some after) :
    Granted after ∧ (DeliveredToOwner after ↔ NotStale before (.subscribed session subId)) := by
  unfold subscribed at stepped
  unfold NotStale
  split at stepped
  · next registration since cancelled holds =>
      rw [holds]
      split at stepped
      · next answered =>
          obtain ⟨-, given⟩ := answered
          cases cancelled with
          | true =>
              cases stepped
              refine ⟨⟨granted.wires, granted.mapped, ?_, granted.members⟩, fun _ => trivial,
                fun _ => delivered⟩
              intro other otherId otherSession suspended
              cases suspended
              exact given
          | false =>
              cases stepped
              have stored := granted_store granted given
              exact join_delivers stored (before.owned_store registration subId session)
                (getElem?_concat_eq_some.mpr (Or.inr ⟨rfl, rfl⟩)) delivered
      · cases stepped
  · next registration wire oldId since remaining holds =>
      rw [holds]
      obtain ⟨-, ⟨owned, -⟩, -⟩ := wellFormed.holder _ holds
      split at stepped
      · next answered =>
          obtain ⟨-, given⟩ := answered
          cases stepped
          have remapped := granted_remap granted owned oldId given
          refine ⟨(remapped.of_retains (retains_flushPending _ wire)).of_retains
            (retains_restoreNext _ remaining), ?_⟩
          obtain ⟨state, found, rfl⟩ := owned
          have moved : (before.remap state.registration wire oldId subId session).wires[wire]? =
              some { state with subId, session } := by
            simp [remap, found]
          rw [deliveredToOwner_restoreNext, rekey,
            deliveredToOwner_flush_iff remapped moved delivered]
          refine ⟨fun fits other foundOther => ?_, fun fits => fits state found⟩
          rw [found] at foundOther
          obtain rfl := Option.some.inj foundOther
          exact fits
      · cases stepped
  · cases stepped

/-- A step that pushes nothing. -/
theorem silent_delivers {notStale : Prop} (granted : Granted before)
    (delivered : DeliveredToOwner before) (retains : Retains before after)
    (silent : after.deliveries = before.deliveries) (holds : notStale) :
    Granted after ∧ (DeliveredToOwner after ↔ notStale) :=
  ⟨granted.of_retains retains, fun _ => holds, fun _ => delivered.of_retains retains silent⟩

theorem unsubscribed_delivers (granted : Granted before) (delivered : DeliveredToOwner before)
    (stepped : before.unsubscribed = some after) :
    Granted after ∧ (DeliveredToOwner after ↔ NotStale before .unsubscribed) := by
  unfold unsubscribed at stepped
  split at stepped <;> cases stepped
  · exact silent_delivers granted delivered
      ⟨fun _ => id, rfl, fun _ _ => id, rfl, nofun, members_refl _, rfl⟩ rfl trivial
  · next registration wire consumer _ _ =>
      have forgotten := before.retains_forget registration wire
      have ended := retains_updateConsumer
        { before.forget registration wire with holder := none } consumer
        AsyncSubscription.registration_endClose
      exact ⟨(granted.of_retains forgotten).of_retains ended, fun _ => trivial,
        fun _ => (delivered.of_retains forgotten rfl).of_retains ended rfl⟩

theorem unsubscribeFailed_delivers (granted : Granted before)
    (delivered : DeliveredToOwner before) (stepped : before.unsubscribeFailed = some after) :
    Granted after ∧ (DeliveredToOwner after ↔ NotStale before .unsubscribeFailed) := by
  unfold unsubscribeFailed at stepped
  split at stepped <;> cases stepped
  · next registration subId session holds =>
      exact ⟨granted_store granted (granted.compensating _ _ _ holds), fun _ => trivial,
        fun _ => delivered⟩
  · next consumer _ _ =>
      have ended := names_modify before.consumers consumer
        AsyncSubscription.registration_endClose
      exact silent_delivers granted delivered
        ⟨fun _ => id, rfl, fun _ _ => id, rfl, nofun, members_refl _, ended⟩ rfl trivial

theorem cancel_delivers (granted : Granted before) (delivered : DeliveredToOwner before)
    (stepped : before.cancel = some after) :
    Granted after ∧ (DeliveredToOwner after ↔ NotStale before .cancel) := by
  unfold cancel at stepped
  split at stepped <;> cases stepped
  · exact silent_delivers granted delivered
      ⟨fun _ => id, rfl, fun _ _ => id, rfl, nofun, members_refl _, rfl⟩ rfl trivial
  · exact silent_delivers granted delivered
      ⟨fun _ => id, rfl, fun _ _ => id, rfl, nofun, members_refl _, rfl⟩ rfl trivial
  · exact silent_delivers granted delivered
      ⟨fun _ => id, rfl, fun _ _ => id, rfl, nofun, members_refl _, rfl⟩ rfl trivial

theorem close_delivers (granted : Granted before) (delivered : DeliveredToOwner before)
    (registration : String) (consumer : Nat) :
    Granted (before.close registration consumer) ∧
      (DeliveredToOwner (before.close registration consumer) ↔
        NotStale before (.close consumer)) := by
  unfold close
  split
  · exact silent_delivers granted delivered (before.retains_updateConsumer consumer
      AsyncSubscription.registration_endClose) rfl trivial
  · next wire _ =>
      have discarded := before.retains_discard wire consumer
      split
      · have ended := retains_updateConsumer (before.discard wire consumer) consumer
          AsyncSubscription.registration_endClose
        exact ⟨(granted.of_retains discarded).of_retains ended, fun _ => trivial,
          fun _ => (delivered.of_retains discarded rfl).of_retains ended rfl⟩
      · have waiting := names_modify before.consumers consumer
          AsyncSubscription.registration_awaitUnsubscribe
        exact silent_delivers granted delivered ⟨fun _ => id, discarded.keys, fun _ _ => id, rfl,
          nofun, discarded.members, waiting⟩ rfl trivial

theorem step_delivers (granted : Granted before) (wellFormed : WellFormed before)
    (delivered : DeliveredToOwner before) {action : RegistryAction Item}
    (stepped : before.step action = some after) :
    Granted after ∧ (DeliveredToOwner after ↔ NotStale before action) := by
  cases action with
  | newSession =>
      cases stepped
      exact silent_delivers granted delivered
        ⟨fun _ => id, rfl, fun _ _ => id, rfl, fun _ _ _ => id, members_refl _, rfl⟩ rfl trivial
  | assign registration subId =>
      simp only [step] at stepped
      split at stepped <;> cases stepped
      exact silent_delivers granted delivered ⟨fun _ => List.mem_append_left _, rfl,
        fun _ _ => id, rfl, fun _ _ _ => id, members_refl _, rfl⟩ rfl trivial
  | publish subId item =>
      cases stepped
      exact ⟨granted.of_retains (before.retains_publish subId item),
        not_stale_publish_iff granted wellFormed subId item delivered⟩
  | subscribe registration =>
      simp only [step] at stepped
      split at stepped <;> cases stepped
      exact subscribe_delivers granted wellFormed delivered registration
  | subscribed session subId => exact subscribed_delivers granted wellFormed delivered stepped
  | subscribeFailed =>
      simp only [step, subscribeFailed] at stepped
      split at stepped <;> cases stepped
      · exact silent_delivers granted delivered
          ⟨fun _ => id, rfl, fun _ _ => id, rfl, (by rintro _ _ _ ⟨⟩), members_refl _, rfl⟩
          rfl trivial
      · next registration _ _ _ remaining _ =>
          have failed := before.retains_failRegistration registration .restore
          refine ⟨(granted.of_retains failed).of_retains (retains_restoreNext _ remaining), ?_⟩
          rw [deliveredToOwner_restoreNext]
          refine ⟨fun _ => trivial, fun _ => delivered.of_retains failed ?_⟩
          unfold failRegistration
          split <;> rfl
  | unsubscribed => exact unsubscribed_delivers granted delivered stepped
  | unsubscribeFailed => exact unsubscribeFailed_delivers granted delivered stepped
  | cancel => exact cancel_delivers granted delivered stepped
  | aclose consumer =>
      cases stepped
      exact silent_delivers granted delivered (before.retains_updateConsumer consumer
        AsyncSubscription.registration_aclose) rfl trivial
  | cleanup consumer =>
      simp only [step] at stepped
      split at stepped <;> cases stepped
      have called := names_modify before.consumers consumer AsyncSubscription.registration_aclose
      exact silent_delivers granted delivered ⟨fun _ => id, rfl, fun _ _ => id, rfl,
        fun _ _ _ => id, members_refl _, called⟩ rfl trivial
  | close consumer =>
      simp only [step] at stepped
      split at stepped
      · cases stepped
      · split at stepped <;> cases stepped
        exact close_delivers granted delivered _ consumer
  | cancelClose consumer =>
      simp only [step] at stepped
      split at stepped <;> cases stepped
      exact silent_delivers granted delivered (before.retains_updateConsumer consumer
        AsyncSubscription.registration_endClose) rfl trivial
  | read consumer =>
      cases stepped
      exact silent_delivers granted delivered (before.retains_updateConsumer consumer
        AsyncSubscription.registration_read) rfl trivial
  | restore =>
      simp only [step] at stepped
      split at stepped <;> cases stepped
      have restoring := before.retains_restoreNext before.registrations
      refine ⟨granted.of_retains restoring, ?_⟩
      rw [deliveredToOwner_restoreNext]
      exact ⟨fun _ => trivial, fun _ => delivered⟩
  | failRegistration registration error =>
      cases stepped
      refine silent_delivers granted delivered
        (before.retains_failRegistration registration error) ?_ trivial
      unfold failRegistration
      split <;> rfl
  | terminate error =>
      cases stepped
      exact silent_delivers granted delivered (before.retains_terminate error) rfl trivial

theorem invariant_granted (capacity : Nat) :
    (system Item capacity).Invariant NotStale fun registry =>
      WellFormed registry ∧ Granted registry ∧ DeliveredToOwner registry := by
  refine (invariant_wellFormed capacity NotStale).strengthen ?_ ?_
  · rintro first isFirst
    cases isFirst
    refine ⟨⟨nofun, fun subId registration mapped => ?_, nofun, nofun⟩, nofun⟩
    change (∅ : Dictionary Nat String).lookup subId = some registration at mapped
    simp at mapped
  · intro current action next wellFormed _ known notStale stepped
    obtain ⟨granted, delivered⟩ := step_delivers known.1 wellFormed known.2 stepped
    exact ⟨granted, delivered.mpr notStale⟩

/-- A run only ever pushes items to the registration that had their id in their
session exactly if no step of it meets a stale mapping or a stale buffered
notification of another registration. -/
theorem along_deliveredToOwner_iff (capacity : Nat) (actions : List (RegistryAction Item)) :
    (system Item capacity).Along DeliveredToOwner { capacity } actions ↔
      (system Item capacity).StepsMeet NotStale { capacity } actions := by
  have invariant := @invariant_granted Item capacity
  apply (system Item capacity).along_iff_stepsMeet
    fun registry => WellFormed registry ∧ Granted registry ∧ DeliveredToOwner registry
  · exact fun registry known => known.2.2
  · exact invariant.preserved
  · intro current action next known stale stepped delivered
    obtain ⟨wellFormed, granted, wasDelivered⟩ := known
    exact stale ((step_delivers granted wellFormed wasDelivered stepped).2.mp delivered)
  · exact invariant.starts _ rfl

/-- After a loss the broker gives the id of "orders" to "prices" and sends an
item for it before "orders" is restored. -/
theorem exists_stale_delivery : ∃ registry : SubscriptionRegistry Unit,
    (system Unit 4).Reachable registry ∧ ¬ DeliveredToOwner registry := by
  obtain ⟨registry, reachable, found⟩ := (system Unit 4).exists_reachable_of_run rfl
    [.subscribe "orders", .assign "orders" 1, .subscribed 0 1, .subscribe "prices",
      .assign "prices" 2, .subscribed 0 2, .newSession, .restore, .assign "prices" 1,
      .publish 1 ()]
    (fun registry => registry.deliveries = [⟨0, 1, (), 1⟩] ∧ registry.names[0]? = some "orders" ∧
      ⟨1, 1, "orders"⟩ ∉ registry.assigned)
    (by decide)
  obtain ⟨delivery, name, notGiven⟩ := of_decide_eq_true found
  refine ⟨registry, reachable, fun delivered => notGiven ?_⟩
  obtain ⟨owner, isOwner, given⟩ := deliveredToOwner_iff.mp delivered ⟨0, 1, (), 1⟩ (by
    rw [delivery]
    exact List.mem_singleton.mpr rfl)
  rw [name] at isOwner
  obtain rfl := Option.some.inj isOwner
  exact given

end SubscriptionRegistry

end FitzClient
