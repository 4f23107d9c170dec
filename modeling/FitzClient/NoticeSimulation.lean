import FitzClient.NoticeClient

/-!
# The notice client and the shared registry

Forgetting the history of a registry gives a notice client, and the operations
of the one are those of the other.  They part in two places only.  A
notification for an id that leads to no wire is buffered by the one and dropped
by the other if the id is still mapped, which inverse tables exclude.  And a
cancelled subscribe holds its lock in the registry, but not in the notice
client.
-/

namespace FitzClient

open SubscriptionRegistry

variable {Item : Type}

/-- A wire of the registry without its history. -/
def WireSubscription.noticeWire (wire : WireSubscription) : NoticeWire where
  subId := wire.subId
  consumers := wire.consumers

/-- What the notice client buffers. -/
def Notification.entry (notification : Notification Item) : Nat × Item :=
  (notification.subId, notification.item)

/-- The operation of a notice client in the same place; a cancelled subscribe
is in none. -/
def RegistryOperation.noticeOperation : RegistryOperation → Option NoticeOperation
  | .subscribing registration _ false => some (.subscribing registration)
  | .closing registration wire consumer _ => some (.closing registration wire consumer)
  | _ => none

/-- The registry without its history. -/
def SubscriptionRegistry.noticeClient (registry : SubscriptionRegistry Item) :
    NoticeClient Item where
  bufferSize := registry.capacity
  wires := registry.wires.map (·.noticeWire)
  byPattern := registry.byRegistration
  patternById := registry.byId
  consumers := registry.consumers
  cleanupTasks := registry.cleanupTasks
  pendingNotifications := registry.pendingNotifications.map (·.entry)
  holder := registry.holder.bind (·.noticeOperation)
  deliveries := registry.deliveries.map fun delivery =>
    (delivery.consumer, delivery.notification.item)

namespace SubscriptionRegistry

theorem map_modify {First Second : Type} (cells : List First) (index : Nat)
    {update : First → First} {transform : First → Second} {updated : Second → Second}
    (same : ∀ cell, transform (update cell) = updated (transform cell)) :
    (cells.modify index update).map transform = (cells.map transform).modify index updated := by
  apply List.ext_getElem?
  intro other
  simp only [List.getElem?_map, List.getElem?_modify]
  cases cells[other]? with
  | none => rfl
  | some cell =>
      by_cases touched : index = other
      · simp [touched, same]
      · simp [touched]

theorem noticeClient_updateConsumer (registry : SubscriptionRegistry Item) (consumer : Nat)
    (update : AsyncSubscription Item → AsyncSubscription Item) :
    (registry.updateConsumer consumer update).noticeClient =
      registry.noticeClient.updateConsumer consumer update :=
  rfl

theorem noticeClient_pushTo (registry : SubscriptionRegistry Item) (targets : List Nat)
    (notification : Notification Item) :
    (registry.pushTo targets notification).noticeClient =
      registry.noticeClient.pushTo targets notification.item := by
  simp [noticeClient, pushTo, NoticeClient.pushTo]

theorem noticeClient_foldl_pushTo (registry : SubscriptionRegistry Item) (targets : List Nat)
    (notifications : List (Notification Item)) :
    (notifications.foldl (pushTo · targets ·) registry).noticeClient =
      (notifications.map (·.entry)).foldl (fun client entry => client.pushTo targets entry.2)
        registry.noticeClient := by
  induction notifications generalizing registry with
  | nil => rfl
  | cons notification notifications ih =>
      rw [List.foldl_cons, ih, noticeClient_pushTo]
      rfl

theorem filter_pendingNotifications (registry : SubscriptionRegistry Item) (test : Nat → Bool) :
    registry.noticeClient.pendingNotifications.filter (fun entry => test entry.1) =
      (registry.pendingNotifications.filter (fun notification => test notification.subId)).map
        (·.entry) :=
  List.filter_map ..

theorem noticeClient_flushPending (registry : SubscriptionRegistry Item) (wire : Nat) :
    (registry.flushPending wire).noticeClient = registry.noticeClient.flushPending wire := by
  have inStore : registry.noticeClient.wires[wire]? =
      registry.wires[wire]?.map (·.noticeWire) := List.getElem?_map ..
  unfold flushPending NoticeClient.flushPending
  rw [inStore]
  cases registry.wires[wire]? with
  | none => rfl
  | some state =>
      have pushed := noticeClient_foldl_pushTo registry state.consumers
        (registry.pendingNotifications.filter (·.subId = state.subId))
      have flushed := filter_pendingNotifications registry (decide <| · = state.subId)
      have kept := filter_pendingNotifications registry (decide <| · ≠ state.subId)
      simp only [Option.map_some, WireSubscription.noticeWire]
      rw [flushed, kept, ← pushed]
      rfl

theorem noticeClient_join (registry : SubscriptionRegistry Item) (registration : String)
    (wire : Nat) :
    (registry.join registration wire).noticeClient =
      registry.noticeClient.attach registration wire := by
  have enrolled : (registry.enroll registration wire).noticeClient = { registry.noticeClient with
      consumers := registry.consumers ++ [{ registration }]
      wires := registry.noticeClient.wires.modify wire fun state =>
        { state with consumers := state.consumers ++ [registry.consumers.length] } } := by
    simp only [enroll, noticeClient, NoticeClient.mk.injEq, true_and, and_true]
    exact map_modify registry.wires wire fun _ => rfl
  rw [join, noticeClient_flushPending, enrolled]
  rfl

theorem noticeClient_subscribe (registry : SubscriptionRegistry Item) (registration : String) :
    (registry.subscribe registration).noticeClient =
      registry.noticeClient.openSubscription registration := by
  have sameTable : registry.noticeClient.byPattern = registry.byRegistration := rfl
  unfold subscribe NoticeClient.openSubscription
  rw [sameTable]
  cases registry.byRegistration.lookup registration with
  | none => rfl
  | some wire => exact noticeClient_join registry registration wire

theorem noticeClient_subscribed (registry : SubscriptionRegistry Item) (registration : String)
    (subId session : Nat) :
    ({ registry.store registration subId session with holder := none }.join registration
      registry.wires.length).noticeClient =
      registry.noticeClient.subscribed registration subId := by
  rw [noticeClient_join, NoticeClient.subscribed]
  have length : registry.noticeClient.wires.length = registry.wires.length := List.length_map ..
  have stored : { registry.store registration subId session with holder := none }.noticeClient =
      { registry.noticeClient with
        wires := registry.noticeClient.wires ++ [({ subId } : NoticeWire)]
        byPattern := registry.byRegistration.insert registration registry.wires.length
        patternById := registry.byId.insert subId registration
        holder := none } := by
    simp [store, noticeClient, WireSubscription.noticeWire]
  rw [stored, length]
  rfl

theorem noticeClient_discard (registry : SubscriptionRegistry Item) (wire consumer : Nat) :
    (registry.discard wire consumer).noticeClient =
      registry.noticeClient.discard wire consumer := by
  simp only [discard, NoticeClient.discard, noticeClient, NoticeClient.mk.injEq, true_and,
    and_true]
  exact map_modify registry.wires wire fun _ => rfl

theorem noticeClient_close (registry : SubscriptionRegistry Item) (registration : String)
    (consumer : Nat) :
    (registry.close registration consumer).noticeClient =
      registry.noticeClient.close registration consumer := by
  have sameTable : registry.noticeClient.byPattern = registry.byRegistration := rfl
  have remain : ∀ wire, (registry.discard wire consumer).noticeClient.wires[wire]?.any
      (·.consumers ≠ []) = (registry.discard wire consumer).wires[wire]?.any
        (·.consumers ≠ []) := by
    intro wire
    change ((registry.discard wire consumer).wires.map (·.noticeWire))[wire]?.any _ = _
    rw [List.getElem?_map]
    cases (registry.discard wire consumer).wires[wire]? <;> rfl
  unfold close NoticeClient.close
  rw [sameTable]
  cases registry.byRegistration.lookup registration with
  | none => rfl
  | some wire =>
      simp only [← noticeClient_discard, remain]
      split
      · rfl
      · rfl

theorem noticeClient_deliver {registry : SubscriptionRegistry Item} {wire : Nat}
    {state : WireSubscription} (found : registry.wires[wire]? = some state)
    (notification : Notification Item) :
    (registry.deliver wire notification).noticeClient =
      { registry.noticeClient.pushTo state.consumers notification.item with
        wires := registry.noticeClient.wires.modify wire fun state =>
          { state with
            consumers := state.consumers.filter
              (!registry.noticeClient.refuses notification.item ·) }
        cleanupTasks := registry.noticeClient.cleanupTasks ++
          state.consumers.filter (registry.noticeClient.refuses notification.item ·) } := by
  have pushed := noticeClient_pushTo registry state.consumers notification
  simp only [deliver, found]
  rw [← pushed]
  simp only [noticeClient, NoticeClient.mk.injEq, true_and]
  exact ⟨map_modify registry.wires wire fun _ => rfl, rfl, trivial⟩

/-- Inverse tables lead from every id to its wire. -/
theorem noticeClient_publish {registry : SubscriptionRegistry Item}
    (inverse : registry.Inverse) (subId : Nat) (item : Item) :
    (registry.publish subId item).noticeClient = registry.noticeClient.notify subId item := by
  have sameTables : (registry.noticeClient.patternById.lookup subId).bind
      registry.noticeClient.byPattern.lookup =
        (registry.byId.lookup subId).bind registry.byRegistration.lookup := rfl
  unfold publish NoticeClient.notify
  rw [sameTables]
  cases mapped : registry.byId.lookup subId with
  | none =>
      simp only [Option.bind_none]
      simp [buffer, noticeClient, Notification.entry, List.map_drop]
  | some registration =>
      obtain ⟨state, registered, -⟩ := (inverse subId registration).mp mapped
      obtain ⟨wire, leads, inStore⟩ := Option.bind_eq_some_iff.mp registered
      have noticeStore : registry.noticeClient.wires[wire]? = some state.noticeWire := by
        change (registry.wires.map (·.noticeWire))[wire]? = _
        rw [List.getElem?_map, inStore]
        rfl
      simp only [Option.bind_some, leads, noticeStore]
      exact noticeClient_deliver inStore { subId, item, session := registry.session }

end SubscriptionRegistry

namespace SubscriberPair

variable {pair after : SubscriberPair Item}

/-- No event cancels a task whose request the broker accepts. -/
theorem mirrors_handle {brokered next : BrokeredRegistry Item} {event : SubscriptionEvent Item}
    (mirrors : brokered.Mirrors) (handled : brokered.handle event = some next) : next.Mirrors := by
  have spared : ∀ action, BrokeredRegistry.SparesAccepted brokered action →
      brokered.step action = some next → next.Mirrors :=
    fun _ spares => BrokeredRegistry.mirrors_step mirrors spares
  cases event with
  | subscribe pattern => exact spared (.subscribe pattern) trivial handled
  | cancelSubscribe =>
      simp only [BrokeredRegistry.handle] at handled
      split at handled
      · exact spared .cancel trivial handled
      · cases handled
  | aclose consumer => exact spared (.aclose consumer) trivial handled
  | cleanup consumer => exact spared (.cleanup consumer) trivial handled
  | close consumer => exact spared (.close consumer) trivial handled
  | read consumer => exact spared (.read consumer) trivial handled
  | notify subId item => exact spared (.publish subId item) trivial handled
  | answer outcome => exact spared (.answer outcome) trivial handled

/-- The SUBSCRIBE that the notice client has abandoned. -/
def abandonedBy : Option RegistryOperation → List String
  | some (.subscribing registration _ true) => [registration]
  | _ => []

/-- The notice client is the registry without its history, and the brokers
hold the same subscriptions. -/
structure Simulates (pair : SubscriberPair Item) : Prop where
  client : pair.noticed.client = pair.brokered.registry.noticeClient
  abandoned : pair.noticed.abandoned = abandonedBy pair.brokered.registry.holder
  live : InverseTables (fun pattern => pair.brokered.live.lookup pattern)
    (fun subId => pair.noticed.live.lookup subId)
  given : pair.noticed.given = pair.brokered.registry.assigned.map fun assignment =>
    (assignment.subId, assignment.registration)
  session : ∀ assignment ∈ pair.brokered.registry.assigned,
    assignment.session = pair.brokered.registry.session
  since : ∀ registration since cancelled,
    pair.brokered.registry.holder = some (.subscribing registration since cancelled) →
    since ≤ pair.brokered.registry.session
  mapped : ∀ subId registration, pair.brokered.registry.byId.lookup subId = some registration →
    { session := pair.brokered.registry.session, subId, registration } ∈
      pair.brokered.registry.assigned
  notCompensating : ∀ registration subId session,
    pair.brokered.registry.holder ≠ some (.compensating registration subId session)
  mirrors : pair.brokered.Mirrors
  inverse : pair.brokered.registry.InverseHeld

/-- An operation that touches consumers and the buffer only. -/
theorem Simulates.locally (simulates : Simulates pair) {registry : SubscriptionRegistry Item}
    (same : SameTables pair.brokered.registry registry)
    (assigned : registry.assigned = pair.brokered.registry.assigned)
    (session : registry.session = pair.brokered.registry.session) :
    Simulates {
      noticed := { pair.noticed with client := registry.noticeClient }
      brokered := { pair.brokered with registry } } where
  client := rfl
  abandoned := by
    rw [same.holder]
    exact simulates.abandoned
  live := simulates.live
  given := by
    rw [assigned]
    exact simulates.given
  session := by
    rw [assigned, session]
    exact simulates.session
  since := by
    rw [same.holder, session]
    exact simulates.since
  mapped := by
    rw [same.byId, session, assigned]
    exact simulates.mapped
  notCompensating := by
    rw [same.holder]
    exact simulates.notCompensating
  mirrors := simulates.mirrors.of_sameTables same
  inverse := simulates.inverse.of_sameTables same

/-- Neither client is in an operation, or both are. -/
theorem Simulates.holder_eq_none_iff (simulates : Simulates pair)
    (attended : ∀ registration since,
      pair.brokered.registry.holder ≠ some (.subscribing registration since true)) :
    pair.noticed.client.holder = none ↔ pair.brokered.registry.holder = none := by
  rw [simulates.client]
  change pair.brokered.registry.holder.bind (·.noticeOperation) = none ↔ _
  cases holds : pair.brokered.registry.holder with
  | none => simp
  | some operation =>
      cases operation with
      | subscribing registration since cancelled =>
          cases cancelled with
          | false => simp [RegistryOperation.noticeOperation]
          | true => exact (attended registration since holds).elim
      | compensating registration subId session =>
          exact (simulates.notCompensating registration subId session holds).elim
      | closing registration wire consumer cancelled =>
          simp [RegistryOperation.noticeOperation]
      | restoring registration wire oldId since remaining =>
          exact (simulates.mirrors.notRestoring _ _ _ _ _ holds).elim

/-- Where the registry allows no other event, the notice client does not
either. -/
theorem simulates_of_steps {noticed : BrokeredNotice Item} {brokered : BrokeredRegistry Item}
    {event : SubscriptionEvent Item} (simulates : Simulates ⟨noticed, brokered⟩)
    (agree : (noticed.step event = none ∧ brokered.handle event = none) ∨
      ∃ nextNoticed nextBrokered, noticed.step event = some nextNoticed ∧
        brokered.handle event = some nextBrokered ∧ Simulates ⟨nextNoticed, nextBrokered⟩)
    (stepped : step ⟨noticed, brokered⟩ event = some after) : Simulates after := by
  cases stepped
  rcases agree with ⟨first, second⟩ | ⟨nextNoticed, nextBrokered, first, second, next⟩
  · simp only [first, second]
    exact simulates
  · simp only [first, second]
    exact next

/-- An operation takes the lock or joins at once, with the same tables. -/
theorem Simulates.taken (simulates : Simulates pair) {registry : SubscriptionRegistry Item}
    (byId : registry.byId = pair.brokered.registry.byId)
    (assigned : registry.assigned = pair.brokered.registry.assigned)
    (session : registry.session = pair.brokered.registry.session)
    (holder : ∀ operation, registry.holder = some operation →
      (∃ registration, operation = .subscribing registration registry.session false) ∨
        ∃ registration wire consumer, operation = .closing registration wire consumer false)
    (idle : pair.brokered.registry.holder = none)
    (mirrors : BrokeredRegistry.Mirrors { pair.brokered with registry })
    (inverse : registry.InverseHeld) :
    Simulates {
      noticed := { pair.noticed with client := registry.noticeClient }
      brokered := { pair.brokered with registry } } where
  client := rfl
  abandoned := by
    have nothing := simulates.abandoned
    rw [idle] at nothing
    change pair.noticed.abandoned = abandonedBy registry.holder
    rw [nothing]
    cases holds : registry.holder with
    | none => rfl
    | some operation =>
        rcases holder operation holds with ⟨registration, rfl⟩ | ⟨registration, wire, consumer, rfl⟩
        · rfl
        · rfl
  live := simulates.live
  given := by
    rw [assigned]
    exact simulates.given
  session := by
    rw [assigned, session]
    exact simulates.session
  since registration since cancelled holds := by
    rcases holder _ holds with ⟨other, same⟩ | ⟨other, wire, consumer, same⟩
    · cases same
      exact le_refl _
    · cases same
  mapped := by
    rw [byId, session, assigned]
    exact simulates.mapped
  notCompensating registration subId session holds := by
    rcases holder _ holds with ⟨other, same⟩ | ⟨other, wire, consumer, same⟩
    · cases same
    · cases same
  mirrors := mirrors
  inverse := inverse

theorem simulates_subscribe (simulates : Simulates pair) {pattern : String}
    (spares : SparesSubscribe pair (.subscribe pattern))
    (stepped : step pair (.subscribe pattern) = some after) : Simulates after := by
  refine simulates_of_steps simulates ?_ stepped
  have idleIff := simulates.holder_eq_none_iff fun registration since holds =>
    spares registration since holds
  by_cases idle : pair.brokered.registry.holder = none
  · have handled : pair.brokered.handle (.subscribe pattern) = some
        { pair.brokered with registry := pair.brokered.registry.subscribe pattern } := by
      simp only [BrokeredRegistry.handle, BrokeredRegistry.step, BrokeredRegistry.runLocal,
        SubscriptionRegistry.step, if_pos idle, Option.map_some]
    have opened : pair.noticed.step (.subscribe pattern) = some { pair.noticed with
        client := (pair.brokered.registry.subscribe pattern).noticeClient } := by
      rw [noticeClient_subscribe, ← simulates.client]
      simp only [BrokeredNotice.step, if_pos (idleIff.mpr idle)]
    refine Or.inr ⟨_, _, opened, handled, ?_⟩
    have mirrors := mirrors_handle simulates.mirrors handled
    have inverse := inverseHeld_subscribe simulates.inverse pattern
    cases registered : pair.brokered.registry.byRegistration.lookup pattern with
    | none =>
        have waits : pair.brokered.registry.subscribe pattern = { pair.brokered.registry with
            holder := some (.subscribing pattern pair.brokered.registry.session false) } := by
          simp only [SubscriptionRegistry.subscribe, registered]
        rw [waits] at mirrors inverse ⊢
        refine simulates.taken rfl rfl rfl (fun operation holds => ?_) idle mirrors inverse
        cases holds
        exact Or.inl ⟨pattern, rfl⟩
    | some wire =>
        have joins : pair.brokered.registry.subscribe pattern =
            pair.brokered.registry.join pattern wire := by
          simp only [SubscriptionRegistry.subscribe, registered]
        have tables := pair.brokered.registry.sameTables_join pattern wire
        obtain ⟨assigned, session⟩ := pair.brokered.registry.ledger_join pattern wire
        rw [joins]
        exact simulates.locally tables assigned session
  · refine Or.inl ⟨?_, ?_⟩
    · simp only [BrokeredNotice.step, if_neg (fun none => idle (idleIff.mp none))]
    · simp only [BrokeredRegistry.handle, BrokeredRegistry.step, BrokeredRegistry.runLocal,
        SubscriptionRegistry.step, if_neg idle, Option.map_none]

theorem exists_close {registry : SubscriptionRegistry Item} (idle : registry.holder = none)
    (registration : String) (consumer : Nat) : ∃ wires consumers holder,
      registry.close registration consumer = { registry with wires, consumers, holder } ∧
        ∀ operation, holder = some operation →
          ∃ wire, operation = .closing registration wire consumer false := by
  unfold SubscriptionRegistry.close
  split
  · exact ⟨_, _, _, rfl, fun _ holds => by rw [idle] at holds; cases holds⟩
  · next wire _ =>
      split
      · exact ⟨_, _, _, rfl, fun _ holds => by
          change registry.holder = _ at holds
          rw [idle] at holds
          cases holds⟩
      · exact ⟨_, _, _, rfl, fun _ holds => by
          cases holds
          exact ⟨wire, rfl⟩⟩

theorem simulates_close (simulates : Simulates pair) {consumer : Nat}
    (spares : SparesSubscribe pair (.close consumer))
    (stepped : step pair (.close consumer) = some after) : Simulates after := by
  refine simulates_of_steps simulates ?_ stepped
  have idleIff := simulates.holder_eq_none_iff fun registration since holds =>
    spares registration since holds
  have sameConsumers : pair.noticed.client.consumers = pair.brokered.registry.consumers := by
    rw [simulates.client]
    rfl
  cases isConsumer : pair.brokered.registry.consumers[consumer]? with
  | none =>
      refine Or.inl ⟨?_, ?_⟩
      · simp only [BrokeredNotice.step, sameConsumers, isConsumer]
      · simp only [BrokeredRegistry.handle, BrokeredRegistry.step, BrokeredRegistry.runLocal,
          SubscriptionRegistry.step, isConsumer, Option.map_none]
  | some subscription =>
      by_cases enabled : pair.brokered.registry.holder = none ∧ subscription.closing = .waiting
      · have handled : pair.brokered.handle (.close consumer) = some { pair.brokered with
            registry := pair.brokered.registry.close subscription.registration consumer } := by
          simp only [BrokeredRegistry.handle, BrokeredRegistry.step, BrokeredRegistry.runLocal,
            SubscriptionRegistry.step, isConsumer, if_pos enabled, Option.map_some]
        have closed : pair.noticed.step (.close consumer) = some { pair.noticed with
            client := (pair.brokered.registry.close subscription.registration
              consumer).noticeClient } := by
          rw [noticeClient_close, ← simulates.client]
          simp only [BrokeredNotice.step, sameConsumers, isConsumer,
            if_pos (And.intro (idleIff.mpr enabled.1) enabled.2)]
        refine Or.inr ⟨_, _, closed, handled, ?_⟩
        have mirrors := mirrors_handle simulates.mirrors handled
        have inverse := inverseHeld_close simulates.inverse subscription.registration consumer
        obtain ⟨wires, consumers, holder, same, closing⟩ :=
          exists_close enabled.1 subscription.registration consumer
        rw [same] at mirrors inverse ⊢
        refine simulates.taken rfl rfl rfl (fun operation holds => Or.inr ?_) enabled.1 mirrors
          inverse
        obtain ⟨wire, isClosing⟩ := closing operation holds
        exact ⟨_, wire, consumer, isClosing⟩
      · refine Or.inl ⟨?_, ?_⟩
        · simp only [BrokeredNotice.step, sameConsumers, isConsumer]
          exact if_neg fun both => enabled ⟨idleIff.mp both.1, both.2⟩
        · simp only [BrokeredRegistry.handle, BrokeredRegistry.step, BrokeredRegistry.runLocal,
            SubscriptionRegistry.step, isConsumer, if_neg enabled, Option.map_none]

/-- An event that changes both clients alike. -/
theorem simulates_local (simulates : Simulates pair) {event : SubscriptionEvent Item}
    {registry : SubscriptionRegistry Item} (same : SameTables pair.brokered.registry registry)
    (assigned : registry.assigned = pair.brokered.registry.assigned)
    (session : registry.session = pair.brokered.registry.session)
    (noticed : pair.noticed.step event =
      some { pair.noticed with client := registry.noticeClient })
    (handled : pair.brokered.handle event = some { pair.brokered with registry })
    (stepped : step pair event = some after) : Simulates after :=
  simulates_of_steps simulates
    (Or.inr ⟨_, _, noticed, handled, simulates.locally same assigned session⟩) stepped

theorem simulates_updateConsumer (simulates : Simulates pair) {event : SubscriptionEvent Item}
    {consumer : Nat} {update : AsyncSubscription Item → AsyncSubscription Item}
    (noticed : pair.noticed.step event =
      some { pair.noticed with client := pair.noticed.client.updateConsumer consumer update })
    (handled : pair.brokered.handle event = some { pair.brokered with
      registry := pair.brokered.registry.updateConsumer consumer update })
    (stepped : step pair event = some after) : Simulates after := by
  rw [simulates.client, ← noticeClient_updateConsumer] at noticed
  exact simulates_local simulates (sameTables_updateConsumer _ _ _) rfl rfl noticed handled stepped

theorem simulates_cleanup (simulates : Simulates pair) {consumer : Nat}
    (stepped : step pair (.cleanup consumer) = some after) : Simulates after := by
  have sameTasks : pair.noticed.client.cleanupTasks = pair.brokered.registry.cleanupTasks := by
    rw [simulates.client]
    rfl
  by_cases member : consumer ∈ pair.brokered.registry.cleanupTasks
  · let registry := { pair.brokered.registry with
      cleanupTasks := pair.brokered.registry.cleanupTasks.erase consumer
      }.updateConsumer consumer AsyncSubscription.aclose
    have handled : pair.brokered.handle (.cleanup consumer) =
        some { pair.brokered with registry } := by
      simp only [BrokeredRegistry.handle, BrokeredRegistry.step, BrokeredRegistry.runLocal,
        SubscriptionRegistry.step, if_pos member, Option.map_some, registry]
    have cleaned : pair.noticed.step (.cleanup consumer) =
        some { pair.noticed with client := registry.noticeClient } := by
      simp only [BrokeredNotice.step, sameTasks, if_pos member]
      rw [simulates.client]
      rfl
    have same : SameTables pair.brokered.registry registry := ⟨rfl, rfl, rfl, rfl, rfl⟩
    exact simulates_local simulates same rfl rfl cleaned handled stepped
  · refine simulates_of_steps simulates (Or.inl ⟨?_, ?_⟩) stepped
    · simp only [BrokeredNotice.step, sameTasks, if_neg member]
    · simp only [BrokeredRegistry.handle, BrokeredRegistry.step, BrokeredRegistry.runLocal,
        SubscriptionRegistry.step, if_neg member, Option.map_none]

theorem ledger_publish (registry : SubscriptionRegistry Item) (subId : Nat) (item : Item) :
    (registry.publish subId item).assigned = registry.assigned ∧
      (registry.publish subId item).session = registry.session := by
  unfold publish
  split
  · exact ⟨rfl, rfl⟩
  · split
    · exact ⟨rfl, rfl⟩
    · unfold deliver
      split
      · exact ⟨rfl, rfl⟩
      · exact ⟨rfl, rfl⟩

theorem simulates_notify (simulates : Simulates pair) {subId : Nat} {item : Item}
    (stepped : step pair (.notify subId item) = some after) : Simulates after := by
  obtain ⟨assigned, session⟩ := ledger_publish pair.brokered.registry subId item
  refine simulates_local simulates (sameTables_publish _ subId item) assigned session ?_ rfl
    stepped
  rw [noticeClient_publish simulates.inverse.inverse, ← simulates.client]
  rfl

theorem simulates_cancelSubscribe (simulates : Simulates pair)
    (stepped : step pair .cancelSubscribe = some after) : Simulates after := by
  refine simulates_of_steps simulates ?_ stepped
  have noticed : pair.noticed.client.holder =
      pair.brokered.registry.holder.bind (·.noticeOperation) := by
    rw [simulates.client]
    rfl
  cases holds : pair.brokered.registry.holder with
  | none =>
      rw [holds] at noticed
      refine Or.inl ⟨?_, ?_⟩
      · simp only [BrokeredNotice.step, noticed, Option.bind_none]
      · simp only [BrokeredRegistry.handle, holds]
  | some operation =>
      rw [holds, Option.bind_some] at noticed
      cases operation with
      | subscribing registration since cancelled =>
          cases cancelled with
          | false =>
              have handled : pair.brokered.handle .cancelSubscribe = some { pair.brokered with
                  registry := { pair.brokered.registry with
                    holder := some (.subscribing registration since true) } } := by
                simp only [BrokeredRegistry.handle, holds, BrokeredRegistry.step,
                  BrokeredRegistry.runLocal, SubscriptionRegistry.step,
                  SubscriptionRegistry.cancel, Option.map_some]
              have nothing : pair.noticed.abandoned = [] := by
                rw [simulates.abandoned, holds]
                rfl
              have released : pair.noticed.step .cancelSubscribe = some { pair.noticed with
                  client := pair.noticed.client.release
                  abandoned := [registration] } := by
                simp only [BrokeredNotice.step, noticed, RegistryOperation.noticeOperation,
                  nothing, List.nil_append]
              refine Or.inr ⟨_, _, released, handled, ?_⟩
              refine ⟨?_, rfl, simulates.live, simulates.given, simulates.session,
                fun other at_ _ suspended => ?_, simulates.mapped, (by rintro _ _ _ ⟨⟩),
                mirrors_handle simulates.mirrors handled,
                InverseHeld.of_inverse (simulates.inverse.inverse.congr rfl rfl rfl)
                  (by rintro _ _ _ _ ⟨⟩)⟩
              · rw [simulates.client]
                rfl
              · cases suspended
                exact simulates.since registration since false holds
          | true =>
              refine Or.inl ⟨?_, ?_⟩
              · simp only [BrokeredNotice.step, noticed, RegistryOperation.noticeOperation]
              · simp only [BrokeredRegistry.handle, holds, BrokeredRegistry.step,
                  BrokeredRegistry.runLocal, SubscriptionRegistry.step,
                  SubscriptionRegistry.cancel, Option.map_none]
      | compensating registration subId session =>
          exact (simulates.notCompensating _ _ _ holds).elim
      | closing registration wire consumer cancelled =>
          refine Or.inl ⟨?_, ?_⟩
          · simp only [BrokeredNotice.step, noticed, RegistryOperation.noticeOperation]
          · simp only [BrokeredRegistry.handle, holds]
      | restoring registration wire oldId since remaining =>
          exact (simulates.mirrors.notRestoring _ _ _ _ _ holds).elim

/-- The lock is released while the tables stay. -/
theorem Simulates.released (simulates : Simulates pair)
    (mirrors : BrokeredRegistry.Mirrors { pair.brokered with
      registry := { pair.brokered.registry with holder := none } }) :
    Simulates {
      noticed := { pair.noticed with
        client := { pair.brokered.registry with holder := none }.noticeClient
        abandoned := [] }
      brokered := { pair.brokered with
        registry := { pair.brokered.registry with holder := none } } } where
  client := rfl
  abandoned := rfl
  live := simulates.live
  given := simulates.given
  session := simulates.session
  since := nofun
  mapped := simulates.mapped
  notCompensating := nofun
  mirrors := mirrors
  inverse := InverseHeld.of_inverse (simulates.inverse.inverse.congr rfl rfl rfl) nofun

theorem Simulates.live_eq_idOf (simulates : Simulates pair) :
    (fun pattern => pair.brokered.live.lookup pattern) = pair.brokered.registry.idOf := by
  rw [simulates.mirrors.live]
  exact BrokeredRegistry.expected_eq_idOf simulates.notCompensating

theorem Simulates.available_iff (simulates : Simulates pair) {pattern : String} {subId : Nat} :
    pair.noticed.Available pattern subId ↔
      ∀ assignment ∈ pair.brokered.registry.assigned,
        assignment.session = pair.brokered.registry.session → assignment.subId = subId →
          assignment.registration = pattern := by
  rw [BrokeredNotice.Available, simulates.given]
  simp only [List.forall_mem_map]
  exact ⟨fun alone assignment member _ => alone assignment member,
    fun alone assignment member => alone assignment member (simulates.session assignment member)⟩

/-- The broker accepts the SUBSCRIBE of both clients. -/
theorem Simulates.granted (simulates : Simulates pair) {pattern : String} {since subId : Nat}
    (holds : pair.brokered.registry.holder = some (.subscribing pattern since false))
    (available : pair.noticed.Available pattern subId) :
    ∃ brokered, pair.brokered.handle (.answer (.granted subId)) = some brokered ∧
      Simulates {
        noticed := { pair.noticed.grant pattern subId with
          client := pair.noticed.client.subscribed pattern subId }
        brokered } := by
  let registry := pair.brokered.registry
  let assigned : SubscriptionRegistry Item := { registry with
    assigned := registry.assigned ++
      [{ session := registry.session, subId, registration := pattern }] }
  let stored : SubscriptionRegistry Item :=
    { assigned.store pattern subId registry.session with holder := none }
  let joined := stored.join pattern assigned.wires.length
  have alone := simulates.available_iff.mp available
  have isAssigned : registry.step (.assign pattern subId) = some assigned := by
    simp only [SubscriptionRegistry.step]
    exact if_pos alone
  have member : { session := registry.session, subId, registration := pattern } ∈
      assigned.assigned := List.mem_append_right _ (List.mem_singleton.mpr rfl)
  have given : since ≤ registry.session ∧
      { session := registry.session, subId, registration := pattern } ∈ assigned.assigned :=
    ⟨simulates.since pattern since false holds, member⟩
  have isJoined : assigned.step (.subscribed registry.session subId) = some joined := by
    have holdsStill : assigned.holder = some (.subscribing pattern since false) := holds
    simp only [SubscriptionRegistry.step, SubscriptionRegistry.subscribed, holdsStill,
      if_pos given]
    rfl
  have handled : pair.brokered.handle (.answer (.granted subId)) =
      some { registry := joined, live := pair.brokered.live.insert pattern subId } := by
    have learned : BrokeredRegistry.learn registry (.subscribe pattern) (.granted subId) =
        some joined := by
      simp only [BrokeredRegistry.learn, isAssigned, Option.bind_some, isJoined]
    simp only [BrokeredRegistry.handle, BrokeredRegistry.step, holds, BrokeredRegistry.resolve,
      RegistryOperation.request, WireRequest.effect]
    rw [learned]
  have absent : registry.byRegistration.lookup pattern = none :=
    simulates.mirrors.wellFormed.holder _ holds
  have free : ∀ other, registry.idOf other ≠ some subId := by
    intro other hasId
    obtain ⟨state, registered, sameId⟩ := Option.map_eq_some_iff.mp hasId
    have mapped := (simulates.inverse.inverse subId other).mpr ⟨state, registered, sameId⟩
    have same : other = pattern := alone _ (simulates.mapped subId other mapped) rfl rfl
    rw [same, wireOf, absent] at registered
    cases registered
  have wellFormed : assigned.WellFormed :=
    wellFormed_step simulates.mirrors.wellFormed isAssigned
  have admitted : StoresFreeId assigned (.subscribed registry.session subId) := by
    have holdsStill : assigned.holder = some (.subscribing pattern since false) := holds
    simp only [StoresFreeId, holdsStill]
    exact fun other _ => free other
  have inverse : joined.InverseHeld := inverseHeld_step
    (inverseHeld_step simulates.inverse simulates.mirrors.wellFormed (by trivial) isAssigned)
    wellFormed admitted isJoined
  have tables := stored.sameTables_join pattern assigned.wires.length
  obtain ⟨ledger, session⟩ := stored.ledger_join pattern assigned.wires.length
  refine ⟨_, handled, ?_, ?_, ?_, ?_, ?_, ?_, ?_, ?_, mirrors_handle simulates.mirrors handled,
    inverse⟩
  · have joinedClient := noticeClient_subscribed assigned pattern subId registry.session
    change pair.noticed.client.subscribed pattern subId = joined.noticeClient
    rw [simulates.client]
    exact joinedClient.symm
  · have nothing := simulates.abandoned
    rw [holds] at nothing
    change pair.noticed.abandoned = abandonedBy joined.holder
    rw [tables.holder]
    exact nothing
  · have unset : pair.brokered.live.lookup pattern = none := by
      rw [congrFun simulates.live_eq_idOf pattern]
      exact idOf_eq_none absent
    have assignedLive := simulates.live.assign unset fun other => by
      rw [congrFun simulates.live_eq_idOf other]
      exact free other
    rw [← Dictionary.lookup_insert_eq_update, ← Dictionary.lookup_insert_eq_update]
      at assignedLive
    exact assignedLive
  · change pair.noticed.given ++ [(subId, pattern)] = joined.assigned.map _
    rw [ledger, simulates.given]
    change _ = (registry.assigned ++ [_]).map _
    rw [List.map_append]
    rfl
  · intro assignment isMember
    rw [ledger] at isMember
    rw [session]
    rcases List.mem_append.mp isMember with old | new
    · exact simulates.session assignment old
    · rw [List.mem_singleton.mp new]
      rfl
  · intro other at_ cancelled suspended
    change joined.holder = _ at suspended
    rw [tables.holder] at suspended
    cases suspended
  · intro other name found
    change joined.byId.lookup other = some name at found
    change _ ∈ joined.assigned
    rw [tables.byId] at found
    rw [session, ledger]
    rcases Dictionary.lookup_insert_eq_some.mp found with ⟨rfl, rfl⟩ | ⟨-, old⟩
    · exact member
    · exact List.mem_append_left _ (simulates.mapped other name old)
  · intro other at_ session suspended
    change joined.holder = _ at suspended
    rw [tables.holder] at suspended
    cases suspended

/-- The broker accepts the UNSUBSCRIBE of both clients. -/
theorem Simulates.removed (simulates : Simulates pair) {pattern : String} {wire consumer : Nat}
    {cancelled : Bool}
    (holds : pair.brokered.registry.holder = some (.closing pattern wire consumer cancelled)) :
    ∃ brokered, pair.brokered.handle (.answer .removed) = some brokered ∧
      Simulates {
        noticed := { pair.noticed with
          live := pair.noticed.live.erase (pair.noticed.client.idOf wire)
          client := pair.noticed.client.unsubscribed pattern wire consumer }
        brokered } := by
  let registry := pair.brokered.registry
  obtain ⟨⟨state, inStore, -⟩, -⟩ := simulates.mirrors.wellFormed.holder _ holds
  have registered := simulates.mirrors.closing pattern wire consumer cancelled holds
  have closingId : pair.noticed.client.idOf wire = state.subId := by
    rw [simulates.client]
    change ((registry.wires.map (·.noticeWire))[wire]?.map (·.subId)).getD 0 = _
    rw [List.getElem?_map, inStore]
    rfl
  have byId : (registry.forget pattern wire).byId = registry.byId.erase state.subId := by
    simp only [forget, registry, inStore]
  let forgotten : SubscriptionRegistry Item :=
    { registry.forget pattern wire with holder := none }.updateConsumer consumer
      AsyncSubscription.endClose
  have unsubscribes : registry.step .unsubscribed = some forgotten := by
    simp only [SubscriptionRegistry.step, SubscriptionRegistry.unsubscribed, registry, holds]
    rfl
  have handled : pair.brokered.handle (.answer .removed) =
      some { registry := forgotten, live := pair.brokered.live.erase pattern } := by
    simp only [BrokeredRegistry.handle, BrokeredRegistry.step, holds, BrokeredRegistry.resolve,
      RegistryOperation.request, WireRequest.effect, BrokeredRegistry.learn]
    rw [unsubscribes]
  refine ⟨_, handled, ?_, ?_, ?_, simulates.given, simulates.session, (by rintro _ _ _ ⟨⟩), ?_,
    (by rintro _ _ _ ⟨⟩),
    mirrors_handle simulates.mirrors handled,
    inverseHeld_unsubscribed simulates.inverse simulates.mirrors.wellFormed unsubscribes⟩
  · change pair.noticed.client.unsubscribed pattern wire consumer = forgotten.noticeClient
    rw [NoticeClient.unsubscribed, closingId, simulates.client]
    simp only [forgotten, noticeClient_updateConsumer]
    have forgets : ({ registry.forget pattern wire with holder := none } :
        SubscriptionRegistry Item).noticeClient = { registry.noticeClient with
          byPattern := registry.byRegistration.erase pattern
          patternById := registry.byId.erase state.subId
          holder := none } := by
      rw [← byId]
      rfl
    rw [forgets]
    rfl
  · change pair.noticed.abandoned = []
    rw [simulates.abandoned, holds]
    rfl
  · have found : pair.brokered.live.lookup pattern = some state.subId := by
      rw [congrFun simulates.live_eq_idOf pattern, idOf, wireOf, registered, Option.bind_some,
        inStore]
      rfl
    have removed := simulates.live.remove found
    rw [← Dictionary.lookup_erase_eq_update, ← Dictionary.lookup_erase_eq_update] at removed
    rw [closingId]
    exact removed
  · intro other name mapped
    change (registry.forget pattern wire).byId.lookup other = some name at mapped
    rw [byId] at mapped
    exact simulates.mapped other name (Dictionary.lookup_erase_eq_some.mp mapped).2

/-- The broker rejects the SUBSCRIBE of the registry. -/
theorem Simulates.rejected (simulates : Simulates pair) {pattern : String} {since : Nat}
    {cancelled : Bool}
    (holds : pair.brokered.registry.holder = some (.subscribing pattern since cancelled)) :
    ∃ brokered, pair.brokered.handle (.answer .rejected) = some brokered ∧
      Simulates {
        noticed := { pair.noticed with client := pair.noticed.client.release, abandoned := [] }
        brokered } := by
  have fails : pair.brokered.registry.step .subscribeFailed =
      some { pair.brokered.registry with holder := none } := by
    simp only [SubscriptionRegistry.step, SubscriptionRegistry.subscribeFailed, holds]
  have handled : pair.brokered.handle (.answer .rejected) = some { pair.brokered with
      registry := { pair.brokered.registry with holder := none } } := by
    simp only [BrokeredRegistry.handle, BrokeredRegistry.step, holds, BrokeredRegistry.resolve,
      RegistryOperation.request, WireRequest.effect, BrokeredRegistry.learn, fails]
  refine ⟨_, handled, ?_⟩
  have released := simulates.released (mirrors_handle simulates.mirrors handled)
  rw [simulates.client]
  exact released

/-- The broker rejects the UNSUBSCRIBE of both clients. -/
theorem Simulates.kept (simulates : Simulates pair) {pattern : String} {wire consumer : Nat}
    {cancelled : Bool}
    (holds : pair.brokered.registry.holder = some (.closing pattern wire consumer cancelled)) :
    ∃ brokered, pair.brokered.handle (.answer .rejected) = some brokered ∧
      Simulates {
        noticed := { pair.noticed with
          client := pair.noticed.client.release.updateConsumer consumer
            AsyncSubscription.endClose }
        brokered } := by
  let released : SubscriptionRegistry Item := { pair.brokered.registry with holder := none }
  have fails : pair.brokered.registry.step .unsubscribeFailed =
      some (released.updateConsumer consumer AsyncSubscription.endClose) := by
    simp only [SubscriptionRegistry.step, SubscriptionRegistry.unsubscribeFailed, holds]
    rfl
  have handled : pair.brokered.handle (.answer .rejected) = some { pair.brokered with
      registry := released.updateConsumer consumer AsyncSubscription.endClose } := by
    simp only [BrokeredRegistry.handle, BrokeredRegistry.step, holds, BrokeredRegistry.resolve,
      RegistryOperation.request, WireRequest.effect, BrokeredRegistry.learn, fails]
  refine ⟨_, handled, ?_⟩
  have nothing : pair.noticed.abandoned = [] := by
    rw [simulates.abandoned, holds]
    rfl
  refine ⟨?_, nothing, simulates.live, simulates.given, simulates.session, (by rintro _ _ _ ⟨⟩),
    simulates.mapped, (by rintro _ _ _ ⟨⟩), mirrors_handle simulates.mirrors handled,
    InverseHeld.of_inverse (simulates.inverse.inverse.congr rfl rfl rfl) (by rintro _ _ _ _ ⟨⟩)⟩
  rw [simulates.client]
  rfl

theorem simulates_answer (simulates : Simulates pair) {outcome : WireOutcome}
    (spares : SparesSubscribe pair (.answer outcome))
    (stepped : step pair (.answer outcome) = some after) : Simulates after := by
  refine simulates_of_steps simulates ?_ stepped
  have noticed : pair.noticed.client.holder =
      pair.brokered.registry.holder.bind (·.noticeOperation) := by
    rw [simulates.client]
    rfl
  have abandoned := simulates.abandoned
  cases holds : pair.brokered.registry.holder with
  | none =>
      rw [holds] at noticed abandoned
      refine Or.inl ⟨?_, ?_⟩
      · simp only [BrokeredNotice.step, abandoned, abandonedBy, noticed, Option.bind_none]
      · simp only [BrokeredRegistry.handle, BrokeredRegistry.step, holds]
  | some operation =>
      rw [holds] at noticed abandoned
      cases operation with
      | subscribing pattern since cancelled =>
          cases cancelled with
          | false =>
              have answered : pair.noticed.step (.answer outcome) =
                  pair.noticed.answerHolder (.subscribing pattern) outcome := by
                simp only [BrokeredNotice.step, abandoned, abandonedBy, noticed,
                  Option.bind_some, RegistryOperation.noticeOperation]
              rw [answered]
              cases outcome with
              | granted subId =>
                  by_cases available : pair.noticed.Available pattern subId
                  · obtain ⟨brokered, handled, next⟩ := simulates.granted holds available
                    exact Or.inr ⟨_, _, if_pos available, handled, next⟩
                  · refine Or.inl ⟨if_neg available, ?_⟩
                    have refused : pair.brokered.registry.step (.assign pattern subId) = none :=
                      if_neg fun alone => available (simulates.available_iff.mpr alone)
                    simp only [BrokeredRegistry.handle, BrokeredRegistry.step, holds,
                      BrokeredRegistry.resolve, RegistryOperation.request, WireRequest.effect,
                      BrokeredRegistry.learn, refused, Option.bind_none]
              | removed =>
                  refine Or.inl ⟨rfl, ?_⟩
                  simp only [BrokeredRegistry.handle, BrokeredRegistry.step, holds,
                    BrokeredRegistry.resolve, RegistryOperation.request, WireRequest.effect]
              | rejected =>
                  obtain ⟨brokered, handled, next⟩ := simulates.rejected holds
                  have nothing : pair.noticed.abandoned = [] := abandoned
                  rw [← nothing] at next
                  exact Or.inr ⟨_, _, rfl, handled, next⟩
          | true =>
              have answered : pair.noticed.step (.answer outcome) =
                  (pair.noticed.answerAbandoned pattern outcome).map
                    ({ · with abandoned := [] }) := by
                simp only [BrokeredNotice.step, abandoned, abandonedBy]
              rw [answered]
              cases outcome with
              | granted subId => exact (spares pattern since holds).elim
              | removed =>
                  refine Or.inl ⟨rfl, ?_⟩
                  simp only [BrokeredRegistry.handle, BrokeredRegistry.step, holds,
                    BrokeredRegistry.resolve, RegistryOperation.request, WireRequest.effect]
              | rejected =>
                  obtain ⟨brokered, handled, next⟩ := simulates.rejected holds
                  have unheld : pair.noticed.client.release = pair.noticed.client := by
                    have free : pair.noticed.client.holder = none := noticed
                    rw [NoticeClient.release, ← free]
                  rw [unheld] at next
                  exact Or.inr ⟨_, _, rfl, handled, next⟩
      | compensating registration subId session =>
          exact (simulates.notCompensating _ _ _ holds).elim
      | closing pattern wire consumer cancelled =>
          have answered : pair.noticed.step (.answer outcome) =
              pair.noticed.answerHolder (.closing pattern wire consumer) outcome := by
            simp only [BrokeredNotice.step, abandoned, abandonedBy, noticed, Option.bind_some,
              RegistryOperation.noticeOperation]
          rw [answered]
          cases outcome with
          | granted subId =>
              refine Or.inl ⟨rfl, ?_⟩
              simp only [BrokeredRegistry.handle, BrokeredRegistry.step, holds,
                BrokeredRegistry.resolve, RegistryOperation.request, WireRequest.effect]
          | removed =>
              obtain ⟨brokered, handled, next⟩ := simulates.removed holds
              exact Or.inr ⟨_, _, rfl, handled, next⟩
          | rejected =>
              obtain ⟨brokered, handled, next⟩ := simulates.kept holds
              exact Or.inr ⟨_, _, rfl, handled, next⟩
      | restoring registration wire oldId since remaining =>
          exact (simulates.mirrors.notRestoring _ _ _ _ _ holds).elim

theorem simulates_step (simulates : Simulates pair) {event : SubscriptionEvent Item}
    (spares : SparesSubscribe pair event) (stepped : step pair event = some after) :
    Simulates after := by
  cases event with
  | subscribe pattern => exact simulates_subscribe simulates spares stepped
  | cancelSubscribe => exact simulates_cancelSubscribe simulates stepped
  | aclose consumer => exact simulates_updateConsumer simulates rfl rfl stepped
  | cleanup consumer => exact simulates_cleanup simulates stepped
  | close consumer => exact simulates_close simulates spares stepped
  | read consumer => exact simulates_updateConsumer simulates rfl rfl stepped
  | notify subId item => exact simulates_notify simulates stepped
  | answer outcome => exact simulates_answer simulates spares stepped

theorem invariant_simulates (capacity : Nat) :
    (system Item capacity).Invariant SparesSubscribe Simulates where
  starts first isFirst := by
    cases isFirst
    have initial := (@invariant_inverseHeld Item capacity).starts _ rfl
    refine ⟨rfl, rfl, ?_, rfl, nofun, nofun, fun subId name found => ?_, nofun,
      BrokeredRegistry.mirrors_new capacity, initial.2⟩
    · intro pattern subId
      simp
    · change (∅ : Dictionary Nat String).lookup subId = some name at found
      simp at found
  preserved _ _ _ simulates spares stepped := simulates_step simulates spares stepped

theorem Simulates.agree (simulates : Simulates pair) : Agree pair where
  registered pattern := by
    rw [simulates.client]
    rfl
  live := simulates.live
  delivered consumer := by
    rw [simulates.client]
    change ((pair.brokered.registry.deliveries.map fun delivery =>
      (delivery.consumer, delivery.notification.item)).filter (·.1 = consumer)).map (·.2) = _
    rw [List.filter_map, List.map_map]
    rfl

/-- The notice client and the registry agree in every run in which the broker
rejects the SUBSCRIBE of every cancelled subscribe. -/
theorem agree_of_reachable {capacity : Nat}
    (reachable : (system Item capacity).ReachableUnder SparesSubscribe pair) : Agree pair :=
  ((invariant_simulates capacity).of_reachable reachable).agree

/-- A pattern is subscribed and gets an item; another subscribe is cancelled, and
its SUBSCRIBE is rejected. -/
theorem agree_rejected_subscribe : ∃ pair : SubscriberPair Nat,
    pair.noticed.live.lookup 1 = some "notice://r/a/*" ∧ pair.noticed.client.deliveries = [(0, 7)] ∧
      Agree pair := by
  have meets : (system Nat 4).StepsMeet SparesSubscribe
      { noticed := { client := { bufferSize := 4 } },
        brokered := { registry := { capacity := 4 } } }
      [.subscribe "notice://r/a/*", .answer (.granted 1), .notify 1 7, .subscribe "notice://r/b/*",
        .cancelSubscribe, .answer .rejected] :=
    (system Nat 4).stepsMeet_cons rfl nofun <|
      (system Nat 4).stepsMeet_cons rfl (fun _ _ holds => by cases holds) <|
      (system Nat 4).stepsMeet_cons rfl (fun _ _ _ => trivial) <|
      (system Nat 4).stepsMeet_cons rfl nofun <|
      (system Nat 4).stepsMeet_cons rfl (fun _ _ _ => trivial) <|
      (system Nat 4).stepsMeet_cons rfl (fun _ _ _ => trivial) trivial
  exact ⟨_, rfl, rfl, agree_of_reachable
    ((system Nat 4).reachableUnder_of_run rfl _ rfl meets)⟩

/-- A subscribe is cancelled while the broker accepts its SUBSCRIBE.  The
registry takes the subscription back; on the broker of the notice client it
stays live. -/
theorem exists_orphaned_notice : ∃ pair : SubscriberPair Nat,
    (system Nat 4).Reachable pair ∧ Idle pair ∧ ¬ Agree pair := by
  refine ⟨_, (system Nat 4).reachable_of_run rfl [.subscribe "notice://r/a/*", .cancelSubscribe,
    .answer (.granted 1), .answer .removed] rfl, ⟨rfl, rfl, rfl⟩, ?_⟩
  intro agree
  have orphan := (agree.live "notice://r/a/*" 1).mpr rfl
  cases orphan

end SubscriberPair

end FitzClient
