import FitzClient.SubscriptionRegistry

/-!
# The tables of a subscription registry

Most operations of the registry touch only consumers and buffered
notifications.  They keep its tables: both dictionaries, and registration, id
and session of every wire.  What holds in every reachable state is that a
registration leads to a wire of its own, and that the holder of the lock
suspends with values the tables agree with.
-/

namespace FitzClient

/-- What the tables know of a wire. -/
def WireSubscription.key (wire : WireSubscription) : String × Nat × Nat :=
  (wire.registration, wire.subId, wire.session)

namespace SubscriptionRegistry

variable {Item : Type} {before after : SubscriptionRegistry Item}
  {registration : String} {wire : Nat}

/-- The tables of two registries agree, and so do the holders of the lock. -/
structure SameTables (before after : SubscriptionRegistry Item) : Prop where
  byRegistration : after.byRegistration = before.byRegistration
  byId : after.byId = before.byId
  storedIn : after.storedIn = before.storedIn
  keys : after.wires.map WireSubscription.key = before.wires.map WireSubscription.key
  holder : after.holder = before.holder

namespace SameTables

theorem refl (registry : SubscriptionRegistry Item) : SameTables registry registry :=
  ⟨rfl, rfl, rfl, rfl, rfl⟩

theorem trans {middle : SubscriptionRegistry Item} (first : SameTables before middle)
    (second : SameTables middle after) : SameTables before after where
  byRegistration := second.byRegistration.trans first.byRegistration
  byId := second.byId.trans first.byId
  storedIn := second.storedIn.trans first.storedIn
  keys := second.keys.trans first.keys
  holder := second.holder.trans first.holder

end SameTables

theorem keys_modify (wires : List WireSubscription) (wire : Nat)
    {update : WireSubscription → WireSubscription}
    (same : ∀ state, (update state).key = state.key) :
    (wires.modify wire update).map WireSubscription.key = wires.map WireSubscription.key := by
  apply List.ext_getElem?
  intro index
  rw [List.getElem?_map, List.getElem?_map, List.getElem?_modify]
  cases wires[index]? with
  | none => rfl
  | some state =>
      by_cases touched : wire = index
      · simp [touched, same]
      · simp [touched]

/-- Pushing changes consumers and the log of deliveries only. -/
theorem exists_foldl_pushTo (registry : SubscriptionRegistry Item) (targets : List Nat)
    (notifications : List (Notification Item)) : ∃ consumers deliveries,
      notifications.foldl (pushTo · targets ·) registry =
        { registry with consumers, deliveries } := by
  induction notifications generalizing registry with
  | nil => exact ⟨_, _, rfl⟩
  | cons notification notifications ih =>
      obtain ⟨consumers, deliveries, pushed⟩ := ih (registry.pushTo targets notification)
      exact ⟨consumers, deliveries, pushed⟩

theorem exists_flushPending (registry : SubscriptionRegistry Item) (wire : Nat) :
    ∃ consumers deliveries pendingNotifications,
      registry.flushPending wire =
          { registry with consumers, deliveries, pendingNotifications } ∧
        pendingNotifications.length ≤ registry.pendingNotifications.length := by
  unfold flushPending
  split
  · exact ⟨_, _, _, rfl, le_refl _⟩
  · next state _ =>
      obtain ⟨consumers, deliveries, pushed⟩ := registry.exists_foldl_pushTo state.consumers
        (registry.pendingNotifications.filter (·.subId = state.subId))
      rw [pushed]
      exact ⟨consumers, deliveries, _, rfl, List.length_filter_le _ _⟩

theorem sameTables_flushPending (registry : SubscriptionRegistry Item) (wire : Nat) :
    SameTables registry (registry.flushPending wire) := by
  obtain ⟨consumers, deliveries, pending, flushed, -⟩ := registry.exists_flushPending wire
  rw [flushed]
  exact ⟨rfl, rfl, rfl, rfl, rfl⟩

theorem wires_flushPending (registry : SubscriptionRegistry Item) (wire : Nat) :
    (registry.flushPending wire).wires = registry.wires := by
  obtain ⟨consumers, deliveries, pending, flushed, -⟩ := registry.exists_flushPending wire
  rw [flushed]

/-- Joining a wire asks nothing of the broker. -/
theorem ledger_join (registry : SubscriptionRegistry Item) (registration : String) (wire : Nat) :
    (registry.join registration wire).assigned = registry.assigned ∧
      (registry.join registration wire).session = registry.session := by
  obtain ⟨consumers, deliveries, pending, flushed, -⟩ :=
    (registry.enroll registration wire).exists_flushPending wire
  rw [join, flushed]
  exact ⟨rfl, rfl⟩

theorem sameTables_join (registry : SubscriptionRegistry Item) (registration : String)
    (wire : Nat) : SameTables registry (registry.join registration wire) := by
  refine SameTables.trans ?_ (sameTables_flushPending _ wire)
  exact ⟨rfl, rfl, rfl, keys_modify _ _ fun _ => rfl, rfl⟩

theorem sameTables_publish (registry : SubscriptionRegistry Item) (subId : Nat) (item : Item) :
    SameTables registry (registry.publish subId item) := by
  unfold publish
  split
  · exact ⟨rfl, rfl, rfl, rfl, rfl⟩
  · split
    · exact SameTables.refl registry
    · unfold deliver
      split
      · exact SameTables.refl registry
      · exact ⟨rfl, rfl, rfl, keys_modify _ _ fun _ => rfl, rfl⟩

theorem sameTables_updateConsumer (registry : SubscriptionRegistry Item) (consumer : Nat)
    (update : AsyncSubscription Item → AsyncSubscription Item) :
    SameTables registry (registry.updateConsumer consumer update) :=
  ⟨rfl, rfl, rfl, rfl, rfl⟩

theorem sameTables_discard (registry : SubscriptionRegistry Item) (wire consumer : Nat) :
    SameTables registry (registry.discard wire consumer) :=
  ⟨rfl, rfl, rfl, keys_modify _ _ fun _ => rfl, rfl⟩

/-- This wire was made for this registration. -/
def Owned (registry : SubscriptionRegistry Item) (registration : String) (wire : Nat) : Prop :=
  ∃ state, registry.wires[wire]? = some state ∧ state.registration = registration

/-- The wires of the first registry are in the second one, of the same
registration. -/
def KeepsWires (before after : SubscriptionRegistry Item) : Prop :=
  ∀ registration wire, Owned before registration wire → Owned after registration wire

theorem owned_iff {registry : SubscriptionRegistry Item} :
    Owned registry registration wire ↔
      ∃ subId session, (registry.wires.map WireSubscription.key)[wire]? =
        some (registration, subId, session) := by
  rw [List.getElem?_map]
  constructor
  · rintro ⟨state, found, rfl⟩
    exact ⟨state.subId, state.session, by rw [found]; rfl⟩
  · rintro ⟨subId, session, mapped⟩
    obtain ⟨state, found, same⟩ := Option.map_eq_some_iff.mp mapped
    exact ⟨state, found, congrArg Prod.fst same⟩

theorem keepsWires_of_keys
    (keys : after.wires.map WireSubscription.key = before.wires.map WireSubscription.key) :
    KeepsWires before after := by
  intro registration wire owned
  rwa [owned_iff, keys, ← owned_iff]

theorem Owned.unique {registry : SubscriptionRegistry Item} {other : String}
    (first : Owned registry registration wire) (second : Owned registry other wire) :
    registration = other := by
  obtain ⟨state, found, rfl⟩ := first
  obtain ⟨again, foundAgain, rfl⟩ := second
  rw [found] at foundAgain
  exact congrArg WireSubscription.registration (Option.some.inj foundAgain)

/-- If this registration is still registered, then with this wire. -/
def Current (registry : SubscriptionRegistry Item) (registration : String) (wire : Nat) : Prop :=
  Owned registry registration wire ∧
    ∀ other, registry.byRegistration.lookup registration = some other → other = wire

/-- The lock holder suspends with values that the tables agree with. -/
def HolderAgrees (registry : SubscriptionRegistry Item) : RegistryOperation → Prop
  | .subscribing registration _ _ | .compensating registration _ _ =>
      registry.byRegistration.lookup registration = none
  | .closing registration wire _ _ => Current registry registration wire
  | .restoring registration wire oldId _ remaining =>
      registry.wires[wire]?.map (·.subId) = some oldId ∧ Current registry registration wire ∧
        ∀ entry ∈ remaining, Current registry entry.1 entry.2

/-- Registrations lead to wires of their own, and the lock holder agrees with
the tables. -/
structure WellFormed (registry : SubscriptionRegistry Item) : Prop where
  owned : ∀ registration wire, registry.byRegistration.lookup registration = some wire →
    Owned registry registration wire
  holder : ∀ operation, registry.holder = some operation → HolderAgrees registry operation

/-- Registrations may have been dropped, and nothing else. -/
structure Narrows (before after : SubscriptionRegistry Item) : Prop where
  byRegistration : ∀ registration wire, after.byRegistration.lookup registration = some wire →
    before.byRegistration.lookup registration = some wire
  keys : after.wires.map WireSubscription.key = before.wires.map WireSubscription.key

theorem SameTables.narrows (same : SameTables before after) : Narrows before after where
  byRegistration registration wire found := by
    rwa [same.byRegistration] at found
  keys := same.keys

namespace Narrows

theorem lookup_eq_none (narrows : Narrows before after)
    (absent : before.byRegistration.lookup registration = none) :
    after.byRegistration.lookup registration = none := by
  cases found : after.byRegistration.lookup registration with
  | none => rfl
  | some wire =>
      have wasFound := narrows.byRegistration registration wire found
      rw [absent] at wasFound
      cases wasFound

theorem current (narrows : Narrows before after) (current : Current before registration wire) :
    Current after registration wire :=
  ⟨keepsWires_of_keys narrows.keys _ _ current.1, fun other found =>
    current.2 other (narrows.byRegistration _ _ found)⟩

theorem holderAgrees (narrows : Narrows before after) {operation : RegistryOperation}
    (agrees : HolderAgrees before operation) : HolderAgrees after operation := by
  cases operation with
  | subscribing registration since cancelled => exact narrows.lookup_eq_none agrees
  | compensating registration subId session => exact narrows.lookup_eq_none agrees
  | closing registration wire consumer cancelled => exact narrows.current agrees
  | restoring registration wire oldId since remaining =>
      obtain ⟨atOldId, current, currentRemaining⟩ := agrees
      refine ⟨?_, narrows.current current, fun entry member =>
        narrows.current (currentRemaining entry member)⟩
      have ids := congrArg (fun keys => (keys[wire]?).map fun key : String × Nat × Nat => key.2.1)
        narrows.keys
      simp only [List.getElem?_map, Option.map_map] at ids
      exact ids.trans atOldId

theorem owned (narrows : Narrows before after) (wellFormed : WellFormed before)
    (registration : String) (wire : Nat)
    (found : after.byRegistration.lookup registration = some wire) :
    Owned after registration wire :=
  keepsWires_of_keys narrows.keys _ _
    (wellFormed.owned _ _ (narrows.byRegistration _ _ found))

end Narrows

namespace WellFormed

theorem narrow (wellFormed : WellFormed before) (narrows : Narrows before after)
    (sameHolder : after.holder = before.holder) : WellFormed after where
  owned := narrows.owned wellFormed
  holder operation holds := by
    rw [sameHolder] at holds
    exact narrows.holderAgrees (wellFormed.holder operation holds)

theorem of_sameTables (wellFormed : WellFormed before) (same : SameTables before after) :
    WellFormed after :=
  wellFormed.narrow same.narrows same.holder

/-- The lock is released. -/
theorem release (wellFormed : WellFormed before) (narrows : Narrows before after)
    (released : after.holder = none) : WellFormed after where
  owned := narrows.owned wellFormed
  holder operation holds := by
    rw [released] at holds
    cases holds

end WellFormed

theorem narrows_failRegistration (registry : SubscriptionRegistry Item) (registration : String)
    (error : SubscriptionError) :
    Narrows registry (registry.failRegistration registration error) := by
  unfold failRegistration
  split
  · exact (SameTables.refl registry).narrows
  · exact ⟨fun _ _ found => (Dictionary.lookup_erase_eq_some.mp found).2, rfl⟩

@[simp]
theorem holder_failRegistration (registry : SubscriptionRegistry Item) (registration : String)
    (error : SubscriptionError) :
    (registry.failRegistration registration error).holder = registry.holder := by
  unfold failRegistration
  split <;> rfl

theorem narrows_terminate (registry : SubscriptionRegistry Item)
    (error : Option SubscriptionError) : Narrows registry (registry.terminate error) := by
  refine ⟨fun registration wire found => ?_, rfl⟩
  change (∅ : Dictionary String Nat).lookup registration = some wire at found
  simp at found

theorem narrows_forget (registry : SubscriptionRegistry Item) (registration : String)
    (wire : Nat) : Narrows registry (registry.forget registration wire) :=
  ⟨fun _ _ found => (Dictionary.lookup_erase_eq_some.mp found).2, rfl⟩

theorem keepsWires_store (registry : SubscriptionRegistry Item) (registration : String)
    (subId session : Nat) : KeepsWires registry (registry.store registration subId session) := by
  rintro other wire ⟨state, found, same⟩
  exact ⟨state, getElem?_concat_eq_some.mpr (Or.inl found), same⟩

theorem owned_store (registry : SubscriptionRegistry Item) (registration : String)
    (subId session : Nat) :
    Owned (registry.store registration subId session) registration registry.wires.length :=
  ⟨_, getElem?_concat_eq_some.mpr (Or.inr ⟨rfl, rfl⟩), rfl⟩

theorem wellFormed_store (wellFormed : WellFormed before) (registration : String)
    (subId session : Nat) (released : after.holder = none)
    (stored : SameTables { before.store registration subId session with holder := none } after) :
    WellFormed after where
  owned other wire found := by
    rw [stored.byRegistration] at found
    have keeps := keepsWires_of_keys stored.keys
    rcases Dictionary.lookup_insert_eq_some.mp found with ⟨rfl, rfl⟩ | ⟨-, old⟩
    · exact keeps _ _ (before.owned_store other subId session)
    · exact keeps _ _ (before.keepsWires_store registration subId session _ _
        (wellFormed.owned other wire old))
  holder operation holds := by
    rw [released] at holds
    cases holds

theorem keepsWires_rekey (registry : SubscriptionRegistry Item) (registration : String)
    (wire oldId newId session : Nat) :
    KeepsWires registry (registry.rekey registration wire oldId newId session) := by
  intro other index owned
  apply keepsWires_of_keys (sameTables_flushPending _ wire).keys
  obtain ⟨state, found, same⟩ := owned
  refine ⟨_, getElem?_modify_eq_some.mpr ⟨state, found, rfl⟩, ?_⟩
  split
  · exact same
  · exact same

theorem byRegistration_rekey (registry : SubscriptionRegistry Item) (registration : String)
    (wire oldId newId session : Nat) :
    (registry.rekey registration wire oldId newId session).byRegistration =
      registry.byRegistration :=
  (sameTables_flushPending _ wire).byRegistration

theorem mem_registrations {registry : SubscriptionRegistry Item} {entry : String × Nat} :
    entry ∈ registry.registrations ↔
      registry.byRegistration.lookup entry.1 = some entry.2 := by
  rw [← Option.mem_def, AList.mem_lookup_iff]
  simp only [registrations, List.mem_map, List.mem_reverse]
  constructor
  · rintro ⟨found, member, rfl⟩
    exact member
  · intro member
    exact ⟨⟨entry.1, entry.2⟩, member, rfl⟩

/-- Restoration goes on with the wires of registrations that may still be
registered. -/
theorem wellFormed_restoreNext (registry : SubscriptionRegistry Item)
    (owned : ∀ registration wire, registry.byRegistration.lookup registration = some wire →
      Owned registry registration wire) (remaining : List (String × Nat))
    (currentRemaining : ∀ entry ∈ remaining, Current registry entry.1 entry.2) :
    WellFormed (registry.restoreNext remaining) := by
  cases remaining with
  | nil => exact ⟨owned, nofun⟩
  | cons entry remaining =>
      refine ⟨owned, fun operation holds => ?_⟩
      cases holds
      have currentEntry := currentRemaining entry (List.mem_cons_self)
      refine ⟨?_, currentEntry, fun other member =>
        currentRemaining other (List.mem_cons_of_mem _ member)⟩
      obtain ⟨⟨state, found, -⟩, -⟩ := currentEntry
      change registry.wires[entry.2]?.map (·.subId) =
        some ((registry.wires[entry.2]?.map (·.subId)).getD 0)
      rw [found]
      rfl

theorem wellFormed_restore (wellFormed : WellFormed before) :
    WellFormed (before.restoreNext before.registrations) := by
  apply wellFormed_restoreNext before wellFormed.owned
  intro entry member
  have registered := mem_registrations.mp member
  refine ⟨wellFormed.owned _ _ registered, fun other again => ?_⟩
  rw [registered] at again
  exact (Option.some.inj again).symm

theorem wellFormed_subscribe (wellFormed : WellFormed before) (registration : String) :
    WellFormed (before.subscribe registration) := by
  unfold subscribe
  split
  · next wire _ => exact wellFormed.of_sameTables (before.sameTables_join registration wire)
  · next absent =>
      refine ⟨wellFormed.owned, fun operation holds => ?_⟩
      cases holds
      exact absent

theorem wellFormed_subscribed (wellFormed : WellFormed before) {session subId : Nat}
    (stepped : before.subscribed session subId = some after) : WellFormed after := by
  unfold subscribed at stepped
  split at stepped
  · next registration since cancelled holds =>
      have absent := wellFormed.holder _ holds
      split at stepped
      · split at stepped <;> cases stepped
        · refine ⟨wellFormed.owned, fun operation holds => ?_⟩
          cases holds
          exact absent
        · have same := sameTables_join
            { before.store registration subId session with holder := none } registration
            before.wires.length
          exact wellFormed_store wellFormed registration subId session same.holder same
      · cases stepped
  · next registration wire oldId since remaining holds =>
      obtain ⟨-, -, currentRemaining⟩ := wellFormed.holder _ holds
      have keeps := before.keepsWires_rekey registration wire oldId subId session
      split at stepped <;> cases stepped
      apply wellFormed_restoreNext
      · intro other index found
        rw [byRegistration_rekey] at found
        exact keeps _ _ (wellFormed.owned other index found)
      · intro entry member
        obtain ⟨owned, unique⟩ := currentRemaining entry member
        refine ⟨keeps _ _ owned, fun other found => ?_⟩
        rw [byRegistration_rekey] at found
        exact unique other found
  · cases stepped

theorem wellFormed_subscribeFailed (wellFormed : WellFormed before)
    (stepped : before.subscribeFailed = some after) : WellFormed after := by
  unfold subscribeFailed at stepped
  split at stepped
  · cases stepped
    exact wellFormed.release ⟨fun _ _ found => found, rfl⟩ rfl
  · next registration wire oldId since remaining holds =>
      obtain ⟨-, -, currentRemaining⟩ := wellFormed.holder _ holds
      have narrows := before.narrows_failRegistration registration .restore
      cases stepped
      exact wellFormed_restoreNext _ (narrows.owned wellFormed) _ fun entry member =>
        narrows.current (currentRemaining entry member)
  · cases stepped

theorem wellFormed_unsubscribed (wellFormed : WellFormed before)
    (stepped : before.unsubscribed = some after) : WellFormed after := by
  unfold unsubscribed at stepped
  split at stepped <;> cases stepped
  · exact wellFormed.release ⟨fun _ _ found => found, rfl⟩ rfl
  · next registration wire consumer _ _ =>
      obtain ⟨byRegistration, keys⟩ := before.narrows_forget registration wire
      exact wellFormed.release ⟨byRegistration, keys⟩ rfl

theorem wellFormed_unsubscribeFailed (wellFormed : WellFormed before)
    (stepped : before.unsubscribeFailed = some after) : WellFormed after := by
  unfold unsubscribeFailed at stepped
  split at stepped <;> cases stepped
  · next registration subId session _ =>
      exact wellFormed_store wellFormed registration subId session rfl (SameTables.refl _)
  · exact wellFormed.release ⟨fun _ _ found => found, rfl⟩ rfl

theorem wellFormed_cancel (wellFormed : WellFormed before)
    (stepped : before.cancel = some after) : WellFormed after := by
  unfold cancel at stepped
  split at stepped <;> cases stepped
  · next holds =>
      refine ⟨wellFormed.owned, fun operation suspended => ?_⟩
      cases suspended
      exact wellFormed.holder _ holds
  · next holds =>
      refine ⟨wellFormed.owned, fun operation suspended => ?_⟩
      cases suspended
      exact wellFormed.holder _ holds
  · exact wellFormed.release ⟨fun _ _ found => found, rfl⟩ rfl

theorem wellFormed_close (wellFormed : WellFormed before) (registration : String)
    (consumer : Nat) : WellFormed (before.close registration consumer) := by
  unfold close
  split
  · exact wellFormed.of_sameTables (before.sameTables_updateConsumer _ _)
  · next wire found =>
      have discarded := wellFormed.of_sameTables (before.sameTables_discard wire consumer)
      split
      · exact discarded.of_sameTables (sameTables_updateConsumer _ _ _)
      · refine ⟨discarded.owned, fun operation holds => ?_⟩
        cases holds
        refine ⟨discarded.owned _ _ found, fun other again => ?_⟩
        change before.byRegistration.lookup registration = some other at again
        rw [found] at again
        exact (Option.some.inj again).symm

theorem wellFormed_step (wellFormed : WellFormed before) {action : RegistryAction Item}
    (stepped : before.step action = some after) : WellFormed after := by
  cases action with
  | newSession =>
      cases stepped
      exact wellFormed.of_sameTables ⟨rfl, rfl, rfl, rfl, rfl⟩
  | assign registration subId =>
      simp only [step] at stepped
      split at stepped <;> cases stepped
      exact wellFormed.of_sameTables ⟨rfl, rfl, rfl, rfl, rfl⟩
  | publish subId item =>
      cases stepped
      exact wellFormed.of_sameTables (before.sameTables_publish subId item)
  | subscribe registration =>
      simp only [step] at stepped
      split at stepped <;> cases stepped
      exact wellFormed_subscribe wellFormed registration
  | subscribed session subId => exact wellFormed_subscribed wellFormed stepped
  | subscribeFailed => exact wellFormed_subscribeFailed wellFormed stepped
  | unsubscribed => exact wellFormed_unsubscribed wellFormed stepped
  | unsubscribeFailed => exact wellFormed_unsubscribeFailed wellFormed stepped
  | cancel => exact wellFormed_cancel wellFormed stepped
  | aclose consumer =>
      cases stepped
      exact wellFormed.of_sameTables (before.sameTables_updateConsumer _ _)
  | cleanup consumer =>
      simp only [step] at stepped
      split at stepped <;> cases stepped
      exact wellFormed.of_sameTables ⟨rfl, rfl, rfl, rfl, rfl⟩
  | close consumer =>
      simp only [step] at stepped
      split at stepped
      · cases stepped
      · split at stepped <;> cases stepped
        exact wellFormed_close wellFormed _ consumer
  | cancelClose consumer =>
      simp only [step] at stepped
      split at stepped <;> cases stepped
      exact wellFormed.of_sameTables (before.sameTables_updateConsumer _ _)
  | read consumer =>
      cases stepped
      exact wellFormed.of_sameTables (before.sameTables_updateConsumer _ _)
  | restore =>
      simp only [step] at stepped
      split at stepped <;> cases stepped
      exact wellFormed_restore wellFormed
  | failRegistration registration error =>
      cases stepped
      exact wellFormed.narrow (before.narrows_failRegistration registration error)
        (before.holder_failRegistration registration error)
  | terminate error =>
      cases stepped
      exact wellFormed.narrow (before.narrows_terminate error) rfl

/-- Every reachable registry is well formed. -/
theorem invariant_wellFormed (capacity : Nat)
    (admitted : SubscriptionRegistry Item → RegistryAction Item → Prop) :
    (system Item capacity).Invariant admitted WellFormed where
  starts first isFirst := by
    cases isFirst
    refine ⟨fun registration wire found => ?_, nofun⟩
    change (∅ : Dictionary String Nat).lookup registration = some wire at found
    simp at found
  preserved _ _ _ wellFormed _ stepped := wellFormed_step wellFormed stepped

end SubscriptionRegistry

end FitzClient
