import FitzClient.InverseTables
import FitzClient.SubscriptionTables

/-!
# The two dictionaries of a registry

`_by_id` and `_by_registration` are meant to be inverse to each other.  They
are, as long as every id is stored for a registration that is still registered
and no other registration has that id.  Restoration breaks this: the id that
a registration gets in a new session may be one that another registration
still has from the session before, and restoring that one removes the mapping.
-/

namespace FitzClient

namespace SubscriptionRegistry

variable {Item : Type} {before after : SubscriptionRegistry Item}
  {registration : String} {wire : Nat}

/-- The id of the wire registered under a registration. -/
def idOf (registry : SubscriptionRegistry Item) (registration : String) : Option Nat :=
  (registry.wireOf registration).map (·.subId)

/-- `_by_id[i] = r` if and only if `_by_registration[r].sub_id = i`. -/
def Inverse (registry : SubscriptionRegistry Item) : Prop :=
  ∀ subId registration, registry.byId.lookup subId = some registration ↔
    ∃ state, registry.wireOf registration = some state ∧ state.subId = subId

/-- No other registration has this id. -/
def IdFree (registry : SubscriptionRegistry Item) (registration : String) (subId : Nat) : Prop :=
  ∀ other, other ≠ registration → registry.idOf other ≠ some subId

/-- An id that the transition stores is free, and restoration stores it for a
wire that is still registered. -/
def StoresFreeId (registry : SubscriptionRegistry Item) : RegistryAction Item → Prop
  | .subscribed _ subId =>
      match registry.holder with
      | some (.subscribing registration _ false) => IdFree registry registration subId
      | some (.restoring registration wire _ _ _) =>
          registry.byRegistration.lookup registration = some wire ∧
            IdFree registry registration subId
      | _ => True
  | .unsubscribeFailed =>
      match registry.holder with
      | some (.compensating registration subId _) => IdFree registry registration subId
      | _ => True
  | _ => True

theorem inverse_iff {registry : SubscriptionRegistry Item} :
    Inverse registry ↔
      InverseTables registry.idOf (fun subId => registry.byId.lookup subId) := by
  constructor
  · intro inverse registration subId
    rw [inverse, idOf, Option.map_eq_some_iff]
  · intro inverse subId registration
    rw [← inverse registration subId, idOf, Option.map_eq_some_iff]

theorem idOf_eq (registry : SubscriptionRegistry Item) (registration : String) :
    registry.idOf registration = (registry.byRegistration.lookup registration).bind fun wire =>
      (registry.wires.map WireSubscription.key)[wire]?.map (·.2.1) := by
  rw [idOf, wireOf]
  cases registry.byRegistration.lookup registration with
  | none => rfl
  | some wire =>
      simp only [Option.bind_some, List.getElem?_map, Option.map_map]
      rfl

theorem idOf_congr (byRegistration : after.byRegistration = before.byRegistration)
    (keys : after.wires.map WireSubscription.key = before.wires.map WireSubscription.key) :
    after.idOf = before.idOf := by
  funext registration
  rw [idOf_eq, idOf_eq, byRegistration, keys]

theorem idOf_eq_none (absent : before.byRegistration.lookup registration = none) :
    before.idOf registration = none := by
  rw [idOf_eq, absent]
  rfl

theorem idOf_erase (byRegistration : after.byRegistration =
      before.byRegistration.erase registration)
    (keys : after.wires.map WireSubscription.key = before.wires.map WireSubscription.key) :
    after.idOf = Function.update before.idOf registration none := by
  funext other
  rw [idOf_eq, byRegistration, keys]
  by_cases same : other = registration
  · subst same
    simp
  · rw [Function.update_of_ne same, idOf_eq, AList.lookup_erase_ne same]

theorem idOf_store (wellFormed : WellFormed before) (subId session : Nat) :
    (before.store registration subId session).idOf =
      Function.update before.idOf registration (some subId) := by
  funext other
  by_cases same : other = registration
  · subst same
    simp [idOf, wireOf, store]
  · rw [Function.update_of_ne same]
    simp only [idOf, wireOf, store, AList.lookup_insert_ne same]
    cases found : before.byRegistration.lookup other with
    | none => rfl
    | some wire =>
        obtain ⟨state, inStore, -⟩ := wellFormed.owned other wire found
        have inside := (List.getElem?_eq_some_iff.mp inStore).1
        simp only [Option.bind_some, List.getElem?_append_left inside]

theorem idOf_rekey (wellFormed : WellFormed before)
    (registered : before.byRegistration.lookup registration = some wire)
    (oldId newId session : Nat) :
    (before.rekey registration wire oldId newId session).idOf =
      Function.update before.idOf registration (some newId) := by
  have flushed := sameTables_flushPending
    (before.remap registration wire oldId newId session) wire
  rw [rekey, idOf_congr flushed.byRegistration flushed.keys]
  have owned := wellFormed.owned _ _ registered
  funext other
  by_cases same : other = registration
  · subst same
    obtain ⟨state, inStore, -⟩ := owned
    simp [idOf, wireOf, remap, registered, inStore]
  · rw [Function.update_of_ne same]
    simp only [idOf, wireOf, remap]
    cases found : before.byRegistration.lookup other with
    | none => rfl
    | some index =>
        have apart : wire ≠ index := by
          rintro rfl
          exact same (Owned.unique (wellFormed.owned _ _ found) owned)
        simp only [Option.bind_some, List.getElem?_modify, if_neg apart, Option.map_eq_map,
          Option.map_id']

theorem Inverse.congr (inverse : Inverse before)
    (byRegistration : after.byRegistration = before.byRegistration)
    (byId : after.byId = before.byId)
    (keys : after.wires.map WireSubscription.key = before.wires.map WireSubscription.key) :
    Inverse after := by
  rw [inverse_iff, idOf_congr byRegistration keys, byId]
  exact inverse_iff.mp inverse

theorem Inverse.of_sameTables (inverse : Inverse before) (same : SameTables before after) :
    Inverse after :=
  inverse.congr same.byRegistration same.byId same.keys

/-- A registration is dropped together with its id. -/
theorem Inverse.erase (inverse : Inverse before) {subId : Nat}
    (found : before.idOf registration = some subId)
    (byRegistration : after.byRegistration = before.byRegistration.erase registration)
    (byId : after.byId = before.byId.erase subId)
    (keys : after.wires.map WireSubscription.key = before.wires.map WireSubscription.key) :
    Inverse after := by
  have removed := (inverse_iff.mp inverse).remove found
  rw [← Dictionary.lookup_erase_eq_update] at removed
  rw [inverse_iff, idOf_erase byRegistration keys, byId]
  exact removed

theorem inverse_store (inverse : Inverse before) (wellFormed : WellFormed before)
    (absent : before.byRegistration.lookup registration = none) {subId : Nat}
    (free : IdFree before registration subId) (session : Nat) :
    Inverse (before.store registration subId session) := by
  have unset := idOf_eq_none absent
  have assigned := (inverse_iff.mp inverse).assign unset fun other => by
    by_cases same : other = registration
    · rw [same, unset]
      nofun
    · exact free other same
  rw [← Dictionary.lookup_insert_eq_update] at assigned
  rw [inverse_iff, idOf_store wellFormed]
  exact assigned

theorem inverse_rekey (inverse : Inverse before) (wellFormed : WellFormed before)
    (registered : before.byRegistration.lookup registration = some wire) {oldId newId : Nat}
    (atOldId : before.wires[wire]?.map (·.subId) = some oldId)
    (free : IdFree before registration newId) (session : Nat) :
    Inverse (before.rekey registration wire oldId newId session) := by
  have found : before.idOf registration = some oldId := by
    rw [idOf, wireOf, registered]
    exact atOldId
  have byId : (before.rekey registration wire oldId newId session).byId =
      (before.byId.erase oldId).insert newId registration :=
    (sameTables_flushPending _ wire).byId
  rw [inverse_iff, idOf_rekey wellFormed registered, byId, Dictionary.lookup_insert_eq_update,
    Dictionary.lookup_erase_eq_update]
  exact (inverse_iff.mp inverse).reassign found free

theorem inverse_failRegistration (inverse : Inverse before) (registration : String)
    (error : SubscriptionError) : Inverse (before.failRegistration registration error) := by
  unfold failRegistration
  split
  · exact inverse
  · next state registered =>
      have found : before.idOf registration = some state.subId := by
        rw [idOf, registered]
        rfl
      exact inverse.erase found rfl rfl rfl

theorem inverse_terminate (registry : SubscriptionRegistry Item)
    (error : Option SubscriptionError) : Inverse (registry.terminate error) := by
  intro subId registration
  change (∅ : Dictionary Nat String).lookup subId = some registration ↔
    ∃ state, ((∅ : Dictionary String Nat).lookup registration).bind
      (registry.wires[·]?) = some state ∧ state.subId = subId
  simp

theorem inverse_forget (inverse : Inverse before)
    (current : Current before registration wire)
    (apart : before.byRegistration.lookup registration = none →
      ∀ state, before.wires[wire]? = some state → before.byId.lookup state.subId = none) :
    Inverse (before.forget registration wire) := by
  obtain ⟨⟨state, inStore, -⟩, unique⟩ := current
  have byId : (before.forget registration wire).byId = before.byId.erase state.subId := by
    simp only [forget, inStore]
  cases registered : before.byRegistration.lookup registration with
  | some other =>
      have found : before.idOf registration = some state.subId := by
        obtain rfl := unique other registered
        rw [idOf, wireOf, registered]
        simp [inStore]
      exact inverse.erase found rfl byId rfl
  | none =>
      -- the wire was failed or terminated meanwhile: nothing is left to remove
      have unmapped := apart registered state inStore
      rw [Dictionary.erase_eq_self unmapped] at byId
      exact inverse.congr (Dictionary.erase_eq_self registered) byId rfl

/-- While the last consumer of a wire unsubscribes, its id is mapped only if
the wire is registered. -/
def ClosingApart (registry : SubscriptionRegistry Item) : Prop :=
  ∀ registration wire consumer cancelled,
    registry.holder = some (.closing registration wire consumer cancelled) →
    registry.byRegistration.lookup registration = none →
    ∀ state, registry.wires[wire]? = some state → registry.byId.lookup state.subId = none

/-- The tables are inverse, also to whoever holds the lock. -/
structure InverseHeld (registry : SubscriptionRegistry Item) : Prop where
  inverse : Inverse registry
  closing : ClosingApart registry

theorem ClosingApart.of_not_closing
    (notClosing : ∀ registration wire consumer cancelled,
      after.holder ≠ some (.closing registration wire consumer cancelled)) : ClosingApart after :=
  fun registration wire consumer cancelled holds =>
    (notClosing registration wire consumer cancelled holds).elim

theorem InverseHeld.of_sameTables (held : InverseHeld before) (same : SameTables before after) :
    InverseHeld after where
  inverse := held.inverse.of_sameTables same
  closing registration wire consumer cancelled holds absent state found := by
    rw [same.holder] at holds
    rw [same.byRegistration] at absent
    have keyed : (before.wires.map WireSubscription.key)[wire]? = some state.key := by
      rw [← same.keys, List.getElem?_map, found]
      rfl
    rw [List.getElem?_map] at keyed
    obtain ⟨earlier, inStore, sameKey⟩ := Option.map_eq_some_iff.mp keyed
    have sameId : earlier.subId = state.subId :=
      congrArg (fun key : String × Nat × Nat => key.2.1) sameKey
    rw [same.byId, ← sameId]
    exact held.closing registration wire consumer cancelled holds absent earlier inStore

/-- The lock goes to nobody, or to an operation that is not closing. -/
theorem InverseHeld.of_inverse (inverse : Inverse after)
    (notClosing : ∀ registration wire consumer cancelled,
      after.holder ≠ some (.closing registration wire consumer cancelled)) : InverseHeld after :=
  ⟨inverse, ClosingApart.of_not_closing notClosing⟩

/-- The loop head of restoration touches only the holder of the lock. -/
theorem inverse_restoreNext_iff {registry : SubscriptionRegistry Item}
    {remaining : List (String × Nat)} :
    Inverse (registry.restoreNext remaining) ↔ Inverse registry := by
  cases remaining with
  | nil => exact ⟨(·.congr rfl rfl rfl), (·.congr rfl rfl rfl)⟩
  | cons entry remaining => exact ⟨(·.congr rfl rfl rfl), (·.congr rfl rfl rfl)⟩

theorem inverseHeld_restoreNext (registry : SubscriptionRegistry Item)
    (inverse : Inverse registry) (remaining : List (String × Nat)) :
    InverseHeld (registry.restoreNext remaining) := by
  apply InverseHeld.of_inverse (inverse_restoreNext_iff.mpr inverse)
  cases remaining with
  | nil => nofun
  | cons entry remaining => nofun

theorem inverseHeld_subscribe (held : InverseHeld before) (registration : String) :
    InverseHeld (before.subscribe registration) := by
  unfold subscribe
  split
  · next wire _ => exact held.of_sameTables (before.sameTables_join registration wire)
  · exact InverseHeld.of_inverse (held.inverse.congr rfl rfl rfl) nofun

theorem inverseHeld_subscribed (held : InverseHeld before) (wellFormed : WellFormed before)
    {session subId : Nat} (admits : StoresFreeId before (.subscribed session subId))
    (stepped : before.subscribed session subId = some after) : InverseHeld after := by
  unfold subscribed at stepped
  unfold StoresFreeId at admits
  split at stepped
  · next registration since cancelled holds =>
      have absent := wellFormed.holder _ holds
      split at stepped
      · split at stepped <;> cases stepped
        · exact InverseHeld.of_inverse (held.inverse.congr rfl rfl rfl) nofun
        · next notCancelled =>
            rw [holds, Bool.eq_false_of_not_eq_true notCancelled] at admits
            have stored := inverse_store held.inverse wellFormed absent admits session
            have released : InverseHeld
                { before.store registration subId session with holder := none } :=
              InverseHeld.of_inverse (stored.congr rfl rfl rfl) nofun
            exact released.of_sameTables (sameTables_join _ _ _)
      · cases stepped
  · next registration wire oldId since remaining holds =>
      obtain ⟨atOldId, -, -⟩ := wellFormed.holder _ holds
      rw [holds] at admits
      split at stepped <;> cases stepped
      exact inverseHeld_restoreNext _
        (inverse_rekey held.inverse wellFormed admits.1 atOldId admits.2 session) remaining
  · cases stepped

theorem inverseHeld_subscribeFailed (held : InverseHeld before)
    (stepped : before.subscribeFailed = some after) : InverseHeld after := by
  unfold subscribeFailed at stepped
  split at stepped <;> cases stepped
  · exact InverseHeld.of_inverse (held.inverse.congr rfl rfl rfl) nofun
  · next registration wire oldId since remaining holds =>
      exact inverseHeld_restoreNext _
        (inverse_failRegistration held.inverse registration .restore) remaining

theorem inverseHeld_unsubscribed (held : InverseHeld before) (wellFormed : WellFormed before)
    (stepped : before.unsubscribed = some after) : InverseHeld after := by
  unfold unsubscribed at stepped
  split at stepped <;> cases stepped
  · exact InverseHeld.of_inverse (held.inverse.congr rfl rfl rfl) nofun
  · next registration wire consumer cancelled holds =>
      have forgotten := inverse_forget held.inverse (wellFormed.holder _ holds)
        (held.closing registration wire consumer cancelled holds)
      exact InverseHeld.of_inverse (forgotten.congr rfl rfl rfl) nofun

theorem inverseHeld_unsubscribeFailed (held : InverseHeld before)
    (wellFormed : WellFormed before) (admits : StoresFreeId before .unsubscribeFailed)
    (stepped : before.unsubscribeFailed = some after) : InverseHeld after := by
  unfold unsubscribeFailed at stepped
  unfold StoresFreeId at admits
  split at stepped <;> cases stepped
  · next registration subId session holds =>
      rw [holds] at admits
      have stored := inverse_store held.inverse wellFormed (wellFormed.holder _ holds) admits
        session
      exact InverseHeld.of_inverse (stored.congr rfl rfl rfl) nofun
  · exact InverseHeld.of_inverse (held.inverse.congr rfl rfl rfl) nofun

theorem inverseHeld_cancel (held : InverseHeld before)
    (stepped : before.cancel = some after) : InverseHeld after := by
  unfold cancel at stepped
  split at stepped <;> cases stepped
  · exact InverseHeld.of_inverse (held.inverse.congr rfl rfl rfl) nofun
  · next registration wire consumer holds =>
      refine ⟨held.inverse.congr rfl rfl rfl, fun other index closer again suspended => ?_⟩
      cases suspended
      exact held.closing registration wire consumer false holds
  · exact InverseHeld.of_inverse (held.inverse.congr rfl rfl rfl) nofun

theorem inverseHeld_close (held : InverseHeld before) (registration : String)
    (consumer : Nat) : InverseHeld (before.close registration consumer) := by
  unfold close
  split
  · exact held.of_sameTables (before.sameTables_updateConsumer _ _)
  · next wire registered =>
      have discarded := held.of_sameTables (before.sameTables_discard wire consumer)
      split
      · exact discarded.of_sameTables (sameTables_updateConsumer _ _ _)
      · refine ⟨discarded.inverse.congr rfl rfl rfl, ?_⟩
        intro other index closer cancelled holds absent
        cases holds
        -- the wire is still registered when its last consumer starts to close
        change before.byRegistration.lookup registration = none at absent
        rw [registered] at absent
        cases absent

theorem inverseHeld_failRegistration (held : InverseHeld before) (wellFormed : WellFormed before)
    (registration : String) (error : SubscriptionError) :
    InverseHeld (before.failRegistration registration error) := by
  cases registered : before.wireOf registration with
  | none =>
      have unchanged : before.failRegistration registration error = before := by
        simp only [failRegistration, registered]
      rwa [unchanged]
  | some failed =>
      refine ⟨inverse_failRegistration held.inverse registration error, ?_⟩
      intro closed wire consumer cancelled holds absent state inStore
      rw [holder_failRegistration] at holds
      obtain ⟨-, unique⟩ := wellFormed.holder _ holds
      simp only [failRegistration, registered] at absent inStore ⊢
      change (before.byRegistration.erase registration).lookup closed = none at absent
      change before.wires[wire]? = some state at inStore
      change (before.byId.erase failed.subId).lookup state.subId = none
      by_cases same : closed = registration
      · subst same
        obtain ⟨index, found, atIndex⟩ := Option.bind_eq_some_iff.mp registered
        obtain rfl := unique index found
        rw [atIndex] at inStore
        obtain rfl : failed = state := Option.some.inj inStore
        exact AList.lookup_erase _ _
      · rw [AList.lookup_erase_ne same] at absent
        have unmapped := held.closing closed wire consumer cancelled holds absent state inStore
        by_cases sameId : state.subId = failed.subId
        · rw [sameId]
          exact AList.lookup_erase _ _
        · rwa [AList.lookup_erase_ne sameId]

theorem inverseHeld_terminate (registry : SubscriptionRegistry Item)
    (error : Option SubscriptionError) : InverseHeld (registry.terminate error) where
  inverse := inverse_terminate registry error
  closing _ _ _ _ _ _ state _ := AList.lookup_empty state.subId

theorem inverseHeld_step (held : InverseHeld before) (wellFormed : WellFormed before)
    {action : RegistryAction Item} (admits : StoresFreeId before action)
    (stepped : before.step action = some after) : InverseHeld after := by
  cases action with
  | newSession =>
      cases stepped
      exact held.of_sameTables ⟨rfl, rfl, rfl, rfl, rfl⟩
  | assign registration subId =>
      simp only [step] at stepped
      split at stepped <;> cases stepped
      exact held.of_sameTables ⟨rfl, rfl, rfl, rfl, rfl⟩
  | publish subId item =>
      cases stepped
      exact held.of_sameTables (before.sameTables_publish subId item)
  | subscribe registration =>
      simp only [step] at stepped
      split at stepped <;> cases stepped
      exact inverseHeld_subscribe held registration
  | subscribed session subId => exact inverseHeld_subscribed held wellFormed admits stepped
  | subscribeFailed => exact inverseHeld_subscribeFailed held stepped
  | unsubscribed => exact inverseHeld_unsubscribed held wellFormed stepped
  | unsubscribeFailed => exact inverseHeld_unsubscribeFailed held wellFormed admits stepped
  | cancel => exact inverseHeld_cancel held stepped
  | aclose consumer =>
      cases stepped
      exact held.of_sameTables (before.sameTables_updateConsumer _ _)
  | cleanup consumer =>
      simp only [step] at stepped
      split at stepped <;> cases stepped
      exact held.of_sameTables ⟨rfl, rfl, rfl, rfl, rfl⟩
  | close consumer =>
      simp only [step] at stepped
      split at stepped
      · cases stepped
      · split at stepped <;> cases stepped
        exact inverseHeld_close held _ consumer
  | cancelClose consumer =>
      simp only [step] at stepped
      split at stepped <;> cases stepped
      exact held.of_sameTables (before.sameTables_updateConsumer _ _)
  | read consumer =>
      cases stepped
      exact held.of_sameTables (before.sameTables_updateConsumer _ _)
  | restore =>
      simp only [step] at stepped
      split at stepped <;> cases stepped
      exact inverseHeld_restoreNext before held.inverse _
  | failRegistration registration error =>
      cases stepped
      exact inverseHeld_failRegistration held wellFormed registration error
  | terminate error =>
      cases stepped
      exact inverseHeld_terminate before error

theorem invariant_inverseHeld (capacity : Nat) :
    (system Item capacity).Invariant StoresFreeId fun registry =>
      WellFormed registry ∧ InverseHeld registry := by
  refine (invariant_wellFormed capacity StoresFreeId).strengthen ?_ ?_
  · rintro first isFirst
    cases isFirst
    refine ⟨fun subId registration => ?_, nofun⟩
    change (∅ : Dictionary Nat String).lookup subId = some registration ↔
      ∃ state, ((∅ : Dictionary String Nat).lookup registration).bind
        (([] : List WireSubscription)[·]?) = some state ∧ state.subId = subId
    simp
  · intro current action next wellFormed _ held admits stepped
    exact inverseHeld_step held wellFormed admits stepped

/-- If every stored id is free, the two dictionaries are inverse to each other
in every reachable state, also while restoration is under way. -/
theorem inverse_of_reachable {capacity : Nat} {registry : SubscriptionRegistry Item}
    (reachable : (system Item capacity).ReachableUnder StoresFreeId registry) :
    Inverse registry :=
  ((invariant_inverseHeld capacity).of_reachable reachable).2.inverse

/-- Two registrations with one id are not inverse to anything. -/
theorem not_inverse_of_shared {other : String} (apart : other ≠ registration) (subId : Nat)
    (first : after.idOf registration = some subId) (second : after.idOf other = some subId) :
    ¬ Inverse after :=
  fun inverse => apart ((inverse_iff.mp inverse).injective first second)

theorem not_inverse_store (wellFormed : WellFormed before) {subId session : Nat}
    (stored : SameTables { before.store registration subId session with holder := none } after)
    (taken : ¬ IdFree before registration subId) : ¬ Inverse after := by
  have moved : after.idOf = Function.update before.idOf registration (some subId) := by
    rw [idOf_congr stored.byRegistration stored.keys]
    exact idOf_store wellFormed subId session
  simp only [IdFree, not_forall, not_not] at taken
  obtain ⟨other, apart, shared⟩ := taken
  apply not_inverse_of_shared apart subId
  · rw [moved, Function.update_self]
  · rwa [moved, Function.update_of_ne apart]

theorem not_inverse_rekey (wellFormed : WellFormed before)
    (current : Current before registration wire) {oldId newId session : Nat}
    (taken : ¬ (before.byRegistration.lookup registration = some wire ∧
      IdFree before registration newId)) :
    ¬ Inverse (before.rekey registration wire oldId newId session) := by
  have tables := sameTables_flushPending
    (before.remap registration wire oldId newId session) wire
  cases registered : before.byRegistration.lookup registration with
  | none =>
      -- the id is mapped to a registration that is gone
      intro inverse
      have mapped : (before.rekey registration wire oldId newId session).byId.lookup newId =
          some registration := by
        rw [rekey, tables.byId]
        exact AList.lookup_insert _
      have unregistered : (before.rekey registration wire oldId newId session).idOf registration =
          none := by
        apply idOf_eq_none
        rwa [byRegistration_rekey]
      rw [(inverse_iff.mp inverse registration newId).mpr mapped] at unregistered
      cases unregistered
  | some index =>
      obtain rfl := current.2 index registered
      have shared : ¬ IdFree before registration newId := fun free => taken ⟨registered, free⟩
      simp only [IdFree, not_forall, not_not] at shared
      obtain ⟨other, apart, second⟩ := shared
      have moved := idOf_rekey wellFormed registered oldId newId session
      apply not_inverse_of_shared apart newId
      · rw [moved, Function.update_self]
      · rwa [moved, Function.update_of_ne apart]

theorem not_inverse_of_not_storesFreeId (wellFormed : WellFormed before)
    {action : RegistryAction Item} (taken : ¬ StoresFreeId before action)
    (stepped : before.step action = some after) : ¬ Inverse after := by
  unfold StoresFreeId at taken
  split at taken
  · next session subId =>
      split at taken
      · next registration since holds =>
          simp only [step, subscribed, holds] at stepped
          split at stepped <;> cases stepped
          exact not_inverse_store wellFormed (sameTables_join _ _ _) taken
      · next registration wire oldId since remaining holds =>
          simp only [step, subscribed, holds] at stepped
          split at stepped <;> cases stepped
          obtain ⟨-, current, -⟩ := wellFormed.holder _ holds
          rw [inverse_restoreNext_iff]
          exact not_inverse_rekey wellFormed current taken
      · exact (taken trivial).elim
  · split at taken
    · next registration subId session holds =>
        simp only [step, unsubscribeFailed, holds] at stepped
        cases stepped
        exact not_inverse_store wellFormed (SameTables.refl _) taken
    · exact (taken trivial).elim
  · exact (taken trivial).elim

/-- The two dictionaries are inverse to each other throughout a run exactly if
every id that the run stores is free. -/
theorem along_inverse_iff (capacity : Nat) (actions : List (RegistryAction Item)) :
    (system Item capacity).Along Inverse { capacity } actions ↔
      (system Item capacity).StepsMeet StoresFreeId { capacity } actions := by
  have invariant := @invariant_inverseHeld Item capacity
  apply (system Item capacity).along_iff_stepsMeet
    (fun registry => WellFormed registry ∧ InverseHeld registry)
  · exact fun registry held => held.2.inverse
  · exact invariant.preserved
  · exact fun current action next held taken stepped =>
      not_inverse_of_not_storesFreeId held.1 taken stepped
  · exact invariant.starts _ rfl

/-- Two registrations are restored one after the other and find their ids
swapped: restoring the second one removes the mapping of the first. -/
def swappedRestore : List (RegistryAction Unit) :=
  [.subscribe "orders", .assign "orders" 1, .subscribed 0 1,
    .subscribe "prices", .assign "prices" 2, .subscribed 0 2,
    .newSession, .restore, .assign "orders" 2, .subscribed 1 2,
    .assign "prices" 1, .subscribed 1 1]

theorem exists_lost_mapping : ∃ registry : SubscriptionRegistry Unit,
    (system Unit 4).Reachable registry ∧ registry.holder = none ∧ ¬ Inverse registry := by
  refine ⟨_, (system Unit 4).reachable_of_run rfl swappedRestore rfl, rfl, ?_⟩
  intro inverse
  have mapped := (inverse 2 "orders").mpr ⟨_, rfl, rfl⟩
  cases mapped

/-- The only registration gets another id in the second session. -/
theorem inverse_moved_id : ∃ registry : SubscriptionRegistry Unit,
    registry.idOf "orders" = some 2 ∧ registry.byId.lookup 1 = none ∧ Inverse registry := by
  have first : ∀ other, other ≠ "orders" → ({ capacity := 4 } : SubscriptionRegistry Unit).idOf
      other ≠ some 1 := fun other _ => by
    rw [idOf_eq_none (AList.lookup_empty other)]
    nofun
  have meets : (system Unit 4).StepsMeet StoresFreeId { capacity := 4 }
      [.subscribe "orders", .assign "orders" 1, .subscribed 0 1, .newSession, .restore,
        .assign "orders" 2, .subscribed 1 2] :=
    (system Unit 4).stepsMeet_cons rfl trivial <| (system Unit 4).stepsMeet_cons rfl trivial <|
      (system Unit 4).stepsMeet_cons rfl first <| (system Unit 4).stepsMeet_cons rfl trivial <|
      (system Unit 4).stepsMeet_cons rfl trivial <| (system Unit 4).stepsMeet_cons rfl trivial <|
      (system Unit 4).stepsMeet_cons rfl ⟨rfl, fun other apart => by
        rw [idOf_eq_none ((AList.lookup_insert_ne apart).trans (AList.lookup_empty other))]
        nofun⟩ trivial
  exact ⟨_, rfl, rfl, inverse_of_reachable
    ((system Unit 4).reachableUnder_of_run rfl _ rfl meets)⟩

end SubscriptionRegistry

end FitzClient
