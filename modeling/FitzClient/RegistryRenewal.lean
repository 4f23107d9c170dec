import FitzClient.RegistryAudience
import FitzClient.SubscriptionDelivery
import FitzClient.Sweep

/-!
# Renewed registrations

After a reconnect the registry subscribes all its wires again.  While it does,
a registration whose wire has the id of an earlier session is one that it has
yet to visit, and afterwards there is none.  Nothing else than the SUBSCRIBEs of
the registry gives a wire an id, and it stores every id with the session that
the SUBSCRIBE was answered in.  Whoever listens sits on the wire of a registration,
so that after a restoration the broker serves all of them again.
-/

namespace FitzClient

namespace SubscriptionRegistry

variable {Item : Type} {before after registry : SubscriptionRegistry Item}
  {registration : String} {action : RegistryAction Item}

/-- The registrations that restoration has yet to visit, with the one it is
at. -/
def snapshot (registry : SubscriptionRegistry Item) : List String :=
  match registry.holder with
  | some (.restoring registration _ _ _ remaining) => registration :: remaining.map (·.1)
  | _ => []

/-- The wire of this registration has an id of another session. -/
def Stale (registry : SubscriptionRegistry Item) (registration : String) : Prop :=
  ∃ wire state, registry.byRegistration.lookup registration = some wire ∧
    registry.wires[wire]? = some state ∧ state.session ≠ registry.session

def sweep (registry : SubscriptionRegistry Item) : Sweep String where
  stale := {registration | registry.Stale registration}
  remaining := registry.snapshot

/-- The broker gave the ids. -/
structure Sourced (registry : SubscriptionRegistry Item) : Prop where
  wires : ∀ (wire : Nat) (state : WireSubscription), registry.wires[wire]? = some state →
    Gave registry state.session state.subId state.registration
  compensating : ∀ registration subId session,
    registry.holder = some (.compensating registration subId session) →
    Gave registry session subId registration

/-- Whatever is stale will be visited, and nothing stale will be stored. -/
structure Renewing (registry : SubscriptionRegistry Item) : Prop where
  covered : registry.sweep.Covered
  compensating : ∀ registration subId session,
    registry.holder = some (.compensating registration subId session) →
    session = registry.session

/-- This happens within a session: a SUBSCRIBE is answered in the session that
it returns in, and restoration is not cancelled. -/
def InSession (registry : SubscriptionRegistry Item) : RegistryAction Item → Prop
  | .newSession => False
  | .subscribed session _ => session = registry.session
  | .cancel => registry.snapshot = []
  | _ => True

/-- A step drops registrations, or stores a wire, or moves a wire to another
id; restoration drops or moves what it visits.  A SUBSCRIBE that returns was
answered in the session `answered`. -/
inductive TableStep (before after : SubscriptionRegistry Item) (answered : Nat) : Prop
  | narrows (narrows : Narrows before after)
      (visits : ∀ registration ∈ before.snapshot, registration ∈ after.snapshot ∨
        after.byRegistration.lookup registration = none)
  | stores (registration : String) (subId session : Nat) (idle : before.snapshot = [])
      (given : Gave before session subId registration)
      (current : session = answered ∨
        before.holder = some (.compensating registration subId session))
      (byRegistration : after.byRegistration =
        before.byRegistration.insert registration before.wires.length)
      (keys : after.wires.map WireSubscription.key =
        before.wires.map WireSubscription.key ++ [(registration, subId, session)])
  | renews (registration : String) (wire subId : Nat) (current : Current before registration wire)
      (given : Gave before answered subId registration)
      (byRegistration : after.byRegistration = before.byRegistration)
      (keys : after.wires.map WireSubscription.key =
        (before.wires.map WireSubscription.key).modify wire fun key =>
          (key.1, subId, answered))
      (visits : ∀ other ∈ before.snapshot, other ∈ after.snapshot ∨ other = registration)

/-- What a step within a session does. -/
structure SessionStep (before after : SubscriptionRegistry Item) (answered : Nat) : Prop where
  tables : TableStep before after answered
  session : after.session = before.session
  assigned : ∀ assignment ∈ before.assigned, assignment ∈ after.assigned
  compensating : ∀ registration subId session,
    after.holder = some (.compensating registration subId session) →
    before.holder = some (.compensating registration subId session) ∨
      session = answered ∧ Gave before session subId registration

variable {answered : Nat}

theorem snapshot_of_holder (same : after.holder = before.holder) :
    after.snapshot = before.snapshot := by
  rw [snapshot, same, snapshot]

theorem snapshot_restoreNext (registry : SubscriptionRegistry Item)
    (remaining : List (String × Nat)) :
    (registry.restoreNext remaining).snapshot = remaining.map (·.1) := by
  cases remaining <;> rfl

theorem sessionStep_of_sameTables (same : SameTables before after)
    (session : after.session = before.session)
    (assigned : ∀ assignment ∈ before.assigned, assignment ∈ after.assigned) :
    SessionStep before after answered where
  tables := .narrows same.narrows fun registration member => by
    rw [snapshot_of_holder same.holder]
    exact Or.inl member
  session := session
  assigned := assigned
  compensating _ _ _ holds := Or.inl (same.holder ▸ holds)

/-- Registrations are dropped while nothing is restored. -/
theorem sessionStep_of_narrows (narrows : Narrows before after) (idle : before.snapshot = [])
    (session : after.session = before.session) (assigned : after.assigned = before.assigned)
    (compensating : ∀ registration subId session,
      after.holder = some (.compensating registration subId session) →
      before.holder = some (.compensating registration subId session)) :
    SessionStep before after answered where
  tables := .narrows narrows fun registration member => by
    rw [idle] at member
    cases member
  session := session
  assigned assignment member := assigned ▸ member
  compensating _ _ _ holds := Or.inl (compensating _ _ _ holds)

theorem TableStep.proceeds (step : TableStep before after before.session)
    (renewing : Renewing before) (session : after.session = before.session) :
    before.sweep.Proceeds after.sweep := by
  intro registration stale
  change before.Stale registration ∧
    (registration ∈ before.snapshot → registration ∈ after.snapshot)
  obtain ⟨wire, state, leads, found, other⟩ := stale
  rw [session] at other
  have keyed : (after.wires.map WireSubscription.key)[wire]? = some state.key := by
    rw [List.getElem?_map, found]
    rfl
  cases step with
  | narrows narrows visits =>
      rw [narrows.keys, List.getElem?_map] at keyed
      obtain ⟨earlier, foundEarlier, same⟩ := Option.map_eq_some_iff.mp keyed
      have sameSession : earlier.session = state.session := congrArg (·.2.2) same
      refine ⟨⟨wire, earlier, narrows.byRegistration _ _ leads, foundEarlier, ?_⟩, fun member => ?_⟩
      · rwa [sameSession]
      · refine (visits registration member).resolve_right fun absent => ?_
        rw [absent] at leads
        cases leads
  | stores stored subId since idle given current byRegistration keys =>
      rw [keys] at keyed
      rcases getElem?_concat_eq_some.mp keyed with old | ⟨-, isNew⟩
      · rw [List.getElem?_map] at old
        obtain ⟨earlier, foundEarlier, same⟩ := Option.map_eq_some_iff.mp old
        have sameSession : earlier.session = state.session := congrArg (·.2.2) same
        rw [byRegistration] at leads
        refine ⟨⟨wire, earlier, ?_, foundEarlier, by rwa [sameSession]⟩, fun member => ?_⟩
        · rcases Dictionary.lookup_insert_eq_some.mp leads with ⟨-, atEnd⟩ | ⟨-, led⟩
          · have inStore := (List.getElem?_eq_some_iff.mp foundEarlier).1
            omega
          · exact led
        · rw [idle] at member
          cases member
      · have isNow : since = before.session := current.elim id (renewing.compensating _ _ _)
        have isCurrent : state.session = since := congrArg (·.2.2) isNew
        exact (other (isCurrent.trans isNow)).elim
  | renews visited target subId current given byRegistration keys visits =>
      rw [keys] at keyed
      rw [byRegistration] at leads
      obtain ⟨earlierKey, foundKey, same⟩ := getElem?_modify_eq_some.mp keyed
      by_cases touched : target = wire
      · rw [if_pos touched] at same
        have isCurrent : state.session = before.session := congrArg (·.2.2) same
        exact (other isCurrent).elim
      · rw [if_neg touched] at same
        rw [List.getElem?_map] at foundKey
        obtain ⟨earlier, foundEarlier, rfl⟩ := Option.map_eq_some_iff.mp foundKey
        have sameSession : state.session = earlier.session := congrArg (·.2.2) same
        refine ⟨⟨wire, earlier, leads, foundEarlier, by rwa [← sameSession]⟩, fun member => ?_⟩
        refine (visits registration member).resolve_right ?_
        rintro rfl
        exact touched (current.2 wire leads).symm

theorem TableStep.given (step : TableStep before after answered)
    (assigned : ∀ assignment ∈ before.assigned, assignment ∈ after.assigned)
    (sourced : Sourced before) {wire : Nat} {state : WireSubscription}
    (found : after.wires[wire]? = some state) :
    Gave after state.session state.subId state.registration := by
  have keyed : (after.wires.map WireSubscription.key)[wire]? = some state.key := by
    rw [List.getElem?_map, found]
    rfl
  have ofKey (key : String × Nat × Nat)
      (foundKey : (before.wires.map WireSubscription.key)[wire]? = some key) :
      Gave before key.2.2 key.2.1 key.1 := by
    rw [List.getElem?_map] at foundKey
    obtain ⟨earlier, foundEarlier, rfl⟩ := Option.map_eq_some_iff.mp foundKey
    exact sourced.wires wire earlier foundEarlier
  refine assigned _ ?_
  cases step with
  | narrows narrows _ =>
      rw [narrows.keys] at keyed
      exact ofKey _ keyed
  | stores registration subId session _ fresh _ _ keys =>
      rw [keys] at keyed
      rcases getElem?_concat_eq_some.mp keyed with old | ⟨-, isNew⟩
      · exact ofKey _ old
      · have same : Gave before state.key.2.2 state.key.2.1 state.key.1 := by
          rw [isNew]
          exact fresh
        exact same
  | renews registration target subId current fresh _ keys _ =>
      rw [keys] at keyed
      obtain ⟨earlier, foundEarlier, same⟩ := getElem?_modify_eq_some.mp keyed
      have old := ofKey _ foundEarlier
      by_cases touched : target = wire
      · rw [if_pos touched] at same
        subst touched
        -- the wire was made for this registration
        obtain ⟨owner, foundOwner, owned⟩ := current.1
        have sameName : earlier.1 = registration := by
          rw [List.getElem?_map, foundOwner] at foundEarlier
          rw [← Option.some.inj foundEarlier]
          exact owned
        have renewed : Gave before state.key.2.2 state.key.2.1 state.key.1 := by
          rw [same, sameName]
          exact fresh
        exact renewed
      · rw [if_neg touched] at same
        subst same
        exact old

theorem Renewing.of_sessionStep (renewing : Renewing before)
    (step : SessionStep before after before.session) : Renewing after where
  covered := (step.tables.proceeds renewing step.session).covered renewing.covered
  compensating registration subId session holds := by
    rw [step.session]
    rcases step.compensating registration subId session holds with held | ⟨current, -⟩
    · exact renewing.compensating _ _ _ held
    · exact current

theorem Sourced.of_sessionStep (sourced : Sourced before)
    (step : SessionStep before after answered) : Sourced after where
  wires _ _ found := step.tables.given step.assigned sourced found
  compensating registration subId session holds := by
    rcases step.compensating registration subId session holds with held | ⟨-, given⟩
    · exact step.assigned _ (sourced.compensating _ _ _ held)
    · exact step.assigned _ given

theorem keys_store (registry : SubscriptionRegistry Item) (registration : String)
    (subId session : Nat) :
    (registry.store registration subId session).wires.map WireSubscription.key =
      registry.wires.map WireSubscription.key ++ [(registration, subId, session)] :=
  List.map_append

theorem keys_rekey (registry : SubscriptionRegistry Item) (registration : String)
    (wire oldId newId session : Nat) :
    (registry.rekey registration wire oldId newId session).wires.map WireSubscription.key =
      (registry.wires.map WireSubscription.key).modify wire fun key => (key.1, newId, session) := by
  have flushed : (registry.rekey registration wire oldId newId session).wires =
      (registry.remap registration wire oldId newId session).wires := wires_flushPending _ wire
  rw [flushed]
  apply List.ext_getElem?
  intro index
  change ((registry.wires.modify wire _).map WireSubscription.key)[index]? = _
  rw [List.getElem?_map, List.getElem?_modify, List.getElem?_modify, List.getElem?_map]
  cases registry.wires[index]? with
  | none => rfl
  | some state =>
      by_cases touched : wire = index
      · simp [touched, WireSubscription.key]
      · simp [touched]

/-- `flushPending` and `restoreNext` change nothing of the ledger. -/
theorem ledger_rekey (registry : SubscriptionRegistry Item) (registration : String)
    (wire oldId newId session : Nat) (remaining : List (String × Nat)) :
    ((registry.rekey registration wire oldId newId session).restoreNext remaining).session =
        registry.session ∧
      ((registry.rekey registration wire oldId newId session).restoreNext remaining).assigned =
        registry.assigned := by
  obtain ⟨consumers, deliveries, pending, flushed, -⟩ :=
    (registry.remap registration wire oldId newId session).exists_flushPending wire
  rw [rekey, flushed]
  cases remaining <;> exact ⟨rfl, rfl⟩

theorem ledger_failRegistration (registry : SubscriptionRegistry Item) (registration : String)
    (error : SubscriptionError) :
    (registry.failRegistration registration error).session = registry.session ∧
      (registry.failRegistration registration error).assigned = registry.assigned := by
  unfold failRegistration
  split <;> exact ⟨rfl, rfl⟩

/-- A registration that fails is not registered afterwards. -/
theorem lookup_failRegistration (wellFormed : WellFormed registry) (registration : String)
    (error : SubscriptionError) :
    (registry.failRegistration registration error).byRegistration.lookup registration = none := by
  unfold failRegistration
  split
  · next missing =>
      cases leads : registry.byRegistration.lookup registration with
      | none => rfl
      | some wire =>
          obtain ⟨state, found, -⟩ := wellFormed.owned _ _ leads
          rw [wireOf, leads] at missing
          cases found.symm.trans missing
  · change (registry.byRegistration.erase registration).lookup registration = none
    simp

theorem sessionStep_subscribed {session subId : Nat} (wellFormed : WellFormed before)
    (stepped : before.subscribed session subId = some after) :
    SessionStep before after session := by
  unfold subscribed at stepped
  split at stepped
  · next registration since cancelled holds =>
      have idle : before.snapshot = [] := by rw [snapshot, holds]
      split at stepped
      · next given =>
          split at stepped <;> cases stepped
          · exact {
              tables := .narrows ⟨fun _ _ => id, rfl⟩ fun _ member => by
                rw [idle] at member
                cases member
              session := rfl
              assigned := fun _ => id
              compensating := fun _ _ _ held => by
                cases held
                exact Or.inr ⟨rfl, given.2⟩ }
          · have same := sameTables_join
              { before.store registration subId session with holder := none } registration
              before.wires.length
            have ledger := ledger_join
              { before.store registration subId session with holder := none } registration
              before.wires.length
            exact {
              tables := .stores registration subId session idle given.2 (Or.inl rfl)
                same.byRegistration
                (same.keys.trans (before.keys_store registration subId session))
              session := ledger.2
              assigned := fun _ member => ledger.1 ▸ member
              compensating := fun _ _ _ held => by
                rw [same.holder] at held
                cases held }
      · cases stepped
  · next registration wire oldId since remaining holds =>
      obtain ⟨-, isCurrent, -⟩ := wellFormed.holder _ holds
      split at stepped <;> cases stepped
      next given =>
      have tables := before.byRegistration_rekey registration wire oldId subId session
      have keys := before.keys_rekey registration wire oldId subId session
      have ledger := before.ledger_rekey registration wire oldId subId session remaining
      exact {
        tables := .renews registration wire subId isCurrent given.2
          (by cases remaining <;> exact tables) (by cases remaining <;> exact keys)
          fun other member => by
            rw [snapshot, holds] at member
            rw [snapshot_restoreNext]
            exact (List.mem_cons.mp member).symm
        session := ledger.1
        assigned := fun _ member => ledger.2 ▸ member
        compensating := fun _ _ _ held => by cases remaining <;> cases held }
  · cases stepped

theorem sessionStep_subscribeFailed (wellFormed : WellFormed before)
    (stepped : before.subscribeFailed = some after) : SessionStep before after answered := by
  unfold subscribeFailed at stepped
  split at stepped
  · next registration since cancelled holds =>
      cases stepped
      exact sessionStep_of_narrows ⟨fun _ _ => id, rfl⟩ (by rw [snapshot, holds]) rfl rfl nofun
  · next registration wire oldId since remaining holds =>
      cases stepped
      obtain ⟨byRegistration, keys⟩ := before.narrows_failRegistration registration .restore
      have absent := lookup_failRegistration wellFormed registration .restore
      have ledger := before.ledger_failRegistration registration .restore
      exact {
        tables := .narrows
          ⟨by cases remaining <;> exact byRegistration, by cases remaining <;> exact keys⟩
          fun other member => by
            rw [snapshot, holds] at member
            rw [snapshot_restoreNext]
            rcases List.mem_cons.mp member with rfl | later
            · exact Or.inr (by cases remaining <;> exact absent)
            · exact Or.inl later
        session := by cases remaining <;> exact ledger.1
        assigned := fun _ member => by cases remaining <;> exact ledger.2 ▸ member
        compensating := fun _ _ _ held => by cases remaining <;> cases held }
  · cases stepped

theorem sessionStep_unsubscribed (stepped : before.unsubscribed = some after) :
    SessionStep before after answered := by
  unfold unsubscribed at stepped
  split at stepped <;> cases stepped
  · next registration subId session holds =>
      exact sessionStep_of_narrows ⟨fun _ _ => id, rfl⟩ (by rw [snapshot, holds]) rfl rfl nofun
  · next registration wire consumer cancelled holds =>
      obtain ⟨byRegistration, keys⟩ := before.narrows_forget registration wire
      exact sessionStep_of_narrows ⟨byRegistration, keys⟩ (by rw [snapshot, holds]) rfl rfl nofun

theorem sessionStep_unsubscribeFailed (sourced : Sourced before)
    (stepped : before.unsubscribeFailed = some after) : SessionStep before after answered := by
  unfold unsubscribeFailed at stepped
  split at stepped <;> cases stepped
  · next registration subId session holds =>
      have given := sourced.compensating _ _ _ holds
      exact {
        tables := .stores registration subId session (by rw [snapshot, holds]) given
          (Or.inr holds) rfl (before.keys_store registration subId session)
        session := rfl
        assigned := fun _ => id
        compensating := nofun }
  · next registration wire consumer cancelled holds =>
      exact sessionStep_of_narrows ⟨fun _ _ => id, rfl⟩ (by rw [snapshot, holds]) rfl rfl nofun

theorem sessionStep_cancel (idle : before.snapshot = []) (stepped : before.cancel = some after) :
    SessionStep before after answered := by
  unfold cancel at stepped
  split at stepped <;> cases stepped
  · exact sessionStep_of_narrows ⟨fun _ _ => id, rfl⟩ idle rfl rfl nofun
  · exact sessionStep_of_narrows ⟨fun _ _ => id, rfl⟩ idle rfl rfl nofun
  · exact sessionStep_of_narrows ⟨fun _ _ => id, rfl⟩ idle rfl rfl nofun

theorem sessionStep_close (registry : SubscriptionRegistry Item) (idle : registry.holder = none)
    (registration : String) (consumer : Nat) :
    SessionStep registry (registry.close registration consumer) answered := by
  have nothing : registry.snapshot = [] := by rw [snapshot, idle]
  have discarded (wire : Nat) := registry.sameTables_discard wire consumer
  unfold close
  split
  · exact sessionStep_of_sameTables (registry.sameTables_updateConsumer _ _) rfl fun _ => id
  · next wire _ =>
      split
      · exact sessionStep_of_sameTables
          ((discarded wire).trans (sameTables_updateConsumer _ _ _)) rfl fun _ => id
      · exact sessionStep_of_narrows ⟨fun _ _ => id, (discarded wire).keys⟩ nothing rfl rfl nofun

theorem ledger_publish (registry : SubscriptionRegistry Item) (subId : Nat) (item : Item) :
    (registry.publish subId item).session = registry.session ∧
      (registry.publish subId item).assigned = registry.assigned := by
  unfold publish
  split
  · exact ⟨rfl, rfl⟩
  · split
    · exact ⟨rfl, rfl⟩
    · unfold deliver
      split <;> exact ⟨rfl, rfl⟩

theorem sessionStep_of_step (wellFormed : WellFormed before) (sourced : Sourced before)
    (stays : action ≠ .newSession) (starts : action ≠ .restore)
    (uncancelled : action = .cancel → before.snapshot = [])
    (returns : ∀ session subId, action = .subscribed session subId → session = answered)
    (stepped : before.step action = some after) : SessionStep before after answered := by
  cases action with
  | newSession => exact (stays rfl).elim
  | assign registration subId =>
      simp only [step] at stepped
      split at stepped <;> cases stepped
      exact sessionStep_of_sameTables ⟨rfl, rfl, rfl, rfl, rfl⟩ rfl
        fun _ => List.mem_append_left _
  | publish subId item =>
      cases stepped
      have ledger := before.ledger_publish subId item
      exact sessionStep_of_sameTables (before.sameTables_publish subId item) ledger.1
        fun _ member => ledger.2 ▸ member
  | subscribe registration =>
      simp only [step] at stepped
      split at stepped <;> cases stepped
      next idle =>
      unfold subscribe
      split
      · next wire _ =>
          have ledger := before.ledger_join registration wire
          exact sessionStep_of_sameTables (before.sameTables_join registration wire) ledger.2
            fun _ member => ledger.1 ▸ member
      · exact sessionStep_of_narrows ⟨fun _ _ => id, rfl⟩ (by rw [snapshot, idle]) rfl rfl
          (by simp)
  | subscribed session subId =>
      obtain rfl := returns session subId rfl
      exact sessionStep_subscribed wellFormed stepped
  | subscribeFailed => exact sessionStep_subscribeFailed wellFormed stepped
  | unsubscribed => exact sessionStep_unsubscribed stepped
  | unsubscribeFailed => exact sessionStep_unsubscribeFailed sourced stepped
  | cancel => exact sessionStep_cancel (uncancelled rfl) stepped
  | aclose consumer =>
      cases stepped
      exact sessionStep_of_sameTables (before.sameTables_updateConsumer _ _) rfl fun _ => id
  | cleanup consumer =>
      simp only [step] at stepped
      split at stepped <;> cases stepped
      exact sessionStep_of_sameTables ⟨rfl, rfl, rfl, rfl, rfl⟩ rfl fun _ => id
  | close consumer =>
      simp only [step] at stepped
      split at stepped
      · cases stepped
      · split at stepped <;> cases stepped
        next idle => exact before.sessionStep_close idle.1 _ consumer
  | cancelClose consumer =>
      simp only [step] at stepped
      split at stepped <;> cases stepped
      exact sessionStep_of_sameTables (before.sameTables_updateConsumer _ _) rfl fun _ => id
  | read consumer =>
      cases stepped
      exact sessionStep_of_sameTables (before.sameTables_updateConsumer _ _) rfl fun _ => id
  | restore => exact (starts rfl).elim
  | failRegistration registration error =>
      cases stepped
      have ledger := before.ledger_failRegistration registration error
      have narrows := before.narrows_failRegistration registration error
      have holder := before.holder_failRegistration registration error
      exact {
        tables := .narrows narrows fun other member => by
          rw [snapshot_of_holder holder]
          exact Or.inl member
        session := ledger.1
        assigned := fun _ member => ledger.2 ▸ member
        compensating := fun _ _ _ held => Or.inl (holder ▸ held) }
  | terminate error =>
      cases stepped
      exact {
        tables := .narrows (before.narrows_terminate error) fun _ => Or.inl
        session := rfl
        assigned := fun _ => id
        compensating := fun _ _ _ => Or.inl }

/-- Restoration is to visit every registration. -/
theorem renewing_restore (stepped : before.step .restore = some after) : Renewing after := by
  simp only [step] at stepped
  split at stepped <;> cases stepped
  have idle (other : RegistryOperation) (held : (before.restoreNext before.registrations).holder =
      some other) : ∃ registration wire oldId since remaining,
        other = .restoring registration wire oldId since remaining := by
    cases entries : before.registrations with
    | nil =>
        rw [entries] at held
        cases held
    | cons entry remaining =>
        rw [entries] at held
        cases held
        exact ⟨_, _, _, _, _, rfl⟩
  refine ⟨fun registration stale => ?_, fun registration subId session held => ?_⟩
  · obtain ⟨wire, state, leads, -, -⟩ := stale
    have registered : before.byRegistration.lookup registration = some wire := by
      cases entries : before.registrations with
      | nil => rwa [entries] at leads
      | cons entry remaining => rwa [entries] at leads
    change registration ∈ (before.restoreNext before.registrations).snapshot
    rw [snapshot_restoreNext]
    exact List.mem_map.mpr ⟨(registration, wire), mem_registrations.mpr registered, rfl⟩
  · obtain ⟨_, _, _, _, _, isRestoring⟩ := idle _ held
    cases isRestoring

theorem Renewing.step (renewing : Renewing before) (wellFormed : WellFormed before)
    (sourced : Sourced before) (inSession : before.InSession action)
    (stepped : before.step action = some after) : Renewing after := by
  by_cases starts : action = .restore
  · subst starts
    exact renewing_restore stepped
  · refine renewing.of_sessionStep (sessionStep_of_step wellFormed sourced ?_ starts ?_ ?_ stepped)
    · rintro rfl
      exact inSession
    · rintro rfl
      exact inSession
    · rintro session subId rfl
      exact inSession

/-- Every step keeps the ids: a SUBSCRIBE returns what the broker has given in
the session of its answer. -/
theorem Sourced.step (sourced : Sourced before) (wellFormed : WellFormed before)
    (stepped : before.step action = some after) : Sourced after := by
  by_cases steady : action ≠ .newSession ∧ action ≠ .restore ∧ action ≠ .cancel
  · obtain ⟨answered, returns⟩ : ∃ answered, ∀ session subId,
        action = .subscribed session subId → session = answered := by
      cases action with
      | subscribed session subId => exact ⟨session, by rintro _ _ ⟨⟩; rfl⟩
      | _ => exact ⟨0, by rintro _ _ ⟨⟩⟩
    exact sourced.of_sessionStep (sessionStep_of_step wellFormed sourced steady.1 steady.2.1
      (fun cancels => (steady.2.2 cancels).elim) returns stepped)
  · cases action with
    | newSession =>
        cases stepped
        exact ⟨sourced.wires, sourced.compensating⟩
    | cancel =>
        simp only [SubscriptionRegistry.step, cancel] at stepped
        split at stepped <;> cases stepped
        · exact ⟨sourced.wires, by simp⟩
        · exact ⟨sourced.wires, by simp⟩
        · exact ⟨sourced.wires, by simp⟩
    | restore =>
        simp only [SubscriptionRegistry.step] at stepped
        split at stepped <;> cases stepped
        cases before.registrations with
        | nil => exact ⟨sourced.wires, by simp [restoreNext]⟩
        | cons entry remaining => exact ⟨sourced.wires, by simp [restoreNext]⟩
    | _ => exact (steady ⟨by rintro ⟨⟩, by rintro ⟨⟩, by rintro ⟨⟩⟩).elim

theorem invariant_sourced (capacity : Nat) :
    (system Item capacity).Invariant (fun _ _ => True)
      fun registry => Attended registry ∧ Sourced registry where
  starts first starts := by
    subst starts
    exact ⟨attended_start capacity, fun _ _ found => by simp at found, nofun⟩
  preserved _ _ _ held _ stepped :=
    ⟨held.1.step stepped, held.2.step held.1.wellFormed stepped⟩

/-- A restoration leaves nobody behind.  Let it begin and come to its end, in
one session, with any other calls between its awaits: then every consumer that
listens sits on the wire of its registration, and the broker gave the id of this
wire to this registration in this session. -/
theorem renewed_of_restore {capacity : Nat} (reachable : (system Item capacity).Reachable before)
    {middle : SubscriptionRegistry Item} (restores : before.step .restore = some middle)
    (leads : (system Item capacity).LeadsUnder InSession middle after)
    (finished : after.snapshot = []) (consumer : Nat) (subscription : AsyncSubscription Item)
    (found : after.consumers[consumer]? = some subscription)
    (listens : subscription.Listening) :
    ∃ wire state, after.byRegistration.lookup subscription.registration = some wire ∧
      after.wires[wire]? = some state ∧ consumer ∈ state.consumers ∧
      state.session = after.session ∧
      Gave after after.session state.subId subscription.registration := by
  obtain ⟨attendedBefore, sourcedBefore⟩ := (invariant_sourced capacity).of_reachable reachable
  have atMiddle : (Attended middle ∧ Sourced middle) ∧ Renewing middle :=
    ⟨(invariant_sourced capacity).preserved before .restore middle ⟨attendedBefore, sourcedBefore⟩
      trivial restores, renewing_restore restores⟩
  have keeps (current : SubscriptionRegistry Item) (action : RegistryAction Item)
      (next : SubscriptionRegistry Item)
      (held : (Attended current ∧ Sourced current) ∧ Renewing current)
      (inSession : current.InSession action)
      (stepped : (system Item capacity).step current action = some next) :
      (Attended next ∧ Sourced next) ∧ Renewing next :=
    ⟨(invariant_sourced capacity).preserved current action next held.1 trivial stepped,
      held.2.step held.1.1.wellFormed held.1.2 inSession stepped⟩
  have atEnd := leads.induct keeps atMiddle
  obtain ⟨⟨attended, sourced⟩, renewing⟩ := atEnd
  obtain ⟨wire, leadsTo, seated⟩ := attended.settled.attends (consumer, subscription.registration)
    ⟨subscription, found, rfl, listens⟩
  obtain ⟨state, inStore, member⟩ := mem_seats.mp seated
  have fresh : state.session = after.session := by
    by_contra stale
    have none := renewing.covered.fresh finished
    have isStale : subscription.registration ∈ after.sweep.stale :=
      ⟨wire, state, leadsTo, inStore, stale⟩
    rw [none] at isStale
    exact isStale
  have owner : state.registration = subscription.registration := by
    obtain ⟨owned, foundOwned, named⟩ := attended.wellFormed.owned _ _ leadsTo
    rw [inStore] at foundOwned
    obtain rfl := Option.some.inj foundOwned
    exact named
  refine ⟨wire, state, leadsTo, inStore, member, fresh, ?_⟩
  have given := sourced.wires wire state inStore
  rwa [fresh, owner] at given

/-- Two registrations at the start of a second session. -/
def twoRegistrations : List (RegistryAction Unit) :=
  [.subscribe "orders", .assign "orders" 1, .subscribed 0 1,
    .subscribe "prices", .assign "prices" 2, .subscribed 0 2, .newSession]

/-- Their restoration has begun. -/
def restoringTwo : SubscriptionRegistry Unit :=
  ((system Unit 4).run { capacity := 4 } (twoRegistrations ++ [.restore])).get rfl

/-- They get each other's id. -/
theorem renewed_of_restore_swapped : ∃ registry : SubscriptionRegistry Unit, ∃ wire state,
    registry.holder = none ∧ registry.byRegistration.lookup "prices" = some wire ∧
      registry.wires[wire]? = some state ∧ 1 ∈ state.consumers ∧
      state.session = registry.session ∧ Gave registry registry.session state.subId "prices" := by
  have inSession : (system Unit 4).StepsMeet InSession restoringTwo
      [.assign "orders" 2, .subscribed 1 2, .assign "prices" 1, .subscribed 1 1] :=
    (system Unit 4).stepsMeet_cons rfl trivial <| (system Unit 4).stepsMeet_cons rfl rfl <|
      (system Unit 4).stepsMeet_cons rfl trivial <| (system Unit 4).stepsMeet_cons rfl rfl trivial
  have reachable := (system Unit 4).reachable_of_run rfl twoRegistrations rfl
  have leads := (system Unit 4).leadsUnder_of_run _ rfl inSession
  obtain ⟨wire, state, renewed⟩ :=
    renewed_of_restore reachable rfl leads rfl 1 { registration := "prices" } rfl (by decide)
  exact ⟨_, wire, state, rfl, renewed⟩

end SubscriptionRegistry

end FitzClient
