import FitzClient.SubscriptionInverse

/-!
# A registry and its broker

Within one session the broker keeps the subscriptions that it has accepted and
not yet removed.  A request that it does not reject takes effect there even if
the task that awaits it is cancelled.

The registry shields its requests from the first cancellation: a cancelled
`subscribe` takes its subscription back, and a cancelled `close` waits for its
UNSUBSCRIBE.  Whenever no operation is in progress, registry and broker agree,
unless a further cancellation has hit a request that the broker accepted.
-/

namespace FitzClient

/-- A wire request of the operation that holds the lock. -/
inductive WireRequest
  | subscribe (registration : String)
  | unsubscribe (registration : String)
  deriving DecidableEq, Repr

/-- What the broker does with a wire request. -/
inductive WireOutcome
  | granted (subId : Nat)
  | removed
  | rejected
  deriving DecidableEq, Repr

namespace WireRequest

/-- The live subscriptions after a request, if this is an outcome of it. -/
def effect (live : Dictionary String Nat) :
    WireRequest → WireOutcome → Option (Dictionary String Nat)
  | .subscribe registration, .granted subId => some (live.insert registration subId)
  | .unsubscribe registration, .removed => some (live.erase registration)
  | _, .rejected => some live
  | _, _ => none

end WireRequest

namespace RegistryOperation

/-- The request that the operation awaits. -/
def request : RegistryOperation → WireRequest
  | .subscribing registration _ _ | .restoring registration _ _ _ _ => .subscribe registration
  | .compensating registration _ _ | .closing registration _ _ _ => .unsubscribe registration

/-- A cancellation of the operation now cancels the task of its request. -/
def exposed : RegistryOperation → Bool
  | .subscribing _ _ cancelled | .closing _ _ _ cancelled => cancelled
  | .compensating _ _ _ | .restoring _ _ _ _ _ => true

end RegistryOperation

/-- A registry and the subscriptions that are live on the broker. -/
structure BrokeredRegistry (Item : Type) where
  registry : SubscriptionRegistry Item
  live : Dictionary String Nat := ∅
  deriving DecidableEq

/-- What can happen within one session.  `answer` is the broker's answer to the
request of the lock holder, `cancelRequest` a cancellation that reaches this
request, with what the broker does all the same. -/
inductive BrokeredAction (Item : Type)
  | subscribe (registration : String)
  | publish (subId : Nat) (item : Item)
  | aclose (consumer : Nat)
  | cleanup (consumer : Nat)
  | close (consumer : Nat)
  | cancelClose (consumer : Nat)
  | read (consumer : Nat)
  | cancel
  | answer (outcome : WireOutcome)
  | cancelRequest (outcome : WireOutcome)
  deriving DecidableEq, Repr

namespace BrokeredRegistry

variable {Item : Type}

/-- A step of the registry that does not involve the broker. -/
def runLocal (brokered : BrokeredRegistry Item) (action : RegistryAction Item) :
    Option (BrokeredRegistry Item) :=
  (brokered.registry.step action).map ({ brokered with registry := · })

/-- The registry learns the outcome of its request. -/
def learn (registry : SubscriptionRegistry Item) :
    WireRequest → WireOutcome → Option (SubscriptionRegistry Item)
  | .subscribe registration, .granted subId =>
      (registry.step (.assign registration subId)).bind
        (·.step (.subscribed registry.session subId))
  | .unsubscribe _, .removed => registry.step .unsubscribed
  | .subscribe _, _ => registry.step .subscribeFailed
  | .unsubscribe _, _ => registry.step .unsubscribeFailed

/-- The broker decides on the request of the lock holder, and the registry
learns the second outcome. -/
def resolve (brokered : BrokeredRegistry Item) (operation : RegistryOperation)
    (outcome learned : WireOutcome) : Option (BrokeredRegistry Item) :=
  match operation.request.effect brokered.live outcome,
      learn brokered.registry operation.request learned with
  | some live, some registry => some { registry, live }
  | _, _ => none

/-- One transition. -/
def step (brokered : BrokeredRegistry Item) :
    BrokeredAction Item → Option (BrokeredRegistry Item)
  | .subscribe registration => brokered.runLocal (.subscribe registration)
  | .publish subId item => brokered.runLocal (.publish subId item)
  | .aclose consumer => brokered.runLocal (.aclose consumer)
  | .cleanup consumer => brokered.runLocal (.cleanup consumer)
  | .close consumer => brokered.runLocal (.close consumer)
  | .cancelClose consumer => brokered.runLocal (.cancelClose consumer)
  | .read consumer => brokered.runLocal (.read consumer)
  | .cancel => brokered.runLocal .cancel
  | .answer outcome =>
      match brokered.registry.holder with
      | some operation => brokered.resolve operation outcome outcome
      | none => none
  | .cancelRequest outcome =>
      match brokered.registry.holder with
      | some operation =>
          if operation.exposed then brokered.resolve operation outcome .rejected else none
      | none => none

/-- All interleavings of a new registry within one session. -/
def system (Item : Type) (capacity : Nat) :
    LabelledSystem (BrokeredRegistry Item) (BrokeredAction Item) where
  starts brokered := brokered = { registry := { capacity } }
  step := step

/-- Whenever no operation is in progress, the live subscriptions are the
registered ones, with the same ids. -/
def Agrees (brokered : BrokeredRegistry Item) : Prop :=
  brokered.registry.holder = none → ∀ registration,
    brokered.live.lookup registration = brokered.registry.idOf registration

/-- No request that the broker accepts has its task cancelled. -/
def SparesAccepted (_ : BrokeredRegistry Item) : BrokeredAction Item → Prop
  | .cancelRequest outcome => outcome = .rejected
  | _ => True

/-- What should be live on the broker: a compensation has yet to remove what it
compensates. -/
def expected (registry : SubscriptionRegistry Item) : String → Option Nat :=
  match registry.holder with
  | some (.compensating registration subId _) =>
      Function.update registry.idOf registration (some subId)
  | _ => registry.idOf

/-- The broker mirrors the registry, and a wire that closes is registered. -/
structure Mirrors (brokered : BrokeredRegistry Item) : Prop where
  wellFormed : brokered.registry.WellFormed
  live : (fun registration => brokered.live.lookup registration) = expected brokered.registry
  closing : ∀ registration wire consumer cancelled,
    brokered.registry.holder = some (.closing registration wire consumer cancelled) →
    brokered.registry.byRegistration.lookup registration = some wire
  notRestoring : ∀ registration wire oldId since remaining,
    brokered.registry.holder ≠ some (.restoring registration wire oldId since remaining)

theorem Mirrors.agrees {brokered : BrokeredRegistry Item} (mirrors : Mirrors brokered) :
    Agrees brokered := by
  intro idle registration
  have mirrored := congrFun mirrors.live registration
  rwa [expected, idle] at mirrored

variable {before after : BrokeredRegistry Item}

theorem Mirrors.of_sameTables {registry : SubscriptionRegistry Item} (mirrors : Mirrors before)
    (same : SubscriptionRegistry.SameTables before.registry registry) :
    Mirrors { before with registry } where
  wellFormed := mirrors.wellFormed.of_sameTables same
  live := by
    have ids := SubscriptionRegistry.idOf_congr same.byRegistration same.keys
    rw [expected, same.holder, ids]
    exact mirrors.live
  closing registration wire consumer cancelled holds := by
    rw [same.byRegistration]
    rw [same.holder] at holds
    exact mirrors.closing registration wire consumer cancelled holds
  notRestoring registration wire oldId since remaining := by
    rw [same.holder]
    exact mirrors.notRestoring registration wire oldId since remaining

theorem expected_eq_idOf {registry : SubscriptionRegistry Item}
    (settled : ∀ registration subId session,
      registry.holder ≠ some (.compensating registration subId session)) :
    expected registry = registry.idOf := by
  unfold expected
  split
  · next registration subId session holds => exact (settled _ _ _ holds).elim
  · rfl

/-- The lock changes hands while the tables stay, and no unsubscription makes up for it. -/
theorem Mirrors.of_holder {registry : SubscriptionRegistry Item} (mirrors : Mirrors before)
    (wellFormed : registry.WellFormed) (ids : registry.idOf = before.registry.idOf)
    (wasSettled : ∀ registration subId session,
      before.registry.holder ≠ some (.compensating registration subId session))
    (isSettled : ∀ registration subId session,
      registry.holder ≠ some (.compensating registration subId session))
    (closing : ∀ registration wire consumer cancelled,
      registry.holder = some (.closing registration wire consumer cancelled) →
      registry.byRegistration.lookup registration = some wire)
    (notRestoring : ∀ registration wire oldId since remaining,
      registry.holder ≠ some (.restoring registration wire oldId since remaining)) :
    Mirrors { before with registry } where
  wellFormed := wellFormed
  live := by
    rw [expected_eq_idOf isSettled, ids, ← expected_eq_idOf wasSettled]
    exact mirrors.live
  closing := closing
  notRestoring := notRestoring

theorem mirrors_subscribe (mirrors : Mirrors before) {registration : String}
    (stepped : before.runLocal (.subscribe registration) = some after) : Mirrors after := by
  obtain ⟨registry, taken, rfl⟩ := Option.map_eq_some_iff.mp stepped
  have wellFormed := SubscriptionRegistry.wellFormed_step mirrors.wellFormed taken
  simp only [SubscriptionRegistry.step, SubscriptionRegistry.subscribe] at taken
  split at taken
  · next idle =>
      cases taken
      revert wellFormed
      split
      · exact fun _ => mirrors.of_sameTables (SubscriptionRegistry.sameTables_join _ _ _)
      · intro wellFormed
        refine mirrors.of_holder wellFormed rfl ?_ (by rintro _ _ _ ⟨⟩) (by rintro _ _ _ _ ⟨⟩)
          (by rintro _ _ _ _ _ ⟨⟩)
        rw [idle]
        rintro _ _ _ ⟨⟩
  · cases taken

theorem mirrors_close (mirrors : Mirrors before) {consumer : Nat}
    (stepped : before.runLocal (.close consumer) = some after) : Mirrors after := by
  obtain ⟨registry, taken, rfl⟩ := Option.map_eq_some_iff.mp stepped
  have wellFormed := SubscriptionRegistry.wellFormed_step mirrors.wellFormed taken
  simp only [SubscriptionRegistry.step] at taken
  split at taken
  · cases taken
  · next subscription _ =>
      split at taken
      · next idle =>
          cases taken
          revert wellFormed
          unfold SubscriptionRegistry.close
          split
          · exact fun _ => mirrors.of_sameTables
              (SubscriptionRegistry.sameTables_updateConsumer _ _ _)
          · next wire registered =>
              have discarded :=
                SubscriptionRegistry.sameTables_discard before.registry wire consumer
              split
              · exact fun _ => mirrors.of_sameTables
                  (discarded.trans (SubscriptionRegistry.sameTables_updateConsumer _ _ _))
              · intro wellFormed
                refine mirrors.of_holder wellFormed
                  (SubscriptionRegistry.idOf_congr rfl discarded.keys) ?_
                  (by rintro _ _ _ ⟨⟩) ?_ (by rintro _ _ _ _ _ ⟨⟩)
                · rw [idle.1]
                  rintro _ _ _ ⟨⟩
                · intro registration index closer cancelled holds
                  cases holds
                  exact registered
      · cases taken

theorem mirrors_cancel (mirrors : Mirrors before)
    (stepped : before.runLocal .cancel = some after) : Mirrors after := by
  obtain ⟨registry, taken, rfl⟩ := Option.map_eq_some_iff.mp stepped
  have wellFormed := SubscriptionRegistry.wellFormed_step mirrors.wellFormed taken
  simp only [SubscriptionRegistry.step, SubscriptionRegistry.cancel] at taken
  split at taken <;> cases taken
  · next registration since holds =>
      refine mirrors.of_holder wellFormed rfl ?_ (by rintro _ _ _ ⟨⟩) (by rintro _ _ _ _ ⟨⟩)
        (by rintro _ _ _ _ _ ⟨⟩)
      rw [holds]
      rintro _ _ _ ⟨⟩
  · next registration wire consumer holds =>
      refine mirrors.of_holder wellFormed rfl ?_ (by rintro _ _ _ ⟨⟩) ?_
        (by rintro _ _ _ _ _ ⟨⟩)
      · rw [holds]
        rintro _ _ _ ⟨⟩
      · intro other index closer cancelled suspended
        cases suspended
        exact mirrors.closing registration wire consumer false holds
  · next registration wire oldId since remaining holds =>
      exact (mirrors.notRestoring registration wire oldId since remaining holds).elim

theorem resolve_eq_some {operation : RegistryOperation} {outcome learned : WireOutcome} :
    before.resolve operation outcome learned = some after ↔
      operation.request.effect before.live outcome = some after.live ∧
        learn before.registry operation.request learned = some after.registry := by
  unfold resolve
  split
  · next live registry effect learns =>
      rw [effect, learns]
      constructor
      · intro same
        cases same
        exact ⟨rfl, rfl⟩
      · rintro ⟨sameLive, sameRegistry⟩
        cases sameLive
        cases sameRegistry
        rfl
  · next missing =>
      refine ⟨nofun, fun both => ?_⟩
      exact (missing _ _ both.1 both.2).elim

theorem wellFormed_learn {registry next : SubscriptionRegistry Item} {request : WireRequest}
    {outcome : WireOutcome} (wellFormed : registry.WellFormed)
    (learns : learn registry request outcome = some next) : next.WellFormed := by
  unfold learn at learns
  split at learns
  · obtain ⟨middle, assigned, granted⟩ := Option.bind_eq_some_iff.mp learns
    exact SubscriptionRegistry.wellFormed_step
      (SubscriptionRegistry.wellFormed_step wellFormed assigned) granted
  all_goals exact SubscriptionRegistry.wellFormed_step wellFormed learns

/-- After an accepted SUBSCRIBE the registration has its id, unless `subscribe`
was cancelled: then it is about to be compensated. -/
theorem learn_granted {registry next : SubscriptionRegistry Item} {registration : String}
    {since subId : Nat} {cancelled : Bool} (wellFormed : registry.WellFormed)
    (holds : registry.holder = some (.subscribing registration since cancelled))
    (learns : learn registry (.subscribe registration) (.granted subId) = some next) :
    expected next = Function.update registry.idOf registration (some subId) ∧
      (next.holder = none ∨
        next.holder = some (.compensating registration subId registry.session)) := by
  obtain ⟨middle, assigned, granted⟩ := Option.bind_eq_some_iff.mp learns
  simp only [SubscriptionRegistry.step] at assigned
  split at assigned
  · cases assigned
    simp only [SubscriptionRegistry.step, SubscriptionRegistry.subscribed, holds] at granted
    split at granted
    · cases cancelled with
      | true =>
          cases granted
          exact ⟨rfl, Or.inr rfl⟩
      | false =>
          cases granted
          have joined := SubscriptionRegistry.sameTables_join
            { registry.store registration subId registry.session with
              holder := none
              assigned := registry.assigned ++
                [{ session := registry.session, subId, registration }] }
            registration registry.wires.length
          refine ⟨?_, Or.inl joined.holder⟩
          calc
            expected _ = SubscriptionRegistry.idOf _ :=
              expected_eq_idOf (by
                intro other otherId session suspended
                rw [joined.holder] at suspended
                cases suspended)
            _ = (registry.store registration subId registry.session).idOf :=
              SubscriptionRegistry.idOf_congr joined.byRegistration joined.keys
            _ = Function.update registry.idOf registration (some subId) :=
              SubscriptionRegistry.idOf_store wellFormed subId registry.session
    · cases granted
  · cases assigned

/-- The lock is free or held by a compensation, and the live subscriptions are
what is expected. -/
theorem Mirrors.of_expected (wellFormed : after.registry.WellFormed)
    (live : (fun registration => after.live.lookup registration) = expected after.registry)
    (settled : after.registry.holder = none ∨ ∃ registration subId session,
      after.registry.holder = some (.compensating registration subId session)) :
    Mirrors after where
  wellFormed := wellFormed
  live := live
  closing registration wire consumer cancelled holds := by
    rcases settled with idle | ⟨other, subId, session, compensating⟩
    · rw [idle] at holds
      cases holds
    · rw [compensating] at holds
      cases holds
  notRestoring registration wire oldId since remaining holds := by
    rcases settled with idle | ⟨other, subId, session, compensating⟩
    · rw [idle] at holds
      cases holds
    · rw [compensating] at holds
      cases holds

theorem mirrors_granted (mirrors : Mirrors before) {registration : String} {since subId : Nat}
    {cancelled : Bool}
    (holds : before.registry.holder = some (.subscribing registration since cancelled))
    (effect : after.live = before.live.insert registration subId)
    (learns : learn before.registry (.subscribe registration) (.granted subId) =
      some after.registry) : Mirrors after := by
  obtain ⟨isExpected, settled⟩ := learn_granted mirrors.wellFormed holds learns
  refine Mirrors.of_expected (wellFormed_learn mirrors.wellFormed learns) ?_
    (settled.imp id fun compensating => ⟨_, _, _, compensating⟩)
  have wasExpected : expected before.registry = before.registry.idOf := by
    rw [expected, holds]
  rw [effect, Dictionary.lookup_insert_eq_update, mirrors.live, wasExpected, isExpected]

/-- A rejected SUBSCRIBE leaves nothing behind. -/
theorem mirrors_refused (mirrors : Mirrors before) {registration : String} {since : Nat}
    {cancelled : Bool}
    (holds : before.registry.holder = some (.subscribing registration since cancelled))
    (effect : after.live = before.live)
    (learns : before.registry.subscribeFailed = some after.registry) : Mirrors after := by
  have wellFormed : after.registry.WellFormed :=
    SubscriptionRegistry.wellFormed_subscribeFailed mirrors.wellFormed learns
  simp only [SubscriptionRegistry.subscribeFailed, holds, Option.some.injEq] at learns
  have idle : after.registry.holder = none := by rw [← learns]
  have ids : after.registry.idOf = before.registry.idOf := by
    rw [← learns]
    rfl
  refine Mirrors.of_expected wellFormed ?_ (Or.inl idle)
  rw [effect, mirrors.live, expected, expected, holds, idle, ids]

/-- After a compensation nothing is live for the registration. -/
theorem mirrors_compensated (mirrors : Mirrors before) {registration : String}
    {subId session : Nat}
    (holds : before.registry.holder = some (.compensating registration subId session))
    (effect : after.live = before.live.erase registration)
    (learns : before.registry.unsubscribed = some after.registry) : Mirrors after := by
  have wellFormed : after.registry.WellFormed :=
    SubscriptionRegistry.wellFormed_unsubscribed mirrors.wellFormed learns
  have absent := mirrors.wellFormed.holder _ holds
  simp only [SubscriptionRegistry.unsubscribed, holds, Option.some.injEq] at learns
  have idle : after.registry.holder = none := by rw [← learns]
  have ids : after.registry.idOf = before.registry.idOf := by
    rw [← learns]
    rfl
  refine Mirrors.of_expected wellFormed ?_ (Or.inl idle)
  rw [effect, Dictionary.lookup_erase_eq_update, mirrors.live, expected, expected, holds, idle,
    ids, Function.update_idem]
  exact Function.update_eq_self_iff.mpr (SubscriptionRegistry.idOf_eq_none absent).symm

/-- A rejected compensation is registered. -/
theorem mirrors_retained (mirrors : Mirrors before) {registration : String}
    {subId session : Nat}
    (holds : before.registry.holder = some (.compensating registration subId session))
    (effect : after.live = before.live)
    (learns : before.registry.unsubscribeFailed = some after.registry) : Mirrors after := by
  have wellFormed : after.registry.WellFormed :=
    SubscriptionRegistry.wellFormed_unsubscribeFailed mirrors.wellFormed learns
  simp only [SubscriptionRegistry.unsubscribeFailed, holds, Option.some.injEq] at learns
  have idle : after.registry.holder = none := by rw [← learns]
  have ids : after.registry.idOf =
      Function.update before.registry.idOf registration (some subId) := by
    rw [← learns]
    exact SubscriptionRegistry.idOf_store mirrors.wellFormed subId session
  refine Mirrors.of_expected wellFormed ?_ (Or.inl idle)
  rw [effect, mirrors.live, expected, expected, holds, idle, ids]

theorem mirrors_closed (mirrors : Mirrors before) {registration : String}
    {wire consumer : Nat} {cancelled : Bool}
    (holds : before.registry.holder = some (.closing registration wire consumer cancelled))
    (effect : after.live = before.live.erase registration)
    (learns : before.registry.unsubscribed = some after.registry) : Mirrors after := by
  have wellFormed : after.registry.WellFormed :=
    SubscriptionRegistry.wellFormed_unsubscribed mirrors.wellFormed learns
  simp only [SubscriptionRegistry.unsubscribed, holds, Option.some.injEq] at learns
  have idle : after.registry.holder = none := by
    rw [← learns]
    rfl
  have ids : after.registry.idOf = Function.update before.registry.idOf registration none := by
    rw [← learns]
    exact SubscriptionRegistry.idOf_erase rfl rfl
  refine Mirrors.of_expected wellFormed ?_ (Or.inl idle)
  rw [effect, Dictionary.lookup_erase_eq_update, mirrors.live, expected, expected, holds, idle,
    ids]

/-- A wire whose UNSUBSCRIBE is rejected stays registered. -/
theorem mirrors_stays (mirrors : Mirrors before) {registration : String}
    {wire consumer : Nat} {cancelled : Bool}
    (holds : before.registry.holder = some (.closing registration wire consumer cancelled))
    (effect : after.live = before.live)
    (learns : before.registry.unsubscribeFailed = some after.registry) : Mirrors after := by
  have wellFormed : after.registry.WellFormed :=
    SubscriptionRegistry.wellFormed_unsubscribeFailed mirrors.wellFormed learns
  simp only [SubscriptionRegistry.unsubscribeFailed, holds, Option.some.injEq] at learns
  have idle : after.registry.holder = none := by
    rw [← learns]
    rfl
  have ids : after.registry.idOf = before.registry.idOf := by
    rw [← learns]
    rfl
  refine Mirrors.of_expected wellFormed ?_ (Or.inl idle)
  rw [effect, mirrors.live, expected, expected, holds, idle, ids]

/-- Registry and broker stay in step when the registry learns what the broker
has done. -/
theorem mirrors_resolve (mirrors : Mirrors before) {operation : RegistryOperation}
    (holds : before.registry.holder = some operation) {outcome : WireOutcome}
    (resolved : before.resolve operation outcome outcome = some after) : Mirrors after := by
  obtain ⟨effect, learns⟩ := resolve_eq_some.mp resolved
  cases operation with
  | subscribing registration since cancelled =>
      cases outcome with
      | granted subId =>
          exact mirrors_granted mirrors holds (Option.some.inj effect).symm learns
      | removed => cases effect
      | rejected => exact mirrors_refused mirrors holds (Option.some.inj effect).symm learns
  | compensating registration subId session =>
      cases outcome with
      | granted subId => cases effect
      | removed => exact mirrors_compensated mirrors holds (Option.some.inj effect).symm learns
      | rejected => exact mirrors_retained mirrors holds (Option.some.inj effect).symm learns
  | closing registration wire consumer cancelled =>
      cases outcome with
      | granted subId => cases effect
      | removed => exact mirrors_closed mirrors holds (Option.some.inj effect).symm learns
      | rejected => exact mirrors_stays mirrors holds (Option.some.inj effect).symm learns
  | restoring registration wire oldId since remaining =>
      exact (mirrors.notRestoring registration wire oldId since remaining holds).elim

/-- A cancellation that hits a request which the broker accepts leaves registry
and broker apart. -/
theorem not_agrees_of_accepted (mirrors : Mirrors before) {operation : RegistryOperation}
    (holds : before.registry.holder = some operation) {outcome : WireOutcome}
    (accepted : outcome ≠ .rejected)
    (resolved : before.resolve operation outcome .rejected = some after) : ¬ Agrees after := by
  obtain ⟨effect, learns⟩ := resolve_eq_some.mp resolved
  intro agrees
  cases operation with
  | subscribing registration since cancelled =>
      have absent := mirrors.wellFormed.holder _ holds
      cases outcome with
      | granted subId =>
          simp only [learn, RegistryOperation.request, SubscriptionRegistry.step,
            SubscriptionRegistry.subscribeFailed, holds, Option.some.injEq] at learns
          have apart := agrees (by rw [← learns]) registration
          rw [← Option.some.inj effect, AList.lookup_insert, ← learns] at apart
          have unset : before.registry.idOf registration = none :=
            SubscriptionRegistry.idOf_eq_none absent
          exact Option.some_ne_none subId (apart.trans unset)
      | removed => cases effect
      | rejected => exact accepted rfl
  | compensating registration subId session =>
      cases outcome with
      | granted subId => cases effect
      | removed =>
          simp only [learn, RegistryOperation.request, SubscriptionRegistry.step,
            SubscriptionRegistry.unsubscribeFailed, holds, Option.some.injEq] at learns
          have apart := agrees (by rw [← learns]) registration
          rw [← Option.some.inj effect, AList.lookup_erase, ← learns] at apart
          have retained : (before.registry.store registration subId session).idOf registration =
              some subId := by
            rw [SubscriptionRegistry.idOf_store mirrors.wellFormed, Function.update_self]
          exact Option.some_ne_none subId (retained.symm.trans apart.symm)
      | rejected => exact accepted rfl
  | closing registration wire consumer cancelled =>
      have registered := mirrors.closing _ _ _ _ holds
      cases outcome with
      | granted subId => cases effect
      | removed =>
          simp only [learn, RegistryOperation.request, SubscriptionRegistry.step,
            SubscriptionRegistry.unsubscribeFailed, holds, Option.some.injEq] at learns
          have apart := agrees (by rw [← learns]; rfl) registration
          rw [← Option.some.inj effect, AList.lookup_erase, ← learns] at apart
          obtain ⟨⟨state, inStore, -⟩, -⟩ := mirrors.wellFormed.holder _ holds
          have stays : before.registry.idOf registration = some state.subId := by
            rw [SubscriptionRegistry.idOf, SubscriptionRegistry.wireOf, registered]
            simp [inStore]
          exact Option.some_ne_none state.subId (stays.symm.trans apart.symm)
      | rejected => exact accepted rfl
  | restoring registration wire oldId since remaining =>
      exact mirrors.notRestoring registration wire oldId since remaining holds

/-- A local step that leaves the tables and the lock alone. -/
theorem mirrors_runLocal (mirrors : Mirrors before) {action : RegistryAction Item}
    (same : ∀ registry, before.registry.step action = some registry →
      SubscriptionRegistry.SameTables before.registry registry)
    (stepped : before.runLocal action = some after) : Mirrors after := by
  obtain ⟨registry, taken, rfl⟩ := Option.map_eq_some_iff.mp stepped
  exact mirrors.of_sameTables (same registry taken)

theorem mirrors_step (mirrors : Mirrors before) {action : BrokeredAction Item}
    (spares : SparesAccepted before action) (stepped : before.step action = some after) :
    Mirrors after := by
  cases action with
  | subscribe registration => exact mirrors_subscribe mirrors stepped
  | publish subId item =>
      refine mirrors_runLocal mirrors (fun registry taken => ?_) stepped
      cases taken
      exact SubscriptionRegistry.sameTables_publish _ _ _
  | aclose consumer =>
      refine mirrors_runLocal mirrors (fun registry taken => ?_) stepped
      cases taken
      exact SubscriptionRegistry.sameTables_updateConsumer _ _ _
  | cleanup consumer =>
      refine mirrors_runLocal mirrors (fun registry taken => ?_) stepped
      simp only [SubscriptionRegistry.step] at taken
      split at taken <;> cases taken
      exact ⟨rfl, rfl, rfl, rfl, rfl⟩
  | close consumer => exact mirrors_close mirrors stepped
  | cancelClose consumer =>
      refine mirrors_runLocal mirrors (fun registry taken => ?_) stepped
      simp only [SubscriptionRegistry.step] at taken
      split at taken <;> cases taken
      exact SubscriptionRegistry.sameTables_updateConsumer _ _ _
  | read consumer =>
      refine mirrors_runLocal mirrors (fun registry taken => ?_) stepped
      cases taken
      exact SubscriptionRegistry.sameTables_updateConsumer _ _ _
  | cancel => exact mirrors_cancel mirrors stepped
  | answer outcome =>
      simp only [step] at stepped
      split at stepped
      · next operation holds => exact mirrors_resolve mirrors holds stepped
      · cases stepped
  | cancelRequest outcome =>
      obtain rfl : outcome = .rejected := spares
      simp only [step] at stepped
      split at stepped
      · next operation holds =>
          split at stepped
          · exact mirrors_resolve mirrors holds stepped
          · cases stepped
      · cases stepped

theorem mirrors_new (capacity : Nat) :
    Mirrors ({ registry := { capacity } } : BrokeredRegistry Item) where
  wellFormed :=
    (SubscriptionRegistry.invariant_wellFormed capacity fun _ _ => True).starts _ rfl
  live := by
    funext registration
    rfl
  closing := nofun
  notRestoring := nofun

/-- Registry and broker agree throughout a run, whenever no operation is in
progress, exactly if no cancellation hits a request that the broker accepts. -/
theorem along_agrees_iff (capacity : Nat) (actions : List (BrokeredAction Item)) :
    (system Item capacity).Along Agrees { registry := { capacity } } actions ↔
      (system Item capacity).StepsMeet SparesAccepted { registry := { capacity } } actions := by
  apply (system Item capacity).along_iff_stepsMeet Mirrors
  · exact fun brokered mirrors => mirrors.agrees
  · exact fun current action next mirrors spares stepped => mirrors_step mirrors spares stepped
  · intro current action next mirrors hit stepped
    cases action with
    | cancelRequest outcome =>
        simp only [system, step] at stepped
        split at stepped
        · next operation holds =>
            split at stepped
            · exact not_agrees_of_accepted mirrors holds hit stepped
            · cases stepped
        · cases stepped
    | _ => exact (hit trivial).elim
  · exact mirrors_new capacity

/-- `subscribe` is cancelled twice while the broker accepts its SUBSCRIBE: the
subscription stays live and nobody knows of it. -/
theorem exists_orphan : ∃ brokered : BrokeredRegistry Unit,
    (system Unit 4).Reachable brokered ∧ ¬ Agrees brokered := by
  refine ⟨_, (system Unit 4).reachable_of_run rfl
    [.subscribe "orders", .cancel, .cancelRequest (.granted 1)] rfl, ?_⟩
  intro agrees
  have orphan := agrees rfl "orders"
  cases orphan

end BrokeredRegistry

end FitzClient
