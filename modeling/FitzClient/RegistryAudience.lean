import FitzClient.SubscriptionAudience
import FitzClient.SubscriptionTables

/-!
# Who listens to a subscription registry

Every consumer that listens sits on the wire of a registration, and the wire
that is being unsubscribed has none of them.  So `terminate` leaves nobody
listening, and only a `subscribe` that returns adds a consumer that does.
-/

namespace FitzClient

namespace SubscriptionRegistry

variable {Item : Type} {before after registry : SubscriptionRegistry Item}
  {registration : String} {wire consumer : Nat} {member : Nat × String}

/-- The consumers of a wire. -/
def seats (registry : SubscriptionRegistry Item) (wire : Nat) : List Nat :=
  (registry.wires[wire]?.map (·.consumers)).getD []

/-- The registration whose wire the lock holder unsubscribes. -/
def parting (registry : SubscriptionRegistry Item) : Option String :=
  match registry.holder with
  | some (.closing registration _ _ _) => some registration
  | _ => none

def audience (registry : SubscriptionRegistry Item) : Audience String (Nat × String) :=
  audienceOf registry.byRegistration registry.seats registry.consumers registry.parting

/-- This action makes `subscribe` return a consumer. -/
def returns (registry : SubscriptionRegistry Item) : RegistryAction Item → Bool
  | .subscribe registration => (registry.byRegistration.lookup registration).isSome
  | .subscribed _ _ =>
      match registry.holder with
      | some (.subscribing _ _ false) => true
      | _ => false
  | _ => false

theorem mem_seats : consumer ∈ registry.seats wire ↔
    ∃ state, registry.wires[wire]? = some state ∧ consumer ∈ state.consumers := by
  unfold seats
  cases registry.wires[wire]? <;> simp

theorem seats_of_wires {update : WireSubscription → WireSubscription}
    (wires : after.wires = before.wires.modify wire update)
    (same : ∀ state, (update state).consumers = state.consumers) :
    after.seats = before.seats := by
  funext index
  unfold seats
  rw [wires, List.getElem?_modify]
  cases before.wires[index]? with
  | none => rfl
  | some state =>
      by_cases touched : wire = index
      · simp [touched, same]
      · simp [touched]

/-- A wire loses consumers, but not this one. -/
theorem mem_seats_filter {keeps : Nat → Bool} {index : Nat}
    (wires : after.wires = before.wires.modify wire fun state =>
      { state with consumers := state.consumers.filter keeps })
    (kept : consumer ∈ before.seats wire → keeps consumer = true) :
    consumer ∈ after.seats index ↔ consumer ∈ before.seats index := by
  unfold seats at kept ⊢
  rw [wires, List.getElem?_modify]
  by_cases touched : wire = index
  · subst touched
    cases found : before.wires[wire]? with
    | none => rfl
    | some state =>
        rw [found] at kept
        simpa using kept
  · cases before.wires[index]? with
    | none => rfl
    | some state => simp [touched]

theorem seats_store (registry : SubscriptionRegistry Item) (registration : String)
    (subId session : Nat) :
    (registry.store registration subId session).seats = registry.seats := by
  funext index
  unfold seats store
  rw [List.getElem?_append]
  split
  · rfl
  · next beyond =>
      rw [List.getElem?_eq_none (Nat.le_of_not_lt beyond)]
      cases index - registry.wires.length with
      | zero => rfl
      | succ later => rfl

theorem thins_updateConsumer (registry : SubscriptionRegistry Item) (consumer : Nat)
    {update : AsyncSubscription Item → AsyncSubscription Item}
    (named : ∀ subscription, (update subscription).registration = subscription.registration)
    (reflects : ∀ subscription, (update subscription).Listening → subscription.Listening) :
    registry.audience.Thins (registry.updateConsumer consumer update).audience :=
  thins_of_listeners fun _ => listeners_modify named reflects

theorem thins_endClose (registry : SubscriptionRegistry Item) (consumer : Nat) :
    registry.audience.Thins
      (registry.updateConsumer consumer AsyncSubscription.endClose).audience :=
  registry.thins_updateConsumer consumer (fun subscription => subscription.registration_endClose)
    fun subscription listens => (subscription.not_listening_endClose listens).elim

theorem listeners_pushTo (registry : SubscriptionRegistry Item) (targets : List Nat)
    (notification : Notification Item) :
    listeners (registry.pushTo targets notification).consumers ⊆ listeners registry.consumers :=
  fun _ => listeners_pushed

theorem thins_pushTo (registry : SubscriptionRegistry Item) (targets : List Nat)
    (notification : Notification Item) :
    registry.audience.Thins (registry.pushTo targets notification).audience :=
  thins_of_listeners (registry.listeners_pushTo targets notification)

theorem thins_foldl_pushTo (targets : List Nat) (notifications : List (Notification Item))
    (registry : SubscriptionRegistry Item) :
    registry.audience.Thins (notifications.foldl (pushTo · targets ·) registry).audience := by
  induction notifications generalizing registry with
  | nil => exact Audience.Thins.refl _
  | cons notification notifications ih =>
      exact (registry.thins_pushTo targets notification).trans (ih _)

theorem thins_flushPending (registry : SubscriptionRegistry Item) (wire : Nat) :
    registry.audience.Thins (registry.flushPending wire).audience := by
  unfold flushPending
  split
  · exact Audience.Thins.refl _
  · next state _ => exact thins_foldl_pushTo state.consumers _ registry

/-- Whoever refuses the item does not listen afterwards. -/
theorem refuses_of_listens {notification : Notification Item} {targets : List Nat}
    (target : member.1 ∈ targets)
    (listens : member ∈ listeners (registry.pushTo targets notification).consumers) :
    registry.refuses notification.item member.1 = false := by
  obtain ⟨subscription, found, -, isListening⟩ := listens
  change (registry.consumers.mapIdx _)[member.1]? = some subscription at found
  rw [List.getElem?_mapIdx] at found
  obtain ⟨earlier, foundEarlier, rfl⟩ := Option.map_eq_some_iff.mp found
  rw [if_pos target] at isListening
  rw [refuses, foundEarlier]
  by_contra refused
  exact AsyncSubscription.not_listening_of_refused (by simpa using refused) isListening

theorem thins_deliver (registry : SubscriptionRegistry Item) (wire : Nat)
    (notification : Notification Item) :
    registry.audience.Thins (registry.deliver wire notification).audience := by
  unfold deliver
  split
  · exact Audience.Thins.refl _
  · next state found =>
      refine thins_of_seats (registry.listeners_pushTo state.consumers notification) ?_
      intro member listens other
      refine @mem_seats_filter _ registry _ _ _ _ _ rfl fun seated => ?_
      have target : member.1 ∈ state.consumers := by simpa [seats, found] using seated
      simp [refuses_of_listens target listens]

theorem thins_publish (registry : SubscriptionRegistry Item) (subId : Nat) (item : Item) :
    registry.audience.Thins (registry.publish subId item).audience := by
  unfold publish
  split
  · exact Audience.Thins.refl _
  · split
    · exact Audience.Thins.refl _
    · exact registry.thins_deliver _ _

theorem parting_flushPending (registry : SubscriptionRegistry Item) (wire : Nat) :
    (registry.flushPending wire).parting = registry.parting := by
  rw [parting, (registry.sameTables_flushPending wire).holder, parting]

/-- A consumer joins the wire of its registration. -/
theorem joins_join (nothing : registry.parting = none) (inStore : wire < registry.wires.length)
    (leads : registry.byRegistration.lookup registration = some wire) :
    registry.audience.Joins Prod.snd (registry.join registration wire).audience := by
  have found := List.getElem?_eq_getElem inStore
  have enrolled : registry.audience.Joins Prod.snd
      (registry.enroll registration wire).audience := by
    have nothingAfter : (registry.enroll registration wire).parting = none := nothing
    unfold audience
    rw [nothing, nothingAfter]
    refine @joins_of_seats _ _ _ _ _ _ { registration } leads ?_ ?_
    · intro other index seated
      obtain ⟨state, found, member⟩ := mem_seats.mp seated
      refine mem_seats.mpr ⟨_, getElem?_modify_eq_some.mpr ⟨state, found, rfl⟩, ?_⟩
      split
      · exact List.mem_append_left _ member
      · exact member
    · exact mem_seats.mpr ⟨_, getElem?_modify_eq_some.mpr ⟨_, found, rfl⟩, by simp⟩
  refine enrolled.thin (thins_flushPending _ wire) ?_
  have nothingLeft : (registry.join registration wire).parting = none :=
    (parting_flushPending _ wire).trans nothing
  exact Set.eq_empty_of_forall_notMem fun key parts => by
    rw [audience, audienceOf, nothingLeft] at parts
    cases parts

theorem thins_store (absent : registry.byRegistration.lookup registration = none)
    (subId session : Nat) :
    registry.audience.Thins (registry.store registration subId session).audience := by
  unfold audience
  rw [seats_store]
  refine thins_insert absent ?_
  rw [seats, List.getElem?_eq_none (Nat.le_refl _)]
  rfl

/-- The lock holder goes on with another operation, or releases the lock. -/
theorem thins_suspend (registry : SubscriptionRegistry Item)
    (operation : Option RegistryOperation)
    (stays : { registry with holder := operation }.parting = none) :
    registry.audience.Thins { registry with holder := operation }.audience := by
  unfold audience
  rw [stays]
  exact thins_release

/-- `subscribe` stores the wire that it was granted, and returns a consumer. -/
theorem joins_store (absent : registry.byRegistration.lookup registration = none)
    (subId session : Nat) :
    registry.audience.Joins Prod.snd ({ registry.store registration subId session with
      holder := none }.join registration registry.wires.length).audience := by
  have stored := thins_store absent subId session
  have released := stored.trans (thins_suspend _ none rfl)
  have inStore : registry.wires.length <
      { registry.store registration subId session with holder := none }.wires.length := by
    simp [store]
  exact (joins_join rfl inStore
    (Dictionary.lookup_insert_eq_some.mpr (Or.inl ⟨rfl, rfl⟩))).after_thins released

/-- A consumer leaves its wire, and listens no more. -/
theorem thins_leave (registry : SubscriptionRegistry Item) (wire consumer : Nat)
    {update : AsyncSubscription Item → AsyncSubscription Item}
    (named : ∀ subscription, (update subscription).registration = subscription.registration)
    (ends : ∀ subscription, ¬ (update subscription).Listening) :
    registry.audience.Thins
      ((registry.discard wire consumer).updateConsumer consumer update).audience := by
  refine thins_of_seats (fun _ => listeners_modify named fun subscription listens =>
    (ends subscription listens).elim) ?_
  intro member listens other
  have stays : member.1 ≠ consumer := not_mem_listeners_modify ends listens
  exact @mem_seats_filter _ registry _ _ _ _ _ rfl fun _ => by simpa using stays

theorem thins_close (registry : SubscriptionRegistry Item) (registration : String)
    (consumer : Nat) : registry.audience.Thins (registry.close registration consumer).audience := by
  unfold close
  split
  · exact registry.thins_endClose consumer
  · next wire leads =>
      split
      · exact registry.thins_leave wire consumer AsyncSubscription.registration_endClose
          AsyncSubscription.not_listening_endClose
      · next empty =>
          refine (registry.thins_leave wire consumer
            AsyncSubscription.registration_awaitUnsubscribe
            AsyncSubscription.not_listening_awaitUnsubscribe).trans ?_
          refine thins_part fun found leadsFound => ?_
          obtain rfl : wire = found := Option.some.inj (leads.symm.trans leadsFound)
          change (registry.discard wire consumer).seats wire = []
          unfold seats
          cases state : (registry.discard wire consumer).wires[wire]? with
          | none => rfl
          | some left => simpa [state] using empty

theorem thins_forget (deserted : registry.audience.Deserted registration) (wire : Nat) :
    registry.audience.Thins (registry.forget registration wire).audience :=
  thins_erase deserted

theorem listeners_settle {targets : List Nat} {error : Option SubscriptionError}
    (listens : member ∈ listeners (registry.settle targets error).consumers) :
    member ∈ listeners registry.consumers ∧ member.1 ∉ targets :=
  listeners_ended listens

theorem thins_failRegistration (registry : SubscriptionRegistry Item) (registration : String)
    (error : SubscriptionError) :
    registry.audience.Thins (registry.failRegistration registration error).audience := by
  unfold failRegistration
  split
  · exact Audience.Thins.refl _
  · next state found =>
      have settled : registry.audience.Thins
          (registry.settle state.consumers (some error)).audience :=
        thins_of_listeners fun _ listens => (listeners_settle listens).1
      refine settled.trans (thins_erase fun member listens => ?_)
      rintro ⟨wire, leads, seated⟩
      change registry.byRegistration.lookup registration = some wire at leads
      rw [wireOf, leads] at found
      change registry.wires[wire]? = some state at found
      change member.1 ∈ registry.seats wire at seated
      rw [seats, found] at seated
      exact (listeners_settle listens).2 seated

theorem mem_registeredConsumers
    (leads : registry.byRegistration.lookup registration = some wire)
    (seated : consumer ∈ registry.seats wire) : consumer ∈ registry.registeredConsumers := by
  have member := AList.mem_lookup_iff.mp leads
  exact List.mem_flatMap.mpr ⟨⟨registration, wire⟩, member, seated⟩

/-- After `terminate` no consumer of a registered wire listens. -/
theorem not_mem_seats_terminate {error : Option SubscriptionError}
    (listens : member ∈ listeners (registry.terminate error).consumers) (registration : String)
    (wire : Nat) (leads : registry.byRegistration.lookup registration = some wire) :
    member.1 ∉ registry.seats wire :=
  fun seated => (listeners_settle listens).2 (mem_registeredConsumers leads seated)

theorem thins_terminate (registry : SubscriptionRegistry Item)
    (error : Option SubscriptionError) :
    registry.audience.Thins (registry.terminate error).audience :=
  thins_clear (fun _ listens => (listeners_settle listens).1) fun _ => not_mem_seats_terminate

/-- `terminate` ends every consumer that listens. -/
theorem listeners_terminate (settled : registry.audience.Settled Prod.snd)
    (error : Option SubscriptionError) : listeners (registry.terminate error).consumers = ∅ :=
  listeners_eq_empty settled (fun _ listens => (listeners_settle listens).1)
    fun _ => not_mem_seats_terminate

theorem thins_rekey (registry : SubscriptionRegistry Item) (registration : String)
    (wire oldId newId session : Nat) :
    registry.audience.Thins (registry.rekey registration wire oldId newId session).audience := by
  have same : (registry.remap registration wire oldId newId session).seats = registry.seats :=
    seats_of_wires rfl fun _ => rfl
  have remapped : registry.audience =
      (registry.remap registration wire oldId newId session).audience := by
    unfold audience
    rw [same]
    rfl
  rw [remapped]
  exact thins_flushPending _ wire

theorem thins_restoreNext (registry : SubscriptionRegistry Item)
    (remaining : List (String × Nat)) :
    registry.audience.Thins (registry.restoreNext remaining).audience := by
  cases remaining with
  | nil => exact registry.thins_suspend none rfl
  | cons entry remaining => exact registry.thins_suspend _ rfl

theorem thins_subscribeFailed (stepped : before.subscribeFailed = some after) :
    before.audience.Thins after.audience := by
  unfold subscribeFailed at stepped
  split at stepped <;> cases stepped
  · exact before.thins_suspend none rfl
  · next registration _ _ _ remaining _ =>
      exact (before.thins_failRegistration registration .restore).trans (thins_restoreNext _ _)

theorem thins_unsubscribed (settled : before.audience.Settled Prod.snd)
    (stepped : before.unsubscribed = some after) : before.audience.Thins after.audience := by
  unfold unsubscribed at stepped
  split at stepped <;> cases stepped
  · exact before.thins_suspend none rfl
  · next registration wire consumer cancelled holds =>
      have deserted : before.audience.Deserted registration :=
        settled.deserted registration (by simp [audience, audienceOf, parting, holds])
      have forgotten := thins_forget deserted wire
      exact (forgotten.trans (thins_suspend _ none rfl)).trans (thins_endClose _ consumer)

theorem thins_unsubscribeFailed (wellFormed : WellFormed before)
    (stepped : before.unsubscribeFailed = some after) :
    before.audience.Thins after.audience := by
  unfold unsubscribeFailed at stepped
  split at stepped <;> cases stepped
  · next registration subId session holds =>
      have stored := thins_store (wellFormed.holder _ holds) subId session
      exact stored.trans (thins_suspend _ none rfl)
  · next consumer _ _ =>
      exact (before.thins_suspend none rfl).trans (thins_endClose _ consumer)

theorem thins_cancel (stepped : before.cancel = some after) :
    before.audience.Thins after.audience := by
  unfold cancel at stepped
  split at stepped <;> cases stepped
  · exact before.thins_suspend _ rfl
  · next registration wire consumer holds =>
      have same : before.audience = { before with
          holder := some (.closing registration wire consumer true) }.audience := by
        unfold audience parting
        rw [holds]
        rfl
      rw [same]
      exact Audience.Thins.refl _
  · exact before.thins_suspend none rfl

/-- The SUBSCRIBE of a `subscribe` that was not cancelled makes it return. -/
theorem subscribed_audience (wellFormed : WellFormed before) {session subId : Nat}
    (stepped : before.subscribed session subId = some after) :
    before.audience.Thins after.audience ∨
      before.returns (.subscribed session subId) = true ∧
        before.audience.Joins Prod.snd after.audience := by
  unfold subscribed at stepped
  split at stepped
  · next registration since cancelled holds =>
      split at stepped
      · split at stepped <;> cases stepped
        · exact Or.inl (before.thins_suspend _ rfl)
        · next proceeds =>
            have isRunning : cancelled = false := by simpa using proceeds
            refine Or.inr ⟨by simp [returns, holds, isRunning], ?_⟩
            exact joins_store (wellFormed.holder _ holds) subId session
      · cases stepped
  · next registration wire oldId since remaining holds =>
      split at stepped <;> cases stepped
      exact Or.inl ((before.thins_rekey registration wire oldId subId session).trans
        (thins_restoreNext _ remaining))
  · cases stepped

/-- No consumer begins to listen, or `subscribe` returns one. -/
theorem step_audience (wellFormed : WellFormed before) (settled : before.audience.Settled Prod.snd)
    {action : RegistryAction Item} (stepped : before.step action = some after) :
    before.audience.Thins after.audience ∨
      before.returns action = true ∧ before.audience.Joins Prod.snd after.audience := by
  cases action with
  | newSession =>
      cases stepped
      exact Or.inl (Audience.Thins.refl _)
  | assign registration subId =>
      simp only [step] at stepped
      split at stepped <;> cases stepped
      exact Or.inl (Audience.Thins.refl _)
  | publish subId item =>
      cases stepped
      exact Or.inl (before.thins_publish subId item)
  | subscribe registration =>
      simp only [step] at stepped
      split at stepped <;> cases stepped
      next idle =>
      cases leads : before.byRegistration.lookup registration with
      | none =>
          simp only [subscribe, leads]
          exact Or.inl (before.thins_suspend _ rfl)
      | some wire =>
          simp only [subscribe, leads, returns]
          obtain ⟨state, found, -⟩ := wellFormed.owned _ _ leads
          have inStore := (List.getElem?_eq_some_iff.mp found).1
          exact Or.inr ⟨rfl, joins_join (by rw [parting, idle]) inStore leads⟩
  | subscribed session subId => exact subscribed_audience wellFormed stepped
  | subscribeFailed => exact Or.inl (thins_subscribeFailed stepped)
  | unsubscribed => exact Or.inl (thins_unsubscribed settled stepped)
  | unsubscribeFailed => exact Or.inl (thins_unsubscribeFailed wellFormed stepped)
  | cancel => exact Or.inl (thins_cancel stepped)
  | aclose consumer =>
      cases stepped
      exact Or.inl (before.thins_updateConsumer consumer
        AsyncSubscription.registration_aclose fun _ => .of_aclose)
  | cleanup consumer =>
      simp only [step] at stepped
      split at stepped <;> cases stepped
      exact Or.inl (before.thins_updateConsumer consumer
        AsyncSubscription.registration_aclose fun _ => .of_aclose)
  | close consumer =>
      simp only [step] at stepped
      split at stepped
      · cases stepped
      · split at stepped <;> cases stepped
        exact Or.inl (before.thins_close _ consumer)
  | cancelClose consumer =>
      simp only [step] at stepped
      split at stepped <;> cases stepped
      exact Or.inl (before.thins_endClose consumer)
  | read consumer =>
      cases stepped
      exact Or.inl (before.thins_updateConsumer consumer
        AsyncSubscription.registration_read fun _ => .of_read)
  | restore =>
      simp only [step] at stepped
      split at stepped <;> cases stepped
      exact Or.inl (before.thins_restoreNext _)
  | failRegistration registration error =>
      cases stepped
      exact Or.inl (before.thins_failRegistration registration error)
  | terminate error =>
      cases stepped
      exact Or.inl (before.thins_terminate error)

/-- The tables agree, and whoever listens is in the audience. -/
structure Attended (registry : SubscriptionRegistry Item) : Prop where
  wellFormed : WellFormed registry
  settled : registry.audience.Settled Prod.snd

theorem attended_start (capacity : Nat) : Attended ({ capacity } : SubscriptionRegistry Item) where
  wellFormed := (invariant_wellFormed capacity fun _ _ => True).starts _ rfl
  settled := {
    attends := by
      rintro member ⟨consumer, found, -⟩
      simp at found
    deserted := nofun }

theorem Attended.step (attended : Attended before) {action : RegistryAction Item}
    (stepped : before.step action = some after) : Attended after where
  wellFormed := wellFormed_step attended.wellFormed stepped
  settled := by
    rcases step_audience attended.wellFormed attended.settled stepped with thins | ⟨-, joins⟩
    · exact thins.settled attended.settled
    · exact joins.settled attended.settled

/-- Unless `subscribe` returns a consumer, nobody begins to listen. -/
theorem Attended.listeners_step (attended : Attended before) {action : RegistryAction Item}
    (stepped : before.step action = some after) (quiet : before.returns action = false) :
    listeners after.consumers ⊆ listeners before.consumers := by
  rcases step_audience attended.wellFormed attended.settled stepped with thins | ⟨returns, -⟩
  · exact thins.listening
  · rw [quiet] at returns
    cases returns

end SubscriptionRegistry

end FitzClient
