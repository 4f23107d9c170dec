import FitzClient.NoticeLifetime
import FitzClient.NoticeSimulation
import FitzClient.RegistryAudience

/-!
# Who listens to the notice client

A notice client is a registry without its history, so that an operation of both
does the same to the audience of both.  What is left are the operations that the
client has in its own words: it restores its wires, drops all of them, and
assigns ids in a `_subscribe_wire` of its own.
-/

namespace FitzClient

open SubscriptionRegistry

namespace NoticeClient

variable {Item : Type} {client : NoticeClient Item} {pattern : String} {wire consumer : Nat}
  {member : Nat × String}

/-- The pattern whose wire the lock holder unsubscribes. -/
def parting (client : NoticeClient Item) : Option String :=
  match client.holder with
  | some (.closing pattern _ _) => some pattern
  | _ => none

def audience (client : NoticeClient Item) : Audience String (Nat × String) :=
  audienceOf client.byPattern client.seats client.consumers client.parting

theorem parting_noticeClient (registry : SubscriptionRegistry Item) :
    registry.noticeClient.parting = registry.parting := by
  change (match registry.holder.bind (·.noticeOperation) with
    | some (.closing pattern _ _) => some pattern
    | _ => none) = _
  unfold SubscriptionRegistry.parting
  cases registry.holder with
  | none => rfl
  | some operation =>
      cases operation with
      | subscribing _ _ cancelled => cases cancelled <;> rfl
      | compensating => rfl
      | closing => rfl
      | restoring => rfl

/-- The audience does not depend on the history of a registry. -/
theorem audience_noticeClient (registry : SubscriptionRegistry Item) :
    registry.noticeClient.audience = registry.audience := by
  have sameSeats : registry.noticeClient.seats = registry.seats := by
    funext wire
    change ((registry.wires.map (·.noticeWire))[wire]?.map (·.consumers)).getD [] = _
    rw [List.getElem?_map, SubscriptionRegistry.seats]
    cases registry.wires[wire]? <;> rfl
  unfold audience SubscriptionRegistry.audience
  rw [sameSeats, parting_noticeClient]
  rfl

/-- The operation of a registry that a notice client suspends in the same way. -/
def registryOperation : NoticeOperation → RegistryOperation
  | .subscribing pattern => .subscribing pattern 0 false
  | .closing pattern wire consumer => .closing pattern wire consumer false

/-- Any history makes a registry of a notice client. -/
theorem exists_registry (client : NoticeClient Item) :
    ∃ registry : SubscriptionRegistry Item, client = registry.noticeClient := by
  refine ⟨{
    capacity := client.bufferSize
    wires := client.wires.map fun wire =>
      { registration := "", subId := wire.subId, session := 0, consumers := wire.consumers }
    byRegistration := client.byPattern
    byId := client.patternById
    consumers := client.consumers
    cleanupTasks := client.cleanupTasks
    pendingNotifications := client.pendingNotifications.map fun entry =>
      { subId := entry.1, item := entry.2, session := 0 }
    holder := client.holder.map registryOperation
    deliveries := client.deliveries.map fun entry =>
      { consumer := entry.1, notification := { subId := 0, item := entry.2, session := 0 } } }, ?_⟩
  obtain ⟨bufferSize, wires, byPattern, patternById, consumers, cleanupTasks, pending, holder,
    deliveries⟩ := client
  have sameHolder : holder =
      (holder.map registryOperation).bind (·.noticeOperation) := by
    rcases holder with _ | (_ | _) <;> rfl
  simp [noticeClient, Function.comp_def, WireSubscription.noticeWire, Notification.entry,
    ← sameHolder]

theorem thins_updateConsumer (client : NoticeClient Item) (consumer : Nat)
    {update : AsyncSubscription Item → AsyncSubscription Item}
    (named : ∀ subscription, (update subscription).registration = subscription.registration)
    (reflects : ∀ subscription, (update subscription).Listening → subscription.Listening) :
    client.audience.Thins (client.updateConsumer consumer update).audience :=
  thins_of_listeners fun _ => listeners_modify named reflects

theorem thins_flushPending (client : NoticeClient Item) (wire : Nat) :
    client.audience.Thins (client.flushPending wire).audience := by
  obtain ⟨registry, rfl⟩ := client.exists_registry
  rw [← noticeClient_flushPending, audience_noticeClient, audience_noticeClient]
  exact registry.thins_flushPending wire

theorem thins_close (client : NoticeClient Item) (pattern : String) (consumer : Nat) :
    client.audience.Thins (client.close pattern consumer).audience := by
  obtain ⟨registry, rfl⟩ := client.exists_registry
  rw [← noticeClient_close, audience_noticeClient, audience_noticeClient]
  exact registry.thins_close pattern consumer

theorem thins_notify (client : NoticeClient Item) (subId : Nat) (item : Item) :
    client.audience.Thins (client.notify subId item).audience := by
  obtain ⟨registry, rfl⟩ := client.exists_registry
  unfold notify
  split
  · exact Audience.Thins.refl _
  · next wire _ =>
      split
      · exact Audience.Thins.refl _
      · next state found =>
          change (registry.wires.map (·.noticeWire))[wire]? = some state at found
          rw [List.getElem?_map] at found
          obtain ⟨origin, foundOrigin, rfl⟩ := Option.map_eq_some_iff.mp found
          have delivered := registry.thins_deliver wire { subId, item, session := 0 }
          rw [← audience_noticeClient, ← audience_noticeClient,
            noticeClient_deliver foundOrigin] at delivered
          exact delivered

/-- A consumer joins the wire of its pattern. -/
theorem joins_attach (nothing : client.parting = none) (inStore : wire < client.wires.length)
    (leads : client.byPattern.lookup pattern = some wire) :
    client.audience.Joins Prod.snd (client.attach pattern wire).audience := by
  obtain ⟨registry, rfl⟩ := client.exists_registry
  rw [← noticeClient_join, audience_noticeClient, audience_noticeClient]
  have inRegistry : wire < registry.wires.length := by
    simpa [noticeClient] using inStore
  exact joins_join ((parting_noticeClient registry).symm.trans nothing) inRegistry leads

/-- `open_subscription` stores the wire that it was granted, and returns a
consumer. -/
theorem joins_subscribed (absent : client.byPattern.lookup pattern = none) (subId : Nat) :
    client.audience.Joins Prod.snd (client.subscribed pattern subId).audience := by
  obtain ⟨registry, rfl⟩ := client.exists_registry
  rw [← noticeClient_subscribed registry pattern subId 0, audience_noticeClient,
    audience_noticeClient]
  exact joins_store absent subId 0

/-- The lock is released, or taken for another end than an UNSUBSCRIBE. -/
theorem thins_hold (client : NoticeClient Item) {operation : Option NoticeOperation}
    (stays : { client with holder := operation }.parting = none) :
    client.audience.Thins { client with holder := operation }.audience := by
  unfold audience
  rw [stays]
  exact thins_release

theorem thins_endClose (client : NoticeClient Item) (consumer : Nat) :
    client.audience.Thins (client.updateConsumer consumer AsyncSubscription.endClose).audience :=
  client.thins_updateConsumer consumer (fun subscription => subscription.registration_endClose)
    fun subscription listens => (subscription.not_listening_endClose listens).elim

theorem thins_unsubscribed (deserted : client.audience.Deserted pattern) (wire consumer : Nat) :
    client.audience.Thins (client.unsubscribed pattern wire consumer).audience := by
  have forgotten : client.audience.Thins { client with
      byPattern := client.byPattern.erase pattern
      patternById := client.patternById.erase (client.idOf wire) }.audience :=
    thins_erase deserted
  exact (forgotten.trans (thins_hold _ rfl)).trans (thins_endClose _ consumer)

theorem thins_rekey (client : NoticeClient Item) (pattern : String) (wire oldId newId : Nat) :
    client.audience.Thins (client.rekey pattern wire oldId newId).audience := by
  have same : (client.remap pattern wire oldId newId).seats = client.seats := by
    funext index
    unfold seats remap
    rw [List.getElem?_modify]
    cases client.wires[index]? with
    | none => rfl
    | some state =>
        by_cases touched : wire = index
        · simp [touched]
        · simp [touched]
  have remapped : client.audience = (client.remap pattern wire oldId newId).audience := by
    unfold audience
    rw [same]
    rfl
  rw [remapped]
  exact thins_flushPending _ wire

theorem listeners_settle {targets : List Nat} {error : Option SubscriptionError}
    (listens : member ∈ listeners (client.settle targets error).consumers) :
    member ∈ listeners client.consumers ∧ member.1 ∉ targets :=
  listeners_ended listens

/-- The wire that restoration gives up is the one of its pattern. -/
theorem thins_failPattern (current : ∀ other, client.byPattern.lookup pattern = some other →
      other = wire) (oldId : Nat) :
    client.audience.Thins (client.failPattern pattern wire oldId).audience := by
  have settled : client.audience.Thins
      (client.settle (client.seats wire) (some .other)).audience :=
    thins_of_listeners fun _ listens => (listeners_settle listens).1
  refine settled.trans (thins_erase fun member listens => ?_)
  rintro ⟨found, leads, seated⟩
  obtain rfl : found = wire := current found leads
  exact (listeners_settle listens).2 seated

theorem mem_registeredConsumers (leads : client.byPattern.lookup pattern = some wire)
    (seated : consumer ∈ client.seats wire) : consumer ∈ client.registeredConsumers := by
  have member := AList.mem_lookup_iff.mp leads
  exact List.mem_flatMap.mpr ⟨⟨pattern, wire⟩, member, seated⟩

/-- Afterwards no consumer of a registered wire listens. -/
theorem not_mem_seats_finishAll (listens : member ∈ listeners client.finishAll.consumers)
    (pattern : String) (wire : Nat) (leads : client.byPattern.lookup pattern = some wire) :
    member.1 ∉ client.seats wire :=
  fun seated => (listeners_settle listens).2 (mem_registeredConsumers leads seated)

theorem thins_finishAll (client : NoticeClient Item) :
    client.audience.Thins client.finishAll.audience :=
  thins_clear (fun _ listens => (listeners_settle listens).1) fun _ => not_mem_seats_finishAll

/-- `_terminate` ends every consumer that listens. -/
theorem listeners_terminate (settled : client.audience.Settled Prod.snd) :
    listeners client.terminate.consumers = ∅ := by
  have ended : listeners client.finishAll.consumers = ∅ :=
    listeners_eq_empty settled (fun _ listens => (listeners_settle listens).1)
      fun _ => not_mem_seats_finishAll
  exact ended

theorem thins_terminate (client : NoticeClient Item) :
    client.audience.Thins client.terminate.audience :=
  client.thins_finishAll

/-- The tables of two clients agree, and so do the holders of the lock. -/
structure SameTables (before after : NoticeClient Item) : Prop where
  byPattern : after.byPattern = before.byPattern
  wires : after.wires.length = before.wires.length
  holder : after.holder = before.holder

theorem sameTables_noticeClient {before after : SubscriptionRegistry Item}
    (same : SubscriptionRegistry.SameTables before after) :
    SameTables before.noticeClient after.noticeClient where
  byPattern := same.byRegistration
  wires := by
    have lengths := congrArg List.length same.keys
    simpa [noticeClient] using lengths
  holder := by
    simp [noticeClient, same.holder]

theorem sameTables_flushPending (client : NoticeClient Item) (wire : Nat) :
    SameTables client (client.flushPending wire) := by
  obtain ⟨registry, rfl⟩ := client.exists_registry
  rw [← noticeClient_flushPending]
  exact sameTables_noticeClient (registry.sameTables_flushPending wire)

theorem sameTables_attach (client : NoticeClient Item) (pattern : String) (wire : Nat) :
    SameTables client (client.attach pattern wire) := by
  obtain ⟨registry, rfl⟩ := client.exists_registry
  rw [← noticeClient_join]
  exact sameTables_noticeClient (registry.sameTables_join pattern wire)

theorem sameTables_notify (client : NoticeClient Item) (subId : Nat) (item : Item) :
    SameTables client (client.notify subId item) := by
  unfold notify
  split
  · exact ⟨rfl, rfl, rfl⟩
  · split
    · exact ⟨rfl, rfl, rfl⟩
    · exact ⟨rfl, List.length_modify _ _ _, rfl⟩

/-- `close` keeps the wires, and takes the lock for no SUBSCRIBE. -/
theorem tables_close (client : NoticeClient Item) (pattern : String) (consumer : Nat) :
    (client.close pattern consumer).byPattern = client.byPattern ∧
      (client.close pattern consumer).wires.length = client.wires.length ∧
      ∀ other, (client.close pattern consumer).holder = some (.subscribing other) →
        client.holder = some (.subscribing other) := by
  unfold close
  split
  · exact ⟨rfl, rfl, fun _ => id⟩
  · split
    · exact ⟨rfl, List.length_modify _ _ _, fun _ => id⟩
    · exact ⟨rfl, List.length_modify _ _ _, nofun⟩

theorem mem_patterns {entry : String × Nat} :
    entry ∈ client.patterns ↔ client.byPattern.lookup entry.1 = some entry.2 := by
  obtain ⟨registry, rfl⟩ := client.exists_registry
  exact mem_registrations

end NoticeClient

namespace NoticeLifetime

variable {Item : Type} {before after lifetime : NoticeLifetime Item}

/-- This action makes `open_subscription` return a consumer. -/
def returns (lifetime : NoticeLifetime Item) : NoticeAction Item → Bool
  | .subscribe pattern => (lifetime.client.byPattern.lookup pattern).isSome
  | .subscribed _ =>
      match lifetime.client.holder with
      | some (.subscribing _) => true
      | _ => false
  | _ => false

/-- The wires that restoration has yet to visit, with the one it is at. -/
def snapshot (lifetime : NoticeLifetime Item) : List (String × Nat) :=
  match lifetime.upkeep with
  | some (.restoring pattern wire _ remaining) => (pattern, wire) :: remaining
  | _ => []

/-- Patterns lead to wires, and the lock holder agrees with the table. -/
structure Rooted (lifetime : NoticeLifetime Item) : Prop where
  wires : ∀ pattern wire, lifetime.client.byPattern.lookup pattern = some wire →
    wire < lifetime.client.wires.length
  subscribing : ∀ pattern, lifetime.client.holder = some (.subscribing pattern) →
    lifetime.client.byPattern.lookup pattern = none
  restoring : ∀ entry ∈ lifetime.snapshot, ∀ wire,
    lifetime.client.byPattern.lookup entry.1 = some wire → wire = entry.2

namespace Rooted

/-- Patterns may have been dropped, and wires been visited. -/
theorem narrow (rooted : Rooted before)
    (table : ∀ pattern wire, after.client.byPattern.lookup pattern = some wire →
      before.client.byPattern.lookup pattern = some wire)
    (wires : after.client.wires.length = before.client.wires.length)
    (holder : ∀ pattern, after.client.holder = some (.subscribing pattern) →
      before.client.holder = some (.subscribing pattern))
    (visited : ∀ entry ∈ after.snapshot, entry ∈ before.snapshot) : Rooted after where
  wires pattern wire leads := by
    rw [wires]
    exact rooted.wires pattern wire (table pattern wire leads)
  subscribing pattern holds := by
    have absent := rooted.subscribing pattern (holder pattern holds)
    cases leads : after.client.byPattern.lookup pattern with
    | none => rfl
    | some wire =>
        have led := table pattern wire leads
        rw [absent] at led
        cases led
  restoring entry member wire leads :=
    rooted.restoring entry (visited entry member) wire (table entry.1 wire leads)

theorem of_sameTables (rooted : Rooted before)
    (same : before.client.SameTables after.client) (upkeep : after.upkeep = before.upkeep) :
    Rooted after := by
  refine rooted.narrow ?_ same.wires ?_ ?_
  · intro pattern wire leads
    rwa [same.byPattern] at leads
  · intro pattern holds
    rwa [same.holder] at holds
  · intro entry member
    rwa [snapshot, upkeep] at member

end Rooted

theorem snapshot_restoreNext (client : NoticeClient Item) (remaining : List (String × Nat)) :
    (restoreNext client remaining).snapshot = remaining := by
  cases remaining <;> rfl

theorem client_restoreNext (client : NoticeClient Item) (remaining : List (String × Nat)) :
    (restoreNext client remaining).client = client := by
  cases remaining <;> rfl

theorem rooted_subscribed (rooted : Rooted before) {subId : Nat}
    (stepped : before.subscribed subId = some after) : Rooted after := by
  unfold subscribed at stepped
  split at stepped <;> cases stepped
  · next pattern holds free =>
      have stored : Rooted { before with
          client := { before.client with
            wires := before.client.wires ++ [({ subId } : NoticeWire)]
            byPattern := before.client.byPattern.insert pattern before.client.wires.length
            patternById := before.client.patternById.insert subId pattern
            holder := none } } := by
        refine ⟨fun other wire leads => ?_, nofun, fun entry member => ?_⟩
        · rw [List.length_append, List.length_singleton]
          rcases Dictionary.lookup_insert_eq_some.mp leads with ⟨-, rfl⟩ | ⟨-, old⟩
          · exact Nat.lt_succ_self _
          · exact Nat.lt_succ_of_lt (rooted.wires other wire old)
        · simp [snapshot, free] at member
      exact stored.of_sameTables (NoticeClient.sameTables_attach _ _ _) rfl
  · next pattern wire oldId remaining free holds =>
      have same : NoticeClient.SameTables before.client
          (before.client.rekey pattern wire oldId subId) := by
        have flushed := NoticeClient.sameTables_flushPending
          (before.client.remap pattern wire oldId subId) wire
        exact ⟨flushed.byPattern, flushed.wires.trans (List.length_modify _ _ _), flushed.holder⟩
      refine rooted.narrow ?_ ?_ ?_ ?_
      · rw [client_restoreNext, same.byPattern]
        exact fun _ _ => id
      · rw [client_restoreNext, same.wires]
      · rw [client_restoreNext, same.holder]
        exact fun _ => id
      · rw [snapshot_restoreNext]
        intro entry member
        simp only [snapshot, holds]
        exact List.mem_cons_of_mem _ member

theorem lookup_of_erase {client : NoticeClient Item} {pattern other : String} {wire : Nat}
    (leads : (client.byPattern.erase pattern).lookup other = some wire) :
    client.byPattern.lookup other = some wire :=
  (Dictionary.lookup_erase_eq_some.mp leads).2

theorem rooted_subscribeFailed (rooted : Rooted before)
    (stepped : before.subscribeFailed = some after) : Rooted after := by
  unfold subscribeFailed at stepped
  split at stepped <;> cases stepped
  · exact rooted.narrow (fun _ _ => id) rfl nofun fun _ => id
  · next pattern wire oldId remaining free holds =>
      refine rooted.narrow ?_ ?_ ?_ ?_
      · rw [client_restoreNext]
        exact fun _ _ => lookup_of_erase
      · rw [client_restoreNext]
        rfl
      · rw [client_restoreNext]
        exact fun _ => id
      · rw [snapshot_restoreNext]
        intro entry member
        simp only [snapshot, holds]
        exact List.mem_cons_of_mem _ member

theorem rooted_unsubscribed (rooted : Rooted before)
    (stepped : before.unsubscribed = some after) : Rooted after := by
  unfold unsubscribed at stepped
  split at stepped <;> cases stepped
  · exact rooted.narrow (fun _ _ => lookup_of_erase) rfl nofun fun _ => id
  · refine rooted.narrow (fun pattern wire leads => ?_) rfl (fun _ => id) nofun
    change (∅ : Dictionary String Nat).lookup pattern = some wire at leads
    simp at leads

theorem rooted_unsubscribeFailed (rooted : Rooted before)
    (stepped : before.unsubscribeFailed = some after) : Rooted after := by
  unfold unsubscribeFailed at stepped
  split at stepped <;> cases stepped
  · exact rooted.narrow (fun _ _ => id) rfl nofun fun _ => id
  · exact rooted.narrow (fun _ _ => id) rfl (fun _ => id) nofun

theorem Rooted.step (rooted : Rooted before) {action : NoticeAction Item}
    (stepped : before.step action = some after) : Rooted after := by
  cases action with
  | notify subId item =>
      cases stepped
      exact rooted.of_sameTables (NoticeClient.sameTables_notify _ subId item) rfl
  | subscribe pattern =>
      simp only [NoticeLifetime.step] at stepped
      split at stepped <;> cases stepped
      next idle =>
      unfold NoticeClient.openSubscription
      split
      · exact rooted.of_sameTables (NoticeClient.sameTables_attach _ _ _) rfl
      · next absent =>
          refine ⟨rooted.wires, ?_, fun entry member => ?_⟩
          · rintro other ⟨⟩
            exact absent
          · simp [snapshot, idle.2] at member
  | subscribed subId => exact rooted_subscribed rooted stepped
  | subscribeFailed => exact rooted_subscribeFailed rooted stepped
  | unsubscribed => exact rooted_unsubscribed rooted stepped
  | unsubscribeFailed => exact rooted_unsubscribeFailed rooted stepped
  | aclose consumer =>
      cases stepped
      exact rooted.of_sameTables ⟨rfl, rfl, rfl⟩ rfl
  | cleanup consumer =>
      simp only [NoticeLifetime.step] at stepped
      split at stepped <;> cases stepped
      exact rooted.of_sameTables ⟨rfl, rfl, rfl⟩ rfl
  | close consumer =>
      simp only [NoticeLifetime.step] at stepped
      split at stepped
      · cases stepped
      · split at stepped <;> cases stepped
        next subscription _ _ =>
        obtain ⟨table, wires, holder⟩ := NoticeClient.tables_close before.client
          subscription.registration consumer
        exact rooted.narrow (by rw [table]; exact fun _ _ => id) wires holder fun _ => id
  | cancelClose consumer =>
      simp only [NoticeLifetime.step] at stepped
      split at stepped <;> cases stepped
      exact rooted.of_sameTables ⟨rfl, rfl, rfl⟩ rfl
  | read consumer =>
      cases stepped
      exact rooted.of_sameTables ⟨rfl, rfl, rfl⟩ rfl
  | restore =>
      simp only [NoticeLifetime.step] at stepped
      split at stepped <;> cases stepped
      refine ⟨?_, ?_, ?_⟩
      · rw [client_restoreNext]
        exact rooted.wires
      · rw [client_restoreNext]
        exact rooted.subscribing
      · rw [client_restoreNext, snapshot_restoreNext]
        intro entry member wire leads
        rw [NoticeClient.mem_patterns.mp member] at leads
        exact (Option.some.inj leads).symm
  | cancelRestore =>
      simp only [NoticeLifetime.step] at stepped
      split at stepped <;> cases stepped
      exact rooted.narrow (fun _ _ => id) rfl (fun _ => id) nofun
  | unsubscribeAll =>
      simp only [NoticeLifetime.step] at stepped
      split at stepped <;> cases stepped
      exact rooted.narrow (fun _ _ => id) rfl (fun _ => id) nofun
  | terminate =>
      cases stepped
      refine rooted.narrow (fun pattern wire leads => ?_) rfl (fun _ => id) fun _ => id
      change (∅ : Dictionary String Nat).lookup pattern = some wire at leads
      simp at leads

theorem parting_of_idle (idle : lifetime.idle) : lifetime.client.parting = none := by
  rw [NoticeClient.parting, idle.1]

theorem subscribed_audience (rooted : Rooted before) {subId : Nat}
    (stepped : before.subscribed subId = some after) :
    before.client.audience.Thins after.client.audience ∨
      before.returns (.subscribed subId) = true ∧
        before.client.audience.Joins Prod.snd after.client.audience := by
  unfold subscribed at stepped
  split at stepped <;> cases stepped
  · next pattern holds free =>
      refine Or.inr ⟨by rw [returns, holds], ?_⟩
      exact NoticeClient.joins_subscribed (rooted.subscribing pattern holds) subId
  · next pattern wire oldId remaining free holds =>
      rw [client_restoreNext]
      exact Or.inl (before.client.thins_rekey pattern wire oldId subId)

theorem thins_subscribeFailed (rooted : Rooted before)
    (stepped : before.subscribeFailed = some after) :
    before.client.audience.Thins after.client.audience := by
  unfold subscribeFailed at stepped
  split at stepped <;> cases stepped
  · exact before.client.thins_hold rfl
  · next pattern wire oldId remaining free holds =>
      rw [client_restoreNext]
      refine before.client.thins_failPattern (fun other leads => ?_) oldId
      refine rooted.restoring (pattern, wire) ?_ other leads
      simp [snapshot, holds]

theorem thins_unsubscribed (settled : before.client.audience.Settled Prod.snd)
    (stepped : before.unsubscribed = some after) :
    before.client.audience.Thins after.client.audience := by
  unfold unsubscribed at stepped
  split at stepped <;> cases stepped
  · next pattern wire consumer holds free =>
      refine before.client.thins_unsubscribed (settled.deserted pattern ?_) wire consumer
      simp [NoticeClient.audience, audienceOf, NoticeClient.parting, holds]
  · exact before.client.thins_finishAll

theorem thins_unsubscribeFailed (stepped : before.unsubscribeFailed = some after) :
    before.client.audience.Thins after.client.audience := by
  unfold unsubscribeFailed at stepped
  split at stepped <;> cases stepped
  · next pattern wire consumer holds free =>
      exact (before.client.thins_hold rfl).trans (NoticeClient.thins_endClose _ consumer)
  · exact Audience.Thins.refl _

/-- No consumer begins to listen, or `open_subscription` returns one. -/
theorem step_audience (rooted : Rooted before) (settled : before.client.audience.Settled Prod.snd)
    {action : NoticeAction Item} (stepped : before.step action = some after) :
    before.client.audience.Thins after.client.audience ∨
      before.returns action = true ∧
        before.client.audience.Joins Prod.snd after.client.audience := by
  cases action with
  | notify subId item =>
      cases stepped
      exact Or.inl (before.client.thins_notify subId item)
  | subscribe pattern =>
      simp only [step] at stepped
      split at stepped <;> cases stepped
      next idle =>
      cases leads : before.client.byPattern.lookup pattern with
      | none =>
          simp only [NoticeClient.openSubscription, leads]
          exact Or.inl (before.client.thins_hold rfl)
      | some wire =>
          simp only [NoticeClient.openSubscription, leads, returns]
          exact Or.inr ⟨rfl, NoticeClient.joins_attach (parting_of_idle idle)
            (rooted.wires pattern wire leads) leads⟩
  | subscribed subId => exact subscribed_audience rooted stepped
  | subscribeFailed => exact Or.inl (thins_subscribeFailed rooted stepped)
  | unsubscribed => exact Or.inl (thins_unsubscribed settled stepped)
  | unsubscribeFailed => exact Or.inl (thins_unsubscribeFailed stepped)
  | aclose consumer =>
      cases stepped
      exact Or.inl (before.client.thins_updateConsumer consumer
        AsyncSubscription.registration_aclose fun _ => .of_aclose)
  | cleanup consumer =>
      simp only [step] at stepped
      split at stepped <;> cases stepped
      exact Or.inl (before.client.thins_updateConsumer consumer
        AsyncSubscription.registration_aclose fun _ => .of_aclose)
  | close consumer =>
      simp only [step] at stepped
      split at stepped
      · cases stepped
      · split at stepped <;> cases stepped
        exact Or.inl (before.client.thins_close _ consumer)
  | cancelClose consumer =>
      simp only [step] at stepped
      split at stepped <;> cases stepped
      exact Or.inl (before.client.thins_endClose consumer)
  | read consumer =>
      cases stepped
      exact Or.inl (before.client.thins_updateConsumer consumer
        AsyncSubscription.registration_read fun _ => .of_read)
  | restore =>
      simp only [step] at stepped
      split at stepped <;> cases stepped
      rw [client_restoreNext]
      exact Or.inl (Audience.Thins.refl _)
  | cancelRestore =>
      simp only [step] at stepped
      split at stepped <;> cases stepped
      exact Or.inl (Audience.Thins.refl _)
  | unsubscribeAll =>
      simp only [step] at stepped
      split at stepped <;> cases stepped
      exact Or.inl (Audience.Thins.refl _)
  | terminate =>
      cases stepped
      exact Or.inl before.client.thins_terminate

/-- The tables agree, and whoever listens is in the audience. -/
structure Attended (lifetime : NoticeLifetime Item) : Prop where
  rooted : Rooted lifetime
  settled : lifetime.client.audience.Settled Prod.snd

theorem attended_start (bufferSize : Nat) :
    Attended ({ client := { bufferSize } } : NoticeLifetime Item) where
  rooted := ⟨by simp, nofun, nofun⟩
  settled := {
    attends := by
      rintro member ⟨consumer, found, -⟩
      simp at found
    deserted := nofun }

theorem Attended.step (attended : Attended before) {action : NoticeAction Item}
    (stepped : before.step action = some after) : Attended after where
  rooted := attended.rooted.step stepped
  settled := by
    rcases step_audience attended.rooted attended.settled stepped with thins | ⟨-, joins⟩
    · exact thins.settled attended.settled
    · exact joins.settled attended.settled

/-- Unless `open_subscription` returns a consumer, nobody begins to listen. -/
theorem Attended.listeners_step (attended : Attended before) {action : NoticeAction Item}
    (stepped : before.step action = some after) (quiet : before.returns action = false) :
    listeners after.client.consumers ⊆ listeners before.client.consumers := by
  rcases step_audience attended.rooted attended.settled stepped with thins | ⟨returns, -⟩
  · exact thins.listening
  · rw [quiet] at returns
    cases returns

end NoticeLifetime

end FitzClient
