import FitzClient.LeaseObserverRest

/-!
# Tasks of an observer that go on

As long as an observer and its subscription are open, none of its tasks has ended
nor waits for what has happened already, and a bootstrap task that is resumed
begins a pass.
-/

namespace FitzClient

namespace BootstrapPhase

variable {Item : Type} {phase : BootstrapPhase Item}

theorem wake_ne_subscription : phase.wake ≠ .awaitingSubscription false := by
  cases phase <;> simp [wake]

theorem wake_ne_pass : phase.wake ≠ .awaitingPass false := by
  cases phase <;> simp [wake]

theorem wake_ne_ended (running : phase ≠ .ended) : phase.wake ≠ .ended := by
  cases phase <;> simp_all [wake]

end BootstrapPhase

namespace LeaseInventoryObserver

variable {Item : Type} {before after : LeaseInventoryObserver Item}

/-- Nothing that is ready is waited for, and only a closed observer or subscription ends a
task. -/
structure Alert (observer : LeaseInventoryObserver Item) : Prop where
  subscription : observer.subscriptionReady = true →
    observer.bootstrap ≠ .awaitingSubscription false
  pass : observer.subscriptionReady = true → observer.bootstrap ≠ .awaitingPass false
  running : observer.closed = false → observer.bootstrap ≠ .ended
  reading : observer.closed = false → observer.consumer = .ended →
    observer.subscription.closed = true

theorem alert_nextPass (alert : Alert before) : Alert before.nextPass := by
  unfold nextPass
  split
  · exact ⟨nofun, nofun, nofun, alert.reading⟩
  · next unready => exact ⟨nofun, fun ready => (unready ready).elim, nofun, alert.reading⟩

theorem alert_beginBootstrap (reading : before.closed = false → before.consumer = .ended →
    before.subscription.closed = true) : Alert before.beginBootstrap := by
  unfold beginBootstrap nextPass
  split
  · exact ⟨nofun, nofun, nofun, reading⟩
  · next unready => exact ⟨nofun, fun ready => (unready ready).elim, nofun, reading⟩

theorem alert_invalidated (alert : Alert before) : Alert before.invalidated := by
  unfold invalidated
  split
  · next closed =>
      refine ⟨nofun, nofun, fun isOpen => ?_, alert.reading⟩
      rw [show before.closed = false from isOpen] at closed
      cases closed
  · split
    · exact alert_beginBootstrap alert.reading
    · next unready => exact ⟨fun ready => (unready ready).elim, nofun, nofun, alert.reading⟩

theorem alert_loopBootstrap (alert : Alert before) : Alert before.loopBootstrap := by
  unfold loopBootstrap
  split
  · exact alert_invalidated alert
  · exact ⟨nofun, nofun, nofun, alert.reading⟩

theorem alert_resume (alert : Alert before) (resumed : before.resume = some after) :
    Alert after := by
  unfold resume at resumed
  split at resumed
  · obtain ⟨-, same⟩ := Option.ite_none_right_eq_some.mp resumed
    obtain rfl := Option.some.inj same
    exact alert_invalidated alert
  · obtain rfl := Option.some.inj resumed
    exact alert_beginBootstrap alert.reading
  · obtain rfl := Option.some.inj resumed
    exact ⟨nofun, nofun, nofun, alert.reading⟩
  · obtain rfl := Option.some.inj resumed
    exact alert_nextPass alert
  · obtain rfl := Option.some.inj resumed
    exact alert_loopBootstrap ⟨alert.subscription, alert.pass, alert.running, alert.reading⟩
  · cases resumed

theorem alert_push (alert : Alert before) (route : String) : Alert (before.push route) := by
  have closed : before.subscription.closed = true →
      (before.push route).subscription.closed = true := by
    intro closed
    rw [subscription_push, AsyncSubscription.closed_push, closed, Bool.true_or]
  have noted : before.noteNotification.bootstrap = before.bootstrap ∧
      before.noteNotification.subscriptionReady = before.subscriptionReady ∧
      before.noteNotification.closed = before.closed ∧
      before.noteNotification.consumer = before.consumer := by
    unfold noteNotification
    split <;> exact ⟨rfl, rfl, rfl, rfl⟩
  obtain ⟨phase, ready, isOpen, reader⟩ := noted
  rcases before.push_cases route with ⟨-, same⟩ | ⟨-, -, subscription, same⟩ |
    ⟨-, -, subscription, same⟩
  · rw [same]
    exact alert
  · rw [same] at closed ⊢
    refine ⟨?_, ?_, ?_, fun unclosed ended => closed (alert.reading (isOpen ▸ unclosed)
      (reader ▸ ended))⟩
    · change before.noteNotification.subscriptionReady = true →
        before.noteNotification.bootstrap ≠ _
      rw [phase, ready]
      exact alert.subscription
    · change before.noteNotification.subscriptionReady = true →
        before.noteNotification.bootstrap ≠ _
      rw [phase, ready]
      exact alert.pass
    · change before.noteNotification.closed = false → before.noteNotification.bootstrap ≠ _
      rw [phase, isOpen]
      exact alert.running
  · rw [same] at closed ⊢
    refine ⟨nofun, nofun, ?_, fun unclosed ended => closed (alert.reading (isOpen ▸ unclosed)
      (reader ▸ ended))⟩
    change before.noteNotification.closed = false → before.noteNotification.bootstrap ≠ _
    rw [phase, isOpen]
    exact alert.running

theorem alert_foldl_push (alert : Alert before) (routes : List String) :
    Alert (routes.foldl push before) := by
  induction routes generalizing before with
  | nil => exact alert
  | cons route routes ih => exact ih (alert_push alert route)

/-- A new subscription wakes the task that waits for it. -/
theorem alert_subscribed (alert : Alert before) (reader : before.consumer ≠ .ended)
    (buffered : List String) : Alert (before.subscribed buffered) := by
  have fresh : Alert { before with subscription := { registration := before.pattern } } :=
    ⟨alert.subscription, alert.pass, alert.running, fun _ ended => (reader ended).elim⟩
  have entered := alert_foldl_push fresh buffered
  exact ⟨fun _ => BootstrapPhase.wake_ne_subscription, fun _ => BootstrapPhase.wake_ne_pass,
    fun isOpen => BootstrapPhase.wake_ne_ended (entered.running isOpen), nofun⟩

theorem alert_consume (alert : Alert before) (subscribed : Subscribed before)
    (consumed : before.consume = some after) : Alert after := by
  have closed : before.subscription.closed = true → before.subscription.read.closed = true :=
    AsyncSubscription.closed_read
  unfold consume at consumed
  split at consumed
  · obtain rfl := Option.some.inj consumed
    unfold consumeRoute
    split <;> exact ⟨alert.subscription, alert.pass, alert.running,
      fun isOpen ended => closed (alert.reading isOpen ended)⟩
  · obtain rfl := Option.some.inj consumed
    unfold consumeFailure
    split
    · exact ⟨nofun, nofun, alert.running, nofun⟩
    · exact ⟨alert.subscription, alert.pass, alert.running, nofun⟩
  · next queue queued =>
      obtain rfl := Option.some.inj consumed
      refine ⟨nofun, nofun, alert.running, fun _ _ => closed ?_⟩
      cases isOpen : before.subscription.closed with
      | true => rfl
      | false =>
          obtain ⟨item, same⟩ := subscribed.plain isOpen .finished (queued ▸ List.mem_cons_self)
          cases same
  · obtain ⟨ended, same⟩ := Option.ite_none_right_eq_some.mp consumed
    obtain rfl := Option.some.inj same
    exact ⟨nofun, nofun, alert.running, fun _ _ => closed ended⟩

theorem alert_failSubscription (alert : Alert before) (error : SubscriptionError) :
    Alert (before.failSubscription error) := by
  unfold failSubscription
  split
  · exact alert
  · refine ⟨?_, ?_, alert.running, fun _ _ => AsyncSubscription.closed_fail error⟩
    · simp [noteSubscriptionFailure, requestPass, record]
    · simp [noteSubscriptionFailure, requestPass, record]

theorem alert_failPass (alert : Alert before) : Alert before.failPass := by
  refine ⟨?_, ?_, ?_, alert.reading⟩ <;> simp [failPass]

theorem alert_step (alert : Alert before) (subscribed : Subscribed before)
    {action : ObserverAction Item} (stepped : before.step action = some after) : Alert after := by
  cases action with
  | notify route =>
      obtain rfl := Option.some.inj stepped
      exact alert_push alert route
  | fail error =>
      obtain rfl := Option.some.inj stepped
      exact alert_failSubscription alert error
  | terminate =>
      obtain rfl := Option.some.inj stepped
      exact ⟨alert.subscription, alert.pass, alert.running,
        fun _ _ => AsyncSubscription.closed_finish⟩
  | reconnect | tick =>
      obtain ⟨-, same⟩ := Option.ite_none_left_eq_some.mp stepped
      obtain rfl := Option.some.inj same
      exact ⟨alert.subscription, alert.pass, alert.running, alert.reading⟩
  | resume => exact alert_resume alert stepped
  | page items =>
      simp only [step] at stepped
      split at stepped
      · obtain rfl := Option.some.inj stepped
        exact ⟨by simp, by simp, by simp, alert.reading⟩
      · cases stepped
  | listed =>
      simp only [step] at stepped
      split at stepped
      · obtain rfl := Option.some.inj stepped
        rw [finishPass_eq]
        split
        · exact ⟨by simp, by simp, by simp, alert.reading⟩
        · exact alert_loopBootstrap ⟨alert.subscription, alert.pass, alert.running, alert.reading⟩
      · cases stepped
  | listFailed =>
      simp only [step] at stepped
      split at stepped
      · obtain rfl := Option.some.inj stepped
        exact alert_failPass alert
      · cases stepped
  | consume =>
      obtain ⟨-, consumed⟩ := Option.ite_none_right_eq_some.mp stepped
      exact alert_consume alert subscribed consumed
  | oldClosed | subscribeFailed | retrySubscribe =>
      obtain ⟨-, same⟩ := Option.ite_none_right_eq_some.mp stepped
      obtain rfl := Option.some.inj same
      exact ⟨alert.subscription, alert.pass, alert.running, by simp⟩
  | subscribed buffered =>
      obtain ⟨entering, same⟩ := Option.ite_none_right_eq_some.mp stepped
      obtain rfl := Option.some.inj same
      have reader : before.consumer ≠ .ended := by
        rw [entering]
        simp
      have entered := alert_subscribed alert reader buffered
      exact ⟨entered.subscription, entered.pass, entered.running, entered.reading⟩
  | close =>
      obtain ⟨-, same⟩ := Option.ite_none_left_eq_some.mp stepped
      obtain rfl := Option.some.inj same
      refine ⟨?_, ?_, ?_, ?_⟩ <;> simp [close]

/-- A pass has begun that nothing has raced so far. -/
structure Begins (before after : LeaseInventoryObserver Item) : Prop where
  pass : ∃ start, after.bootstrap = .listing start ∅ ∧
    start.startGeneration = after.notificationGeneration ∧
    start.subscriptionGeneration = after.subscriptionGeneration
  subscription : after.subscription = before.subscription
  closed : after.closed = before.closed
  capacity : after.capacity = before.capacity
  invalidate : after.invalidate = true → before.invalidate = true
  buffer : after.buffer ≠ [] → before.buffer ≠ []

theorem begins_beginPass (observer : LeaseInventoryObserver Item) :
    Begins observer observer.beginPass where
  pass := ⟨_, rfl, rfl, rfl⟩
  subscription := rfl
  closed := rfl
  capacity := rfl
  invalidate := id
  buffer := id

theorem begins_nextPass {observer : LeaseInventoryObserver Item}
    (ready : observer.subscriptionReady = true) : Begins observer observer.nextPass := by
  rw [nextPass, if_pos ready]
  exact begins_beginPass _

theorem begins_beginBootstrap (observer : LeaseInventoryObserver Item)
    (ready : observer.subscriptionReady = true) :
    Begins observer observer.beginBootstrap ∧ observer.beginBootstrap.invalidate = false := by
  let cleared : LeaseInventoryObserver Item :=
    { observer with invalidate := false, mode := .buffering, buffer := [] }
  have next : Begins cleared cleared.nextPass := begins_nextPass ready
  have unset : observer.beginBootstrap.invalidate = false := by
    rw [beginBootstrap, nextPass, if_pos (show _ = true from ready)]
    rfl
  exact ⟨⟨next.pass, next.subscription, next.closed, next.capacity,
    fun set => absurd set (by simp [unset]), fun some => (next.buffer some rfl).elim⟩, unset⟩

theorem begins_invalidated (observer : LeaseInventoryObserver Item)
    (ready : observer.subscriptionReady = true) (isOpen : observer.closed = false) :
    Begins observer observer.invalidated ∧ observer.invalidated.invalidate = false := by
  have begun : observer.invalidated = { observer with invalidate := false }.beginBootstrap := by
    rw [invalidated, if_neg (by simp [isOpen]), if_pos ready]
  obtain ⟨next, unset⟩ := begins_beginBootstrap { observer with invalidate := false } ready
  rw [begun]
  exact ⟨⟨next.pass, next.subscription, next.closed, next.capacity,
    fun set => absurd set (by simp [unset]), next.buffer⟩, unset⟩

/-- A task that is resumed while its subscription is ready begins a pass. -/
theorem begins_resume (ready : before.subscriptionReady = true) (isOpen : before.closed = false)
    (resumed : before.resume = some after) :
    (before.bootstrap = .parked ∧ before.invalidate = true ∨ before.bootstrap = .failing) ∧
        Begins { before with invalidate := true } after ∧ after.invalidate = false ∨
      (before.bootstrap ≠ .parked ∧ before.bootstrap ≠ .ended ∧
        ∀ start view, before.bootstrap ≠ .listing start view) ∧ Begins before after := by
  unfold resume at resumed
  split at resumed
  · next parked =>
      obtain ⟨set, same⟩ := Option.ite_none_right_eq_some.mp resumed
      obtain rfl := Option.some.inj same
      obtain ⟨begins, unset⟩ := begins_invalidated before ready isOpen
      exact Or.inl ⟨Or.inl ⟨parked, set⟩, ⟨begins.pass, begins.subscription, begins.closed,
        begins.capacity, fun _ => rfl, begins.buffer⟩, unset⟩
  · next waiting =>
      obtain rfl := Option.some.inj resumed
      exact Or.inr ⟨by simp [waiting], (begins_beginBootstrap before ready).1⟩
  · next waiting =>
      obtain rfl := Option.some.inj resumed
      exact Or.inr ⟨by simp [waiting], begins_beginPass before⟩
  · next retrying =>
      obtain rfl := Option.some.inj resumed
      exact Or.inr ⟨by simp [retrying], begins_nextPass ready⟩
  · next failing =>
      obtain rfl := Option.some.inj resumed
      obtain ⟨begins, unset⟩ :=
        begins_invalidated { before with invalidate := true } ready isOpen
      exact Or.inl ⟨Or.inr failing, begins, unset⟩
  · cases resumed

end LeaseInventoryObserver

end FitzClient
