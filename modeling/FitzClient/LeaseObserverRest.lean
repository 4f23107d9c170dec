import FitzClient.LeaseObserverPasses

/-!
# What happens beside the bootstrap task

The consumer task, the reconciler, the registry and the connection do not touch
the view nor a pass.  They end the rest of the bootstrap task by asking for
another pass.  In particular a notification does so as long as the subscription
is open, since an observer at rest is in the steady mode.
-/

namespace FitzClient

/-- The actions of an observer that neither its broker nor the restoration of its
session takes part in. -/
def ObserverAction.isOwn {Item : Type} : ObserverAction Item → Bool
  | .fail _ | .terminate | .tick | .consume | .oldClosed | .subscribeFailed
  | .retrySubscribe | .close => true
  | _ => false

namespace LeaseInventoryObserver

variable {Item : Type} {observer before after : LeaseInventoryObserver Item}

/-- A subscription that is not ready is closed, and an open one holds nothing but routes. -/
structure Subscribed (observer : LeaseInventoryObserver Item) : Prop where
  unready : observer.subscriptionReady = false → observer.subscription.closed = true
  plain : observer.subscription.Plain

theorem subscription_push (route : String) :
    (before.push route).subscription =
      (before.subscription.push before.capacity route).1 := by
  have subscription : before.noteNotification.subscription = before.subscription := by
    unfold noteNotification
    split <;> rfl
  have capacity : before.noteNotification.capacity = before.capacity := by
    unfold noteNotification
    split <;> rfl
  unfold push
  split
  · next closed => rw [AsyncSubscription.push, if_pos closed]
  · simp only [subscription, capacity]
    split <;> rfl

theorem subscriptionReady_push (route : String) :
    (before.push route).subscriptionReady =
      (before.subscriptionReady && (before.subscription.closed ||
        (before.subscription.push before.capacity route).2)) := by
  have subscription : before.noteNotification.subscription = before.subscription := by
    unfold noteNotification
    split <;> rfl
  have capacity : before.noteNotification.capacity = before.capacity := by
    unfold noteNotification
    split <;> rfl
  have ready : before.noteNotification.subscriptionReady = before.subscriptionReady := by
    unfold noteNotification
    split <;> rfl
  unfold push
  split
  · next closed => simp [closed]
  · next isOpen =>
      simp only [subscription, capacity]
      split
      · next accepted => simp [ready, accepted]
      · next refused => simp [noteSubscriptionFailure, requestPass, isOpen, refused]

theorem Subscribed.push (subscribed : Subscribed before) (route : String) :
    Subscribed (before.push route) where
  unready unready := by
    rw [subscription_push, AsyncSubscription.closed_push]
    rw [subscriptionReady_push, Bool.and_eq_false_iff] at unready
    rcases unready with unready | refused
    · rw [subscribed.unready unready, Bool.true_or]
    · obtain ⟨isOpen, refused⟩ := Bool.or_eq_false_iff.mp refused
      unfold AsyncSubscription.push at refused
      split at refused
      · next closed => rw [closed, Bool.true_or]
      · split at refused
        · next full => rw [full, Bool.or_true]
        · cases refused
  plain := by
    rw [subscription_push]
    exact subscribed.plain.push _ _

theorem Subscribed.failSubscription (subscribed : Subscribed before)
    (error : SubscriptionError) : Subscribed (before.failSubscription error) := by
  unfold LeaseInventoryObserver.failSubscription
  split
  · exact subscribed
  · exact ⟨fun _ => AsyncSubscription.closed_fail error, subscribed.plain.fail error⟩

/-- A new subscription is ready. -/
theorem subscribed_subscribed (observer : LeaseInventoryObserver Item) (buffered : List String) :
    Subscribed (observer.subscribed buffered) where
  unready := nofun
  plain := by
    have entered : ∀ (routes : List String) (observer : LeaseInventoryObserver Item),
        observer.subscription.Plain → (routes.foldl push observer).subscription.Plain := by
      intro routes
      induction routes with
      | nil => exact fun _ plain => plain
      | cons route routes ih =>
          intro observer plain
          exact ih _ (by rw [subscription_push]; exact plain.push _ _)
    exact entered buffered _ (by rintro - entry ⟨⟩)

/-- What ends the consumer comes from a subscription that is closed. -/
theorem subscribed_consume (subscribed : Subscribed before)
    (consumed : before.consume = some after) : Subscribed after := by
  have plain := subscribed.plain.read
  have closed : before.subscription.closed = true → before.subscription.read.closed = true :=
    AsyncSubscription.closed_read
  unfold consume at consumed
  split at consumed
  · obtain rfl := Option.some.inj consumed
    unfold consumeRoute
    split <;> exact ⟨fun unready => closed (subscribed.unready unready), plain⟩
  · next error queue queued =>
      obtain rfl := Option.some.inj consumed
      have failed : before.subscription.read.closed = true := by
        rw [AsyncSubscription.read, queued]
      unfold consumeFailure
      split <;> exact ⟨fun _ => failed, plain⟩
  · next queue queued =>
      obtain rfl := Option.some.inj consumed
      refine ⟨fun _ => ?_, plain⟩
      cases isOpen : before.subscription.closed with
      | true => exact closed isOpen
      | false =>
          obtain ⟨item, same⟩ := subscribed.plain isOpen .finished (queued ▸ List.mem_cons_self)
          cases same
  · obtain ⟨ended, same⟩ := Option.ite_none_right_eq_some.mp consumed
    obtain rfl := Option.some.inj same
    exact ⟨fun _ => closed ended, plain⟩

theorem subscribed_nextPass (subscribed : Subscribed before) : Subscribed before.nextPass := by
  unfold nextPass
  split <;> exact ⟨subscribed.unready, subscribed.plain⟩

theorem subscribed_invalidated (subscribed : Subscribed before) :
    Subscribed before.invalidated := by
  unfold invalidated
  split
  · exact ⟨subscribed.unready, subscribed.plain⟩
  · split
    · exact subscribed_nextPass ⟨subscribed.unready, subscribed.plain⟩
    · exact ⟨subscribed.unready, subscribed.plain⟩

theorem subscribed_loopBootstrap (subscribed : Subscribed before) :
    Subscribed before.loopBootstrap := by
  unfold loopBootstrap
  split
  · exact subscribed_invalidated subscribed
  · exact ⟨subscribed.unready, subscribed.plain⟩

theorem subscribed_resume (subscribed : Subscribed before)
    (resumed : before.resume = some after) : Subscribed after := by
  unfold resume at resumed
  split at resumed
  · obtain ⟨-, same⟩ := Option.ite_none_right_eq_some.mp resumed
    obtain rfl := Option.some.inj same
    exact subscribed_invalidated subscribed
  · obtain rfl := Option.some.inj resumed
    exact subscribed_nextPass ⟨subscribed.unready, subscribed.plain⟩
  · obtain rfl := Option.some.inj resumed
    exact ⟨subscribed.unready, subscribed.plain⟩
  · obtain rfl := Option.some.inj resumed
    exact subscribed_nextPass subscribed
  · obtain rfl := Option.some.inj resumed
    exact subscribed_loopBootstrap ⟨subscribed.unready, subscribed.plain⟩
  · cases resumed

theorem subscribed_finishPass (subscribed : Subscribed before) (start : PassStart)
    (view : Dictionary String Item) : Subscribed (before.finishPass start view) := by
  unfold finishPass
  split
  · exact ⟨subscribed.unready, subscribed.plain⟩
  · exact subscribed_loopBootstrap ⟨subscribed.unready, subscribed.plain⟩

theorem subscribed_step (subscribed : Subscribed before) {action : ObserverAction Item}
    (stepped : before.step action = some after) : Subscribed after := by
  cases action with
  | notify route =>
      obtain rfl := Option.some.inj stepped
      exact subscribed.push route
  | fail error =>
      obtain rfl := Option.some.inj stepped
      exact subscribed.failSubscription error
  | terminate =>
      obtain rfl := Option.some.inj stepped
      exact ⟨fun _ => AsyncSubscription.closed_finish, subscribed.plain.finish⟩
  | reconnect | tick | close =>
      obtain ⟨-, same⟩ := Option.ite_none_left_eq_some.mp stepped
      obtain rfl := Option.some.inj same
      exact ⟨subscribed.unready, subscribed.plain⟩
  | resume => exact subscribed_resume subscribed stepped
  | page items =>
      simp only [step] at stepped
      split at stepped
      · obtain rfl := Option.some.inj stepped
        exact ⟨subscribed.unready, subscribed.plain⟩
      · cases stepped
  | listed =>
      simp only [step] at stepped
      split at stepped
      · obtain rfl := Option.some.inj stepped
        exact subscribed_finishPass subscribed _ _
      · cases stepped
  | listFailed =>
      simp only [step] at stepped
      split at stepped
      · obtain rfl := Option.some.inj stepped
        exact ⟨subscribed.unready, subscribed.plain⟩
      · cases stepped
  | consume =>
      obtain ⟨-, consumed⟩ := Option.ite_none_right_eq_some.mp stepped
      exact subscribed_consume subscribed consumed
  | oldClosed | subscribeFailed | retrySubscribe =>
      obtain ⟨-, same⟩ := Option.ite_none_right_eq_some.mp stepped
      obtain rfl := Option.some.inj same
      exact ⟨subscribed.unready, subscribed.plain⟩
  | subscribed buffered =>
      obtain ⟨-, same⟩ := Option.ite_none_right_eq_some.mp stepped
      obtain rfl := Option.some.inj same
      have entered := subscribed_subscribed before buffered
      exact ⟨entered.unready, entered.plain⟩

/-- What the actions beside the bootstrap task leave alone: the view, the pass, and the
rest of a task that nothing asks for another pass. -/
structure Beside (before after : LeaseInventoryObserver Item) : Prop where
  view : after.view = before.view
  notifications : before.notificationGeneration ≤ after.notificationGeneration
  subscriptions : before.subscriptionGeneration ≤ after.subscriptionGeneration
  pass : ∀ start view, after.bootstrap = .listing start view →
    before.bootstrap = .listing start view
  rest : after.bootstrap = .parked → after.invalidate = false →
    before.bootstrap = .parked ∧ before.invalidate = false

theorem Beside.refl (observer : LeaseInventoryObserver Item) : Beside observer observer where
  view := rfl
  notifications := Nat.le_refl _
  subscriptions := Nat.le_refl _
  pass _ _ := id
  rest parked unset := ⟨parked, unset⟩

theorem Beside.trans {middle : LeaseInventoryObserver Item} (first : Beside before middle)
    (second : Beside middle after) : Beside before after where
  view := second.view.trans first.view
  notifications := Nat.le_trans first.notifications second.notifications
  subscriptions := Nat.le_trans first.subscriptions second.subscriptions
  pass start view listing := first.pass start view (second.pass start view listing)
  rest parked unset :=
    have middle := second.rest parked unset
    first.rest middle.1 middle.2

/-- Asking for a pass ends the rest. -/
theorem beside_requestPass : Beside before before.requestPass where
  view := rfl
  notifications := Nat.le_refl _
  subscriptions := Nat.le_refl _
  pass _ _ := id
  rest _ := nofun

theorem beside_noteNotification (observer : LeaseInventoryObserver Item) :
    Beside observer observer.noteNotification := by
  have counted : Beside observer observer.countNotification :=
    ⟨rfl, Nat.le_succ _, Nat.le_refl _, fun _ _ => id, fun parked unset => ⟨parked, unset⟩⟩
  unfold noteNotification
  split
  · exact counted
  · exact counted.trans beside_requestPass

theorem beside_noteSubscriptionFailure : Beside before before.noteSubscriptionFailure :=
  ⟨rfl, Nat.le_refl _, Nat.le_succ _, fun _ _ => id, fun _ => nofun⟩

theorem beside_push (route : String) : Beside before (before.push route) := by
  have noted := beside_noteNotification before
  rcases before.push_cases route with ⟨-, same⟩ | ⟨-, -, subscription, same⟩ |
    ⟨-, -, subscription, same⟩
  · rw [same]
    exact .refl _
  · rw [same]
    exact ⟨noted.view, noted.notifications, noted.subscriptions, noted.pass, noted.rest⟩
  · rw [same]
    have kept : Beside before { before.noteNotification with subscription } :=
      ⟨noted.view, noted.notifications, noted.subscriptions, noted.pass, noted.rest⟩
    exact kept.trans beside_noteSubscriptionFailure

theorem beside_foldl_push (observer : LeaseInventoryObserver Item) (routes : List String) :
    Beside observer (routes.foldl push observer) := by
  induction routes generalizing observer with
  | nil => exact .refl _
  | cons route routes ih => exact (beside_push route).trans (ih _)

/-- An open subscription counts what it is pushed. -/
theorem notificationGeneration_push (isOpen : before.subscription.closed = false)
    (route : String) :
    (before.push route).notificationGeneration = before.notificationGeneration + 1 := by
  have noted : before.noteNotification.notificationGeneration =
      before.notificationGeneration + 1 := by
    unfold noteNotification
    split <;> rfl
  rcases before.push_cases route with ⟨closed, -⟩ | ⟨-, -, subscription, same⟩ |
    ⟨-, -, subscription, same⟩
  · rw [isOpen] at closed
    cases closed
  · rw [same]
    exact noted
  · rw [same]
    exact noted

/-- A push to a resting observer whose subscription is open ends its rest. -/
theorem invalidate_of_push (settled : Settled before) (subscribed : Subscribed before)
    (isOpen : before.subscription.closed = false) {route : String}
    (parked : (before.push route).bootstrap = .parked) :
    (before.push route).invalidate = true := by
  cases set : (before.push route).invalidate with
  | true => rfl
  | false =>
      obtain ⟨wasParked, wasUnset⟩ := (beside_push route).rest parked set
      have isReady : before.subscriptionReady = true := by
        cases ready : before.subscriptionReady with
        | true => rfl
        | false =>
            rw [subscribed.unready ready] at isOpen
            cases isOpen
      have steady := (settled wasParked wasUnset isReady).2.1
      have noted : before.noteNotification.invalidate = true := by
        simp [noteNotification, steady, requestPass]
      rcases before.push_cases route with ⟨closed, -⟩ | ⟨-, -, subscription, same⟩ |
        ⟨-, -, subscription, same⟩
      · rw [isOpen] at closed
        cases closed
      · rw [same] at set
        exact set.symm.trans noted
      · rw [same] at set
        cases set

theorem beside_consume (consumed : before.consume = some after) : Beside before after := by
  unfold consume at consumed
  split at consumed
  · obtain rfl := Option.some.inj consumed
    unfold consumeRoute
    split
    · exact ⟨rfl, Nat.le_refl _, Nat.le_refl _, fun _ _ => id, fun parked unset => ⟨parked, unset⟩⟩
    · exact ⟨rfl, Nat.le_refl _, Nat.le_refl _, fun _ _ => id, fun _ => nofun⟩
  · obtain rfl := Option.some.inj consumed
    unfold consumeFailure
    split
    · exact ⟨rfl, Nat.le_refl _, Nat.le_succ _, fun _ _ => id, fun _ => nofun⟩
    · exact ⟨rfl, Nat.le_refl _, Nat.le_refl _, fun _ _ => id, fun parked unset => ⟨parked, unset⟩⟩
  · obtain rfl := Option.some.inj consumed
    exact ⟨rfl, Nat.le_refl _, Nat.le_refl _, fun _ _ => id, fun parked unset => ⟨parked, unset⟩⟩
  · obtain ⟨-, same⟩ := Option.ite_none_right_eq_some.mp consumed
    obtain rfl := Option.some.inj same
    exact ⟨rfl, Nat.le_refl _, Nat.le_refl _, fun _ _ => id, fun parked unset => ⟨parked, unset⟩⟩

/-- The observer's own actions happen beside its bootstrap task. -/
theorem beside_own {action : ObserverAction Item} (own : action.isOwn = true)
    (stepped : before.step action = some after) : Beside before after := by
  cases action <;> simp only [ObserverAction.isOwn, Bool.false_eq_true] at own
  case fail error =>
    obtain rfl := Option.some.inj stepped
    unfold failSubscription
    split
    · exact .refl _
    · exact ⟨rfl, Nat.le_refl _, Nat.le_succ _, fun _ _ => id, fun _ => nofun⟩
  case terminate =>
    obtain rfl := Option.some.inj stepped
    exact ⟨rfl, Nat.le_refl _, Nat.le_refl _, fun _ _ => id, fun parked unset => ⟨parked, unset⟩⟩
  case tick =>
    obtain ⟨-, same⟩ := Option.ite_none_left_eq_some.mp stepped
    obtain rfl := Option.some.inj same
    exact beside_requestPass
  case consume =>
    obtain ⟨-, consumed⟩ := Option.ite_none_right_eq_some.mp stepped
    exact beside_consume consumed
  case close =>
    obtain ⟨-, same⟩ := Option.ite_none_left_eq_some.mp stepped
    obtain rfl := Option.some.inj same
    exact ⟨rfl, Nat.le_refl _, Nat.le_refl _, nofun, nofun⟩
  all_goals
    obtain ⟨-, same⟩ := Option.ite_none_right_eq_some.mp stepped
    obtain rfl := Option.some.inj same
    exact ⟨rfl, Nat.le_refl _, Nat.le_refl _, fun _ _ => id, fun parked unset => ⟨parked, unset⟩⟩

/-- A new subscription is recorded and asks for a pass. -/
theorem beside_subscribed {buffered : List String}
    (stepped : before.step (.subscribed buffered) = some after) :
    Beside before after ∧ before.subscriptionGeneration < after.subscriptionGeneration ∧
      after.invalidate = true := by
  obtain ⟨-, same⟩ := Option.ite_none_right_eq_some.mp stepped
  obtain rfl := Option.some.inj same
  have entered := beside_foldl_push
    { before with subscription := { registration := before.pattern } } buffered
  refine ⟨⟨entered.view, entered.notifications, ?_, fun start view listing => ?_, fun _ => nofun⟩,
    ?_, rfl⟩
  · exact Nat.le_succ_of_le entered.subscriptions
  · exact entered.pass start view (BootstrapPhase.wake_eq_listing.mp listing)
  · exact Nat.lt_succ_of_le entered.subscriptions

/-- A reconnect is recorded and asks for a pass. -/
theorem beside_reconnect (stepped : before.step .reconnect = some after) :
    Beside before after ∧ before.subscriptionGeneration < after.subscriptionGeneration ∧
      after.invalidate = true := by
  obtain ⟨-, same⟩ := Option.ite_none_left_eq_some.mp stepped
  obtain rfl := Option.some.inj same
  exact ⟨⟨rfl, Nat.le_refl _, Nat.le_succ _, fun _ _ => id, fun _ => nofun⟩,
    Nat.lt_succ_self _, rfl⟩

/-- The bootstrap task does not rest, and a pass of its has listed nothing yet. -/
structure Restarts (before after : LeaseInventoryObserver Item) : Prop where
  view : after.view = before.view
  busy : after.bootstrap ≠ .parked
  fresh : ∀ start view, after.bootstrap = .listing start view → view = ∅

theorem restarts_beginPass (observer : LeaseInventoryObserver Item) :
    Restarts observer observer.beginPass where
  view := rfl
  busy := nofun
  fresh start view listing := by
    obtain ⟨-, rfl⟩ := BootstrapPhase.listing.inj listing
    rfl

theorem restarts_nextPass (observer : LeaseInventoryObserver Item) :
    Restarts observer observer.nextPass := by
  unfold nextPass
  split
  · exact restarts_beginPass _
  · exact ⟨rfl, nofun, nofun⟩

theorem restarts_beginBootstrap (observer : LeaseInventoryObserver Item) :
    Restarts observer observer.beginBootstrap :=
  have next := restarts_nextPass
    { observer with invalidate := false, mode := .buffering, buffer := [] }
  ⟨next.view, next.busy, next.fresh⟩

theorem restarts_invalidated (observer : LeaseInventoryObserver Item) :
    Restarts observer observer.invalidated := by
  unfold invalidated
  split
  · exact ⟨rfl, nofun, nofun⟩
  · split
    · have next := restarts_beginBootstrap { observer with invalidate := false }
      exact ⟨next.view, next.busy, next.fresh⟩
    · exact ⟨rfl, nofun, nofun⟩

theorem restarts_resume (resumed : before.resume = some after) : Restarts before after := by
  unfold resume at resumed
  split at resumed
  · obtain ⟨-, same⟩ := Option.ite_none_right_eq_some.mp resumed
    obtain rfl := Option.some.inj same
    exact restarts_invalidated _
  · obtain rfl := Option.some.inj resumed
    exact restarts_beginBootstrap _
  · obtain rfl := Option.some.inj resumed
    exact restarts_beginPass _
  · obtain rfl := Option.some.inj resumed
    exact restarts_nextPass _
  · obtain rfl := Option.some.inj resumed
    have next := restarts_invalidated { before with invalidate := true }
    exact ⟨next.view, next.busy, next.fresh⟩
  · cases resumed

theorem restarts_listFailed (stepped : before.step .listFailed = some after) :
    Restarts before after := by
  simp only [step] at stepped
  split at stepped
  · obtain rfl := Option.some.inj stepped
    exact ⟨rfl, by simp [failPass], by simp [failPass]⟩
  · cases stepped

/-- A pass that is not raced leaves its view to a task that rests or restarts. -/
theorem finishPass_cases (observer : LeaseInventoryObserver Item) (start : PassStart)
    (view : Dictionary String Item) :
    Restarts observer (observer.finishPass start view) ∨ observer.raced start = false ∧
      ((observer.finishPass start view).bootstrap = .parked ∧
          (observer.finishPass start view).view = view ∨
        Restarts (observer.installed start view) (observer.finishPass start view)) := by
  rw [finishPass_eq]
  split
  · exact Or.inl ⟨rfl, nofun, nofun⟩
  · next unraced =>
      refine Or.inr ⟨by simpa using unraced, ?_⟩
      unfold loopBootstrap
      split
      · exact Or.inr (restarts_invalidated _)
      · exact Or.inl ⟨rfl, rfl⟩

end LeaseInventoryObserver

end FitzClient
