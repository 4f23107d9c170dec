import FitzClient.LeaseInventoryObserver

/-!
# What a pass of the observer covers

Whatever is recorded for an observer raises one of its two generations, so that
a pass that finds both unchanged has missed nothing.  Whatever asks for another
pass sets `_invalidate`, and the bootstrap task clears this event only on its
way into a pass.
-/

namespace FitzClient

/-- The consumer task is replacing its subscription. -/
def ConsumePhase.recovering : ConsumePhase → Bool
  | .closingOld | .resubscribing | .sleeping => true
  | .reading | .ended => false

/-- These generations have been read before. -/
structure PassStart.Within (start : PassStart) (notifications subscriptions : Nat) : Prop where
  recorded : start.recorded = start.startGeneration + start.subscriptionGeneration
  notifications : start.startGeneration ≤ notifications
  subscriptions : start.subscriptionGeneration ≤ subscriptions

theorem PassStart.Within.mono {start : PassStart} {notifications subscriptions more later : Nat}
    (within : start.Within notifications subscriptions) (first : notifications ≤ more)
    (second : subscriptions ≤ later) : start.Within more later where
  recorded := within.recorded
  notifications := Nat.le_trans within.notifications first
  subscriptions := Nat.le_trans within.subscriptions second

namespace BootstrapPhase

variable {Item : Type} {phase : BootstrapPhase Item}

theorem wake_eq_listing {start : PassStart} {view : Dictionary String Item} :
    phase.wake = .listing start view ↔ phase = .listing start view := by
  cases phase <;> simp [wake]

end BootstrapPhase

namespace LeaseInventoryObserver

variable {Item : Type} {observer before after : LeaseInventoryObserver Item}

/-- What the flags and counters of an observer say about each other. -/
structure Consistent (observer : LeaseInventoryObserver Item) : Prop where
  unready : observer.subscriptionReady = false → observer.ready = false
  recovering : observer.consumer.recovering = true → observer.subscriptionReady = false
  generations : observer.recorded.length =
    observer.notificationGeneration + observer.subscriptionGeneration
  pass : ∀ start view, observer.bootstrap = .listing start view →
    start.Within observer.notificationGeneration observer.subscriptionGeneration

/-- A bootstrap task that waits for an invalidation has built its view since
anything was recorded. -/
def Settled (observer : LeaseInventoryObserver Item) : Prop :=
  observer.bootstrap = .parked → observer.invalidate = false →
    observer.subscriptionReady = true → observer.ready = true ∧ observer.mode = .steady ∧
      observer.viewStart = observer.recorded.length

theorem settled_of_invalidate (invalidate : observer.invalidate = true) : Settled observer := by
  intro _ unset
  rw [invalidate] at unset
  cases unset

theorem settled_of_bootstrap (busy : observer.bootstrap ≠ .parked) : Settled observer :=
  fun parked => (busy parked).elim

theorem consistent_requestPass (consistent : Consistent before) :
    Consistent before.requestPass where
  unready _ := rfl
  recovering := consistent.recovering
  generations := consistent.generations
  pass := consistent.pass

theorem consistent_countNotification (consistent : Consistent before) :
    Consistent before.countNotification where
  unready := consistent.unready
  recovering := consistent.recovering
  generations := by
    have generations := consistent.generations
    simp only [countNotification, record, List.length_append, List.length_singleton]
    omega
  pass start view listing :=
    (consistent.pass start view listing).mono (Nat.le_succ _) (Nat.le_refl _)

theorem consistent_noteNotification (consistent : Consistent before) :
    Consistent before.noteNotification := by
  have counted := consistent_countNotification consistent
  unfold noteNotification
  split
  · exact counted
  · exact consistent_requestPass counted

theorem consistent_noteSubscriptionFailure (consistent : Consistent before) :
    Consistent before.noteSubscriptionFailure where
  unready _ := rfl
  recovering _ := rfl
  generations := by
    have generations := consistent.generations
    simp only [noteSubscriptionFailure, requestPass, record, List.length_append,
      List.length_singleton]
    omega
  pass start view listing :=
    (consistent.pass start view listing).mono (Nat.le_refl _) (Nat.le_succ _)

theorem consistent_handleReconnect (consistent : Consistent before) :
    Consistent before.handleReconnect where
  unready _ := rfl
  recovering := consistent.recovering
  generations := by
    have generations := consistent.generations
    simp only [handleReconnect, requestPass, record, List.length_append, List.length_singleton]
    omega
  pass start view listing :=
    (consistent.pass start view listing).mono (Nat.le_refl _) (Nat.le_succ _)

/-- The subscription is nothing that counts here. -/
theorem Consistent.withSubscription (consistent : Consistent before)
    (subscription : AsyncSubscription String) : Consistent { before with subscription } where
  unready := consistent.unready
  recovering := consistent.recovering
  generations := consistent.generations
  pass := consistent.pass

/-- What a push does: nothing, a notification, or a notification and a
failure. -/
theorem push_cases (observer : LeaseInventoryObserver Item) (route : String) :
    (observer.subscription.closed = true ∧ observer.push route = observer) ∨
    (observer.subscription.closed = false ∧
      observer.subscription.full observer.capacity = false ∧ ∃ subscription,
        observer.push route = { observer.noteNotification with subscription }) ∨
    (observer.subscription.closed = false ∧
      observer.subscription.full observer.capacity = true ∧ ∃ subscription,
        observer.push route =
          { observer.noteNotification with subscription }.noteSubscriptionFailure) := by
  have subscription : observer.noteNotification.subscription = observer.subscription := by
    unfold noteNotification
    split <;> rfl
  have capacity : observer.noteNotification.capacity = observer.capacity := by
    unfold noteNotification
    split <;> rfl
  let pushed := observer.subscription.push observer.capacity route
  cases closed : observer.subscription.closed with
  | true => exact Or.inl ⟨rfl, by simp [push, closed]⟩
  | false =>
      cases full : observer.subscription.full observer.capacity with
      | false =>
          refine Or.inr (Or.inl ⟨rfl, rfl, pushed.1, ?_⟩)
          have accepted : pushed.2 = true := by
            simp [pushed, AsyncSubscription.push, closed, full]
          simp only [push, closed, subscription, capacity]
          exact if_pos accepted
      | true =>
          refine Or.inr (Or.inr ⟨rfl, rfl, pushed.1, ?_⟩)
          have refused : ¬ pushed.2 = true := by
            simp [pushed, AsyncSubscription.push, closed, full]
          simp only [push, closed, subscription, capacity]
          exact if_neg refused

theorem consistent_push (consistent : Consistent before) (route : String) :
    Consistent (before.push route) := by
  have noted := consistent_noteNotification consistent
  rcases before.push_cases route with ⟨-, same⟩ | ⟨-, -, subscription, same⟩ |
    ⟨-, -, subscription, same⟩
  · rw [same]
    exact consistent
  · rw [same]
    exact noted.withSubscription subscription
  · rw [same]
    exact consistent_noteSubscriptionFailure (noted.withSubscription subscription)

theorem consistent_failSubscription (consistent : Consistent before)
    (error : SubscriptionError) : Consistent (before.failSubscription error) := by
  unfold failSubscription
  split
  · exact consistent
  · exact (consistent_noteSubscriptionFailure consistent).withSubscription _

theorem consistent_foldl_push (consistent : Consistent before) (routes : List String) :
    Consistent (routes.foldl push before) := by
  induction routes generalizing before with
  | nil => exact consistent
  | cons route routes ih => exact ih (consistent_push consistent route)

theorem consistent_subscribed (consistent : Consistent before) (buffered : List String) :
    Consistent (before.subscribed buffered) := by
  have entered := consistent_foldl_push
    (consistent.withSubscription { registration := before.pattern })
    buffered
  refine ⟨nofun, nofun, ?_, fun start view listing => ?_⟩
  · have generations := entered.generations
    simp only [subscribed, record, List.length_append, List.length_singleton]
    omega
  · have was := BootstrapPhase.wake_eq_listing.mp listing
    exact (entered.pass start view was).mono (Nat.le_refl _) (Nat.le_succ _)

/-- The bootstrap task is in another phase, which is no pass. -/
theorem Consistent.withBootstrap (consistent : Consistent before)
    {bootstrap : BootstrapPhase Item} (idle : ∀ start view, bootstrap ≠ .listing start view) :
    Consistent { before with bootstrap } where
  unready := consistent.unready
  recovering := consistent.recovering
  generations := consistent.generations
  pass start view listing := (idle start view listing).elim

theorem Consistent.withInvalidate (consistent : Consistent before) (invalidate : Bool) :
    Consistent { before with invalidate } where
  unready := consistent.unready
  recovering := consistent.recovering
  generations := consistent.generations
  pass := consistent.pass

theorem Consistent.withBuffer (consistent : Consistent before) (buffer : List String) :
    Consistent { before with buffer } where
  unready := consistent.unready
  recovering := consistent.recovering
  generations := consistent.generations
  pass := consistent.pass

theorem consistent_beginPass (consistent : Consistent before) : Consistent before.beginPass where
  unready := consistent.unready
  recovering := consistent.recovering
  generations := consistent.generations
  pass start view listing := by
    obtain ⟨rfl, rfl⟩ := BootstrapPhase.listing.inj listing
    exact ⟨consistent.generations, Nat.le_refl _, Nat.le_refl _⟩

theorem consistent_nextPass (consistent : Consistent before) : Consistent before.nextPass := by
  unfold nextPass
  split
  · exact consistent_beginPass consistent
  · exact consistent.withBootstrap nofun

theorem consistent_beginBootstrap (consistent : Consistent before) :
    Consistent before.beginBootstrap := by
  apply consistent_nextPass
  exact {
    unready := consistent.unready
    recovering := consistent.recovering
    generations := consistent.generations
    pass := consistent.pass }

theorem consistent_invalidated (consistent : Consistent before) :
    Consistent before.invalidated := by
  have cleared := consistent.withInvalidate false
  unfold invalidated
  split
  · exact consistent.withBootstrap nofun
  · split
    · exact consistent_beginBootstrap cleared
    · exact cleared.withBootstrap nofun

theorem consistent_loopBootstrap (consistent : Consistent before) :
    Consistent before.loopBootstrap := by
  unfold loopBootstrap
  split
  · exact consistent_invalidated consistent
  · exact consistent.withBootstrap nofun

theorem consistent_resume (consistent : Consistent before)
    (resumed : before.resume = some after) : Consistent after := by
  unfold resume at resumed
  split at resumed
  · obtain ⟨-, same⟩ := Option.ite_none_right_eq_some.mp resumed
    obtain rfl := Option.some.inj same
    exact consistent_invalidated consistent
  · obtain rfl := Option.some.inj resumed
    exact consistent_beginBootstrap consistent
  · obtain rfl := Option.some.inj resumed
    exact consistent_beginPass consistent
  · obtain rfl := Option.some.inj resumed
    exact consistent_nextPass consistent
  · obtain rfl := Option.some.inj resumed
    exact consistent_loopBootstrap (consistent.withInvalidate true)
  · cases resumed

/-- A pass that was not raced covers everything that has been recorded, and the
subscription is ready. -/
theorem recorded_of_not_raced (consistent : Consistent observer) {start : PassStart}
    {view : Dictionary String Item} (listing : observer.bootstrap = .listing start view)
    (unraced : observer.raced start = false) :
    start.recorded = observer.recorded.length ∧ observer.subscriptionReady = true := by
  have within := consistent.pass start view listing
  have generations := consistent.generations
  have recorded := within.recorded
  simp only [raced, Bool.or_eq_false_iff, bne_eq_false_iff_eq, Bool.not_eq_false'] at unraced
  obtain ⟨⟨⟨-, notifications⟩, isReady⟩, subscriptions⟩ := unraced
  exact ⟨by omega, isReady⟩

/-- The observer becomes ready with the view of a pass. -/
def installed (observer : LeaseInventoryObserver Item) (start : PassStart)
    (view : Dictionary String Item) : LeaseInventoryObserver Item :=
  { observer with
    view := view, mode := .steady, buffer := [], ready := true, viewStart := start.recorded }

theorem finishPass_eq (observer : LeaseInventoryObserver Item) (start : PassStart)
    (view : Dictionary String Item) : observer.finishPass start view =
      if observer.raced start then { observer with buffer := [], bootstrap := .retrying }
      else (observer.installed start view).loopBootstrap :=
  rfl

theorem consistent_finishPass (consistent : Consistent before) {start : PassStart}
    {view : Dictionary String Item} (listing : before.bootstrap = .listing start view) :
    Consistent (before.finishPass start view) := by
  rw [finishPass_eq]
  split
  · exact (consistent.withBuffer []).withBootstrap nofun
  · next unraced =>
      have isReady := (recorded_of_not_raced consistent listing (by simpa using unraced)).2
      apply consistent_loopBootstrap
      exact {
        unready := fun unready => by
          change before.subscriptionReady = false at unready
          rw [isReady] at unready
          cases unready
        recovering := consistent.recovering
        generations := consistent.generations
        pass := consistent.pass }

theorem Consistent.withConsumer (consistent : Consistent before) {consumer : ConsumePhase}
    (recovering : consumer.recovering = true → before.subscriptionReady = false) :
    Consistent { before with consumer } where
  unready := consistent.unready
  recovering := recovering
  generations := consistent.generations
  pass := consistent.pass

theorem consistent_consumeRoute (consistent : Consistent before) (route : String) :
    Consistent (before.consumeRoute route) := by
  unfold consumeRoute
  split
  · exact consistent.withBuffer _
  · exact consistent_requestPass consistent

theorem consistent_consumeFailure (consistent : Consistent before) :
    Consistent before.consumeFailure := by
  unfold consumeFailure
  split
  · exact (consistent_noteSubscriptionFailure consistent).withConsumer fun _ => rfl
  · next unready => exact consistent.withConsumer fun _ => by simpa using unready

theorem consistent_consumeEnd (consistent : Consistent before) : Consistent before.consumeEnd where
  unready _ := rfl
  recovering := nofun
  generations := consistent.generations
  pass := consistent.pass

theorem consistent_consume (consistent : Consistent before)
    (consumed : before.consume = some after) : Consistent after := by
  have read := consistent.withSubscription before.subscription.read
  unfold consume at consumed
  split at consumed
  · obtain rfl := Option.some.inj consumed
    exact consistent_consumeRoute read _
  · obtain rfl := Option.some.inj consumed
    exact consistent_consumeFailure read
  · obtain rfl := Option.some.inj consumed
    exact consistent_consumeEnd read
  · obtain ⟨-, same⟩ := Option.ite_none_right_eq_some.mp consumed
    obtain rfl := Option.some.inj same
    exact consistent_consumeEnd read

/-- What each transition does, as far as the flags and counters go. -/
theorem consistent_step (consistent : Consistent before) {action : ObserverAction Item}
    (stepped : before.step action = some after) : Consistent after := by
  cases action with
  | notify route =>
      obtain rfl := Option.some.inj stepped
      exact consistent_push consistent route
  | fail error =>
      obtain rfl := Option.some.inj stepped
      exact consistent_failSubscription consistent error
  | terminate =>
      obtain rfl := Option.some.inj stepped
      exact consistent.withSubscription _
  | reconnect =>
      obtain ⟨-, same⟩ := Option.ite_none_left_eq_some.mp stepped
      obtain rfl := Option.some.inj same
      exact consistent_handleReconnect consistent
  | tick =>
      obtain ⟨-, same⟩ := Option.ite_none_left_eq_some.mp stepped
      obtain rfl := Option.some.inj same
      exact consistent_requestPass consistent
  | resume => exact consistent_resume consistent stepped
  | page items =>
      simp only [step] at stepped
      split at stepped
      · next start view listing =>
          obtain rfl := Option.some.inj stepped
          refine ⟨consistent.unready, consistent.recovering, consistent.generations, ?_⟩
          intro other extended same
          obtain ⟨rfl, -⟩ := BootstrapPhase.listing.inj same
          exact consistent.pass start view listing
      · cases stepped
  | listed =>
      simp only [step] at stepped
      split at stepped
      · next start view listing =>
          obtain rfl := Option.some.inj stepped
          exact consistent_finishPass consistent listing
      · cases stepped
  | listFailed =>
      simp only [step] at stepped
      split at stepped
      · obtain rfl := Option.some.inj stepped
        exact ⟨fun _ => rfl, consistent.recovering, consistent.generations, nofun⟩
      · cases stepped
  | consume =>
      obtain ⟨-, consumed⟩ := Option.ite_none_right_eq_some.mp stepped
      exact consistent_consume consistent consumed
  | oldClosed =>
      obtain ⟨closing, same⟩ := Option.ite_none_right_eq_some.mp stepped
      obtain rfl := Option.some.inj same
      exact consistent.withConsumer fun _ => consistent.recovering (by rw [closing]; rfl)
  | subscribed buffered =>
      obtain ⟨-, same⟩ := Option.ite_none_right_eq_some.mp stepped
      obtain rfl := Option.some.inj same
      exact (consistent_subscribed consistent buffered).withInvalidate true
  | subscribeFailed =>
      obtain ⟨subscribing, same⟩ := Option.ite_none_right_eq_some.mp stepped
      obtain rfl := Option.some.inj same
      exact consistent.withConsumer fun _ => consistent.recovering (by rw [subscribing]; rfl)
  | retrySubscribe =>
      obtain ⟨sleeping, same⟩ := Option.ite_none_right_eq_some.mp stepped
      obtain rfl := Option.some.inj same
      exact consistent.withConsumer fun _ => consistent.recovering (by rw [sleeping]; rfl)
  | close =>
      obtain ⟨-, same⟩ := Option.ite_none_left_eq_some.mp stepped
      obtain rfl := Option.some.inj same
      exact ⟨consistent.unready, nofun, consistent.generations, nofun⟩

theorem consistent_start (pattern : String) (capacity : Nat) (buffered : List String) :
    Consistent (start pattern capacity buffered : LeaseInventoryObserver Item) := by
  apply consistent_subscribed
  exact ⟨fun _ => rfl, nofun, rfl, nofun⟩

theorem invariant_consistent
    (admitted : LeaseInventoryObserver Item → ObserverAction Item → Prop) :
    (system Item).Invariant admitted Consistent where
  starts first starts := by
    obtain ⟨pattern, capacity, buffered, rfl⟩ := starts
    exact consistent_start pattern capacity buffered
  preserved _ _ _ consistent _ stepped := consistent_step consistent stepped

theorem bootstrap_nextPass : before.nextPass.bootstrap ≠ .parked := by
  unfold nextPass
  split <;> nofun

theorem bootstrap_invalidated : before.invalidated.bootstrap ≠ .parked := by
  unfold invalidated
  split
  · nofun
  · split
    · exact bootstrap_nextPass
    · nofun

theorem settled_loopBootstrap (settled : before.invalidate = false → before.ready = true ∧
    before.mode = .steady ∧ before.viewStart = before.recorded.length) :
    Settled before.loopBootstrap := by
  unfold loopBootstrap
  split
  · exact settled_of_bootstrap bootstrap_invalidated
  · exact fun _ unset _ => settled unset

theorem settled_resume (resumed : before.resume = some after) : Settled after := by
  unfold resume at resumed
  split at resumed
  · obtain ⟨-, same⟩ := Option.ite_none_right_eq_some.mp resumed
    obtain rfl := Option.some.inj same
    exact settled_of_bootstrap bootstrap_invalidated
  · obtain rfl := Option.some.inj resumed
    exact settled_of_bootstrap bootstrap_nextPass
  · obtain rfl := Option.some.inj resumed
    exact settled_of_bootstrap nofun
  · obtain rfl := Option.some.inj resumed
    exact settled_of_bootstrap bootstrap_nextPass
  · obtain rfl := Option.some.inj resumed
    exact settled_loopBootstrap nofun
  · cases resumed

theorem settled_finishPass (consistent : Consistent before) {start : PassStart}
    {view : Dictionary String Item} (listing : before.bootstrap = .listing start view) :
    Settled (before.finishPass start view) := by
  rw [finishPass_eq]
  split
  · exact settled_of_bootstrap nofun
  · next unraced =>
      have covered := (recorded_of_not_raced consistent listing (by simpa using unraced)).1
      exact settled_loopBootstrap fun _ => ⟨rfl, rfl, covered⟩

/-- In the steady mode a notification asks for a pass; otherwise the bootstrap
task is not waiting for one. -/
theorem settled_push (settled : Settled before) (route : String) :
    Settled (before.push route) := by
  rcases before.push_cases route with ⟨-, same⟩ | ⟨-, -, subscription, same⟩ |
    ⟨-, -, subscription, same⟩
  · rw [same]
    exact settled
  · rw [same]
    cases mode : before.mode with
    | buffering =>
        intro parked unset isReady
        simp only [noteNotification, mode, if_true] at parked unset isReady
        have steady := (settled parked unset isReady).2.1
        rw [mode] at steady
        cases steady
    | steady =>
        apply settled_of_invalidate
        simp only [noteNotification, mode]
        rfl
  · rw [same]
    exact settled_of_invalidate rfl

theorem settled_consume (settled : Settled before)
    (consumed : before.consume = some after) : Settled after := by
  unfold consume at consumed
  split at consumed
  · obtain rfl := Option.some.inj consumed
    unfold consumeRoute
    split
    · exact settled
    · exact settled_of_invalidate rfl
  · obtain rfl := Option.some.inj consumed
    unfold consumeFailure
    split
    · exact settled_of_invalidate rfl
    · exact settled
  · obtain rfl := Option.some.inj consumed
    exact fun _ _ => nofun
  · obtain ⟨-, same⟩ := Option.ite_none_right_eq_some.mp consumed
    obtain rfl := Option.some.inj same
    exact fun _ _ => nofun

theorem settled_step (consistent : Consistent before) (settled : Settled before)
    {action : ObserverAction Item} (stepped : before.step action = some after) :
    Settled after := by
  cases action with
  | notify route =>
      obtain rfl := Option.some.inj stepped
      exact settled_push settled route
  | fail error =>
      obtain rfl := Option.some.inj stepped
      unfold failSubscription
      split
      · exact settled
      · exact settled_of_invalidate rfl
  | terminate =>
      obtain rfl := Option.some.inj stepped
      exact settled
  | reconnect =>
      obtain ⟨-, same⟩ := Option.ite_none_left_eq_some.mp stepped
      obtain rfl := Option.some.inj same
      exact settled_of_invalidate rfl
  | tick =>
      obtain ⟨-, same⟩ := Option.ite_none_left_eq_some.mp stepped
      obtain rfl := Option.some.inj same
      exact settled_of_invalidate rfl
  | resume => exact settled_resume stepped
  | page items =>
      simp only [step] at stepped
      split at stepped
      · obtain rfl := Option.some.inj stepped
        exact settled_of_bootstrap nofun
      · cases stepped
  | listed =>
      simp only [step] at stepped
      split at stepped
      · next start view listing =>
          obtain rfl := Option.some.inj stepped
          exact settled_finishPass consistent listing
      · cases stepped
  | listFailed =>
      simp only [step] at stepped
      split at stepped
      · obtain rfl := Option.some.inj stepped
        exact settled_of_bootstrap nofun
      · cases stepped
  | consume =>
      obtain ⟨-, consumed⟩ := Option.ite_none_right_eq_some.mp stepped
      exact settled_consume settled consumed
  | oldClosed | subscribeFailed | retrySubscribe =>
      obtain ⟨-, same⟩ := Option.ite_none_right_eq_some.mp stepped
      obtain rfl := Option.some.inj same
      exact settled
  | subscribed buffered =>
      obtain ⟨-, same⟩ := Option.ite_none_right_eq_some.mp stepped
      obtain rfl := Option.some.inj same
      exact settled_of_invalidate rfl
  | close =>
      obtain ⟨-, same⟩ := Option.ite_none_left_eq_some.mp stepped
      obtain rfl := Option.some.inj same
      exact settled_of_invalidate rfl

theorem invalidate_push (invalidate : before.invalidate = true) (route : String) :
    (before.push route).invalidate = true := by
  have noted : before.noteNotification.invalidate = true := by
    unfold noteNotification
    split
    · exact invalidate
    · rfl
  rcases before.push_cases route with ⟨-, same⟩ | ⟨-, -, subscription, same⟩ |
    ⟨-, -, subscription, same⟩
  · rw [same]
    exact invalidate
  · rw [same]
    exact noted
  · rw [same]
    rfl

theorem invalidate_foldl_push (invalidate : before.invalidate = true) (routes : List String) :
    (routes.foldl push before).invalidate = true := by
  induction routes generalizing before with
  | nil => exact invalidate
  | cons route routes ih => exact ih (invalidate_push invalidate route)

theorem invariant_settled :
    (system Item).Invariant (fun _ _ => True) fun observer =>
      Consistent observer ∧ Settled observer :=
  (invariant_consistent _).strengthen
    (fun first starts => by
      obtain ⟨pattern, capacity, buffered, rfl⟩ := starts
      exact settled_of_invalidate (invalidate_foldl_push rfl buffered))
    fun _ _ _ consistent _ settled _ stepped => settled_step consistent settled stepped

/-- While an observer that is not closed is ready, no notification, failure or
reconnect has been recorded since the pass of its view began. -/
def ReadyCurrent (observer : LeaseInventoryObserver Item) : Prop :=
  observer.closed = false → observer.ready = true →
    ∀ event ∈ observer.recorded.drop observer.viewStart, event = .subscribed

/-- A notification that the subscription takes finds a ready observer in the
steady mode, with no further pass begun. -/
def FindsSteady (observer : LeaseInventoryObserver Item) : ObserverAction Item → Prop
  | .notify _ => observer.closed = false → observer.subscription.closed = false →
      observer.subscription.full observer.capacity = false → observer.ready = true →
        observer.mode = .steady
  | _ => True

/-- Nothing at all has been recorded since the pass of the view began. -/
def Fresh (observer : LeaseInventoryObserver Item) : Prop :=
  observer.closed = false → observer.ready = true →
    observer.viewStart = observer.recorded.length

theorem Fresh.readyCurrent (fresh : Fresh observer) : ReadyCurrent observer := by
  intro isOpen ready event member
  rw [fresh isOpen ready, List.drop_length] at member
  cases member

theorem fresh_of_unready (unready : observer.ready = false) : Fresh observer := by
  intro _ ready
  rw [unready] at ready
  cases ready

theorem fresh_nextPass (fresh : Fresh before) : Fresh before.nextPass := by
  unfold nextPass
  split <;> exact fresh

theorem fresh_beginBootstrap (fresh : Fresh before) : Fresh before.beginBootstrap :=
  @fresh_nextPass Item
    { before with invalidate := false, mode := .buffering, buffer := [] } fresh

theorem fresh_invalidated (fresh : Fresh before) : Fresh before.invalidated := by
  unfold invalidated
  split
  · exact fresh
  · split
    · exact @fresh_beginBootstrap Item { before with invalidate := false } fresh
    · exact fresh

theorem fresh_loopBootstrap (fresh : Fresh before) : Fresh before.loopBootstrap := by
  unfold loopBootstrap
  split
  · exact fresh_invalidated fresh
  · exact fresh

theorem fresh_resume (fresh : Fresh before) (resumed : before.resume = some after) :
    Fresh after := by
  unfold resume at resumed
  split at resumed
  · obtain ⟨-, same⟩ := Option.ite_none_right_eq_some.mp resumed
    obtain rfl := Option.some.inj same
    exact fresh_invalidated fresh
  · obtain rfl := Option.some.inj resumed
    exact fresh_beginBootstrap fresh
  · obtain rfl := Option.some.inj resumed
    exact fresh
  · obtain rfl := Option.some.inj resumed
    exact fresh_nextPass fresh
  · obtain rfl := Option.some.inj resumed
    exact @fresh_loopBootstrap Item { before with invalidate := true } fresh
  · cases resumed

theorem fresh_finishPass (consistent : Consistent before) (fresh : Fresh before)
    {start : PassStart} {view : Dictionary String Item}
    (listing : before.bootstrap = .listing start view) : Fresh (before.finishPass start view) := by
  rw [finishPass_eq]
  split
  · exact fresh
  · next unraced =>
      have covered := (recorded_of_not_raced consistent listing (by simpa using unraced)).1
      exact fresh_loopBootstrap fun _ _ => covered

/-- A push makes nobody ready. -/
theorem ready_push (unready : before.ready = false) (route : String) :
    (before.push route).ready = false := by
  have noted : before.noteNotification.ready = false := by
    unfold noteNotification
    split
    · exact unready
    · rfl
  rcases before.push_cases route with ⟨-, same⟩ | ⟨-, -, subscription, same⟩ |
    ⟨-, -, subscription, same⟩
  · rw [same]
    exact unready
  · rw [same]
    exact noted
  · rw [same]
    rfl

theorem ready_foldl_push (unready : before.ready = false) (routes : List String) :
    (routes.foldl push before).ready = false := by
  induction routes generalizing before with
  | nil => exact unready
  | cons route routes ih => exact ih (ready_push unready route)

theorem ready_subscribed (unready : before.ready = false) (buffered : List String) :
    (before.subscribed buffered).ready = false :=
  @ready_foldl_push Item { before with subscription := { registration := before.pattern } } unready
    buffered

theorem closed_noteNotification : before.noteNotification.closed = before.closed := by
  unfold noteNotification
  split <;> rfl

theorem fresh_push (fresh : Fresh before) {route : String}
    (steady : FindsSteady before (.notify route)) : Fresh (before.push route) := by
  rcases before.push_cases route with ⟨-, same⟩ | ⟨isOpen, room, subscription, same⟩ |
    ⟨-, -, subscription, same⟩
  · rw [same]
    exact fresh
  · rw [same]
    intro running ready
    change before.noteNotification.closed = false at running
    rw [closed_noteNotification] at running
    cases wasReady : before.ready with
    | false =>
        have unready := ready_push wasReady route
        rw [same] at unready
        rw [unready] at ready
        cases ready
    | true =>
        -- in the steady mode the notification clears the flag
        have mode := steady running isOpen room wasReady
        simp only [noteNotification, mode] at ready
        cases ready
  · rw [same]
    exact fresh_of_unready rfl

theorem fresh_consume (fresh : Fresh before) (consistent : Consistent before)
    (consumed : before.consume = some after) : Fresh after := by
  unfold consume at consumed
  split at consumed
  · obtain rfl := Option.some.inj consumed
    unfold consumeRoute
    split
    · exact fresh
    · exact fresh_of_unready rfl
  · obtain rfl := Option.some.inj consumed
    unfold consumeFailure
    split
    · exact fresh_of_unready rfl
    · next unready => exact fresh_of_unready (consistent.unready (by simpa using unready))
  · obtain rfl := Option.some.inj consumed
    exact fresh_of_unready rfl
  · obtain ⟨-, same⟩ := Option.ite_none_right_eq_some.mp consumed
    obtain rfl := Option.some.inj same
    exact fresh_of_unready rfl

theorem fresh_step (consistent : Consistent before) (fresh : Fresh before)
    {action : ObserverAction Item} (steady : FindsSteady before action)
    (stepped : before.step action = some after) : Fresh after := by
  cases action with
  | notify route =>
      obtain rfl := Option.some.inj stepped
      exact fresh_push fresh steady
  | fail error =>
      obtain rfl := Option.some.inj stepped
      unfold failSubscription
      split
      · exact fresh
      · exact fresh_of_unready rfl
  | terminate =>
      obtain rfl := Option.some.inj stepped
      exact fresh
  | reconnect =>
      obtain ⟨-, same⟩ := Option.ite_none_left_eq_some.mp stepped
      obtain rfl := Option.some.inj same
      exact fresh_of_unready rfl
  | tick =>
      obtain ⟨-, same⟩ := Option.ite_none_left_eq_some.mp stepped
      obtain rfl := Option.some.inj same
      exact fresh_of_unready rfl
  | resume => exact fresh_resume fresh stepped
  | page items =>
      simp only [step] at stepped
      split at stepped
      · obtain rfl := Option.some.inj stepped
        exact fresh
      · cases stepped
  | listed =>
      simp only [step] at stepped
      split at stepped
      · next start view listing =>
          obtain rfl := Option.some.inj stepped
          exact fresh_finishPass consistent fresh listing
      · cases stepped
  | listFailed =>
      simp only [step] at stepped
      split at stepped
      · obtain rfl := Option.some.inj stepped
        exact fresh_of_unready rfl
      · cases stepped
  | consume =>
      obtain ⟨-, consumed⟩ := Option.ite_none_right_eq_some.mp stepped
      exact fresh_consume fresh consistent consumed
  | oldClosed | subscribeFailed | retrySubscribe =>
      obtain ⟨-, same⟩ := Option.ite_none_right_eq_some.mp stepped
      obtain rfl := Option.some.inj same
      exact fresh
  | subscribed buffered =>
      obtain ⟨resubscribing, same⟩ := Option.ite_none_right_eq_some.mp stepped
      obtain rfl := Option.some.inj same
      have unready := consistent.unready (consistent.recovering (by rw [resubscribing]; rfl))
      exact fresh_of_unready (ready_subscribed unready buffered)
  | close =>
      obtain ⟨-, same⟩ := Option.ite_none_left_eq_some.mp stepped
      obtain rfl := Option.some.inj same
      exact nofun

/-- A notification that finds a ready observer in the buffering mode is recorded
without clearing the flag. -/
theorem not_readyCurrent_of_not_findsSteady (fresh : Fresh before)
    {action : ObserverAction Item} (buffering : ¬ FindsSteady before action)
    (stepped : before.step action = some after) : ¬ ReadyCurrent after := by
  cases action with
  | notify route =>
      obtain rfl := Option.some.inj stepped
      simp only [FindsSteady, Classical.not_imp] at buffering
      obtain ⟨running, isOpen, room, ready, notSteady⟩ := buffering
      have mode : before.mode = .buffering := by
        cases mode : before.mode with
        | buffering => rfl
        | steady => exact (notSteady mode).elim
      rcases before.push_cases route with ⟨closed, -⟩ | ⟨-, -, subscription, same⟩ |
        ⟨-, full, -⟩
      · rw [isOpen] at closed
        cases closed
      · rw [same]
        simp only [noteNotification, mode, if_true]
        intro current
        have recorded := current running ready .notification (by
          change _ ∈ (before.recorded ++ [ObserverEvent.notification]).drop before.viewStart
          rw [fresh running ready, List.drop_left]
          exact List.mem_singleton.mpr rfl)
        cases recorded
      · rw [room] at full
        cases full
  | fail _ | terminate | reconnect | tick | resume | page _ | listed | listFailed | consume
  | oldClosed | subscribed _ | subscribeFailed | retrySubscribe | close =>
      exact (buffering trivial).elim

/-- Readiness is current throughout a run exactly if no notification finds the
observer ready with another pass begun. -/
theorem along_readyCurrent_iff (pattern : String) (capacity : Nat) (buffered : List String)
    (actions : List (ObserverAction Item)) :
    (system Item).Along ReadyCurrent (start pattern capacity buffered) actions ↔
      (system Item).StepsMeet FindsSteady (start pattern capacity buffered) actions := by
  apply (system Item).along_iff_stepsMeet fun observer => Consistent observer ∧ Fresh observer
  · exact fun _ held => held.2.readyCurrent
  · exact fun _ _ _ held steady stepped =>
      ⟨consistent_step held.1 stepped, fresh_step held.1 held.2 steady stepped⟩
  · exact fun _ _ _ held buffering stepped =>
      not_readyCurrent_of_not_findsSteady held.2 buffering stepped
  · exact ⟨consistent_start pattern capacity buffered,
      fresh_of_unready (ready_subscribed rfl buffered)⟩

/-- A tick of the reconciler during the first pass makes the second one follow
at once, while the observer is ready.  A notification is recorded then. -/
theorem exists_stale_readiness : ∃ observer : LeaseInventoryObserver Nat,
    (system Nat).Reachable observer ∧ ¬ ReadyCurrent observer := by
  refine ⟨_, (system Nat).reachable_of_run ⟨"lease://r/a/*", 4, [], rfl⟩
    [.resume, .tick, .listed, .notify "lease://r/a/1"] rfl, ?_⟩
  intro current
  have recorded := current rfl rfl .notification (List.mem_singleton.mpr rfl)
  cases recorded

end LeaseInventoryObserver

end FitzClient
