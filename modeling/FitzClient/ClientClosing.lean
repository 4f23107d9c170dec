import FitzClient.Client
import FitzClient.ConnectionClosed
import FitzClient.ConnectionRejection
import FitzClient.NoticeAudience

/-!
# The end of a client's consumers

The close listeners end whoever listens, but they run only once and only where
`_close` or an exhausted reconnect loop reaches them.  So a client that is closed
for good leaves no consumer behind if everybody had left before an
authentication rejection, if everybody had left before a `close` whose
listeners a reconnect loop has used up, and if no `subscribe` returns
afterwards.
-/

namespace FitzClient

/-- None of these consumers listens. -/
def Silent {Item : Type} (consumers : List (AsyncSubscription Item)) : Prop :=
  ∀ consumer ∈ consumers, ¬ consumer.Listening

instance {Item : Type} (consumers : List (AsyncSubscription Item)) :
    Decidable (Silent consumers) :=
  inferInstanceAs (Decidable (∀ _ ∈ _, _))

section silent

variable {Item : Type} {consumers later : List (AsyncSubscription Item)}

theorem silent_iff : Silent consumers ↔ listeners consumers = ∅ := by
  rw [Set.eq_empty_iff_forall_notMem]
  constructor
  · rintro silent member ⟨consumer, found, -, listens⟩
    exact silent consumer (List.mem_of_getElem? found) listens
  · intro empty consumer member listens
    obtain ⟨index, found⟩ := List.mem_iff_getElem?.mp member
    exact empty (index, consumer.registration) ⟨consumer, found, rfl, listens⟩

theorem Silent.of_subset (silent : Silent consumers)
    (shrinks : listeners later ⊆ listeners consumers) : Silent later := by
  rw [silent_iff] at silent ⊢
  exact Set.subset_eq_empty shrinks silent

/-- A silent consumer without an `aclose` under way has ended. -/
theorem Silent.closed (silent : Silent consumers)
    (completed : AsyncSubscription.completed consumers = true)
    {consumer : AsyncSubscription Item} (member : consumer ∈ consumers) :
    consumer.closed = true := by
  have rests := List.all_eq_true.mp completed consumer member
  by_contra isOpen
  refine silent consumer member ⟨by simpa using isOpen, ?_, ?_⟩
  · intro waiting
    simp [waiting] at rests
  · intro unsubscribing
    simp [unsubscribing] at rests

end silent

namespace Client

variable {Item : Type} {client next : Client Item}

/-- No consumer of the client listens. -/
def Quiet (client : Client Item) : Prop :=
  (∀ domain, Silent (client.registries domain).consumers) ∧
    Silent client.notices.client.consumers

instance (client : Client Item) : Decidable client.Quiet :=
  inferInstanceAs (Decidable (_ ∧ _))

/-- The client is closed for good, and its close listeners have run if they
ever will. -/
def Over (client : Client Item) : Prop :=
  client.connection.closed = true ∧ client.closing = false

instance (client : Client Item) : Decidable client.Over :=
  inferInstanceAs (Decidable (_ ∧ _))

/-- Nobody is left behind: nobody listens when the broker rejects the token or
when `_close` finds its listeners used up, and no `subscribe` returns once the
client is over. -/
def LeavesNobody (client : Client Item) : ClientAction Item → Prop
  | .connection action =>
      (client.connection.rejects action = true → client.connection.closed = false →
        client.Quiet) ∧
      (action = .closeTasks → client.connection.closeNotified = true → client.Quiet)
  | .registry domain action =>
      client.Over → (client.registries domain).returns action = false
  | .notices action => client.Over → client.notices.returns action = false

instance (client : Client Item) (action : ClientAction Item) :
    Decidable (client.LeavesNobody action) := by
  cases action with
  | connection action => exact inferInstanceAs (Decidable ((_ → _ → _) ∧ (_ → _ → _)))
  | registry domain action => exact inferInstanceAs (Decidable (_ → _))
  | notices action => exact inferInstanceAs (Decidable (_ → _))

/-- Whoever listens is in the audience of its wires, and nobody listens when
the client is over. -/
structure Closing (client : Client Item) : Prop where
  registries : ∀ domain, (client.registries domain).Attended
  notices : client.notices.Attended
  closing : client.closing = true → client.connection.closed = true
  quiet : client.Over → client.Quiet

theorem Closing.quiet_terminate (closing : Closing client) : client.terminate.Quiet := by
  constructor
  · intro domain
    exact silent_iff.mpr
      ((client.registries domain).listeners_terminate (closing.registries domain).settled none)
  · exact silent_iff.mpr
      (client.notices.client.listeners_terminate closing.notices.settled)

theorem Closing.attended_terminate (closing : Closing client) :
    (∀ domain, (client.terminate.registries domain).Attended) ∧
      client.terminate.notices.Attended := by
  constructor
  · intro domain
    have ends : (client.registries domain).step (.terminate none) =
        some (client.terminate.registries domain) := rfl
    exact (closing.registries domain).step ends
  · have ends : client.notices.step .terminate = some client.terminate.notices := rfl
    exact closing.notices.step ends

section advance

variable {action : ConnectionAction} {connection : Connection}

theorem connection_advance : (client.advance action connection).connection = connection := by
  unfold advance
  dsimp only
  split <;> rfl

theorem closing_advance : (client.advance action connection).closing =
    match action with
    | .close => client.closing || !client.connection.closed
    | .closeTasks => false
    | _ => client.closing := by
  unfold advance
  dsimp only
  split <;> rfl

/-- The first transition to notify the close listeners runs them. -/
theorem advance_notifies
    (notifies : (connection.closeNotified && !client.connection.closeNotified) = true) :
    (client.advance action connection).registries = client.terminate.registries ∧
      (client.advance action connection).notices = client.terminate.notices := by
  unfold advance
  rw [if_pos notifies]
  exact ⟨rfl, rfl⟩

theorem advance_silent
    (silent : (connection.closeNotified && !client.connection.closeNotified) = false) :
    (client.advance action connection).registries = client.registries ∧
      (client.advance action connection).notices = client.notices := by
  unfold advance
  rw [if_neg (by simp [silent])]
  exact ⟨rfl, rfl⟩

/-- `_close` comes to its listeners only where they run, or have run. -/
theorem closeNotified_closeTasks (connection : Connection) :
    connection.closeTasks.closeNotified = true := by
  unfold Connection.closeTasks
  dsimp only
  split <;> rfl

/-- The client is over after a transition of the connection that runs no close
listener. -/
theorem Closing.quiet_of_over (closing : Closing client)
    (stepped : client.connection.step action = some connection)
    (leaves : client.LeavesNobody (.connection action))
    (silent : (connection.closeNotified && !client.connection.closeNotified) = false)
    (isOver : (client.advance action connection).Over) : client.Quiet := by
  obtain ⟨closed, ended⟩ := isOver
  rw [connection_advance] at closed
  rw [closing_advance] at ended
  cases wasClosed : client.connection.closed with
  | false =>
      rcases Connection.closed_of_step stepped closed with closedBefore | rfl | rejected
      · simp [wasClosed] at closedBefore
      · simp [wasClosed] at ended
      · exact leaves.1 rejected wasClosed
  | true =>
      cases wasClosing : client.closing with
      | false => exact closing.quiet ⟨wasClosed, wasClosing⟩
      | true =>
          -- nothing but the listeners of `_close` ends its first half
          have tasks : action = .closeTasks := by
            cases action <;> simp [wasClosing] at ended ⊢
          subst tasks
          simp only [Connection.step] at stepped
          split_ifs at stepped
          obtain rfl := Option.some.inj stepped
          rw [closeNotified_closeTasks] at silent
          exact leaves.2 rfl (by simpa using silent)

theorem Closing.closed_of_closing (closing : Closing client)
    (stepped : client.connection.step action = some connection)
    (begun : (client.advance action connection).closing = true) : connection.closed = true := by
  by_cases closes : action = .close
  · subst closes
    obtain rfl := Option.some.inj stepped
    unfold Connection.close
    split
    · assumption
    · rfl
  · have wasClosing : client.closing = true := by
      rw [closing_advance] at begun
      cases action <;> simp_all
    exact ((Connection.Advances.step stepped).sealed (closing.closing wasClosing)).closed

theorem Closing.advance (closing : Closing client)
    (stepped : client.connection.step action = some connection)
    (leaves : client.LeavesNobody (.connection action)) :
    Closing (client.advance action connection) := by
  have isClosed (begun : (client.advance action connection).closing = true) :
      (client.advance action connection).connection.closed = true := by
    rw [connection_advance]
    exact closing.closed_of_closing stepped begun
  cases notified : connection.closeNotified && !client.connection.closeNotified with
  | true =>
      obtain ⟨registries, notices⟩ := @advance_notifies _ client action _ notified
      have attended := closing.attended_terminate
      have quiet := closing.quiet_terminate
      exact {
        registries := by rw [registries]; exact attended.1
        notices := by rw [notices]; exact attended.2
        closing := isClosed
        quiet := fun _ => by
          unfold Quiet
          rw [registries, notices]
          exact quiet }
  | false =>
      obtain ⟨registries, notices⟩ := @advance_silent _ client action _ notified
      exact {
        registries := by rw [registries]; exact closing.registries
        notices := by rw [notices]; exact closing.notices
        closing := isClosed
        quiet := fun isOver => by
          unfold Quiet
          rw [registries, notices]
          exact closing.quiet_of_over stepped leaves notified isOver }

end advance

theorem Closing.updateRegistry (closing : Closing client) {domain : SubscriptionDomain}
    {action : RegistryAction Item} {registry : SubscriptionRegistry Item}
    (stepped : (client.registries domain).step action = some registry)
    (leaves : client.LeavesNobody (.registry domain action)) :
    Closing { client with
      registries := Function.update client.registries domain registry } where
  registries other := by
    by_cases same : other = domain
    · subst same
      simpa using (closing.registries other).step stepped
    · simpa [same] using closing.registries other
  notices := closing.notices
  closing := closing.closing
  quiet isOver := by
    have quiet := closing.quiet isOver
    refine ⟨fun other => ?_, quiet.2⟩
    by_cases same : other = domain
    · subst same
      have shrinks := (closing.registries other).listeners_step stepped (leaves isOver)
      simpa using (quiet.1 other).of_subset shrinks
    · simpa [same] using quiet.1 other

theorem Closing.updateNotices (closing : Closing client) {action : NoticeAction Item}
    {notices : NoticeLifetime Item} (stepped : client.notices.step action = some notices)
    (leaves : client.LeavesNobody (.notices action)) : Closing { client with notices } where
  registries := closing.registries
  notices := closing.notices.step stepped
  closing := closing.closing
  quiet isOver := by
    have quiet := closing.quiet isOver
    exact ⟨quiet.1, quiet.2.of_subset (closing.notices.listeners_step stepped (leaves isOver))⟩

/-- One transition. -/
theorem Closing.step (closing : Closing client) {action : ClientAction Item}
    (leaves : client.LeavesNobody action) (stepped : client.step action = some next) :
    Closing next := by
  unfold Client.step at stepped
  split at stepped
  · split at stepped
    · cases stepped
    · obtain ⟨connection, moved, rfl⟩ := Option.map_eq_some_iff.mp stepped
      exact closing.advance moved leaves
  · cases stepped
  · obtain ⟨registry, moved, rfl⟩ := Option.map_eq_some_iff.mp stepped
    exact closing.updateRegistry moved leaves
  · cases stepped
  · obtain ⟨notices, moved, rfl⟩ := Option.map_eq_some_iff.mp stepped
    exact closing.updateNotices moved leaves

theorem invariant_closing (Item : Type) (config : ConnectionConfig) (bufferSize : Nat) :
    (system Item config bufferSize).Invariant LeavesNobody Closing where
  starts first started := by
    subst started
    exact {
      registries := fun _ => SubscriptionRegistry.attended_start bufferSize
      notices := NoticeLifetime.attended_start bufferSize
      closing := nofun
      quiet := nofun }
  preserved _ _ _ closing leaves stepped := closing.step leaves stepped

/-- In a run that leaves nobody behind, every consumer has ended when the
client is closed for good and its tasks have run to completion. -/
theorem consumersEnded_of_reachable {config : ConnectionConfig} {bufferSize : Nat}
    (reachable : (system Item config bufferSize).ReachableUnder LeavesNobody client)
    (closed : client.connection.closed = true) (completed : client.completed = true) :
    client.ConsumersEnded := by
  have closing := (invariant_closing Item config bufferSize).of_reachable reachable
  simp only [Client.completed, NoticeLifetime.completed, SubscriptionRegistry.completed,
    Bool.and_eq_true, Bool.not_eq_true', decide_eq_true_eq] at completed
  obtain ⟨⟨⟨notClosing, -⟩, registries⟩, notices⟩ := completed
  have quiet := closing.quiet ⟨closed, notClosing⟩
  constructor
  · intro domain consumer member
    exact (quiet.1 domain).closed (registries domain).2 member
  · intro consumer member
    exact quiet.2.closed notices.2 member

/-- The connection authenticates, and a consumer of the KV domain subscribes. -/
def subscribing : List (ClientAction Nat) :=
  [.connection .connect, .connection (.startConnect none), .connection (.resumeOpen .connect),
    .connection (.resumeOpen .connect), .connection (.receiveHello 0),
    .connection (.resumeOpen .connect), .registry .kv (.subscribe "users"),
    .registry .kv (.assign "users" 7), .registry .kv (.subscribed 0 7)]

/-- `close` runs its listeners. -/
theorem consumersEnded_closed : ∃ client : Client Nat,
    client.connection.state = .closed ∧ client.completed = true ∧
      (client.registries .kv).consumers ≠ [] ∧ client.ConsumersEnded := by
  obtain ⟨client, reachable, tested⟩ :=
    @LabelledSystem.exists_reachableUnder_of_run _ _ (system Nat {} 1) LeavesNobody _ rfl
      (subscribing ++ [.connection .close, .connection .closeTasks])
      (fun client => client.connection.state = .closed && client.connection.closed &&
        client.completed && (client.registries .kv).consumers ≠ [])
      (by decide +kernel) (by decide +kernel)
  simp only [Bool.and_eq_true, decide_eq_true_eq] at tested
  obtain ⟨⟨⟨state, closed⟩, completed⟩, subscribed⟩ := tested
  exact ⟨client, state, completed, subscribed,
    consumersEnded_of_reachable reachable closed completed⟩

/-- After a loss the broker rejects the token of the reconnect loop: nothing
notifies the close listeners, and the consumer waits for ever. -/
theorem exists_consumer_left_behind :
    ¬ ∀ (config : ConnectionConfig) (bufferSize : Nat) (client : Client Nat),
      (system Nat config bufferSize).Reachable client → client.connection.state = .closed →
        client.completed = true → client.ConsumersEnded := by
  intro always
  obtain ⟨client, reachable, tested⟩ := (system Nat {} 1).exists_reachable_of_run rfl
    (subscribing ++
      [.connection (.raiseInReceiver 0 .other), .connection (.resumeHandler (.receiver 0)),
        .connection (.resumeHandler (.receiver 0)), .connection (.stepHeartbeat 0 false),
        .connection .startReconnect, .connection (.wakeReconnect none),
        .connection (.resumeOpen .reconnect), .connection (.resumeOpen .reconnect),
        .connection (.raiseInReceiver 1 .authentication), .connection (.resumeOpen .reconnect),
        .connection (.resumeOpen .reconnect), .connection (.resumeOpen .reconnect),
        .connection (.resumeOpen .reconnect)])
    (fun client => client.connection.state = .closed && client.completed &&
      !decide client.ConsumersEnded)
    (by decide +kernel)
  simp only [Bool.and_eq_true, decide_eq_true_eq, Bool.not_eq_true',
    decide_eq_false_iff_not] at tested
  obtain ⟨⟨closed, completed⟩, left⟩ := tested
  exact left (always {} 1 client reachable closed completed)

end Client

end FitzClient
