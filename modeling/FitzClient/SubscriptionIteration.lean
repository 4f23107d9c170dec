import FitzClient.SubscriptionReader

/-!
# What a subscription delivers

A reader gets the accepted items in order, then the one terminal entry, then
nothing but `StopAsyncIteration`.  The history of a state says where it is on
this way; the reader and the calls of `_close_wire` have invariants of their
own, and every change of the subscription preserves all of them.
-/

namespace FitzClient

namespace ReadSubscription

variable {Item : Type}

section transitions

variable {state next : ReadSubscription Item}

/-- The subscription has ended, and the reads had been `base`. -/
structure Ended (last : QueueEntry Item) (base : List (ReadResult Item))
    (state : ReadSubscription Item) : Prop where
  closed : state.subscription.closed = true
  terminal_eq : state.terminal = last
  rest : state.subscription.queue = [last] ∧ state.reads = base ∨
    state.subscription.queue = [] ∧
      ∃ count, state.reads = base ++ last.result :: List.replicate count .stopped

/-- After the end there is the terminal entry, and then nothing but
`StopAsyncIteration`. -/
theorem Ended.change {last : QueueEntry Item} {base : List (ReadResult Item)}
    (ended : state.Ended last base) (change : Change state next) : next.Ended last base := by
  cases change with
  | quiet closed failure queue reads =>
      refine ⟨closed.trans ended.closed, (terminal_congr failure).trans ended.terminal_eq, ?_⟩
      rw [queue, reads]
      exact ended.rest
  | accept item isOpen => exact absurd (ended.closed.symm.trans isOpen) nofun
  | finish isOpen => exact absurd (ended.closed.symm.trans isOpen) nofun
  | take entry rest found closed failure queue reads =>
      refine ⟨closed.mpr (Or.inl ended.closed),
        (terminal_congr failure).trans ended.terminal_eq, Or.inr ?_⟩
      rcases ended.rest with ⟨single, before⟩ | ⟨empty, _⟩
      · obtain ⟨rfl, rfl⟩ := List.cons.inj (found.symm.trans single)
        exact ⟨queue, 0, by rw [reads, before]; rfl⟩
      · rw [found] at empty
        cases empty
  | stop _ empty closed failure queue reads =>
      refine ⟨closed, (terminal_congr failure).trans ended.terminal_eq, Or.inr ⟨queue, ?_⟩⟩
      rcases ended.rest with ⟨single, _⟩ | ⟨_, count, before⟩
      · rw [empty] at single
        cases single
      · refine ⟨count + 1, ?_⟩
        rw [reads, before, List.append_assoc, List.cons_append, List.replicate_succ']

/-- The items that were accepted are those that were read and those that are
in the queue, until the end drops the latter. -/
def History (state : ReadSubscription Item) : Prop :=
  ∃ seen left, state.accepted = seen ++ left ∧
    (state.subscription.closed = false ∧ state.subscription.failure = none ∧
        state.reads = seen.map .item ∧ state.subscription.queue = left.map .item ∨
      state.Ended state.terminal (seen.map .item))

theorem History.unfailed (history : state.History) : state.Unfailed := by
  intro isOpen
  obtain ⟨_, _, _, ⟨_, failure, _⟩ | ended⟩ := history
  · exact failure
  · exact absurd (ended.closed.symm.trans isOpen) nofun

theorem History.change (history : state.History) (change : Change state next) :
    next.History := by
  obtain ⟨seen, left, accepted, ⟨isOpen, failure, reads, queue⟩ | ended⟩ := history
  · cases change with
    | quiet closed failure' queue' reads' accepted' =>
        exact ⟨seen, left, accepted'.trans accepted, Or.inl ⟨closed.trans isOpen,
          failure'.trans failure, reads'.trans reads, queue'.trans queue⟩⟩
    | accept item _ _ closed failure' queue' reads' accepted' =>
        refine ⟨seen, left ++ [item], ?_, Or.inl ⟨closed, failure'.trans failure,
          reads'.trans reads, ?_⟩⟩
        · rw [accepted', accepted, List.append_assoc]
        · rw [queue', queue, List.map_append, List.map_singleton]
    | finish _ closed queue' reads' accepted' =>
        exact ⟨seen, left, accepted'.trans accepted,
          Or.inr ⟨closed, rfl, Or.inl ⟨queue', reads'.trans reads⟩⟩⟩
    | take entry rest found closed failure' queue' reads' accepted' =>
        rw [queue] at found
        obtain ⟨item, others, rfl, rfl, rfl⟩ := List.map_eq_cons_iff.mp found
        refine ⟨seen ++ [item], others, ?_, Or.inl ⟨?_, failure'.trans failure, ?_, queue'⟩⟩
        · rw [accepted', accepted, List.append_assoc, List.singleton_append]
        · rw [← Bool.not_eq_true, closed, isOpen]
          rintro (bad | ⟨_, bad⟩) <;> cases bad
        · rw [reads', reads, List.map_append, List.map_singleton]
          rfl
    | stop isClosed => exact absurd (isClosed.symm.trans isOpen) nofun
  · have after := ended.change change
    refine ⟨seen, left, ?_, Or.inr (after.terminal_eq ▸ after)⟩
    cases change with
    | quiet _ _ _ _ accepted' => exact accepted'.trans accepted
    | accept item isOpen => exact absurd (ended.closed.symm.trans isOpen) nofun
    | finish isOpen => exact absurd (ended.closed.symm.trans isOpen) nofun
    | take _ _ _ _ _ _ _ accepted' => exact accepted'.trans accepted
    | stop _ _ _ _ _ _ accepted' => exact accepted'.trans accepted

/-- A reader that waits is woken by whatever is put next, and finds it. -/
structure ReaderSound (state : ReadSubscription Item) : Prop where
  waiting : state.reader = .waiting →
    state.subscription.closed = false ∧ state.subscription.queue = []
  woken : state.reader = .woken → state.subscription.queue ≠ []

theorem ReaderSound.change (sound : state.ReaderSound) (change : Change state next) :
    next.ReaderSound := by
  cases change with
  | quiet closed failure queue reads accepted reader =>
      rcases reader with same | idle | ⟨waits, empty, isOpen | woken⟩
      · constructor
        · intro waits
          rw [closed, queue]
          exact sound.waiting (same ▸ waits)
        · intro woken
          rw [queue]
          exact sound.woken (same ▸ woken)
      · exact ⟨by rw [idle]; nofun, by rw [idle]; nofun⟩
      · exact ⟨fun _ => ⟨closed.trans isOpen, queue.trans empty⟩, by rw [waits]; nofun⟩
      · exact absurd empty (sound.woken woken)
  | accept item isOpen room closed failure queue reads accepted reader =>
      constructor
      · intro waits
        exact absurd (reader.symm.trans waits) state.reader.wake_ne_waiting
      · intro _
        rw [queue]
        exact List.concat_ne_nil _ _
  | finish isOpen closed queue reads accepted reader =>
      constructor
      · intro waits
        exact absurd (reader.symm.trans waits) state.reader.wake_ne_waiting
      · intro _
        rw [queue]
        exact List.cons_ne_nil _ _
  | take _ _ _ _ _ _ _ _ idle => exact ⟨by rw [idle]; nofun, by rw [idle]; nofun⟩
  | stop _ _ _ _ _ _ _ idle => exact ⟨by rw [idle]; nofun, by rw [idle]; nofun⟩

/-- What a transition does to `_close_wire`, its lock and its flag. -/
inductive WireChange (state next : ReadSubscription Item) : Prop
  | quiet (closing : next.subscription.closing = state.subscription.closing)
      (closeLock : next.closeLock = state.closeLock) (wireRuns : next.wireRuns = state.wireRuns)
  | enter (idle : state.subscription.closing = .idle)
      (closing : next.subscription.closing ≠ .idle)
      (wireRuns : next.wireRuns = state.wireRuns + 1)
  | leave (locked : state.closeLock ≠ none) (closing : next.subscription.closing = .ended)
      (wireRuns : next.wireRuns = state.wireRuns)

/-- The rest of the state: no `QueueFull` escapes. -/
structure Frame (state next : ReadSubscription Item) : Prop where
  capacity : next.capacity = state.capacity
  escaped : next.escaped = state.escaped
  wire : WireChange state next

theorem frame_takeHead (entry : QueueEntry Item) : Frame state (state.takeHead entry) :=
  ⟨rfl, rfl, .quiet state.subscription.closing_read rfl rfl⟩

theorem frame_enterClose {closer : Nat} (stepped : state.enterClose closer = some next) :
    Frame state next := by
  unfold enterClose at stepped
  split at stepped
  · cases stepped
  · split at stepped
    · cases stepped
      exact ⟨rfl, rfl, .quiet rfl rfl rfl⟩
    · next first =>
        cases stepped
        have idle := not_not.mp first
        refine ⟨rfl, rfl, .enter idle ?_ rfl⟩
        simp [AsyncSubscription.aclose, idle]

theorem frame_wireEnds {succeeds : Bool} (stepped : state.wireEnds succeeds = some next) :
    Frame state next := by
  unfold wireEnds at stepped
  rw [AsyncSubscription.finishNowait_eq, Option.map_eq_some_iff] at stepped
  obtain ⟨closer, locked, rfl⟩ := stepped
  exact ⟨rfl, rfl, .leave (by rw [locked]; nofun) rfl rfl⟩

theorem frame_of_step {use : SubscriptionUse Item} (stepped : state.step use = some next) :
    Frame state next := by
  cases use with
  | push item =>
      cases stepped
      unfold push
      rw [AsyncSubscription.pushNowait_eq]
      have closing := state.subscription.closing_push state.capacity item
      dsimp only
      split <;> exact ⟨rfl, rfl, .quiet closing rfl rfl⟩
  | fail error =>
      rw [ReadSubscription.step, AsyncSubscription.failNowait_eq] at stepped
      cases stepped
      exact ⟨rfl, rfl, .quiet (state.subscription.closing_fail error) rfl rfl⟩
  | finish =>
      rw [ReadSubscription.step, AsyncSubscription.finishNowait_eq] at stepped
      cases stepped
      exact ⟨rfl, rfl, .quiet state.subscription.closing_finish rfl rfl⟩
  | aclose =>
      cases stepped
      exact ⟨rfl, rfl, .quiet rfl rfl rfl⟩
  | enterClose closer => exact frame_enterClose stepped
  | wireEnds succeeds => exact frame_wireEnds stepped
  | read =>
      change state.read = some next at stepped
      unfold read at stepped
      split at stepped
      · cases stepped
      · split at stepped
        · split at stepped <;> cases stepped <;> exact ⟨rfl, rfl, .quiet rfl rfl rfl⟩
        · cases stepped
          exact frame_takeHead _
  | resumeRead =>
      change state.resumeRead = some next at stepped
      unfold resumeRead at stepped
      split at stepped
      · cases stepped
      · split at stepped
        · cases stepped
          exact ⟨rfl, rfl, .quiet rfl rfl rfl⟩
        · cases stepped
          exact frame_takeHead _
  | cancelRead =>
      change state.cancelRead = some next at stepped
      unfold cancelRead at stepped
      split at stepped
      · cases stepped
      · cases stepped
        exact ⟨rfl, rfl, .quiet rfl rfl rfl⟩

/-- The flag `_wire_closed` counts the calls of `_close_wire`. -/
structure WireOnce (state : ReadSubscription Item) : Prop where
  once : state.wireRuns ≤ 1
  unused : state.subscription.closing = .idle → state.wireRuns = 0 ∧ state.closeLock = none

theorem WireOnce.change (once : state.WireOnce) (change : WireChange state next) :
    next.WireOnce := by
  cases change with
  | quiet closing closeLock wireRuns =>
      refine ⟨wireRuns ▸ once.once, fun idle => ?_⟩
      rw [wireRuns, closeLock]
      exact once.unused (closing.symm.trans idle)
  | enter idle closing wireRuns =>
      refine ⟨?_, fun bad => absurd bad closing⟩
      have first : next.wireRuns = 1 := by rw [wireRuns, (once.unused idle).1]
      exact Nat.le_of_eq first
  | leave _ closing wireRuns =>
      refine ⟨wireRuns ▸ once.once, fun idle => ?_⟩
      rw [closing] at idle
      cases idle

/-- A queue that has room for one more entry, or that was drained. -/
theorem length_queue_change (room : 1 ≤ state.capacity)
    (bounded : state.subscription.queue.length ≤ state.capacity) (change : Change state next) :
    next.subscription.queue.length ≤ state.capacity := by
  cases change with
  | quiet _ _ queue => exact queue ▸ bounded
  | accept item _ notFull _ _ queue =>
      rw [queue, List.length_append, List.length_singleton]
      simp only [AsyncSubscription.full, Bool.and_eq_false_iff, decide_eq_false_iff_not] at notFull
      omega
  | finish _ _ queue =>
      rw [queue]
      exact room
  | take _ _ found _ _ queue =>
      rw [found, List.length_cons] at bounded
      rw [queue]
      omega
  | stop _ _ _ _ queue =>
      rw [queue]
      exact Nat.zero_le _

end transitions

/-- What every transition preserves. -/
structure Invariant (capacity : Nat) (state : ReadSubscription Item) : Prop where
  capacity_eq : state.capacity = capacity
  contained : state.escaped = false
  bounded : state.subscription.queue.length ≤ capacity
  history : state.History
  reader : state.ReaderSound
  wire : state.WireOnce

theorem invariant {capacity : Nat} (room : 1 ≤ capacity) (registration : String) :
    (system Item capacity registration).Invariant (fun _ _ => True) (Invariant capacity) where
  starts := by
    rintro _ rfl
    exact ⟨rfl, rfl, Nat.zero_le _, ⟨[], [], rfl, Or.inl ⟨rfl, rfl, rfl, rfl⟩⟩,
      ⟨nofun, nofun⟩, ⟨Nat.zero_le _, fun _ => ⟨rfl, rfl⟩⟩⟩
  preserved := by
    intro state use next holds _ stepped
    have change := change_of_step holds.history.unfailed stepped
    have frame := frame_of_step stepped
    obtain rfl := holds.capacity_eq
    exact ⟨frame.capacity, frame.escaped.trans holds.contained,
      length_queue_change room holds.bounded change, holds.history.change change,
      holds.reader.change change, holds.wire.change frame.wire⟩

section invariant

variable {state next : ReadSubscription Item} {capacity : Nat}

theorem filterMap_item (seen : List Item) :
    (seen.map ReadResult.item).filterMap ReadResult.item? = seen := by
  rw [List.filterMap_map]
  exact List.filterMap_some

theorem terminal_ne_item (item : Item) : state.terminal ≠ .item item := by
  unfold terminal
  split <;> nofun

/-- The terminal result and the stops after it are no items. -/
theorem filterMap_terminal (count : Nat) :
    (state.terminal.result :: List.replicate count .stopped).filterMap ReadResult.item? = [] := by
  have stops : (List.replicate count (.stopped : ReadResult Item)).filterMap
      ReadResult.item? = [] := by
    simp [ReadResult.item?]
  rw [List.filterMap_cons, stops]
  cases found : state.terminal with
  | item value => exact absurd found (terminal_ne_item value)
  | exception error => rfl
  | finished => rfl

theorem History.yields (history : state.History) : state.yielded <+: state.accepted := by
  obtain ⟨seen, left, accepted, held⟩ := history
  have seen_eq : state.yielded = seen := by
    rcases held with ⟨_, _, reads, _⟩ | ended
    · rw [yielded, reads, filterMap_item]
    · rcases ended.rest with ⟨_, reads⟩ | ⟨_, count, reads⟩
      · rw [yielded, reads, filterMap_item]
      · rw [yielded, reads, List.filterMap_append, filterMap_item, filterMap_terminal,
          List.append_nil]
  rw [seen_eq, accepted]
  exact List.prefix_append seen left

end invariant

end ReadSubscription

end FitzClient
