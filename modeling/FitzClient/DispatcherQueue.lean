import FitzClient.DispatcherTasks

/-!
# The queue of the dispatcher

Work that was accepted is started or queued, in the order of acceptance, and it
is queued only while all tasks are in use; `close` drops what is queued, and
nothing starts after it.  Work that waits behind others is started when one
callback has run for each of them and one for itself.
-/

namespace FitzClient

namespace DispatcherTasks

/-- Every piece of accepted work is started or queued, until `close` drops the
queue. -/
structure QueueInvariant (dispatcher : DispatcherTasks) : Prop where
  tasks : dispatcher.TaskInvariant
  active_le : dispatcher.active.card ≤ dispatcher.maximum
  queued_le : dispatcher.queued.length ≤ dispatcher.queueSize
  full : dispatcher.queued ≠ [] → dispatcher.active.card = dispatcher.maximum
  closed_empty : dispatcher.closed = true → dispatcher.queued = []
  accepted : dispatcher.started ++ dispatcher.queued <+: dispatcher.answered true
  allOpen : dispatcher.closed = false →
    dispatcher.started ++ dispatcher.queued = dispatcher.answered true

section

variable {dispatcher next : DispatcherTasks}

theorem answered_record (dispatcher : DispatcherTasks) (given answer : Bool) :
    (dispatcher.record given).answered answer =
      dispatcher.answered answer ++
        if given = answer then [dispatcher.answers.length] else [] := by
  simp only [answered, record, List.length_append, List.length_singleton, List.range_succ,
    List.filter_append]
  congr 1
  · refine List.filter_congr fun item member => ?_
    simp only [List.getElem?_append_left (List.mem_range.mp member)]
  · simp [List.filter_singleton]

/-- What a call of `dispatch` can do. -/
theorem dispatch_cases (stepped : dispatcher.step .dispatch = some next) :
    next = dispatcher.record false ∨
      dispatcher.closed = false ∧ dispatcher.active.card < dispatcher.maximum ∧
        next = (dispatcher.start dispatcher.answers.length).record true ∨
      dispatcher.closed = false ∧ dispatcher.maximum ≤ dispatcher.active.card ∧
        dispatcher.queued.length < dispatcher.queueSize ∧
        next = { dispatcher with
          queued := dispatcher.queued ++ [dispatcher.answers.length] }.record true := by
  have outcome : (dispatcher.dispatch dispatcher.answers.length).2.record
      (dispatcher.dispatch dispatcher.answers.length).1 = next := Option.some.inj stepped
  unfold DispatcherTasks.dispatch at outcome
  split_ifs at outcome with closed free full
  · exact Or.inl outcome.symm
  · exact Or.inr (Or.inl ⟨by simpa using closed, free, outcome.symm⟩)
  · exact Or.inl outcome.symm
  · exact Or.inr (Or.inr ⟨by simpa using closed, Nat.le_of_not_lt free, Nat.lt_of_not_le full,
      outcome.symm⟩)

/-- What the callback of a task can do. -/
theorem complete_cases {task : Nat} (stepped : dispatcher.complete task = some next) :
    ∃ cell, dispatcher.tasks[task]? = some cell ∧ cell.phase = .ended ∧
      ((∃ item queued, dispatcher.closed = false ∧ dispatcher.queued = item :: queued ∧
          next = { dispatcher.setPhase task .completed with
            active := dispatcher.active.erase task
            queued := queued }.start item) ∨
        (dispatcher.closed = true ∨ dispatcher.queued = []) ∧
          next = { dispatcher.setPhase task .completed with
            active := dispatcher.active.erase task }) := by
  unfold DispatcherTasks.complete at stepped
  cases found : dispatcher.tasks[task]? with
  | none => simp [found] at stepped
  | some cell =>
      simp only [found] at stepped
      split_ifs at stepped with ended
      refine ⟨cell, rfl, ended, ?_⟩
      cases closed : dispatcher.closed with
      | true =>
          simp only [closed] at stepped
          exact Or.inr ⟨Or.inl rfl, (Option.some.inj stepped).symm⟩
      | false =>
          cases waiting : dispatcher.queued with
          | nil =>
              simp only [closed, waiting] at stepped
              exact Or.inr ⟨Or.inr rfl, (Option.some.inj stepped).symm⟩
          | cons item queued =>
              simp only [closed, waiting] at stepped
              exact Or.inl ⟨item, queued, rfl, rfl, (Option.some.inj stepped).symm⟩

theorem TaskInvariant.record (invariant : dispatcher.TaskInvariant) (answer : Bool) :
    (dispatcher.record answer).TaskInvariant :=
  ⟨invariant.active_iff, invariant.cancelled_eq, invariant.inOrder⟩

theorem TaskInvariant.queue (invariant : dispatcher.TaskInvariant) (queued : List Nat) :
    { dispatcher with queued := queued }.TaskInvariant :=
  ⟨invariant.active_iff, invariant.cancelled_eq, invariant.inOrder⟩

theorem started_start (item : Nat) :
    (dispatcher.start item).started = dispatcher.started ++ [item] := by
  simp [started, start]

theorem card_start (invariant : dispatcher.TaskInvariant) (item : Nat) :
    (dispatcher.start item).active.card = dispatcher.active.card + 1 :=
  Finset.card_insert_of_notMem fun member => lt_irrefl _ (invariant.lt_of_active member)

theorem QueueInvariant.dispatch (invariant : dispatcher.QueueInvariant)
    (stepped : dispatcher.step .dispatch = some next) : next.QueueInvariant := by
  have tasks := invariant.tasks
  rcases dispatch_cases stepped with rfl | ⟨isOpen, free, rfl⟩ | ⟨isOpen, busy, room, rfl⟩
  · have same : (dispatcher.record false).answered true = dispatcher.answered true := by
      rw [answered_record]
      simp
    exact
      { invariant with
        tasks := tasks.record false
        accepted := same ▸ invariant.accepted
        allOpen := fun isOpen => same ▸ invariant.allOpen isOpen }
  · have empty : dispatcher.queued = [] := by
      by_contra nonempty
      exact free.ne (invariant.full nonempty)
    have account : (dispatcher.start dispatcher.answers.length).started ++ dispatcher.queued =
        ((dispatcher.start dispatcher.answers.length).record true).answered true := by
      have before := invariant.allOpen isOpen
      rw [empty, List.append_nil] at before
      rw [answered_record, started_start, empty, List.append_nil, before]
      rfl
    exact
      { tasks := (tasks.start isOpen _).record true
        active_le := by
          change (dispatcher.start dispatcher.answers.length).active.card ≤ dispatcher.maximum
          rw [card_start tasks]
          exact free
        queued_le := invariant.queued_le
        full := fun nonempty => absurd empty nonempty
        closed_empty := fun _ => empty
        accepted := account ▸ List.prefix_refl _
        allOpen := fun _ => account }
  · have account : dispatcher.started ++ (dispatcher.queued ++ [dispatcher.answers.length]) =
        (dispatcher.record true).answered true := by
      rw [← List.append_assoc, invariant.allOpen isOpen, answered_record]
      rfl
    exact
      { tasks := (tasks.queue _).record true
        active_le := invariant.active_le
        queued_le := by
          change (dispatcher.queued ++ [dispatcher.answers.length]).length ≤ dispatcher.queueSize
          rw [List.length_append]
          exact room
        full := fun _ => le_antisymm invariant.active_le busy
        closed_empty := fun isClosed => absurd (isOpen.symm.trans isClosed) nofun
        accepted := account ▸ List.prefix_refl _
        allOpen := fun _ => account }

theorem QueueInvariant.complete (invariant : dispatcher.QueueInvariant) {task : Nat}
    (stepped : dispatcher.complete task = some next) : next.QueueInvariant := by
  obtain ⟨cell, found, ended, outcome⟩ := complete_cases stepped
  have incomplete : cell.phase ≠ .completed := by simp [ended]
  have isActive : task ∈ dispatcher.active :=
    (invariant.tasks.active_iff task).mpr ⟨cell, found, incomplete⟩
  have discarded : { dispatcher.setPhase task .completed with
      active := dispatcher.active.erase task }.TaskInvariant := by
    have notScheduled : DispatchPhase.completed ≠ .scheduled := nofun
    refine invariant.tasks.setPhase found (by simp [ended]) incomplete notScheduled ?_
    intro other
    simp [Finset.mem_erase, and_comm]
  have counted := Finset.card_erase_add_one isActive
  have active_le := invariant.active_le
  rcases outcome with ⟨item, queued, isOpen, waiting, rfl⟩ | ⟨idle, rfl⟩
  · have remaining : { dispatcher.setPhase task .completed with
        active := dispatcher.active.erase task
        queued := queued }.TaskInvariant := discarded.queue queued
    have atMaximum := invariant.full (by simp [waiting])
    have busy : ({ dispatcher.setPhase task .completed with
        active := dispatcher.active.erase task
        queued := queued }.start item).active.card = dispatcher.maximum := by
      rw [card_start remaining]
      exact counted.trans atMaximum
    have account : ({ dispatcher.setPhase task .completed with
        active := dispatcher.active.erase task
        queued := queued }.start item).started ++ queued =
          dispatcher.started ++ dispatcher.queued := by
      rw [started_start, waiting, List.append_assoc]
      exact congrArg (· ++ _) (started_setPhase dispatcher task .completed)
    exact
      { tasks := remaining.start isOpen item
        active_le := busy.le
        queued_le := by
          have queued_le := invariant.queued_le
          rw [waiting] at queued_le
          exact Nat.le_of_succ_le queued_le
        full := fun _ => busy
        closed_empty := fun isClosed => absurd (isOpen.symm.trans isClosed) nofun
        accepted := account ▸ invariant.accepted
        allOpen := fun isOpen => account.trans (invariant.allOpen isOpen) }
  · have empty : dispatcher.queued = [] := idle.elim invariant.closed_empty id
    have kept : { dispatcher.setPhase task .completed with
        active := dispatcher.active.erase task }.started = dispatcher.started :=
      started_setPhase dispatcher task .completed
    exact
      { tasks := discarded
        active_le := (Nat.le_succ _).trans (counted.le.trans active_le)
        queued_le := invariant.queued_le
        full := fun nonempty => absurd empty nonempty
        closed_empty := fun _ => empty
        accepted := by
          rw [kept]
          exact invariant.accepted
        allOpen := fun isOpen => by
          rw [kept]
          exact invariant.allOpen isOpen }

theorem QueueInvariant.close (invariant : dispatcher.QueueInvariant) :
    dispatcher.close.QueueInvariant where
  tasks := invariant.tasks.close
  active_le := invariant.active_le
  queued_le := Nat.zero_le _
  full nonempty := absurd rfl nonempty
  closed_empty _ := rfl
  accepted := by
    change dispatcher.close.started ++ [] <+: dispatcher.answered true
    rw [started_close, List.append_nil]
    exact (List.prefix_append _ _).trans invariant.accepted
  allOpen := nofun

/-- Transitions of tasks that leave the queue alone. -/
theorem QueueInvariant.setPhase (invariant : dispatcher.QueueInvariant) {task : Nat}
    {phase : DispatchPhase} {begun : List Nat}
    (tasks : { dispatcher.setPhase task phase with begun := begun }.TaskInvariant) :
    { dispatcher.setPhase task phase with begun := begun }.QueueInvariant := by
  have kept : { dispatcher.setPhase task phase with begun := begun }.started =
      dispatcher.started := started_setPhase dispatcher task phase
  exact
    { tasks := tasks
      active_le := invariant.active_le
      queued_le := invariant.queued_le
      full := invariant.full
      closed_empty := invariant.closed_empty
      accepted := by
        rw [kept]
        exact invariant.accepted
      allOpen := fun isOpen => by
        rw [kept]
        exact invariant.allOpen isOpen }

/-- What the first step of a task can do. -/
theorem begin_cases (stepped : dispatcher.begin = some next) :
    ∃ task cell, dispatcher.tasks[task]? = some cell ∧ cell.phase = .scheduled ∧
      (cell.cancelled = true ∧ next = dispatcher.setPhase task .ended ∨
        cell.cancelled = false ∧ next = { dispatcher.setPhase task .running with
          begun := dispatcher.begun ++ [cell.item] }) := by
  unfold DispatcherTasks.begin at stepped
  cases oldest : dispatcher.tasks.findIdx? fun cell => cell.phase = .scheduled with
  | none => simp [oldest] at stepped
  | some task =>
      obtain ⟨bound, isScheduled, -⟩ := List.findIdx?_eq_some_iff_getElem.mp oldest
      have found := List.getElem?_eq_getElem bound
      simp only [oldest, found] at stepped
      refine ⟨task, _, found, of_decide_eq_true isScheduled, ?_⟩
      split_ifs at stepped with cancelled
      · exact Or.inl ⟨cancelled, (Option.some.inj stepped).symm⟩
      · exact Or.inr ⟨by simpa using cancelled, (Option.some.inj stepped).symm⟩

theorem finish_cases {task : Nat} (stepped : dispatcher.finish task = some next) :
    ∃ cell, dispatcher.tasks[task]? = some cell ∧ cell.phase = .running ∧
      next = dispatcher.setPhase task .ended := by
  unfold DispatcherTasks.finish at stepped
  cases found : dispatcher.tasks[task]? with
  | none => simp [found] at stepped
  | some cell =>
      simp only [found] at stepped
      split_ifs at stepped with running
      exact ⟨cell, rfl, running, (Option.some.inj stepped).symm⟩

/-- Every transition keeps the queue. -/
theorem QueueInvariant.step (invariant : dispatcher.QueueInvariant) {action : DispatchAction}
    (stepped : dispatcher.step action = some next) : next.QueueInvariant := by
  cases action with
  | dispatch => exact invariant.dispatch stepped
  | begin =>
      have tasks := invariant.tasks.begin stepped
      obtain ⟨task, cell, -, -, ⟨-, rfl⟩ | ⟨-, rfl⟩⟩ := begin_cases stepped
      · exact invariant.setPhase tasks
      · exact invariant.setPhase tasks
  | finish task =>
      obtain ⟨cell, found, running, rfl⟩ := finish_cases stepped
      have notScheduled : DispatchPhase.ended ≠ .scheduled := nofun
      refine invariant.setPhase (invariant.tasks.setPhase found (by simp [running])
        (by simp [running]) notScheduled fun other => ?_)
      simp [DispatcherTasks.setPhase]
  | complete task => exact invariant.complete stepped
  | close =>
      obtain rfl := Option.some.inj stepped
      exact invariant.close

/-- The state that a list of actions leads to. -/
def runFrom (dispatcher : DispatcherTasks) (actions : List DispatchAction) :
    Option DispatcherTasks :=
  (system dispatcher.maximum dispatcher.queueSize).run dispatcher actions

/-- The promises of the dispatcher in one state: how much runs and waits, what
is started and called, and that work in the queue is started when as many
callbacks have run as stood before it. -/
structure Faithful (dispatcher : DispatcherTasks) : Prop where
  active_le : dispatcher.active.card ≤ dispatcher.maximum
  queued_le : dispatcher.queued.length ≤ dispatcher.queueSize
  full : dispatcher.queued ≠ [] → dispatcher.active.card = dispatcher.maximum
  once : dispatcher.started.Nodup
  inOrder : dispatcher.started ++ dispatcher.queued <+: dispatcher.answered true
  allOpen : dispatcher.closed = false →
    dispatcher.started ++ dispatcher.queued = dispatcher.answered true
  refused : ∀ item ∈ dispatcher.answered false, item ∉ dispatcher.started
  called : List.Sublist dispatcher.begun dispatcher.started
  allCalled : dispatcher.closed = false →
    (∀ cell ∈ dispatcher.tasks, cell.phase ≠ .scheduled) → dispatcher.begun = dispatcher.started
  afterClose : dispatcher.closed = true → ∀ action next, dispatcher.step action = some next →
    next.closed = true ∧ next.started = dispatcher.started ∧ next.begun = dispatcher.begun
  busy : dispatcher.queued ≠ [] → ∃ task, task ∈ dispatcher.active
  inTurn : ∀ actions last, runFrom dispatcher actions = some last → last.closed = false →
    ∀ position item, dispatcher.queued[position]? = some item →
      position < actions.countP DispatchAction.isComplete → item ∈ last.started

theorem step_maximum {action : DispatchAction} (stepped : dispatcher.step action = some next) :
    next.maximum = dispatcher.maximum := by
  cases action with
  | dispatch =>
      obtain rfl | ⟨-, -, rfl⟩ | ⟨-, -, -, rfl⟩ := dispatch_cases stepped <;> rfl
  | begin =>
      obtain ⟨task, cell, -, -, ⟨-, rfl⟩ | ⟨-, rfl⟩⟩ := begin_cases stepped <;> rfl
  | finish task =>
      obtain ⟨cell, -, -, rfl⟩ := finish_cases stepped
      rfl
  | complete task =>
      obtain ⟨cell, -, -, ⟨_, _, -, -, rfl⟩ | ⟨-, rfl⟩⟩ := complete_cases stepped <;> rfl
  | close =>
      obtain rfl := Option.some.inj stepped
      rfl

end

end DispatcherTasks

end FitzClient
