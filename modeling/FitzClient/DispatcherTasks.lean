import FitzClient.IndexedCells
import FitzClient.LabelledSystem

/-!
# The tasks of the dispatcher

`AsyncDispatcher` runs work in tasks of their own, no more than `maximum` at a
time, and queues what comes while all of them are busy.  A task that has ended
keeps its place in `_active` until its callback runs, and calls of `dispatch`
may come before that.  The callback then starts the work at the head of the
queue.

Creating a task and the first step of its coroutine are separate transitions;
the loop takes first steps in the order of creation.  A task that is cancelled
before its first step never calls its work.  Work is numbered by the calls of
`dispatch`.
-/

namespace FitzClient

/-- How far a task has come. -/
inductive DispatchPhase
  | scheduled
  | running
  | ended
  | completed
  deriving DecidableEq, Repr

/-- A task made by `_start`. -/
structure DispatchTask where
  item : Nat
  phase : DispatchPhase := .scheduled
  cancelled : Bool := false
  deriving DecidableEq, Repr

/-- An `AsyncDispatcher` with its tasks in the order of creation, the answers of
`dispatch` and the work that was called. -/
structure DispatcherTasks where
  maximum : Nat
  queueSize : Nat
  active : Finset Nat := ∅
  queued : List Nat := []
  closed : Bool := false
  tasks : List DispatchTask := []
  answers : List Bool := []
  begun : List Nat := []
  deriving DecidableEq

/-- Calls from outside, the loop running a task or a callback, and work coming
to its end. -/
inductive DispatchAction
  | dispatch
  | begin
  | finish (task : Nat)
  | complete (task : Nat)
  | close
  deriving DecidableEq, Repr

/-- The completion callbacks among the actions. -/
def DispatchAction.isComplete : DispatchAction → Bool
  | .complete _ => true
  | _ => false

namespace DispatcherTasks

/-- `_start` -/
def start (dispatcher : DispatcherTasks) (item : Nat) : DispatcherTasks :=
  { dispatcher with
    active := insert dispatcher.tasks.length dispatcher.active
    tasks := dispatcher.tasks ++ [{ item }] }

/-- `dispatch` -/
def dispatch (dispatcher : DispatcherTasks) (item : Nat) : Bool × DispatcherTasks :=
  if dispatcher.closed then
    (false, dispatcher)
  else if dispatcher.active.card < dispatcher.maximum then
    (true, dispatcher.start item)
  else if dispatcher.queueSize ≤ dispatcher.queued.length then
    (false, dispatcher)
  else
    (true, { dispatcher with queued := dispatcher.queued ++ [item] })

/-- The task comes to another phase. -/
def setPhase (dispatcher : DispatcherTasks) (task : Nat) (phase : DispatchPhase) :
    DispatcherTasks :=
  { dispatcher with
    tasks := dispatcher.tasks.modify task fun cell => { cell with phase := phase } }

/-- The first step of `_run`, of the oldest task that has not begun. -/
def begin (dispatcher : DispatcherTasks) : Option DispatcherTasks :=
  match dispatcher.tasks.findIdx? fun cell => cell.phase = .scheduled with
  | none => none
  | some task =>
      match dispatcher.tasks[task]? with
      | none => none
      | some cell =>
          if cell.cancelled then
            some (dispatcher.setPhase task .ended)
          else
            some { dispatcher.setPhase task .running with
              begun := dispatcher.begun ++ [cell.item] }

/-- `_run` ends: the work returned, raised, ran out of time or was cancelled. -/
def finish (dispatcher : DispatcherTasks) (task : Nat) : Option DispatcherTasks :=
  match dispatcher.tasks[task]? with
  | none => none
  | some cell => if cell.phase = .running then some (dispatcher.setPhase task .ended) else none

/-- `_completed`, from the loop. -/
def complete (dispatcher : DispatcherTasks) (task : Nat) : Option DispatcherTasks :=
  match dispatcher.tasks[task]? with
  | none => none
  | some cell =>
      if cell.phase = .ended then
        let discarded :=
          { dispatcher.setPhase task .completed with active := dispatcher.active.erase task }
        match dispatcher.closed, dispatcher.queued with
        | false, item :: queued => some ({ discarded with queued := queued }.start item)
        | _, _ => some discarded
      else
        none

/-- `close` up to its `await`; cancelling has no effect on a task that ended. -/
def close (dispatcher : DispatcherTasks) : DispatcherTasks :=
  { dispatcher with
    closed := true
    queued := []
    tasks := dispatcher.tasks.mapIdx fun task cell =>
      if task ∈ dispatcher.active ∧ (cell.phase = .scheduled ∨ cell.phase = .running) then
        { cell with cancelled := true }
      else
        cell }

/-- The caller of `dispatch` has its answer. -/
def record (dispatcher : DispatcherTasks) (answer : Bool) : DispatcherTasks :=
  { dispatcher with answers := dispatcher.answers ++ [answer] }

/-- One transition. -/
def step (dispatcher : DispatcherTasks) : DispatchAction → Option DispatcherTasks
  | .dispatch =>
      let (answer, next) := dispatcher.dispatch dispatcher.answers.length
      some (next.record answer)
  | .begin => dispatcher.begin
  | .finish task => dispatcher.finish task
  | .complete task => dispatcher.complete task
  | .close => some dispatcher.close

/-- All interleavings at a dispatcher created with the given bounds. -/
def system (maximum queueSize : Nat) : LabelledSystem DispatcherTasks DispatchAction where
  starts dispatcher := dispatcher = { maximum, queueSize }
  step := step

/-- The work that `dispatch` answered `True` or `False` for, in this order. -/
def answered (dispatcher : DispatcherTasks) (answer : Bool) : List Nat :=
  (List.range dispatcher.answers.length).filter fun item =>
    dispatcher.answers[item]? = some answer

/-- The work that tasks were created for, in the order of creation. -/
def started (dispatcher : DispatcherTasks) : List Nat :=
  dispatcher.tasks.map DispatchTask.item

/-- `_active` holds the tasks whose callback has not run, and first steps are
taken in the order of creation. -/
structure TaskInvariant (dispatcher : DispatcherTasks) : Prop where
  active_iff : ∀ task, task ∈ dispatcher.active ↔
    ∃ cell, dispatcher.tasks[task]? = some cell ∧ cell.phase ≠ .completed
  cancelled_eq : ∀ (task : Nat) (cell : DispatchTask), dispatcher.tasks[task]? = some cell →
    cell.phase = .scheduled → cell.cancelled = dispatcher.closed
  inOrder : ∃ count, (∀ (task : Nat) (cell : DispatchTask),
      dispatcher.tasks[task]? = some cell → (cell.phase = .scheduled ↔ count ≤ task)) ∧
    List.Sublist dispatcher.begun (dispatcher.started.take count) ∧
    (dispatcher.closed = false → dispatcher.begun = dispatcher.started.take count)

theorem TaskInvariant.lt_of_active {dispatcher : DispatcherTasks}
    (invariant : dispatcher.TaskInvariant) {task : Nat} (member : task ∈ dispatcher.active) :
    task < dispatcher.tasks.length := by
  obtain ⟨cell, found, -⟩ := (invariant.active_iff task).mp member
  exact (List.getElem?_eq_some_iff.mp found).1

@[simp]
theorem started_setPhase (dispatcher : DispatcherTasks) (task : Nat) (phase : DispatchPhase) :
    (dispatcher.setPhase task phase).started = dispatcher.started := by
  refine List.ext_getElem? fun index => ?_
  simp only [started, setPhase, List.getElem?_map, List.getElem?_modify]
  cases dispatcher.tasks[index]? with
  | none => rfl
  | some cell => by_cases same : task = index <;> simp [same]

/-- What the phases of the tasks are after one of them changed. -/
theorem phase_setPhase {dispatcher : DispatcherTasks} {task other : Nat} {phase : DispatchPhase}
    {after : DispatchTask} (found : (dispatcher.setPhase task phase).tasks[other]? = some after) :
    ∃ before, dispatcher.tasks[other]? = some before ∧ after.cancelled = before.cancelled ∧
      after.phase = if task = other then phase else before.phase := by
  obtain ⟨before, foundBefore, rfl⟩ := getElem?_modify_eq_some.mp found
  refine ⟨before, foundBefore, ?_, ?_⟩ <;> split_ifs <;> rfl

theorem exists_setPhase {dispatcher : DispatcherTasks} {task other : Nat} (phase : DispatchPhase)
    {before : DispatchTask} (found : dispatcher.tasks[other]? = some before) :
    ∃ after, (dispatcher.setPhase task phase).tasks[other]? = some after ∧
      after.phase = if task = other then phase else before.phase := by
  refine ⟨_, getElem?_modify_eq_some.mpr ⟨before, found, rfl⟩, ?_⟩
  split_ifs <;> rfl

theorem TaskInvariant.start {dispatcher : DispatcherTasks} (invariant : dispatcher.TaskInvariant)
    (isOpen : dispatcher.closed = false) (item : Nat) : (dispatcher.start item).TaskInvariant where
  active_iff task := by
    simp only [DispatcherTasks.start, Finset.mem_insert, getElem?_concat_eq_some]
    rw [invariant.active_iff task]
    constructor
    · rintro (rfl | ⟨cell, found, incomplete⟩)
      · exact ⟨{ item }, Or.inr ⟨rfl, rfl⟩, nofun⟩
      · exact ⟨cell, Or.inl found, incomplete⟩
    · rintro ⟨cell, found | ⟨rfl, -⟩, incomplete⟩
      · exact Or.inr ⟨cell, found, incomplete⟩
      · exact Or.inl rfl
  cancelled_eq task cell found scheduled := by
    rcases getElem?_concat_eq_some.mp found with old | ⟨rfl, rfl⟩
    · exact invariant.cancelled_eq task cell old scheduled
    · exact isOpen.symm
  inOrder := by
    obtain ⟨count, phases, sublist, same⟩ := invariant.inOrder
    have begun := same isOpen
    have atMost : min count dispatcher.tasks.length = min count dispatcher.started.length := by
      simp [started]
    refine ⟨min count dispatcher.tasks.length, fun task cell found => ?_, ?_, fun _ => ?_⟩
    · rcases getElem?_concat_eq_some.mp found with old | ⟨rfl, rfl⟩
      · have bound := (List.getElem?_eq_some_iff.mp old).1
        rw [phases task cell old]
        omega
      · exact ⟨fun _ => Nat.min_le_right _ _, fun _ => rfl⟩
    all_goals
      have taken : (dispatcher.start item).started.take (min count dispatcher.tasks.length) =
          dispatcher.started.take count := by
        have whole : (dispatcher.start item).started = dispatcher.started ++ [item] := by
          simp [started, DispatcherTasks.start]
        rw [whole, atMost, List.take_append_of_le_length (Nat.min_le_right _ _),
          List.take_eq_take_iff]
        omega
      rw [taken]
    · exact sublist
    · exact begun

section

variable {dispatcher : DispatcherTasks} {task : Nat} {cell : DispatchTask} {phase : DispatchPhase}

/-- The active tasks after one of them came to another phase. -/
theorem TaskInvariant.active_setPhase (invariant : dispatcher.TaskInvariant)
    (found : dispatcher.tasks[task]? = some cell) (incomplete : cell.phase ≠ .completed)
    (other : Nat) :
    (∃ after, (dispatcher.setPhase task phase).tasks[other]? = some after ∧
      after.phase ≠ .completed) ↔
        other ∈ dispatcher.active ∧ (other = task → phase ≠ .completed) := by
  rw [invariant.active_iff other]
  constructor
  · rintro ⟨after, foundAfter, incompleteAfter⟩
    obtain ⟨before, foundBefore, -, phaseAfter⟩ := phase_setPhase foundAfter
    rw [phaseAfter] at incompleteAfter
    split_ifs at incompleteAfter with same
    · subst same
      exact ⟨⟨cell, found, incomplete⟩, fun _ => incompleteAfter⟩
    · exact ⟨⟨before, foundBefore, incompleteAfter⟩, fun isTask => absurd isTask.symm same⟩
  · rintro ⟨⟨before, foundBefore, incompleteBefore⟩, notCompleted⟩
    obtain ⟨after, foundAfter, phaseAfter⟩ :=
      @exists_setPhase dispatcher task other phase _ foundBefore
    refine ⟨after, foundAfter, ?_⟩
    rw [phaseAfter]
    split_ifs with same
    · exact notCompleted same.symm
    · exact incompleteBefore

theorem TaskInvariant.cancelled_setPhase (invariant : dispatcher.TaskInvariant)
    (notScheduled : phase ≠ .scheduled) (other : Nat) (after : DispatchTask)
    (found : (dispatcher.setPhase task phase).tasks[other]? = some after)
    (scheduled : after.phase = .scheduled) : after.cancelled = dispatcher.closed := by
  obtain ⟨before, foundBefore, cancelledAfter, phaseAfter⟩ := phase_setPhase found
  rw [phaseAfter] at scheduled
  split_ifs at scheduled
  · exact absurd scheduled notScheduled
  · rw [cancelledAfter]
    exact invariant.cancelled_eq other before foundBefore scheduled

/-- A task that has begun goes on, or its callback runs. -/
theorem TaskInvariant.setPhase (invariant : dispatcher.TaskInvariant)
    (found : dispatcher.tasks[task]? = some cell) (begun : cell.phase ≠ .scheduled)
    (incomplete : cell.phase ≠ .completed) (notScheduled : phase ≠ .scheduled)
    {active : Finset Nat} (isActive : ∀ other, other ∈ active ↔
      other ∈ dispatcher.active ∧ (other = task → phase ≠ .completed)) :
    { dispatcher.setPhase task phase with active := active }.TaskInvariant where
  active_iff other := (isActive other).trans (invariant.active_setPhase found incomplete other).symm
  cancelled_eq := invariant.cancelled_setPhase notScheduled
  inOrder := by
    obtain ⟨count, phases, sublist, same⟩ := invariant.inOrder
    have kept := started_setPhase dispatcher task phase
    refine ⟨count, fun other after foundAfter => ?_, kept ▸ sublist, kept ▸ same⟩
    obtain ⟨before, foundBefore, -, phaseAfter⟩ := phase_setPhase foundAfter
    rw [phaseAfter]
    split_ifs with isTask
    · subst isTask
      obtain rfl : cell = before := by simpa [found] using foundBefore
      have past := (not_congr (phases task cell found)).mp begun
      exact ⟨fun scheduled => absurd scheduled notScheduled, fun later => absurd later past⟩
    · exact phases other before foundBefore

/-- The oldest task that has not begun takes its first step. -/
theorem TaskInvariant.begin {next : DispatcherTasks} (invariant : dispatcher.TaskInvariant)
    (stepped : dispatcher.begin = some next) : next.TaskInvariant := by
  unfold DispatcherTasks.begin at stepped
  cases oldest : dispatcher.tasks.findIdx? fun cell => cell.phase = .scheduled with
  | none => simp [oldest] at stepped
  | some task =>
      obtain ⟨bound, isScheduled, older⟩ := List.findIdx?_eq_some_iff_getElem.mp oldest
      have found : dispatcher.tasks[task]? = some dispatcher.tasks[task] :=
        List.getElem?_eq_getElem bound
      have scheduled : dispatcher.tasks[task].phase = .scheduled := of_decide_eq_true isScheduled
      have incomplete : dispatcher.tasks[task].phase ≠ .completed := by simp [scheduled]
      obtain ⟨count, phases, sublist, same⟩ := invariant.inOrder
      -- all tasks before it have begun, and none from it on
      obtain rfl : count = task := by
        refine le_antisymm ((phases task _ found).mp scheduled) (Nat.le_of_not_lt fun less => ?_)
        have within : count < dispatcher.tasks.length := less.trans bound
        have early := (phases count _ (List.getElem?_eq_getElem within)).mpr le_rfl
        exact older count less (decide_eq_true early)
      have phasesAfter (phase : DispatchPhase) (notScheduled : phase ≠ .scheduled) (other : Nat)
          (after : DispatchTask)
          (foundAfter : (dispatcher.setPhase count phase).tasks[other]? = some after) :
          after.phase = .scheduled ↔ count + 1 ≤ other := by
        obtain ⟨before, foundBefore, -, phaseAfter⟩ := phase_setPhase foundAfter
        rw [phaseAfter]
        split_ifs with isTask
        · exact ⟨fun isPhase => absurd isPhase notScheduled, fun later => by omega⟩
        · rw [phases other before foundBefore]
          omega
      have taken : dispatcher.started.take (count + 1) =
          dispatcher.started.take count ++ [dispatcher.tasks[count].item] := by
        rw [List.take_add_one]
        simp [started, found]
      have cancelledEq := invariant.cancelled_eq count _ found scheduled
      simp only [oldest, found] at stepped
      split_ifs at stepped with cancelled
      · obtain rfl := Option.some.inj stepped
        have isClosed : dispatcher.closed = true := cancelledEq.symm.trans cancelled
        refine ⟨fun other => ?_, invariant.cancelled_setPhase nofun, count + 1,
          phasesAfter .ended nofun, ?_, fun isOpen => ?_⟩
        · rw [invariant.active_setPhase found incomplete]
          simp [DispatcherTasks.setPhase]
        · rw [started_setPhase, taken]
          exact sublist.trans (List.sublist_append_left _ _)
        · exact absurd (isClosed.symm.trans isOpen) nofun
      · obtain rfl := Option.some.inj stepped
        have isOpen : dispatcher.closed = false := by
          rw [← cancelledEq]
          simpa using cancelled
        have begun : dispatcher.begun ++ [dispatcher.tasks[count].item] =
            (dispatcher.setPhase count .running).started.take (count + 1) := by
          rw [started_setPhase, taken, same isOpen]
        refine ⟨fun other => ?_, invariant.cancelled_setPhase nofun, count + 1,
          phasesAfter .running nofun, begun ▸ List.Sublist.refl _, fun _ => begun⟩
        rw [invariant.active_setPhase found incomplete]
        simp [DispatcherTasks.setPhase]

theorem started_close : dispatcher.close.started = dispatcher.started := by
  refine List.ext_getElem? fun index => ?_
  simp only [started, DispatcherTasks.close, List.getElem?_map, List.getElem?_mapIdx]
  cases dispatcher.tasks[index]? with
  | none => rfl
  | some cell =>
      simp only [Option.map_some]
      split_ifs <;> rfl

theorem TaskInvariant.close (invariant : dispatcher.TaskInvariant) :
    dispatcher.close.TaskInvariant := by
  have after {task : Nat} {cell : DispatchTask}
      (found : dispatcher.close.tasks[task]? = some cell) :
      ∃ before, dispatcher.tasks[task]? = some before ∧ cell.phase = before.phase ∧
        (before.phase = .scheduled → cell.cancelled = true) := by
    obtain ⟨before, foundBefore, rfl⟩ :=
      Option.map_eq_some_iff.mp ((List.getElem?_mapIdx).symm.trans found)
    refine ⟨before, foundBefore, ?_, fun scheduled => ?_⟩
    · split_ifs <;> rfl
    · have active : task ∈ dispatcher.active :=
        (invariant.active_iff task).mpr ⟨before, foundBefore, by simp [scheduled]⟩
      rw [if_pos ⟨active, Or.inl scheduled⟩]
  have kept {task : Nat} {cell : DispatchTask} (found : dispatcher.tasks[task]? = some cell) :
      ∃ later, dispatcher.close.tasks[task]? = some later ∧ later.phase = cell.phase := by
    refine ⟨_, (List.getElem?_mapIdx).trans (by rw [found]; rfl), ?_⟩
    dsimp only
    split_ifs <;> rfl
  refine ⟨fun task => ?_, fun task cell found scheduled => ?_, ?_⟩
  · change task ∈ dispatcher.active ↔ _
    rw [invariant.active_iff task]
    constructor
    · rintro ⟨cell, found, incomplete⟩
      obtain ⟨later, foundLater, samePhase⟩ := kept found
      exact ⟨later, foundLater, samePhase ▸ incomplete⟩
    · rintro ⟨cell, found, incomplete⟩
      obtain ⟨before, foundBefore, samePhase, -⟩ := after found
      exact ⟨before, foundBefore, samePhase ▸ incomplete⟩
  · obtain ⟨before, -, samePhase, cancels⟩ := after found
    exact cancels (samePhase ▸ scheduled)
  · obtain ⟨count, phases, sublist, -⟩ := invariant.inOrder
    refine ⟨count, fun task cell found => ?_, by rwa [started_close], nofun⟩
    obtain ⟨before, foundBefore, samePhase, -⟩ := after found
    rw [samePhase]
    exact phases task before foundBefore

end

end DispatcherTasks

end FitzClient
