import FitzClient.RpcCallOrder

/-!
# Calls whose last frame is in time

A client lists a call until its last frame arrives, so that nothing arrives
after it.  From there on the queue is only read, and the watcher of the
deadline, the close of the call and the cancellation of a reader leave it
alone.  Two things do not: `__anext__` looks at the deadline before it looks
into the queue, and the timer of a reader that waits may fire although its item
is there.  Both raise a timeout at a call that has all its frames.
-/

namespace FitzClient

namespace RpcCall

theorem ended_of_closed {call : RpcCall} (closed : call.closed = true) : call.ended = true := by
  rw [ended, closed, Bool.true_or]

theorem readers_take (call : RpcCall) (item : CallItem) :
    (call.take item).readers = call.readers := by
  cases item with
  | frame frame => rfl
  | error error => rfl
  | stop => simp only [take]; split <;> rfl

end RpcCall

namespace CallRun

variable {run next : CallRun} {call : RpcCall}

/-- Where the last frame was in time, the iterator comes to every frame
accepted, then to stops, and a reader that waits has an item. -/
structure OnTime (run : CallRun) : Prop where
  fixed : run.inTime = true → ∃ stops, run.outcomes ++ run.call.unread =
    run.accepted.map .frame ++ List.replicate stops .stopped
  wakes : run.inTime = true → 0 < run.call.readers → ∃ next, run.step .take = some next

/-- No timeout is raised at a call whose last frame was in time: the iterator
does not ask for a frame in the queue after the deadline, and no timer of a
reader fires. -/
def Punctual (run : CallRun) (action : CallAction) : Prop :=
  run.inTime = true →
    action ≠ .readTimedOut ∧ (action = .read → run.passed = true → run.call.queue = [])

/-- The call has its last frame, and is not closed. -/
structure Ending (run : CallRun) : Prop where
  closed : run.call.closed = false
  terminal : run.call.terminal = true
  failure : run.call.failure = none
  filled : 0 < run.call.readers → run.call.queue ≠ []
  fixed : ∃ stops, run.outcomes ++ run.call.unread =
    run.accepted.map .frame ++ List.replicate stops .stopped

structure Paced (run : CallRun) : Prop where
  single : run.call.readers ≤ 1
  frames : run.call.FramesOnly
  fresh : run.call.ended = false → run.call.failure = none ∧
    run.outcomes ++ run.call.unread = run.accepted.map .frame
  inTime : run.inTime = true → Ending run

theorem Ending.ended (ending : Ending run) : run.call.ended = true := by
  rw [RpcCall.ended, ending.terminal, Bool.or_true]

/-- `_close_and_cancel` leaves a call that has its last frame alone. -/
theorem Ending.close (ending : Ending run) : run.close = run := by
  rw [close_eq, if_pos ending.ended]

theorem ended_close (run : CallRun) : run.close.call.ended = true := by
  rw [close_eq]
  split_ifs with ended
  · exact ended
  · rfl

theorem readers_close (run : CallRun) : run.close.call.readers = run.call.readers := by
  rw [close_eq]
  split_ifs <;> rfl

theorem inTime_close (run : CallRun) : run.close.inTime = run.inTime := by
  rw [close_eq]
  split_ifs <;> rfl

theorem frames_close (frames : run.call.FramesOnly) : run.close.call.FramesOnly := by
  rw [close_eq]
  split_ifs with ended
  · exact frames
  · exact RpcCall.framesOnly_of_closed rfl

namespace Paced

/-- Nothing is said of a call that has ended out of time. -/
theorem of_late (single : run.call.readers ≤ 1) (frames : run.call.FramesOnly)
    (ended : run.call.ended = true) (late : run.inTime = false) : Paced run where
  single := single
  frames := frames
  fresh open_ := absurd (ended.symm.trans open_) (by simp)
  inTime inTime := absurd (late.symm.trans inTime) (by simp)

/-- The call is closed, and the reader told. -/
theorem close_record (single : run.call.readers ≤ 1) (frames : run.call.FramesOnly)
    (late : run.inTime = false) (reading : Reading) : Paced (run.close.record reading) :=
  of_late ((readers_close run).trans_le single) (frames_close frames) (ended_close run)
    ((inTime_close run).trans late)

/-- The stream of the call is left alone. -/
theorem untouched (paced : Paced run) {passed : Bool} (queue : call.queue = run.call.queue)
    (failure : call.failure = run.call.failure) (closed : call.closed = run.call.closed)
    (terminal : call.terminal = run.call.terminal)
    (outcomes : outcomes { run with call } = run.outcomes) (single : call.readers ≤ 1)
    (filled : run.inTime = true → 0 < call.readers → call.queue ≠ []) :
    Paced { run with call, passed } where
  single := single
  frames open_ item member := paced.frames (closed.symm.trans open_) item (queue ▸ member)
  fresh open_ := by
    rw [RpcCall.ended, closed, terminal] at open_
    obtain ⟨unfailed, fixed⟩ := paced.fresh open_
    refine ⟨failure.trans unfailed, ?_⟩
    rw [RpcCall.unread, queue, failure]
    exact (congrArg (· ++ run.call.unread) outcomes).trans fixed
  inTime inTime := by
    have ending := paced.inTime inTime
    obtain ⟨stops, fixed⟩ := ending.fixed
    refine ⟨closed.trans ending.closed, terminal.trans ending.terminal,
      failure.trans ending.failure, filled inTime, stops, ?_⟩
    rw [RpcCall.unread, queue, failure]
    exact (congrArg (· ++ run.call.unread) outcomes).trans fixed

/-- A reader comes to the first item. -/
theorem take (paced : Paced run) {item : CallItem} {queue : List CallItem}
    (items : run.call.queue = item :: queue) :
    Paced { run with call := ({ run.call with queue, readers := 0 } : RpcCall).take item } := by
  cases closed : run.call.closed with
  | true =>
      refine of_late ((RpcCall.readers_take _ _).trans_le (Nat.zero_le _))
        (RpcCall.framesOnly_of_closed (RpcCall.closed_take _ _ closed))
        (RpcCall.ended_of_closed (RpcCall.closed_take _ _ closed)) ?_
      by_contra inTime
      have ending := paced.inTime (by simpa using inTime)
      exact absurd (closed.symm.trans ending.closed) (by simp)
  | false =>
      obtain ⟨frame, rfl⟩ := paced.frames closed item (by simp [items])
      have kept : run.call.Kept := Or.inr (paced.frames closed)
      have total := outcomes_unread_take kept items 0
      refine ⟨Nat.zero_le _, fun _ other member => paced.frames closed other ?_, fun open_ => ?_,
        fun inTime => ?_⟩
      · rw [items]
        exact List.mem_cons_of_mem _ member
      · obtain ⟨unfailed, fixed⟩ := paced.fresh open_
        exact ⟨unfailed, total.trans fixed⟩
      · have ending := paced.inTime inTime
        obtain ⟨stops, fixed⟩ := ending.fixed
        exact ⟨closed, ending.terminal, ending.failure,
          fun waits => absurd waits (lt_irrefl 0), stops, total.trans fixed⟩

/-- A read that finds nothing in the queue of a call that has ended. -/
theorem readEnded (paced : Paced run) (empty : run.call.queue = [])
    (unfailed : run.call.failure = none) (ended : run.call.ended = true)
    (few : run.call.readers = 0) : Paced (run.record .stopped) where
  single := paced.single
  frames := paced.frames
  fresh open_ := absurd (ended.symm.trans open_) (by simp)
  inTime inTime := by
    have ending := paced.inTime inTime
    exact ⟨ending.closed, ending.terminal, unfailed,
      fun waits => absurd (waits.trans_eq few) (lt_irrefl 0),
      fixed_record_stopped empty unfailed ending.fixed⟩

/-- A read of the failure kept: the call is closed or has its last frame. -/
theorem readFailed (paced : Paced run) {failure : CallError}
    (failed : run.call.failure = some failure) :
    Paced { run with call := { run.call.record (.raised failure) with failure := none } } := by
  have ended : run.call.ended = true := by
    by_contra open_
    exact absurd (failed.symm.trans (paced.fresh (by simpa using open_)).1) (by simp)
  refine of_late paced.single paced.frames ended ?_
  by_contra inTime
  exact absurd (failed.symm.trans (paced.inTime (by simpa using inTime)).failure) (by simp)

theorem read (paced : Paced run) (few : run.call.readers = 0)
    (punctual : Punctual run .read) : Paced run.read := by
  unfold CallRun.read
  split
  · next failure _ failed => exact paced.readFailed failed
  · next empty unfailed =>
    split_ifs with ended passed
    · exact paced.readEnded empty unfailed ended few
    · refine close_record paced.single paced.frames ?_ _
      by_contra inTime
      exact ended (paced.inTime (by simpa using inTime)).ended
    · refine paced.untouched rfl rfl rfl rfl rfl (by simp [few]) fun inTime _ => ?_
      exact absurd (paced.inTime inTime).ended ended
  · next item queue _ items =>
    split_ifs with passed
    · refine close_record paced.single paced.frames ?_ _
      by_contra inTime
      have empty := (punctual (by simpa using inTime)).2 rfl passed
      exact absurd (items.symm.trans empty) (by simp)
    · have taken := paced.take items
      rwa [← few] at taken

theorem close (paced : Paced run) : Paced run.close := by
  cases inTime : run.inTime with
  | true =>
      rw [(paced.inTime inTime).close]
      exact paced
  | false =>
      exact of_late ((readers_close run).trans_le paced.single) (frames_close paced.frames)
        (ended_close run) ((inTime_close run).trans inTime)

theorem late_of_open (paced : Paced run) (open_ : run.call.terminal = false) :
    run.inTime = false := by
  by_contra inTime
  have ending := paced.inTime (by simpa using inTime)
  exact absurd (open_.symm.trans ending.terminal) (by simp)

theorem fail (paced : Paced run) (open_ : run.call.terminal = false) (error : CallError) :
    Paced (run.fail error) := by
  cases closed : run.call.closed with
  | true => rwa [fail_of_closed closed]
  | false =>
      rw [CallRun.fail, RpcCall.failNow_eq, if_neg (by simp [closed])]
      have shut : (run.call.fail error true).closed = true := RpcCall.closed_fail _ _ _
      have readers : (run.call.fail error true).readers = run.call.readers := by
        by_cases full : run.call.full = true
        · rw [RpcCall.fail_of_full full]
          rfl
        · rw [RpcCall.fail_of_room full]
          rfl
      exact of_late (readers.trans_le paced.single) (RpcCall.framesOnly_of_closed shut)
        (RpcCall.ended_of_closed shut) (paced.late_of_open open_)

theorem push (paced : Paced run) (open_ : run.call.terminal = false) (frame : ResponseFrame)
    (final : Bool) : Paced (run.push frame final) := by
  have late := paced.late_of_open open_
  cases closed : run.call.closed with
  | true => rwa [push_of_closed closed]
  | false =>
      by_cases full : run.call.full = true
      · rw [push_of_full closed full, RpcCall.fail_draining]
        exact of_late paced.single (RpcCall.framesOnly_of_closed rfl)
          (RpcCall.ended_of_closed rfl) late
      · obtain ⟨unfailed, fixed⟩ := paced.fresh (by rw [RpcCall.ended, closed, open_]; rfl)
        have frames : (run.call.finish frame).FramesOnly := paced.frames.concat frame rfl rfl
        have extended : run.outcomes ++ (run.call.finish frame).unread =
            (run.accepted ++ [frame]).map .frame := by
          rw [List.map_append, ← fixed]
          simp [RpcCall.unread, RpcCall.finish, RpcCall.stopWatchers, unfailed, CallItem.reading]
        have filled : (run.call.finish frame).queue ≠ [] := by simp [RpcCall.finish]
        rw [push_of_room closed full]
        cases final with
        | true =>
            refine ⟨paced.single, frames, fun unended => ?_, fun _ => ?_⟩
            · exact absurd unended (by simp [RpcCall.ended, RpcCall.finish])
            · exact ⟨closed, rfl, unfailed, fun _ => filled, 0,
                extended.trans (List.append_nil _).symm⟩
        | false =>
            refine ⟨paced.single, frames, fun _ => ⟨unfailed, extended⟩, fun inTime => ?_⟩
            exact absurd inTime (by simp [late])

theorem leave (paced : Paced run) : Paced run.leave :=
  paced.untouched rfl rfl rfl rfl rfl ((Nat.sub_le _ _).trans paced.single)
    fun inTime waits => (paced.inTime inTime).filled (waits.trans_le (Nat.sub_le _ _))

theorem step {action : CallAction} (paced : Paced run) (punctual : Punctual run action)
    (stepped : run.listedStep action = some next) : Paced next := by
  cases action with
  | opened =>
      obtain ⟨-, stepped⟩ := Option.ite_none_right_eq_some.mp stepped
      obtain rfl := Option.some.inj stepped
      exact paced.untouched rfl rfl rfl rfl rfl paced.single fun inTime =>
        (paced.inTime inTime).filled
  | push frame final =>
      obtain ⟨open_, stepped⟩ := Option.ite_none_left_eq_some.mp stepped
      obtain rfl := Option.some.inj stepped
      exact paced.push (by simpa using open_) frame final
  | fail error =>
      obtain ⟨open_, stepped⟩ := Option.ite_none_left_eq_some.mp stepped
      obtain rfl := Option.some.inj stepped
      exact paced.fail (by simpa using open_) error
  | close =>
      obtain ⟨-, stepped⟩ := Option.ite_none_right_eq_some.mp stepped
      obtain rfl := Option.some.inj stepped
      exact paced.close
  | read =>
      obtain ⟨⟨-, few⟩, stepped⟩ := Option.ite_none_right_eq_some.mp stepped
      obtain rfl := Option.some.inj stepped
      exact paced.read few punctual
  | take =>
      simp only [listedStep, CallRun.step] at stepped
      split at stepped
      · cases stepped
      · next item queue items =>
        obtain ⟨waits, stepped⟩ := Option.ite_none_right_eq_some.mp stepped
        obtain rfl := Option.some.inj stepped
        have last : run.call.readers - 1 = 0 := Nat.sub_eq_zero_of_le paced.single
        rw [last]
        exact paced.take items
  | readCancelled =>
      obtain ⟨-, stepped⟩ := Option.ite_none_right_eq_some.mp stepped
      obtain rfl := Option.some.inj stepped
      have closed := paced.leave.close
      exact closed.untouched rfl rfl rfl rfl (outcomes_record_cancelled _) closed.single
        fun inTime => (closed.inTime inTime).filled
  | passDeadline =>
      obtain ⟨-, stepped⟩ := Option.ite_none_right_eq_some.mp stepped
      obtain rfl := Option.some.inj stepped
      exact paced.untouched rfl rfl rfl rfl rfl paced.single fun inTime =>
        (paced.inTime inTime).filled
  | readTimedOut =>
      obtain ⟨-, stepped⟩ := Option.ite_none_right_eq_some.mp stepped
      obtain rfl := Option.some.inj stepped
      have late : run.inTime = false := by
        by_contra inTime
        exact (punctual (by simpa using inTime)).1 rfl
      exact close_record paced.leave.single paced.leave.frames late _
  | expire =>
      obtain ⟨-, stepped⟩ := Option.ite_none_right_eq_some.mp stepped
      split_ifs at stepped with ended
      · obtain rfl := Option.some.inj stepped
        exact paced.untouched rfl rfl rfl rfl rfl paced.single fun inTime =>
          (paced.inTime inTime).filled
      · obtain rfl := Option.some.inj stepped
        have late : run.inTime = false := by
          by_contra inTime
          exact ended (paced.inTime (by simpa using inTime)).ended
        exact of_late ((readers_close _).trans_le paced.single) (frames_close paced.frames)
          (ended_close _) ((inTime_close _).trans late)

theorem of_starts {dated : Bool} (starts : Starts dated run) : Paced run := by
  obtain ⟨key, capacity, hasParent, rfl⟩ := starts
  exact ⟨Nat.zero_le _, fun _ _ => nofun, fun _ => ⟨rfl, rfl⟩, nofun⟩

theorem onTime (paced : Paced run) : OnTime run where
  fixed inTime := (paced.inTime inTime).fixed
  wakes inTime waits := by
    obtain ⟨item, queue, items⟩ := List.exists_cons_of_ne_nil ((paced.inTime inTime).filled waits)
    simp only [CallRun.step, items, if_pos waits]
    exact ⟨_, rfl⟩

end Paced

/-- The timeout is none of the outcomes of a call that is on time. -/
theorem not_onTime_of_raised (error : CallError) (inTime : run.inTime = true)
    (raised : .raised error ∈ run.outcomes) : ¬OnTime run := by
  intro onTime
  obtain ⟨stops, fixed⟩ := onTime.fixed inTime
  have among := List.mem_append_left run.call.unread raised
  rw [fixed] at among
  simp at among

theorem raised_record (run : CallRun) (error : CallError) :
    .raised error ∈ (run.record (.raised error)).outcomes := by
  rw [outcomes_concat run (.raised error) (by simp) rfl]
  simp

/-- A step that is not punctual raises a timeout. -/
theorem not_onTime_step {action : CallAction} (paced : Paced run)
    (unpunctual : ¬Punctual run action) (stepped : run.listedStep action = some next) :
    ¬OnTime next := by
  obtain ⟨inTime, raises⟩ := Classical.not_imp.mp unpunctual
  have ending := paced.inTime inTime
  by_cases timedOut : action = .readTimedOut
  · subst timedOut
    obtain ⟨-, stepped⟩ := Option.ite_none_right_eq_some.mp stepped
    obtain rfl := Option.some.inj stepped
    have closed : run.leave.close = run.leave := (paced.leave.inTime inTime).close
    rw [closed]
    exact not_onTime_of_raised .timedOut inTime (raised_record _ _)
  · obtain ⟨rfl, passed, filled⟩ : action = .read ∧ run.passed = true ∧ ¬run.call.queue = [] := by
      simpa [timedOut] using raises
    obtain ⟨-, stepped⟩ := Option.ite_none_right_eq_some.mp stepped
    obtain rfl := Option.some.inj stepped
    have read : run.read = run.record (.raised .timedOut) := by
      obtain ⟨item, queue, items⟩ := List.exists_cons_of_ne_nil filled
      rw [CallRun.read]
      simp only [items, if_pos passed, ending.close]
    rw [read]
    exact not_onTime_of_raised .timedOut inTime (raised_record _ _)

/-- A call of a client is on time throughout a run exactly if the run raises no
timeout at it after its last frame was in time. -/
theorem onTime_iff_punctual {first : CallRun} (starts : Starts true first)
    (actions : List CallAction) :
    (listedSystem true).Along OnTime first actions ↔
      (listedSystem true).StepsMeet Punctual first actions :=
  (listedSystem true).along_iff_stepsMeet Paced (fun _ paced => paced.onTime)
    (fun _ _ _ paced punctual stepped => paced.step punctual stepped)
    (fun _ _ _ paced unpunctual stepped => not_onTime_step paced unpunctual stepped)
    (Paced.of_starts starts) actions

/-- The call of a client with a queue of four frames. -/
def fourFrames : CallRun where
  call := { key := [], capacity := 4, hasDeadline := true, hasParent := false, opening := .sending }

/-- Both frames have come before the deadline; the first is read before it and
the second after it. -/
def readLate : List CallAction :=
  [.opened, .push ⟨[1], 0⟩ false, .push ⟨[2], 1⟩ true, .read, .passDeadline, .read]

theorem onTime_iff_punctual_readLate :
    (listedSystem true).Along OnTime fourFrames readLate ↔
      (listedSystem true).StepsMeet Punctual fourFrames readLate :=
  onTime_iff_punctual ⟨[], 4, false, rfl⟩ readLate

theorem exists_timeout_after_last : ∃ run, (listedSystem true).Reachable run ∧
    run.inTime = true ∧ run.accepted = [⟨[1], 0⟩, ⟨[2], 1⟩] ∧
    run.outcomes = [.frame ⟨[1], 0⟩, .raised .timedOut] ∧ ¬OnTime run := by
  have starts : (listedSystem true).starts fourFrames := ⟨[], 4, false, rfl⟩
  obtain ⟨run, reached, tested⟩ := (listedSystem true).exists_reachable_of_run starts readLate
    (fun run => run.inTime ∧ run.accepted = [⟨[1], 0⟩, ⟨[2], 1⟩] ∧
      run.outcomes = [.frame ⟨[1], 0⟩, .raised .timedOut]) (by decide)
  obtain ⟨inTime, accepted, outcomes⟩ := of_decide_eq_true tested
  refine ⟨run, reached, inTime, accepted, outcomes, ?_⟩
  exact not_onTime_of_raised .timedOut inTime (by simp [outcomes])

end CallRun

end FitzClient
