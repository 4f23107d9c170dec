import FitzClient.RpcCallQueue

/-!
# The order of what a call yields

Until a call without a deadline is closed, its queue holds frames only, and the
frames yielded followed by those in the queue are the frames accepted.  What
closes the call fixes the rest: the outcomes so far and those still unread are
what had come before, then what the closing promised, then stops.  The error of
a failed call is the last item of the queue, or is kept apart where the queue
is full of frames, and it is never in both places.
-/

namespace FitzClient

namespace RpcCall

variable {call : RpcCall} {item : CallItem} {queue : List CallItem}

theorem putError_of_full (full : call.full = true) (error : CallError) :
    call.putError error = { call with failure := some error } :=
  if_pos full

theorem putError_of_room (room : ¬call.full = true) (error : CallError) :
    call.putError error =
      { call with failure := none, queue := call.queue ++ [.error error] } :=
  if_neg room

theorem fail_of_full (full : call.full = true) (error : CallError) :
    call.fail error true =
      { call.stopWatchers with
        closed := true
        cancellation := call.cancellation.resolve error.outcome
        failure := some error } := by
  rw [fail_preserving]
  refine putError_of_full ?_ error
  exact full

theorem fail_of_room (room : ¬call.full = true) (error : CallError) :
    call.fail error true =
      { call.stopWatchers with
        closed := true
        cancellation := call.cancellation.resolve error.outcome
        failure := none
        queue := call.queue ++ [.error error] } := by
  rw [fail_preserving]
  refine putError_of_room ?_ error
  exact room

/-- A queue that was drained has room. -/
theorem fail_draining (call : RpcCall) (error : CallError) :
    call.fail error false =
      { call.stopWatchers with
        closed := true
        cancellation := call.cancellation.resolve error.outcome
        failure := none
        queue := [.error error] } := by
  refine putError_of_room ?_ error
  simp only [full, if_neg Bool.false_ne_true, List.length_nil, Bool.and_eq_true, decide_eq_true_eq]
  omega

/-- An item is an error or the end marker only where no failure is kept. -/
def Kept (call : RpcCall) : Prop :=
  call.failure = none ∨ ∀ item ∈ call.queue, ∃ frame, item = .frame frame

/-- The reader of an item comes to it, and leaves the rest. -/
theorem take_eq (kept : call.Kept) (items : call.queue = item :: queue) (readers : Nat) :
    ∃ closed, ({ call with queue, readers } : RpcCall).take item =
      { call with
        queue, readers, closed
        readings := call.readings ++ [item.reading] } ∧
      (call.closed = true → closed = true) ∧
      ((∃ frame, item = .frame frame) → closed = call.closed) := by
  cases item with
  | frame frame => exact ⟨call.closed, rfl, id, fun _ => rfl⟩
  | error error =>
      have unkept : call.failure = none := by
        refine kept.resolve_right fun frames => ?_
        obtain ⟨frame, same⟩ := frames (.error error) (by simp [items])
        cases same
      refine ⟨true, ?_, fun _ => rfl, fun isFrame => ?_⟩
      · simp only [take, record, CallItem.reading, ← unkept]
      · obtain ⟨frame, same⟩ := isFrame
        cases same
  | stop =>
      have unkept : call.failure = none := by
        refine kept.resolve_right fun frames => ?_
        obtain ⟨frame, same⟩ := frames .stop (by simp [items])
        cases same
      refine ⟨true, ?_, fun _ => rfl, fun isFrame => ?_⟩
      · simp only [take, unkept, record, CallItem.reading]
      · obtain ⟨frame, same⟩ := isFrame
        cases same

end RpcCall

namespace CallRun

variable {run next : CallRun} {call : RpcCall}

theorem outcomes_concat (run : CallRun) (reading : Reading) (read : reading ≠ .cancelled)
    (readings : next.call.readings = run.call.readings ++ [reading]) :
    next.outcomes = run.outcomes ++ [reading] := by
  rw [outcomes, readings, List.filter_append, List.filter_singleton]
  simp [read, outcomes]

theorem outcomes_same (run : CallRun) (readings : next.call.readings = run.call.readings) :
    next.outcomes = run.outcomes := by
  rw [outcomes, readings, outcomes]

theorem outcomes_record_cancelled (run : CallRun) :
    (run.record .cancelled).outcomes = run.outcomes := by
  simp [outcomes, record, RpcCall.record, List.filter_append]

theorem reading_ne_cancelled (item : CallItem) : item.reading ≠ .cancelled := by
  cases item <;> simp [CallItem.reading]

/-- The outcomes so far and those still unread, after an item is read. -/
theorem outcomes_unread_take (kept : run.call.Kept) {item : CallItem} {queue : List CallItem}
    (items : run.call.queue = item :: queue) (readers : Nat) :
    outcomes { run with call := ({ run.call with queue, readers } : RpcCall).take item } ++
        (({ run.call with queue, readers } : RpcCall).take item).unread =
      run.outcomes ++ run.call.unread := by
  obtain ⟨closed, taken, -, -⟩ := RpcCall.take_eq kept items readers
  rw [taken, outcomes_concat run item.reading (reading_ne_cancelled item) rfl, List.append_assoc]
  simp [RpcCall.unread, items]

/-- What is fixed up to its stops is so after one more of them. -/
theorem fixed_record_stopped (empty : run.call.queue = []) (unfailed : run.call.failure = none)
    {expected : List Reading} (fixed : ∃ stops, run.outcomes ++ run.call.unread =
      expected ++ List.replicate stops .stopped) :
    ∃ stops, (run.record .stopped).outcomes ++ (run.record .stopped).call.unread =
      expected ++ List.replicate stops .stopped := by
  obtain ⟨stops, fixed⟩ := fixed
  have nothing : run.call.unread = [] := by simp [RpcCall.unread, empty, unfailed]
  have still : (run.record .stopped).call.unread = [] := nothing
  have outcomes : (run.record .stopped).outcomes = run.outcomes ++ [.stopped] :=
    outcomes_concat run _ (by simp) rfl
  refine ⟨stops + 1, ?_⟩
  rw [nothing, List.append_nil] at fixed
  rw [still, outcomes, fixed, List.replicate_succ', List.append_nil, List.append_assoc]

theorem push_of_closed (closed : run.call.closed = true) (frame : ResponseFrame) (final : Bool) :
    run.push frame final = run := by
  simp [push, become, RpcCall.pushNow_eq, RpcCall.accepts, closed]

theorem fail_of_closed (closed : run.call.closed = true) (error : CallError) :
    run.fail error = run := by
  simp [fail, become, RpcCall.failNow_eq, closed]

/-- The end marker always finds room: nothing escapes. -/
theorem close_eq (run : CallRun) :
    run.close = if run.call.ended then run else run.become .closed run.call.close := by
  unfold close
  rw [RpcCall.closeNow_eq]
  split_ifs with ended
  · simp [become]
  · simp only [Bool.or_false]
    rfl

/-- The call is closed now. -/
theorem become_closing (open_ : run.call.closed = false) (cause : ClosingCause)
    (closed : call.closed = true) :
    run.become cause call = { run with
      call, closing := some { cause, before := run.outcomes, buffered := run.buffered } } := by
  simp [become, open_, closed]

/-- The call is not closed. -/
theorem become_open (cause : ClosingCause) (open_ : call.closed = false) :
    run.become cause call = { run with call } := by
  simp [become, open_]

theorem push_of_full (closed : run.call.closed = false) (full : run.call.full = true)
    (frame : ResponseFrame) (final : Bool) :
    run.push frame final = run.become .overflowed (run.call.fail .fellBehind false) := by
  have refused : run.call.accepts = false := by simp [RpcCall.accepts, full]
  have pushed : run.call.pushNow frame final = run.call.fail .fellBehind false := by
    rw [RpcCall.pushNow_eq, if_neg (by simp [closed]), if_pos full]
  rw [push, refused, pushed, Bool.false_and, Bool.false_and, Bool.or_false]
  rfl

theorem push_of_room (closed : run.call.closed = false) (room : ¬run.call.full = true)
    (frame : ResponseFrame) (final : Bool) :
    run.push frame final = { run with
      call :=
        if final then run.call.finish frame
        else { run.call with queue := run.call.queue ++ [.frame frame] }
      accepted := run.accepted ++ [frame]
      inTime := run.inTime || final && !run.passed } := by
  have accepted : run.call.accepts = true := by simp [RpcCall.accepts, room, closed]
  have pushed : run.call.pushNow frame final =
      if final then run.call.finish frame
      else { run.call with queue := run.call.queue ++ [.frame frame] } := by
    rw [RpcCall.pushNow_eq, if_neg (by simp [closed]), if_neg room]
  have unclosed : (run.call.pushNow frame final).closed = false := by
    rw [pushed]
    split_ifs <;> exact closed
  rw [push, accepted, become_open _ unclosed, pushed]
  rfl

/-- The queue of an open call holds what was accepted and is not yet yielded. -/
structure Open (run : CallRun) : Prop where
  closed : run.call.closed = false
  failure : run.call.failure = none
  queue : run.call.queue = run.buffered.map .frame
  accepted : run.yielded ++ run.buffered = run.accepted
  quiet : ∀ error, .raised error ∉ run.outcomes

/-- The closing of a call has fixed what the iterator comes to. -/
structure Closed (run : CallRun) (closing : Closing) : Prop where
  closed : run.call.closed = true
  accepted : closing.before.filterMap Reading.frame? ++ closing.buffered = run.accepted
  quiet : ∀ error, .raised error ∉ closing.before
  fixed : ∃ stops, run.outcomes ++ run.call.unread =
    closing.before ++ closing.promised ++ List.replicate stops .stopped

structure Sound (run : CallRun) : Prop where
  undated : run.call.hasDeadline = false
  unwatched : run.call.deadlineTask = false
  unpassed : run.passed = false
  unescaped : run.escaped = false
  single : run.call.readers ≤ 1
  waiting : run.call.ended = true → 0 < run.call.readers → run.call.queue ≠ []
  kept : run.call.Kept
  whileOpen : run.closing = none → Open run
  sinceClosed : ∀ closing, run.closing = some closing → Closed run closing

namespace Sound

/-- The call is closed exactly if its closing is noted. -/
theorem closed_iff (sound : Sound run) : run.call.closed = run.closing.isSome := by
  cases noted : run.closing with
  | none => exact (sound.whileOpen noted).closed
  | some closing => exact (sound.sinceClosed closing noted).closed

theorem closing_of_open (sound : Sound run) (open_ : run.call.closed = false) :
    run.closing = none := by
  simpa [open_] using sound.closed_iff.symm

/-- The stream of the call is left alone. -/
theorem untouched (sound : Sound run) (queue : call.queue = run.call.queue)
    (failure : call.failure = run.call.failure) (closed : call.closed = run.call.closed)
    (outcomes : outcomes { run with call } = run.outcomes) (undated : call.hasDeadline = false)
    (unwatched : call.deadlineTask = false) (single : call.readers ≤ 1)
    (waiting : call.ended = true → 0 < call.readers → call.queue ≠ []) :
    Sound { run with call } where
  undated := undated
  unwatched := unwatched
  unpassed := sound.unpassed
  unescaped := sound.unescaped
  single := single
  waiting := waiting
  kept := by
    show call.failure = none ∨ ∀ item ∈ call.queue, _
    rw [failure, queue]
    exact sound.kept
  whileOpen noted := by
    have open_ := sound.whileOpen noted
    have buffered : buffered { run with call } = run.buffered := by
      simp only [CallRun.buffered, queue]
    refine ⟨closed.trans open_.closed, failure.trans open_.failure, ?_, ?_, ?_⟩
    · rw [buffered]
      exact queue.trans open_.queue
    · rw [buffered, yielded, outcomes]
      exact open_.accepted
    · rw [outcomes]
      exact open_.quiet
  sinceClosed closing noted := by
    have shut := sound.sinceClosed closing noted
    refine ⟨closed.trans shut.closed, shut.accepted, shut.quiet, ?_⟩
    rw [outcomes, RpcCall.unread, queue, failure]
    exact shut.fixed

/-- A reader comes to the first item. -/
theorem take (sound : Sound run) {item : CallItem} {queue : List CallItem}
    (items : run.call.queue = item :: queue) :
    Sound { run with call := ({ run.call with queue, readers := 0 } : RpcCall).take item } := by
  have total := outcomes_unread_take sound.kept items 0
  obtain ⟨closed, taken, still, atFrame⟩ := RpcCall.take_eq sound.kept items 0
  rw [taken] at total ⊢
  set call : RpcCall := { run.call with
    queue, readers := 0, closed, readings := run.call.readings ++ [item.reading] }
  have outcomes : outcomes { run with call } = run.outcomes ++ [item.reading] :=
    outcomes_concat run item.reading (reading_ne_cancelled item) rfl
  refine ⟨sound.undated, sound.unwatched, sound.unpassed, sound.unescaped, Nat.zero_le _,
    fun _ waits => absurd waits (lt_irrefl 0), ?_, fun noted => ?_, fun closing noted => ?_⟩
  · refine sound.kept.imp_right fun frames other member => frames other ?_
    rw [items]
    exact List.mem_cons_of_mem _ member
  · have open_ := sound.whileOpen noted
    have frames := open_.queue
    rw [items] at frames
    obtain ⟨frame, rest, buffered, rfl, rfl⟩ := List.map_eq_cons_iff.mp frames.symm
    have later : CallRun.buffered { run with call } = rest := by
      simp [CallRun.buffered, call, List.filterMap_map, Function.comp_def, CallItem.frame?]
    refine ⟨(atFrame ⟨frame, rfl⟩).trans open_.closed, open_.failure, ?_, ?_, ?_⟩
    · rw [later]
    · have accepted := open_.accepted
      rw [buffered, yielded] at accepted
      rw [later, yielded, outcomes, List.filterMap_append, List.append_assoc]
      exact accepted
    · rw [outcomes]
      simp [open_.quiet, CallItem.reading]
  · have shut := sound.sinceClosed closing noted
    refine ⟨still shut.closed, shut.accepted, shut.quiet, ?_⟩
    obtain ⟨stops, fixed⟩ := shut.fixed
    exact ⟨stops, total.trans fixed⟩

/-- A read that finds nothing in the queue of a call that has ended. -/
theorem readEnded (sound : Sound run) (empty : run.call.queue = [])
    (unfailed : run.call.failure = none) (few : run.call.readers = 0) :
    Sound (run.record .stopped) := by
  have outcomes : (run.record .stopped).outcomes = run.outcomes ++ [.stopped] :=
    outcomes_concat run _ (by simp) rfl
  have buffered : (run.record .stopped).buffered = run.buffered := rfl
  refine { sound with
    waiting := fun _ waits => absurd (waits.trans_eq few) (lt_irrefl 0)
    whileOpen := fun noted => ?_
    sinceClosed := fun closing noted => ?_ }
  · have open_ := sound.whileOpen noted
    refine ⟨open_.closed, open_.failure, open_.queue, ?_, ?_⟩
    · rw [buffered, yielded, outcomes, List.filterMap_append]
      exact (congrArg (· ++ run.buffered) (List.append_nil _)).trans open_.accepted
    · rw [outcomes]
      simp [open_.quiet]
  · have shut := sound.sinceClosed closing noted
    exact ⟨shut.closed, shut.accepted, shut.quiet, fixed_record_stopped empty unfailed shut.fixed⟩

/-- A read that finds the failure kept. -/
theorem readFailed (sound : Sound run) (empty : run.call.queue = []) {failure : CallError}
    (failed : run.call.failure = some failure) (few : run.call.readers = 0) :
    Sound { run with call := { run.call.record (.raised failure) with failure := none } } := by
  set call : RpcCall := { run.call.record (.raised failure) with failure := none }
  have outcomes : outcomes { run with call } = run.outcomes ++ [.raised failure] :=
    outcomes_concat run _ (by simp) rfl
  refine ⟨sound.undated, sound.unwatched, sound.unpassed, sound.unescaped, sound.single,
    fun _ waits => absurd (waits.trans_eq few) (lt_irrefl 0), Or.inl rfl, fun noted => ?_,
    fun closing noted => ?_⟩
  · exact absurd (failed.symm.trans (sound.whileOpen noted).failure) (by simp)
  · have shut := sound.sinceClosed closing noted
    obtain ⟨stops, fixed⟩ := shut.fixed
    refine ⟨shut.closed, shut.accepted, shut.quiet, stops, ?_⟩
    rw [← fixed, outcomes]
    simp [RpcCall.unread, call, RpcCall.record, empty, failed]

theorem read (sound : Sound run) (few : run.call.readers = 0) : Sound run.read := by
  unfold CallRun.read
  split
  · next failure empty failed => exact sound.readFailed empty failed few
  · next empty unfailed =>
    split_ifs with ended passed
    · exact sound.readEnded empty unfailed few
    · exact absurd (passed.symm.trans sound.unpassed) (by simp)
    · exact sound.untouched rfl rfl rfl rfl sound.undated sound.unwatched
        (by simp [few]) (fun ends => absurd ends ended)
  · next item queue _ items =>
    rw [if_neg (by simp [sound.unpassed])]
    have taken := sound.take items
    rwa [← few] at taken

/-- What closes the call fixes what the iterator comes to. -/
theorem close_by (sound : Sound run) (open_ : run.call.closed = false) (cause : ClosingCause)
    (undated : call.hasDeadline = false) (unwatched : call.deadlineTask = false)
    (closed : call.closed = true) (readers : call.readers = run.call.readers)
    (readings : call.readings = run.call.readings) (kept : call.Kept)
    (filled : call.queue ≠ []) (fixed : ∃ stops, call.unread =
      Closing.promised { cause, before := run.outcomes, buffered := run.buffered } ++
        List.replicate stops .stopped) : Sound (run.become cause call) := by
  have before := sound.whileOpen (sound.closing_of_open open_)
  rw [become_closing open_ cause closed]
  refine ⟨undated, unwatched, sound.unpassed, sound.unescaped, readers ▸ sound.single,
    fun _ _ => filled, kept, nofun, fun closing noted => ?_⟩
  obtain rfl := Option.some.inj noted
  refine ⟨closed, before.accepted, before.quiet, ?_⟩
  obtain ⟨stops, fixed⟩ := fixed
  exact ⟨stops, by rw [fixed, outcomes_same run readings, List.append_assoc]⟩

/-- The items of an open call are frames. -/
theorem unread_of_open (open_ : Open run) : run.call.unread = run.buffered.map .frame := by
  rw [RpcCall.unread, open_.failure, open_.queue]
  simp [CallItem.reading]

theorem fail (sound : Sound run) (error : CallError) : Sound (run.fail error) := by
  cases closed : run.call.closed with
  | true => rwa [fail_of_closed closed]
  | false =>
      have open_ := sound.whileOpen (sound.closing_of_open closed)
      have frames : ∀ item ∈ run.call.queue, ∃ frame, item = .frame frame := by
        rw [open_.queue]
        rintro item member
        obtain ⟨frame, -, rfl⟩ := List.mem_map.mp member
        exact ⟨frame, rfl⟩
      have promised : (run.call.fail error true).unread =
          run.buffered.map .frame ++ [.raised error] := by
        rw [RpcCall.unread_fail open_.failure, unread_of_open open_]
      rw [CallRun.fail, RpcCall.failNow_eq, if_neg (by simp [closed])]
      by_cases full : run.call.full = true
      · rw [RpcCall.fail_of_full full] at promised ⊢
        refine sound.close_by closed _ sound.undated rfl rfl rfl rfl (Or.inr frames) ?_
          ⟨0, promised.trans (List.append_nil _).symm⟩
        have room : 0 < run.call.capacity ∧ run.call.capacity ≤ run.call.queue.length := by
          simpa [RpcCall.full] using full
        exact List.length_pos_iff.mp (room.1.trans_le room.2)
      · rw [RpcCall.fail_of_room full] at promised ⊢
        exact sound.close_by closed _ sound.undated rfl rfl rfl rfl (Or.inl rfl) (by simp)
          ⟨0, promised.trans (List.append_nil _).symm⟩

theorem close (sound : Sound run) : Sound run.close := by
  rw [close_eq]
  split_ifs with ended
  · exact sound
  · obtain ⟨closed, -⟩ := Bool.or_eq_false_iff.mp (Bool.eq_false_iff.mpr ended)
    have open_ := sound.whileOpen (sound.closing_of_open closed)
    refine sound.close_by closed _ sound.undated rfl rfl rfl rfl (Or.inl open_.failure)
      (by simp [RpcCall.close]) ⟨1, ?_⟩
    simp [RpcCall.unread, RpcCall.close, RpcCall.stopWatchers, open_.failure, Closing.promised,
      CallItem.reading]

/-- A frame is put into the queue. -/
theorem accept (sound : Sound run) (open_ : Open run) {frame : ResponseFrame} {inTime : Bool}
    (queue : call.queue = run.call.queue ++ [.frame frame]) (closed : call.closed = false)
    (failure : call.failure = none) (undated : call.hasDeadline = false)
    (unwatched : call.deadlineTask = false) (readers : call.readers = run.call.readers)
    (readings : call.readings = run.call.readings) (noted : run.closing = none) :
    Sound { run with call, inTime, accepted := run.accepted ++ [frame] } := by
  set next : CallRun := { run with call, inTime, accepted := run.accepted ++ [frame] }
  have outcomes : next.outcomes = run.outcomes := outcomes_same run readings
  have buffered : next.buffered = run.buffered ++ [frame] := by
    simp [CallRun.buffered, next, queue, CallItem.frame?]
  refine ⟨undated, unwatched, sound.unpassed, sound.unescaped, readers ▸ sound.single,
    fun _ _ => by simp [next, queue], Or.inl failure, fun _ => ?_, fun closing isNoted => ?_⟩
  · refine ⟨closed, failure, ?_, ?_, ?_⟩
    · rw [buffered, List.map_append, ← open_.queue]
      exact queue
    · rw [buffered, yielded, outcomes, ← List.append_assoc]
      exact congrArg (· ++ [frame]) open_.accepted
    · rw [outcomes]
      exact open_.quiet
  · exact absurd (noted.symm.trans isNoted) (by simp)

theorem push (sound : Sound run) (frame : ResponseFrame) (final : Bool) :
    Sound (run.push frame final) := by
  cases closed : run.call.closed with
  | true => rwa [push_of_closed closed]
  | false =>
      have noted := sound.closing_of_open closed
      have open_ := sound.whileOpen noted
      by_cases full : run.call.full = true
      · rw [push_of_full closed full, RpcCall.fail_draining]
        exact sound.close_by closed .overflowed sound.undated rfl rfl rfl rfl (Or.inl rfl)
          (List.cons_ne_nil _ _) ⟨0, rfl⟩
      · rw [push_of_room closed full]
        split_ifs with last
        · exact sound.accept open_ rfl closed open_.failure sound.undated rfl rfl rfl noted
        · exact sound.accept open_ rfl closed open_.failure sound.undated sound.unwatched rfl rfl
            noted

theorem leave (sound : Sound run) : Sound run.leave :=
  sound.untouched rfl rfl rfl rfl sound.undated sound.unwatched
    ((Nat.sub_le _ _).trans sound.single)
    fun ended waits => sound.waiting ended (waits.trans_le (Nat.sub_le _ _))

theorem step {action : CallAction} (sound : Sound run) (stepped : run.step action = some next) :
    Sound next := by
  cases action with
  | opened =>
      obtain ⟨-, stepped⟩ := Option.ite_none_right_eq_some.mp stepped
      obtain rfl := Option.some.inj stepped
      exact sound.untouched rfl rfl rfl rfl sound.undated sound.undated sound.single sound.waiting
  | push frame final =>
      obtain rfl := Option.some.inj stepped
      exact sound.push frame final
  | fail error =>
      obtain rfl := Option.some.inj stepped
      exact sound.fail error
  | close =>
      obtain ⟨-, stepped⟩ := Option.ite_none_right_eq_some.mp stepped
      obtain rfl := Option.some.inj stepped
      exact sound.close
  | read =>
      obtain ⟨⟨-, few⟩, stepped⟩ := Option.ite_none_right_eq_some.mp stepped
      obtain rfl := Option.some.inj stepped
      exact sound.read few
  | take =>
      simp only [CallRun.step] at stepped
      split at stepped
      · cases stepped
      · next item queue items =>
        obtain ⟨waits, stepped⟩ := Option.ite_none_right_eq_some.mp stepped
        obtain rfl := Option.some.inj stepped
        have last : run.call.readers - 1 = 0 := Nat.sub_eq_zero_of_le sound.single
        rw [last]
        exact sound.take items
  | readCancelled =>
      obtain ⟨-, stepped⟩ := Option.ite_none_right_eq_some.mp stepped
      obtain rfl := Option.some.inj stepped
      have closed := sound.leave.close
      exact closed.untouched rfl rfl rfl (outcomes_record_cancelled _) closed.undated
        closed.unwatched closed.single closed.waiting
  | passDeadline =>
      obtain ⟨dated, -⟩ := Option.ite_none_right_eq_some.mp stepped
      exact absurd (sound.undated.symm.trans dated) (by simp)
  | readTimedOut =>
      obtain ⟨⟨-, passed⟩, -⟩ := Option.ite_none_right_eq_some.mp stepped
      exact absurd (sound.unpassed.symm.trans passed) (by simp)
  | expire =>
      obtain ⟨⟨-, passed⟩, -⟩ := Option.ite_none_right_eq_some.mp stepped
      exact absurd (sound.unpassed.symm.trans passed) (by simp)

theorem of_starts (starts : Starts false run) : Sound run := by
  obtain ⟨key, capacity, hasParent, rfl⟩ := starts
  refine ⟨rfl, rfl, rfl, rfl, Nat.zero_le _, fun _ waits => absurd waits (lt_irrefl 0), Or.inl rfl,
    fun _ => ⟨rfl, rfl, rfl, rfl, ?_⟩, nofun⟩
  simp [outcomes]

theorem invariant : (system false).Invariant (fun _ _ => True) Sound where
  starts _ starts := of_starts starts
  preserved _ _ _ sound _ stepped := sound.step stepped

end Sound

/-- The next outcome of the iterator of a call that has ended. -/
def upcoming (run : CallRun) : Reading :=
  run.call.unread.headD .stopped

/-- The frames yielded are the first of those accepted.  Nothing is raised
before the call is closed, and what closes it fixes the rest: what was promised
then, and then stops.  No reader is left waiting at a call that has ended, and
`QueueFull` has left no method. -/
structure Ordered (run : CallRun) : Prop where
  yielded : run.yielded <+: run.accepted
  unescaped : run.escaped = false
  noted : run.call.closed = run.closing.isSome
  quiet : run.closing = none → ∀ error, .raised error ∉ run.outcomes
  closed : ∀ closing, run.closing = some closing →
    closing.before.filterMap Reading.frame? ++ closing.buffered = run.accepted ∧
      (∀ error, .raised error ∉ closing.before) ∧
      ∃ stops, run.outcomes ++ run.call.unread =
        closing.before ++ closing.promised ++ List.replicate stops .stopped
  reads : run.call.ended = true → run.call.opening = .returned → run.call.readers = 0 →
    ∃ next, run.step .read = some next ∧ next.outcomes = run.outcomes ++ [run.upcoming]
  wakes : run.call.ended = true → 0 < run.call.readers →
    ∃ next, run.step .take = some next ∧ next.outcomes = run.outcomes ++ [run.upcoming]

namespace Sound

theorem frames_promised (closing : Closing) :
    closing.promised.filterMap Reading.frame? <+: closing.buffered := by
  unfold Closing.promised
  split
  · rw [List.filterMap_append, List.filterMap_map]
    simp [Function.comp_def, Reading.frame?, List.filterMap_cons]
  · exact List.nil_prefix
  · exact List.nil_prefix

theorem yielded (sound : Sound run) : run.yielded <+: run.accepted := by
  cases noted : run.closing with
  | none => exact ⟨run.buffered, (sound.whileOpen noted).accepted⟩
  | some closing =>
      have shut := sound.sinceClosed closing noted
      obtain ⟨stops, fixed⟩ := shut.fixed
      have first : run.yielded <+:
          (closing.before ++ closing.promised ++ List.replicate stops Reading.stopped).filterMap
            Reading.frame? := by
        rw [← fixed, List.filterMap_append]
        exact List.prefix_append _ _
      have silent : (List.replicate stops Reading.stopped).filterMap Reading.frame? = [] := by
        simp [Reading.frame?]
      rw [List.filterMap_append, silent, List.append_nil, List.filterMap_append] at first
      refine first.trans ?_
      rw [← shut.accepted]
      exact (List.prefix_append_right_inj _).mpr (frames_promised closing)

theorem takes (sound : Sound run) {item : CallItem} {queue : List CallItem}
    (items : run.call.queue = item :: queue) (readers : Nat) :
    outcomes { run with call := ({ run.call with queue, readers } : RpcCall).take item } =
      run.outcomes ++ [run.upcoming] := by
  obtain ⟨closed, taken, -, -⟩ := RpcCall.take_eq sound.kept items readers
  rw [taken, outcomes_concat run item.reading (reading_ne_cancelled item) rfl]
  simp [upcoming, RpcCall.unread, items]

theorem reads (sound : Sound run) (ended : run.call.ended = true) :
    run.read.outcomes = run.outcomes ++ [run.upcoming] := by
  unfold CallRun.read
  split
  · next failure empty failed =>
    rw [outcomes_concat run (.raised failure) (by simp) rfl]
    simp [upcoming, RpcCall.unread, empty, failed]
  · next empty unfailed =>
    rw [if_pos ended, outcomes_concat run .stopped (by simp) rfl]
    simp [upcoming, RpcCall.unread, empty, unfailed]
  · next item queue _ items =>
    rw [if_neg (by simp [sound.unpassed])]
    exact sound.takes items run.call.readers

end Sound

/-- At a call without a deadline every run is in order. -/
theorem ordered_of_reachable (reached : (system false).Reachable run) : run.Ordered := by
  have sound := Sound.invariant.of_reachable reached
  refine ⟨sound.yielded, sound.unescaped, sound.closed_iff, fun noted =>
    (sound.whileOpen noted).quiet, fun closing noted => ?_, fun ended returned few => ?_,
    fun ended waits => ?_⟩
  · have shut := sound.sinceClosed closing noted
    exact ⟨shut.accepted, shut.quiet, shut.fixed⟩
  · exact ⟨run.read, if_pos ⟨returned, few⟩, sound.reads ended⟩
  · obtain ⟨item, queue, items⟩ := List.exists_cons_of_ne_nil (sound.waiting ended waits)
    refine ⟨_, ?_, sound.takes items (run.call.readers - 1)⟩
    simp only [step, items, if_pos waits]

/-- A queue of two frames is full when the call fails: both are yielded, then
the error is raised. -/
def failedWhileFull : List CallAction :=
  [.opened, .push ⟨[1], 0⟩ false, .push ⟨[2], 1⟩ false, .fail .disconnected, .read, .read, .read]

theorem ordered_failedWhileFull : ∃ run, (system false).run
    { call := {
        key := [], capacity := 2, hasDeadline := false, hasParent := false, opening := .sending } }
    failedWhileFull = some run ∧
      run.outcomes = [.frame ⟨[1], 0⟩, .frame ⟨[2], 1⟩, .raised .disconnected] ∧ run.Ordered := by
  refine ⟨_, rfl, by decide, ?_⟩
  exact ordered_of_reachable ((system false).reachable_of_run ⟨[], 2, false, rfl⟩
    failedWhileFull rfl)

end CallRun

end FitzClient
