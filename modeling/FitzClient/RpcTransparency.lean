import FitzClient.RpcExchange

/-!
# What the iterator of a call yields

The bodies that a worker has sent are those that the iterator has read,
followed by those in the queue of the call, followed by those on the wire.
What the caller's client does for other calls leaves the stream of this call
alone, and what it does for this call moves a body from one of the three places
to the next.
-/

namespace FitzClient

namespace RpcCaller

variable {caller before after : RpcCaller} {index : Nat} {call : RpcCall}

/-- The fields that the iterator depends on are the same. -/
structure SameStream (call later : RpcCall) : Prop where
  key : later.key = call.key
  opening : call.opening ≠ .raised → later.opening ≠ .raised
  queue : later.queue = call.queue
  closed : later.closed = call.closed
  terminal : later.terminal = call.terminal
  failure : later.failure = call.failure
  readings : later.readings = call.readings

theorem SameStream.refl (call : RpcCall) : SameStream call call :=
  ⟨rfl, id, rfl, rfl, rfl, rfl, rfl⟩

theorem SameStream.trans {call later last : RpcCall} (first : SameStream call later)
    (second : SameStream later last) : SameStream call last where
  key := second.key.trans first.key
  opening := second.opening ∘ first.opening
  queue := second.queue.trans first.queue
  closed := second.closed.trans first.closed
  terminal := second.terminal.trans first.terminal
  failure := second.failure.trans first.failure
  readings := second.readings.trans first.readings

/-- The call at this index keeps its stream. -/
def Keeps (index : Nat) (before after : RpcCaller) : Prop :=
  ∀ call, before.calls[index]? = some call →
    ∃ later, after.calls[index]? = some later ∧ SameStream call later

theorem Keeps.of_eq (same : after.calls[index]? = before.calls[index]?) :
    Keeps index before after :=
  fun call found => ⟨call, same.trans found, .refl call⟩

theorem Keeps.trans {last : RpcCaller} (first : Keeps index before after)
    (second : Keeps index after last) : Keeps index before last := by
  intro call found
  obtain ⟨middle, foundMiddle, same⟩ := first call found
  obtain ⟨later, foundLater, sameLater⟩ := second middle foundMiddle
  exact ⟨later, foundLater, same.trans sameLater⟩

theorem keeps_put_of_ne {other : Nat} (apart : other ≠ index) (caller : RpcCaller)
    (call : RpcCall) : Keeps index caller (caller.put other call) :=
  Keeps.of_eq (List.getElem?_set_ne apart)

theorem keeps_put_self {next : RpcCall} (found : caller.calls[index]? = some call)
    (same : SameStream call next) : Keeps index caller (caller.put index next) := by
  intro earlier foundEarlier
  obtain rfl := Option.some.inj (found.symm.trans foundEarlier)
  have bound : index < caller.calls.length := (List.getElem?_eq_some_iff.mp found).1
  exact ⟨next, List.getElem?_set_self bound, same⟩

theorem keeps_settleCancellation (caller : RpcCaller) (key : Bytes)
    (outcome : CancellationOutcome) :
    Keeps index caller (caller.settleCancellation key outcome) := by
  unfold settleCancellation
  split
  · exact Keeps.of_eq rfl
  · next other timer _ =>
    intro call found
    refine ⟨_, getElem?_modify_eq_some.mpr ⟨call, found, rfl⟩, ?_⟩
    split
    · exact ⟨rfl, id, rfl, rfl, rfl, rfl, rfl⟩
    · exact .refl call

theorem getElem?_fail_of_ne {other : Nat} (apart : other ≠ index) (caller : RpcCaller)
    (call : RpcCall) (error : CallError) (preserveBuffered : Bool) :
    (caller.fail other call error preserveBuffered).calls[index]? = caller.calls[index]? := by
  unfold fail
  split
  · rfl
  · simp only [put, calls_unlist, List.getElem?_set_ne apart]

theorem keeps_fail_of_ne {other : Nat} (apart : other ≠ index) (caller : RpcCaller)
    (call : RpcCall) (error : CallError) (preserveBuffered : Bool) :
    Keeps index caller (caller.fail other call error preserveBuffered) :=
  Keeps.of_eq (getElem?_fail_of_ne apart caller call error preserveBuffered)

theorem getElem?_push_of_ne {other : Nat} (apart : other ≠ index) (caller : RpcCaller)
    (call : RpcCall) (frame : ResponseFrame) (final : Bool) :
    (caller.push other call frame final).calls[index]? = caller.calls[index]? := by
  unfold push
  split_ifs
  · rfl
  · exact getElem?_fail_of_ne apart _ _ _ _
  · simp only [put, calls_unlist, List.getElem?_set_ne apart]
  · exact List.getElem?_set_ne apart

theorem keeps_push_of_ne {other : Nat} (apart : other ≠ index) (caller : RpcCaller)
    (call : RpcCall) (frame : ResponseFrame) (final : Bool) :
    Keeps index caller (caller.push other call frame final) :=
  Keeps.of_eq (getElem?_push_of_ne apart caller call frame final)

theorem keeps_closeAndCancel_of_ne {other : Nat} (apart : other ≠ index) (caller : RpcCaller)
    (call : RpcCall) (reason : Nat) :
    Keeps index caller (caller.closeAndCancel other call reason) := by
  unfold closeAndCancel abandonCall
  dsimp only
  split_ifs
  · exact keeps_put_of_ne apart _ _
  · exact Keeps.of_eq (by simp only [put, calls_unlist, List.getElem?_set_ne apart])
  · exact Keeps.of_eq (by simp only [put, calls_unlist, List.getElem?_set_ne apart])

/-- A method that would close the call finds it closed or terminal. -/
theorem keeps_closeAndCancel_of_ended {next : RpcCall}
    (found : caller.calls[index]? = some call) (same : SameStream call next)
    (ended : call.ended = true) (reason : Nat) :
    Keeps index caller (caller.closeAndCancel index next reason) := by
  have endedNext : next.ended = true := by
    rw [RpcCall.ended, same.closed, same.terminal]
    exact ended
  rw [closeAndCancel, if_pos endedNext]
  exact keeps_put_self found same

theorem keeps_onResponse (consistent : Consistent caller)
    (found : caller.calls[index]? = some call) {payload : Bytes}
    (others : ∀ message, ResponseMessage.parse payload = .ok message → message.key ≠ call.key) :
    Keeps index caller (caller.onResponse payload) := by
  unfold onResponse
  split
  · exact Keeps.of_eq rfl
  · next message parsed =>
    unfold deliver
    cases listed : caller.pending.lookup message.key with
    | none => exact Keeps.of_eq rfl
    | some other =>
        obtain ⟨receiver, foundReceiver, same⟩ := consistent.pendingKnown listed
        have apart : other ≠ index := by
          rintro rfl
          obtain rfl := Option.some.inj (found.symm.trans foundReceiver)
          exact others message parsed same.symm
        simp only [foundReceiver]
        split
        · exact keeps_fail_of_ne apart _ _ _ _
        · exact keeps_push_of_ne apart _ _ _ _

theorem keeps_onLifecycle (caller : RpcCaller) (payload : Bytes) :
    Keeps index caller (caller.onLifecycle payload) := by
  unfold onLifecycle
  split_ifs
  · split
    · exact Keeps.of_eq rfl
    · exact keeps_settleCancellation _ _ _
  · exact Keeps.of_eq rfl

theorem keeps_failPending {indices : List Nat} (absent : index ∉ indices) (caller : RpcCaller) :
    Keeps index caller (caller.failPending indices) := by
  induction indices generalizing caller with
  | nil => exact Keeps.of_eq rfl
  | cons head tail ih =>
      obtain ⟨apart, absent⟩ := List.ne_and_not_mem_of_not_mem_cons absent
      refine Keeps.trans ?_ (ih absent _)
      dsimp only
      split
      · exact Keeps.of_eq rfl
      · exact keeps_fail_of_ne (Ne.symm apart) _ _ _ _

theorem keeps_settleAll (keys : List Bytes) (caller : RpcCaller) :
    Keeps index caller (caller.settleAll keys) := by
  induction keys generalizing caller with
  | nil => exact Keeps.of_eq rfl
  | cons key keys ih => exact (keeps_settleCancellation caller key .connectionClosed).trans (ih _)

/-- A disconnect fails the listed calls, and a call that has ended is not
listed. -/
theorem keeps_disconnect (consistent : Consistent caller)
    (found : caller.calls[index]? = some call) (ended : call.ended = true) :
    Keeps index caller caller.disconnect := by
  have absent : index ∉ caller.pending.entries.map Sigma.snd := by
    intro member
    obtain ⟨⟨key, other⟩, entry, same⟩ := List.mem_map.mp member
    obtain rfl : other = index := same
    have listed : caller.pending.lookup key = some other := AList.mem_lookup_iff.mpr entry
    obtain ⟨owner, foundOwner, rfl⟩ := consistent.pendingKnown listed
    obtain rfl := Option.some.inj (found.symm.trans foundOwner)
    have unended := ((consistent.tracked found).pending _ listed).2
    exact absurd (ended.symm.trans unended) (by simp)
  set failed := caller.failPending (caller.pending.entries.map Sigma.snd)
  have cleared : Keeps index failed { failed with pending := ∅ } := Keeps.of_eq rfl
  exact (keeps_failPending absent caller).trans (cleared.trans (keeps_settleAll _ _))

/-- The transition neither brings a response of the call, nor reads it, nor ends
it. -/
def Foreign (index : Nat) (call : RpcCall) : RpcCallerAction → Prop
  | .response payload => ∀ message, ResponseMessage.parse payload = .ok message →
      message.key ≠ call.key
  | .read other _ | .take other | .sendRaised other | .readCancelled other
  | .readTimedOut other => other ≠ index
  | .close other | .deadline other | .parentCancelled other => other = index → call.ended = true
  | .disconnect => call.ended = true
  | _ => True

theorem keeps_step {capacity : Nat} {action : RpcCallerAction} (consistent : Consistent before)
    (found : before.calls[index]? = some call) (foreign : Foreign index call action)
    (stepped : step capacity before action = some after) : Keeps index before after := by
  cases action with
  | openCall key route body budget parent =>
      obtain ⟨-, stepped⟩ := Option.ite_none_right_eq_some.mp stepped
      obtain rfl := Option.some.inj stepped
      have bound : index < before.calls.length := (List.getElem?_eq_some_iff.mp found).1
      exact Keeps.of_eq (List.getElem?_append_left bound)
  | response payload =>
      obtain rfl := Option.some.inj stepped
      exact keeps_onResponse consistent found foreign
  | lifecycle payload =>
      obtain rfl := Option.some.inj stepped
      exact keeps_onLifecycle before payload
  | graceExpired timer =>
      obtain ⟨handle, -, fired⟩ := Option.bind_eq_some_iff.mp stepped
      obtain ⟨-, fired⟩ := Option.ite_none_right_eq_some.mp fired
      obtain rfl := Option.some.inj fired
      have rearmed : Keeps index before { before with
          timers := before.timers.set timer { handle with status := .fired } } := Keeps.of_eq rfl
      exact rearmed.trans (keeps_settleCancellation _ _ _)
  | disconnect =>
      obtain rfl := Option.some.inj stepped
      exact keeps_disconnect consistent found foreign
  | sendReturned other =>
      obtain ⟨mover, foundMover, stepped⟩ := Option.bind_eq_some_iff.mp stepped
      obtain ⟨-, stepped⟩ := Option.ite_none_right_eq_some.mp stepped
      obtain rfl := Option.some.inj stepped
      by_cases same : other = index
      · subst same
        exact keeps_put_self foundMover ⟨rfl, fun _ => by simp, rfl, rfl, rfl, rfl, rfl⟩
      · exact keeps_put_of_ne same _ _
  | sendRaised other =>
      obtain ⟨mover, -, stepped⟩ := Option.bind_eq_some_iff.mp stepped
      obtain ⟨-, stepped⟩ := Option.ite_none_right_eq_some.mp stepped
      obtain rfl := Option.some.inj stepped
      exact Keeps.of_eq (List.getElem?_set_ne foreign)
  | read other expired =>
      obtain ⟨mover, -, stepped⟩ := Option.bind_eq_some_iff.mp stepped
      obtain ⟨-, stepped⟩ := Option.ite_none_right_eq_some.mp stepped
      obtain rfl := Option.some.inj stepped
      have apart : other ≠ index := foreign
      unfold read
      split
      · exact keeps_put_of_ne apart _ _
      · split_ifs
        · exact keeps_put_of_ne apart _ _
        · exact keeps_closeAndCancel_of_ne apart _ _ _
        · exact keeps_put_of_ne apart _ _
  | take other =>
      obtain ⟨mover, -, stepped⟩ := Option.bind_eq_some_iff.mp stepped
      simp only [stepCall] at stepped
      split at stepped
      · cases stepped
      · obtain ⟨-, stepped⟩ := Option.ite_none_right_eq_some.mp stepped
        obtain rfl := Option.some.inj stepped
        exact keeps_put_of_ne foreign _ _
  | readCancelled other | readTimedOut other =>
      obtain ⟨mover, -, stepped⟩ := Option.bind_eq_some_iff.mp stepped
      obtain ⟨-, stepped⟩ := Option.ite_none_right_eq_some.mp stepped
      obtain rfl := Option.some.inj stepped
      exact keeps_closeAndCancel_of_ne foreign _ _ _
  | close other =>
      obtain ⟨mover, foundMover, stepped⟩ := Option.bind_eq_some_iff.mp stepped
      obtain ⟨-, stepped⟩ := Option.ite_none_right_eq_some.mp stepped
      obtain rfl := Option.some.inj stepped
      by_cases same : other = index
      · obtain rfl := same
        obtain rfl := Option.some.inj (found.symm.trans foundMover)
        exact keeps_closeAndCancel_of_ended found (.refl call) (foreign rfl) 1
      · exact keeps_closeAndCancel_of_ne same _ _ _
  | deadline other =>
      obtain ⟨mover, foundMover, stepped⟩ := Option.bind_eq_some_iff.mp stepped
      obtain ⟨-, stepped⟩ := Option.ite_none_right_eq_some.mp stepped
      by_cases same : other = index
      · obtain rfl := same
        obtain rfl := Option.some.inj (found.symm.trans foundMover)
        rw [if_pos (foreign rfl)] at stepped
        obtain rfl := Option.some.inj stepped
        exact keeps_put_self found ⟨rfl, id, rfl, rfl, rfl, rfl, rfl⟩
      · split at stepped <;> obtain rfl := Option.some.inj stepped
        · exact keeps_put_of_ne same _ _
        · exact keeps_closeAndCancel_of_ne same _ _ _
  | parentCancelled other =>
      obtain ⟨mover, foundMover, stepped⟩ := Option.bind_eq_some_iff.mp stepped
      obtain ⟨-, stepped⟩ := Option.ite_none_right_eq_some.mp stepped
      obtain rfl := Option.some.inj stepped
      by_cases same : other = index
      · obtain rfl := same
        obtain rfl := Option.some.inj (found.symm.trans foundMover)
        refine keeps_closeAndCancel_of_ended found ?_ (foreign rfl) 1
        exact ⟨rfl, id, rfl, rfl, rfl, rfl, rfl⟩
      · exact keeps_closeAndCancel_of_ne same _ _ _
  | cancellationSent other outcome =>
      obtain ⟨mover, foundMover, stepped⟩ := Option.bind_eq_some_iff.mp stepped
      obtain ⟨-, stepped⟩ := Option.ite_none_right_eq_some.mp stepped
      obtain rfl := Option.some.inj stepped
      have sent : Keeps index before (before.put other { mover with abandoning := none }) := by
        by_cases same : other = index
        · obtain rfl := same
          exact keeps_put_self foundMover ⟨rfl, id, rfl, rfl, rfl, rfl, rfl⟩
        · exact keeps_put_of_ne same _ _
      cases outcome with
      | returned | cancelled => exact sent
      | disconnected | failed => exact sent.trans (keeps_settleCancellation _ _ _)
  | cancelAwaiter other =>
      obtain ⟨mover, foundMover, stepped⟩ := Option.bind_eq_some_iff.mp stepped
      obtain rfl := Option.some.inj stepped
      by_cases same : other = index
      · obtain rfl := same
        exact keeps_put_self foundMover ⟨rfl, id, rfl, rfl, rfl, rfl, rfl⟩
      · exact keeps_put_of_ne same _ _

end RpcCaller

/-- What the iterator makes of an item. -/
def CallItem.reading : CallItem → Reading
  | .frame response => .frame response
  | .error exception => .raised exception
  | .stop => .stopped

namespace RpcCall

variable {call : RpcCall} {received : List ResponseBody} {item : CallItem} {queue : List CallItem}

/-- What the iterator has still to read. -/
def unread (call : RpcCall) : List Reading :=
  call.queue.map CallItem.reading ++ (call.failure.map Reading.raised).toList

/-- The queue holds frames, and after them the error of a call that is closed,
unless there was no room for it. -/
structure Ready (call : RpcCall) : Prop where
  items : ∀ item ∈ call.queue, item ≠ .stop
  frames : call.FramesOnly
  kept : call.failure = none ∨
    call.closed = true ∧ ∀ item ∈ call.queue, ∃ frame, item = .frame frame

theorem ready_take (ready : Ready call) (items : call.queue = item :: queue) (readers : Nat) :
    ({ call with queue, readers }.take item).readings = call.readings ++ [item.reading] ∧
      ({ call with queue, readers }.take item).queue = queue ∧
      ({ call with queue, readers }.take item).failure = call.failure ∧
      ({ call with queue, readers }.take item).closed = call.closed ∧
      ({ call with queue, readers }.take item).terminal = call.terminal := by
  cases item with
  | frame frame => exact ⟨rfl, rfl, rfl, rfl, rfl⟩
  | error error =>
      have closed : call.closed = true := by
        by_contra open_
        obtain ⟨frame, same⟩ := ready.frames (by simpa using open_) (.error error) (by simp [items])
        cases same
      have unkept : call.failure = none := by
        refine ready.kept.resolve_right fun kept => ?_
        obtain ⟨frame, same⟩ := kept.2 (.error error) (by simp [items])
        cases same
      exact ⟨rfl, rfl, unkept.symm, closed.symm, rfl⟩
  | stop => exact absurd rfl (ready.items .stop (by simp [items]))

theorem Ready.tail (ready : Ready call) (items : call.queue = item :: queue) {next : RpcCall}
    (rest : next.queue = queue) (failure : next.failure = call.failure)
    (closed : next.closed = call.closed) : Ready next where
  items other member := ready.items other (by
    rw [items]
    exact List.mem_cons_of_mem _ (rest ▸ member))
  frames open_ other member := ready.frames (closed.symm.trans open_) other (by
    rw [items]
    exact List.mem_cons_of_mem _ (rest ▸ member))
  kept := by
    rw [failure, closed]
    refine ready.kept.imp_right fun kept => ⟨kept.1, fun other member => kept.2 other ?_⟩
    rw [items]
    exact List.mem_cons_of_mem _ (rest ▸ member)

theorem Ready.untouched (ready : Ready call) {next : RpcCall} (rest : next.queue = call.queue)
    (failure : next.failure = call.failure) (closed : next.closed = call.closed) :
    Ready next where
  items := by rw [rest]; exact ready.items
  frames open_ := by rw [rest]; exact ready.frames (closed.symm.trans open_)
  kept := by rw [rest, failure, closed]; exact ready.kept

theorem fail_preserving (call : RpcCall) (error : CallError) : call.fail error true =
    { call.stopWatchers with
      closed := true, cancellation := call.cancellation.resolve error.outcome }.putError error :=
  rfl

theorem readings_fail (call : RpcCall) (error : CallError) :
    (call.fail error true).readings = call.readings := by
  rw [fail_preserving, putError]
  split <;> rfl

/-- The error of a call comes after its frames. -/
theorem unread_fail (unfailed : call.failure = none) (error : CallError) :
    (call.fail error true).unread = call.unread ++ [.raised error] := by
  rw [fail_preserving, putError]
  split <;> simp [unread, unfailed, stopWatchers, CallItem.reading]

theorem ready_fail (frames : ∀ item ∈ call.queue, ∃ frame, item = .frame frame)
    (error : CallError) : Ready (call.fail error true) := by
  have unstopped : ∀ item ∈ call.queue, item ≠ .stop := by
    rintro item member rfl
    obtain ⟨frame, same⟩ := frames _ member
    cases same
  rw [fail_preserving, putError]
  split
  · exact ⟨unstopped, framesOnly_of_closed rfl, Or.inr ⟨rfl, frames⟩⟩
  · refine ⟨fun item member => ?_, framesOnly_of_closed rfl, Or.inl rfl⟩
    rcases List.mem_append.mp member with old | last
    · exact unstopped item old
    · obtain rfl := List.mem_singleton.mp last
      simp

/-- A frame is put into the queue of a call that is not closed. -/
theorem Ready.concat (ready : Ready call) (unfailed : call.failure = none) (frame : ResponseFrame)
    {next : RpcCall} (queue : next.queue = call.queue ++ [.frame frame])
    (failure : next.failure = call.failure) (closed : next.closed = call.closed) :
    Ready next where
  items item member := by
    rw [queue] at member
    rcases List.mem_append.mp member with old | last
    · exact ready.items item old
    · obtain rfl := List.mem_singleton.mp last
      simp
  frames := ready.frames.concat frame closed queue
  kept := Or.inl (failure.trans unfailed)

/-- The iterator has read a part of the bodies received, and then stopped any
number of times; the rest is unread. -/
structure Reads (call : RpcCall) (received : List ResponseBody) : Prop where
  ready : Ready call
  ended : call.ended = received.any (·.final)
  readings : ∃ done stops, call.readings = done ++ List.replicate stops .stopped ∧
    done ++ call.unread = received.mapIdx ResponseBody.reading ∧
    (0 < stops → call.ended = true ∧ call.unread = [])

namespace Reads

theorem same {later : RpcCall} (reads : Reads call received)
    (same : RpcCaller.SameStream call later) : Reads later received where
  ready := reads.ready.untouched same.queue same.failure same.closed
  ended := by
    rw [RpcCall.ended, same.closed, same.terminal]
    exact reads.ended
  readings := by
    rw [unread, same.queue, same.failure, same.readings, RpcCall.ended, same.closed, same.terminal]
    exact reads.readings

/-- A call that has not ended receives a body. -/
theorem concat {later : RpcCall} {body : ResponseBody} (reads : Reads call received)
    (open_ : call.ended = false) (ready : Ready later) (ended : later.ended = body.final)
    (readings : later.readings = call.readings)
    (unread : later.unread = call.unread ++ [body.reading received.length]) :
    Reads later (received ++ [body]) where
  ready := ready
  ended := by
    have none : received.any (·.final) = false := reads.ended.symm.trans open_
    rw [List.any_append, none, ended]
    simp
  readings := by
    obtain ⟨done, stops, read, rest, stopped⟩ := reads.readings
    obtain rfl : stops = 0 := by
      by_contra positive
      exact absurd (open_.symm.trans (stopped (by omega)).1) (by simp)
    refine ⟨done, 0, readings.trans read, ?_, fun positive => absurd positive (by simp)⟩
    rw [unread, ← List.append_assoc, rest, List.mapIdx_concat]

/-- An item is read. -/
theorem take (reads : Reads call received) (items : call.queue = item :: queue) (readers : Nat) :
    Reads ({ call with queue, readers }.take item) received := by
  obtain ⟨readings, rest, failure, closed, terminal⟩ := ready_take reads.ready items readers
  have unreadBefore : call.unread = item.reading ::
      ({ call with queue, readers }.take item).unread := by
    simp only [unread, rest, failure, items, List.map_cons, List.cons_append]
  refine ⟨reads.ready.tail items rest failure closed, ?_, ?_⟩
  · rw [RpcCall.ended, closed, terminal]
    exact reads.ended
  · obtain ⟨done, stops, read, whole, stopped⟩ := reads.readings
    obtain rfl : stops = 0 := by
      by_contra positive
      rw [unreadBefore] at stopped
      exact absurd (stopped (by omega)).2 (by simp)
    refine ⟨done ++ [item.reading], 0, ?_, ?_, fun positive => absurd positive (by simp)⟩
    · rw [readings, read]
      simp
    · rw [List.append_assoc, List.singleton_append, ← unreadBefore]
      exact whole

end Reads

end RpcCall

namespace RpcCaller

variable {caller : RpcCaller} {index : Nat} {call : RpcCall} {received : List ResponseBody}

theorem found_put (found : caller.calls[index]? = some call) (next : RpcCall) :
    (caller.put index next).calls[index]? = some next :=
  List.getElem?_set_self (List.getElem?_eq_some_iff.mp found).1

theorem read_of_failure {failure : CallError} (empty : call.queue = [])
    (failed : call.failure = some failure) : caller.read index call false =
      caller.put index { call.record (.raised failure) with failure := none } := by
  simp [read, empty, failed]

theorem read_of_ended (empty : call.queue = []) (unfailed : call.failure = none)
    (ended : call.ended = true) :
    caller.read index call false = caller.put index (call.record .stopped) := by
  simp [read, empty, unfailed, ended]

theorem read_of_waiting (waits : call.queue ≠ [] ∨ call.failure = none ∧ call.ended = false) :
    caller.read index call false = caller.put index { call with readers := call.readers + 1 } := by
  unfold read
  split
  · next empty failed => simp [empty, failed] at waits
  · rcases waits with filled | ⟨-, open_⟩
    · simp [filled]
    · simp [open_]

theorem reads_read (found : caller.calls[index]? = some call) (reads : call.Reads received) :
    ∃ next, (caller.read index call false).calls[index]? = some next ∧ next.key = call.key ∧
      next.opening = call.opening ∧ next.Reads received := by
  obtain ⟨done, stops, readings, whole, stopped⟩ := reads.readings
  by_cases waits : call.queue ≠ [] ∨ call.failure = none ∧ call.ended = false
  · rw [read_of_waiting waits]
    exact ⟨_, found_put found _, rfl, rfl, reads.ready.untouched rfl rfl rfl, reads.ended,
      reads.readings⟩
  · obtain ⟨empty, ends⟩ := not_or.mp waits
    rw [not_not] at empty
    cases failed : call.failure with
    | some failure =>
        rw [read_of_failure empty failed]
        have unread : call.unread = [.raised failure] := by simp [RpcCall.unread, empty, failed]
        rw [unread] at whole stopped
        obtain rfl : stops = 0 := by
          by_contra positive
          exact absurd (stopped (by omega)).2 (by simp)
        refine ⟨_, found_put found _, rfl, rfl,
          ⟨reads.ready.items, reads.ready.frames, Or.inl rfl⟩, reads.ended,
          done ++ [.raised failure], 0, ?_, ?_, fun positive => absurd positive (by simp)⟩
        · simp [RpcCall.record, readings]
        · simpa [RpcCall.unread, RpcCall.record, empty] using whole
    | none =>
        have ended : call.ended = true := by simpa [failed] using ends
        rw [read_of_ended empty failed ended]
        have unread : call.unread = [] := by simp [RpcCall.unread, empty, failed]
        refine ⟨_, found_put found _, rfl, rfl, reads.ready.untouched rfl rfl rfl, reads.ended,
          done, stops + 1, ?_, whole, fun _ => ⟨ended, unread⟩⟩
        rw [RpcCall.record, readings, List.append_assoc, List.replicate_succ']

theorem step_read (capacity : Nat) (found : caller.calls[index]? = some call)
    (returned : call.opening = .returned) :
    (system capacity).step caller (.read index false) = some (caller.read index call false) := by
  simp [system, step, found, stepCall, returned]

theorem step_take (capacity : Nat) (found : caller.calls[index]? = some call) {item : CallItem}
    {queue : List CallItem} (items : call.queue = item :: queue) (reading : 0 < call.readers) :
    (system capacity).step caller (.take index) =
      some (caller.put index ({ call with queue, readers := call.readers - 1 }.take item)) := by
  simp [system, step, found, stepCall, items, reading]

/-- A response of the call is put into its queue. -/
theorem reads_deliver (consistent : caller.Consistent) (found : caller.calls[index]? = some call)
    (opened : call.opening ≠ .raised) (open_ : call.ended = false) (reads : call.Reads received)
    (message : ResponseMessage) (key : message.key = call.key)
    (sequence : message.sequence = received.length)
    (room : call.full = true → message.final = true ∧ (decodeTerminalError message.body).isSome) :
    ∃ next, (caller.deliver message).calls[index]? = some next ∧ next.key = call.key ∧
      next.opening = call.opening ∧
      next.Reads (received ++ [{ body := message.body, final := message.final }]) := by
  obtain ⟨unclosed, unfinished⟩ := Bool.or_eq_false_iff.mp open_
  have unfailed : call.failure = none :=
    reads.ready.kept.resolve_right fun kept => absurd (kept.1.symm.trans unclosed) (by simp)
  have frames := reads.ready.frames unclosed
  have listed : caller.pending.lookup message.key = some index := by
    rw [key]
    exact (consistent.tracked found).listed opened open_
  have unlisted : ∀ next, ((caller.unlist index call).put index next).calls[index]? = some next :=
    fun next => found_put (by rw [calls_unlist]; exact found) next
  unfold deliver
  simp only [listed, found]
  split
  · next error decoded =>
    have final : message.final = true := by
      by_contra unended
      simp [unended] at decoded
    rw [if_pos final] at decoded
    have reading : ({ body := message.body, final := message.final } : ResponseBody).reading
        received.length = .raised (.rpc error) := by
      simp [ResponseBody.reading, final, decoded]
    rw [fail, if_neg (by simp [unclosed])]
    refine ⟨call.fail (.rpc error) true, unlisted _, RpcCall.key_fail _ _ _,
      RpcCall.opening_fail _ _ _, reads.concat open_ (RpcCall.ready_fail frames _) ?_
        (RpcCall.readings_fail call _) ?_⟩
    · simp [RpcCall.ended, final]
    · rw [reading]
      exact RpcCall.unread_fail unfailed _
  · next undecoded =>
    have room : call.full = false := by
      by_contra full
      obtain ⟨final, decodes⟩ := room (by simpa using full)
      rw [if_pos final] at undecoded
      simp [undecoded] at decodes
    have reading : ({ body := message.body, final := message.final } : ResponseBody).reading
        received.length = .frame { message with } := by
      simp only [ResponseBody.reading, undecoded, sequence]
    rw [push, if_neg (by simp [unclosed]), if_neg (by simp [room])]
    split
    · next final =>
      refine ⟨call.finish { message with }, unlisted _, rfl, rfl,
        reads.concat open_ (reads.ready.concat unfailed _ rfl rfl rfl) ?_ rfl ?_⟩
      · simp [RpcCall.ended, RpcCall.finish, final]
      · rw [reading]
        simp [RpcCall.unread, RpcCall.finish, RpcCall.stopWatchers, unfailed, CallItem.reading]
    · next more =>
      refine ⟨_, found_put found _, rfl, rfl,
        reads.concat open_ (reads.ready.concat unfailed { message with } rfl rfl rfl) ?_ rfl ?_⟩
      · exact open_.trans (by simpa using more)
      · rw [reading]
        simp [RpcCall.unread, unfailed, CallItem.reading]

/-- Once a call has ended, a reader comes to its end. -/
theorem reads_to_end (capacity : Nat) (found : caller.calls[index]? = some call)
    (returned : call.opening = .returned) (ended : call.ended = true) (ready : call.Ready) :
    ∃ actions after last, (∀ action ∈ actions, action = .read index false ∨ action = .take index) ∧
      (system capacity).run caller actions = some after ∧ after.calls[index]? = some last ∧
      last.readings = call.readings ++ call.unread ++ [.stopped] := by
  generalize items : call.queue = queue
  induction queue generalizing caller call with
  | nil =>
      cases failed : call.failure with
      | none =>
          refine ⟨[.read index false], _, _, by simp, ?_,
            found_put found (call.record .stopped), ?_⟩
          · rw [LabelledSystem.run, step_read capacity found returned,
              read_of_ended items failed ended]
            rfl
          · simp [RpcCall.record, RpcCall.unread, items, failed]
      | some failure =>
          set raised : RpcCall := { call.record (.raised failure) with failure := none } with after
          have raises := found_put found raised
          have stops : (caller.put index raised).read index raised false =
              (caller.put index raised).put index (raised.record .stopped) :=
            read_of_ended items rfl ended
          refine ⟨[.read index false, .read index false], _, _, by simp, ?_,
            found_put raises (raised.record .stopped), ?_⟩
          · rw [LabelledSystem.run, step_read capacity found returned, read_of_failure items failed,
              Option.bind_some, LabelledSystem.run, step_read capacity raises returned, stops]
            rfl
          · simp [after, RpcCall.record, RpcCall.unread, items, failed]
  | cons item queue ih =>
      set waiting : RpcCall := { call with readers := call.readers + 1 }
      have waits := found_put found waiting
      have readyWaiting : waiting.Ready := ready.untouched rfl rfl rfl
      obtain ⟨readings, rest, failure, closed, terminal⟩ :=
        RpcCall.ready_take readyWaiting items (waiting.readers - 1)
      set taken := { waiting with queue, readers := waiting.readers - 1 }.take item with takes
      have opening : taken.opening = .returned := (RpcCall.opening_take _ item).trans returned
      have endedTaken : taken.ended = true := by
        rw [RpcCall.ended, closed, terminal]
        exact ended
      obtain ⟨actions, after, last, only, ran, foundLast, whole⟩ :=
        ih (found_put waits taken) opening endedTaken
          (readyWaiting.tail items rest failure closed) rest
      refine ⟨.read index false :: .take index :: actions, after, last, ?_, ?_, foundLast, ?_⟩
      · simpa using only
      · rw [LabelledSystem.run, step_read capacity found returned,
          read_of_waiting (Or.inl (by simp [items])), Option.bind_some, LabelledSystem.run,
          step_take capacity waits items (Nat.succ_pos _)]
        exact ran
      · rw [whole, readings]
        simp [RpcCall.unread, rest, failure, items, waiting]

end RpcCaller

/-- The caller finds in a RESPONSE what the writer has put into it. -/
theorem ResponseWriter.parse_payload {writer : ResponseWriter} {sent : ResponseBody}
    {payload : Bytes} (width : writer.correlationId.length = 16)
    (built : writer.payload sent = .ok payload) :
    ResponseMessage.parse payload = .ok {
      key := writer.correlationId
      sequence := writer.sequence
      final := sent.final
      body := sent.body } := by
  simp only [ResponseWriter.payload, BufferWriter.writeU64, BufferWriter.writeU8,
    BufferWriter.writeU32, BufferWriter.writeNumber_bind_eq_ok_iff] at built
  obtain ⟨sequence, flag, body, built⟩ := built
  have layout : payload = writer.correlationId ++ (BigEndian.encode 8 writer.sequence ++
      (BigEndian.encode 1 sent.final.toNat ++ (BigEndian.encode 4 sent.body.length ++
        (sent.body ++ [])))) := by
    rw [← Except.ok.inj built]
    simp
  have read : ResponseMessage.read payload = .ok (.ok {
      key := writer.correlationId
      sequence := writer.sequence
      final := sent.final
      body := sent.body }, []) := by
    rw [ResponseMessage.read, layout,
      BufferReader.bind_of_ok (BufferReader.readBytes_eq_ok_iff.mpr ⟨rfl, width⟩),
      BufferReader.readU64, BufferReader.bind_of_ok (BufferReader.readNumber_encode sequence _),
      BufferReader.readU8, BufferReader.bind_of_ok (BufferReader.readNumber_encode flag _)]
    have bit : ¬1 < sent.final.toNat := by cases sent.final <;> simp
    simp only [bit, if_false, BufferReader.readU32]
    rw [BufferReader.bind_of_ok (BufferReader.readNumber_encode body _),
      BufferReader.bind_of_ok (BufferReader.readBytes_append _ _)]
    have same : decide (sent.final.toNat = 1) = sent.final := by cases sent.final <;> rfl
    simp only [same]
    rfl
  rw [ResponseMessage.parse, read]

/-- What `send` does when it does not raise. -/
theorem ResponseWriter.send_eq_ok {writer next : ResponseWriter} {generation : Nat}
    {sent : ResponseBody} {payload : Bytes}
    (done : writer.send generation sent = .ok (next, payload)) :
    writer.ended = false ∧ writer.payload sent = .ok payload ∧
      next = { writer with sequence := writer.sequence + 1, ended := sent.final } := by
  unfold ResponseWriter.send at done
  split_ifs at done with stale
  · cases done
  · cases built : writer.payload sent with
    | error error =>
        rw [built] at done
        cases done
    | ok bytes =>
        rw [built] at done
        obtain ⟨rfl, rfl⟩ := Prod.mk.inj (Except.ok.inj done)
        exact ⟨by simpa using (not_or.mp stale).1, rfl, rfl⟩

namespace RpcExchange

variable {exchange before after : RpcExchange} {index : Nat}

/-- The bodies sent are those that the call has received, followed by those on
the wire. -/
structure Stream (index : Nat) (exchange : RpcExchange) : Prop where
  consistent : exchange.caller.Consistent
  sequence : exchange.writer.sequence = exchange.sent.length
  ended : exchange.writer.ended = exchange.sent.any (·.final)
  finals : ∀ body ∈ exchange.sent.dropLast, body.final = false
  call : ∃ call received waiting, exchange.caller.calls[index]? = some call ∧
    call.key = exchange.writer.correlationId ∧ call.opening ≠ .raised ∧
    exchange.sent = received ++ waiting ∧ call.Reads received ∧
    exchange.wire.map ResponseMessage.parse = waiting.mapIdx fun place body => .ok {
      key := exchange.writer.correlationId
      sequence := received.length + place
      final := body.final
      body := body.body }

namespace Stream

theorem starts {capacity : Nat} (starts : Starts capacity index exchange) :
    Stream index exchange := by
  have consistent := (RpcCaller.consistent_invariant capacity).of_reachable starts.reachable
  obtain ⟨call, found, opened, open_, queue, unfailed, readings, writer⟩ := starts.opened
  refine ⟨consistent, by simp [writer, starts.sent], by simp [writer, starts.sent],
    by simp [starts.sent], call, [], [], found, by simp [writer], opened, by simp [starts.sent], ?_,
    by simp [starts.wire]⟩
  refine ⟨⟨by simp [queue], (consistent.tracked found).frames, Or.inl unfailed⟩, by simp [open_],
    [], 0, by simp [readings], by simp [RpcCall.unread, queue, unfailed],
    fun positive => absurd positive (by simp)⟩

/-- The worker sends a body. -/
theorem send (stream : Stream index before) {sent : ResponseBody}
    (sends : before.send sent = some after) : Stream index after := by
  unfold RpcExchange.send at sends
  split at sends
  · cases sends
  · next writer payload done =>
    obtain rfl := Option.some.inj sends
    obtain ⟨unended, built, rfl⟩ := ResponseWriter.send_eq_ok done
    obtain ⟨call, received, waiting, found, key, opened, split, reads, wire⟩ := stream.call
    have width : before.writer.correlationId.length = 16 :=
      key ▸ (stream.consistent.tracked found).width
    have none : before.sent.any (·.final) = false := stream.ended.symm.trans unended
    refine ⟨stream.consistent, ?_, ?_, ?_, call, received, waiting ++ [sent], found, key, opened,
      ?_, reads, ?_⟩
    · simp [stream.sequence]
    · simp [none]
    · simpa using none
    · simp [split]
    · rw [List.map_append, wire, List.mapIdx_concat]
      simp [ResponseWriter.parse_payload width built, stream.sequence, split]

/-- The caller's client does something else. -/
theorem keeps (stream : Stream index before) {caller : RpcCaller} (consistent : caller.Consistent)
    (keeps : RpcCaller.Keeps index before.caller caller) :
    Stream index { before with caller } := by
  obtain ⟨call, received, waiting, found, key, opened, split, reads, wire⟩ := stream.call
  obtain ⟨later, foundLater, same⟩ := keeps call found
  exact ⟨consistent, stream.sequence, stream.ended, stream.finals, later, received, waiting,
    foundLater, same.key.trans key, same.opening opened, split, reads.same same, wire⟩

/-- The iterator of the call reads. -/
theorem reads (stream : Stream index before) {caller : RpcCaller} (consistent : caller.Consistent)
    (reads : ∀ call received, before.caller.calls[index]? = some call →
      call.Reads received → ∃ next, caller.calls[index]? = some next ∧ next.key = call.key ∧
        next.opening = call.opening ∧ next.Reads received) :
    Stream index { before with caller } := by
  obtain ⟨call, received, waiting, found, key, opened, split, readsBefore, wire⟩ := stream.call
  obtain ⟨next, foundNext, keyNext, openingNext, readsNext⟩ := reads call received found readsBefore
  exact ⟨consistent, stream.sequence, stream.ended, stream.finals, next, received, waiting,
    foundNext, keyNext.trans key, openingNext ▸ opened, split, readsNext, wire⟩

/-- The first message on the wire arrives. -/
theorem deliver (stream : Stream index before) {payload : Bytes} {wire : List Bytes}
    (front : before.wire = payload :: wire)
    (undisturbed : Undisturbed index before .deliver) :
    Stream index { before with caller := before.caller.onResponse payload, wire } := by
  obtain ⟨call, received, waiting, found, key, opened, split, reads, parsed⟩ := stream.call
  cases waiting with
  | nil => simp [front] at parsed
  | cons body waiting =>
      rw [front, List.map_cons, List.mapIdx_cons] at parsed
      obtain ⟨parses, rest⟩ := List.cons.inj parsed
      -- only the last body is final, so the call has not ended
      have unfinished : received.any (·.final) = false := by
        rw [List.any_eq_false]
        intro earlier member
        have notLast : earlier ∈ before.sent.dropLast := by
          rw [split, List.dropLast_append_of_ne_nil (by simp)]
          exact List.mem_append_left _ member
        simp [stream.finals earlier notLast]
      have open_ : call.ended = false := reads.ended.trans unfinished
      have delivers : before.caller.onResponse payload = before.caller.deliver {
          key := before.writer.correlationId
          sequence := received.length
          final := body.final
          body := body.body } := by
        rw [RpcCaller.onResponse, parses]
        rfl
      obtain ⟨next, foundNext, keyNext, openingNext, readsNext⟩ :=
        RpcCaller.reads_deliver stream.consistent found opened open_ reads {
          key := before.writer.correlationId
          sequence := received.length
          final := body.final
          body := body.body } key.symm rfl fun full =>
            undisturbed call found payload (by simp [front]) _ (by rw [parses]; rfl) full
      rw [delivers]
      refine ⟨stream.consistent.deliver _, stream.sequence, stream.ended, stream.finals, next,
        received ++ [body], waiting, foundNext, keyNext.trans key, openingNext ▸ opened, ?_,
        readsNext, ?_⟩
      · simp [split]
      · rw [rest]
        refine congrArg (List.mapIdx · waiting) ?_
        funext place later
        simp only [List.length_append, List.length_singleton]
        congr 2
        omega

theorem step {capacity : Nat} {action : RpcExchangeAction} (stream : Stream index before)
    (undisturbed : Undisturbed index before action)
    (stepped : before.step capacity action = some after) : Stream index after := by
  cases action with
  | send sent => exact stream.send stepped
  | sendError code message =>
      simp only [RpcExchange.step, RpcExchange.sendError] at stepped
      split at stepped
      · cases stepped
      · exact stream.send stepped
  | reconnect =>
      obtain rfl := Option.some.inj stepped
      exact ⟨stream.consistent, stream.sequence, stream.ended, stream.finals, stream.call⟩
  | deliver =>
      simp only [RpcExchange.step] at stepped
      split at stepped
      · cases stepped
      · next front =>
        obtain rfl := Option.some.inj stepped
        exact stream.deliver front undisturbed
  | caller action =>
      obtain ⟨caller, moved, rfl⟩ := Option.map_eq_some_iff.mp stepped
      have consistent := RpcCaller.consistent_step stream.consistent moved
      obtain ⟨call, received, waiting, found, key, opened, split, reads, wire⟩ := stream.call
      by_cases foreign : RpcCaller.Foreign index call action
      · exact stream.keeps consistent (RpcCaller.keeps_step stream.consistent found foreign moved)
      · refine stream.reads consistent fun reader bodies foundReader reads => ?_
        obtain rfl := Option.some.inj (found.symm.trans foundReader)
        cases action with
        | read other expired =>
            obtain rfl : other = index := not_not.mp foreign
            obtain rfl : expired = false := undisturbed rfl
            obtain ⟨mover, foundMover, moved⟩ := Option.bind_eq_some_iff.mp moved
            obtain rfl := Option.some.inj (found.symm.trans foundMover)
            obtain ⟨-, moved⟩ := Option.ite_none_right_eq_some.mp moved
            obtain rfl := Option.some.inj moved
            exact RpcCaller.reads_read found reads
        | take other =>
            obtain rfl : other = index := not_not.mp foreign
            obtain ⟨mover, foundMover, moved⟩ := Option.bind_eq_some_iff.mp moved
            obtain rfl := Option.some.inj (found.symm.trans foundMover)
            cases items : call.queue with
            | nil => simp [RpcCaller.stepCall, items] at moved
            | cons item queue =>
                simp only [RpcCaller.stepCall, items] at moved
                obtain ⟨-, moved⟩ := Option.ite_none_right_eq_some.mp moved
                obtain rfl := Option.some.inj moved
                exact ⟨_, RpcCaller.found_put found _, RpcCall.key_take _ item,
                  RpcCall.opening_take _ item, reads.take items _⟩
        | response payload =>
            refine absurd (fun message parsed => ?_) foreign
            rw [key]
            exact undisturbed message (by rw [parsed]; rfl)
        | sendRaised other | readCancelled other | readTimedOut other =>
            exact absurd undisturbed foreign
        | close other | deadline other | parentCancelled other =>
            exact absurd (fun same => undisturbed same call found) foreign
        | disconnect => exact absurd (undisturbed call found) foreign
        | openCall | lifecycle | sendReturned | cancellationSent | graceExpired | cancelAwaiter =>
            exact absurd trivial foreign

end Stream

theorem stream_invariant (capacity index : Nat) :
    (system capacity index).Invariant (Undisturbed index) (Stream index) where
  starts _ starts := Stream.starts starts
  preserved _ _ _ stream undisturbed stepped := stream.step undisturbed stepped

/-- The counts of `_send_error` for the errors of a worker. -/
theorem errorBody_decodes {code : Nat} (worker : code ∈ [6005, 6006, 6007]) {message : String}
    {body : Bytes} (built : ResponseWriter.errorBody code (.ofString message) = .ok body) :
    decodeTerminalError body = some {
      message := "CALL failed: " ++ if message = "" then s!"status {code}" else message
      reason := "CALL"
      domainCode := some code
      errorClass := some (code - 6000)
      effect := some (if code = 6005 then 0 else 1) } := by
  simp only [List.mem_cons, List.not_mem_nil, or_false] at worker
  rcases worker with rfl | rfl | rfl <;>
    exact decodeTerminalError_errorBody built (by decide) (by decide) (by decide)

/-- The iterator reads the bodies in the order in which they were sent, and can
always read them to the end; a last body that encodes an error of the RPC domain
is raised.  The errors of a worker are such bodies. -/
theorem responses_of_reachable {capacity index : Nat} {exchange : RpcExchange}
    (reachable : (system capacity index).ReachableUnder (Undisturbed index) exchange) :
    (∃ call count stops, exchange.caller.calls[index]? = some call ∧
      call.readings = exchange.expected.take count ++ List.replicate stops .stopped ∧
      (0 < stops → exchange.writer.ended = true ∧ exchange.expected.length ≤ count) ∧
      (exchange.writer.ended = true → exchange.wire = [] → call.opening = .returned →
        ∃ actions after last,
          (∀ action ∈ actions, action = .read index false ∨ action = .take index) ∧
          (RpcCaller.system capacity).run exchange.caller actions = some after ∧
          after.calls[index]? = some last ∧
          last.readings = exchange.expected ++ List.replicate (stops + 1) .stopped)) ∧
    (∀ (code : Nat) (message : String) (body : Bytes), code ∈ [6005, 6006, 6007] →
      ResponseWriter.errorBody code (.ofString message) = .ok body →
        ∀ sequence, ({ body, final := true } : ResponseBody).reading sequence = .raised (.rpc {
          message := "CALL failed: " ++ if message = "" then s!"status {code}" else message
          reason := "CALL"
          domainCode := some code
          errorClass := some (code - 6000)
          effect := some (if code = 6005 then 0 else 1) })) := by
  have stream := (stream_invariant capacity index).of_reachable reachable
  refine ⟨?_, fun code message body worker built sequence => ?_⟩
  · obtain ⟨call, received, waiting, found, key, opened, split, reads, wire⟩ := stream.call
    obtain ⟨done, stops, readings, whole, stopped⟩ := reads.readings
    have expected : exchange.expected = done ++ (call.unread ++ waiting.mapIdx fun place body =>
        body.reading (received.length + place)) := by
      rw [RpcExchange.expected, split, List.mapIdx_append, ← whole, List.append_assoc]
      simp only [Nat.add_comm]
    have atEnd : call.ended = true → exchange.writer.ended = true ∧ waiting = [] := by
      intro ended
      rw [reads.ended] at ended
      refine ⟨by rw [stream.ended, split, List.any_append, ended, Bool.true_or], ?_⟩
      by_contra remaining
      obtain ⟨body, member, final⟩ := List.any_eq_true.mp ended
      have notLast : body ∈ exchange.sent.dropLast := by
        rw [split, List.dropLast_append_of_ne_nil remaining]
        exact List.mem_append_left _ member
      exact absurd (final.symm.trans (stream.finals body notLast)) (by simp)
    refine ⟨call, done.length, stops, found, ?_, fun positive => ?_,
      fun ended delivered returned => ?_⟩
    · rw [expected, List.take_left', readings]
      rfl
    · obtain ⟨ended, unread⟩ := stopped positive
      obtain ⟨endedWriter, rfl⟩ := atEnd ended
      exact ⟨endedWriter, by simp [expected, unread]⟩
    · have nothing : waiting = [] := by
        simpa [delivered] using wire
      subst nothing
      have endedCall : call.ended = true := by
        rw [reads.ended, ← ended, stream.ended, split, List.append_nil]
      obtain ⟨actions, after, last, only, ran, foundLast, lastReadings⟩ :=
        RpcCaller.reads_to_end capacity found returned endedCall reads.ready
      refine ⟨actions, after, last, only, ran, foundLast, ?_⟩
      rw [lastReadings, readings, expected, List.mapIdx_nil, List.append_nil]
      rcases Nat.eq_zero_or_pos stops with rfl | positive
      · simp
      · rw [(stopped positive).2, List.append_nil, List.append_nil, List.append_assoc,
          List.replicate_succ']
  · rw [ResponseBody.reading, if_pos rfl, errorBody_decodes worker built]

/-- A call of one client, and the worker that has got its request. -/
def opened : RpcExchange where
  caller := ((RpcCaller.system 2).run {}
    [.openCall (List.replicate 16 7) [] [] none false, .sendReturned 0]).getD {}
  writer := { correlationId := List.replicate 16 7, generation := 0 }
  generation := 0

theorem starts_opened : (system 2 0).starts opened where
  reachable := by
    have ran : ((RpcCaller.system 2).run {}
        [.openCall (List.replicate 16 7) [] [] none false, .sendReturned 0]).isSome = true := by
      decide +kernel
    obtain ⟨caller, reached⟩ := Option.isSome_iff_exists.mp ran
    have same : opened.caller = caller := by rw [opened, reached, Option.getD_some]
    rw [same]
    exact (RpcCaller.system 2).reachable_of_run rfl _ reached
  opened := by
    have found : opened.caller.calls[0]? = some {
        key := List.replicate 16 7, capacity := 2, hasDeadline := false, hasParent := false,
        opening := .returned } := by
      decide +kernel
    exact ⟨_, found, by decide, rfl, rfl, rfl, rfl, rfl⟩
  sent := rfl
  wire := rfl

/-- A worker that sends a body and then fails. -/
theorem responses_failing_worker : ∃ exchange : RpcExchange,
    exchange.caller.calls.map (·.readings.length) = [3] ∧
      exchange.writer.ended = true ∧ exchange.wire = [] ∧
      ∃ call count stops, exchange.caller.calls[0]? = some call ∧
        call.readings = exchange.expected.take count ++ List.replicate stops .stopped := by
  have meets : (system 2 0).StepsMeet (Undisturbed 0) opened
      [.send { body := [1, 2, 3], final := false }, .sendError 6006 (.ofString "no"), .deliver,
        .deliver, .caller (.read 0 false), .caller (.take 0), .caller (.read 0 false),
        .caller (.take 0), .caller (.read 0 false)] := by
    decide +kernel
  obtain ⟨exchange, reachable, tested⟩ := (system 2 0).exists_reachableUnder_of_run starts_opened _
    (fun exchange => exchange.caller.calls.map (·.readings.length) = [3] ∧
      exchange.writer.ended = true ∧ exchange.wire = []) (by decide +kernel) meets
  obtain ⟨⟨call, count, stops, found, readings, -⟩, -⟩ := responses_of_reachable reachable
  obtain ⟨three, ended, delivered⟩ := of_decide_eq_true tested
  exact ⟨exchange, three, ended, delivered, call, count, stops, found, readings⟩

/-- A last body that happens to encode an error is not yielded. -/
theorem exists_body_raised : ∃ exchange : RpcExchange,
    (system 2 0).ReachableUnder (Undisturbed 0) exchange ∧
      exchange.sent = [{ body := [1, 0x17, 0x71, 0, 0, 0, 0, 0, 0], final := true }] ∧
      exchange.caller.calls.map (·.readings) = [[.raised (.rpc {
        message := "CALL failed: status 6001", reason := "CALL", domainCode := some 6001,
        errorClass := some 0, effect := some 0 }), .stopped]] := by
  have meets : (system 2 0).StepsMeet (Undisturbed 0) opened
      [.send { body := [1, 0x17, 0x71, 0, 0, 0, 0, 0, 0], final := true }, .deliver,
        .caller (.read 0 false), .caller (.take 0), .caller (.read 0 false)] := by
    decide +kernel
  obtain ⟨exchange, reachable, tested⟩ := (system 2 0).exists_reachableUnder_of_run starts_opened _
    (fun exchange =>
      exchange.sent = [{ body := [1, 0x17, 0x71, 0, 0, 0, 0, 0, 0], final := true }] ∧
      exchange.caller.calls.map (·.readings) = [[.raised (.rpc {
        message := "CALL failed: status 6001", reason := "CALL", domainCode := some 6001,
        errorClass := some 0, effect := some 0 }), .stopped]]) (by decide +kernel) meets
  exact ⟨exchange, reachable, by simpa using tested⟩

end RpcExchange

end FitzClient
