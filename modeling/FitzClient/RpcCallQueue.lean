import FitzClient.RpcTransparency

/-!
# The queue of a call

A call alone, with the exceptions of its queue.  `put_nowait` raises where the
queue is full; `push` and `fail` catch that, `_close_and_cancel` does not.  The
deadline of a call passes at some moment, after which its watcher may run, a
reader's `asyncio.timeout` may fire, and `__anext__` finds no time left.

What the iterator comes to, the frames accepted, and the moment at which the
call was closed are history.
-/

namespace FitzClient

namespace RpcCall

/-- `_queue.put_nowait`; `none` is `asyncio.QueueFull`. -/
def putNowait (call : RpcCall) (item : CallItem) : Option RpcCall :=
  if call.full then none else some { call with queue := call.queue ++ [item] }

/-- `fail` -/
def failNow (call : RpcCall) (error : CallError) (preserveBuffered : Bool) : RpcCall :=
  if call.closed then
    call
  else
    let call := { call.stopWatchers with
      closed := true
      cancellation := call.cancellation.resolve error.outcome
      queue := if preserveBuffered then call.queue else []
      failure := some error }
    match call.putNowait (.error error) with
    | some call => { call with failure := none }
    | none => call

/-- `push` -/
def pushNow (call : RpcCall) (frame : ResponseFrame) (final : Bool) : RpcCall :=
  if call.closed then
    call
  else
    match call.putNowait (.frame frame) with
    | none => call.failNow .fellBehind false
    | some call =>
        if final then
          { call.stopWatchers with
            terminal := true, cancellation := call.cancellation.resolve .notRequested }
        else
          call

/-- `_close_and_cancel` up to `_abandon_call`, and whether `QueueFull` is
raised. -/
def closeNow (call : RpcCall) : RpcCall × Bool :=
  if call.ended then
    (call, false)
  else
    let call := { call with closed := true, queue := [] }
    match call.putNowait .stop with
    | some call => (call.stopWatchers, false)
    | none => (call, true)

/-- `push` puts the frame into the queue. -/
def accepts (call : RpcCall) : Bool :=
  !call.closed && !call.full

theorem putError_eq (call : RpcCall) (error : CallError) :
    call.putError error =
      match { call with failure := some error }.putNowait (.error error) with
      | some call => { call with failure := none }
      | none => { call with failure := some error } := by
  by_cases full : call.full = true
  · have fullFailed : ({ call with failure := some error } : RpcCall).full = true := full
    rw [putError, if_pos full, putNowait, if_pos fullFailed]
  · have fullFailed : ¬({ call with failure := some error } : RpcCall).full = true := full
    rw [putError, if_neg full, putNowait, if_neg fullFailed]

theorem failNow_eq (call : RpcCall) (error : CallError) (preserveBuffered : Bool) :
    call.failNow error preserveBuffered =
      if call.closed then call else call.fail error preserveBuffered := by
  by_cases closed : call.closed = true
  · rw [failNow, if_pos closed, if_pos closed]
  · rw [failNow, if_neg closed, if_neg closed]
    rw [fail, putError_eq]

theorem pushNow_eq (call : RpcCall) (frame : ResponseFrame) (final : Bool) :
    call.pushNow frame final =
      if call.closed then call
      else if call.full then call.fail .fellBehind false
      else if final then call.finish frame
      else { call with queue := call.queue ++ [.frame frame] } := by
  by_cases closed : call.closed = true
  · rw [pushNow, if_pos closed, if_pos closed]
  · rw [pushNow, if_neg closed, if_neg closed, putNowait]
    by_cases full : call.full = true
    · rw [if_pos full, if_pos full]
      exact (failNow_eq call _ _).trans (if_neg closed)
    · rw [if_neg full, if_neg full]
      rfl

/-- There is room for the end marker in an empty queue. -/
theorem closeNow_eq (call : RpcCall) :
    call.closeNow = (if call.ended then call else call.close, false) := by
  have room : ({ call with closed := true, queue := [] } : RpcCall).full = false := by
    simp only [full, List.length_nil, Bool.and_eq_false_iff, decide_eq_false_iff_not]
    omega
  unfold closeNow putNowait
  split_ifs with ended
  · rfl
  · simp [room, close, stopWatchers]

end RpcCall

namespace RpcCaller

variable {caller : RpcCaller} {index : Nat} {call : RpcCall}

end RpcCaller

/-- What closed a call. -/
inductive ClosingCause
  | failed (error : CallError)
  | overflowed
  | closed
  deriving DecidableEq, Repr

/-- The moment at which a call was closed: what the iterator had come to, and
the frames in the queue. -/
structure Closing where
  cause : ClosingCause
  before : List Reading
  buffered : List ResponseFrame
  deriving DecidableEq, Repr

/-- What the iterator has to come to before it stops. -/
def Closing.promised (closing : Closing) : List Reading :=
  match closing.cause with
  | .failed error => closing.buffered.map .frame ++ [.raised error]
  | .overflowed => [.raised .fellBehind]
  | .closed => []

def Reading.frame? : Reading → Option ResponseFrame
  | .frame response => some response
  | .raised _ | .stopped | .cancelled => none

def CallItem.frame? : CallItem → Option ResponseFrame
  | .frame response => some response
  | .error _ | .stop => none

/-- A call with its history.  `passed` tells whether the deadline is over,
`inTime` whether `push` has taken the last frame before it was, and `escaped`
whether `QueueFull` has left a method. -/
structure CallRun where
  call : RpcCall
  accepted : List ResponseFrame := []
  closing : Option Closing := none
  passed : Bool := false
  inTime : Bool := false
  escaped : Bool := false
  deriving DecidableEq, Repr

/-- What happens to a call.  `fail` is a terminal error or a disconnect;
`close` is `aclose`, `cancel` or the cancellation of the parent; `take`
continues a reader that waits. -/
inductive CallAction
  | opened
  | push (frame : ResponseFrame) (final : Bool)
  | fail (error : CallError)
  | close
  | read
  | take
  | readCancelled
  | passDeadline
  | readTimedOut
  | expire
  deriving DecidableEq, Repr

namespace CallRun

/-- What the iterator has come to.  A read that was cancelled came to nothing. -/
def outcomes (run : CallRun) : List Reading :=
  run.call.readings.filter (· ≠ .cancelled)

/-- The frames that the iterator has yielded. -/
def yielded (run : CallRun) : List ResponseFrame :=
  run.outcomes.filterMap Reading.frame?

/-- The frames in the queue. -/
def buffered (run : CallRun) : List ResponseFrame :=
  run.call.queue.filterMap CallItem.frame?

/-- The call becomes `call`, which the cause may have closed. -/
def become (run : CallRun) (cause : ClosingCause) (call : RpcCall) : CallRun :=
  { run with
    call
    closing :=
      if call.closed && !run.call.closed then
        some { cause, before := run.outcomes, buffered := run.buffered }
      else
        run.closing }

def push (run : CallRun) (frame : ResponseFrame) (final : Bool) : CallRun :=
  { run.become .overflowed (run.call.pushNow frame final) with
    accepted := if run.call.accepts then run.accepted ++ [frame] else run.accepted
    inTime := run.inTime || run.call.accepts && final && !run.passed }

def fail (run : CallRun) (error : CallError) : CallRun :=
  run.become (.failed error) (run.call.failNow error true)

/-- `_close_and_cancel` -/
def close (run : CallRun) : CallRun :=
  let (call, escaped) := run.call.closeNow
  { run.become .closed call with escaped := run.escaped || escaped }

def record (run : CallRun) (reading : Reading) : CallRun :=
  { run with call := run.call.record reading }

/-- `__anext__` up to its `await`.  `get` does not suspend where the queue holds
an item. -/
def read (run : CallRun) : CallRun :=
  match run.call.queue, run.call.failure with
  | [], some failure =>
      { run with call := { run.call.record (.raised failure) with failure := none } }
  | [], none =>
      if run.call.ended then run.record .stopped
      else if run.passed then run.close.record (.raised .timedOut)
      else { run with call := { run.call with readers := run.call.readers + 1 } }
  | item :: queue, _ =>
      if run.passed then run.close.record (.raised .timedOut)
      else { run with call := { run.call with queue }.take item }

/-- The task at `_queue.get()` leaves it. -/
def leave (run : CallRun) : CallRun :=
  { run with call := { run.call with readers := run.call.readers - 1 } }

/-- One transition.  There is one consumer, so that a read begins after the last
one has ended. -/
def step (run : CallRun) : CallAction → Option CallRun
  | .opened =>
      if run.call.opening = .sending then
        some { run with call := { run.call with
          opening := .returned
          deadlineTask := run.call.hasDeadline
          parentTask := run.call.hasParent } }
      else
        none
  | .push frame final => some (run.push frame final)
  | .fail error => some (run.fail error)
  | .close => if run.call.opening = .returned then some run.close else none
  | .read => if run.call.opening = .returned ∧ run.call.readers = 0 then some run.read else none
  | .take =>
      match run.call.queue with
      | [] => none
      | item :: queue =>
          if 0 < run.call.readers then
            some { run with
              call := { run.call with queue, readers := run.call.readers - 1 }.take item }
          else
            none
  | .readCancelled =>
      if 0 < run.call.readers then some (run.leave.close.record .cancelled) else none
  | .passDeadline => if run.call.hasDeadline then some { run with passed := true } else none
  | .readTimedOut =>
      if 0 < run.call.readers ∧ run.passed then
        some (run.leave.close.record (.raised .timedOut))
      else
        none
  | .expire =>
      if run.call.deadlineTask ∧ run.passed then
        if run.call.ended then
          some { run with call := { run.call with deadlineTask := false } }
        else
          some { run with call := { run.call with failure := some .timedOut } }.close
      else
        none

/-- A call as `open_call` creates it. -/
def Starts (dated : Bool) (run : CallRun) : Prop :=
  ∃ key capacity hasParent,
    run = { call := { key, capacity, hasDeadline := dated, hasParent, opening := .sending } }

/-- All interleavings at a call, with a deadline or without one. -/
def system (dated : Bool) : LabelledSystem CallRun CallAction where
  starts := Starts dated
  step := step

/-- The client does not list a call that has its last frame: nothing that
arrives gets to it. -/
def listedStep (run : CallRun) (action : CallAction) : Option CallRun :=
  match action with
  | .push .. | .fail _ => if run.call.terminal then none else run.step action
  | _ => run.step action

/-- All interleavings at a call of a client. -/
def listedSystem (dated : Bool) : LabelledSystem CallRun CallAction where
  starts := Starts dated
  step := listedStep

end CallRun

end FitzClient
