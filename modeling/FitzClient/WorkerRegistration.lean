import FitzClient.Dictionary
import FitzClient.LabelledSystem
import Mathlib.Data.Finset.Basic
import Mathlib.Data.List.Perm.Basic

/-!
# Registering workers

A worker of a route is registered by a SUBSCRIBE and withdrawn by an
UNSUBSCRIBE, and after a reconnect every registration of the table is subscribed
again.  Each of these calls holds the lock of its route while it does so, and
any of them may be cancelled, refused by the broker or cut off by the loss of
the connection.  One that times out has the connection torn down, but later, or
not at all while an earlier loss is still handled.

The other side is the broker: the frames that it has not read, and the routes
that it has a worker of this connection for.  It forgets both with the
connection.
-/

namespace FitzClient

/-- A registration in the table.  Its identity is the call that made it;
`session` is the session in which the broker accepted it last. -/
structure WorkerEntry where
  identity : Nat
  session : Nat
  deriving DecidableEq, Repr

/-- What a call is for.  Restoration visits the entries of its snapshot one by
one. -/
inductive WorkerOperation
  | register
  | unregister (identity : Nat)
  | restore (identity : Nat) (remaining : List (String × Nat))
  deriving DecidableEq, Repr

namespace WorkerOperation

/-- The registration that has to be in the table. -/
def subject : WorkerOperation → Option Nat
  | .register => none
  | .unregister identity => some identity
  | .restore identity _ => some identity

/-- Whether the frame is a SUBSCRIBE. -/
def subscribes : WorkerOperation → Bool
  | .unregister _ => false
  | _ => true

def restores : WorkerOperation → Bool
  | .restore _ _ => true
  | _ => false

end WorkerOperation

/-- How a request ends.  One that raised may have reached the broker. -/
inductive WorkerReply
  | accepted
  | refused
  | raised
  deriving DecidableEq, Repr

inductive WorkerPhase
  | queued
  | requesting
  | awaiting (reply : Option WorkerReply)
  | ended (returned : Bool)
  deriving DecidableEq, Repr

structure WorkerCall where
  route : String
  operation : WorkerOperation
  phase : WorkerPhase := .queued
  deriving DecidableEq, Repr

namespace WorkerCall

/-- The call is in the lock of its route. -/
def holds (call : WorkerCall) : Bool :=
  match call.phase with
  | .requesting => true
  | .awaiting _ => true
  | _ => false

/-- The frame is written. -/
def awaits (call : WorkerCall) : Bool :=
  match call.phase with
  | .awaiting _ => true
  | _ => false

end WorkerCall

/-- A SUBSCRIBE or UNSUBSCRIBE that the broker has not read.  A restoration
visits every route once, so that the route tells its frames apart. -/
structure WorkerFrame where
  index : Nat
  route : String
  subscribes : Bool
  deriving DecidableEq, Repr

/-- The worker table of a client and what the broker has of it; `timedOut` is
whether a request of this session has timed out. -/
structure WorkerRegistrations where
  workers : Dictionary String WorkerEntry := ∅
  calls : List WorkerCall := []
  connected : Bool := true
  session : Nat := 0
  timedOut : Bool := false
  restoration : Option Nat := none
  restored : Bool := true
  wire : List WorkerFrame := []
  subscribed : Finset String := ∅

inductive WorkerAction
  | register (route : String)
  | unregister (worker : Nat)
  | restore (order : List (String × Nat))
  | enter (index : Nat)
  | write (index : Nat)
  | raise (index : Nat)
  | process (accepted : Bool)
  | resume (index : Nat)
  | cancel (index : Nat)
  | disconnect
  | connect
  deriving DecidableEq, Repr

namespace WorkerRegistrations

def put (state : WorkerRegistrations) (index : Nat) (call : WorkerCall) : WorkerRegistrations :=
  { state with calls := state.calls.set index call }

/-- `self._workers.get(route) is registration` -/
def isRegistered (state : WorkerRegistrations) (route : String) (identity : Nat) : Bool :=
  (state.workers.lookup route).any fun entry => entry.identity = identity

/-- `self._workers.pop(route, None)` of this registration. -/
def pop (state : WorkerRegistrations) (route : String) (identity : Nat) : WorkerRegistrations :=
  if state.isRegistered route identity then
    { state with workers := state.workers.erase route }
  else
    state

def store (state : WorkerRegistrations) (route : String) (identity : Nat) : WorkerRegistrations :=
  { state with workers := state.workers.insert route { identity, session := state.session } }

/-- `list(self._workers.items())` -/
def items (state : WorkerRegistrations) : List (String × Nat) :=
  state.workers.entries.map fun entry => (entry.1, entry.2.identity)

/-- Nobody is in the lock of the route. -/
def unlocked (state : WorkerRegistrations) (route : String) : Bool :=
  state.calls.all fun call => call.route = route → call.holds = false

/-- A call leaves the lock; restoration turns to its next entry. -/
def leave (state : WorkerRegistrations) (index : Nat) (call : WorkerCall) (returned : Bool) :
    WorkerRegistrations :=
  match call.operation with
  | .restore _ ((route, identity) :: remaining) =>
      state.put index { route, operation := .restore identity remaining }
  | .restore _ [] =>
      { state.put index { call with phase := .ended true } with
        restoration := none
        restored := state.connected }
  | _ => state.put index { call with phase := .ended returned }

/-- What a call does about the end of its request. -/
def settle (state : WorkerRegistrations) (index : Nat) (call : WorkerCall) (reply : WorkerReply) :
    WorkerRegistrations :=
  match call.operation, reply with
  | .register, .accepted => (state.store call.route index).leave index call true
  | .register, _ => state.leave index call false
  | .unregister identity, .accepted => (state.pop call.route identity).leave index call true
  | .unregister _, _ => state.leave index call false
  -- the registration stays as it is, now of this session
  | .restore identity _, .accepted => (state.store call.route identity).leave index call true
  | .restore identity _, _ => (state.pop call.route identity).leave index call true

/-- Past the lock: whether there is anything to do. -/
def enter (state : WorkerRegistrations) (index : Nat) (call : WorkerCall) : WorkerRegistrations :=
  match call.operation.subject with
  | none => state.put index { call with phase := .requesting }
  | some identity =>
      if state.isRegistered call.route identity then
        state.put index { call with phase := .requesting }
      else
        state.leave index call true

/-- The broker's part in a SUBSCRIBE or UNSUBSCRIBE. -/
def process (state : WorkerRegistrations) (frame : WorkerFrame) (accepted : Bool) :
    Finset String :=
  if accepted = false then
    state.subscribed
  else if frame.subscribes then
    insert frame.route state.subscribed
  else
    state.subscribed.erase frame.route

/-- A reply reaches the request of its frame, unless that has given up. -/
def answer (state : WorkerRegistrations) (frame : WorkerFrame) (reply : WorkerReply) :
    WorkerRegistrations :=
  match state.calls[frame.index]? with
  | some call =>
      if call.route = frame.route ∧ call.phase = .awaiting none then
        state.put frame.index { call with phase := .awaiting (some reply) }
      else
        state
  | none => state

/-- The end of a session for a request under way. -/
def disconnected (call : WorkerCall) : WorkerCall :=
  if call.phase = .awaiting none then
    { call with phase := .awaiting (some .raised) }
  else
    call

def step (state : WorkerRegistrations) : WorkerAction → Option WorkerRegistrations
  | .register route =>
      some { state with calls := state.calls ++ [{ route, operation := .register }] }
  | .unregister worker =>
      match state.calls[worker]? with
      | some { route, operation := .register, phase := .ended true } =>
          some { state with
            calls := state.calls ++ [{ route, operation := .unregister worker }] }
      | _ => none
  | .restore order =>
      if state.restoration = none ∧ state.restored = false ∧ order.Perm state.items then
        match order with
        | [] => some { state with restored := state.connected }
        | (route, identity) :: remaining => some { state with
            calls := state.calls ++ [{ route, operation := .restore identity remaining }]
            restoration := some state.calls.length }
      else
        none
  | .enter index =>
      match state.calls[index]? with
      | some call =>
          if call.phase = .queued ∧ state.unlocked call.route then
            some (state.enter index call)
          else
            none
      | none => none
  | .write index =>
      match state.calls[index]? with
      | some call =>
          if call.phase = .requesting ∧ state.connected then
            some { state.put index { call with phase := .awaiting none } with
              wire := state.wire ++ [⟨index, call.route, call.operation.subscribes⟩] }
          else
            none
      | none => none
  | .raise index =>
      match state.calls[index]? with
      | some call =>
          match call.phase with
          -- refused admission, or no connection
          | .requesting => some (state.settle index call .raised)
          -- a timeout: the loss of the connection is handled by a task of its own
          | .awaiting none => some { state.settle index call .raised with timedOut := true }
          | _ => none
      | none => none
  | .process accepted =>
      match state.wire with
      | [] => none
      | frame :: wire =>
          some { state.answer frame (if accepted then .accepted else .refused) with
            wire
            subscribed := state.process frame accepted }
  | .resume index =>
      match state.calls[index]? with
      | some call =>
          match call.phase with
          | .awaiting (some reply) => some (state.settle index call reply)
          | _ => none
      | none => none
  | .cancel index =>
      match state.calls[index]? with
      | some call =>
          match call.phase with
          | .ended _ => none
          | _ =>
              let ended := state.put index { call with phase := .ended false }
              -- the connection attempt is given up with its restoration
              if call.operation.restores then
                some { ended with restoration := none, connected := false }
              else
                some ended
      | none => none
  | .disconnect =>
      some { state with
        calls := state.calls.map disconnected
        connected := false
        wire := []
        subscribed := ∅ }
  | .connect =>
      if state.connected = false ∧ state.restoration = none ∧
          ∀ call ∈ state.calls, call.phase ≠ .awaiting none then
        some { state with
          connected := true
          session := state.session + 1
          timedOut := false
          restored := false
          wire := []
          subscribed := ∅ }
      else
        none

/-- A client in its first session. -/
def system : LabelledSystem WorkerRegistrations WorkerAction where
  starts state := state = {}
  step := step

end WorkerRegistrations

end FitzClient
