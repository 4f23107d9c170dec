import FitzClient.IndexedCells
import FitzClient.LabelledSystem
import Mathlib.Data.List.Nodup

/-!
# Acquiring leases

`LeaseClient.acquire` sends an ACQUIRE and awaits its reply.  If the broker
queues the request, a second message follows when it is decided.  That message
carries no correlation id: `_queued_reply` gives it to the oldest future in
`_queued`.  So `acquire` holds a lock from before the future is appended until
the future is out of the queue again.  When a task is cancelled while its
future is still queued, a drain task keeps the lock and waits for the message.

The connection tells the client of a loss by a call of `_disconnect`, which
runs some time after the requests of the lost session have failed.  A request
that times out schedules the loss of its connection, unless an earlier loss is
still being handled.

What the broker decides, which deferred replies it still owes, and where they
were delivered is history.
-/

namespace FitzClient

/-- What an ACQUIRE message says: a token (response types 0 and 1), that the
request is queued (2) or was queued already (3), or what `_decode_acquire`
raises for. -/
inductive AcquireReply
  | granted (token : Nat)
  | queued
  | alreadyQueued
  | refused
  deriving DecidableEq, Repr

/-- The token that a reply grants to this call. -/
def AcquireReply.grant (call : Nat) : AcquireReply → List (Nat × Nat)
  | .granted token => [(call, token)]
  | .queued | .alreadyQueued | .refused => []

/-- The future that an `acquire` puts into `_queued`. -/
inductive QueuedFuture
  | pending
  | result (reply : AcquireReply)
  | exception
  deriving DecidableEq, Repr

/-- Where a call of `acquire` is suspended, or how it ended.  The drain task of
a cancelled call is one of its phases. -/
inductive AcquirePhase
  | locking
  | admitting
  | requested
  | answered (reply : AcquireReply)
  | deferred
  | draining
  | returned (token : Nat)
  | raised
  deriving DecidableEq, Repr

/-- The phases in which the lock is held. -/
def AcquirePhase.holdsLock : AcquirePhase → Bool
  | .admitting | .requested | .answered _ | .deferred | .draining => true
  | .locking | .returned _ | .raised => false

/-- One call of `acquire`.  The session in which it took the lock, whether its
ACQUIRE was written, what the broker decided on it and whether the reply with
this decision has arrived are history. -/
structure AcquireCall where
  route : String
  wait : Nat
  phase : AcquirePhase := .locking
  future : QueuedFuture := .pending
  enteredIn : Nat := 0
  sent : Bool := false
  decision : Option AcquireReply := none
  told : Bool := false
  deriving DecidableEq, Repr

/-- The client with every call of `acquire`.  `unannounced` counts the losses
whose listeners have yet to run, `debts` are the calls of this session to which
the broker owes a deferred reply. -/
structure LeaseClient where
  calls : List AcquireCall := []
  acquireLock : Option Nat := none
  queued : List Nat := []
  usable : Bool := true
  session : Nat := 0
  unannounced : Nat := 0
  debts : List Nat := []
  granted : List (Nat × Nat) := []
  delivered : List (Nat × Nat) := []
  deriving DecidableEq

namespace LeaseClient

/-- Update one call. -/
def updateCall (client : LeaseClient) (call : Nat) (update : AcquireCall → AcquireCall) :
    LeaseClient :=
  { client with calls := client.calls.modify call update }

/-- `acquire` returns or raises, and the lock is released. -/
def finish (client : LeaseClient) (call : Nat) (phase : AcquirePhase) : LeaseClient :=
  { client.updateCall call ({ · with phase }) with acquireLock := none }

/-- `except BaseException`: the future is removed if it is still queued. -/
def abort (client : LeaseClient) (call : Nat) : LeaseClient :=
  { client with queued := client.queued.erase call }.finish call .raised

/-- `acquire` once it has the lock, up to its first `await`. -/
def enter (client : LeaseClient) (call : Nat) (wait : Nat) : LeaseClient :=
  let entered := { client with
    acquireLock := some call
    queued := if 0 < wait then client.queued ++ [call] else client.queued
    }.updateCall call ({ · with phase := .admitting, enteredIn := client.session })
  if client.usable then entered else entered.abort call

/-- The oldest future in the queue that is not done, and those after it. -/
def firstPending (calls : List AcquireCall) : List Nat → Option (Nat × List Nat)
  | [] => none
  | call :: rest =>
      if calls[call]?.any (·.future = .pending) then some (call, rest)
      else firstPending calls rest

/-- `_queued_reply` for the message that the broker sends to a debtor. -/
def queuedReply (client : LeaseClient) (debtor : Nat) (reply : AcquireReply) : LeaseClient :=
  match firstPending client.calls client.queued with
  | none => { client with queued := [] }
  | some (call, rest) =>
      { client with
        queued := rest
        delivered := client.delivered ++ [(debtor, call)]
        }.updateCall call ({ · with future := .result reply })

/-- `_disconnect` -/
def disconnect (client : LeaseClient) : LeaseClient :=
  { client with
    queued := []
    calls := client.calls.mapIdx fun index call =>
      if index ∈ client.queued ∧ call.future = .pending then
        { call with future := .exception }
      else
        call }

/-- `acquire` after its primary reply. -/
def resumeAnswered (client : LeaseClient) (call wait : Nat) : AcquireReply → LeaseClient
  | .granted token =>
      if wait = 0 then
        client.finish call (.returned token)
      else if call ∈ client.queued then
        { client with queued := client.queued.erase call }.finish call (.returned token)
      else
        -- `deque.remove` raises `ValueError`
        client.abort call
  | .queued =>
      if wait = 0 then client.abort call else client.updateCall call ({ · with phase := .deferred })
  | .alreadyQueued | .refused => client.abort call

/-- `acquire` after its queued future is done. -/
def resumeDeferred (client : LeaseClient) (call : Nat) : QueuedFuture → Option LeaseClient
  | .pending => none
  | .result (.granted token) => some (client.finish call (.returned token))
  | .result _ | .exception => some (client.abort call)

/-- A cancelled call leaves its queued future to a drain task. -/
def cancelHolder (client : LeaseClient) (call : Nat) : LeaseClient :=
  if call ∈ client.queued then
    client.updateCall call ({ · with phase := .draining })
  else
    client.finish call .raised

/-- The connection is lost: no message of the session arrives any more. -/
def lose (client : LeaseClient) : LeaseClient :=
  { client with usable := false, unannounced := client.unannounced + 1 }

/-- The broker's decision, and the reply that it owes for a queued request. -/
def decide (client : LeaseClient) (call : Nat) (reply : AcquireReply) : LeaseClient :=
  { client with
    granted := client.granted ++ reply.grant call
    debts := if reply = AcquireReply.queued then client.debts ++ [call] else client.debts
    }.updateCall call ({ · with decision := some reply })

/-- The broker decides a queued request, and the message arrives. -/
def settle (client : LeaseClient) (call : Nat) (reply : AcquireReply) : LeaseClient :=
  { client with
    granted := client.granted ++ reply.grant call
    debts := client.debts.erase call
    }.queuedReply call reply

end LeaseClient

/-- What can happen to a lease client.  `decide` is the broker's decision on an
ACQUIRE, `reply` the arrival of the correlated reply, `settle` the arrival of a
deferred one.  `timeout` is the expiry of a request, `fail` any other failure,
`announce` a call of `_disconnect`. -/
inductive LeaseAction
  | acquire (route : String) (wait : Nat)
  | enter (call : Nat)
  | send (call : Nat)
  | fail (call : Nat)
  | timeout (call : Nat)
  | decide (call : Nat) (reply : AcquireReply)
  | reply (call : Nat)
  | settle (call : Nat) (reply : AcquireReply)
  | resume (call : Nat)
  | drained (call : Nat)
  | cancel (call : Nat)
  | lose
  | announce
  | openSession
  deriving DecidableEq, Repr

namespace LeaseClient

/-- One transition for this call. -/
def stepCall (client : LeaseClient) (index : Nat) (call : AcquireCall) :
    LeaseAction → Option LeaseClient
  | .enter _ =>
      if call.phase = .locking ∧ client.acquireLock = none then
        some (client.enter index call.wait)
      else
        none
  -- the gate of a lost session admits nobody
  | .send _ =>
      if call.phase = .admitting ∧ client.usable ∧ call.enteredIn = client.session then
        some (client.updateCall index ({ · with phase := .requested, sent := true }))
      else
        none
  -- a request that was sent fails with its session only
  | .fail _ =>
      if call.phase = .admitting ∨ call.phase = .requested ∧
          ¬ (client.usable ∧ call.enteredIn = client.session) then
        some (client.abort index)
      else
        none
  | .timeout _ =>
      if call.phase = .requested ∧ client.usable ∧ call.enteredIn = client.session then
        some ((if client.unannounced = 0 then client.lose else client).abort index)
      else
        none
  | .decide _ reply =>
      if client.usable ∧ call.sent ∧ call.enteredIn = client.session ∧ call.decision = none then
        some (client.decide index reply)
      else
        none
  | .reply _ =>
      match call.decision with
      | some reply =>
          if client.usable ∧ call.enteredIn = client.session ∧ ¬ call.told then
            some (client.updateCall index fun call =>
              { call with
                told := true
                phase := if call.phase = .requested then .answered reply else call.phase })
          else
            none
      | none => none
  | .settle _ reply =>
      if client.usable ∧ index ∈ client.debts ∧ call.told then
        some (client.settle index reply)
      else
        none
  | .resume _ =>
      match call.phase with
      | .answered reply => some (client.resumeAnswered index call.wait reply)
      | .deferred => client.resumeDeferred index call.future
      | _ => none
  | .drained _ =>
      if call.phase = .draining ∧ call.future ≠ .pending then
        some (client.finish index .raised)
      else
        none
  | .cancel _ =>
      match call.phase with
      | .locking => some (client.updateCall index ({ · with phase := .raised }))
      | .admitting | .requested | .answered _ | .deferred => some (client.cancelHolder index)
      | _ => none
  | _ => none

/-- One transition. -/
def step (client : LeaseClient) (action : LeaseAction) : Option LeaseClient :=
  match action with
  | .acquire route wait => some { client with calls := client.calls ++ [{ route, wait }] }
  | .lose => if client.usable then some client.lose else none
  | .announce =>
      if 0 < client.unannounced then
        some { client.disconnect with unannounced := client.unannounced - 1 }
      else
        none
  | .openSession =>
      if client.usable then none
      else some { client with usable := true, session := client.session + 1, debts := [] }
  | .enter index | .send index | .fail index | .timeout index | .decide index _ | .reply index
  | .settle index _ | .resume index | .drained index | .cancel index =>
      client.calls[index]?.bind (client.stepCall index · action)

/-- All interleavings. -/
def system : LabelledSystem LeaseClient LeaseAction where
  starts client := client = {}
  step := step

/-- What a transition of one call does, and when. -/
inductive CallStep (client : LeaseClient) (index : Nat) (call : AcquireCall) :
    LeaseAction → LeaseClient → Prop
  | enter (locking : call.phase = .locking) (idle : client.acquireLock = none) :
      CallStep client index call (.enter index) (client.enter index call.wait)
  | send (admitting : call.phase = .admitting) (usable : client.usable = true)
      (current : call.enteredIn = client.session) :
      CallStep client index call (.send index)
        (client.updateCall index ({ · with phase := .requested, sent := true }))
  | fail (failing : call.phase = .admitting ∨ call.phase = .requested ∧
        ¬ (client.usable = true ∧ call.enteredIn = client.session)) :
      CallStep client index call (.fail index) (client.abort index)
  | timeout (requested : call.phase = .requested) (usable : client.usable = true)
      (current : call.enteredIn = client.session) (handling : client.unannounced ≠ 0) :
      CallStep client index call (.timeout index) (client.abort index)
  | timeoutLose (requested : call.phase = .requested) (usable : client.usable = true)
      (current : call.enteredIn = client.session) (handled : client.unannounced = 0) :
      CallStep client index call (.timeout index) (client.lose.abort index)
  | decide (reply : AcquireReply) (usable : client.usable = true) (sent : call.sent = true)
      (current : call.enteredIn = client.session) (undecided : call.decision = none) :
      CallStep client index call (.decide index reply) (client.decide index reply)
  | reply (reply : AcquireReply) (decided : call.decision = some reply)
      (usable : client.usable = true) (current : call.enteredIn = client.session)
      (requested : call.phase = .requested) :
      CallStep client index call (.reply index)
        (client.updateCall index ({ · with told := true, phase := .answered reply }))
  | replyUnread (usable : client.usable = true) (current : call.enteredIn = client.session)
      (unread : call.phase ≠ .requested) :
      CallStep client index call (.reply index) (client.updateCall index ({ · with told := true }))
  | settle (reply : AcquireReply) (usable : client.usable = true) (owed : index ∈ client.debts)
      (told : call.told = true) :
      CallStep client index call (.settle index reply) (client.settle index reply)
  | returnAtOnce (token : Nat) (answered : call.phase = .answered (.granted token))
      (none : call.wait = 0) :
      CallStep client index call (.resume index) (client.finish index (.returned token))
  | returnWaiting (token : Nat) (answered : call.phase = .answered (.granted token))
      (member : index ∈ client.queued) :
      CallStep client index call (.resume index)
        ({ client with queued := client.queued.erase index }.finish index (.returned token))
  | defer (answered : call.phase = .answered .queued) (waits : 0 < call.wait) :
      CallStep client index call (.resume index)
        (client.updateCall index ({ · with phase := .deferred }))
  | refuse (reply : AcquireReply) (answered : call.phase = .answered reply)
      (waits : reply = .queued → call.wait = 0) :
      CallStep client index call (.resume index) (client.abort index)
  | returnDeferred (token : Nat) (deferred : call.phase = .deferred)
      (result : call.future = .result (.granted token)) :
      CallStep client index call (.resume index) (client.finish index (.returned token))
  | interrupted (deferred : call.phase = .deferred) (done : call.future ≠ .pending) :
      CallStep client index call (.resume index) (client.abort index)
  | drained (draining : call.phase = .draining) (done : call.future ≠ .pending) :
      CallStep client index call (.drained index) (client.finish index .raised)
  | cancelLocking (locking : call.phase = .locking) :
      CallStep client index call (.cancel index)
        (client.updateCall index ({ · with phase := .raised }))
  | drain (holds : call.phase.holdsLock = true) (member : index ∈ client.queued) :
      CallStep client index call (.cancel index)
        (client.updateCall index ({ · with phase := .draining }))
  | cancelHolding (holds : call.phase.holdsLock = true) (absent : index ∉ client.queued) :
      CallStep client index call (.cancel index) (client.finish index .raised)

/-- What a transition does, and when. -/
inductive LeaseStep (client : LeaseClient) : LeaseAction → LeaseClient → Prop
  | ofCall {index : Nat} {call : AcquireCall} {action : LeaseAction} {after : LeaseClient}
      (found : client.calls[index]? = some call)
      (stepped : CallStep client index call action after) : LeaseStep client action after
  | acquire (route : String) (wait : Nat) :
      LeaseStep client (.acquire route wait)
        { client with calls := client.calls ++ [{ route, wait }] }
  | lose (usable : client.usable = true) : LeaseStep client .lose client.lose
  | announce (unannounced : 0 < client.unannounced) :
      LeaseStep client .announce
        { client.disconnect with unannounced := client.unannounced - 1 }
  | openSession (lost : client.usable = false) :
      LeaseStep client .openSession
        { client with usable := true, session := client.session + 1, debts := [] }

variable {client after : LeaseClient} {index : Nat} {call : AcquireCall} {action : LeaseAction}

/-- Updates of a call that agree on it do the same. -/
theorem updateCall_congr (found : client.calls[index]? = some call)
    {first : AcquireCall → AcquireCall} (second : AcquireCall → AcquireCall)
    (same : first call = second call) :
    client.updateCall index first = client.updateCall index second := by
  have calls : client.calls.modify index first = client.calls.modify index second := by
    apply List.ext_getElem?
    intro other
    by_cases apart : index = other
    · subst apart
      simp [found, same]
    · simp [apart]
  rw [updateCall, updateCall, calls]

theorem callStep_resumeAnswered {reply : AcquireReply}
    (answered : call.phase = .answered reply) :
    CallStep client index call (.resume index)
      (client.resumeAnswered index call.wait reply) := by
  cases reply with
  | granted token =>
      simp only [resumeAnswered]
      split
      · next none => exact .returnAtOnce token answered none
      · split
        · next member => exact .returnWaiting token answered member
        · exact .refuse _ answered nofun
  | queued =>
      simp only [resumeAnswered]
      split
      · next none => exact .refuse _ answered fun _ => none
      · next waits => exact .defer answered (Nat.pos_of_ne_zero waits)
  | alreadyQueued => exact .refuse _ answered nofun
  | refused => exact .refuse _ answered nofun

theorem callStep_resumeDeferred (deferred : call.phase = .deferred)
    (resumed : client.resumeDeferred index call.future = some after) :
    CallStep client index call (.resume index) after := by
  cases future : call.future with
  | pending =>
      rw [future] at resumed
      cases resumed
  | result reply =>
      rw [future] at resumed
      cases reply with
      | granted token =>
          obtain rfl := Option.some.inj resumed
          exact .returnDeferred token deferred future
      | queued | alreadyQueued | refused =>
          obtain rfl := Option.some.inj resumed
          exact .interrupted deferred (by rw [future]; nofun)
  | exception =>
      rw [future] at resumed
      obtain rfl := Option.some.inj resumed
      exact .interrupted deferred (by rw [future]; nofun)

theorem callStep_cancelHolder (holds : call.phase.holdsLock = true) :
    CallStep client index call (.cancel index) (client.cancelHolder index) := by
  unfold cancelHolder
  split
  · next member => exact .drain holds member
  · next absent => exact .cancelHolding holds absent

/-- Every transition is one of these. -/
theorem leaseStep_of_step (stepped : client.step action = some after) :
    LeaseStep client action after := by
  cases action with
  | acquire route wait =>
      obtain rfl := Option.some.inj stepped
      exact .acquire route wait
  | lose =>
      obtain ⟨usable, same⟩ := Option.ite_none_right_eq_some.mp stepped
      obtain rfl := Option.some.inj same
      exact .lose usable
  | announce =>
      obtain ⟨unannounced, same⟩ := Option.ite_none_right_eq_some.mp stepped
      obtain rfl := Option.some.inj same
      exact .announce unannounced
  | openSession =>
      obtain ⟨lost, same⟩ := Option.ite_none_left_eq_some.mp stepped
      obtain rfl := Option.some.inj same
      exact .openSession (by simpa using lost)
  | enter index =>
      obtain ⟨call, found, resumed⟩ := Option.bind_eq_some_iff.mp stepped
      obtain ⟨ready, same⟩ := Option.ite_none_right_eq_some.mp resumed
      obtain rfl := Option.some.inj same
      exact .ofCall found (.enter ready.1 ready.2)
  | send index =>
      obtain ⟨call, found, resumed⟩ := Option.bind_eq_some_iff.mp stepped
      obtain ⟨ready, same⟩ := Option.ite_none_right_eq_some.mp resumed
      obtain rfl := Option.some.inj same
      exact .ofCall found (.send ready.1 ready.2.1 ready.2.2)
  | fail index =>
      obtain ⟨call, found, resumed⟩ := Option.bind_eq_some_iff.mp stepped
      obtain ⟨ready, same⟩ := Option.ite_none_right_eq_some.mp resumed
      obtain rfl := Option.some.inj same
      exact .ofCall found (.fail ready)
  | timeout index =>
      obtain ⟨call, found, resumed⟩ := Option.bind_eq_some_iff.mp stepped
      obtain ⟨⟨requested, usable, current⟩, same⟩ := Option.ite_none_right_eq_some.mp resumed
      obtain rfl := Option.some.inj same
      split
      · next handled => exact .ofCall found (.timeoutLose requested usable current handled)
      · next handling => exact .ofCall found (.timeout requested usable current handling)
  | decide index reply =>
      obtain ⟨call, found, resumed⟩ := Option.bind_eq_some_iff.mp stepped
      obtain ⟨⟨usable, sent, current, undecided⟩, same⟩ :=
        Option.ite_none_right_eq_some.mp resumed
      obtain rfl := Option.some.inj same
      exact .ofCall found (.decide reply usable sent current undecided)
  | reply index =>
      obtain ⟨call, found, resumed⟩ := Option.bind_eq_some_iff.mp stepped
      cases decided : call.decision with
      | none =>
          simp only [stepCall, decided] at resumed
          cases resumed
      | some reply =>
          simp only [stepCall, decided] at resumed
          obtain ⟨⟨usable, current, -⟩, same⟩ := Option.ite_none_right_eq_some.mp resumed
          obtain rfl := Option.some.inj same
          by_cases requested : call.phase = .requested
          · rw [updateCall_congr found ({ · with told := true, phase := .answered reply })
              (by simp only [requested, if_true])]
            exact .ofCall found (.reply reply decided usable current requested)
          · rw [updateCall_congr found ({ · with told := true })
              (by simp only [requested, if_false])]
            exact .ofCall found (.replyUnread usable current requested)
  | settle index reply =>
      obtain ⟨call, found, resumed⟩ := Option.bind_eq_some_iff.mp stepped
      obtain ⟨⟨usable, owed, told⟩, same⟩ := Option.ite_none_right_eq_some.mp resumed
      obtain rfl := Option.some.inj same
      exact .ofCall found (.settle reply usable owed told)
  | resume index =>
      obtain ⟨call, found, resumed⟩ := Option.bind_eq_some_iff.mp stepped
      cases phase : call.phase with
      | answered reply =>
          simp only [stepCall, phase] at resumed
          obtain rfl := Option.some.inj resumed
          exact .ofCall found (callStep_resumeAnswered phase)
      | deferred =>
          simp only [stepCall, phase] at resumed
          exact .ofCall found (callStep_resumeDeferred phase resumed)
      | locking | admitting | requested | draining | returned token | raised =>
          simp only [stepCall, phase] at resumed
          cases resumed
  | drained index =>
      obtain ⟨call, found, resumed⟩ := Option.bind_eq_some_iff.mp stepped
      obtain ⟨ready, same⟩ := Option.ite_none_right_eq_some.mp resumed
      obtain rfl := Option.some.inj same
      exact .ofCall found (.drained ready.1 ready.2)
  | cancel index =>
      obtain ⟨call, found, resumed⟩ := Option.bind_eq_some_iff.mp stepped
      cases phase : call.phase with
      | locking =>
          simp only [stepCall, phase] at resumed
          obtain rfl := Option.some.inj resumed
          exact .ofCall found (.cancelLocking phase)
      | admitting | requested | answered reply | deferred =>
          simp only [stepCall, phase] at resumed
          obtain rfl := Option.some.inj resumed
          exact .ofCall found (callStep_cancelHolder (by rw [phase]; rfl))
      | draining | returned token | raised =>
          simp only [stepCall, phase] at resumed
          cases resumed

end LeaseClient

end FitzClient
