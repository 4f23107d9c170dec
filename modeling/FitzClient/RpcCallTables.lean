import FitzClient.RpcCaller

/-!
# The tables of calls

The keys of the calls are distinct, so whatever happens to one call leaves
alone what the tables say about the others.  It is enough to say of every
method what it does to its own call and to the entries under its key.

A call that is neither closed nor terminal is listed, and what ends it takes it
out of the list in the same step; ended early, it gets an entry with an armed
timer unless its future is resolved already.
-/

namespace FitzClient

namespace CancellationFuture

variable {future : CancellationFuture}

/-- The future was set or cancelled, and only once. -/
def Once (future : CancellationFuture) : Prop :=
  future.outcomes.length + future.cancelled.toNat ≤ 1

theorem done_iff : future.done = true ↔ 0 < future.outcomes.length + future.cancelled.toNat := by
  cases future with
  | mk outcomes cancelled => cases outcomes <;> cases cancelled <;> simp [done]

@[simp]
theorem done_resolve (future : CancellationFuture) (outcome : CancellationOutcome) :
    (future.resolve outcome).done = true := by
  unfold resolve
  split
  · assumption
  · simp [done]

theorem Once.resolve (once : future.Once) (outcome : CancellationOutcome) :
    (future.resolve outcome).Once := by
  unfold CancellationFuture.resolve
  split
  · exact once
  · next open_ =>
    rw [done_iff] at open_
    simp only [Once, List.length_append, List.length_singleton]
    omega

theorem Once.cancel (once : future.Once) : future.cancel.Once := by
  unfold CancellationFuture.cancel
  split
  · exact once
  · next open_ =>
    rw [done_iff] at open_
    simp only [Once, Bool.toNat_true]
    omega

theorem done_cancel (future : CancellationFuture) : future.cancel.done = true := by
  unfold CancellationFuture.cancel
  split
  · assumption
  · simp [done]

end CancellationFuture

namespace RpcCall

/-- What ends a call is put into the queue when it is closed. -/
def FramesOnly (call : RpcCall) : Prop :=
  call.closed = false → ∀ item ∈ call.queue, ∃ frame, item = .frame frame

theorem framesOnly_of_closed {call : RpcCall} (closed : call.closed = true) : call.FramesOnly :=
  fun open_ => absurd (closed.symm.trans open_) (by simp)

theorem FramesOnly.concat {call : RpcCall} (frames : call.FramesOnly) (frame : ResponseFrame)
    {next : RpcCall} (closed : next.closed = call.closed)
    (queue : next.queue = call.queue ++ [.frame frame]) : next.FramesOnly := by
  intro open_ item member
  rw [queue] at member
  rcases List.mem_append.mp member with old | last
  · exact frames (closed.symm.trans open_) item old
  · exact ⟨frame, List.mem_singleton.mp last⟩

variable (call : RpcCall) (error : CallError) (preserveBuffered : Bool) (item : CallItem)

@[simp]
theorem key_putError : (call.putError error).key = call.key := by
  unfold putError
  split <;> rfl

@[simp]
theorem closed_putError : (call.putError error).closed = call.closed := by
  unfold putError
  split <;> rfl

@[simp]
theorem cancellation_putError : (call.putError error).cancellation = call.cancellation := by
  unfold putError
  split <;> rfl

@[simp]
theorem opening_putError : (call.putError error).opening = call.opening := by
  unfold putError
  split <;> rfl

theorem opening_fail : (call.fail error preserveBuffered).opening = call.opening :=
  opening_putError _ error

@[simp]
theorem key_fail : (call.fail error preserveBuffered).key = call.key :=
  key_putError _ error

@[simp]
theorem closed_fail : (call.fail error preserveBuffered).closed = true :=
  closed_putError _ error

@[simp]
theorem cancellation_fail : (call.fail error preserveBuffered).cancellation =
    call.cancellation.resolve error.outcome :=
  cancellation_putError _ error

theorem key_take : (call.take item).key = call.key := by
  cases item with
  | frame frame => rfl
  | error error => rfl
  | stop => simp only [take]; split <;> rfl

theorem opening_take : (call.take item).opening = call.opening := by
  cases item with
  | frame frame => rfl
  | error error => rfl
  | stop => simp only [take]; split <;> rfl

theorem cancellation_take : (call.take item).cancellation = call.cancellation := by
  cases item with
  | frame frame => rfl
  | error error => rfl
  | stop => simp only [take]; split <;> rfl

theorem closed_take (closed : call.closed = true) : (call.take item).closed = true := by
  cases item with
  | frame frame => exact closed
  | error error => rfl
  | stop => simp only [take]; split <;> rfl

end RpcCall

namespace RpcCaller

variable {caller before after : RpcCaller} {index : Nat} {call next : RpcCall}

/-- What the tables say about a call. -/
structure Tracked (caller : RpcCaller) (index : Nat) (call : RpcCall) : Prop where
  pending : ∀ other, caller.pending.lookup call.key = some other →
    other = index ∧ call.ended = false
  listed : call.opening ≠ .raised → call.ended = false →
    caller.pending.lookup call.key = some index
  entry : ∀ other timer, caller.cancellations.lookup call.key = some (other, timer) →
    other = index ∧ caller.timers[timer]? = some { key := call.key }
  resolvable : call.ended = true → call.cancellation.done = true ∨
    ∃ timer, caller.cancellations.lookup call.key = some (index, timer)
  once : call.cancellation.Once
  frames : call.FramesOnly
  width : call.key.length = 16

/-- Every call is tracked under a key of its own, and the tables have no other
keys. -/
structure Consistent (caller : RpcCaller) : Prop where
  distinct : ∀ {first second : Nat} {call other : RpcCall}, caller.calls[first]? = some call →
    caller.calls[second]? = some other → call.key = other.key → first = second
  pendingKnown : ∀ {key : Bytes} {index : Nat}, caller.pending.lookup key = some index →
    ∃ call, caller.calls[index]? = some call ∧ call.key = key
  entryKnown : ∀ {key : Bytes} {index timer : Nat},
    caller.cancellations.lookup key = some (index, timer) →
    ∃ call, caller.calls[index]? = some call ∧ call.key = key
  tracked : ∀ {index : Nat} {call : RpcCall}, caller.calls[index]? = some call →
    Tracked caller index call

/-- What is under other keys is left alone. -/
structure Spares (before after : RpcCaller) (key : Bytes) : Prop where
  pending : ∀ other, other ≠ key → after.pending.lookup other = before.pending.lookup other
  entries : ∀ other, other ≠ key →
    after.cancellations.lookup other = before.cancellations.lookup other
  timers : ∀ (timer : Nat) (handle : GraceTimer), before.timers[timer]? = some handle →
    handle.key ≠ key → after.timers[timer]? = some handle

namespace Tracked

/-- The fields that the tables depend on are the same. -/
theorem same (tracked : Tracked caller index call) (key : next.key = call.key)
    (opening : next.opening = call.opening) (ended : next.ended = call.ended)
    (cancellation : next.cancellation = call.cancellation)
    (frames : call.FramesOnly → next.FramesOnly) : Tracked caller index next where
  pending := by rw [key, ended]; exact tracked.pending
  listed := by rw [key, ended, opening]; exact tracked.listed
  entry := by rw [key]; exact tracked.entry
  resolvable := by rw [key, ended, cancellation]; exact tracked.resolvable
  once := by rw [cancellation]; exact tracked.once
  frames := frames tracked.frames
  width := by rw [key]; exact tracked.width

theorem spared (tracked : Tracked before index call) {key : Bytes}
    (spares : Spares before after key) (other : call.key ≠ key) : Tracked after index call where
  pending := by rw [spares.pending _ other]; exact tracked.pending
  listed := by rw [spares.pending _ other]; exact tracked.listed
  entry := by
    rw [spares.entries _ other]
    intro second timer found
    obtain ⟨same, armed⟩ := tracked.entry second timer found
    exact ⟨same, spares.timers timer _ armed other⟩
  resolvable := by rw [spares.entries _ other]; exact tracked.resolvable
  once := tracked.once
  frames := tracked.frames
  width := tracked.width

end Tracked

namespace Consistent

/-- One call is replaced, and only what is under its key changes. -/
theorem replace (consistent : Consistent before) (found : before.calls[index]? = some call)
    (next : RpcCall) (key : next.key = call.key) (calls : after.calls = before.calls.set index next)
    (spares : Spares before after call.key) (tracked : Tracked after index next) :
    Consistent after := by
  have bound : index < before.calls.length := (List.getElem?_eq_some_iff.mp found).1
  have own : after.calls[index]? = some next := by rw [calls, List.getElem?_set_self bound]
  have others : ∀ other, other ≠ index → after.calls[other]? = before.calls[other]? := by
    intro other apart
    rw [calls, List.getElem?_set_ne (Ne.symm apart)]
  -- the call at an index has the key that the call there had before
  have origin : ∀ {other : Nat} {found : RpcCall}, after.calls[other]? = some found →
      ∃ earlier, before.calls[other]? = some earlier ∧ found.key = earlier.key := by
    intro other later foundLater
    by_cases same : other = index
    · subst same
      obtain rfl : next = later := Option.some.inj (own.symm.trans foundLater)
      exact ⟨call, found, key⟩
    · rw [others other same] at foundLater
      exact ⟨later, foundLater, rfl⟩
  have kept : ∀ {other : Nat} {earlier : RpcCall}, before.calls[other]? = some earlier →
      ∃ later, after.calls[other]? = some later ∧ later.key = earlier.key := by
    intro other earlier foundEarlier
    by_cases same : other = index
    · subst same
      obtain rfl : call = earlier := Option.some.inj (found.symm.trans foundEarlier)
      exact ⟨next, own, key⟩
    · exact ⟨earlier, (others other same).trans foundEarlier, rfl⟩
  refine ⟨?_, ?_, ?_, ?_⟩
  · intro first second firstCall secondCall foundFirst foundSecond sameKey
    obtain ⟨earlier, foundEarlier, keyEarlier⟩ := origin foundFirst
    obtain ⟨other, foundOther, keyOther⟩ := origin foundSecond
    exact consistent.distinct foundEarlier foundOther
      (keyEarlier.symm.trans (sameKey.trans keyOther))
  · intro other listed foundKey
    by_cases same : other = call.key
    · subst same
      rw [← key] at foundKey
      obtain ⟨rfl, -⟩ := tracked.pending _ foundKey
      exact ⟨next, own, key⟩
    · rw [spares.pending other same] at foundKey
      obtain ⟨earlier, foundEarlier, rfl⟩ := consistent.pendingKnown foundKey
      exact kept foundEarlier
  · intro other owner timer foundKey
    by_cases same : other = call.key
    · subst same
      rw [← key] at foundKey
      obtain ⟨rfl, -⟩ := tracked.entry _ _ foundKey
      exact ⟨next, own, key⟩
    · rw [spares.entries other same] at foundKey
      obtain ⟨earlier, foundEarlier, rfl⟩ := consistent.entryKnown foundKey
      exact kept foundEarlier
  · intro other later foundLater
    by_cases same : other = index
    · subst same
      obtain rfl : next = later := Option.some.inj (own.symm.trans foundLater)
      exact tracked
    · rw [others other same] at foundLater
      refine (consistent.tracked foundLater).spared spares fun sameKey => same ?_
      exact consistent.distinct foundLater found sameKey

/-- Only the call changes. -/
theorem put (consistent : Consistent caller) (found : caller.calls[index]? = some call)
    (key : next.key = call.key) (tracked : Tracked caller index next) :
    Consistent (caller.put index next) :=
  consistent.replace found _ key rfl ⟨fun _ _ => rfl, fun _ _ => rfl, fun _ _ found _ => found⟩
    ⟨tracked.pending, tracked.listed, tracked.entry, tracked.resolvable, tracked.once,
      tracked.frames, tracked.width⟩

end Consistent

@[simp]
theorem calls_unlist (caller : RpcCaller) (index : Nat) (call : RpcCall) :
    (caller.unlist index call).calls = caller.calls := by
  unfold unlist
  split <;> rfl

@[simp]
theorem cancellations_unlist (caller : RpcCaller) (index : Nat) (call : RpcCall) :
    (caller.unlist index call).cancellations = caller.cancellations := by
  unfold unlist
  split <;> rfl

@[simp]
theorem timers_unlist (caller : RpcCaller) (index : Nat) (call : RpcCall) :
    (caller.unlist index call).timers = caller.timers := by
  unfold unlist
  split <;> rfl

theorem lookup_unlist_of_ne {key : Bytes} (other : key ≠ call.key) :
    (caller.unlist index call).pending.lookup key = caller.pending.lookup key := by
  unfold unlist
  split
  · exact AList.lookup_erase_ne other
  · rfl

theorem lookup_unlist_self (own : ∀ other, caller.pending.lookup call.key = some other →
    other = index) : (caller.unlist index call).pending.lookup call.key = none := by
  unfold unlist
  split
  · exact AList.lookup_erase _ _
  · next unlisted =>
    cases found : caller.pending.lookup call.key with
    | none => rfl
    | some other =>
        obtain rfl := own other found
        exact absurd found unlisted

theorem lookup_of_unlist {key : Bytes} {other : Nat}
    (found : (caller.unlist index call).pending.lookup key = some other) :
    caller.pending.lookup key = some other := by
  unfold unlist at found
  split at found
  · exact (Dictionary.lookup_erase_eq_some.mp found).2
  · exact found

theorem spares_unlist (caller : RpcCaller) (index : Nat) (call : RpcCall) :
    Spares caller (caller.unlist index call) call.key where
  pending _ other := lookup_unlist_of_ne other
  entries _ _ := by rw [cancellations_unlist]
  timers _ _ found _ := by rwa [timers_unlist]

theorem Spares.put {key : Bytes} (spares : Spares before after key) (index : Nat)
    (call : RpcCall) : Spares before (after.put index call) key :=
  ⟨spares.pending, spares.entries, spares.timers⟩

namespace Consistent

/-- The call ends and its future is resolved. -/
theorem finish (consistent : Consistent caller) (found : caller.calls[index]? = some call)
    (last : RpcCall) (key : last.key = call.key) (ended : last.ended = true)
    (done : last.cancellation.done = true) (once : last.cancellation.Once)
    (frames : last.FramesOnly) : Consistent ((caller.unlist index call).put index last) := by
  have tracked := consistent.tracked found
  have unlisted : (caller.unlist index call).pending.lookup last.key = none := by
    rw [key]
    exact lookup_unlist_self fun other listed => (tracked.pending other listed).1
  refine consistent.replace found _ key (by simp [RpcCaller.put])
    ((spares_unlist caller index call).put index last) ?_
  constructor
  · intro other listed
    exact absurd (unlisted.symm.trans listed) (by simp)
  · intro _ unended
    exact absurd (ended.symm.trans unended) (by simp)
  · intro other timer entry
    rw [key] at entry ⊢
    simp only [RpcCaller.put, cancellations_unlist, timers_unlist] at entry ⊢
    exact tracked.entry other timer entry
  · exact fun _ => Or.inl done
  · exact once
  · exact frames
  · rw [key]
    exact tracked.width

theorem fail (consistent : Consistent caller) (found : caller.calls[index]? = some call)
    (error : CallError) (preserveBuffered : Bool) :
    Consistent (caller.fail index call error preserveBuffered) := by
  unfold RpcCaller.fail
  split
  · exact consistent
  · refine consistent.finish found (call.fail error preserveBuffered) (by simp)
      (by simp [RpcCall.ended]) (by simp) ?_ (RpcCall.framesOnly_of_closed (by simp))
    rw [RpcCall.cancellation_fail]
    exact (consistent.tracked found).once.resolve error.outcome

theorem push (consistent : Consistent caller) (found : caller.calls[index]? = some call)
    (frame : ResponseFrame) (final : Bool) : Consistent (caller.push index call frame final) := by
  unfold RpcCaller.push
  split
  · exact consistent
  · split
    · exact consistent.fail found .fellBehind false
    · split
      · refine consistent.finish found (call.finish frame) rfl ?_ (by simp [RpcCall.finish])
          ((consistent.tracked found).once.resolve _)
          ((consistent.tracked found).frames.concat frame rfl rfl)
        simp [RpcCall.finish, RpcCall.ended]
      · exact consistent.put found rfl ((consistent.tracked found).same rfl rfl rfl rfl
          fun frames => frames.concat frame rfl rfl)

/-- The call ends, and its future is resolved or gets an entry. -/
theorem abandonCall (consistent : Consistent caller) (found : caller.calls[index]? = some call)
    (last : RpcCall) (key : last.key = call.key) (closed : last.closed = true)
    (cancellation : last.cancellation = call.cancellation) (reason : Nat) :
    Consistent (caller.abandonCall index last reason) := by
  have ended : last.ended = true := by simp [RpcCall.ended, closed]
  have tracked := consistent.tracked found
  have unlisted : (caller.unlist index last).pending.lookup last.key = none :=
    lookup_unlist_self fun other listed => (tracked.pending other (key ▸ listed)).1
  have spares := key ▸ spares_unlist caller index last
  unfold RpcCaller.abandonCall
  dsimp only
  split
  · next settled =>
    refine consistent.replace found _ key (by simp [RpcCaller.put]) (spares.put index last) ?_
    constructor
    · intro other listed
      exact absurd (unlisted.symm.trans listed) (by simp)
    · intro _ unended
      exact absurd (ended.symm.trans unended) (by simp)
    · intro other timer entry
      rw [key] at entry ⊢
      simp only [RpcCaller.put, cancellations_unlist, timers_unlist] at entry ⊢
      exact tracked.entry other timer entry
    · intro _
      refine settled.imp_right fun present => ?_
      obtain ⟨⟨other, timer⟩, entry⟩ := Option.isSome_iff_exists.mp present
      simp only [cancellations_unlist] at entry
      obtain ⟨rfl, -⟩ := tracked.entry other timer (key ▸ entry)
      exact ⟨timer, by simpa [RpcCaller.put] using entry⟩
    · rw [cancellation]
      exact tracked.once
    · exact RpcCall.framesOnly_of_closed closed
    · rw [key]
      exact tracked.width
  · refine consistent.replace found { last with abandoning := some reason } key
      (by simp [RpcCaller.put]) ?_ ?_
    · constructor
      · exact spares.pending
      · intro other apart
        simp only [cancellations_unlist]
        exact AList.lookup_insert_ne (key ▸ apart)
      · intro timer handle armed apart
        simp only [timers_unlist]
        exact getElem?_concat_eq_some.mpr (Or.inl armed)
    · have inserted : (caller.cancellations.insert last.key (index, caller.timers.length)).lookup
          last.key = some (index, caller.timers.length) := AList.lookup_insert _
      constructor
      · intro other listed
        exact absurd (unlisted.symm.trans listed) (by simp)
      · intro _ unended
        exact absurd (ended.symm.trans unended) (by simp)
      · intro other timer entry
        simp only [cancellations_unlist, timers_unlist] at entry ⊢
        obtain ⟨rfl, rfl⟩ := Prod.mk.inj (Option.some.inj (inserted.symm.trans entry))
        exact ⟨rfl, getElem?_concat_eq_some.mpr (Or.inr ⟨rfl, rfl⟩)⟩
      · intro _
        refine Or.inr ⟨caller.timers.length, ?_⟩
        simpa only [cancellations_unlist, timers_unlist] using inserted
      · rw [cancellation]
        exact tracked.once
      · exact RpcCall.framesOnly_of_closed closed
      · exact (congrArg List.length key).trans tracked.width

/-- `next` is the call with an update that does not concern its end. -/
theorem closeAndCancel (consistent : Consistent caller)
    (found : caller.calls[index]? = some call) (next : RpcCall) (key : next.key = call.key)
    (opening : next.opening = call.opening) (ended : next.ended = call.ended)
    (cancellation : next.cancellation = call.cancellation)
    (frames : call.FramesOnly → next.FramesOnly) (reason : Nat) :
    Consistent (caller.closeAndCancel index next reason) := by
  unfold RpcCaller.closeAndCancel
  split
  · exact consistent.put found key
      ((consistent.tracked found).same key opening ended cancellation frames)
  · exact consistent.abandonCall found next.close key rfl cancellation reason

/-- The timer of the key may have been fired. -/
theorem settleCancellation (consistent : Consistent caller) (key : Bytes)
    (outcome : CancellationOutcome) (timers : List GraceTimer)
    (kept : ∀ (timer : Nat) (handle : GraceTimer), caller.timers[timer]? = some handle →
      handle.key ≠ key → timers[timer]? = some handle) :
    Consistent ({ caller with timers }.settleCancellation key outcome) := by
  unfold RpcCaller.settleCancellation
  cases entry : caller.cancellations.lookup key with
  | none =>
      dsimp only
      refine ⟨consistent.distinct, consistent.pendingKnown, consistent.entryKnown, ?_⟩
      intro index call found
      have tracked := consistent.tracked found
      refine ⟨tracked.pending, tracked.listed, fun other timer own => ?_, tracked.resolvable,
        tracked.once, tracked.frames, tracked.width⟩
      obtain ⟨same, armed⟩ := tracked.entry other timer own
      refine ⟨same, kept timer _ armed fun keyed => ?_⟩
      dsimp only at keyed
      exact absurd (entry.symm.trans (keyed ▸ own)) (by simp)
  | some pair =>
      obtain ⟨index, timer⟩ := pair
      dsimp only
      obtain ⟨call, found, rfl⟩ := consistent.entryKnown entry
      have tracked := consistent.tracked found
      have armed := (tracked.entry index timer entry).2
      have bound : index < caller.calls.length := (List.getElem?_eq_some_iff.mp found).1
      refine consistent.replace found
        { call with cancellation := call.cancellation.resolve outcome } rfl ?_ ?_ ?_
      · simp only [List.modify_eq_set_getElem?, found, Option.map_eq_map, Option.map_some,
          Option.getD_some]
      · refine ⟨fun _ _ => rfl, fun other apart => AList.lookup_erase_ne apart, ?_⟩
        intro other handle foundTimer apart
        refine getElem?_modify_eq_some.mpr ⟨handle, kept other handle foundTimer apart, ?_⟩
        rw [if_neg]
        rintro rfl
        obtain rfl := Option.some.inj (armed.symm.trans foundTimer)
        exact apart rfl
      · have erased : (caller.cancellations.erase call.key).lookup call.key = none :=
          AList.lookup_erase _ _
        refine ⟨tracked.pending, tracked.listed, fun other timer own => ?_, ?_,
          tracked.once.resolve outcome, tracked.frames, tracked.width⟩
        · exact absurd (erased.symm.trans own) (by simp)
        · exact fun _ => Or.inl (CancellationFuture.done_resolve _ _)

end Consistent

/-- The call at this index is closed, if there is one. -/
def ClosedAt (caller : RpcCaller) (index : Nat) : Prop :=
  ∀ call, caller.calls[index]? = some call → call.closed = true

theorem lookup_of_fail {error : CallError} {preserveBuffered : Bool} {key : Bytes} {other : Nat}
    (found : (caller.fail index call error preserveBuffered).pending.lookup key = some other) :
    caller.pending.lookup key = some other := by
  unfold fail at found
  split at found
  · exact found
  · exact lookup_of_unlist found

theorem closedAt_fail (found : caller.calls[index]? = some call) (error : CallError)
    (preserveBuffered : Bool) : ClosedAt (caller.fail index call error preserveBuffered) index := by
  unfold fail
  intro later foundLater
  split at foundLater
  · next closed =>
    obtain rfl := Option.some.inj (found.symm.trans foundLater)
    exact closed
  · have bound : index < caller.calls.length := (List.getElem?_eq_some_iff.mp found).1
    simp only [put, calls_unlist, List.getElem?_set_self bound] at foundLater
    obtain rfl := Option.some.inj foundLater
    exact RpcCall.closed_fail _ _ _

theorem ClosedAt.fail {other : Nat} (closed : ClosedAt caller other) (error : CallError)
    (preserveBuffered : Bool) : ClosedAt (caller.fail index call error preserveBuffered) other := by
  unfold RpcCaller.fail
  intro later foundLater
  split at foundLater
  · exact closed later foundLater
  · simp only [put, calls_unlist, List.getElem?_set] at foundLater
    split_ifs at foundLater
    · obtain rfl := Option.some.inj foundLater
      exact RpcCall.closed_fail _ _ _
    · exact closed later foundLater

/-- Every call of the list is closed, and nothing is listed anew. -/
theorem failPending_spec (consistent : Consistent caller) (indices : List Nat) :
    Consistent (caller.failPending indices) ∧
      (∀ key index, (caller.failPending indices).pending.lookup key = some index →
        caller.pending.lookup key = some index) ∧
      ∀ index, ClosedAt caller index ∨ index ∈ indices →
        ClosedAt (caller.failPending indices) index := by
  induction indices generalizing caller with
  | nil =>
      exact ⟨consistent, fun _ _ found => found, fun _ closed => closed.resolve_right (by simp)⟩
  | cons head tail ih =>
      cases found : caller.calls[head]? with
      | none =>
          have skipped : caller.failPending (head :: tail) = caller.failPending tail := by
            simp only [failPending, List.foldl_cons, found]
          rw [skipped]
          obtain ⟨kept, shrinks, closes⟩ := ih consistent
          refine ⟨kept, shrinks, fun index closed => closes index ?_⟩
          rcases closed with closed | listed
          · exact Or.inl closed
          · rcases List.mem_cons.mp listed with rfl | later
            · exact Or.inl fun call foundCall => absurd (found.symm.trans foundCall) (by simp)
            · exact Or.inr later
      | some call =>
          have failed : caller.failPending (head :: tail) =
              (caller.fail head call .disconnected true).failPending tail := by
            simp only [failPending, List.foldl_cons, found]
          rw [failed]
          obtain ⟨kept, shrinks, closes⟩ := ih (consistent.fail found .disconnected true)
          refine ⟨kept, fun key index listed => lookup_of_fail (shrinks key index listed),
            fun index closed => closes index ?_⟩
          rcases closed with closed | listed
          · exact Or.inl (closed.fail _ _)
          · rcases List.mem_cons.mp listed with rfl | later
            · exact Or.inl (closedAt_fail found _ _)
            · exact Or.inr later

namespace Consistent

theorem settleAll (consistent : Consistent caller) (keys : List Bytes) :
    Consistent (caller.settleAll keys) := by
  induction keys generalizing caller with
  | nil => exact consistent
  | cons key keys ih =>
      exact ih (consistent.settleCancellation key .connectionClosed caller.timers
        fun _ _ found _ => found)

/-- `_pending.clear()` finds nothing left. -/
theorem disconnect (consistent : Consistent caller) : Consistent caller.disconnect := by
  obtain ⟨failed, shrinks, closes⟩ :=
    failPending_spec consistent (caller.pending.entries.map Sigma.snd)
  unfold RpcCaller.disconnect
  set after := caller.failPending (caller.pending.entries.map Sigma.snd)
  have unlisted : ∀ key, after.pending.lookup key = none := by
    intro key
    cases listed : after.pending.lookup key with
    | none => rfl
    | some index =>
        have member : index ∈ caller.pending.entries.map Sigma.snd :=
          List.mem_map.mpr ⟨⟨key, index⟩, AList.mem_lookup_iff.mp (shrinks key index listed), rfl⟩
        obtain ⟨call, found, rfl⟩ := failed.pendingKnown listed
        have closed := closes index (Or.inr member) call found
        have unended := ((failed.tracked found).pending index listed).2
        rw [RpcCall.ended, closed] at unended
        cases unended
  have cleared : Consistent { after with pending := ∅ } := by
    refine ⟨failed.distinct, fun found => ?_, failed.entryKnown, fun found => ?_⟩
    · simp at found
    · have tracked := failed.tracked found
      refine ⟨fun other listed => ?_, fun opened unended => ?_, tracked.entry,
        tracked.resolvable, tracked.once, tracked.frames, tracked.width⟩
      · simp at listed
      · exact absurd (tracked.listed opened unended) (by simp [unlisted])
  exact cleared.settleAll _

end Consistent

namespace Consistent

theorem openCall (consistent : Consistent caller) (capacity : Nat) {key : Bytes}
    (width : key.length = 16) (fresh : key ∉ caller.calls.map (·.key)) (route : CodePoints)
    (body : Bytes) (budget : Option Nat) (parent : Bool) :
    Consistent (caller.openCall capacity key route body budget parent) := by
  have apart : ∀ {index : Nat} {call : RpcCall}, caller.calls[index]? = some call →
      call.key ≠ key := by
    rintro index call found rfl
    exact fresh (List.mem_map.mpr ⟨call, List.mem_of_getElem? found, rfl⟩)
  have unentered : caller.cancellations.lookup key = none := by
    cases entry : caller.cancellations.lookup key with
    | none => rfl
    | some pair =>
        obtain ⟨index, timer⟩ := pair
        obtain ⟨call, found, same⟩ := consistent.entryKnown entry
        exact absurd same (apart found)
  constructor
  · intro first second call other foundFirst foundSecond same
    rcases getElem?_concat_eq_some.mp foundFirst with oldFirst | ⟨rfl, rfl⟩ <;>
      rcases getElem?_concat_eq_some.mp foundSecond with oldSecond | ⟨rfl, rfl⟩
    · exact consistent.distinct oldFirst oldSecond same
    · exact absurd same (apart oldFirst)
    · exact absurd same.symm (apart oldSecond)
    · rfl
  · intro other index listed
    rcases Dictionary.lookup_insert_eq_some.mp listed with ⟨rfl, rfl⟩ | ⟨-, old⟩
    · exact ⟨_, getElem?_concat_eq_some.mpr (Or.inr ⟨rfl, rfl⟩), rfl⟩
    · obtain ⟨call, found, same⟩ := consistent.pendingKnown old
      exact ⟨call, getElem?_concat_eq_some.mpr (Or.inl found), same⟩
  · intro other index timer entry
    obtain ⟨call, found, same⟩ := consistent.entryKnown entry
    exact ⟨call, getElem?_concat_eq_some.mpr (Or.inl found), same⟩
  · intro index call found
    rcases getElem?_concat_eq_some.mp found with old | ⟨rfl, rfl⟩
    · refine (consistent.tracked old).spared ⟨fun other different => ?_,
        fun _ _ => rfl, fun _ _ armed _ => armed⟩ (apart old)
      exact AList.lookup_insert_ne different
    · have inserted : (caller.pending.insert key caller.calls.length).lookup key =
          some caller.calls.length := AList.lookup_insert _
      refine ⟨fun other listed => ?_, fun _ _ => inserted, fun other timer entry => ?_,
        fun ended => ?_, ?_, fun _ item member => ?_, width⟩
      · exact ⟨(Option.some.inj (inserted.symm.trans listed)).symm, rfl⟩
      · exact absurd (unentered.symm.trans entry) (by simp)
      · cases ended
      · simp [CancellationFuture.Once]
      · simp at member

theorem deliver (consistent : Consistent caller) (message : ResponseMessage) :
    Consistent (caller.deliver message) := by
  unfold RpcCaller.deliver
  cases listed : caller.pending.lookup message.key with
  | none => exact consistent
  | some index =>
      obtain ⟨call, found, same⟩ := consistent.pendingKnown listed
      simp only [found]
      split
      · next error _ =>
        -- `fail` has taken the call out of the list already
        have unlisted : (caller.fail index call (.rpc error) true).pending.lookup message.key =
            none := by
          have tracked := consistent.tracked found
          rw [← same] at listed ⊢
          have unclosed : call.closed = false :=
            (Bool.or_eq_false_iff.mp (tracked.pending index listed).2).1
          rw [RpcCaller.fail, if_neg (by simp [unclosed])]
          exact lookup_unlist_self fun other pending => (tracked.pending other pending).1
        rw [Dictionary.erase_eq_self unlisted]
        exact consistent.fail found _ _
      · exact consistent.push found _ _

theorem onResponse (consistent : Consistent caller) (payload : Bytes) :
    Consistent (caller.onResponse payload) := by
  unfold RpcCaller.onResponse
  split
  · exact consistent
  · exact consistent.deliver _

theorem settle (consistent : Consistent caller) (key : Bytes) (outcome : CancellationOutcome) :
    Consistent (caller.settleCancellation key outcome) :=
  consistent.settleCancellation key outcome caller.timers fun _ _ found _ => found

theorem onLifecycle (consistent : Consistent caller) (payload : Bytes) :
    Consistent (caller.onLifecycle payload) := by
  unfold RpcCaller.onLifecycle
  split
  · split
    · exact consistent
    · exact consistent.settle _ _
  · exact consistent

/-- The call keeps what the tables depend on. -/
theorem putSame (consistent : Consistent caller) (found : caller.calls[index]? = some call)
    (next : RpcCall) (key : next.key = call.key) (opening : next.opening = call.opening)
    (ended : next.ended = call.ended) (cancellation : next.cancellation = call.cancellation)
    (frames : call.FramesOnly → next.FramesOnly) : Consistent (caller.put index next) :=
  consistent.put found key
    ((consistent.tracked found).same key opening ended cancellation frames)

theorem read (consistent : Consistent caller) (found : caller.calls[index]? = some call)
    (expired : Bool) : Consistent (caller.read index call expired) := by
  unfold RpcCaller.read
  split
  · exact consistent.putSame found _ rfl rfl rfl rfl id
  · split_ifs
    · exact consistent.putSame found _ rfl rfl rfl rfl id
    · exact consistent.closeAndCancel found (call.record (.raised .timedOut)) rfl rfl rfl rfl id 2
    · exact consistent.putSame found _ rfl rfl rfl rfl id

theorem cancellationSent (consistent : Consistent caller)
    (found : caller.calls[index]? = some call) (outcome : CancellationSend) :
    Consistent (caller.cancellationSent index call outcome) := by
  have sent : Consistent (caller.put index { call with abandoning := none }) :=
    consistent.putSame found _ rfl rfl rfl rfl id
  cases outcome with
  | returned | cancelled => exact sent
  | disconnected => exact sent.settle _ _
  | failed => exact sent.settle _ _

/-- The REQUEST was sent, and `open_call` returns the call. -/
theorem sendReturned (consistent : Consistent caller) (found : caller.calls[index]? = some call)
    (sending : call.opening = .sending) (next : RpcCall) (key : next.key = call.key)
    (ended : next.ended = call.ended) (cancellation : next.cancellation = call.cancellation)
    (frames : call.FramesOnly → next.FramesOnly) : Consistent (caller.put index next) := by
  have tracked := consistent.tracked found
  refine consistent.put found key ⟨?_, fun _ unended => ?_, ?_, ?_, ?_, frames tracked.frames, ?_⟩
  · rw [key, ended]
    exact tracked.pending
  · rw [key]
    exact tracked.listed (by simp [sending]) (ended.symm.trans unended)
  · rw [key]
    exact tracked.entry
  · rw [key, ended, cancellation]
    exact tracked.resolvable
  · rw [cancellation]
    exact tracked.once
  · rw [key]
    exact tracked.width

/-- `open_call` raises after it has taken the call out of the list. -/
theorem sendRaised (consistent : Consistent caller) (found : caller.calls[index]? = some call) :
    Consistent { caller.put index { call with opening := .raised } with
      pending := caller.pending.erase call.key } := by
  have tracked := consistent.tracked found
  have erased : (caller.pending.erase call.key).lookup call.key = none := AList.lookup_erase _ _
  refine consistent.replace found { call with opening := .raised } rfl rfl
    ⟨fun other apart => AList.lookup_erase_ne apart, fun _ _ => rfl, fun _ _ armed _ => armed⟩
    ⟨fun other listed => ?_, fun opened => absurd rfl opened, tracked.entry, tracked.resolvable,
      tracked.once, tracked.frames, tracked.width⟩
  exact absurd (erased.symm.trans listed) (by simp)

/-- A cancelled future is as good as a resolved one. -/
theorem cancelAwaiter (consistent : Consistent caller)
    (found : caller.calls[index]? = some call) :
    Consistent (caller.put index { call with cancellation := call.cancellation.cancel }) := by
  have tracked := consistent.tracked found
  exact consistent.put found rfl ⟨tracked.pending, tracked.listed, tracked.entry,
    fun _ => Or.inl (CancellationFuture.done_cancel _), tracked.once.cancel, tracked.frames,
    tracked.width⟩

/-- An item that ends the call was put into the queue when it was closed. -/
theorem take (consistent : Consistent caller) (found : caller.calls[index]? = some call)
    {item : CallItem} {queue : List CallItem} (items : call.queue = item :: queue) :
    Consistent (caller.put index ({ call with queue, readers := call.readers - 1 }.take item)) := by
  have frames := (consistent.tracked found).frames
  by_cases closed : call.closed = true
  · have closedAfter := RpcCall.closed_take
      { call with queue, readers := call.readers - 1 } item closed
    refine consistent.putSame found _ (RpcCall.key_take _ item) (RpcCall.opening_take _ item) ?_
      (RpcCall.cancellation_take _ item) fun _ => RpcCall.framesOnly_of_closed closedAfter
    rw [RpcCall.ended, RpcCall.ended, closedAfter, closed, Bool.true_or, Bool.true_or]
  · have open_ : call.closed = false := by simpa using closed
    obtain ⟨frame, rfl⟩ := frames open_ item (by simp [items])
    refine consistent.putSame found _ rfl rfl rfl rfl fun _ _ other member => ?_
    exact frames open_ other (by rw [items]; exact List.mem_cons_of_mem _ member)

end Consistent

theorem consistent_stepCall {action : RpcCallerAction} (consistent : Consistent before)
    (found : before.calls[index]? = some call)
    (stepped : before.stepCall index call action = some after) : Consistent after := by
  cases action with
  | sendReturned _ =>
      obtain ⟨sending, stepped⟩ := Option.ite_none_right_eq_some.mp stepped
      obtain rfl := Option.some.inj stepped
      exact consistent.sendReturned found sending _ rfl rfl rfl id
  | sendRaised _ =>
      obtain ⟨-, stepped⟩ := Option.ite_none_right_eq_some.mp stepped
      obtain rfl := Option.some.inj stepped
      exact consistent.sendRaised found
  | read _ expired =>
      obtain ⟨-, stepped⟩ := Option.ite_none_right_eq_some.mp stepped
      obtain rfl := Option.some.inj stepped
      exact consistent.read found expired
  | take _ =>
      cases items : call.queue with
      | nil => simp [stepCall, items] at stepped
      | cons item queue =>
          simp only [stepCall, items] at stepped
          obtain ⟨-, stepped⟩ := Option.ite_none_right_eq_some.mp stepped
          obtain rfl := Option.some.inj stepped
          exact consistent.take found items
  | readCancelled _ | readTimedOut _ =>
      obtain ⟨-, stepped⟩ := Option.ite_none_right_eq_some.mp stepped
      obtain rfl := Option.some.inj stepped
      refine consistent.closeAndCancel found _ ?_ ?_ ?_ ?_ ?_ _ <;> first | rfl | exact id
  | close _ =>
      obtain ⟨-, stepped⟩ := Option.ite_none_right_eq_some.mp stepped
      obtain rfl := Option.some.inj stepped
      refine consistent.closeAndCancel found _ ?_ ?_ ?_ ?_ ?_ _ <;> first | rfl | exact id
  | deadline _ =>
      obtain ⟨-, stepped⟩ := Option.ite_none_right_eq_some.mp stepped
      split at stepped <;> obtain rfl := Option.some.inj stepped
      · exact consistent.putSame found _ rfl rfl rfl rfl id
      · refine consistent.closeAndCancel found _ ?_ ?_ ?_ ?_ ?_ _ <;> first | rfl | exact id
  | parentCancelled _ =>
      obtain ⟨-, stepped⟩ := Option.ite_none_right_eq_some.mp stepped
      obtain rfl := Option.some.inj stepped
      refine consistent.closeAndCancel found _ ?_ ?_ ?_ ?_ ?_ _ <;> first | rfl | exact id
  | cancellationSent _ outcome =>
      obtain ⟨-, stepped⟩ := Option.ite_none_right_eq_some.mp stepped
      obtain rfl := Option.some.inj stepped
      exact consistent.cancellationSent found outcome
  | cancelAwaiter _ =>
      obtain rfl := Option.some.inj stepped
      exact consistent.cancelAwaiter found
  | openCall | response | lifecycle | graceExpired | disconnect => cases stepped

theorem consistent_step {capacity : Nat} {action : RpcCallerAction} (consistent : Consistent before)
    (stepped : step capacity before action = some after) : Consistent after := by
  cases action with
  | openCall key route body budget parent =>
      obtain ⟨⟨width, fresh⟩, stepped⟩ := Option.ite_none_right_eq_some.mp stepped
      obtain rfl := Option.some.inj stepped
      exact consistent.openCall capacity width fresh route body budget parent
  | response payload =>
      obtain rfl := Option.some.inj stepped
      exact consistent.onResponse payload
  | lifecycle payload =>
      obtain rfl := Option.some.inj stepped
      exact consistent.onLifecycle payload
  | graceExpired timer =>
      obtain ⟨handle, found, fired⟩ := Option.bind_eq_some_iff.mp stepped
      obtain ⟨-, fired⟩ := Option.ite_none_right_eq_some.mp fired
      obtain rfl := Option.some.inj fired
      refine consistent.settleCancellation handle.key .unconfirmed _
        fun other kept foundOther apart => ?_
      rw [List.getElem?_set_ne]
      · exact foundOther
      · rintro rfl
        exact apart (congrArg GraceTimer.key (Option.some.inj (foundOther.symm.trans found)))
  | disconnect =>
      obtain rfl := Option.some.inj stepped
      exact consistent.disconnect
  | sendReturned index | sendRaised index | read index _ | take index | readCancelled index
  | readTimedOut index | close index | deadline index | parentCancelled index
  | cancellationSent index _ | cancelAwaiter index =>
      obtain ⟨call, found, stepped⟩ := Option.bind_eq_some_iff.mp stepped
      exact consistent_stepCall consistent found stepped

theorem consistent_invariant (capacity : Nat) :
    (system capacity).Invariant (fun _ _ => True) Consistent where
  starts first starts := by
    obtain rfl : first = {} := starts
    refine ⟨fun found => ?_, fun found => ?_, fun found => ?_, fun found => ?_⟩ <;>
      simp at found
  preserved _ _ _ consistent _ stepped := consistent_step consistent stepped

/-- The timer of an entry can fire, and then the future is resolved. -/
theorem resolves_of_entry (consistent : Consistent caller) (capacity : Nat)
    (found : caller.calls[index]? = some call) {timer : Nat}
    (entry : caller.cancellations.lookup call.key = some (index, timer)) :
    ∃ after last, step capacity caller (.graceExpired timer) = some after ∧
      after.calls[index]? = some last ∧ last.key = call.key ∧ last.cancellation.done = true := by
  have armed := ((consistent.tracked found).entry index timer entry).2
  have stepped : step capacity caller (.graceExpired timer) =
      some ({ caller with timers := caller.timers.set timer { key := call.key, status := .fired } }
        |>.settleCancellation call.key .unconfirmed) := by
    simp only [step, armed, Option.bind_some, if_true]
  refine ⟨_, { call with cancellation := call.cancellation.resolve .unconfirmed }, stepped, ?_, rfl,
    CancellationFuture.done_resolve _ _⟩
  simp only [settleCancellation, entry]
  exact getElem?_modify_eq_some.mpr ⟨call, found, (if_pos rfl).symm⟩

/-- A call is listed exactly while it is neither closed nor terminal; one that
is has its future resolved, or an entry whose armed timer will resolve it; and
no future is set twice, or after it was cancelled. -/
theorem tables_of_reachable {capacity : Nat} {caller : RpcCaller}
    (reachable : (system capacity).Reachable caller) :
    (∀ key index, caller.pending.lookup key = some index →
      ∃ call, caller.calls[index]? = some call ∧ call.key = key ∧
        call.closed = false ∧ call.terminal = false) ∧
    (∀ (index : Nat) (call : RpcCall), caller.calls[index]? = some call →
      call.opening = .returned → call.closed = false → call.terminal = false →
        caller.pending.lookup call.key = some index) ∧
    (∀ (index : Nat) (call : RpcCall), caller.calls[index]? = some call →
      call.closed = true ∨ call.terminal = true →
        call.cancellation.done = true ∨
        ∃ timer, caller.cancellations.lookup call.key = some (index, timer) ∧
          caller.timers[timer]? = some { key := call.key, status := .armed } ∧
          ∃ after last, step capacity caller (.graceExpired timer) = some after ∧
            after.calls[index]? = some last ∧ last.key = call.key ∧
            last.cancellation.done = true) ∧
    ∀ (index : Nat) (call : RpcCall), caller.calls[index]? = some call →
      call.cancellation.outcomes.length + call.cancellation.cancelled.toNat ≤ 1 := by
  have consistent := (consistent_invariant capacity).of_reachable reachable
  refine ⟨?_, ?_, ?_, ?_⟩
  · intro key index listed
    obtain ⟨call, found, rfl⟩ := consistent.pendingKnown listed
    have unended := ((consistent.tracked found).pending index listed).2
    exact ⟨call, found, rfl, Bool.or_eq_false_iff.mp unended⟩
  · intro index call found returned unclosed unfinished
    refine (consistent.tracked found).listed (by simp [returned]) ?_
    rw [RpcCall.ended, unclosed, unfinished, Bool.or_false]
  · intro index call found ended
    rcases (consistent.tracked found).resolvable (Bool.or_eq_true_iff.mpr ended) with done | entered
    · exact Or.inl done
    · obtain ⟨timer, entry⟩ := entered
      exact Or.inr ⟨timer, entry, ((consistent.tracked found).entry index timer entry).2,
        resolves_of_entry consistent capacity found entry⟩
  · exact fun index call found => (consistent.tracked found).once

/-- A call that was closed while its response was pending, and a second one that
is still listed. -/
theorem tables_closed_call :
    ∃ caller : RpcCaller, (system 1024).Reachable caller ∧
      caller.calls.map (fun call => (call.closed, call.cancellation.done)) =
        [(true, false), (false, false)] ∧
      ∀ (index : Nat) (call : RpcCall), caller.calls[index]? = some call →
        call.cancellation.outcomes.length + call.cancellation.cancelled.toNat ≤ 1 := by
  obtain ⟨caller, reachable, tested⟩ := (system 1024).exists_reachable_of_run
    (rfl : (system 1024).starts {})
    [.openCall (List.replicate 16 1) [] [] none false, .sendReturned 0,
      .openCall (List.replicate 16 2) [] [] none false, .close 0]
    (fun caller => caller.calls.map (fun call => (call.closed, call.cancellation.done)) =
      [(true, false), (false, false)]) (by decide +kernel)
  exact ⟨caller, reachable, by simpa using tested, (tables_of_reachable reachable).2.2.2⟩

end RpcCaller

end FitzClient
