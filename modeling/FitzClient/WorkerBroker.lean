import FitzClient.IndexedCells
import FitzClient.WorkerRegistration

/-!
# The workers that the broker knows

Whoever is in the lock of a route is there alone, and between its request and
its reply the table has not changed.  So when the lock of a route is free, the
broker has a worker for the route exactly if the table has one that was accepted
in this session.
-/

namespace FitzClient

namespace WorkerRegistrations

variable {before after state : WorkerRegistrations} {action : WorkerAction} {index : Nat}
  {call next : WorkerCall} {route : String} {identity : Nat}

/-- The broker has accepted the worker of the route in this session. -/
def Serves (state : WorkerRegistrations) (route : String) : Prop :=
  ∃ entry, state.workers.lookup route = some entry ∧ entry.session = state.session

/-- Nobody waits for the broker's word about the route. -/
def Free (state : WorkerRegistrations) (route : String) : Prop :=
  ∀ call ∈ state.calls, call.route = route → call.holds = false

/-- The lock of a route has one holder, and what this is about is in the
table. -/
structure Locked (state : WorkerRegistrations) : Prop where
  apart : ∀ (first second : Nat) (firstCall secondCall : WorkerCall),
    state.calls[first]? = some firstCall → state.calls[second]? = some secondCall →
    firstCall.holds = true → secondCall.holds = true → firstCall.route = secondCall.route →
    first = second
  subject : ∀ (index : Nat) (call : WorkerCall) (identity : Nat),
    state.calls[index]? = some call → call.holds = true →
    call.operation.subject = some identity → state.isRegistered call.route identity = true

/-- The broker and the table agree about every route, but for a reply that has
not been read. -/
structure Agreed (state : WorkerRegistrations) : Prop where
  wire : ∀ frame ∈ state.wire, ∃ call, state.calls[frame.index]? = some call ∧
    call.phase = .awaiting none ∧ frame = ⟨frame.index, call.route, call.operation.subscribes⟩
  apart : (state.wire.map WorkerFrame.index).Nodup
  unraised : ∀ (index : Nat) (call : WorkerCall), state.calls[index]? = some call →
    call.phase ≠ .awaiting (some .raised)
  answered : ∀ (index : Nat) (call : WorkerCall), state.calls[index]? = some call →
    call.phase = .awaiting (some .accepted) →
    (call.route ∈ state.subscribed ↔ call.operation.subscribes = true)
  settled : ∀ route, (∀ (index : Nat) (call : WorkerCall), state.calls[index]? = some call →
    call.route = route → call.phase ≠ .awaiting (some .accepted)) →
    (route ∈ state.subscribed ↔ state.Serves route)

theorem getElem?_set_eq_some {calls : List WorkerCall} {other : Nat} {found : WorkerCall}
    (read : (calls.set index next)[other]? = some found) :
    other = index ∧ found = next ∨ other ≠ index ∧ calls[other]? = some found := by
  rw [List.getElem?_set] at read
  split at read
  · next same =>
      split at read
      · exact Or.inl ⟨same.symm, (Option.some.inj read).symm⟩
      · cases read
  · next apart => exact Or.inr ⟨Ne.symm apart, read⟩

theorem isRegistered_eq_true : state.isRegistered route identity = true ↔
    ∃ entry, state.workers.lookup route = some entry ∧ entry.identity = identity := by
  simp [isRegistered, Option.any_eq_true]

/-- A call that leaves the lock of its route, and changes the table there at
most. -/
structure Leaves (before after : WorkerRegistrations) (index : Nat) (call : WorkerCall) : Prop where
  calls : ∃ next, next.holds = false ∧ after.calls = before.calls.set index next ∧
    (next.operation.restores = true → call.operation.restores = true)
  elsewhere : ∀ route, route ≠ call.route →
    after.workers.lookup route = before.workers.lookup route
  session : after.session = before.session
  connected : after.connected = before.connected
  timedOut : after.timedOut = before.timedOut
  wire : after.wire = before.wire
  subscribed : after.subscribed = before.subscribed

theorem leaves_leave (changed : WorkerRegistrations) (calls : changed.calls = before.calls)
    (elsewhere : ∀ route, route ≠ call.route →
      changed.workers.lookup route = before.workers.lookup route)
    (session : changed.session = before.session) (connected : changed.connected = before.connected)
    (timedOut : changed.timedOut = before.timedOut) (wire : changed.wire = before.wire)
    (subscribed : changed.subscribed = before.subscribed)
    (index : Nat) (returned : Bool) :
    Leaves before (changed.leave index call returned) index call := by
  unfold leave
  split
  · next route identity remaining operation =>
      refine ⟨⟨{ route, operation := .restore identity remaining }, rfl, by rw [← calls]; rfl,
        fun _ => ?_⟩, elsewhere, session, connected, timedOut, wire, subscribed⟩
      rw [operation]
      rfl
  · exact ⟨⟨{ call with phase := .ended true }, rfl, by rw [← calls]; rfl, id⟩, elsewhere,
      session, connected, timedOut, wire, subscribed⟩
  · exact ⟨⟨{ call with phase := .ended returned }, rfl, by rw [← calls]; rfl, id⟩, elsewhere,
      session, connected, timedOut, wire, subscribed⟩

theorem lookup_pop_ne (apart : route ≠ call.route) :
    (before.pop call.route identity).workers.lookup route = before.workers.lookup route := by
  unfold pop
  split
  · exact AList.lookup_erase_ne apart
  · rfl

theorem leaves_store (before : WorkerRegistrations) (index : Nat) (call : WorkerCall)
    (identity : Nat) (returned : Bool) :
    Leaves before ((before.store call.route identity).leave index call returned) index call := by
  have elsewhere (route : String) (apart : route ≠ call.route) :
      (before.store call.route identity).workers.lookup route = before.workers.lookup route :=
    AList.lookup_insert_ne apart
  have calls : (before.store call.route identity).calls = before.calls := rfl
  exact leaves_leave (before.store call.route identity) calls elsewhere rfl rfl rfl rfl rfl index
    returned

theorem leaves_pop (before : WorkerRegistrations) (index : Nat) (call : WorkerCall)
    (identity : Nat) (returned : Bool) :
    Leaves before ((before.pop call.route identity).leave index call returned) index call := by
  have same : (before.pop call.route identity).calls = before.calls ∧
      (before.pop call.route identity).session = before.session ∧
      (before.pop call.route identity).connected = before.connected ∧
      (before.pop call.route identity).timedOut = before.timedOut ∧
      (before.pop call.route identity).wire = before.wire ∧
      (before.pop call.route identity).subscribed = before.subscribed := by
    unfold pop
    split <;> exact ⟨rfl, rfl, rfl, rfl, rfl, rfl⟩
  obtain ⟨calls, session, connected, timedOut, wire, subscribed⟩ := same
  exact leaves_leave (before.pop call.route identity) calls (fun _ => lookup_pop_ne) session
    connected timedOut wire subscribed index returned

theorem leaves_settle (before : WorkerRegistrations) (index : Nat) (call : WorkerCall)
    (reply : WorkerReply) : Leaves before (before.settle index call reply) index call := by
  have idle (returned : Bool) : Leaves before (before.leave index call returned) index call :=
    leaves_leave before rfl (fun _ _ => rfl) rfl rfl rfl rfl rfl index returned
  unfold settle
  split
  · exact leaves_store before index call index true
  · exact idle false
  · exact leaves_pop before index call _ true
  · exact idle false
  · exact leaves_store before index call _ true
  · exact leaves_pop before index call _ true

/-- One call changes, and whoever else is in a lock does not notice. -/
theorem Locked.set (locked : Locked before) (calls : after.calls = before.calls.set index next)
    (alone : next.holds = true → ∀ (other : Nat) (call : WorkerCall), other ≠ index →
      before.calls[other]? = some call → call.holds = true → call.route ≠ next.route)
    (subject : next.holds = true → ∀ identity, next.operation.subject = some identity →
      after.isRegistered next.route identity = true)
    (others : ∀ (other : Nat) (call : WorkerCall), other ≠ index →
      before.calls[other]? = some call → call.holds = true →
      after.workers.lookup call.route = before.workers.lookup call.route) : Locked after where
  apart first second firstCall secondCall foundFirst foundSecond firstHolds secondHolds same := by
    rw [calls] at foundFirst foundSecond
    rcases getElem?_set_eq_some foundFirst with ⟨rfl, rfl⟩ | ⟨firstOther, firstOld⟩ <;>
      rcases getElem?_set_eq_some foundSecond with ⟨isIndex, rfl⟩ | ⟨secondOther, secondOld⟩
    · exact isIndex.symm
    · exact (alone firstHolds _ _ secondOther secondOld secondHolds same.symm).elim
    · exact (alone secondHolds _ _ firstOther firstOld firstHolds same).elim
    · exact locked.apart _ _ _ _ firstOld secondOld firstHolds secondHolds same
  subject other found identity read holds isSubject := by
    rw [calls] at read
    rcases getElem?_set_eq_some read with ⟨-, rfl⟩ | ⟨isOther, read⟩
    · exact subject holds identity isSubject
    · rw [isRegistered, others other found isOther read holds]
      exact locked.subject other found identity read holds isSubject

/-- A call that is not in a lock changes to one that is not either. -/
theorem Locked.idle (locked : Locked before) (calls : after.calls = before.calls.set index next)
    (idle : next.holds = false) (workers : after.workers = before.workers) : Locked after :=
  locked.set calls (fun holds => absurd holds (by simp [idle]))
    (fun holds => absurd holds (by simp [idle])) fun _ _ _ _ _ => by rw [workers]

/-- A call stays in its lock. -/
theorem Locked.stay (locked : Locked before) (found : before.calls[index]? = some call)
    (holds : call.holds = true) (calls : after.calls = before.calls.set index next)
    (route : next.route = call.route) (operation : next.operation = call.operation)
    (workers : after.workers = before.workers) : Locked after := by
  refine locked.set calls (fun _ other otherCall isOther read otherHolds same => ?_)
    (fun _ identity isSubject => ?_) fun _ _ _ _ _ => by rw [workers]
  · exact isOther (locked.apart _ _ _ _ read found otherHolds holds (same.trans route))
  · rw [isRegistered, workers, route]
    exact locked.subject index call identity found holds (operation ▸ isSubject)

theorem Locked.leave (locked : Locked before) (found : before.calls[index]? = some call)
    (holds : call.holds = true) (leaves : Leaves before after index call) : Locked after := by
  obtain ⟨next, idle, calls, -⟩ := leaves.calls
  refine locked.set calls (fun holds => absurd holds (by simp [idle]))
    (fun holds => absurd holds (by simp [idle])) fun other otherCall isOther read otherHolds =>
      leaves.elsewhere _ fun same => isOther ?_
  exact locked.apart _ _ _ _ read found otherHolds holds same

theorem Locked.queue (locked : Locked before) (calls : after.calls = before.calls ++ [next])
    (idle : next.holds = false) (workers : after.workers = before.workers) : Locked after where
  apart first second firstCall secondCall foundFirst foundSecond firstHolds secondHolds same := by
    rw [calls] at foundFirst foundSecond
    rcases getElem?_concat_eq_some.mp foundFirst with foundFirst | ⟨-, rfl⟩
    · rcases getElem?_concat_eq_some.mp foundSecond with foundSecond | ⟨-, rfl⟩
      · exact locked.apart _ _ _ _ foundFirst foundSecond firstHolds secondHolds same
      · rw [idle] at secondHolds
        cases secondHolds
    · rw [idle] at firstHolds
      cases firstHolds
  subject other found identity read holds isSubject := by
    rw [calls] at read
    rcases getElem?_concat_eq_some.mp read with read | ⟨-, rfl⟩
    · rw [isRegistered, workers]
      exact locked.subject other found identity read holds isSubject
    · rw [idle] at holds
      cases holds

theorem holds_disconnected (call : WorkerCall) : (disconnected call).holds = call.holds ∧
    (disconnected call).route = call.route ∧ (disconnected call).operation = call.operation := by
  unfold disconnected
  split
  · next phase => exact ⟨by simp [WorkerCall.holds, phase], rfl, rfl⟩
  · exact ⟨rfl, rfl, rfl⟩

theorem Locked.disconnect (locked : Locked before)
    (calls : after.calls = before.calls.map disconnected)
    (workers : after.workers = before.workers) : Locked after := by
  have earlier (index : Nat) (call : WorkerCall) (found : after.calls[index]? = some call) :
      ∃ old, before.calls[index]? = some old ∧ call.holds = old.holds ∧ call.route = old.route ∧
        call.operation = old.operation := by
    rw [calls, List.getElem?_map] at found
    obtain ⟨old, foundOld, rfl⟩ := Option.map_eq_some_iff.mp found
    exact ⟨old, foundOld, holds_disconnected old⟩
  refine ⟨fun first second firstCall secondCall foundFirst foundSecond firstHolds secondHolds
    same => ?_, fun index call identity found holds isSubject => ?_⟩
  · obtain ⟨firstOld, foundFirst, firstSame, firstRoute, -⟩ := earlier _ _ foundFirst
    obtain ⟨secondOld, foundSecond, secondSame, secondRoute, -⟩ := earlier _ _ foundSecond
    exact locked.apart _ _ _ _ foundFirst foundSecond (firstSame ▸ firstHolds)
      (secondSame ▸ secondHolds) (by rw [← firstRoute, ← secondRoute, same])
  · obtain ⟨old, found, sameHolds, sameRoute, sameOperation⟩ := earlier _ _ found
    rw [isRegistered, workers, sameRoute]
    exact locked.subject index old identity found (sameHolds ▸ holds) (sameOperation ▸ isSubject)

theorem unlocked_eq_true : state.unlocked route = true ↔ state.Free route := by
  simp [unlocked, Free, imp_iff_not_or]

/-- Past the lock, a call is in it or has nothing to do. -/
theorem enter_eq (state : WorkerRegistrations) (index : Nat) (call : WorkerCall) :
    state.enter index call = state.put index { call with phase := .requesting } ∧
        (∀ identity, call.operation.subject = some identity →
          state.isRegistered call.route identity = true) ∨
      ∃ identity, call.operation.subject = some identity ∧
        state.isRegistered call.route identity = false ∧
        state.enter index call = state.leave index call true := by
  unfold enter
  split
  · next none => exact Or.inl ⟨rfl, fun identity some => by rw [none] at some; cases some⟩
  · next identity isSubject =>
      split
      · next registered =>
          refine Or.inl ⟨rfl, fun other isOther => ?_⟩
          obtain rfl := Option.some.inj (isSubject.symm.trans isOther)
          exact registered
      · next absent => exact Or.inr ⟨identity, isSubject, by simpa using absent, rfl⟩

theorem Locked.enter (locked : Locked before) (free : before.unlocked call.route = true)
    (index : Nat) : Locked (before.enter index call) := by
  rcases before.enter_eq index call with ⟨enters, registered⟩ | ⟨identity, -, -, leaves⟩
  · rw [enters]
    refine locked.set rfl (fun _ other otherCall isOther read otherHolds same => ?_)
      (fun _ => registered) fun _ _ _ _ _ => rfl
    have idle := unlocked_eq_true.mp free otherCall (List.mem_of_getElem? read) same
    rw [idle] at otherHolds
    cases otherHolds
  · rw [leaves]
    obtain ⟨next, idle, calls, -⟩ :=
      (leaves_leave before rfl (fun _ _ => rfl) rfl rfl rfl rfl rfl index true).calls
    have workers : (before.leave index call true).workers = before.workers := by
      unfold WorkerRegistrations.leave
      split <;> rfl
    exact locked.idle calls idle workers

theorem phase_of_idle (idle : call.holds = false) (reply : Option WorkerReply) :
    call.phase ≠ .awaiting reply := by
  intro phase
  simp [WorkerCall.holds, phase] at idle

theorem serves_congr (lookup : after.workers.lookup route = before.workers.lookup route)
    (session : after.session = before.session) : after.Serves route ↔ before.Serves route := by
  rw [Serves, Serves, lookup, session]

/-- Nobody else at the route has a reply of the broker to read. -/
def Undecided (state : WorkerRegistrations) (index : Nat) (route : String) : Prop :=
  ∀ (other : Nat) (call : WorkerCall), other ≠ index → state.calls[other]? = some call →
    call.route = route → call.phase ≠ .awaiting (some .accepted)

/-- A call leaves its lock, or comes to no lock at all.  It is enough that the
broker and the table agree about its route. -/
theorem Agreed.leave (agreed : Agreed before) (found : before.calls[index]? = some call)
    (leaves : Leaves before after index call) (read : call.phase ≠ .awaiting none)
    (here : before.Undecided index call.route →
      (call.route ∈ before.subscribed ↔ after.Serves call.route)) : Agreed after := by
  obtain ⟨next, idle, calls, -⟩ := leaves.calls
  have inStore : index < before.calls.length := (List.getElem?_eq_some_iff.mp found).1
  have kept (other : Nat) (otherCall : WorkerCall) (isOther : other ≠ index)
      (foundOther : before.calls[other]? = some otherCall) :
      after.calls[other]? = some otherCall := by
    rw [calls, List.getElem?_set_ne (Ne.symm isOther)]
    exact foundOther
  refine ⟨fun frame member => ?_, ?_, fun other otherCall foundOther => ?_,
    fun other otherCall foundOther accepted => ?_, fun route undecided => ?_⟩
  · rw [leaves.wire] at member
    obtain ⟨otherCall, foundOther, awaiting, isFrame⟩ := agreed.wire frame member
    refine ⟨otherCall, kept frame.index otherCall ?_ foundOther, awaiting, isFrame⟩
    intro same
    rw [same, found] at foundOther
    exact read (Option.some.inj foundOther ▸ awaiting)
  · rw [leaves.wire]
    exact agreed.apart
  · rw [calls] at foundOther
    rcases getElem?_set_eq_some foundOther with ⟨-, rfl⟩ | ⟨-, old⟩
    · exact phase_of_idle idle _
    · exact agreed.unraised other otherCall old
  · rw [calls] at foundOther
    rw [leaves.subscribed]
    rcases getElem?_set_eq_some foundOther with ⟨-, rfl⟩ | ⟨-, old⟩
    · exact (phase_of_idle idle _ accepted).elim
    · exact agreed.answered other otherCall old accepted
  · have others (other : Nat) (otherCall : WorkerCall) (isOther : other ≠ index)
        (foundOther : before.calls[other]? = some otherCall) (same : otherCall.route = route) :
        otherCall.phase ≠ .awaiting (some .accepted) :=
      undecided other otherCall (kept other otherCall isOther foundOther) same
    rw [leaves.subscribed]
    by_cases atRoute : route = call.route
    · subst atRoute
      exact here others
    · rw [serves_congr (leaves.elsewhere route atRoute) leaves.session]
      refine agreed.settled route fun other otherCall foundOther same => ?_
      refine others other otherCall ?_ foundOther same
      rintro rfl
      rw [found] at foundOther
      obtain rfl := Option.some.inj foundOther
      exact atRoute same.symm

/-- The table was right about the route of a call that the broker has not
answered. -/
theorem Agreed.settled_of_undecided (agreed : Agreed before)
    (found : before.calls[index]? = some call) (phase : call.phase ≠ .awaiting (some .accepted))
    (undecided : before.Undecided index call.route) :
    call.route ∈ before.subscribed ↔ before.Serves call.route := by
  refine agreed.settled call.route fun other otherCall foundOther same => ?_
  by_cases isIndex : other = index
  · subst isIndex
    rw [found] at foundOther
    exact Option.some.inj foundOther ▸ phase
  · exact undecided other otherCall isIndex foundOther same

@[simp] theorem workers_leave (state : WorkerRegistrations) (index : Nat) (call : WorkerCall)
    (returned : Bool) : (state.leave index call returned).workers = state.workers := by
  unfold WorkerRegistrations.leave
  split <;> rfl

@[simp] theorem session_leave (state : WorkerRegistrations) (index : Nat) (call : WorkerCall)
    (returned : Bool) : (state.leave index call returned).session = state.session := by
  unfold WorkerRegistrations.leave
  split <;> rfl

theorem serves_store (state : WorkerRegistrations) (index : Nat) (call : WorkerCall)
    (identity : Nat) (returned : Bool) :
    ((state.store call.route identity).leave index call returned).Serves call.route := by
  refine ⟨{ identity, session := state.session }, ?_, ?_⟩
  · rw [workers_leave]
    exact AList.lookup_insert _
  · rw [session_leave]
    rfl

theorem not_serves_pop (registered : state.isRegistered call.route identity = true)
    (index : Nat) (returned : Bool) :
    ¬ ((state.pop call.route identity).leave index call returned).Serves call.route := by
  rintro ⟨entry, found, -⟩
  rw [workers_leave, pop, if_pos registered] at found
  have absent : (state.workers.erase call.route).lookup call.route = none := AList.lookup_erase _ _
  rw [absent] at found
  cases found

theorem serves_leave (state : WorkerRegistrations) (index : Nat) (call : WorkerCall)
    (returned : Bool) (route : String) :
    (state.leave index call returned).Serves route ↔ state.Serves route :=
  serves_congr (by rw [workers_leave]) (session_leave state index call returned)

/-- A call acts on what it hears about its request. -/
theorem Agreed.settle (agreed : Agreed before) (locked : Locked before)
    (found : before.calls[index]? = some call) (holds : call.holds = true)
    {reply : WorkerReply} (read : call.phase ≠ .awaiting none)
    (isReply : call.phase = .awaiting (some .accepted) ↔ reply = .accepted)
    (spares : reply ≠ .accepted → call.operation.restores = true →
      call.route ∉ before.subscribed) : Agreed (before.settle index call reply) := by
  refine agreed.leave found (leaves_settle before index call reply) read fun undecided => ?_
  have registered (identity : Nat) (isSubject : call.operation.subject = some identity) :
      before.isRegistered call.route identity = true :=
    locked.subject index call identity found holds isSubject
  by_cases accepted : reply = .accepted
  · subst accepted
    rw [agreed.answered index call found (isReply.mpr rfl)]
    cases operation : call.operation with
    | register =>
        simp only [WorkerRegistrations.settle, operation]
        exact iff_of_true rfl (serves_store before index call index true)
    | unregister identity =>
        simp only [WorkerRegistrations.settle, operation]
        refine iff_of_false (by simp [WorkerOperation.subscribes]) ?_
        exact not_serves_pop (registered identity (by rw [operation]; rfl)) index true
    | restore identity remaining =>
        simp only [WorkerRegistrations.settle, operation]
        exact iff_of_true rfl (serves_store before index call identity true)
  · have before_agrees := agreed.settled_of_undecided found
      (fun phase => accepted (isReply.mp phase)) undecided
    cases operation : call.operation with
    | register =>
        have unchanged : before.settle index call reply = before.leave index call false := by
          cases reply <;> simp_all [WorkerRegistrations.settle]
        rw [unchanged, serves_leave]
        exact before_agrees
    | unregister identity =>
        have unchanged : before.settle index call reply = before.leave index call false := by
          cases reply <;> simp_all [WorkerRegistrations.settle]
        rw [unchanged, serves_leave]
        exact before_agrees
    | restore identity remaining =>
        have popped : before.settle index call reply =
            (before.pop call.route identity).leave index call true := by
          cases reply <;> simp_all [WorkerRegistrations.settle]
        rw [popped]
        refine iff_of_false (spares accepted (by rw [operation]; rfl)) ?_
        exact not_serves_pop (registered identity (by rw [operation]; rfl)) index true

/-- A call goes on without a word of the broker. -/
theorem Agreed.advance (agreed : Agreed before) (found : before.calls[index]? = some call)
    (calls : after.calls = before.calls.set index next) (route : next.route = call.route)
    (unwritten : ∀ reply, call.phase ≠ .awaiting reply)
    (unread : ∀ reply, next.phase ≠ .awaiting (some reply))
    (wire : after.wire = before.wire ∨
      after.wire = before.wire ++ [⟨index, next.route, next.operation.subscribes⟩] ∧
        next.phase = .awaiting none)
    (workers : after.workers = before.workers) (session : after.session = before.session)
    (subscribed : after.subscribed = before.subscribed) : Agreed after := by
  have inStore : index < before.calls.length := (List.getElem?_eq_some_iff.mp found).1
  have notOnWire : index ∉ before.wire.map WorkerFrame.index := by
    intro member
    obtain ⟨frame, inWire, rfl⟩ := List.mem_map.mp member
    obtain ⟨other, foundOther, awaiting, -⟩ := agreed.wire frame inWire
    rw [found] at foundOther
    exact unwritten none (Option.some.inj foundOther ▸ awaiting)
  have kept (frame : WorkerFrame) (member : frame ∈ before.wire) : ∃ call,
      after.calls[frame.index]? = some call ∧ call.phase = .awaiting none ∧
        frame = ⟨frame.index, call.route, call.operation.subscribes⟩ := by
    obtain ⟨otherCall, foundOther, awaiting⟩ := agreed.wire frame member
    refine ⟨otherCall, ?_, awaiting⟩
    rw [calls, List.getElem?_set_ne]
    · exact foundOther
    · intro same
      exact notOnWire (same ▸ List.mem_map_of_mem member)
  refine ⟨fun frame member => ?_, ?_, fun other otherCall foundOther => ?_,
    fun other otherCall foundOther accepted => ?_, fun name undecided => ?_⟩
  · rcases wire with same | ⟨grows, awaiting⟩
    · exact kept frame (same ▸ member)
    · rw [grows] at member
      rcases List.mem_append.mp member with old | isNew
      · exact kept frame old
      · obtain rfl := List.mem_singleton.mp isNew
        exact ⟨next, by rw [calls, List.getElem?_set_self inStore], awaiting, rfl⟩
  · rcases wire with same | ⟨grows, -⟩
    · rw [same]
      exact agreed.apart
    · rw [grows, List.map_append]
      exact List.Nodup.append agreed.apart (List.nodup_singleton _)
        (List.disjoint_singleton.mpr notOnWire)
  · rw [calls] at foundOther
    rcases getElem?_set_eq_some foundOther with ⟨-, rfl⟩ | ⟨-, old⟩
    · exact unread _
    · exact agreed.unraised other otherCall old
  · rw [calls] at foundOther
    rw [subscribed]
    rcases getElem?_set_eq_some foundOther with ⟨-, rfl⟩ | ⟨-, old⟩
    · exact (unread _ accepted).elim
    · exact agreed.answered other otherCall old accepted
  · rw [subscribed, serves_congr (by rw [workers]) session]
    refine agreed.settled name fun other otherCall foundOther same => ?_
    by_cases isIndex : other = index
    · subst isIndex
      rw [found] at foundOther
      exact Option.some.inj foundOther ▸ unwritten _
    · refine undecided other otherCall ?_ same
      rw [calls, List.getElem?_set_ne (Ne.symm isIndex)]
      exact foundOther

/-- The broker reads a frame, and its reply reaches the request. -/
theorem Agreed.process (agreed : Agreed before) (locked : Locked before) {frame : WorkerFrame}
    {rest : List WorkerFrame} (wire : before.wire = frame :: rest)
    (found : before.calls[frame.index]? = some call) (awaiting : call.phase = .awaiting none)
    (isFrame : frame = ⟨frame.index, call.route, call.operation.subscribes⟩) (accepted : Bool) :
    Agreed { before.put frame.index { call with
        phase := .awaiting (some (if accepted then .accepted else .refused)) } with
      wire := rest
      subscribed := before.process frame accepted } := by
  have inStore : frame.index < before.calls.length := (List.getElem?_eq_some_iff.mp found).1
  have sameRoute : frame.route = call.route := congrArg WorkerFrame.route isFrame
  have sameKind : frame.subscribes = call.operation.subscribes :=
    congrArg WorkerFrame.subscribes isFrame
  have onWire := agreed.wire
  have apart := agreed.apart
  rw [wire] at onWire apart
  obtain ⟨notInRest, restApart⟩ := List.nodup_cons.mp apart
  have holds : call.holds = true := by simp [WorkerCall.holds, awaiting]
  have elsewhere (name : String) (isOther : name ≠ call.route) :
      name ∈ before.process frame accepted ↔ name ∈ before.subscribed := by
    rw [← sameRoute] at isOther
    unfold WorkerRegistrations.process
    split
    · exact Iff.rfl
    · split
      · exact ⟨fun member => (Finset.mem_insert.mp member).resolve_left isOther,
          Finset.mem_insert_of_mem⟩
      · exact ⟨fun member => (Finset.mem_erase.mp member).2,
          fun member => Finset.mem_erase.mpr ⟨isOther, member⟩⟩
  refine ⟨fun other member => ?_, restApart, fun other otherCall foundOther => ?_,
    fun other otherCall foundOther isAccepted => ?_, fun name undecided => ?_⟩
  · obtain ⟨otherCall, foundOther, phase⟩ := onWire other (List.mem_cons_of_mem _ member)
    refine ⟨otherCall, ?_, phase⟩
    change (before.calls.set frame.index _)[other.index]? = some otherCall
    rw [List.getElem?_set_ne]
    · exact foundOther
    · intro same
      exact notInRest (same ▸ List.mem_map_of_mem member)
  · rcases getElem?_set_eq_some foundOther with ⟨-, rfl⟩ | ⟨-, old⟩
    · cases accepted <;> simp
    · exact agreed.unraised other otherCall old
  · rcases getElem?_set_eq_some foundOther with ⟨-, rfl⟩ | ⟨isOther, old⟩
    · cases accepted with
      | false => simp at isAccepted
      | true =>
          change call.route ∈ before.process frame true ↔ call.operation.subscribes = true
          rw [← sameRoute, ← sameKind]
          by_cases subscribes : frame.subscribes = true <;>
            simp [WorkerRegistrations.process, subscribes]
    · -- whoever has an answer to read is in the lock of another route
      have otherHolds : otherCall.holds = true := by simp [WorkerCall.holds, isAccepted]
      refine Iff.trans (elsewhere otherCall.route fun same => isOther ?_)
        (agreed.answered other otherCall old isAccepted)
      exact locked.apart _ _ _ _ old found otherHolds holds same
  · have others (other : Nat) (otherCall : WorkerCall)
        (foundOther : before.calls[other]? = some otherCall) (same : otherCall.route = name) :
        otherCall.phase ≠ .awaiting (some .accepted) := by
      by_cases isIndex : other = frame.index
      · rw [isIndex, found] at foundOther
        obtain rfl := Option.some.inj foundOther
        rw [awaiting]
        simp
      · refine undecided other otherCall ?_ same
        change (before.calls.set frame.index _)[other]? = some otherCall
        rw [List.getElem?_set_ne (Ne.symm isIndex)]
        exact foundOther
    have agreesBefore := agreed.settled name others
    by_cases atRoute : name = call.route
    · subst atRoute
      cases accepted with
      | false => exact agreesBefore
      | true =>
          refine absurd rfl (undecided frame.index
            { call with phase := .awaiting (some .accepted) } ?_ rfl)
          change (before.calls.set frame.index _)[frame.index]? = _
          rw [List.getElem?_set_self inStore]
          rfl
    · exact Iff.trans (elsewhere name atRoute) agreesBefore

theorem Agreed.queue (agreed : Agreed before) (calls : after.calls = before.calls ++ [next])
    (idle : next.holds = false) (wire : after.wire = before.wire)
    (workers : after.workers = before.workers) (session : after.session = before.session)
    (subscribed : after.subscribed = before.subscribed) : Agreed after := by
  refine ⟨fun other member => ?_, wire ▸ agreed.apart, fun other otherCall found => ?_,
    fun other otherCall found accepted => ?_, fun name undecided => ?_⟩
  · obtain ⟨otherCall, found, awaiting⟩ := agreed.wire other (wire ▸ member)
    exact ⟨otherCall, by rw [calls]; exact getElem?_concat_eq_some.mpr (Or.inl found), awaiting⟩
  · rw [calls] at found
    rcases getElem?_concat_eq_some.mp found with old | ⟨-, rfl⟩
    · exact agreed.unraised other otherCall old
    · exact phase_of_idle idle _
  · rw [calls] at found
    rw [subscribed]
    rcases getElem?_concat_eq_some.mp found with old | ⟨-, rfl⟩
    · exact agreed.answered other otherCall old accepted
    · exact (phase_of_idle idle _ accepted).elim
  · rw [subscribed, serves_congr (by rw [workers]) session]
    refine agreed.settled name fun other otherCall found same => ?_
    refine undecided other otherCall ?_ same
    rw [calls]
    exact getElem?_concat_eq_some.mpr (Or.inl found)

end WorkerRegistrations

end FitzClient
