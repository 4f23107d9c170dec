import FitzClient.Sweep
import FitzClient.WorkerBroker

/-!
# Renewed workers

After a reconnect the broker knows no worker, and every registration of the table
is of an earlier session.  Restoration visits them all: it has yet to visit
whatever is of an earlier session, so that nothing is when it comes to its end.
Then the workers of the table are those of the broker.
-/

namespace FitzClient

namespace WorkerRegistrations

variable {before after changed state : WorkerRegistrations} {action : WorkerAction} {index : Nat}
  {call next : WorkerCall} {route : String} {identity : Nat} {returned : Bool}

/-- This registration is of an earlier session. -/
def Stale (state : WorkerRegistrations) (name : String × Nat) : Prop :=
  ∃ entry, state.workers.lookup name.1 = some entry ∧ entry.identity = name.2 ∧
    entry.session ≠ state.session

/-- There is one restoration at a time. -/
structure Restoring (state : WorkerRegistrations) : Prop where
  single : ∀ (index : Nat) (call : WorkerCall), state.calls[index]? = some call →
    call.operation.restores = true → (∃ returned, call.phase = .ended returned) ∨
      state.restoration = some index
  active : ∀ index, state.restoration = some index →
    ∃ call, state.calls[index]? = some call ∧ call.operation.restores = true
  pending : ∀ index, state.restoration = some index → state.restored = false
  past : ∀ route entry, state.workers.lookup route = some entry → entry.session ≤ state.session

/-- What restoration has yet to visit. -/
def toVisit (state : WorkerRegistrations) : List (String × Nat) :=
  if state.restored then
    []
  else
    match state.restoration.bind (state.calls[·]?) with
    | some { route, operation := .restore identity remaining, .. } => (route, identity) :: remaining
    | _ => state.items

def sweep (state : WorkerRegistrations) : Sweep (String × Nat) where
  stale := {name | state.Stale name}
  remaining := state.toVisit

/-- The conditions of agreement: no request is cancelled between its frame and
its reply, but with the connection attempt; a reply is read before the next
session; and no route that the broker has a worker for is restored in vain. -/
def Admitted (state : WorkerRegistrations) : WorkerAction → Prop
  | .cancel index => ∀ call ∈ state.calls[index]?, call.awaits = true →
      call.operation.restores = true
  | .connect => ∀ call ∈ state.calls, call.awaits = false
  | .raise index => ∀ call ∈ state.calls[index]?, call.phase = .requesting →
      call.operation.restores = true → call.route ∉ state.subscribed
  | .resume index => ∀ call ∈ state.calls[index]?, call.phase = .awaiting (some .refused) →
      call.operation.restores = true → call.route ∉ state.subscribed
  | _ => True

instance (state : WorkerRegistrations) (action : WorkerAction) :
    Decidable (state.Admitted action) := by
  unfold Admitted
  split <;> infer_instance

theorem mem_items {name : String × Nat} :
    name ∈ state.items ↔ state.isRegistered name.1 name.2 = true := by
  rw [isRegistered_eq_true, items, List.mem_map]
  constructor
  · rintro ⟨entry, member, rfl⟩
    exact ⟨entry.2, AList.mem_lookup_iff.mpr member, rfl⟩
  · rintro ⟨entry, found, identified⟩
    exact ⟨⟨name.1, entry⟩, AList.mem_lookup_iff.mp found, Prod.ext rfl identified⟩

theorem Stale.mem_items {name : String × Nat} (stale : state.Stale name) : name ∈ state.items := by
  obtain ⟨entry, found, identified, -⟩ := stale
  exact WorkerRegistrations.mem_items.mpr (isRegistered_eq_true.mpr ⟨entry, found, identified⟩)

theorem toVisit_of_restored (restored : state.restored = true) : state.toVisit = [] :=
  if_pos restored

theorem toVisit_of_idle (restored : state.restored = false) (idle : state.restoration = none) :
    state.toVisit = state.items := by
  simp [toVisit, restored, idle]

theorem toVisit_of_restoring {remaining : List (String × Nat)} (restored : state.restored = false)
    (restoration : state.restoration = some index) (found : state.calls[index]? = some call)
    (operation : call.operation = .restore identity remaining) :
    state.toVisit = (call.route, identity) :: remaining := by
  obtain ⟨route, other, phase⟩ := call
  obtain rfl : other = .restore identity remaining := operation
  simp [toVisit, restored, restoration, found]

theorem exists_restore (restores : call.operation.restores = true) :
    ∃ identity remaining, call.operation = .restore identity remaining := by
  cases operation : call.operation with
  | restore identity remaining => exact ⟨identity, remaining, rfl⟩
  | _ => simp [operation, WorkerOperation.restores] at restores

/-- A step of any other call, that makes nothing stale. -/
theorem proceeds_of_same (restoring : Restoring before)
    (restored : after.restored = before.restored)
    (restoration : after.restoration = before.restoration)
    (kept : ∀ (index : Nat) (call : WorkerCall), before.restoration = some index →
      before.calls[index]? = some call → ∃ next, after.calls[index]? = some next ∧
        next.route = call.route ∧ next.operation = call.operation)
    (stale : ∀ name, after.Stale name → before.Stale name) :
    before.sweep.Proceeds after.sweep := by
  intro name isStale
  refine ⟨stale name isStale, fun member => ?_⟩
  change name ∈ after.toVisit
  change name ∈ before.toVisit at member
  cases finished : before.restored with
  | true =>
      rw [toVisit_of_restored finished] at member
      cases member
  | false =>
      cases active : before.restoration with
      | none =>
          rw [toVisit_of_idle (restored.trans finished) (restoration.trans active)]
          exact Stale.mem_items isStale
      | some index =>
          obtain ⟨call, found, restores⟩ := restoring.active index active
          obtain ⟨identity, remaining, operation⟩ := exists_restore restores
          obtain ⟨next, foundNext, route, sameOperation⟩ := kept index call active found
          rw [toVisit_of_restoring finished active found operation] at member
          rwa [toVisit_of_restoring (restored.trans finished) (restoration.trans active) foundNext
            (sameOperation.trans operation), route]

/-- Restoration goes on to its next entry. -/
theorem proceeds_of_visit {remaining : List (String × Nat)}
    (calls : changed.calls = before.calls) (same : changed.restoration = before.restoration)
    (sameRestored : changed.restored = before.restored) (connected : changed.connected = true)
    (restored : before.restored = false) (restoration : before.restoration = some index)
    (found : before.calls[index]? = some call)
    (operation : call.operation = .restore identity remaining)
    (stale : ∀ name, changed.Stale name → before.Stale name ∧ name ≠ (call.route, identity)) :
    before.sweep.Proceeds (changed.leave index call returned).sweep := by
  have inStore : index < changed.calls.length := by
    rw [calls]
    exact (List.getElem?_eq_some_iff.mp found).1
  have visits : (changed.leave index call returned).toVisit = remaining := by
    cases remaining with
    | nil =>
        refine toVisit_of_restored ?_
        simp only [WorkerRegistrations.leave, operation]
        exact connected
    | cons entry rest =>
        have leaves : changed.leave index call returned = changed.put index
            { route := entry.1, operation := .restore entry.2 rest } := by
          simp only [WorkerRegistrations.leave, operation]
        have foundNext : (changed.put index
            { route := entry.1, operation := .restore entry.2 rest }).calls[index]? =
              some { route := entry.1, operation := .restore entry.2 rest } :=
          List.getElem?_set_self inStore
        rw [leaves]
        refine toVisit_of_restoring ?_ ?_ foundNext rfl
        · exact sameRestored.trans restored
        · exact same.trans restoration
  intro name isStale
  have isStale : changed.Stale name := by
    obtain ⟨entry, found, identified, apart⟩ := isStale
    rw [workers_leave] at found
    rw [session_leave] at apart
    exact ⟨entry, found, identified, apart⟩
  obtain ⟨wasStale, isOther⟩ := stale name isStale
  refine ⟨wasStale, fun member => ?_⟩
  change name ∈ before.toVisit at member
  change name ∈ (changed.leave index call returned).toVisit
  rw [toVisit_of_restoring restored restoration found operation] at member
  rw [visits]
  exact (List.mem_cons.mp member).resolve_left isOther

theorem not_stale_store {name : String × Nat}
    (stale : (state.store route identity).Stale name) : state.Stale name ∧ name.1 ≠ route := by
  obtain ⟨entry, found, identified, apart⟩ := stale
  rcases Dictionary.lookup_insert_eq_some.mp found with ⟨-, rfl⟩ | ⟨isOther, old⟩
  · exact (apart rfl).elim
  · exact ⟨⟨entry, old, identified, apart⟩, isOther⟩

theorem stale_pop {name : String × Nat} (stale : (state.pop route identity).Stale name) :
    state.Stale name ∧ name ≠ (route, identity) := by
  obtain ⟨entry, found, identified, apart⟩ := stale
  unfold pop at found apart
  split at found
  · next registered =>
      rw [if_pos registered] at apart
      obtain ⟨isOther, old⟩ := Dictionary.lookup_erase_eq_some.mp found
      exact ⟨⟨entry, old, identified, apart⟩, fun same => isOther (congrArg Prod.fst same)⟩
  · next absent =>
      rw [if_neg absent] at apart
      refine ⟨⟨entry, found, identified, apart⟩, ?_⟩
      rintro rfl
      exact absent (isRegistered_eq_true.mpr ⟨entry, found, identified⟩)

/-- What a call does to the table before it leaves its lock. -/
structure Changes (before changed : WorkerRegistrations) (call : WorkerCall) : Prop where
  calls : changed.calls = before.calls
  restoration : changed.restoration = before.restoration
  restored : changed.restored = before.restored
  connected : changed.connected = before.connected
  session : changed.session = before.session
  workers : ∀ route entry, changed.workers.lookup route = some entry →
    before.workers.lookup route = some entry ∨ entry.session = before.session
  stale : ∀ name, changed.Stale name → before.Stale name
  visited : ∀ identity remaining, call.operation = .restore identity remaining →
    ¬ changed.Stale (call.route, identity)

theorem changes_refl (unvisited : ∀ identity remaining,
    call.operation = .restore identity remaining → ¬ before.Stale (call.route, identity)) :
    Changes before before call :=
  ⟨rfl, rfl, rfl, rfl, rfl, fun _ _ => Or.inl, fun _ => id, unvisited⟩

theorem changes_store (before : WorkerRegistrations) (call : WorkerCall) (identity : Nat) :
    Changes before (before.store call.route identity) call where
  calls := rfl
  restoration := rfl
  restored := rfl
  connected := rfl
  session := rfl
  workers route entry found := by
    rcases Dictionary.lookup_insert_eq_some.mp found with ⟨-, rfl⟩ | ⟨-, old⟩
    · exact Or.inr rfl
    · exact Or.inl old
  stale _ stale := (not_stale_store stale).1
  visited _ _ _ stale := (not_stale_store stale).2 rfl

theorem changes_pop (subject : call.operation.subject = some identity) :
    Changes before (before.pop call.route identity) call where
  calls := by unfold pop; split <;> rfl
  restoration := by unfold pop; split <;> rfl
  restored := by unfold pop; split <;> rfl
  connected := by unfold pop; split <;> rfl
  session := by unfold pop; split <;> rfl
  workers route entry found := by
    unfold pop at found
    split at found
    · exact Or.inl (Dictionary.lookup_erase_eq_some.mp found).2
    · exact Or.inl found
  stale _ stale := (stale_pop stale).1
  visited other remaining operation stale := by
    rw [operation] at subject
    obtain rfl := Option.some.inj subject
    exact (stale_pop stale).2 rfl

theorem exists_changes_settle (before : WorkerRegistrations) (index : Nat) (call : WorkerCall)
    (reply : WorkerReply) : ∃ changed returned, Changes before changed call ∧
      before.settle index call reply = changed.leave index call returned := by
  unfold settle
  split
  · exact ⟨_, _, before.changes_store call index, rfl⟩
  · next operation _ =>
      exact ⟨_, _, changes_refl fun _ _ isRestore => by simp [operation] at isRestore, rfl⟩
  · next operation => exact ⟨_, _, changes_pop (by rw [operation]; rfl), rfl⟩
  · next operation _ =>
      exact ⟨_, _, changes_refl fun _ _ isRestore => by simp [operation] at isRestore, rfl⟩
  · exact ⟨_, _, before.changes_store call _, rfl⟩
  · next operation _ => exact ⟨_, _, changes_pop (by rw [operation]; rfl), rfl⟩

theorem leave_of_not_restores (restores : ¬ call.operation.restores = true) :
    state.leave index call returned = state.put index { call with phase := .ended returned } := by
  unfold WorkerRegistrations.leave
  split
  · next operation => simp [operation, WorkerOperation.restores] at restores
  · next operation => simp [operation, WorkerOperation.restores] at restores
  · rfl

/-- A call in its lock, or on its way there. -/
def Goes (call : WorkerCall) : Prop :=
  ∀ returned, call.phase ≠ .ended returned

theorem goes_of_holds (holds : call.holds = true) : Goes call := by
  intro returned phase
  simp [WorkerCall.holds, phase] at holds

theorem Restoring.restoration_eq (restoring : Restoring before)
    (found : before.calls[index]? = some call) (goes : Goes call)
    (restores : call.operation.restores = true) : before.restoration = some index := by
  rcases restoring.single index call found restores with ⟨returned, ended⟩ | active
  · exact (goes returned ended).elim
  · exact active

theorem Restoring.advance (restoring : Restoring before)
    (found : before.calls[index]? = some call) (goes : Goes call)
    (calls : after.calls = before.calls.set index next)
    (operation : next.operation = call.operation)
    (workers : after.workers = before.workers) (session : after.session = before.session)
    (restoration : after.restoration = before.restoration)
    (restored : after.restored = before.restored) : Restoring after := by
  have inStore : index < before.calls.length := (List.getElem?_eq_some_iff.mp found).1
  refine ⟨fun other otherCall foundOther restores => ?_, fun active isActive => ?_,
    fun active isActive => ?_, fun route entry foundEntry => ?_⟩
  · rw [restoration]
    rw [calls] at foundOther
    rcases getElem?_set_eq_some foundOther with ⟨rfl, rfl⟩ | ⟨-, old⟩
    · exact Or.inr (restoring.restoration_eq found goes (operation ▸ restores))
    · exact restoring.single other otherCall old restores
  · obtain ⟨activeCall, foundActive, restores⟩ := restoring.active active (restoration ▸ isActive)
    rw [calls]
    by_cases isIndex : active = index
    · subst isIndex
      rw [found] at foundActive
      obtain rfl := Option.some.inj foundActive
      exact ⟨next, List.getElem?_set_self inStore, by rw [operation, restores]⟩
    · exact ⟨activeCall, by rw [List.getElem?_set_ne (Ne.symm isIndex), foundActive], restores⟩
  · rw [restored]
    exact restoring.pending active (restoration ▸ isActive)
  · rw [session]
    exact restoring.past route entry (workers ▸ foundEntry)

theorem Restoring.leave (restoring : Restoring before) (changes : Changes before changed call)
    (found : before.calls[index]? = some call) (goes : Goes call) (returned : Bool) :
    Restoring (changed.leave index call returned) := by
  have inStore : index < changed.calls.length := by
    rw [changes.calls]
    exact (List.getElem?_eq_some_iff.mp found).1
  have past (route : String) (entry : WorkerEntry)
      (foundEntry : changed.workers.lookup route = some entry) :
      entry.session ≤ changed.session := by
    rw [changes.session]
    rcases changes.workers route entry foundEntry with old | current
    · exact restoring.past route entry old
    · exact Nat.le_of_eq current
  have earlier (other : Nat) (otherCall fresh : WorkerCall) (isOther : other ≠ index)
      (foundOther : (changed.calls.set index fresh)[other]? = some otherCall) :
      before.calls[other]? = some otherCall := by
    rwa [List.getElem?_set_ne (Ne.symm isOther), changes.calls] at foundOther
  by_cases restores : call.operation.restores = true
  · have active := restoring.restoration_eq found goes restores
    have onlyOne (other : Nat) (otherCall : WorkerCall) (isOther : other ≠ index)
        (foundOther : before.calls[other]? = some otherCall)
        (restoresOther : otherCall.operation.restores = true) :
        ∃ returned, otherCall.phase = .ended returned := by
      refine (restoring.single other otherCall foundOther restoresOther).resolve_right ?_
      rw [active]
      exact fun same => isOther (Option.some.inj same).symm
    obtain ⟨identity, remaining, operation⟩ := exists_restore restores
    cases remaining with
    | nil =>
        simp only [WorkerRegistrations.leave, operation]
        refine ⟨fun other otherCall foundOther restoresOther => Or.inl ?_, nofun, nofun, past⟩
        rcases getElem?_set_eq_some foundOther with ⟨-, rfl⟩ | ⟨isOther, -⟩
        · exact ⟨true, rfl⟩
        · exact onlyOne other otherCall isOther (earlier _ _ _ isOther foundOther) restoresOther
    | cons entry rest =>
        simp only [WorkerRegistrations.leave, operation]
        refine ⟨fun other otherCall foundOther restoresOther => ?_, fun other isActive => ?_,
          fun other isActive => ?_, past⟩
        · rcases getElem?_set_eq_some foundOther with ⟨rfl, -⟩ | ⟨isOther, -⟩
          · exact Or.inr (changes.restoration.trans active)
          · exact Or.inl (onlyOne other otherCall isOther (earlier _ _ _ isOther foundOther)
              restoresOther)
        · obtain rfl := Option.some.inj ((changes.restoration.trans active).symm.trans isActive)
          exact ⟨_, List.getElem?_set_self inStore, rfl⟩
        · exact changes.restored.trans
            (restoring.pending other (changes.restoration.symm.trans isActive))
  · rw [leave_of_not_restores restores]
    refine ⟨fun other otherCall foundOther restoresOther => ?_, fun other isActive => ?_,
      fun other isActive => ?_, past⟩
    · rcases getElem?_set_eq_some foundOther with ⟨-, rfl⟩ | ⟨isOther, -⟩
      · exact (restores restoresOther).elim
      · exact (restoring.single other otherCall (earlier _ _ _ isOther foundOther)
          restoresOther).imp_right changes.restoration.trans
    · obtain ⟨otherCall, foundOther, restoresOther⟩ :=
        restoring.active other (changes.restoration.symm.trans isActive)
      refine ⟨otherCall, ?_, restoresOther⟩
      change (changed.calls.set index _)[other]? = some otherCall
      rw [List.getElem?_set_ne, changes.calls]
      · exact foundOther
      · rintro rfl
        rw [found] at foundOther
        exact restores (Option.some.inj foundOther ▸ restoresOther)
    · exact changes.restored.trans
        (restoring.pending other (changes.restoration.symm.trans isActive))

/-- What restoration had to visit and is still stale, it has yet to visit. -/
theorem proceeds_leave (restoring : Restoring before) (changes : Changes before changed call)
    (connected : before.connected = true) (found : before.calls[index]? = some call)
    (goes : Goes call) (returned : Bool) :
    before.sweep.Proceeds (changed.leave index call returned).sweep := by
  by_cases restores : call.operation.restores = true
  · have active := restoring.restoration_eq found goes restores
    obtain ⟨identity, remaining, operation⟩ := exists_restore restores
    refine proceeds_of_visit changes.calls changes.restoration changes.restored
      (changes.connected.trans connected) (restoring.pending index active) active found operation
      fun name stale => ⟨changes.stale name stale, ?_⟩
    rintro rfl
    exact changes.visited identity remaining operation stale
  · rw [leave_of_not_restores restores]
    refine proceeds_of_same restoring changes.restored changes.restoration
      (fun active activeCall isActive foundActive => ⟨activeCall, ?_, rfl, rfl⟩) changes.stale
    change (changed.calls.set index _)[active]? = some activeCall
    rw [List.getElem?_set_ne, changes.calls]
    · exact foundActive
    · rintro rfl
      obtain ⟨other, foundOther, restoresOther⟩ := restoring.active index isActive
      rw [found] at foundOther
      exact restores (Option.some.inj foundOther ▸ restoresOther)

/-- The locks are respected, and while there is a connection, the broker and the
table agree unless a request has timed out. -/
structure Kept (state : WorkerRegistrations) : Prop where
  locked : Locked state
  restoring : Restoring state
  agreed : state.connected = true → state.timedOut = false → Agreed state
  covered : state.connected = true → state.sweep.Covered

/-- A call leaves its lock with what it has done, and the broker and the table
agree afterwards if they do so about its route. -/
theorem Kept.settle (kept : Kept before) (found : before.calls[index]? = some call)
    {reply : WorkerReply} (holds : call.holds = true)
    (agrees : before.connected = true → before.timedOut = false →
      Agreed (before.settle index call reply)) : Kept (before.settle index call reply) := by
  have leaves := leaves_settle before index call reply
  have goes := goes_of_holds holds
  obtain ⟨changed, returned, changes, settles⟩ := before.exists_changes_settle index call reply
  refine ⟨kept.locked.leave found holds leaves, ?_, fun connected punctual => ?_,
    fun connected => ?_⟩
  · rw [settles]
    exact kept.restoring.leave changes found goes returned
  · exact agrees (leaves.connected.symm.trans connected) (leaves.timedOut.symm.trans punctual)
  · have connected := leaves.connected.symm.trans connected
    rw [settles]
    exact (proceeds_leave kept.restoring changes connected found goes returned).covered
      (kept.covered connected)

/-- A timeout: the call leaves its lock, and what the broker makes of its frame is
open. -/
theorem Kept.timeOut (kept : Kept before) (found : before.calls[index]? = some call)
    (holds : call.holds = true) :
    Kept { before.settle index call .raised with timedOut := true } := by
  have leaves := leaves_settle before index call .raised
  have goes := goes_of_holds holds
  have locked := kept.locked.leave found holds leaves
  obtain ⟨changed, returned, changes, settles⟩ := before.exists_changes_settle index call .raised
  rw [settles] at leaves locked ⊢
  have restoring := kept.restoring.leave changes found goes returned
  refine ⟨⟨locked.apart, locked.subject⟩, ⟨restoring.single, restoring.active, restoring.pending,
    restoring.past⟩, by simp, fun connected => ?_⟩
  have connected := leaves.connected.symm.trans connected
  exact (proceeds_leave kept.restoring changes connected found goes returned).covered
    (kept.covered connected)

/-- A call that has nothing to do, or that is cancelled in time. -/
theorem Kept.skip (kept : Kept before) (found : before.calls[index]? = some call)
    (goes : Goes call) (unwritten : ∀ reply, call.phase ≠ .awaiting reply) (returned : Bool)
    (unvisited : ∀ identity remaining, call.operation = .restore identity remaining →
      ¬ before.Stale (call.route, identity)) : Kept (before.leave index call returned) := by
  have leaves : Leaves before (before.leave index call returned) index call :=
    leaves_leave before rfl (fun _ _ => rfl) rfl rfl rfl rfl rfl index returned
  have changes : Changes before before call := changes_refl unvisited
  obtain ⟨next, idle, calls, -⟩ := leaves.calls
  refine ⟨kept.locked.idle calls idle (workers_leave _ _ _ _),
    kept.restoring.leave changes found goes returned, fun connected punctual => ?_,
    fun connected => ?_⟩
  · have agreed := kept.agreed (leaves.connected.symm.trans connected)
      (leaves.timedOut.symm.trans punctual)
    refine agreed.leave found leaves (unwritten none) fun undecided => ?_
    rw [serves_leave]
    exact agreed.settled_of_undecided found (unwritten _) undecided
  · have connected := leaves.connected.symm.trans connected
    exact (proceeds_leave kept.restoring changes connected found goes returned).covered
      (kept.covered connected)

/-- A call stays on its way: the table is as it was. -/
theorem proceeds_advance (restoring : Restoring before)
    (found : before.calls[index]? = some call)
    (calls : after.calls = before.calls.set index next) (route : next.route = call.route)
    (operation : next.operation = call.operation) (workers : after.workers = before.workers)
    (session : after.session = before.session)
    (restoration : after.restoration = before.restoration)
    (restored : after.restored = before.restored) : before.sweep.Proceeds after.sweep := by
  have inStore : index < before.calls.length := (List.getElem?_eq_some_iff.mp found).1
  refine proceeds_of_same restoring restored restoration
    (fun active activeCall _ foundActive => ?_) fun name stale => ?_
  · rw [calls]
    by_cases isIndex : active = index
    · subst isIndex
      rw [found] at foundActive
      obtain rfl := Option.some.inj foundActive
      exact ⟨next, List.getElem?_set_self inStore, route, operation⟩
    · exact ⟨activeCall, by rw [List.getElem?_set_ne (Ne.symm isIndex), foundActive], rfl, rfl⟩
  · rw [Stale, workers, session] at stale
    exact stale

/-- A call waits for its lock. -/
theorem Kept.queue (kept : Kept before) (idle : next.holds = false)
    (restores : next.operation.restores = false) :
    Kept { before with calls := before.calls ++ [next] } := by
  have keptCall {index : Nat} {call : WorkerCall} (found : before.calls[index]? = some call) :
      (before.calls ++ [next])[index]? = some call :=
    getElem?_concat_eq_some.mpr (Or.inl found)
  refine ⟨kept.locked.queue rfl idle rfl, ⟨fun index call found isRestore => ?_,
    fun index isActive => ?_, kept.restoring.pending, kept.restoring.past⟩,
    fun connected punctual => (kept.agreed connected punctual).queue rfl idle rfl rfl rfl rfl,
    fun connected => ?_⟩
  · rcases getElem?_concat_eq_some.mp found with old | ⟨-, rfl⟩
    · exact kept.restoring.single index call old isRestore
    · rw [restores] at isRestore
      cases isRestore
  · obtain ⟨call, found, isRestore⟩ := kept.restoring.active index isActive
    exact ⟨call, keptCall found, isRestore⟩
  · refine Sweep.Proceeds.covered ?_ (kept.covered connected)
    exact proceeds_of_same kept.restoring rfl rfl
      (fun index call _ found => ⟨call, keptCall found, rfl, rfl⟩) fun _ stale => stale

theorem kept_restore {order : List (String × Nat)} (kept : Kept before)
    (stepped : before.step (.restore order) = some after) : Kept after := by
  simp only [step] at stepped
  split at stepped
  · next starts =>
      obtain ⟨idle, unrestored, permutes⟩ := starts
      have ofItems (name : String × Nat) (stale : before.Stale name) : name ∈ order :=
        permutes.symm.mem_iff.mp stale.mem_items
      cases order with
      | nil =>
          cases stepped
          refine ⟨⟨kept.locked.apart, kept.locked.subject⟩, ⟨kept.restoring.single,
            kept.restoring.active, fun index active => ?_, kept.restoring.past⟩,
            fun connected punctual => ?_, fun _ => Sweep.covered_of_fresh ?_⟩
          · cases idle.symm.trans active
          · have agreed := kept.agreed connected punctual
            exact ⟨agreed.wire, agreed.apart, agreed.unraised, agreed.answered, agreed.settled⟩
          · refine Set.eq_empty_of_forall_notMem fun name stale => ?_
            cases ofItems name stale
      | cons entry remaining =>
          obtain ⟨route, identity⟩ := entry
          cases stepped
          let call : WorkerCall := { route, operation := .restore identity remaining }
          have found : (before.calls ++ [call])[before.calls.length]? = some call :=
            getElem?_concat_eq_some.mpr (Or.inr ⟨rfl, rfl⟩)
          refine ⟨kept.locked.queue rfl rfl rfl, ⟨fun index other foundOther isRestore => ?_,
            fun index isActive => ?_, fun _ _ => unrestored, kept.restoring.past⟩,
            fun connected punctual =>
              (kept.agreed connected punctual).queue rfl rfl rfl rfl rfl rfl,
            fun connected name stale => ?_⟩
          · rcases getElem?_concat_eq_some.mp foundOther with old | ⟨rfl, -⟩
            · refine (kept.restoring.single index other old isRestore).imp_right fun active => ?_
              cases idle.symm.trans active
            · exact Or.inr rfl
          · obtain rfl := Option.some.inj isActive
            exact ⟨call, found, rfl⟩
          · have visits : toVisit { before with
                calls := before.calls ++ [call]
                restoration := some before.calls.length } = (route, identity) :: remaining := by
              have operation : call.operation = .restore identity remaining := rfl
              refine toVisit_of_restoring ?_ rfl found operation
              exact unrestored
            change name ∈ toVisit _
            rw [visits]
            exact ofItems name stale
  · cases stepped

theorem kept_enter (kept : Kept before) (stepped : before.step (.enter index) = some after) :
    Kept after := by
  simp only [step] at stepped
  split at stepped
  · next call found =>
      split at stepped <;> cases stepped
      next entered =>
      obtain ⟨phase, free⟩ := entered
      have goes : Goes call := fun returned => by rw [phase]; nofun
      have unwritten (reply : Option WorkerReply) : call.phase ≠ .awaiting reply := by
        rw [phase]
        nofun
      have locked := kept.locked.enter free index
      rcases before.enter_eq index call with ⟨enters, -⟩ | ⟨identity, subject, absent, leaves⟩
      · rw [enters] at locked ⊢
        refine ⟨locked, kept.restoring.advance found goes rfl rfl rfl rfl rfl rfl,
          fun connected punctual => ?_, fun connected => ?_⟩
        · exact (kept.agreed connected punctual).advance found rfl rfl unwritten nofun (Or.inl rfl)
            rfl rfl rfl
        · refine Sweep.Proceeds.covered ?_ (kept.covered connected)
          exact proceeds_advance kept.restoring found rfl rfl rfl rfl rfl rfl rfl
      · rw [leaves]
        refine kept.skip found goes unwritten true fun other remaining operation stale => ?_
        obtain ⟨entry, foundEntry, identified, -⟩ := stale
        rw [operation] at subject
        obtain rfl := Option.some.inj subject
        rw [isRegistered_eq_true.mpr ⟨entry, foundEntry, identified⟩] at absent
        cases absent
  · cases stepped

theorem kept_write (kept : Kept before) (stepped : before.step (.write index) = some after) :
    Kept after := by
  simp only [step] at stepped
  split at stepped
  · next call found =>
      split at stepped <;> cases stepped
      next written =>
      obtain ⟨phase, -⟩ := written
      have holds : call.holds = true := by simp [WorkerCall.holds, phase]
      refine ⟨kept.locked.stay found holds rfl rfl rfl rfl,
        kept.restoring.advance found (goes_of_holds holds) rfl rfl rfl rfl rfl rfl,
        fun connected punctual => ?_, fun connected => ?_⟩
      · refine (kept.agreed connected punctual).advance found rfl rfl (fun reply => ?_) (by simp)
          (Or.inr ⟨rfl, rfl⟩) rfl rfl rfl
        rw [phase]
        simp
      · refine Sweep.Proceeds.covered ?_ (kept.covered connected)
        exact proceeds_advance kept.restoring found rfl rfl rfl rfl rfl rfl rfl
  · cases stepped

theorem kept_raise (kept : Kept before) (admitted : before.Admitted (.raise index))
    (stepped : before.step (.raise index) = some after) : Kept after := by
  simp only [step] at stepped
  split at stepped
  · next call found =>
      split at stepped
      · next phase =>
          cases stepped
          have holds : call.holds = true := by simp [WorkerCall.holds, phase]
          exact kept.settle found holds fun connected punctual =>
            (kept.agreed connected punctual).settle kept.locked found holds (by rw [phase]; simp)
              (by simp [phase]) fun _ restores => admitted call found phase restores
      · next phase =>
          cases stepped
          have holds : call.holds = true := by simp [WorkerCall.holds, phase]
          exact kept.timeOut found holds
      · cases stepped
  · cases stepped

theorem kept_resume (kept : Kept before) (admitted : before.Admitted (.resume index))
    (stepped : before.step (.resume index) = some after) : Kept after := by
  simp only [step] at stepped
  split at stepped
  · next call found =>
      split at stepped
      · next reply phase =>
          cases stepped
          have holds : call.holds = true := by simp [WorkerCall.holds, phase]
          refine kept.settle found holds fun connected punctual => ?_
          have agreed := kept.agreed connected punctual
          refine agreed.settle kept.locked found holds (by rw [phase]; simp) (by simp [phase])
            fun declined restores => ?_
          cases reply with
          | accepted => exact (declined rfl).elim
          | refused => exact admitted call found phase restores
          | raised => exact (agreed.unraised index call found phase).elim
      · cases stepped
  · cases stepped

theorem answer_cases (state : WorkerRegistrations) (frame : WorkerFrame) (reply : WorkerReply) :
    (∃ call, state.calls[frame.index]? = some call ∧ call.phase = .awaiting none ∧
      state.answer frame reply =
        state.put frame.index { call with phase := .awaiting (some reply) }) ∨
    (∀ call, state.calls[frame.index]? = some call → call.route = frame.route →
      call.phase ≠ .awaiting none) ∧ state.answer frame reply = state := by
  unfold answer
  split
  · next call found =>
      split
      · next waits => exact Or.inl ⟨call, found, waits.2, rfl⟩
      · next gone =>
          refine Or.inr ⟨fun other foundOther sameRoute awaits => gone ?_, rfl⟩
          rw [found] at foundOther
          obtain rfl := Option.some.inj foundOther
          exact ⟨sameRoute, awaits⟩
  · next missing =>
      refine Or.inr ⟨fun other foundOther => ?_, rfl⟩
      rw [missing] at foundOther
      cases foundOther

theorem kept_process {accepted : Bool} (kept : Kept before)
    (stepped : before.step (.process accepted) = some after) : Kept after := by
  simp only [step] at stepped
  split at stepped <;> cases stepped
  next frame rest wire =>
  have onWire (connected : before.connected = true) (punctual : before.timedOut = false) :=
    (kept.agreed connected punctual).wire frame (by rw [wire]; exact List.mem_cons_self)
  rcases before.answer_cases frame (if accepted then .accepted else .refused) with
    ⟨call, found, awaiting, answers⟩ | ⟨gone, unchanged⟩
  · have holds : call.holds = true := by simp [WorkerCall.holds, awaiting]
    rw [answers]
    refine ⟨kept.locked.stay found holds rfl rfl rfl rfl,
      kept.restoring.advance found (goes_of_holds holds) rfl rfl rfl rfl rfl rfl,
      fun connected punctual => ?_, fun connected => ?_⟩
    · obtain ⟨other, foundOther, -, isFrame⟩ := onWire connected punctual
      rw [found] at foundOther
      obtain rfl := Option.some.inj foundOther
      exact (kept.agreed connected punctual).process kept.locked wire found awaiting isFrame
        accepted
    · refine Sweep.Proceeds.covered ?_ (kept.covered connected)
      exact proceeds_advance kept.restoring found rfl rfl rfl rfl rfl rfl rfl
  · -- nobody hears of a frame whose request has raised
    rw [unchanged]
    refine ⟨⟨kept.locked.apart, kept.locked.subject⟩, ⟨kept.restoring.single,
      kept.restoring.active, kept.restoring.pending, kept.restoring.past⟩,
      fun connected punctual => ?_, fun connected => kept.covered connected⟩
    obtain ⟨call, found, awaiting, isFrame⟩ := onWire connected punctual
    exact (gone call found (congrArg WorkerFrame.route isFrame).symm awaiting).elim

theorem kept_cancel (kept : Kept before) (admitted : before.Admitted (.cancel index))
    (stepped : before.step (.cancel index) = some after) : Kept after := by
  simp only [step] at stepped
  split at stepped
  · next call found =>
      split at stepped
      · cases stepped
      · next goes =>
          by_cases restores : call.operation.restores = true
          · rw [if_pos restores] at stepped
            cases stepped
            refine ⟨kept.locked.idle rfl rfl rfl,
              ⟨fun other otherCall foundOther restoresOther => Or.inl ?_, nofun, nofun,
                kept.restoring.past⟩, nofun, nofun⟩
            rcases getElem?_set_eq_some foundOther with ⟨-, rfl⟩ | ⟨isOther, old⟩
            · exact ⟨false, rfl⟩
            · have active := kept.restoring.restoration_eq found goes restores
              refine (kept.restoring.single other otherCall old restoresOther).resolve_right ?_
              rw [active]
              exact fun same => isOther (Option.some.inj same).symm
          · rw [if_neg restores] at stepped
            cases stepped
            have ends : before.put index { call with phase := .ended false } =
                before.leave index call false := (leave_of_not_restores restores).symm
            rw [ends]
            refine kept.skip found goes (fun reply phase => ?_) false
              fun identity remaining operation => ?_
            · exact restores (admitted call found (by simp [WorkerCall.awaits, phase]))
            · simp [operation, WorkerOperation.restores] at restores
  · cases stepped

theorem ended_disconnected (call : WorkerCall) (returned : Bool) :
    (disconnected call).phase = .ended returned ↔ call.phase = .ended returned := by
  unfold disconnected
  split
  · next phase => simp [phase]
  · exact Iff.rfl

theorem kept_disconnect (kept : Kept before) (stepped : before.step .disconnect = some after) :
    Kept after := by
  cases stepped
  refine ⟨kept.locked.disconnect rfl rfl, ⟨fun index call found restores => ?_,
    fun index isActive => ?_, kept.restoring.pending, kept.restoring.past⟩, nofun, nofun⟩
  · change (before.calls.map disconnected)[index]? = some call at found
    rw [List.getElem?_map] at found
    obtain ⟨old, foundOld, rfl⟩ := Option.map_eq_some_iff.mp found
    rw [(holds_disconnected old).2.2] at restores
    refine (kept.restoring.single index old foundOld restores).imp_left ?_
    rintro ⟨returned, ended⟩
    exact ⟨returned, (ended_disconnected old returned).mpr ended⟩
  · obtain ⟨call, found, restores⟩ := kept.restoring.active index isActive
    refine ⟨disconnected call, ?_, by rw [(holds_disconnected call).2.2, restores]⟩
    change (before.calls.map disconnected)[index]? = some (disconnected call)
    rw [List.getElem?_map, found]
    rfl

theorem kept_connect (kept : Kept before) (admitted : before.Admitted .connect)
    (stepped : before.step .connect = some after) : Kept after := by
  simp only [step] at stepped
  split at stepped <;> cases stepped
  next opens =>
  obtain ⟨-, idle, answered⟩ := opens
  have unread (index : Nat) (call : WorkerCall) (found : before.calls[index]? = some call)
      (reply : WorkerReply) : call.phase ≠ .awaiting (some reply) := by
    intro phase
    have idle := admitted call (List.mem_of_getElem? found)
    simp [WorkerCall.awaits, phase] at idle
  refine ⟨⟨kept.locked.apart, kept.locked.subject⟩, ⟨kept.restoring.single, kept.restoring.active,
    fun _ _ => rfl, fun route entry found => Nat.le_succ_of_le (kept.restoring.past _ _ found)⟩,
    fun _ _ => ⟨nofun, List.nodup_nil, fun index call found => unread index call found _,
      fun index call found accepted => (unread index call found _ accepted).elim,
      fun route _ => ?_⟩, fun _ name stale => ?_⟩
  · refine iff_of_false (Finset.notMem_empty route) ?_
    rintro ⟨entry, found, current⟩
    have past := kept.restoring.past route entry found
    change entry.session = before.session + 1 at current
    omega
  · let opened : WorkerRegistrations := { before with
      connected := true
      session := before.session + 1
      timedOut := false
      restored := false
      wire := []
      subscribed := ∅ }
    have visits : opened.toVisit = opened.items := toVisit_of_idle rfl idle
    change name ∈ opened.toVisit
    rw [visits]
    exact Stale.mem_items stale

theorem Kept.step (kept : Kept before) (admitted : before.Admitted action)
    (stepped : before.step action = some after) : Kept after := by
  cases action with
  | register route =>
      cases stepped
      exact kept.queue rfl rfl
  | unregister worker =>
      simp only [WorkerRegistrations.step] at stepped
      split at stepped <;> cases stepped
      exact kept.queue rfl rfl
  | restore order => exact kept_restore kept stepped
  | enter index => exact kept_enter kept stepped
  | write index => exact kept_write kept stepped
  | raise index => exact kept_raise kept admitted stepped
  | process accepted => exact kept_process kept stepped
  | resume index => exact kept_resume kept admitted stepped
  | cancel index => exact kept_cancel kept admitted stepped
  | disconnect => exact kept_disconnect kept stepped
  | connect => exact kept_connect kept admitted stepped

theorem invariant_kept : system.Invariant Admitted Kept where
  starts first starts := by
    subst starts
    exact ⟨⟨nofun, nofun⟩, ⟨nofun, nofun, nofun, fun _ _ found => by simp at found⟩,
      fun _ _ => ⟨nofun, List.nodup_nil, nofun, nofun, fun route _ => by simp [Serves]⟩,
      fun _ => Sweep.covered_of_fresh (by simp [sweep, Stale])⟩
  preserved _ _ _ kept admitted stepped := kept.step admitted stepped

/-- While there is a connection on which no request has timed out, and nobody is in
the lock of the route, the broker has a worker for it exactly if the table has
one that was accepted in this session; and after restoration, exactly if the
table has one. -/
theorem agrees_of_reachable (reachable : system.ReachableUnder Admitted state)
    (connected : state.connected = true) (punctual : state.timedOut = false) (route : String)
    (free : state.Free route) :
    (route ∈ state.subscribed ↔ state.Serves route) ∧
      (state.restored = true → (route ∈ state.subscribed ↔
        (state.workers.lookup route).isSome = true)) := by
  have kept := invariant_kept.of_reachable reachable
  have agrees : route ∈ state.subscribed ↔ state.Serves route := by
    refine (kept.agreed connected punctual).settled route fun index call found same phase => ?_
    have idle := free call (List.mem_of_getElem? found) same
    exact phase_of_idle idle _ phase
  refine ⟨agrees, fun restored => agrees.trans ?_⟩
  rw [Option.isSome_iff_exists]
  constructor
  · rintro ⟨entry, found, -⟩
    exact ⟨entry, found⟩
  · rintro ⟨entry, found⟩
    refine ⟨entry, found, ?_⟩
    by_contra stale
    have none := (kept.covered connected).fresh (toVisit_of_restored restored)
    have isStale : (route, entry.identity) ∈ state.sweep.stale := ⟨entry, found, rfl, stale⟩
    rw [none] at isStale
    exact isStale

/-- Two workers are restored, one of them in vain, and the other is withdrawn
while a new one waits for its route. -/
def twoWorkers : List WorkerAction :=
  [.register "orders", .enter 0, .write 0, .register "prices", .enter 1, .write 1,
    .process true, .resume 0, .process true, .resume 1, .disconnect, .connect,
    .restore [("prices", 1), ("orders", 0)], .enter 2, .write 2, .process false, .resume 2,
    .enter 2, .write 2, .unregister 0, .register "prices", .enter 4, .write 4, .process true,
    .resume 2, .process true, .resume 4, .enter 3, .write 3, .process true, .resume 3]

def withTwoWorkers : WorkerRegistrations :=
  (system.run {} twoWorkers).get (by decide)

/-- The broker serves the route of the one that is left. -/
theorem agrees_of_reachable_two : "prices" ∈ withTwoWorkers.subscribed ↔
    (withTwoWorkers.workers.lookup "prices").isSome = true := by
  have ran : system.run {} twoWorkers = some withTwoWorkers := (Option.some_get _).symm
  have reachable : system.ReachableUnder Admitted withTwoWorkers :=
    system.reachableUnder_of_run rfl twoWorkers ran (by decide)
  exact (agrees_of_reachable reachable (by decide) (by decide) "prices"
    (by unfold Free; decide)).2 (by decide)

end WorkerRegistrations

end FitzClient
