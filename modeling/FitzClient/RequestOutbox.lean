import FitzClient.IndexedCells

/-!
# The requests of a handle

What a handle such as a transaction sees of `Connection.request`: the call
waits for a slot of the request gate, starts a task that writes the frame, and
waits for the reply.  The write tasks queue for the write lock, which they get
in the order of their start.

A cancelled call still waits for its write task; cancelled once more it leaves,
and the task goes on.  `sent` is the log of the requests whose frames were
handed to the transport.
-/

namespace FitzClient

/-- What a request comes to.  A rejection is definite unless the broker says
that the operation may have had an effect. -/
inductive OutboxOutcome
  | accepted
  | rejected (definite : Bool)
  | raised
  | cancelled
  deriving DecidableEq, Repr

inductive OutboxPhase
  | admitting
  | writing
  | cancelling
  | waiting
  | ended (outcome : OutboxOutcome)
  deriving DecidableEq, Repr

structure OutboxRequest (Frame : Type) where
  frame : Frame
  phase : OutboxPhase := .admitting
  deriving DecidableEq, Repr

/-- Every request of a handle, its write tasks, and the requests whose frames
were sent. -/
structure RequestOutbox (Frame : Type) where
  requests : List (OutboxRequest Frame) := []
  writes : List Nat := []
  sent : List Nat := []
  deriving DecidableEq, Repr

/-- `grant` gets a slot of the gate and `refuse` an exception of it; `write`
and `failWrite` are the end of the first write task; `answer` is the reply, or
an exception while the call waits for it. -/
inductive OutboxAction
  | grant (request : Nat)
  | refuse (request : Nat)
  | write
  | failWrite
  | answer (request : Nat) (outcome : OutboxOutcome)
  | cancel (request : Nat)
  deriving DecidableEq, Repr

namespace OutboxPhase

/-- A call that waits for its write task, once the frame is written. -/
def written : OutboxPhase → OutboxPhase
  | .writing => .waiting
  | .cancelling => .ended .cancelled
  | phase => phase

/-- A call that waits for its write task, once the task has failed. -/
def unwritten : OutboxPhase → OutboxPhase
  | .writing => .ended .raised
  | .cancelling => .ended .cancelled
  | phase => phase

def cancelled : OutboxPhase → OutboxPhase
  | .writing => .cancelling
  | .admitting | .cancelling | .waiting => .ended .cancelled
  | .ended outcome => .ended outcome

end OutboxPhase

namespace RequestOutbox

variable {Frame : Type} {outbox before after : RequestOutbox Frame} {request : Nat}

/-- Where a request is. -/
def phase? (outbox : RequestOutbox Frame) (request : Nat) : Option OutboxPhase :=
  outbox.requests[request]?.map (·.phase)

def frame? (outbox : RequestOutbox Frame) (request : Nat) : Option Frame :=
  outbox.requests[request]?.map (·.frame)

/-- The frames handed to the transport. -/
def framesSent (outbox : RequestOutbox Frame) : List Frame :=
  outbox.sent.filterMap outbox.frame?

/-- The requests whose frames were handed to the transport or will be, in this
order. -/
def order (outbox : RequestOutbox Frame) : List Nat :=
  outbox.sent ++ outbox.writes

/-- A new request, the last one. -/
def enter (outbox : RequestOutbox Frame) (frame : Frame) : RequestOutbox Frame :=
  { outbox with requests := outbox.requests ++ [{ frame }] }

/-- Move a request to another phase. -/
def move (outbox : RequestOutbox Frame) (request : Nat) (update : OutboxPhase → OutboxPhase) :
    RequestOutbox Frame :=
  { outbox with
    requests := outbox.requests.modify request fun cell =>
      { cell with phase := update cell.phase } }

/-- One transition. -/
def step (outbox : RequestOutbox Frame) : OutboxAction → Option (RequestOutbox Frame)
  | .grant request =>
      if outbox.phase? request = some .admitting then
        some { outbox.move request fun _ => .writing with writes := outbox.writes ++ [request] }
      else
        none
  | .refuse request =>
      if outbox.phase? request = some .admitting then
        some (outbox.move request fun _ => .ended .raised)
      else
        none
  | .write =>
      match outbox.writes with
      | [] => none
      | request :: writes =>
          some { outbox.move request OutboxPhase.written with
            writes, sent := outbox.sent ++ [request] }
  | .failWrite =>
      match outbox.writes with
      | [] => none
      | request :: writes =>
          some { outbox.move request OutboxPhase.unwritten with writes }
  | .answer request outcome =>
      if outbox.phase? request = some .waiting then
        some (outbox.move request fun _ => .ended outcome)
      else
        none
  | .cancel request => some (outbox.move request OutboxPhase.cancelled)

@[simp]
theorem frame?_move (outbox : RequestOutbox Frame) (request other : Nat)
    (update : OutboxPhase → OutboxPhase) :
    (outbox.move request update).frame? other = outbox.frame? other := by
  simp only [frame?, move, List.getElem?_modify]
  cases outbox.requests[other]? with
  | none => rfl
  | some cell => by_cases same : request = other <;> simp [same]

theorem phase?_move (outbox : RequestOutbox Frame) (request other : Nat)
    (update : OutboxPhase → OutboxPhase) :
    (outbox.move request update).phase? other =
      if request = other then (outbox.phase? other).map update else outbox.phase? other := by
  simp only [phase?, move, List.getElem?_modify]
  cases outbox.requests[other]? with
  | none => simp
  | some cell => by_cases same : request = other <;> simp [same]

/-- A request that enters is the last one and waits for admission. -/
theorem phase?_enter (outbox : RequestOutbox Frame) (frame : Frame) (request : Nat) :
    (outbox.enter frame).phase? request =
      if request = outbox.requests.length then some .admitting else outbox.phase? request := by
  simp only [phase?, enter]
  rcases Nat.lt_trichotomy request outbox.requests.length with old | rfl | absent
  · rw [List.getElem?_append_left old, if_neg (by omega)]
  · simp
  · rw [List.getElem?_eq_none (by simp; omega), List.getElem?_eq_none (by omega),
      if_neg (by omega)]

theorem frame?_enter (outbox : RequestOutbox Frame) (frame : Frame) (request : Nat) :
    (outbox.enter frame).frame? request =
      if request = outbox.requests.length then some frame else outbox.frame? request := by
  simp only [frame?, enter]
  rcases Nat.lt_trichotomy request outbox.requests.length with old | rfl | absent
  · rw [List.getElem?_append_left old, if_neg (by omega)]
  · simp
  · rw [List.getElem?_eq_none (by simp; omega), List.getElem?_eq_none (by omega),
      if_neg (by omega)]

theorem phase?_eq_none_iff :
    outbox.phase? request = none ↔ outbox.requests.length ≤ request := by
  simp [phase?]

theorem frame?_eq_none_iff :
    outbox.frame? request = none ↔ outbox.requests.length ≤ request := by
  simp [frame?]

/-- Frames and the number of requests stay, a request is admitted at most once
and stays ended, and what was in order stays in order: nothing but a request
that is admitted joins the order, as the last one. -/
structure Advances (before after : RequestOutbox Frame) : Prop where
  length : after.requests.length = before.requests.length
  frames : ∀ request, after.frame? request = before.frame? request
  admitting : ∀ request, after.phase? request = some .admitting →
    before.phase? request = some .admitting
  ended : ∀ request outcome, before.phase? request = some (.ended outcome) →
    after.phase? request = some (.ended outcome)
  order : after.order.Sublist before.order ∨
    ∃ request, before.phase? request = some .admitting ∧
      after.phase? request = some .writing ∧ after.order = before.order ++ [request]

/-- A request in a phase other than that of an ended one moves to a phase other
than that of a new one. -/
theorem advances_move (request : Nat) (update : OutboxPhase → OutboxPhase)
    (admits : ∀ phase, outbox.phase? request = some phase → update phase = .admitting →
      phase = .admitting)
    (keeps : ∀ outcome, outbox.phase? request = some (.ended outcome) →
      update (.ended outcome) = .ended outcome)
    (after : RequestOutbox Frame)
    (requests : after.requests = (outbox.move request update).requests)
    (order : after.order.Sublist outbox.order ∨
      ∃ entered, outbox.phase? entered = some .admitting ∧
        after.phase? entered = some .writing ∧ after.order = outbox.order ++ [entered]) :
    Advances outbox after where
  length := by rw [requests, move, List.length_modify]
  frames other := by
    have moved := outbox.frame?_move request other update
    simp only [frame?] at moved ⊢
    rw [requests]
    exact moved
  admitting other waits := by
    have moved := outbox.phase?_move request other update
    simp only [phase?] at moved waits
    rw [requests, moved] at waits
    split_ifs at waits with same
    · subst same
      obtain ⟨phase, found, updated⟩ := Option.map_eq_some_iff.mp waits
      rw [admits phase found updated] at found
      exact found
    · exact waits
  ended other outcome found := by
    have moved := outbox.phase?_move request other update
    simp only [phase?] at moved ⊢
    rw [requests, moved]
    split_ifs with same
    · subst same
      simp only [phase?] at found
      rw [found]
      exact congrArg some (keeps outcome found)
    · exact found
  order := order

theorem advances_step {action : OutboxAction} (stepped : before.step action = some after) :
    Advances before after := by
  cases action with
  | grant request =>
      simp only [step] at stepped
      split_ifs at stepped with waits
      obtain rfl := Option.some.inj stepped
      refine advances_move request (fun _ => .writing) (fun _ _ => nofun)
        (fun outcome ended => ?_) _ rfl (Or.inr ⟨request, waits, ?_, ?_⟩)
      · rw [waits] at ended
        cases ended
      · change (before.move request fun _ => .writing).phase? request = _
        simp [phase?_move, waits]
      · simp [order, move]
  | refuse request =>
      simp only [step] at stepped
      split_ifs at stepped with waits
      obtain rfl := Option.some.inj stepped
      refine advances_move request (fun _ => .ended .raised) (fun _ _ => nofun)
        (fun outcome ended => ?_) _ rfl (Or.inl (List.Sublist.refl _))
      rw [waits] at ended
      cases ended
  | write =>
      simp only [step] at stepped
      split at stepped
      · cases stepped
      · next request writes queued =>
        obtain rfl := Option.some.inj stepped
        refine advances_move request OutboxPhase.written (fun phase _ updated => ?_)
          (fun _ _ => rfl) _ rfl (Or.inl ?_)
        · cases phase <;> simp_all [OutboxPhase.written]
        · simp [order, queued]
  | failWrite =>
      simp only [step] at stepped
      split at stepped
      · cases stepped
      · next request writes queued =>
        obtain rfl := Option.some.inj stepped
        refine advances_move request OutboxPhase.unwritten
          (fun phase _ updated => ?_) (fun _ _ => rfl) _ rfl (Or.inl ?_)
        · cases phase <;> simp_all [OutboxPhase.unwritten]
        · rw [order, order, queued]
          exact (List.Sublist.refl _).append (List.sublist_cons_self _ _)
  | answer request outcome =>
      simp only [step] at stepped
      split_ifs at stepped with waits
      obtain rfl := Option.some.inj stepped
      refine advances_move request (fun _ => .ended outcome) (fun _ _ => nofun)
        (fun other ended => ?_) _ rfl (Or.inl (List.Sublist.refl _))
      rw [waits] at ended
      cases ended
  | cancel request =>
      obtain rfl := Option.some.inj stepped
      refine advances_move request OutboxPhase.cancelled (fun phase _ updated => ?_)
        (fun _ _ => rfl) _ rfl (Or.inl (List.Sublist.refl _))
      cases phase <;> simp_all [OutboxPhase.cancelled]

/-- A request is admitted by its own admission only. -/
theorem eq_grant_of_step {action : OutboxAction} (stepped : before.step action = some after)
    (waits : before.phase? request = some .admitting)
    (admitted : after.phase? request = some .writing) : action = .grant request := by
  cases action with
  | grant other =>
      simp only [step] at stepped
      split_ifs at stepped
      obtain rfl := Option.some.inj stepped
      change (before.move other fun _ => .writing).phase? request = _ at admitted
      rw [phase?_move] at admitted
      split_ifs at admitted with same
      · rw [same]
      · rw [waits] at admitted
        cases admitted
  | refuse other =>
      simp only [step] at stepped
      split_ifs at stepped
      obtain rfl := Option.some.inj stepped
      rw [phase?_move, waits] at admitted
      split_ifs at admitted <;> cases admitted
  | write =>
      simp only [step] at stepped
      split at stepped
      · cases stepped
      · next other writes _ =>
        obtain rfl := Option.some.inj stepped
        change (before.move other OutboxPhase.written).phase? request = _ at admitted
        rw [phase?_move, waits] at admitted
        split_ifs at admitted <;> cases admitted
  | failWrite =>
      simp only [step] at stepped
      split at stepped
      · cases stepped
      · next other writes _ =>
        obtain rfl := Option.some.inj stepped
        change (before.move other OutboxPhase.unwritten).phase? request = _ at admitted
        rw [phase?_move, waits] at admitted
        split_ifs at admitted <;> cases admitted
  | answer other outcome =>
      simp only [step] at stepped
      split_ifs at stepped
      obtain rfl := Option.some.inj stepped
      rw [phase?_move, waits] at admitted
      split_ifs at admitted <;> cases admitted
  | cancel other =>
      obtain rfl := Option.some.inj stepped
      rw [phase?_move, waits] at admitted
      split_ifs at admitted <;> cases admitted

/-- The frame is still to be handed to the transport. -/
def Unsent (outbox : RequestOutbox Frame) (request : Nat) : Prop :=
  outbox.phase? request = some .admitting ∨ request ∈ outbox.writes

instance (outbox : RequestOutbox Frame) (request : Nat) : Decidable (outbox.Unsent request) :=
  inferInstanceAs (Decidable (_ ∨ _))

theorem unsent_of_step {action : OutboxAction} (stepped : before.step action = some after)
    (unsent : after.Unsent request) : before.Unsent request := by
  rcases unsent with waits | queued
  · exact Or.inl ((advances_step stepped).admitting request waits)
  · cases action with
    | grant other =>
        simp only [step] at stepped
        split_ifs at stepped with waits
        obtain rfl := Option.some.inj stepped
        rcases List.mem_append.mp queued with old | new
        · exact Or.inr old
        · rw [List.mem_singleton.mp new]
          exact Or.inl waits
    | refuse other =>
        simp only [step] at stepped
        split_ifs at stepped
        obtain rfl := Option.some.inj stepped
        exact Or.inr queued
    | write =>
        simp only [step] at stepped
        split at stepped
        · cases stepped
        · next other writes split =>
          obtain rfl := Option.some.inj stepped
          exact Or.inr (by rw [split]; exact List.mem_cons_of_mem _ queued)
    | failWrite =>
        simp only [step] at stepped
        split at stepped
        · cases stepped
        · next other writes split =>
          obtain rfl := Option.some.inj stepped
          exact Or.inr (by rw [split]; exact List.mem_cons_of_mem _ queued)
    | answer other outcome =>
        simp only [step] at stepped
        split_ifs at stepped
        obtain rfl := Option.some.inj stepped
        exact Or.inr queued
    | cancel other =>
        obtain rfl := Option.some.inj stepped
        exact Or.inr queued

/-- Requests in order have been admitted, each of them once. -/
structure Ordered (outbox : RequestOutbox Frame) : Prop where
  nodup : outbox.order.Nodup
  admitted : ∀ request ∈ outbox.order,
    request < outbox.requests.length ∧ outbox.phase? request ≠ some .admitting

theorem Ordered.advance (ordered : Ordered before) (advances : Advances before after) :
    Ordered after where
  nodup := by
    rcases advances.order with sublist | ⟨request, waits, -, appended⟩
    · exact ordered.nodup.sublist sublist
    · rw [appended, List.nodup_append]
      refine ⟨ordered.nodup, List.nodup_singleton _, fun first member second single => ?_⟩
      obtain rfl := List.mem_singleton.mp single
      rintro rfl
      exact (ordered.admitted first member).2 waits
  admitted other member := by
    rw [advances.length]
    rcases advances.order with sublist | ⟨request, waits, written, appended⟩
    · obtain ⟨bound, admitted⟩ := ordered.admitted other (sublist.subset member)
      exact ⟨bound, fun waits => admitted (advances.admitting other waits)⟩
    · rw [appended] at member
      rcases List.mem_append.mp member with old | new
      · obtain ⟨bound, admitted⟩ := ordered.admitted other old
        exact ⟨bound, fun waits => admitted (advances.admitting other waits)⟩
      · obtain rfl := List.mem_singleton.mp new
        refine ⟨?_, by rw [written]; nofun⟩
        by_contra outside
        rw [phase?_eq_none_iff.mpr (by omega)] at waits
        cases waits

theorem Ordered.enter (ordered : Ordered outbox) (frame : Frame) :
    Ordered (outbox.enter frame) where
  nodup := ordered.nodup
  admitted request member := by
    obtain ⟨bound, admitted⟩ := ordered.admitted request member
    refine ⟨by simp only [RequestOutbox.enter, List.length_append]; omega, ?_⟩
    rw [phase?_enter, if_neg (by omega)]
    exact admitted

theorem Ordered.empty : Ordered ({} : RequestOutbox Frame) where
  nodup := List.nodup_nil
  admitted _ member := by cases member

/-- What is last and stays is last afterwards. -/
theorem getLast?_of_sublist {earlier later : List Nat} (nodup : earlier.Nodup)
    (sublist : later.Sublist earlier) (last : earlier.getLast? = some request)
    (stays : request ∈ later) : later.getLast? = some request := by
  obtain ⟨front, rfl⟩ := List.getLast?_eq_some_iff.mp last
  obtain ⟨kept, rest, rfl, inFront, inLast⟩ := List.sublist_append_iff.mp sublist
  have absent : request ∉ kept := fun member =>
    (List.nodup_append.mp nodup).2.2 request (inFront.subset member) request
      (List.mem_singleton_self request) rfl
  rcases List.mem_append.mp stays with member | member
  · exact (absent member).elim
  · cases inLast with
    | cons _ none =>
        obtain rfl := List.eq_nil_of_sublist_nil none
        cases member
    | cons_cons _ none =>
        obtain rfl := List.eq_nil_of_sublist_nil none
        simp

/-- The frame of the request that is last in order is the last frame. -/
theorem eq_nil_of_sent (ordered : Ordered outbox) {earlier later : List Nat}
    (sent : outbox.sent = earlier ++ request :: later)
    (last : outbox.order.getLast? = some request) : later = [] := by
  have nodup := ordered.nodup
  rw [order, sent] at nodup last
  cases later with
  | nil => rfl
  | cons next rest =>
      have member : request ∈ next :: rest ++ outbox.writes := by
        refine List.mem_of_getLast? ?_
        rw [← last]
        simp [List.getLast?_append, List.getLast?_cons]
      rw [List.append_assoc, List.cons_append, List.nodup_append, List.nodup_cons] at nodup
      exact (nodup.2.1.1 member).elim

/-- When requests are admitted in the order of their entry, the frame of the
last request is the last frame. -/
theorem eq_nil_of_framesSent (ordered : Ordered outbox)
    (increasing : outbox.order.Pairwise (· < ·)) {frame : Frame} {earlier later : List Frame}
    (last : ∀ request, outbox.frame? request = some frame →
      request + 1 = outbox.requests.length)
    (sent : outbox.framesSent = earlier ++ frame :: later) : later = [] := by
  obtain ⟨first, rest, split, -, followed⟩ := List.filterMap_eq_append_iff.mp sent
  obtain ⟨skipped, request, others, restSplit, -, found, rfl⟩ :=
    List.filterMap_eq_cons_iff.mp followed
  have none : others = [] := by
    rw [List.eq_nil_iff_forall_not_mem]
    intro other member
    have inOrder : other ∈ outbox.order := by
      simp [order, split, restSplit, member]
    have bound := (ordered.admitted other inOrder).1
    have atEnd := last request found
    have sentIncreasing := (List.pairwise_append.mp increasing).1
    rw [split, restSplit, List.pairwise_append, List.pairwise_append, List.pairwise_cons]
      at sentIncreasing
    have after := sentIncreasing.2.1.2.1.1 other member
    omega
  rw [none]
  rfl

end RequestOutbox

end FitzClient
