import FitzClient.LeaseAcquireLock

/-!
# The replies of `acquire`

A deferred reply names no request, so that it is the lock that has to tell
whose it is.  While every request that the broker may still queue, or owes a
deferred reply, has its future in the queue, and only the holder of the lock
has one there, a deferred reply finds the call that it is owed to.
-/

namespace FitzClient

/-- A token that this call was granted, as far as anybody told it. -/
def AcquireCall.Holds (call : AcquireCall) (token : Nat) : Prop :=
  call.decision = some (.granted token) ∨ call.future = .result (.granted token) ∨
    call.phase = .returned token

namespace LeaseClient

variable {before after : LeaseClient} {index : Nat} {call : AcquireCall}

/-- Every deferred reply reached the call that it was owed to, and every lease
that `acquire` returned carries a token granted to this call. -/
structure Attributed (client : LeaseClient) : Prop where
  delivered : ∀ pair ∈ client.delivered, pair.1 = pair.2
  returned : ∀ (index : Nat) (call : AcquireCall) (token : Nat),
    client.calls[index]? = some call → call.phase = .returned token →
      (index, token) ∈ client.granted

/-- The broker queues only what may wait, a loss is announced before a call of
the next session has a future in the queue, and no call that waits times out
without the loss of its session. -/
def Orderly (client : LeaseClient) : LeaseAction → Prop
  | .decide index reply => reply = .queued →
      ∀ call, client.calls[index]? = some call → 0 < call.wait
  | .timeout index => client.unannounced ≠ 0 →
      ∀ call, client.calls[index]? = some call → call.wait = 0
  | .announce => client.usable = true → ∀ index ∈ client.queued,
      ∀ call, client.calls[index]? = some call → call.enteredIn ≠ client.session
  | _ => True

/-- What a call has been told is what the broker decided on it. -/
structure Traced (session : Nat) (granted : List (Nat × Nat)) (index : Nat)
    (call : AcquireCall) : Prop where
  unsent : call.phase = .locking ∨ call.phase = .admitting → call.sent = false
  decided : call.decision ≠ none → call.sent = true
  entered : call.enteredIn ≤ session
  answered : ∀ reply, call.phase = .answered reply → call.decision = some reply
  waits : call.decision = some .queued → 0 < call.wait
  granted : ∀ token, call.Holds token → (index, token) ∈ granted

/-- The broker may still queue the request of this call, or has queued it. -/
def Outstanding (client : LeaseClient) (index : Nat) (call : AcquireCall) : Prop :=
  client.usable = true ∧ call.enteredIn = client.session ∧ 0 < call.wait ∧
    (call.phase = .admitting ∨ call.sent = true) ∧ (call.decision = none ∨ index ∈ client.debts)

/-- Who is owed a deferred reply waits for it in the queue. -/
structure Accounted (client : LeaseClient) : Prop where
  traced : ∀ (index : Nat) (call : AcquireCall), client.calls[index]? = some call →
    Traced client.session client.granted index call
  waiting : ∀ (index : Nat) (call : AcquireCall), client.calls[index]? = some call →
    client.Outstanding index call → index ∈ client.queued
  debtor : ∀ index ∈ client.debts, ∃ call, client.calls[index]? = some call ∧
    call.decision = some .queued ∧ call.enteredIn = client.session
  nodup : client.debts.Nodup
  delivered : ∀ pair ∈ client.delivered, pair.1 = pair.2

theorem Accounted.attributed (accounted : Accounted before) : Attributed before where
  delivered := accounted.delivered
  returned index call token found returned :=
    (accounted.traced index call found).granted token (Or.inr (Or.inr returned))

/-- Who is owed a reply has been queued. -/
theorem Accounted.queued_of_owed (accounted : Accounted before)
    (found : before.calls[index]? = some call) (owed : index ∈ before.debts) :
    call.decision = some .queued ∧ call.enteredIn = before.session := by
  obtain ⟨again, foundAgain, holds⟩ := accounted.debtor index owed
  rw [found] at foundAgain
  exact Option.some.inj foundAgain ▸ holds

theorem Accounted.not_mem_debts (accounted : Accounted before)
    (found : before.calls[index]? = some call) (undecided : call.decision = none) :
    index ∉ before.debts := by
  intro owed
  have decided := (accounted.queued_of_owed found owed).1
  rw [undecided] at decided
  cases decided

/-- A call whose reply is known is outstanding only if it is queued. -/
theorem Accounted.not_outstanding (accounted : Accounted before)
    (found : before.calls[index]? = some call) {reply : AcquireReply}
    (decided : call.decision = some reply) (unqueued : reply = .queued → call.wait = 0) :
    ¬ before.Outstanding index call := by
  rintro ⟨-, -, waits, -, undecided | owed⟩
  · rw [decided] at undecided
    cases undecided
  · have queued := (accounted.queued_of_owed found owed).1
    rw [decided] at queued
    have none := unqueued (Option.some.inj queued)
    omega

theorem Traced.mono {session later : Nat} {granted more : List (Nat × Nat)}
    (traced : Traced session granted index call) (sessions : session ≤ later)
    (grants : ∀ pair ∈ granted, pair ∈ more) : Traced later more index call where
  unsent := traced.unsent
  decided := traced.decided
  entered := Nat.le_trans traced.entered sessions
  answered := traced.answered
  waits := traced.waits
  granted token holds := grants _ (traced.granted token holds)

/-- A call that is in another phase, but has not got a lease by it. -/
theorem Traced.phase {session : Nat} {granted : List (Nat × Nat)}
    (traced : Traced session granted index call) (phase : AcquirePhase)
    (left : phase ≠ .locking ∧ phase ≠ .admitting)
    (answered : ∀ reply, phase ≠ .answered reply)
    (returned : ∀ token, phase = .returned token → call.Holds token) :
    Traced session granted index { call with phase } where
  unsent entering := (entering.elim left.1 left.2).elim
  decided := traced.decided
  entered := traced.entered
  answered reply same := (answered reply same).elim
  waits := traced.waits
  granted token holds := by
    rcases holds with decided | result | same
    · exact traced.granted token (Or.inl decided)
    · exact traced.granted token (Or.inr (Or.inl result))
    · exact traced.granted token (returned token same)

theorem Traced.returned {session : Nat} {granted : List (Nat × Nat)} {token : Nat}
    (traced : Traced session granted index call) (holds : call.Holds token) :
    Traced session granted index { call with phase := .returned token } :=
  traced.phase (.returned token) ⟨nofun, nofun⟩ nofun fun other same => by
    obtain rfl := AcquirePhase.returned.inj same
    exact holds

theorem Traced.send {session : Nat} {granted : List (Nat × Nat)}
    (traced : Traced session granted index call) :
    Traced session granted index { call with phase := .requested, sent := true } where
  unsent := nofun
  decided _ := rfl
  entered := traced.entered
  answered := nofun
  waits := traced.waits
  granted token holds := by
    rcases holds with decided | result | returned
    · exact traced.granted token (Or.inl decided)
    · exact traced.granted token (Or.inr (Or.inl result))
    · cases returned

theorem Accounted.lose (accounted : Accounted before) : Accounted before.lose where
  traced := accounted.traced
  waiting _ _ _ outstanding := by cases outstanding.1
  debtor := accounted.debtor
  nodup := accounted.nodup
  delivered := accounted.delivered

/-- One call moves, no debt but its own arises, and no future but its own
leaves the queue. -/
theorem Accounted.move {next : AcquireCall} (accounted : Accounted before)
    (moves : Moves before after index next) (session : after.session = before.session)
    (usable : after.usable = true → before.usable = true)
    (granted : ∀ pair ∈ before.granted, pair ∈ after.granted)
    (queue : ∀ other ∈ before.queued, other ∈ after.queued ∨ other = index)
    (debts : ∀ other ∈ after.debts, other ∈ before.debts ∨ other = index)
    (nodup : after.debts.Nodup) (delivered : ∀ pair ∈ after.delivered, pair.1 = pair.2)
    (traced : Traced after.session after.granted index next)
    (waiting : after.Outstanding index next → index ∈ after.queued)
    (debtor : index ∈ after.debts → next.decision = some .queued ∧
      next.enteredIn = after.session) : Accounted after where
  traced other otherCall found := by
    by_cases same : other = index
    · subst same
      rw [moves.moved] at found
      exact Option.some.inj found ▸ traced
    · rw [moves.others other same] at found
      exact (accounted.traced other otherCall found).mono session.ge granted
  waiting other otherCall found outstanding := by
    by_cases same : other = index
    · subst same
      rw [moves.moved] at found
      exact waiting (Option.some.inj found ▸ outstanding)
    · rw [moves.others other same] at found
      obtain ⟨isUsable, current, waits, live, unsettled⟩ := outstanding
      have was : before.Outstanding other otherCall := ⟨usable isUsable, session ▸ current, waits,
        live, unsettled.imp_right fun owed => (debts other owed).resolve_right same⟩
      exact (queue other (accounted.waiting other otherCall found was)).resolve_right same
  debtor other owed := by
    by_cases same : other = index
    · subst same
      exact ⟨next, moves.moved, debtor owed⟩
    · obtain ⟨otherCall, found, decided, current⟩ :=
        accounted.debtor other ((debts other owed).resolve_right same)
      exact ⟨otherCall, by rw [moves.others other same]; exact found, decided, session ▸ current⟩
  nodup := nodup
  delivered := delivered

/-- A call moves, but is as outstanding as it was. -/
theorem Accounted.proceed {next : AcquireCall} (accounted : Accounted before)
    (found : before.calls[index]? = some call) (moves : Moves before after index next)
    (session : after.session = before.session) (usable : after.usable = before.usable)
    (granted : after.granted = before.granted) (queue : after.queued = before.queued)
    (debts : after.debts = before.debts) (delivered : after.delivered = before.delivered)
    (traced : Traced before.session before.granted index next)
    (wait : next.wait = call.wait) (decision : next.decision = call.decision)
    (current : next.enteredIn = call.enteredIn)
    (live : next.phase = .admitting ∨ next.sent = true →
      call.phase = .admitting ∨ call.sent = true) : Accounted after := by
  refine accounted.move moves session (fun isUsable => usable ▸ isUsable)
    (fun pair member => granted ▸ member)
    (fun other member => Or.inl (queue ▸ member)) (fun other member => Or.inl (debts ▸ member))
    (debts ▸ accounted.nodup) (delivered ▸ accounted.delivered) (session ▸ granted ▸ traced) ?_ ?_
  · rintro ⟨isUsable, inSession, waits, isLive, unsettled⟩
    rw [queue]
    refine accounted.waiting index call found ⟨usable ▸ isUsable, ?_, wait ▸ waits, live isLive, ?_⟩
    · rw [← current, inSession, session]
    · rwa [← decision, ← debts]
  · intro owed
    rw [debts] at owed
    obtain ⟨decided, inSession⟩ := accounted.queued_of_owed found owed
    exact ⟨decision.trans decided, by rw [current, inSession, session]⟩

theorem accounted_finish (accounted : Accounted before)
    (found : before.calls[index]? = some call) {phase : AcquirePhase}
    (traced : Traced before.session before.granted index { call with phase })
    (left : phase ≠ .admitting) : Accounted (before.finish index phase) :=
  accounted.proceed found (moves_modify found _ rfl) rfl rfl rfl rfl rfl rfl traced rfl rfl rfl
    fun live => Or.inr (live.resolve_left left)

/-- The future of a call leaves the queue once nothing is outstanding for it. -/
theorem accounted_leave (accounted : Accounted before)
    (found : before.calls[index]? = some call) {phase : AcquirePhase}
    (traced : Traced before.session before.granted index { call with phase })
    (left : phase ≠ .admitting)
    (settled : call.sent = true → before.Outstanding index call → index ∉ before.queued) :
    Accounted ({ before with queued := before.queued.erase index }.finish index phase) := by
  refine accounted.move (moves_modify found _ rfl) rfl id (fun _ => id) (fun other member => ?_)
    (fun _ => Or.inl) accounted.nodup accounted.delivered traced ?_ ?_
  · by_cases same : other = index
    · exact Or.inr same
    · exact Or.inl ((List.mem_erase_of_ne same).mpr member)
  · rintro ⟨usable, current, waits, live, unsettled⟩
    have sent := live.resolve_left left
    have outstanding : before.Outstanding index call :=
      ⟨usable, current, waits, Or.inr sent, unsettled⟩
    exact (settled sent outstanding (accounted.waiting index call found outstanding)).elim
  · intro owed
    have holds := accounted.queued_of_owed found owed
    exact holds

theorem accounted_abort (accounted : Accounted before)
    (found : before.calls[index]? = some call)
    (settled : call.sent = true → before.Outstanding index call → index ∉ before.queued) :
    Accounted (before.abort index) :=
  accounted_leave accounted found
    ((accounted.traced index call found).phase .raised ⟨nofun, nofun⟩ nofun nofun) nofun settled

theorem accounted_enter (accounted : Accounted before)
    (found : before.calls[index]? = some call) (locking : call.phase = .locking) :
    Accounted (before.enter index call.wait) := by
  have traced := accounted.traced index call found
  have unsent := traced.unsent (Or.inl locking)
  have undecided : call.decision = none := by
    by_contra decided
    rw [traced.decided decided] at unsent
    cases unsent
  have unowed := accounted.not_mem_debts found undecided
  let next := { call with phase := .admitting, enteredIn := before.session }
  let entered := { before with
    acquireLock := some index
    queued := if 0 < call.wait then before.queued ++ [index] else before.queued
    }.updateCall index ({ · with phase := .admitting, enteredIn := before.session })
  have moves : Moves before entered index next :=
    moves_modify found ({ · with phase := .admitting, enteredIn := before.session }) rfl
  have nextTraced : Traced before.session before.granted index next := {
    unsent := fun _ => unsent
    decided := traced.decided
    entered := Nat.le_refl _
    answered := nofun
    waits := traced.waits
    granted := by
      rintro token (decided | result | returned)
      · exact traced.granted token (Or.inl decided)
      · exact traced.granted token (Or.inr (Or.inl result))
      · cases returned }
  have taken : Accounted entered := by
    refine accounted.move moves rfl id (fun _ => id) (fun other member => Or.inl ?_)
      (fun _ => Or.inl)
      accounted.nodup accounted.delivered nextTraced ?_ fun owed => (unowed owed).elim
    · change other ∈ if 0 < call.wait then before.queued ++ [index] else before.queued
      split
      · exact List.mem_append_left _ member
      · exact member
    · rintro ⟨-, -, waits, -, -⟩
      change index ∈ if 0 < call.wait then before.queued ++ [index] else before.queued
      have waits : 0 < call.wait := waits
      simp [waits]
  change Accounted (if before.usable then entered else entered.abort index)
  split
  · exact taken
  · next lost =>
    exact accounted_abort taken moves.moved fun _ outstanding => (lost outstanding.1).elim

theorem accounted_decide (accounted : Accounted before)
    (found : before.calls[index]? = some call) {reply : AcquireReply}
    (orderly : Orderly before (.decide index reply)) (usable : before.usable = true)
    (sent : call.sent = true) (current : call.enteredIn = before.session)
    (undecided : call.decision = none) : Accounted (before.decide index reply) := by
  have traced := accounted.traced index call found
  have unowed := accounted.not_mem_debts found undecided
  have debts : (before.decide index reply).debts =
      if reply = .queued then before.debts ++ [index] else before.debts := rfl
  refine accounted.move (moves_modify found ({ · with decision := some reply }) rfl) rfl id
    (fun _ => List.mem_append_left _) (fun _ => Or.inl) (fun other owed => ?_) ?_
    accounted.delivered ?_ ?_ ?_
  · rw [debts] at owed
    split at owed
    · exact (List.mem_append.mp owed).imp_right List.mem_singleton.mp
    · exact Or.inl owed
  · rw [debts]
    split
    · exact List.nodup_append.mpr ⟨accounted.nodup, List.nodup_singleton _, by
        rintro other member only isOnly rfl
        exact unowed (List.mem_singleton.mp isOnly ▸ member)⟩
    · exact accounted.nodup
  · exact {
      unsent := traced.unsent
      decided := fun _ => sent
      entered := traced.entered
      answered := fun other answered => by
        have decided := traced.answered other answered
        rw [undecided] at decided
        cases decided
      waits := fun queued => orderly (Option.some.inj queued) call found
      granted := by
        rintro token (decided | result | returned)
        · obtain rfl : reply = .granted token := Option.some.inj decided
          exact List.mem_append_right _ (List.mem_singleton.mpr rfl)
        · exact List.mem_append_left _ (traced.granted token (Or.inr (Or.inl result)))
        · exact List.mem_append_left _ (traced.granted token (Or.inr (Or.inr returned))) }
  · rintro ⟨-, -, waits, -, -⟩
    exact accounted.waiting index call found ⟨usable, current, waits, Or.inr sent, Or.inl undecided⟩
  · intro owed
    rw [debts] at owed
    split at owed
    · next queued => exact ⟨congrArg some queued, current⟩
    · exact (unowed owed).elim

/-- The deferred reply reaches its debtor, whose future is the only one in the
queue. -/
theorem accounted_settle (serialized : Serialized before) (accounted : Accounted before)
    (found : before.calls[index]? = some call) (reply : AcquireReply)
    (usable : before.usable = true) (owed : index ∈ before.debts) :
    Accounted (before.settle index reply) := by
  have traced := accounted.traced index call found
  obtain ⟨decided, current⟩ := accounted.queued_of_owed found owed
  have sent := traced.decided (by rw [decided]; nofun)
  have member : index ∈ before.queued := accounted.waiting index call found
    ⟨usable, current, traced.waits decided, Or.inr sent, Or.inr owed⟩
  let settled := { before with
    granted := before.granted ++ reply.grant index
    debts := before.debts.erase index }
  have held : Serialized settled := serialized.congr rfl rfl rfl
  have single := serialized.eq_singleton member
  obtain ⟨empty, -⟩ | ⟨first, queue, same⟩ := held.queuedReply_eq index reply
  · change before.queued = [] at empty
    rw [empty] at single
    cases single
  change before.queued = [first] at queue
  obtain rfl : first = index := by
    rw [queue] at single
    exact (List.cons.inj single).1
  have unowed : first ∉ before.debts.erase first := accounted.nodup.not_mem_erase
  change Accounted (settled.queuedReply first reply)
  rw [same]
  refine accounted.move (moves_modify found ({ · with future := .result reply }) rfl) rfl id
    (fun _ => List.mem_append_left _) (fun other isMember => Or.inr ?_)
    (fun _ isOwed => Or.inl (List.mem_of_mem_erase isOwed)) (accounted.nodup.erase _) ?_ ?_ ?_
    fun isOwed => (unowed isOwed).elim
  · rw [queue] at isMember
    exact List.mem_singleton.mp isMember
  · intro pair isPair
    rcases List.mem_append.mp isPair with was | isNew
    · exact accounted.delivered pair was
    · obtain rfl := List.mem_singleton.mp isNew
      rfl
  · exact {
      unsent := traced.unsent
      decided := traced.decided
      entered := traced.entered
      answered := traced.answered
      waits := traced.waits
      granted := by
        rintro token (isDecided | result | returned)
        · exact List.mem_append_left _ (traced.granted token (Or.inl isDecided))
        · obtain rfl : reply = .granted token := QueuedFuture.result.inj result
          exact List.mem_append_right _ (List.mem_singleton.mpr rfl)
        · exact List.mem_append_left _ (traced.granted token (Or.inr (Or.inr returned))) }
  · rintro ⟨-, -, -, -, undecided | isOwed⟩
    · change call.decision = none at undecided
      rw [decided] at undecided
      cases undecided
    · exact (unowed isOwed).elim

theorem accounted_callStep (serialized : Serialized before) (accounted : Accounted before)
    (found : before.calls[index]? = some call) {action : LeaseAction}
    (orderly : Orderly before action) (stepped : CallStep before index call action after) :
    Accounted after := by
  have traced := accounted.traced index call found
  cases stepped with
  | enter locking _ => exact accounted_enter accounted found locking
  | send admitting _ _ =>
      exact accounted.proceed found (moves_modify found _ rfl) rfl rfl rfl rfl rfl rfl traced.send
        rfl rfl rfl fun _ => Or.inl admitting
  | fail failing =>
      refine accounted_abort accounted found fun sent outstanding => ?_
      rcases failing with admitting | ⟨-, lost⟩
      · have unsent := traced.unsent (Or.inr admitting)
        rw [sent] at unsent
        cases unsent
      · exact (lost ⟨outstanding.1, outstanding.2.1⟩).elim
  | timeout _ _ _ handling =>
      refine accounted_abort accounted found fun _ outstanding => ?_
      have none := orderly handling call found
      have waits := outstanding.2.2.1
      omega
  | timeoutLose _ _ _ _ =>
      exact accounted_abort accounted.lose found fun _ outstanding => by cases outstanding.1
  | decide reply usable sent current undecided =>
      exact accounted_decide accounted found orderly usable sent current undecided
  | reply reply decided _ _ requested =>
      have nextTraced : Traced before.session before.granted index
          { call with told := true, phase := .answered reply } := {
        unsent := nofun
        decided := traced.decided
        entered := traced.entered
        answered := fun other same => AcquirePhase.answered.inj same ▸ decided
        waits := traced.waits
        granted := by
          rintro token (isDecided | result | returned)
          · exact traced.granted token (Or.inl isDecided)
          · exact traced.granted token (Or.inr (Or.inl result))
          · cases returned }
      exact accounted.proceed found
        (moves_modify found ({ · with told := true, phase := .answered reply }) rfl) rfl rfl rfl rfl
        rfl rfl nextTraced rfl rfl rfl fun live => Or.inr (live.resolve_left nofun)
  | replyUnread _ _ _ =>
      have nextTraced : Traced before.session before.granted index { call with told := true } :=
        { traced with }
      exact accounted.proceed found (moves_modify found ({ · with told := true }) rfl) rfl rfl rfl
        rfl rfl rfl nextTraced rfl rfl rfl id
  | settle reply usable owed _ =>
      exact accounted_settle serialized accounted found reply usable owed
  | returnAtOnce token answered _ =>
      have decided := traced.answered _ answered
      exact accounted_finish accounted found (traced.returned (Or.inl decided)) nofun
  | returnWaiting token answered _ =>
      have decided := traced.answered _ answered
      exact accounted_leave accounted found (traced.returned (Or.inl decided)) nofun
        fun _ outstanding => (accounted.not_outstanding found decided nofun outstanding).elim
  | defer _ _ =>
      exact accounted.proceed found (moves_modify found _ rfl) rfl rfl rfl rfl rfl rfl
        (traced.phase .deferred ⟨nofun, nofun⟩ nofun nofun) rfl rfl rfl
        fun live => Or.inr (live.resolve_left nofun)
  | refuse reply answered unqueued =>
      have decided := traced.answered _ answered
      exact accounted_abort accounted found
        fun _ outstanding => (accounted.not_outstanding found decided unqueued outstanding).elim
  | returnDeferred token _ result =>
      exact accounted_finish accounted found (traced.returned (Or.inr (Or.inl result))) nofun
  | interrupted _ done =>
      exact accounted_abort accounted found fun _ _ => serialized.absent found (Or.inr done)
  | drained _ _ =>
      exact accounted_finish accounted found (traced.phase .raised ⟨nofun, nofun⟩ nofun nofun) nofun
  | cancelLocking _ =>
      exact accounted.proceed found (moves_modify found _ rfl) rfl rfl rfl rfl rfl rfl
        (traced.phase .raised ⟨nofun, nofun⟩ nofun nofun) rfl rfl rfl
        fun live => Or.inr (live.resolve_left nofun)
  | drain _ _ =>
      exact accounted.proceed found (moves_modify found _ rfl) rfl rfl rfl rfl rfl rfl
        (traced.phase .draining ⟨nofun, nofun⟩ nofun nofun) rfl rfl rfl
        fun live => Or.inr (live.resolve_left nofun)
  | cancelHolding _ _ =>
      exact accounted_finish accounted found (traced.phase .raised ⟨nofun, nofun⟩ nofun nofun) nofun

theorem accounted_acquire (accounted : Accounted before) (route : String) (wait : Nat) :
    Accounted { before with calls := before.calls ++ [{ route, wait }] } where
  traced index call found := by
    rcases getElem?_concat_eq_some.mp found with found | ⟨-, rfl⟩
    · exact accounted.traced index call found
    · exact {
        unsent := fun _ => rfl
        decided := fun decided => (decided rfl).elim
        entered := Nat.zero_le _
        answered := nofun
        waits := nofun
        granted := by rintro token (decided | result | returned) <;> contradiction }
  waiting index call found outstanding := by
    rcases getElem?_concat_eq_some.mp found with found | ⟨-, rfl⟩
    · exact accounted.waiting index call found outstanding
    · obtain ⟨-, -, -, admitting | sent, -⟩ := outstanding
      · cases admitting
      · cases sent
  debtor index owed := by
    obtain ⟨call, found, holds⟩ := accounted.debtor index owed
    exact ⟨call, getElem?_concat_eq_some.mpr (Or.inl found), holds⟩
  nodup := accounted.nodup
  delivered := accounted.delivered

/-- An announced loss fails nobody in the queue that something is outstanding
for. -/
theorem accounted_disconnect (serialized : Serialized before) (accounted : Accounted before)
    (orderly : Orderly before .announce) : Accounted before.disconnect := by
  cases queue : before.queued with
  | nil =>
      rw [disconnect_of_nil queue]
      exact accounted
  | cons index rest =>
      have member : index ∈ before.queued := by rw [queue]; exact List.mem_cons_self
      obtain ⟨-, call, found, -, -⟩ := serialized.queued index member
      have traced := accounted.traced index call found
      refine accounted.move (moves_disconnect serialized member found) rfl id (fun _ => id)
        (fun other isMember => Or.inr ?_) (fun _ => Or.inl) accounted.nodup accounted.delivered
        { traced with granted := ?_ } ?_ (fun owed => ?_)
      · rw [serialized.eq_singleton member] at isMember
        exact List.mem_singleton.mp isMember
      · rintro token (decided | result | returned)
        · exact traced.granted token (Or.inl decided)
        · cases result
        · exact traced.granted token (Or.inr (Or.inr returned))
      · rintro ⟨usable, current, -⟩
        exact (orderly usable index member call found current).elim
      · have holds := accounted.queued_of_owed found owed
        exact holds

theorem accounted_openSession (accounted : Accounted before) :
    Accounted { before with usable := true, session := before.session + 1, debts := [] } where
  traced index call found :=
    (accounted.traced index call found).mono (Nat.le_succ _) (fun _ => id)
  waiting index call found outstanding := by
    -- no call has entered the new session yet
    have entered := (accounted.traced index call found).entered
    have current : call.enteredIn = before.session + 1 := outstanding.2.1
    omega
  debtor _ owed := by cases owed
  nodup := List.nodup_nil
  delivered := accounted.delivered

theorem accounted_step (serialized : Serialized before) (accounted : Accounted before)
    {action : LeaseAction} (orderly : Orderly before action)
    (stepped : before.step action = some after) : Accounted after := by
  cases leaseStep_of_step stepped with
  | ofCall found ofCall => exact accounted_callStep serialized accounted found orderly ofCall
  | acquire route wait => exact accounted_acquire accounted route wait
  | lose _ => exact accounted.lose
  | announce _ =>
      obtain ⟨traced, waiting, debtor, nodup, delivered⟩ :=
        accounted_disconnect serialized accounted orderly
      exact ⟨traced, waiting, debtor, nodup, delivered⟩
  | openSession _ => exact accounted_openSession accounted

theorem invariant_accounted :
    system.Invariant Orderly fun client => Serialized client ∧ Accounted client :=
  (invariant_serialized Orderly).strengthen
    (fun first starts => by
      obtain rfl : first = {} := starts
      exact {
        traced := fun _ _ found => by cases found
        waiting := fun _ _ found => by cases found
        debtor := fun _ owed => by cases owed
        nodup := List.nodup_nil
        delivered := fun _ isPair => by cases isPair })
    fun _ _ _ serialized _ accounted orderly stepped =>
      accounted_step serialized accounted orderly stepped

/-- In an orderly run every deferred reply reaches the call that it is owed to,
and every lease carries a token granted to its call. -/
theorem attributed_of_reachable {client : LeaseClient}
    (reachable : system.ReachableUnder Orderly client) : Attributed client :=
  (invariant_accounted.of_reachable reachable).2.attributed

/-- A queued request that is granted later. -/
theorem attributed_deferred_grant : ∃ client : LeaseClient,
    client.granted = [(0, 7)] ∧ client.delivered = [(0, 0)] ∧ Attributed client := by
  have meets : system.StepsMeet Orderly {} [.acquire "jobs" 30, .enter 0, .send 0,
      .decide 0 .queued, .reply 0, .resume 0, .settle 0 (.granted 7), .resume 0] :=
    system.stepsMeet_cons rfl trivial <| system.stepsMeet_cons rfl trivial <|
      system.stepsMeet_cons rfl trivial <| system.stepsMeet_cons rfl (fun _ call found => by
        obtain rfl := Option.some.inj found
        exact Nat.zero_lt_succ 29) <|
      system.stepsMeet_cons rfl trivial <| system.stepsMeet_cons rfl trivial <|
      system.stepsMeet_cons rfl trivial <| system.stepsMeet_cons rfl trivial trivial
  exact ⟨_, rfl, rfl, attributed_of_reachable (system.reachableUnder_of_run rfl _ rfl meets)⟩

/-- The loss of a session is announced in the next one, and fails the future of
a call that the broker has queued there.  Its deferred reply goes to the call
that took the lock after it. -/
theorem exists_misattributed_lease : ∃ client : LeaseClient, system.Reachable client ∧
    ¬ Attributed client := by
  refine ⟨_, system.reachable_of_run rfl [.lose, .openSession,
    .acquire "jobs" 30, .enter 0, .send 0, .decide 0 .queued, .reply 0, .resume 0,
    .announce, .resume 0,
    .acquire "mail" 30, .enter 1, .send 1, .decide 1 .queued, .reply 1, .resume 1,
    .settle 0 (.granted 7), .resume 1] rfl, ?_⟩
  intro attributed
  have granted := attributed.returned 1 _ 7 rfl rfl
  cases granted with
  | tail _ rest => cases rest

end LeaseClient

end FitzClient
