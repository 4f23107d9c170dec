import FitzClient.RpcTransparency

/-!
# The numbers of a worker's responses

Any number of tasks may be at `ResponseWriter.send`, of the handler or of
`_send_error`.  A task with the lock has built its RESPONSE from the number of
the writer; then the transport gets the frame, and then `send` of the connection
returns, and only after that the writer counts it.  At each of these awaits the
task may be cancelled or an exception raised, so that a frame may have been
written that the writer has not counted.

The frames written are history.
-/

namespace FitzClient

/-- Where a task at `send` is: it waits for the lock, has built this payload,
or its frame has been written; or its `send` has returned, has raised with
nothing written, or has raised after its frame was written. -/
inductive SendPhase
  | waiting
  | sending (payload : Bytes)
  | written
  | returned
  | raised
  | abandoned
  deriving DecidableEq, Repr

namespace SendPhase

/-- The task holds the lock. -/
def locks : SendPhase → Bool
  | .sending _ | .written => true
  | .waiting | .returned | .raised | .abandoned => false

/-- The frame has been written, and the writer has not counted it. -/
def uncounted : SendPhase → Bool
  | .written | .abandoned => true
  | .waiting | .sending _ | .returned | .raised => false

end SendPhase

/-- A call of `send`. -/
structure ResponseSend where
  sent : ResponseBody
  phase : SendPhase := .waiting
  deriving DecidableEq, Repr

/-- A `ResponseWriter` with its lock, the generation of the connection, and all
calls of `send`. -/
structure ResponseSends where
  writer : ResponseWriter
  generation : Nat
  sends : List ResponseSend := []
  lock : Option Nat := none
  written : List Bytes := []
  deriving DecidableEq, Repr

/-- What happens at a writer.  `fail` is an exception or a cancellation at the
await of a task. -/
inductive ResponseSendsAction
  | send (sent : ResponseBody)
  | sendError (code : Nat) (message : CodePoints)
  | enter (index : Nat)
  | write (index : Nat)
  | complete (index : Nat)
  | fail (index : Nat)
  | reconnect
  deriving DecidableEq, Repr

namespace ResponseSends

def put (run : ResponseSends) (index : Nat) (send : ResponseSend) (phase : SendPhase) :
    ResponseSends :=
  { run with sends := run.sends.set index { send with phase } }

/-- `send` up to the lock. -/
def send (run : ResponseSends) (sent : ResponseBody) : ResponseSends :=
  { run with sends := run.sends ++ [{ sent }] }

/-- A transition of one task. -/
def stepSend (run : ResponseSends) (index : Nat) (send : ResponseSend) :
    ResponseSendsAction → Option ResponseSends
  | .enter _ =>
      if send.phase = .waiting ∧ run.lock = none then
        match run.writer.send run.generation send.sent with
        | .error _ => some (run.put index send .raised)
        | .ok (_, payload) => some { run.put index send (.sending payload) with lock := some index }
      else
        none
  | .write _ =>
      match send.phase with
      | .sending payload =>
          some { run.put index send .written with written := run.written ++ [payload] }
      | _ => none
  | .complete _ =>
      if send.phase = .written then
        some { run.put index send .returned with
          lock := none
          writer := { run.writer with
            sequence := run.writer.sequence + 1, ended := send.sent.final } }
      else
        none
  | .fail _ =>
      match send.phase with
      | .waiting => some (run.put index send .raised)
      | .sending _ => some { run.put index send .raised with lock := none }
      | .written => some { run.put index send .abandoned with lock := none }
      | _ => none
  | _ => none

/-- One transition. -/
def step (run : ResponseSends) (action : ResponseSendsAction) : Option ResponseSends :=
  match action with
  | .send sent => some (run.send sent)
  | .sendError code message =>
      match ResponseWriter.errorBody code message with
      | .error _ => none
      | .ok body => some (run.send { body, final := true })
  | .reconnect => some { run with generation := run.generation + 1 }
  | .enter index | .write index | .complete index | .fail index =>
      run.sends[index]?.bind (run.stepSend index · action)

/-- The writer of an invocation before its first `send`. -/
def Starts (run : ResponseSends) : Prop :=
  ∃ correlationId generation, correlationId.length = 16 ∧
    run = { writer := { correlationId, generation }, generation }

/-- All interleavings at the writer of one invocation. -/
def system : LabelledSystem ResponseSends ResponseSendsAction where
  starts := Starts
  step := step

/-- The frames have the numbers 0, 1, 2 and so on, and only the last one has
the end flag. -/
def Numbered (written : List Bytes) : Prop :=
  ∀ index payload, written[index]? = some payload →
    ∃ message, ResponseMessage.parse payload = .ok message ∧ message.sequence = index ∧
      (message.final = true → index + 1 = written.length)

/-- A frame is written only when no `send` has raised after its own frame was
written. -/
def Settled (run : ResponseSends) (action : ResponseSendsAction) : Prop :=
  ∀ index, action = .write index → ∀ send ∈ run.sends, send.phase ≠ .abandoned

/-- No frame has the end flag. -/
def Unended (written : List Bytes) : Prop :=
  ∀ payload ∈ written, ∀ message, ResponseMessage.parse payload = .ok message →
    message.final = false

section frames

variable {written : List Bytes} {payload : Bytes} {message : ResponseMessage}

theorem Unended.concat (unended : Unended written)
    (parsed : ResponseMessage.parse payload = .ok message) (open_ : message.final = false) :
    Unended (written ++ [payload]) := by
  intro other member found parsedOther
  rcases List.mem_append.mp member with old | last
  · exact unended other old found parsedOther
  · obtain rfl := List.mem_singleton.mp last
    obtain rfl := Except.ok.inj (parsed.symm.trans parsedOther)
    exact open_

theorem Numbered.concat (numbered : Numbered written) (unended : Unended written)
    (parsed : ResponseMessage.parse payload = .ok message)
    (sequence : message.sequence = written.length) : Numbered (written ++ [payload]) := by
  intro index other found
  rcases getElem?_concat_eq_some.mp found with old | ⟨rfl, rfl⟩
  · obtain ⟨earlier, parsedEarlier, number, -⟩ := numbered index other old
    refine ⟨earlier, parsedEarlier, number, fun final => ?_⟩
    have open_ := unended other (List.mem_of_getElem? old) earlier parsedEarlier
    exact absurd (open_.symm.trans final) (by simp)
  · exact ⟨message, parsed, sequence, fun _ => by simp⟩

/-- A frame with another number than its place. -/
theorem not_numbered_concat (parsed : ResponseMessage.parse payload = .ok message)
    (sequence : message.sequence ≠ written.length) : ¬Numbered (written ++ [payload]) := by
  intro numbered
  obtain ⟨other, parsedOther, number, -⟩ := numbered written.length payload (by simp)
  obtain rfl := Except.ok.inj (parsed.symm.trans parsedOther)
  exact sequence number

end frames

variable {run next : ResponseSends} {index : Nat} {send : ResponseSend}

/-- The frame of this task has been written, and the writer has not counted
it. -/
def UncountedAt (run : ResponseSends) (index : Nat) (send : ResponseSend) : Prop :=
  run.sends[index]? = some send ∧ send.phase.uncounted = true

structure Counted (run : ResponseSends) : Prop where
  width : run.writer.correlationId.length = 16
  locked : ∀ index send, run.sends[index]? = some send → send.phase.locks = true →
    run.lock = some index
  built : ∀ (index : Nat) (send : ResponseSend) (payload : Bytes),
    run.sends[index]? = some send → send.phase = .sending payload →
      run.writer.payload send.sent = .ok payload ∧ run.writer.ended = false
  single : ∀ index other send another, UncountedAt run index send →
    UncountedAt run other another → index = other
  numbered : Numbered run.written
  counted : (∀ index send, ¬UncountedAt run index send) →
    run.written.length = run.writer.sequence ∧ (run.writer.ended = false → Unended run.written)
  uncounted : ∀ index send, UncountedAt run index send →
    run.written.length = run.writer.sequence + 1 ∧
      (send.sent.final = false → Unended run.written)

theorem getElem?_put (found : run.sends[index]? = some send) (phase : SendPhase) (other : Nat) :
    (run.put index send phase).sends[other]? =
      if other = index then some { send with phase } else run.sends[other]? := by
  by_cases same : other = index
  · subst same
    rw [if_pos rfl]
    exact List.getElem?_set_self (List.getElem?_eq_some_iff.mp found).1
  · rw [if_neg same]
    exact List.getElem?_set_ne (Ne.symm same)

/-- The other tasks are where they were. -/
theorem uncountedAt_put (found : run.sends[index]? = some send) (phase : SendPhase)
    {other : Nat} {another : ResponseSend} :
    UncountedAt (run.put index send phase) other another ↔
      (other = index ∧ another = { send with phase } ∧ phase.uncounted = true) ∨
        (other ≠ index ∧ UncountedAt run other another) := by
  unfold UncountedAt
  rw [getElem?_put found]
  by_cases same : other = index
  · rw [if_pos same]
    constructor
    · rintro ⟨here, uncounted⟩
      obtain rfl := Option.some.inj here
      exact Or.inl ⟨same, rfl, uncounted⟩
    · rintro (⟨-, rfl, uncounted⟩ | ⟨apart, -⟩)
      · exact ⟨rfl, uncounted⟩
      · exact absurd same apart
  · rw [if_neg same]
    constructor
    · exact fun there => Or.inr ⟨same, there⟩
    · rintro (⟨here, -⟩ | ⟨-, there⟩)
      · exact absurd here same
      · exact there

namespace Counted

/-- A task moves, and its frame stays written or unwritten. -/
theorem move (counted : Counted run) (found : run.sends[index]? = some send) {phase : SendPhase}
    {lock : Option Nat} (same : phase.uncounted = send.phase.uncounted)
    (own : phase.locks = true → lock = some index)
    (others : ∀ other, other ≠ index → run.lock = some other → lock = some other)
    (built : ∀ payload, phase = .sending payload →
      run.writer.payload send.sent = .ok payload ∧ run.writer.ended = false) :
    Counted { run.put index send phase with lock } := by
  -- an uncounted task was one before, with the same body
  have was : ∀ other another, UncountedAt (run.put index send phase) other another →
      ∃ before, UncountedAt run other before ∧ before.sent = another.sent := by
    intro other another uncounted
    rcases (uncountedAt_put found phase).mp uncounted with ⟨rfl, rfl, here⟩ | ⟨-, there⟩
    · exact ⟨send, ⟨found, same.symm.trans here⟩, rfl⟩
    · exact ⟨another, there, rfl⟩
  refine ⟨counted.width, fun other another there locks => ?_,
    fun other another payload there sending => ?_, fun first second one two => ?_,
    counted.numbered, fun none => ?_, fun other another uncounted => ?_⟩
  · have at_ := (getElem?_put found phase other).symm.trans there
    split_ifs at at_ with here
    · obtain rfl := Option.some.inj at_
      exact here ▸ own locks
    · exact others other here (counted.locked other another at_ locks)
  · have at_ := (getElem?_put found phase other).symm.trans there
    split_ifs at at_ with here
    · obtain rfl := Option.some.inj at_
      exact built payload sending
    · exact counted.built other another payload at_ sending
  · intro uncounted alsoUncounted
    obtain ⟨before, wasOne, -⟩ := was first one uncounted
    obtain ⟨prior, wasTwo, -⟩ := was second two alsoUncounted
    exact counted.single _ _ _ _ wasOne wasTwo
  · refine counted.counted fun other before uncounted => ?_
    by_cases here : other = index
    · subst here
      obtain rfl := Option.some.inj (found.symm.trans uncounted.1)
      exact none other _ ((uncountedAt_put found phase).mpr
        (Or.inl ⟨rfl, rfl, same.trans uncounted.2⟩))
    · exact none other before ((uncountedAt_put found phase).mpr (Or.inr ⟨here, uncounted⟩))
  · obtain ⟨before, wasUncounted, sent⟩ := was other another uncounted
    have earlier := counted.uncounted other before wasUncounted
    rw [sent] at earlier
    exact earlier

/-- A task that waits is as good as none. -/
theorem concat (counted : Counted run) (sent : ResponseBody) : Counted (run.send sent) := by
  have was : ∀ (other : Nat) (another : ResponseSend),
      (run.send sent).sends[other]? = some another → run.sends[other]? = some another ∨
        another.phase = .waiting := by
    intro other another there
    rcases getElem?_concat_eq_some.mp there with old | ⟨-, rfl⟩
    · exact Or.inl old
    · exact Or.inr rfl
  have same : ∀ other another, UncountedAt (run.send sent) other another ↔
      UncountedAt run other another := by
    intro other another
    constructor
    · rintro ⟨there, uncounted⟩
      refine ⟨(was other another there).resolve_right fun waits => ?_, uncounted⟩
      rw [waits] at uncounted
      cases uncounted
    · exact fun ⟨there, uncounted⟩ => ⟨getElem?_concat_eq_some.mpr (Or.inl there), uncounted⟩
  refine ⟨counted.width, fun other another there locks => ?_,
    fun other another payload there sending => ?_, fun first second one two => ?_,
    counted.numbered, fun none => ?_, fun other another uncounted => ?_⟩
  · refine counted.locked other another ((was other another there).resolve_right ?_) locks
    intro waits
    rw [waits] at locks
    cases locks
  · refine counted.built other another payload ((was other another there).resolve_right ?_) sending
    exact fun waits => absurd (waits.symm.trans sending) (by simp)
  · rw [same, same]
    exact counted.single _ _ _ _
  · exact counted.counted fun other another uncounted =>
      none other another ((same other another).mpr uncounted)
  · exact counted.uncounted other another ((same other another).mp uncounted)

/-- The frame of a task with the lock is written, where every frame before it
has been counted. -/
theorem write (counted : Counted run) (found : run.sends[index]? = some send) {payload : Bytes}
    (sending : send.phase = .sending payload)
    (settled : ∀ other ∈ run.sends, other.phase ≠ .abandoned) :
    Counted { run.put index send .written with written := run.written ++ [payload] } := by
  obtain ⟨built, open_⟩ := counted.built index send payload found sending
  have parsed := ResponseWriter.parse_payload counted.width built
  have alone := counted.locked index send found (by rw [sending]; rfl)
  have none : ∀ other another, ¬UncountedAt run other another := by
    rintro other another ⟨there, uncounted⟩
    cases phase : another.phase with
    | written =>
        have locked := counted.locked other another there (by rw [phase]; rfl)
        obtain rfl := Option.some.inj (alone.symm.trans locked)
        obtain rfl := Option.some.inj (found.symm.trans there)
        exact absurd (sending.symm.trans phase) (by simp)
    | abandoned => exact settled another (List.mem_of_getElem? there) phase
    | waiting | sending _ | returned | raised =>
        rw [phase] at uncounted
        cases uncounted
  obtain ⟨length, unended⟩ := counted.counted none
  have only : ∀ other another, UncountedAt (run.put index send .written) other another →
      other = index ∧ another = { send with phase := .written } := by
    intro other another uncounted
    rcases (uncountedAt_put found .written).mp uncounted with ⟨here, same, -⟩ | ⟨-, there⟩
    · exact ⟨here, same⟩
    · exact absurd there (none other another)
  refine ⟨counted.width, fun other another there locks => ?_,
    fun other another bytes there sendingOther => ?_, fun first second one two => ?_,
    counted.numbered.concat (unended open_) parsed length.symm, fun counts => ?_,
    fun other another uncounted => ?_⟩
  · have at_ := (getElem?_put found .written other).symm.trans there
    split_ifs at at_ with here
    · exact here ▸ alone
    · exact counted.locked other another at_ locks
  · have at_ := (getElem?_put found .written other).symm.trans there
    split_ifs at at_ with here
    · obtain rfl := Option.some.inj at_
      cases sendingOther
    · exact counted.built other another bytes at_ sendingOther
  · intro uncounted alsoUncounted
    exact (only _ _ uncounted).1.trans (only _ _ alsoUncounted).1.symm
  · exact absurd ((uncountedAt_put found .written).mpr (Or.inl ⟨rfl, rfl, rfl⟩)) (counts index _)
  · obtain ⟨-, rfl⟩ := only other another uncounted
    refine ⟨?_, fun unfinished => (unended open_).concat parsed unfinished⟩
    rw [List.length_append, length]
    rfl

/-- `send` returns, and the writer counts its frame. -/
theorem complete (counted : Counted run) (found : run.sends[index]? = some send)
    (written : send.phase = .written) :
    Counted { run.put index send .returned with
      lock := none
      writer := { run.writer with
        sequence := run.writer.sequence + 1, ended := send.sent.final } } := by
  have here : UncountedAt run index send := ⟨found, by rw [written]; rfl⟩
  have alone := counted.locked index send found (by rw [written]; rfl)
  obtain ⟨length, unended⟩ := counted.uncounted index send here
  have none : ∀ other another, ¬UncountedAt (run.put index send .returned) other another := by
    intro other another uncounted
    rcases (uncountedAt_put found .returned).mp uncounted with ⟨-, -, no⟩ | ⟨apart, there⟩
    · cases no
    · exact apart (counted.single _ _ _ _ there here)
  -- every other task is without the lock
  have unlocked : ∀ (other : Nat) (another : ResponseSend),
      (run.put index send .returned).sends[other]? = some another →
        another.phase.locks ≠ true := by
    intro other another there locks
    have at_ := (getElem?_put found .returned other).symm.trans there
    split_ifs at at_ with same
    · obtain rfl := Option.some.inj at_
      cases locks
    · have locked := counted.locked other another at_ locks
      exact same (Option.some.inj (locked.symm.trans alone))
  refine ⟨counted.width, fun other another there locks => ?_,
    fun other another payload there sending => ?_, fun first second one two => ?_,
    counted.numbered, fun _ => ⟨length, unended⟩, fun other another uncounted => ?_⟩
  · exact absurd locks (unlocked other another there)
  · exact absurd (by rw [sending]; rfl) (unlocked other another there)
  · exact fun uncounted => absurd uncounted (none first one)
  · exact absurd uncounted (none other another)

theorem enter (counted : Counted run) (found : run.sends[index]? = some send)
    (stepped : run.stepSend index send (.enter index) = some next) : Counted next := by
  obtain ⟨⟨waits, free⟩, stepped⟩ := Option.ite_none_right_eq_some.mp stepped
  have others : ∀ other, other ≠ index → run.lock = some other → some index = some other :=
    fun other _ locked => absurd (free.symm.trans locked) (by simp)
  split at stepped
  · obtain rfl := Option.some.inj stepped
    exact counted.move found (by rw [waits]; rfl) nofun
      (fun _ _ locked => locked) nofun
  · next later payload sends =>
    obtain rfl := Option.some.inj stepped
    obtain ⟨open_, built, -⟩ := ResponseWriter.send_eq_ok sends
    refine counted.move found (by rw [waits]; rfl) (fun _ => rfl) others fun other same => ?_
    obtain rfl := SendPhase.sending.inj same
    exact ⟨built, open_⟩

theorem fail (counted : Counted run) (found : run.sends[index]? = some send)
    (stepped : run.stepSend index send (.fail index) = some next) : Counted next := by
  have others : send.phase.locks = true → ∀ other, other ≠ index → run.lock = some other →
      none = some other := by
    intro locks other apart locked
    have alone := counted.locked index send found locks
    exact absurd (Option.some.inj (locked.symm.trans alone)) apart
  simp only [ResponseSends.stepSend] at stepped
  split at stepped
  · next waits =>
    obtain rfl := Option.some.inj stepped
    exact counted.move found (by rw [waits]; rfl) nofun
      (fun _ _ locked => locked) nofun
  · next payload sending =>
    obtain rfl := Option.some.inj stepped
    exact counted.move found (by rw [sending]; rfl) nofun (others (by rw [sending]; rfl)) nofun
  · next written =>
    obtain rfl := Option.some.inj stepped
    exact counted.move found (by rw [written]; rfl) nofun (others (by rw [written]; rfl)) nofun
  · cases stepped

theorem step {action : ResponseSendsAction} (counted : Counted run) (settled : Settled run action)
    (stepped : run.step action = some next) : Counted next := by
  cases action with
  | send sent =>
      obtain rfl := Option.some.inj stepped
      exact counted.concat sent
  | sendError code message =>
      simp only [ResponseSends.step] at stepped
      split at stepped
      · cases stepped
      · obtain rfl := Option.some.inj stepped
        exact counted.concat _
  | reconnect =>
      obtain rfl := Option.some.inj stepped
      exact { counted with }
  | enter index =>
      obtain ⟨send, found, stepped⟩ := Option.bind_eq_some_iff.mp stepped
      exact counted.enter found stepped
  | write index =>
      obtain ⟨send, found, stepped⟩ := Option.bind_eq_some_iff.mp stepped
      simp only [stepSend] at stepped
      split at stepped
      · next payload sending =>
        obtain rfl := Option.some.inj stepped
        exact counted.write found sending (settled index rfl)
      · cases stepped
  | complete index =>
      obtain ⟨send, found, stepped⟩ := Option.bind_eq_some_iff.mp stepped
      obtain ⟨written, stepped⟩ := Option.ite_none_right_eq_some.mp stepped
      obtain rfl := Option.some.inj stepped
      exact counted.complete found written
  | fail index =>
      obtain ⟨send, found, stepped⟩ := Option.bind_eq_some_iff.mp stepped
      exact counted.fail found stepped

theorem of_starts (starts : Starts run) : Counted run := by
  obtain ⟨correlationId, generation, width, rfl⟩ := starts
  have none : ∀ index send, ¬UncountedAt
      { writer := { correlationId, generation }, generation } index send :=
    fun index send uncounted => absurd uncounted.1 (by simp)
  exact ⟨width, nofun, nofun, fun _ _ _ _ uncounted => absurd uncounted (none _ _), nofun,
    fun _ => ⟨rfl, fun _ => nofun⟩, fun _ _ uncounted => absurd uncounted (none _ _)⟩

end Counted

/-- A frame that is written while one before it is not counted repeats its
number. -/
theorem not_numbered_step {action : ResponseSendsAction} (counted : Counted run)
    (unsettled : ¬Settled run action) (stepped : run.step action = some next) :
    ¬Numbered next.written := by
  obtain ⟨index, writes⟩ := not_forall.mp unsettled
  obtain ⟨rfl, raised⟩ := Classical.not_imp.mp writes
  obtain ⟨lost, isLost⟩ := not_forall.mp raised
  obtain ⟨member, abandoned⟩ := Classical.not_imp.mp isLost
  obtain ⟨other, there⟩ := List.mem_iff_getElem?.mp member
  have uncounted : UncountedAt run other lost := ⟨there, by rw [not_not.mp abandoned]; rfl⟩
  obtain ⟨length, -⟩ := counted.uncounted other lost uncounted
  obtain ⟨send, found, stepped⟩ := Option.bind_eq_some_iff.mp stepped
  simp only [stepSend] at stepped
  split at stepped
  · next payload sending =>
    obtain rfl := Option.some.inj stepped
    obtain ⟨built, -⟩ := counted.built index send payload found sending
    refine not_numbered_concat (ResponseWriter.parse_payload counted.width built) ?_
    show run.writer.sequence ≠ run.written.length
    omega
  · cases stepped

/-- The frames of an invocation are numbered throughout a run exactly if none
is written after the `send` of a frame already written has raised. -/
theorem numbered_iff_settled {first : ResponseSends} (starts : Starts first)
    (actions : List ResponseSendsAction) :
    system.Along (fun run => Numbered run.written) first actions ↔
      system.StepsMeet Settled first actions :=
  system.along_iff_stepsMeet Counted (fun _ counted => counted.numbered)
    (fun _ _ _ counted settled stepped => counted.step settled stepped)
    (fun _ _ _ counted unsettled stepped => not_numbered_step counted unsettled stepped)
    (Counted.of_starts starts) actions

/-- The writer of an invocation on a connection that was opened once. -/
def fresh : ResponseSends where
  writer := { correlationId := List.replicate 16 0, generation := 1 }
  generation := 1

/-- The first frame is written and its `send` cancelled before it returns; the
worker then sends the error of the handler. -/
def cancelledAfterWrite : List ResponseSendsAction :=
  [.send ⟨[1], false⟩, .enter 0, .write 0, .fail 0,
    .sendError 6007 (.ofString "Worker handler cancelled"), .enter 1, .write 1]

theorem numbered_iff_settled_cancelledAfterWrite :
    system.Along (fun run => Numbered run.written) fresh cancelledAfterWrite ↔
      system.StepsMeet Settled fresh cancelledAfterWrite :=
  numbered_iff_settled ⟨List.replicate 16 0, 1, rfl, rfl⟩ cancelledAfterWrite

/-- Both frames have the number 0. -/
theorem exists_number_repeated : ∃ run, system.Reachable run ∧
    run.written.map (fun payload => (ResponseMessage.parse payload).toOption.map
      ResponseMessage.sequence) = [some 0, some 0] ∧ ¬Numbered run.written := by
  have starts : system.starts fresh := ⟨List.replicate 16 0, 1, rfl, rfl⟩
  obtain ⟨run, reached, tested⟩ := system.exists_reachable_of_run starts cancelledAfterWrite
    (fun run => run.written.map (fun payload => (ResponseMessage.parse payload).toOption.map
      ResponseMessage.sequence) = [some 0, some 0]) (by decide +kernel)
  have numbers := of_decide_eq_true tested
  refine ⟨run, reached, numbers, fun numbered => ?_⟩
  obtain ⟨first, rest, written, -, restNumbers⟩ := List.map_eq_cons_iff.mp numbers
  obtain ⟨second, last, rfl, number, -⟩ := List.map_eq_cons_iff.mp restNumbers
  obtain ⟨message, parsed, sequence, -⟩ := numbered 1 second (by rw [written]; rfl)
  rw [parsed] at number
  exact absurd (sequence.symm.trans (Option.some.inj number)) (by simp)

end ResponseSends

end FitzClient
