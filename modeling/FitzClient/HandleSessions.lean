import FitzClient.RequestCeiling
import FitzClient.SessionHandle

/-!
# Handles stay in their session

A frame that carries an identifier of a session must not reach a transport of
another one.  A method compares generations before it waits in the gate, so
what keeps its frame in the session afterwards is the gate: whoever ends a
session closes the gate, and a closed gate lets nobody pass.

An attempt to connect replaces the gate without closing it.  When the transport
before it was not lost, a call may still wait in the old gate, and it gets its
slot while the new transport is the current one.  In every run in which a
transport is opened only when no call of a handle waits in an open gate and no
task of a request is still to read the transport, no frame leaves the session of
its handle.
-/

namespace FitzClient

namespace HandleRun

variable {run next : HandleRun} {call : HandleCall} {index : Nat} {refused retries : Bool}

/-- Every frame of a handle was handed to a transport of the generation in
which the handle was obtained. -/
def InSession (run : HandleRun) : Prop :=
  ∀ frame ∈ run.handed, ∀ index handle, frame.handle = some index →
    run.handles[index]? = some handle →
      run.sessions.lookup handle.origin = some handle.generation ∧
        run.sessions.lookup frame.transport = some handle.generation

/-- The action begins a generation. -/
def begins (run : HandleRun) (action : HandleAction) : Bool :=
  (run.step action).any (·.connection.generation != run.connection.generation)

/-- The action opens a transport. -/
def opens (run : HandleRun) (action : HandleAction) : Bool :=
  (run.step action).any (run.connection.transports.length < ·.connection.transports.length)

/-- This gate has been closed. -/
def shut (gates : List RequestGate) (gate : Nat) : Bool :=
  gates[gate]?.any (·.closed)

/-- The call waits in a gate that has not been closed. -/
def waitsOpen (run : HandleRun) (call : HandleCall) : Bool :=
  match call.phase with
  | .queued gate _ => !shut run.gates gate
  | _ => false

/-- A task whose reply has arrived resumes before a later transport is
authenticated. -/
def Prompt (run : HandleRun) (action : HandleAction) : Prop :=
  run.begins action = true →
    ∀ reply ∈ run.replies, run.connection.transport = some reply.origin

/-- When a transport is opened, no call of a handle waits in an open gate, and
no task of a request is still to read the transport. -/
def Vacated (run : HandleRun) (action : HandleAction) : Prop :=
  run.opens action = true →
    (∀ call ∈ run.calls, call.handle.isSome = true → run.waitsOpen call = false) ∧
      ∀ frame ∈ run.frames, frame.handle.isSome = true → frame.phase ≠ .scheduled

/-- What the runs of the theorem have in common. -/
def Admitted (run : HandleRun) (action : HandleAction) : Prop :=
  run.Prompt action ∧ run.Vacated action

instance (run : HandleRun) (action : HandleAction) : Decidable (run.Prompt action) :=
  inferInstanceAs (Decidable (_ → ∀ reply ∈ run.replies, _))

instance (run : HandleRun) (action : HandleAction) : Decidable (run.Admitted action) :=
  inferInstanceAs (Decidable ((_ → ∀ reply ∈ run.replies, _) ∧
    (_ → (∀ call ∈ run.calls, _ → _) ∧ ∀ frame ∈ run.frames, _ → _)))

/-- The transport belongs to the session in which the handle was obtained. -/
def Shares (run : HandleRun) (index transport : Nat) : Prop :=
  ∃ handle, run.handles[index]? = some handle ∧
    run.sessions.lookup handle.origin = some handle.generation ∧
      run.sessions.lookup transport = some handle.generation

/-- The current transport, if there is one, belongs to the session of the
handle. -/
def Fits (run : HandleRun) (index : Nat) : Prop :=
  ∀ transport, run.connection.transport = some transport → run.Shares index transport

/-- The origin has this generation, or the current transport does not. -/
def Traces (run : HandleRun) (origin generation : Nat) : Prop :=
  run.sessions.lookup origin = some generation ∨
    ∀ transport, run.connection.transport = some transport →
      run.sessions.lookup transport ≠ some generation

/-- A handle that is not of the session of its origin is of none that could
use the current transport. -/
def HandleFits (run : HandleRun) (handle : SessionHandle) : Prop :=
  handle.generation ≤ run.connection.generation ∧ run.Traces handle.origin handle.generation

def CallFits (run : HandleRun) (call : HandleCall) : Prop :=
  ∀ index, call.handle = some index → run.waitsOpen call = true → run.Fits index

def FrameFits (run : HandleRun) (frame : HandleFrame) : Prop :=
  ∀ index, frame.handle = some index →
    (frame.phase = .scheduled → run.Fits index) ∧
      ∀ transport, frame.phase = .bound transport → run.Shares index transport

structure Anchored (run : HandleRun) : Prop where
  generations : run.connection.SessionInvariant run.sessions
  replies : ∀ reply ∈ run.replies, run.Traces reply.origin run.connection.generation
  handles : ∀ handle ∈ run.handles, run.HandleFits handle
  calls : ∀ call ∈ run.calls, run.CallFits call
  frames : ∀ frame ∈ run.frames, run.FrameFits frame
  handed : ∀ frame ∈ run.handed, ∀ index, frame.handle = some index →
    run.Shares index frame.transport

theorem Anchored.inSession (anchored : Anchored run) : run.InSession := by
  intro frame member index handle owner found
  obtain ⟨same, foundSame, origin, transport⟩ := anchored.handed frame member index owner
  obtain rfl := Option.some.inj (found.symm.trans foundSame)
  exact ⟨origin, transport⟩

/-- A closed gate stays closed. -/
def StaysClosed (gates later : List RequestGate) : Prop :=
  ∀ gate, shut gates gate = true → shut later gate = true

section gates

variable {gates : List RequestGate} {gate : Nat}

theorem shut_iff : shut gates gate = true ↔
    ∃ before, gates[gate]? = some before ∧ before.closed = true :=
  Option.any_eq_true _ _

theorem staysClosed_concat (fresh : RequestGate) : StaysClosed gates (gates ++ [fresh]) := by
  intro other closed
  obtain ⟨before, found, isClosed⟩ := shut_iff.mp closed
  exact shut_iff.mpr ⟨before, getElem?_concat_eq_some.mpr (Or.inl found), isClosed⟩

theorem staysClosed_modify {update : RequestGate → RequestGate}
    (closes : ∀ before : RequestGate, before.closed = true → (update before).closed = true) :
    StaysClosed gates (gates.modify gate update) := by
  intro other closed
  obtain ⟨before, found, isClosed⟩ := shut_iff.mp closed
  refine shut_iff.mpr ⟨_, getElem?_modify_eq_some.mpr ⟨before, found, rfl⟩, ?_⟩
  split_ifs
  · exact closes before isClosed
  · exact isClosed

theorem staysClosed_set {before after : RequestGate} (found : gates[gate]? = some before)
    (closes : before.closed = true → after.closed = true) :
    StaysClosed gates (gates.set gate after) := by
  intro other closed
  obtain ⟨earlier, foundEarlier, isClosed⟩ := shut_iff.mp closed
  by_cases same : gate = other
  · subst same
    obtain rfl := Option.some.inj (found.symm.trans foundEarlier)
    have bound := (List.getElem?_eq_some_iff.mp found).1
    exact shut_iff.mpr ⟨after, List.getElem?_set_self bound, closes isClosed⟩
  · exact shut_iff.mpr ⟨earlier, (List.getElem?_set_ne same).trans foundEarlier, isClosed⟩

end gates

/-- A call that waits in an open gate still did when fewer gates were closed. -/
theorem waitsOpen_of_staysClosed (stays : StaysClosed run.gates next.gates)
    (waits : next.waitsOpen call = true) : run.waitsOpen call = true := by
  unfold waitsOpen at waits ⊢
  split at waits
  · next gate waiter phase =>
    cases closed : shut run.gates gate with
    | false => rfl
    | true =>
        rw [stays gate closed] at waits
        cases waits
  · cases waits

/-- The connection is where it was, every handle is still there, and closed
gates stay closed. -/
structure Beside (run next : HandleRun) : Prop where
  connection : next.connection = run.connection
  sessions : next.sessions = run.sessions
  handles : ∀ (index : Nat) (handle : SessionHandle), run.handles[index]? = some handle →
    ∃ later, next.handles[index]? = some later ∧ later.origin = handle.origin ∧
      later.generation = handle.generation
  gates : StaysClosed run.gates next.gates

namespace Beside

theorem of_handles (connection : next.connection = run.connection)
    (sessions : next.sessions = run.sessions) (handles : next.handles = run.handles)
    (gates : StaysClosed run.gates next.gates) : Beside run next where
  connection := connection
  sessions := sessions
  handles _ handle found := ⟨handle, handles ▸ found, rfl, rfl⟩
  gates := gates

theorem shares (beside : Beside run next) {transport : Nat} (shares : run.Shares index transport) :
    next.Shares index transport := by
  obtain ⟨handle, found, origin, current⟩ := shares
  obtain ⟨later, foundLater, sameOrigin, sameGeneration⟩ := beside.handles index handle found
  refine ⟨later, foundLater, ?_, ?_⟩
  · rw [beside.sessions, sameOrigin, sameGeneration]
    exact origin
  · rw [beside.sessions, sameGeneration]
    exact current

theorem fits (beside : Beside run next) (fits : run.Fits index) : next.Fits index := by
  intro transport held
  rw [beside.connection] at held
  exact beside.shares (fits transport held)

theorem traces (beside : Beside run next) {origin generation : Nat}
    (traces : run.Traces origin generation) : next.Traces origin generation := by
  rwa [Traces, beside.connection, beside.sessions]

theorem handleFits (beside : Beside run next) {handle : SessionHandle}
    (fits : run.HandleFits handle) : next.HandleFits handle := by
  refine ⟨?_, beside.traces fits.2⟩
  rw [beside.connection]
  exact fits.1

theorem callFits (beside : Beside run next) (fits : run.CallFits call) : next.CallFits call :=
  fun index owner waits =>
    beside.fits (fits index owner (waitsOpen_of_staysClosed beside.gates waits))

theorem frameFits (beside : Beside run next) {frame : HandleFrame} (fits : run.FrameFits frame) :
    next.FrameFits frame := fun index owner =>
  ⟨fun scheduled => beside.fits ((fits index owner).1 scheduled),
    fun transport bound => beside.shares ((fits index owner).2 transport bound)⟩

end Beside

namespace Anchored

/-- What a transition beside the connection adds has to fit. -/
theorem beside (anchored : Anchored run) (beside : Beside run next)
    (replies : ∀ reply ∈ next.replies,
      reply ∈ run.replies ∨ run.Traces reply.origin run.connection.generation)
    (handles : ∀ handle ∈ next.handles, run.HandleFits handle)
    (calls : ∀ call ∈ next.calls, call ∈ run.calls ∨ next.CallFits call)
    (frames : ∀ frame ∈ next.frames, frame ∈ run.frames ∨ run.FrameFits frame)
    (handed : ∀ frame ∈ next.handed, frame ∈ run.handed ∨
      ∀ index, frame.handle = some index → run.Shares index frame.transport) :
    Anchored next where
  generations := by
    rw [beside.connection, beside.sessions]
    exact anchored.generations
  replies reply member := by
    rw [beside.connection]
    rcases replies reply member with old | traces
    · exact beside.traces (anchored.replies reply old)
    · exact beside.traces traces
  handles handle member := beside.handleFits (handles handle member)
  calls call member := by
    rcases calls call member with old | fits
    · exact beside.callFits (anchored.calls call old)
    · exact fits
  frames frame member := by
    rcases frames frame member with old | fits
    · exact beside.frameFits (anchored.frames frame old)
    · exact beside.frameFits fits
  handed frame member index owner := by
    rcases handed frame member with old | shares
    · exact beside.shares (anchored.handed frame old index owner)
    · exact beside.shares (shares index owner)

theorem withGates (anchored : Anchored run) {gates : List RequestGate}
    (stays : StaysClosed run.gates gates) : Anchored { run with gates } :=
  anchored.beside (.of_handles rfl rfl rfl stays) (fun _ => Or.inl) anchored.handles
    (fun _ => Or.inl) (fun _ => Or.inl) (fun _ => Or.inl)

theorem release (anchored : Anchored run) (gate token : Nat) :
    Anchored (run.release gate token) := by
  refine anchored.withGates (staysClosed_modify fun before closed => ?_)
  cases released : before.release token with
  | none => exact closed
  | some after => exact (RequestGate.release_closed released).trans closed

/-- A call goes on to another await. -/
theorem setPhase (anchored : Anchored run) (found : run.calls[index]? = some call)
    {phase : HandlePhase} (fits : run.CallFits { call with phase }) :
    Anchored (run.setPhase index phase) := by
  refine anchored.beside (.of_handles rfl rfl rfl fun _ => id) (fun _ => Or.inl) anchored.handles
    (fun other member => ?_) (fun _ => Or.inl) (fun _ => Or.inl)
  rcases mem_modify member with old | ⟨before, foundBefore, rfl⟩
  · exact Or.inl old
  · obtain rfl := Option.some.inj (found.symm.trans foundBefore)
    exact Or.inr fits

theorem leave (anchored : Anchored run) (found : run.calls[index]? = some call) (retries : Bool) :
    Anchored (run.leave index call retries) := by
  refine anchored.setPhase found fun _ _ waits => ?_
  split_ifs at waits <;> cases waits

theorem endCall (anchored : Anchored run) (found : run.calls[index]? = some call) :
    Anchored (run.setPhase index .ended) :=
  anchored.setPhase found nofun

theorem addFrame (anchored : Anchored run) {phase : FramePhase}
    (fits : run.FrameFits { handle := call.handle, phase }) :
    Anchored (run.addFrame call phase) := by
  refine anchored.beside (.of_handles rfl rfl rfl fun _ => id) (fun _ => Or.inl) anchored.handles
    (fun _ => Or.inl) (fun frame member => ?_) (fun _ => Or.inl)
  rcases List.mem_append.mp member with old | last
  · exact Or.inl old
  · rw [List.mem_singleton.mp last]
    exact Or.inr fits

/-- A call with a slot whose handle is of the session of the current transport. -/
theorem begin (anchored : Anchored run) (found : run.calls[index]? = some call)
    (fits : ∀ owner, call.handle = some owner → run.Fits owner) (gate token : Nat) :
    Anchored (run.begin index call gate token refused retries) := by
  have left : Anchored ((run.release gate token).leave index call retries) :=
    (anchored.release gate token).leave found retries
  have running : Anchored (run.setPhase index (.running gate token)) :=
    anchored.setPhase found nofun
  unfold HandleRun.begin
  dsimp only
  split_ifs
  · exact left
  · split
    · exact left
    · next transport held =>
      refine running.addFrame fun owner same => ⟨nofun, fun other bound => ?_⟩
      obtain rfl := FramePhase.bound.inj bound
      exact fits owner same transport held
  · exact running.addFrame fun owner same => ⟨fun _ => fits owner same, nofun⟩
  · exact left

/-- A call that passes its check is of the session of the current transport. -/
theorem fits_of_valid (anchored : Anchored run)
    (accepts : run.connection.ensureAuthenticated = true) {owner : Nat}
    (valid : run.valid (some owner) = true) : run.Fits owner := by
  intro transport held
  obtain ⟨handle, found, checked⟩ := Option.any_eq_true _ _ |>.mp valid
  simp only [SessionHandle.valid, Bool.and_eq_true, beq_iff_eq] at checked
  have current := anchored.generations.lookup_of_ensureAuthenticated accepts held
  rw [← checked.2] at current
  obtain ⟨-, origin⟩ := anchored.handles handle (List.mem_of_getElem? found)
  exact ⟨handle, found, origin.resolve_right fun other => other transport held current, current⟩

theorem acquire (anchored : Anchored run) (found : run.calls[index]? = some call)
    {gate : RequestGate} (open_ : run.gates[run.currentGate]? = some gate)
    (fits : ∀ owner, call.handle = some owner → run.Fits owner) :
    Anchored (run.acquire index call gate refused retries) := by
  have after : Anchored { run with gates := run.gates.set run.currentGate gate.acquire.2 } :=
    anchored.withGates (staysClosed_set open_ fun closed => (gate.acquire_closed).trans closed)
  unfold HandleRun.acquire
  dsimp only
  split
  · exact after.begin found fits _ _
  · exact after.setPhase found fun owner same _ => fits owner same
  · exact after.leave found retries
  · exact after.endCall found

theorem enter (anchored : Anchored run) (found : run.calls[index]? = some call)
    (stepped : run.enter index call refused retries = some next) : Anchored next := by
  obtain ⟨-, stepped⟩ := Option.ite_none_right_eq_some.mp stepped
  split_ifs at stepped with passes
  · obtain ⟨valid, accepts⟩ := Bool.and_eq_true_iff.mp passes
    obtain ⟨gate, open_, rfl⟩ := Option.map_eq_some_iff.mp stepped
    refine anchored.acquire found open_ fun owner same => ?_
    rw [same] at valid
    exact anchored.fits_of_valid accepts valid
  · obtain rfl := Option.some.inj stepped
    exact anchored.endCall found

theorem resume (anchored : Anchored run) (found : run.calls[index]? = some call)
    (stepped : run.resume index call refused retries = some next) : Anchored next := by
  unfold HandleRun.resume at stepped
  split at stepped
  · next gate waiter phase =>
    obtain ⟨⟨token, after⟩, resumed, rfl⟩ := Option.map_eq_some_iff.mp stepped
    obtain ⟨before, open_, resumed⟩ := Option.bind_eq_some_iff.mp resumed
    obtain ⟨closed, tokens⟩ := RequestGate.resume_tokens resumed
    have woken : Anchored { run with gates := run.gates.set gate after } :=
      anchored.withGates (staysClosed_set open_ fun isClosed => closed.trans isClosed)
    dsimp only
    split
    · exact woken.endCall found
    · next slot =>
      -- only an open gate lets the call pass
      have opened : before.closed = false := by
        rcases tokens with ⟨none, -⟩ | ⟨opened, -⟩
        · cases none
        · exact opened
      refine woken.begin found (fun owner same => ?_) _ _
      refine anchored.calls call (List.mem_of_getElem? found) owner same ?_
      simp [waitsOpen, phase, shut, open_, opened]
  · cases stepped

theorem cancel (anchored : Anchored run) (stepped : run.cancel call = some next) :
    Anchored next := by
  unfold HandleRun.cancel at stepped
  split at stepped
  · obtain ⟨after, cancelled, rfl⟩ := Option.map_eq_some_iff.mp stepped
    obtain ⟨before, open_, cancelled⟩ := Option.bind_eq_some_iff.mp cancelled
    obtain ⟨acquirers, rfl⟩ := RequestGate.cancel_eq cancelled
    exact anchored.withGates (staysClosed_set open_ id)
  · cases stepped

theorem finish (anchored : Anchored run) (found : run.calls[index]? = some call)
    (stepped : run.finish index call retries = some next) : Anchored next := by
  unfold HandleRun.finish at stepped
  split at stepped
  · obtain rfl := Option.some.inj stepped
    exact (anchored.release _ _).leave found retries
  · cases stepped

theorem setFrame (anchored : Anchored run) {phase : FramePhase}
    (fits : ∀ frame ∈ run.frames, run.frames[index]? = some frame →
      run.FrameFits { frame with phase }) : Anchored (run.setFrame index phase) := by
  refine anchored.beside (.of_handles rfl rfl rfl fun _ => id) (fun _ => Or.inl) anchored.handles
    (fun _ => Or.inl) (fun other member => ?_) (fun _ => Or.inl)
  rcases mem_modify member with old | ⟨before, found, rfl⟩
  · exact Or.inl old
  · exact Or.inr (fits before (List.mem_of_getElem? found) found)

theorem endFrame (anchored : Anchored run) (index : Nat) :
    Anchored (run.setFrame index .done) :=
  anchored.setFrame fun _ _ _ _ _ => ⟨nofun, nofun⟩

theorem sendFrame (anchored : Anchored run) {frame : HandleFrame}
    (found : run.frames[index]? = some frame) (stepped : run.sendFrame index frame = some next) :
    Anchored next := by
  obtain ⟨scheduled, stepped⟩ := Option.ite_none_right_eq_some.mp stepped
  split at stepped
  · obtain rfl := Option.some.inj stepped
    exact anchored.endFrame index
  · next transport held =>
    obtain rfl := Option.some.inj stepped
    refine anchored.setFrame fun other member same owner ours => ⟨nofun, fun target bound => ?_⟩
    obtain rfl := Option.some.inj (found.symm.trans same)
    obtain rfl := FramePhase.bound.inj bound
    exact (anchored.frames frame member owner ours).1 scheduled transport held

theorem hand (anchored : Anchored run) {frame : HandleFrame}
    (found : run.frames[index]? = some frame) (stepped : run.hand index frame = some next) :
    Anchored next := by
  unfold HandleRun.hand at stepped
  split at stepped
  · next transport phase =>
    obtain rfl := Option.some.inj stepped
    have done := anchored.endFrame index
    refine done.beside (.of_handles rfl rfl rfl fun _ => id) (fun _ => Or.inl) done.handles
      (fun _ => Or.inl) (fun _ => Or.inl) fun handed member => ?_
    rcases List.mem_append.mp member with old | last
    · exact Or.inl old
    · obtain rfl := List.mem_singleton.mp last
      refine Or.inr fun owner same => ?_
      exact (anchored.frames frame (List.mem_of_getElem? found) owner same).2 transport phase
  · cases stepped

theorem create (anchored : Anchored run) {reply : HandleReply}
    (traces : run.Traces reply.origin run.connection.generation) :
    Anchored (run.create reply) := by
  have beside : Beside run (run.create reply) := {
    connection := rfl
    sessions := rfl
    handles := fun _ handle found =>
      ⟨handle, getElem?_concat_eq_some.mpr (Or.inl found), rfl, rfl⟩
    gates := fun _ => id }
  refine anchored.beside beside (fun _ => Or.inl) (fun handle member => ?_) (fun _ => Or.inl)
    (fun _ => Or.inl) (fun _ => Or.inl)
  rcases List.mem_append.mp member with old | last
  · exact anchored.handles handle old
  · obtain rfl := List.mem_singleton.mp last
    exact ⟨Nat.le_refl _, traces⟩

theorem setReplies (anchored : Anchored run) {replies : List HandleReply}
    (traces : ∀ reply ∈ replies,
      reply ∈ run.replies ∨ run.Traces reply.origin run.connection.generation) :
    Anchored { run with replies } :=
  anchored.beside (.of_handles rfl rfl rfl fun _ => id) traces anchored.handles
    (fun _ => Or.inl) (fun _ => Or.inl) (fun _ => Or.inl)

theorem traces_of_current (anchored : Anchored run) {transport : Nat}
    (held : run.connection.transport = some transport) :
    run.Traces transport run.connection.generation := by
  cases found : run.sessions.lookup transport with
  | none =>
      refine Or.inr fun other heldOther => ?_
      rw [← Option.some.inj (held.symm.trans heldOther), found]
      nofun
  | some generation =>
      rw [anchored.generations.current transport generation held found] at found
      exact Or.inl found

theorem receive (anchored : Anchored run) {kind : HandleKind}
    (stepped : run.receive kind = some next) : Anchored next := by
  unfold HandleRun.receive at stepped
  split at stepped
  · cases stepped
  · next transport held =>
    obtain ⟨-, stepped⟩ := Option.ite_none_right_eq_some.mp stepped
    have traces := anchored.traces_of_current held
    split_ifs at stepped <;> obtain rfl := Option.some.inj stepped
    · exact anchored.create traces
    · refine anchored.setReplies fun reply member => ?_
      rcases List.mem_append.mp member with old | last
      · exact Or.inl old
      · rw [List.mem_singleton.mp last]
        exact Or.inr traces

theorem closeHandle (anchored : Anchored run) (index : Nat) :
    Anchored { run with
      handles := run.handles.modify index fun handle => { handle with closed := true } } := by
  refine anchored.beside ⟨rfl, rfl, fun other handle found => ?_, fun _ => id⟩ (fun _ => Or.inl)
    (fun handle member => ?_) (fun _ => Or.inl) (fun _ => Or.inl) (fun _ => Or.inl)
  · refine ⟨_, getElem?_modify_eq_some.mpr ⟨handle, found, rfl⟩, ?_, ?_⟩ <;> split_ifs <;> rfl
  · rcases mem_modify member with old | ⟨before, foundBefore, rfl⟩
    · exact anchored.handles handle old
    · exact anchored.handles before (List.mem_of_getElem? foundBefore)

section connection

variable {after : Connection} {gates : List RequestGate} {greeted : Bool} {transport : Nat}

/-- The transport stays or is dropped. -/
theorem keeps (anchored : Anchored run) (invariant : after.SessionInvariant run.sessions)
    (stays : StaysClosed run.gates gates)
    (generation : after.generation = run.connection.generation)
    (kept : ∀ transport, after.transport = some transport →
      run.connection.transport = some transport) :
    Anchored { run with connection := after, gates, greeted } := by
  have traces : ∀ origin generation, run.Traces origin generation →
      Traces { run with connection := after, gates, greeted } origin generation := by
    rintro origin generation (known | other)
    · exact Or.inl known
    · exact Or.inr fun transport held => other transport (kept transport held)
  refine ⟨invariant, fun reply member => ?_, fun handle member => ?_,
    fun call member owner same waits => ?_,
    fun frame member owner same => ⟨fun scheduled => ?_, ?_⟩, anchored.handed⟩
  · show Traces _ reply.origin after.generation
    rw [generation]
    exact traces _ _ (anchored.replies reply member)
  · obtain ⟨bound, traced⟩ := anchored.handles handle member
    exact ⟨generation ▸ bound, traces _ _ traced⟩
  · have fits := anchored.calls call member owner same (waitsOpen_of_staysClosed stays waits)
    exact fun transport held => fits transport (kept transport held)
  · have fits := (anchored.frames frame member owner same).1 scheduled
    exact fun transport held => fits transport (kept transport held)
  · exact (anchored.frames frame member owner same).2

/-- A new transport, which belongs to no session yet. -/
theorem opens (anchored : Anchored run) (invariant : after.SessionInvariant run.sessions)
    (stays : StaysClosed run.gates gates)
    (generation : after.generation = run.connection.generation)
    (fresh : ∀ transport, after.transport = some transport → run.sessions.lookup transport = none)
    (calls : ∀ call ∈ run.calls, call.handle.isSome = true → run.waitsOpen call = false)
    (frames : ∀ frame ∈ run.frames, frame.handle.isSome = true → frame.phase ≠ .scheduled) :
    Anchored { run with connection := after, gates, greeted } := by
  have traces : ∀ origin generation,
      Traces { run with connection := after, gates, greeted } origin generation :=
    fun origin generation => Or.inr fun transport held => by
      show run.sessions.lookup transport ≠ some generation
      rw [fresh transport held]
      nofun
  refine ⟨invariant, fun _ _ => traces _ _, fun handle member => ⟨?_, traces _ _⟩,
    fun call member owner same waits => ?_,
    fun frame member owner same => ⟨fun scheduled => ?_, ?_⟩, anchored.handed⟩
  · exact generation ▸ (anchored.handles handle member).1
  · have vacated := calls call member (by rw [same]; rfl)
    rw [waitsOpen_of_staysClosed stays waits] at vacated
    cases vacated
  · exact absurd scheduled (frames frame member (by rw [same]; rfl))
  · exact (anchored.frames frame member owner same).2

/-- The current transport begins a generation. -/
theorem begins (anchored : Anchored run)
    (invariant : after.SessionInvariant (run.sessions.insert transport after.generation))
    (stays : StaysClosed run.gates gates) (current : run.connection.transport = some transport)
    (fresh : run.sessions.lookup transport = none)
    (generation : after.generation = run.connection.generation + 1)
    (kept : ∀ other, after.transport = some other → other = transport)
    (prompt : ∀ reply ∈ run.replies, run.connection.transport = some reply.origin) :
    Anchored { run with
      connection := after, sessions := run.sessions.insert transport after.generation, gates,
      greeted } := by
  have later : ∀ {other known : Nat}, run.sessions.lookup other = some known →
      (run.sessions.insert transport after.generation).lookup other = some known := by
    intro other known found
    rw [Connection.lookup_insert_of_known fresh (by rw [found]; nofun), found]
  have shares : ∀ index other, run.Shares index other →
      Shares { run with
        connection := after, sessions := run.sessions.insert transport after.generation, gates,
        greeted } index other :=
    fun index other ⟨handle, found, origin, known⟩ => ⟨handle, found, later origin, later known⟩
  -- nothing could use the transport before
  have unfit : ∀ index, ¬run.Fits index := by
    intro index fits
    obtain ⟨handle, -, -, known⟩ := fits transport current
    cases fresh.symm.trans known
  refine ⟨invariant, fun reply member => Or.inl ?_, fun handle member => ⟨?_, ?_⟩,
    fun call member owner same waits => ?_, fun frame member owner same => ⟨fun scheduled => ?_,
      fun other bound => ?_⟩, fun frame member owner same => ?_⟩
  · rw [← Option.some.inj (current.symm.trans (prompt reply member))]
    exact AList.lookup_insert _
  · have bound := (anchored.handles handle member).1
    show handle.generation ≤ after.generation
    omega
  · obtain ⟨bound, known | -⟩ := anchored.handles handle member
    · exact Or.inl (later known)
    · refine Or.inr fun other held => ?_
      show (run.sessions.insert transport after.generation).lookup other ≠ some handle.generation
      rw [kept other held, AList.lookup_insert]
      intro same
      have := Option.some.inj same
      omega
  · exact absurd (anchored.calls call member owner same (waitsOpen_of_staysClosed stays waits))
      (unfit owner)
  · exact absurd ((anchored.frames frame member owner same).1 scheduled) (unfit owner)
  · exact shares _ _ ((anchored.frames frame member owner same).2 other bound)
  · exact shares _ _ (anchored.handed frame member owner same)

theorem follow (anchored : Anchored run) {action : ConnectionAction}
    (stepped : run.connection.step action = some after) (stays : StaysClosed run.gates gates)
    (prompt : after.generation ≠ run.connection.generation →
      ∀ reply ∈ run.replies, run.connection.transport = some reply.origin)
    (vacated : run.connection.transports.length < after.transports.length →
      (∀ call ∈ run.calls, call.handle.isSome = true → run.waitsOpen call = false) ∧
        ∀ frame ∈ run.frames, frame.handle.isSome = true → frame.phase ≠ .scheduled) :
    Anchored (run.follow after gates greeted) := by
  have invariant := anchored.generations.step stepped
  have move := anchored.generations.move stepped
  unfold HandleRun.follow
  generalize Connection.sessionsAfter run.sessions run.connection after = sessions at invariant move
  cases move with
  | keeps generation kept => exact anchored.keeps invariant stays generation kept
  | opens generation longer fresh =>
      obtain ⟨calls, frames⟩ := vacated longer
      exact anchored.opens invariant stays generation fresh calls frames
  | begins transport current fresh generation kept =>
      refine anchored.begins invariant stays current fresh generation kept (prompt ?_)
      omega

end connection

theorem staysClosed_gatesAfter (run : HandleRun) (action : ConnectionAction) :
    StaysClosed run.gates (run.gatesAfter action) := by
  unfold gatesAfter
  split_ifs
  · exact staysClosed_concat _
  · exact staysClosed_modify fun before _ => before.close_closed
  · exact fun _ => id

theorem step_connection {action : ConnectionAction}
    (stepped : run.step (.connection action) = some next) :
    ∃ after greeted, run.connection.step action = some after ∧
      next = run.follow after (run.gatesAfter action) greeted := by
  cases action with
  | receiveHello transport => cases stepped
  | _ =>
      simp only [HandleRun.step] at stepped
      obtain ⟨after, moved, rfl⟩ := Option.map_eq_some_iff.mp stepped
      exact ⟨after, _, moved, rfl⟩

theorem step_hello {transport serverMaxInFlight : Nat}
    (stepped : run.step (.hello transport serverMaxInFlight) = some next) :
    ∃ after, run.connection.step (.receiveHello transport) = some after ∧
      next = run.follow after (run.newGate (min serverMaxInFlight run.limit)) true := by
  obtain ⟨-, stepped⟩ := Option.ite_none_left_eq_some.mp stepped
  obtain ⟨after, moved, rfl⟩ := Option.map_eq_some_iff.mp stepped
  exact ⟨after, moved, rfl⟩

theorem stepConnection (anchored : Anchored run) {action : HandleAction}
    {connected : ConnectionAction} {after : Connection} {gates : List RequestGate} {greeted : Bool}
    (admitted : run.Admitted action)
    (stepped : run.connection.step connected = some after)
    (stays : StaysClosed run.gates gates)
    (leads : run.step action = some (run.follow after gates greeted)) :
    Anchored (run.follow after gates greeted) := by
  obtain ⟨prompt, vacated⟩ := admitted
  refine anchored.follow stepped stays (fun differs => prompt ?_) fun longer => vacated ?_
  · simp [HandleRun.begins, leads, HandleRun.follow, differs]
  · simp [HandleRun.opens, leads, HandleRun.follow, longer]

theorem step (anchored : Anchored run) {action : HandleAction} (admitted : run.Admitted action)
    (stepped : run.step action = some next) : Anchored next := by
  cases action with
  | connection action =>
      obtain ⟨after, greeted, moved, rfl⟩ := step_connection stepped
      exact anchored.stepConnection admitted moved (staysClosed_gatesAfter run action) stepped
  | hello transport serverMaxInFlight =>
      obtain ⟨after, moved, rfl⟩ := step_hello stepped
      exact anchored.stepConnection admitted moved (staysClosed_concat _) stepped
  | reply kind => exact anchored.receive stepped
  | obtain index =>
      obtain ⟨reply, found, rfl⟩ := Option.map_eq_some_iff.mp stepped
      have created := anchored.create (anchored.replies reply (List.mem_of_getElem? found))
      exact created.setReplies fun other member => Or.inl (List.mem_of_mem_eraseIdx member)
  | forget index =>
      obtain rfl := Option.some.inj stepped
      exact anchored.setReplies fun other member => Or.inl (List.mem_of_mem_eraseIdx member)
  | close index =>
      obtain rfl := Option.some.inj stepped
      exact anchored.closeHandle index
  | call handle replaySafe =>
      obtain ⟨-, stepped⟩ := Option.ite_none_right_eq_some.mp stepped
      obtain rfl := Option.some.inj stepped
      refine anchored.beside (.of_handles rfl rfl rfl fun _ => id) (fun _ => Or.inl)
        anchored.handles (fun other member => ?_) (fun _ => Or.inl) (fun _ => Or.inl)
      rcases List.mem_append.mp member with old | last
      · exact Or.inl old
      · rw [List.mem_singleton.mp last]
        exact Or.inr nofun
  | enter index refused retries =>
      obtain ⟨call, found, stepped⟩ := Option.bind_eq_some_iff.mp stepped
      exact anchored.enter found stepped
  | resume index refused retries =>
      obtain ⟨call, found, stepped⟩ := Option.bind_eq_some_iff.mp stepped
      exact anchored.resume found stepped
  | cancel index =>
      obtain ⟨call, -, stepped⟩ := Option.bind_eq_some_iff.mp stepped
      exact anchored.cancel stepped
  | finish index retries =>
      obtain ⟨call, found, stepped⟩ := Option.bind_eq_some_iff.mp stepped
      exact anchored.finish found stepped
  | sendFrame index =>
      obtain ⟨frame, found, stepped⟩ := Option.bind_eq_some_iff.mp stepped
      exact anchored.sendFrame found stepped
  | hand index =>
      obtain ⟨frame, found, stepped⟩ := Option.bind_eq_some_iff.mp stepped
      exact anchored.hand found stepped
  | failFrame index =>
      obtain rfl := Option.some.inj stepped
      exact anchored.endFrame index

theorem of_starts {config : ConnectionConfig} {limit queueSize : Nat}
    (starts : (system config limit queueSize).starts run) : Anchored run := by
  obtain rfl := starts
  exact ⟨.of_starts config, nofun, nofun, nofun, nofun, nofun⟩

end Anchored

/-- In every run in which a transport is opened only when no call of a handle
waits in an open gate or is about to read the transport, no frame of a handle
leaves its session. -/
theorem inSession_of_reachable {config : ConnectionConfig} {limit queueSize : Nat}
    (reachable : (system config limit queueSize).ReachableUnder Admitted run) :
    run.InSession := by
  have invariant : (system config limit queueSize).Invariant Admitted Anchored := {
    starts := fun _ starts => Anchored.of_starts starts
    preserved := fun _ _ _ anchored admitted stepped => anchored.step admitted stepped }
  exact (invariant.of_reachable reachable).inSession

/-- A client before its first call of `connect`. -/
def fresh : HandleRun where
  connection := { config := {} }
  limit := 1
  queueSize := 8
  gates := [{ maximum := 1, queueSize := 8 }]

/-- The connection is lost while a call of a queue item waits in the gate.  It
is refused, and so is another call while the reconnect restores registrations;
then a transaction of the new session is used. -/
def lostWhileWaiting : List HandleAction :=
  [.connection .connect, .connection (.startConnect none), .connection (.resumeOpen .connect),
    .hello 0 1, .connection (.resumeOpen .connect),
    .reply .transaction, .obtain 0, .reply .item, .obtain 0,
    .call (some 0) false, .enter 0 false false, .sendFrame 0, .hand 0,
    .call (some 1) false, .enter 1 false false,
    .connection (.raiseInReceiver 0 .other), .finish 0 false, .resume 1 false false,
    .connection (.resumeHandler (.receiver 0)), .connection (.resumeHandler (.receiver 0)),
    .connection .startReconnect, .connection (.wakeReconnect none),
    .connection (.resumeOpen .reconnect), .hello 1 1, .connection (.resumeOpen .reconnect),
    .call (some 1) false, .enter 2 false false,
    .connection (.resumeOpen .reconnect), .connection (.resumeOpen .reconnect),
    .reply .transaction, .obtain 0, .call (some 2) false, .enter 3 false false, .sendFrame 1,
    .hand 1]

theorem inSession_lostWhileWaiting :
    ∃ run : HandleRun, run.handed = [⟨some 0, 0⟩, ⟨some 2, 1⟩] ∧ run.InSession := by
  have meets : (system {} 1 8).StepsMeet Admitted fresh lostWhileWaiting := by decide +kernel
  obtain ⟨run, reached, tested⟩ := (system {} 1 8).exists_reachableUnder_of_run rfl
    lostWhileWaiting (fun run => run.handed = [⟨some 0, 0⟩, ⟨some 2, 1⟩]) (by decide +kernel) meets
  exact ⟨run, of_decide_eq_true tested, inSession_of_reachable reached⟩

/-- The second transport is opened by `connect` and authenticated while the
loss of the first one is still handled.  Of two response writers obtained on it
one is writing its frame and the other one waits in the gate.  The loss handler
then starts a reconnect loop, whose first attempt times out behind the write
lock.  The writer that waits gets its slot during the second attempt, and that
transport begins the next generation. -/
def replacedGate : List HandleAction :=
  [.connection .connect, .connection (.startConnect none), .connection (.resumeOpen .connect),
    .hello 0 1, .connection (.resumeOpen .connect),
    .connection (.raiseInReceiver 0 .other), .connection .connect, .connection (.startConnect none),
    .connection (.resumeOpen .connect), .hello 1 1, .connection (.resumeOpen .connect),
    .connection (.resumeOpen .connect),
    .reply .writer, .reply .writer, .call (some 0) false, .enter 0 false false, .hand 0,
    .call (some 1) false, .enter 1 false false,
    .connection (.resumeHandler (.receiver 0)), .connection (.resumeHandler (.receiver 0)),
    .connection .startReconnect, .connection (.wakeReconnect none),
    .connection (.resumeOpen .reconnect), .connection (.raiseInOpen .reconnect .other),
    .connection (.resumeOpen .reconnect), .connection (.resumeOpen .reconnect),
    .connection (.wakeReconnect none), .connection (.resumeOpen .reconnect),
    .finish 0 false, .resume 1 false false, .hand 1,
    .hello 3 1, .connection (.resumeOpen .reconnect)]

/-- A frame of a writer of generation 2 is handed to the transport of
generation 3. -/
theorem exists_frame_across_sessions :
    ∃ run, (system {} 1 8).ReachableUnder Prompt run ∧ ⟨some 1, 3⟩ ∈ run.handed ∧
      run.handles[1]? = some ⟨.writer, 1, 2, false⟩ ∧ run.sessions.lookup 1 = some 2 ∧
      run.sessions.lookup 3 = some 3 ∧ ¬run.InSession := by
  have meets : (system {} 1 8).StepsMeet Prompt fresh replacedGate := by decide +kernel
  obtain ⟨run, reached, tested⟩ := (system {} 1 8).exists_reachableUnder_of_run rfl replacedGate
    (fun run => ⟨some 1, 3⟩ ∈ run.handed ∧ run.handles[1]? = some ⟨.writer, 1, 2, false⟩ ∧
      run.sessions.lookup 1 = some 2 ∧ run.sessions.lookup 3 = some 3) (by decide +kernel) meets
  obtain ⟨handed, found, origin, transport⟩ := of_decide_eq_true tested
  refine ⟨run, reached, handed, found, origin, transport, fun stays => ?_⟩
  have same := (stays _ handed 1 _ rfl found).2
  exact absurd (transport.symm.trans same) (by decide)

end HandleRun

end FitzClient
