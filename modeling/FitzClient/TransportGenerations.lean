import FitzClient.ConnectionClosed
import FitzClient.ConnectionSessions
import FitzClient.Dictionary

/-!
# The generations of the transports

A generation begins when an attempt finds that the broker has accepted it and
that its transport is still the current one.  The generation of each transport
that was authenticated is recorded here.

While requests are accepted, the current transport is one that was
authenticated, and its generation is that of the connection: no attempt opens
a transport while another one restores its registrations, and an attempt that
has lost its transport to a later one authenticates nothing.
-/

namespace FitzClient

namespace Connection

variable {connection next : Connection} {opener : Opener} {attempt : OpenAttempt}
  {sessions : Dictionary Nat Nat} {transport : Nat} {action : ConnectionAction}

/-- The generations of the transports after a transition. -/
def sessionsAfter (sessions : Dictionary Nat Nat) (before after : Connection) :
    Dictionary Nat Nat :=
  match before.transport with
  | some transport =>
      if after.generation = before.generation then sessions
      else sessions.insert transport after.generation
  | none => sessions

structure SessionInvariant (connection : Connection) (sessions : Dictionary Nat Nat) :
    Prop where
  known : ∀ transport generation, sessions.lookup transport = some generation →
    transport < connection.transports.length
  opened : ∀ transport, connection.transport = some transport →
    transport < connection.transports.length
  attempted : ∀ opener attempt, connection.attempt opener = some attempt →
    attempt.transport < connection.transports.length
  apart : ∀ first second, connection.attempt .connect = some first →
    connection.attempt .reconnect = some second → first.transport ≠ second.transport
  current : ∀ transport generation, connection.transport = some transport →
    sessions.lookup transport = some generation → generation = connection.generation
  greets : ∀ opener attempt, connection.attempt opener = some attempt →
    attempt.phase.greeting = true → sessions.lookup attempt.transport = none
  restored : ∀ opener attempt, connection.attempt opener = some attempt →
    attempt.phase = .restoring → sessions.lookup attempt.transport ≠ none
  authenticated : connection.state = .authenticated → ∀ transport,
    connection.transport = some transport → sessions.lookup transport ≠ none
  restoring : connection.restoring = true → ∃ attempt,
    connection.attempt .reconnect = some attempt ∧ attempt.phase = .restoring ∧
      ∀ transport, connection.transport = some transport → transport = attempt.transport
  connectFirst : connection.ConnectFirst

theorem sessionsAfter_of_generation (same : next.generation = connection.generation) :
    sessionsAfter sessions connection next = sessions := by
  unfold sessionsAfter
  split
  · rw [if_pos same]
  · rfl

theorem Establishes.sessionsAfter (establishes : Establishes opener attempt connection next) :
    sessionsAfter sessions connection next =
      sessions.insert attempt.transport next.generation := by
  have later : next.generation ≠ connection.generation := by
    rw [establishes.generation]
    omega
  rw [Connection.sessionsAfter, establishes.transport]
  exact if_neg later

/-- A transport keeps its generation. -/
theorem lookup_insert_of_known {generation : Nat} {other : Nat}
    (fresh : sessions.lookup transport = none) (known : sessions.lookup other ≠ none) :
    (sessions.insert transport generation).lookup other = sessions.lookup other := by
  have apart : other ≠ transport := by
    rintro rfl
    exact known fresh
  exact AList.lookup_insert_ne apart

namespace SessionInvariant

theorem of_starts (config : ConnectionConfig) : SessionInvariant { config } ∅ where
  known _ _ found := nomatch found
  opened _ held := nomatch held
  attempted opener _ found := by cases opener <;> cases found
  apart _ _ found := nomatch found
  current _ _ held := nomatch held
  greets opener _ found := by cases opener <;> cases found
  restored opener _ found := by cases opener <;> cases found
  authenticated _ _ held := nomatch held
  restoring restores := nomatch restores
  connectFirst scheduled := nomatch scheduled

theorem steady (invariant : SessionInvariant connection sessions)
    (steady : Steady connection next) : SessionInvariant next sessions where
  known transport generation found := steady.transports ▸ invariant.known _ _ found
  opened transport held := steady.transports ▸ invariant.opened _ (steady.transport _ held)
  attempted opener attempt found := by
    obtain ⟨earlier, foundEarlier, same, -, -⟩ := steady.attempts opener attempt found
    rw [steady.transports, ← same]
    exact invariant.attempted opener earlier foundEarlier
  apart first second found foundSecond := by
    obtain ⟨earlier, foundEarlier, same, -, -⟩ := steady.attempts _ first found
    obtain ⟨prior, foundPrior, samePrior, -, -⟩ := steady.attempts _ second foundSecond
    rw [← same, ← samePrior]
    exact invariant.apart earlier prior foundEarlier foundPrior
  current transport generation held found := by
    rw [steady.generation]
    exact invariant.current transport generation (steady.transport _ held) found
  greets opener attempt found greeting := by
    obtain ⟨earlier, foundEarlier, same, greeted, -⟩ := steady.attempts opener attempt found
    rw [← same]
    exact invariant.greets opener earlier foundEarlier (greeted greeting)
  restored opener attempt found phase := by
    obtain ⟨earlier, foundEarlier, same, -, restored⟩ := steady.attempts opener attempt found
    rw [← same]
    exact invariant.restored opener earlier foundEarlier (restored phase)
  authenticated reached transport held :=
    invariant.authenticated (steady.authenticated reached) transport (steady.transport _ held)
  restoring restores := by
    obtain ⟨restored, kept⟩ := steady.restoring restores
    obtain ⟨attempt, found, phase, only⟩ := invariant.restoring restored
    exact ⟨attempt, kept attempt found phase, phase,
      fun transport held => only transport (steady.transport _ held)⟩
  connectFirst := steady.connectFirst invariant.connectFirst

/-- The transport of an attempt that starts has no generation. -/
theorem lookup_length (invariant : SessionInvariant connection sessions) :
    sessions.lookup connection.transports.length = none := by
  cases found : sessions.lookup connection.transports.length with
  | none => rfl
  | some generation => exact absurd (invariant.known _ _ found) (Nat.lt_irrefl _)

theorem opens (invariant : SessionInvariant connection sessions)
    (opens : Opens opener connection next) : SessionInvariant next sessions where
  known transport generation found := by
    have before := invariant.known _ _ found
    rw [opens.transports]
    omega
  opened transport held := by
    obtain rfl := Option.some.inj (opens.transport.symm.trans held)
    rw [opens.transports]
    omega
  attempted second attempt found := by
    rw [opens.transports]
    by_cases same : second = opener
    · subst same
      obtain rfl := Option.some.inj (opens.attempt.symm.trans found)
      exact Nat.lt_succ_self _
    · rw [opens.others second same] at found
      exact Nat.lt_succ_of_lt (invariant.attempted second attempt found)
  apart first second found foundSecond := by
    cases opener with
    | connect =>
        obtain rfl := Option.some.inj (opens.attempt.symm.trans found)
        rw [opens.others .reconnect nofun] at foundSecond
        exact (Nat.ne_of_lt (invariant.attempted _ _ foundSecond)).symm
    | reconnect =>
        obtain rfl := Option.some.inj (opens.attempt.symm.trans foundSecond)
        rw [opens.others .connect nofun] at found
        exact Nat.ne_of_lt (invariant.attempted _ _ found)
  current transport generation held found := by
    obtain rfl := Option.some.inj (opens.transport.symm.trans held)
    exact absurd (invariant.lookup_length.symm.trans found) nofun
  greets second attempt found greeting := by
    by_cases same : second = opener
    · subst same
      obtain rfl := Option.some.inj (opens.attempt.symm.trans found)
      exact invariant.lookup_length
    · rw [opens.others second same] at found
      exact invariant.greets second attempt found greeting
  restored second attempt found phase := by
    by_cases same : second = opener
    · subst same
      obtain rfl := Option.some.inj (opens.attempt.symm.trans found)
      cases phase
    · rw [opens.others second same] at found
      exact invariant.restored second attempt found phase
  authenticated reached := absurd reached opens.state
  -- the reconnect loop is not at an attempt, or the connect task comes first
  restoring restores := by
    rw [opens.restoring] at restores
    obtain ⟨attempt, found, -, -⟩ := invariant.restoring restores
    cases opener with
    | connect =>
        obtain ⟨count, task⟩ := attempt_reconnect.mp found
        rcases invariant.connectFirst (opens.scheduled rfl) with idle | waits
        · cases idle.symm.trans task
        · cases waits.symm.trans task
    | reconnect => cases opens.rests.symm.trans found
  connectFirst := opens.connectFirst invariant.connectFirst

theorem establishes (invariant : SessionInvariant connection sessions)
    (establishes : Establishes opener attempt connection next) :
    SessionInvariant next (sessions.insert attempt.transport next.generation) := by
  have fresh := invariant.greets opener attempt establishes.found establishes.greets
  have owned : ∀ transport, next.transport = some transport → transport = attempt.transport :=
    fun transport held =>
      (Option.some.inj (establishes.transport.symm.trans (establishes.kept _ held))).symm
  have other : ∀ second later, second ≠ opener → next.attempt second = some later →
      connection.attempt second = some later ∧ later.transport ≠ attempt.transport := by
    intro second later different found
    have before := (establishes.others second different).symm.trans found
    refine ⟨before, fun same => ?_⟩
    cases opener with
    | connect =>
        cases second with
        | connect => exact different rfl
        | reconnect => exact invariant.apart _ _ establishes.found before same.symm
    | reconnect =>
        cases second with
        | connect => exact invariant.apart _ _ before establishes.found same
        | reconnect => exact different rfl
  refine {
    known := fun transport generation found => ?_
    opened := fun transport held => ?_
    attempted := fun second later found => ?_
    apart := fun first second found foundSecond => ?_
    current := fun transport generation held found => ?_
    greets := fun second later found greeting => ?_
    restored := fun second later found phase => ?_
    authenticated := fun _ transport held => ?_
    restoring := fun restores => ?_
    connectFirst := establishes.connectFirst invariant.connectFirst }
  · rw [establishes.transports]
    rcases Dictionary.lookup_insert_eq_some.mp found with ⟨rfl, -⟩ | ⟨-, before⟩
    · exact invariant.attempted opener attempt establishes.found
    · exact invariant.known _ _ before
  · rw [establishes.transports]
    exact invariant.opened _ (establishes.kept _ held)
  · rw [establishes.transports]
    by_cases same : second = opener
    · subst same
      rw [(establishes.own later found).1]
      exact invariant.attempted second attempt establishes.found
    · exact invariant.attempted second later (other second later same found).1
  · cases opener with
    | connect =>
        rw [(establishes.own first found).1]
        exact (other .reconnect second nofun foundSecond).2.symm
    | reconnect =>
        rw [(establishes.own second foundSecond).1]
        exact (other .connect first nofun found).2
  · rw [owned transport held, AList.lookup_insert] at found
    exact (Option.some.inj found).symm
  · by_cases same : second = opener
    · subst same
      exact absurd ((establishes.own later found).2.symm.trans greeting) nofun
    · obtain ⟨before, apart⟩ := other second later same found
      rw [AList.lookup_insert_ne apart]
      exact invariant.greets second later before greeting
  · by_cases same : second = opener
    · subst same
      rw [(establishes.own later found).1, AList.lookup_insert]
      nofun
    · obtain ⟨before, apart⟩ := other second later same found
      rw [AList.lookup_insert_ne apart]
      exact invariant.restored second later before phase
  · rw [owned transport held, AList.lookup_insert]
    nofun
  · rcases establishes.restoring restores with earlier | ⟨rfl, later, found, phase⟩
    · obtain ⟨holder, found, phase, only⟩ := invariant.restoring earlier
      have same := only _ establishes.transport
      rw [same] at fresh
      exact absurd fresh (invariant.restored _ holder found phase)
    · refine ⟨later, found, phase, fun transport held => ?_⟩
      rw [owned transport held, (establishes.own later found).1]

theorem declares (invariant : SessionInvariant connection sessions)
    (declares : Declares opener attempt connection next) : SessionInvariant next sessions := by
  have known := invariant.restored opener attempt declares.found declares.phase
  have begun : SessionInvariant { connection with restoring := false }.authenticate sessions := {
    known := invariant.known
    opened := invariant.opened
    attempted := invariant.attempted
    apart := invariant.apart
    current := invariant.current
    greets := invariant.greets
    restored := invariant.restored
    authenticated := fun _ transport held => by
      obtain rfl := Option.some.inj (declares.transport.symm.trans held)
      exact known
    restoring := nofun
    connectFirst := invariant.connectFirst }
  exact begun.steady declares.steady

theorem step (invariant : SessionInvariant connection sessions)
    (stepped : connection.step action = some next) :
    SessionInvariant next (sessionsAfter sessions connection next) := by
  cases sessionStep_of_step invariant.connectFirst stepped with
  | steady steady =>
      rw [sessionsAfter_of_generation steady.generation]
      exact invariant.steady steady
  | opens opener opens =>
      rw [sessionsAfter_of_generation opens.generation]
      exact invariant.opens opens
  | establishes opener attempt establishes =>
      rw [establishes.sessionsAfter]
      exact invariant.establishes establishes
  | declares opener attempt declares =>
      have same : next.generation = connection.generation := declares.steady.generation
      rw [sessionsAfter_of_generation same]
      exact invariant.declares declares

/-- While requests are accepted, the current transport has the generation of
the connection. -/
theorem lookup_of_ensureAuthenticated (invariant : SessionInvariant connection sessions)
    (accepts : connection.ensureAuthenticated = true)
    (held : connection.transport = some transport) :
    sessions.lookup transport = some connection.generation := by
  have known : sessions.lookup transport ≠ none := by
    simp only [ensureAuthenticated, Bool.and_eq_true, Bool.or_eq_true, beq_iff_eq] at accepts
    rcases accepts.2 with authenticated | restoring
    · exact invariant.authenticated authenticated transport held
    · obtain ⟨attempt, found, phase, only⟩ := invariant.restoring restoring
      rw [only transport held]
      exact invariant.restored _ attempt found phase
  obtain ⟨generation, found⟩ := Option.ne_none_iff_exists'.mp known
  rw [found, invariant.current transport generation held found]

end SessionInvariant

/-- A transition begins no generation and keeps the transport or drops it, or
it opens a transport, or it begins the generation of the current transport. -/
inductive GenerationMove (connection next : Connection) (sessions : Dictionary Nat Nat) :
    Dictionary Nat Nat → Prop
  | keeps (generation : next.generation = connection.generation)
      (kept : ∀ transport, next.transport = some transport →
        connection.transport = some transport) :
      GenerationMove connection next sessions sessions
  | opens (generation : next.generation = connection.generation)
      (longer : connection.transports.length < next.transports.length)
      (fresh : ∀ transport, next.transport = some transport →
        sessions.lookup transport = none) :
      GenerationMove connection next sessions sessions
  | begins (transport : Nat) (current : connection.transport = some transport)
      (fresh : sessions.lookup transport = none)
      (generation : next.generation = connection.generation + 1)
      (kept : ∀ other, next.transport = some other → other = transport) :
      GenerationMove connection next sessions (sessions.insert transport next.generation)

theorem SessionInvariant.move (invariant : SessionInvariant connection sessions)
    (stepped : connection.step action = some next) :
    GenerationMove connection next sessions (sessionsAfter sessions connection next) := by
  cases sessionStep_of_step invariant.connectFirst stepped with
  | steady steady =>
      rw [sessionsAfter_of_generation steady.generation]
      exact .keeps steady.generation steady.transport
  | opens opener opens =>
      rw [sessionsAfter_of_generation opens.generation]
      refine .opens opens.generation (by rw [opens.transports]; omega) fun transport held => ?_
      obtain rfl := Option.some.inj (opens.transport.symm.trans held)
      exact invariant.lookup_length
  | establishes opener attempt establishes =>
      rw [establishes.sessionsAfter]
      refine .begins attempt.transport establishes.transport
        (invariant.greets opener attempt establishes.found establishes.greets)
        establishes.generation fun other held => ?_
      exact (Option.some.inj (establishes.transport.symm.trans (establishes.kept _ held))).symm
  | declares opener attempt declares =>
      have same : next.generation = connection.generation := declares.steady.generation
      rw [sessionsAfter_of_generation same]
      exact .keeps same declares.steady.transport

end Connection

end FitzClient
