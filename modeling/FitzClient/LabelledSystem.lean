import Mathlib.Logic.Relation
import Mathlib.Tactic.ByContra

/-!
# Runs of a labelled transition system

An asynchronous program is a transition system whose actions say which task
resumes and what its environment answers.  All nondeterminism is carried by
the action, so that a step is an executable partial function: `none` means
that the action is not enabled.

Three ways to speak about runs are kept in step with each other here: the
states reachable through admitted actions, the state that a list of actions
leads to, and properties required along such a list.  The invariant rule is
proved once and every safety argument of the development instantiates it.
-/

namespace FitzClient

/-- A transition system with a set of starting states and a partial
transition function on labelled actions. -/
structure LabelledSystem (State Action : Type*) where
  starts : State → Prop
  step : State → Action → Option State

namespace LabelledSystem

variable {State Action : Type*} (system : LabelledSystem State Action)
  (admitted : State → Action → Prop)

/-- One transition by an action that is admitted in the state it leaves. -/
def StepUnder (current next : State) : Prop :=
  ∃ action, admitted current action ∧ system.step current action = some next

/-- Any number of transitions, each by an admitted action. -/
def LeadsUnder : State → State → Prop :=
  Relation.ReflTransGen (system.StepUnder admitted)

/-- The states that some run of admitted actions reaches. -/
def ReachableUnder (state : State) : Prop :=
  ∃ first, system.starts first ∧ system.LeadsUnder admitted first state

/-- The states that some run reaches. -/
def Reachable : State → Prop :=
  system.ReachableUnder fun _ _ => True

/-- A predicate that holds at the start and is preserved by every admitted
transition. -/
structure Invariant (holds : State → Prop) : Prop where
  starts : ∀ first, system.starts first → holds first
  preserved : ∀ current action next, holds current → admitted current action →
    system.step current action = some next → holds next

variable {system admitted}

theorem LeadsUnder.induct {holds : State → Prop}
    (preserved : ∀ current action next, holds current → admitted current action →
      system.step current action = some next → holds next)
    {first last : State} (leads : system.LeadsUnder admitted first last)
    (atFirst : holds first) : holds last := by
  induction leads with
  | refl => exact atFirst
  | tail _ lastStep ih =>
      obtain ⟨action, admits, stepped⟩ := lastStep
      exact preserved _ action _ ih admits stepped

/-- An invariant holds in every state that admitted actions reach. -/
theorem Invariant.of_reachable {holds : State → Prop}
    (invariant : system.Invariant admitted holds) {state : State}
    (reachable : system.ReachableUnder admitted state) : holds state := by
  obtain ⟨first, starts, leads⟩ := reachable
  exact leads.induct invariant.preserved (invariant.starts first starts)

/-- An invariant proved under a weaker condition may be used to prove the
next one. -/
theorem Invariant.strengthen {weaker stronger : State → Prop}
    (known : system.Invariant admitted weaker)
    (starts : ∀ first, system.starts first → stronger first)
    (preserved : ∀ current action next, weaker current → weaker next → stronger current →
      admitted current action → system.step current action = some next → stronger next) :
    system.Invariant admitted (fun state => weaker state ∧ stronger state) where
  starts first first_starts := ⟨known.starts first first_starts, starts first first_starts⟩
  preserved current action next holds admits stepped :=
    have weakerNext := known.preserved current action next holds.1 admits stepped
    ⟨weakerNext,
      preserved current action next holds.1 weakerNext holds.2 admits stepped⟩

variable (system admitted)

/-- The state that a list of actions leads to, if all of them are enabled. -/
def run : State → List Action → Option State
  | state, [] => some state
  | state, action :: actions =>
      (system.step state action).bind fun next => run next actions

/-- `holds` is true of every state that the run visits. -/
def Along (holds : State → Prop) : State → List Action → Prop
  | state, [] => holds state
  | state, action :: actions =>
      holds state ∧ ∀ next, system.step state action = some next → Along holds next actions

/-- Every transition that the run takes is admitted. -/
def StepsMeet : State → List Action → Prop
  | _, [] => True
  | state, action :: actions => ∀ next, system.step state action = some next →
      admitted state action ∧ StepsMeet next actions

variable {admitted}

theorem leadsUnder_of_run {first last : State} (actions : List Action)
    (ran : system.run first actions = some last)
    (meets : system.StepsMeet admitted first actions) :
    system.LeadsUnder admitted first last := by
  induction actions generalizing first with
  | nil =>
      obtain rfl : first = last := by simpa [run] using ran
      exact Relation.ReflTransGen.refl
  | cons action actions ih =>
      obtain ⟨next, stepped, rest⟩ := Option.bind_eq_some_iff.mp ran
      obtain ⟨admits, meetsRest⟩ := meets next stepped
      exact Relation.ReflTransGen.head ⟨action, admits, stepped⟩ (ih rest meetsRest)

theorem stepsMeet_cons {first next : State} {action : Action} {actions : List Action}
    (stepped : system.step first action = some next) (admits : admitted first action)
    (rest : system.StepsMeet admitted next actions) :
    system.StepsMeet admitted first (action :: actions) := by
  intro other steppedOther
  obtain rfl : next = other := by simpa [stepped] using steppedOther
  exact ⟨admits, rest⟩

instance decidableStepsMeet [∀ state action, Decidable (admitted state action)] (first : State) :
    (actions : List Action) → Decidable (system.StepsMeet admitted first actions)
  | [] => .isTrue trivial
  | action :: actions =>
      match stepped : system.step first action with
      | none => .isTrue fun _ taken => absurd (stepped.symm.trans taken) nofun
      | some next =>
          have := decidableStepsMeet next actions
          decidable_of_iff (admitted first action ∧ system.StepsMeet admitted next actions)
            ⟨fun meets => system.stepsMeet_cons stepped meets.1 meets.2,
              fun meets => meets next stepped⟩

theorem stepsMeet_of_forall (always : ∀ state action, admitted state action)
    (first : State) (actions : List Action) :
    system.StepsMeet admitted first actions := by
  induction actions generalizing first with
  | nil => trivial
  | cons action actions ih => exact fun next _ => ⟨always first action, ih next⟩

/-- Two conditions that agree on the transitions a run can take. -/
theorem stepsMeet_congr {other : State → Action → Prop}
    (agree : ∀ state action next, system.step state action = some next →
      (admitted state action ↔ other state action)) (first : State) (actions : List Action) :
    system.StepsMeet admitted first actions ↔ system.StepsMeet other first actions := by
  induction actions generalizing first with
  | nil => exact Iff.rfl
  | cons action actions ih =>
      refine forall_congr' fun next => imp_congr_right fun stepped => ?_
      exact and_congr (agree first action next stepped) (ih next)

/-- What a list of enabled actions leads to is reachable. -/
theorem reachable_of_run {first last : State} (starts : system.starts first)
    (actions : List Action) (ran : system.run first actions = some last) :
    system.Reachable last :=
  ⟨first, starts, system.leadsUnder_of_run actions ran
    (system.stepsMeet_of_forall (fun _ _ => trivial) _ _)⟩

theorem reachableUnder_of_run {first last : State} (starts : system.starts first)
    (actions : List Action) (ran : system.run first actions = some last)
    (meets : system.StepsMeet admitted first actions) :
    system.ReachableUnder admitted last :=
  ⟨first, starts, system.leadsUnder_of_run actions ran meets⟩

/-- What a test finds in the state that a list of enabled actions leads to. -/
theorem exists_reachableUnder_of_run {first : State} (starts : system.starts first)
    (actions : List Action) (test : State → Bool)
    (ran : (system.run first actions).any test = true)
    (meets : system.StepsMeet admitted first actions) :
    ∃ last, system.ReachableUnder admitted last ∧ test last = true := by
  obtain ⟨last, reached, tested⟩ := Option.any_eq_true _ _ |>.mp ran
  exact ⟨last, system.reachableUnder_of_run starts actions reached meets, tested⟩

theorem exists_reachable_of_run {first : State} (starts : system.starts first)
    (actions : List Action) (test : State → Bool)
    (ran : (system.run first actions).any test = true) :
    ∃ last, system.Reachable last ∧ test last = true :=
  system.exists_reachableUnder_of_run starts actions test ran
    (system.stepsMeet_of_forall (fun _ _ => trivial) _ _)

/-- When admitted transitions keep an invariant that implies `holds` and every
other transition from it breaks `holds`, a run keeps `holds` exactly if all
its transitions are admitted. -/
theorem along_iff_stepsMeet (invariant : State → Prop) {holds : State → Prop}
    (sound : ∀ state, invariant state → holds state)
    (preserved : ∀ current action next, invariant current → admitted current action →
      system.step current action = some next → invariant next)
    (necessary : ∀ current action next, invariant current → ¬ admitted current action →
      system.step current action = some next → ¬ holds next)
    {first : State} (atFirst : invariant first) (actions : List Action) :
    system.Along holds first actions ↔ system.StepsMeet admitted first actions := by
  have head_holds : ∀ {state : State} {actions : List Action},
      system.Along holds state actions → holds state := by
    intro state actions along
    cases actions with
    | nil => exact along
    | cons action actions => exact along.1
  induction actions generalizing first with
  | nil => exact ⟨fun _ => trivial, fun _ => sound first atFirst⟩
  | cons action actions ih =>
      constructor
      · intro along next stepped
        have rest := along.2 next stepped
        have admits : admitted first action := by
          by_contra notAdmitted
          exact necessary first action next atFirst notAdmitted stepped (head_holds rest)
        exact ⟨admits, (ih (preserved _ _ _ atFirst admits stepped)).mp rest⟩
      · intro meets
        refine ⟨sound first atFirst, fun next stepped => ?_⟩
        obtain ⟨admits, rest⟩ := meets next stepped
        exact (ih (preserved _ _ _ atFirst admits stepped)).mpr rest

end LabelledSystem

end FitzClient
