import FitzClient.LabelledSystem
import Mathlib.Tactic.Push

/-!
# Runs that come to an end

Some actions of a system bring it closer to rest: each of them lowers a measure,
in every state that has a property which they preserve.  However they are
ordered, they come to an end, and what is true wherever none of them is enabled
is true there.
-/

namespace FitzClient

namespace LabelledSystem

variable {State Action : Type*} (system : LabelledSystem State Action)

/-- Each settling action that is taken keeps the property and lowers the measure. -/
structure Settles (settling : State → Action → Prop) (holds : State → Prop)
    (measure : State → Nat) : Prop where
  kept : ∀ {current action next}, holds current → settling current action →
    system.step current action = some next → holds next
  lowered : ∀ {current action next}, holds current → settling current action →
    system.step current action = some next → measure next < measure current

/-- No settling action is enabled. -/
def Settled (settling : State → Action → Prop) (state : State) : Prop :=
  ∀ action, settling state action → system.step state action = none

variable {system} {settling : State → Action → Prop} {holds : State → Prop}
  {measure : State → Nat}

/-- A run of settling actions keeps the property and is no longer than the measure. -/
theorem Settles.run (settles : system.Settles settling holds measure) {first last : State}
    {actions : List Action} (atFirst : holds first) (ran : system.run first actions = some last)
    (meets : system.StepsMeet settling first actions) :
    holds last ∧ actions.length + measure last ≤ measure first := by
  induction actions generalizing first with
  | nil =>
      obtain rfl : first = last := by simpa [LabelledSystem.run] using ran
      exact ⟨atFirst, by simp⟩
  | cons action actions ih =>
      obtain ⟨next, stepped, rest⟩ := Option.bind_eq_some_iff.mp ran
      obtain ⟨settles', meetsRest⟩ := meets next stepped
      have lowered := settles.lowered atFirst settles' stepped
      obtain ⟨atLast, bound⟩ := ih (settles.kept atFirst settles' stepped) rest meetsRest
      exact ⟨atLast, by rw [List.length_cons]; omega⟩

/-- Some run of settling actions ends where none of them is enabled. -/
theorem Settles.exists_settled (settles : system.Settles settling holds measure)
    {first : State} (atFirst : holds first) :
    ∃ actions last, system.run first actions = some last ∧
      system.StepsMeet settling first actions ∧ system.Settled settling last := by
  induction remaining : measure first using Nat.strongRecOn generalizing first with
  | ind remaining ih =>
      by_cases settled : system.Settled settling first
      · exact ⟨[], first, rfl, trivial, settled⟩
      · rw [Settled] at settled
        push Not at settled
        obtain ⟨action, isSettling, enabled⟩ := settled
        obtain ⟨next, stepped⟩ := Option.ne_none_iff_exists'.mp enabled
        have lowered := settles.lowered atFirst isSettling stepped
        obtain ⟨actions, last, ran, meets, settled⟩ :=
          ih (measure next) (remaining ▸ lowered)
            (settles.kept atFirst isSettling stepped) rfl
        refine ⟨action :: actions, last, ?_, system.stepsMeet_cons stepped isSettling meets,
          settled⟩
        rw [LabelledSystem.run, stepped]
        exact ran

end LabelledSystem

end FitzClient
