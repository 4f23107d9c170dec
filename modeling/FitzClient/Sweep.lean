import Mathlib.Data.Set.Basic

/-!
# Sweeps

A sweep takes a list of names and renews or drops what each of them stands for.
Meanwhile other operations may drop names and add fresh ones, but make nothing
stale.  So whatever is stale has yet to be visited, and at the end nothing is.
-/

namespace FitzClient

/-- The names that stand for something stale, and those yet to be visited. -/
structure Sweep (Name : Type*) where
  stale : Set Name
  remaining : List Name

namespace Sweep

variable {Name : Type*} {before middle after sweep : Sweep Name}

/-- Whatever is stale has yet to be visited. -/
def Covered (sweep : Sweep Name) : Prop :=
  ∀ name ∈ sweep.stale, name ∈ sweep.remaining

/-- Nothing becomes stale, and whatever stays stale is not passed over. -/
def Proceeds (before after : Sweep Name) : Prop :=
  ∀ name ∈ after.stale, name ∈ before.stale ∧ (name ∈ before.remaining → name ∈ after.remaining)

theorem Proceeds.covered (proceeds : Proceeds before after) (covered : before.Covered) :
    after.Covered := by
  intro name stale
  obtain ⟨wasStale, keeps⟩ := proceeds name stale
  exact keeps (covered name wasStale)

/-- At the end of a sweep nothing is stale. -/
theorem Covered.fresh (covered : sweep.Covered) (finished : sweep.remaining = []) :
    sweep.stale = ∅ := by
  refine Set.eq_empty_of_forall_notMem fun name stale => ?_
  have member := covered name stale
  rw [finished] at member
  cases member

theorem covered_of_fresh (fresh : sweep.stale = ∅) : sweep.Covered := by
  intro name stale
  rw [fresh] at stale
  exact stale.elim

end Sweep

end FitzClient
