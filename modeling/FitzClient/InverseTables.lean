import Mathlib.Logic.Function.Basic

/-!
# Inverse tables

A program that looks records up in two directions keeps two partial functions
that are inverse to each other.  The rules say which updates of both keep
them so: a new pair, a key that moves to another value, and a removed pair.
A value may only be given to a key if no other key has it.
-/

namespace FitzClient

/-- Two partial functions are inverse to each other. -/
def InverseTables {Key Value : Type*} (forward : Key → Option Value)
    (backward : Value → Option Key) : Prop :=
  ∀ key value, forward key = some value ↔ backward value = some key

namespace InverseTables

variable {Key Value : Type*} {forward : Key → Option Value} {backward : Value → Option Key}
  {key other : Key} {value old : Value}

/-- No two keys have the same value. -/
theorem injective (inverse : InverseTables forward backward) (first : forward key = some value)
    (second : forward other = some value) : other = key := by
  have fromFirst := (inverse key value).mp first
  have fromSecond := (inverse other value).mp second
  rw [fromFirst] at fromSecond
  exact (Option.some.inj fromSecond).symm

variable [DecidableEq Key] [DecidableEq Value]

/-- A pair is removed. -/
theorem remove (inverse : InverseTables forward backward) (found : forward key = some old) :
    InverseTables (Function.update forward key none) (Function.update backward old none) := by
  intro other value
  by_cases sameKey : other = key
  · subst sameKey
    rw [Function.update_self]
    refine ⟨nofun, fun back => ?_⟩
    by_cases sameValue : value = old
    · subst sameValue
      simp at back
    · rw [Function.update_of_ne sameValue, ← inverse, found] at back
      exact (sameValue (Option.some.inj back).symm).elim
  · rw [Function.update_of_ne sameKey]
    by_cases sameValue : value = old
    · subst sameValue
      rw [Function.update_self]
      exact ⟨fun forth => (sameKey (inverse.injective found forth)).elim, nofun⟩
    · rw [Function.update_of_ne sameValue]
      exact inverse other value

/-- A key without a value gets one that no key has. -/
theorem assign (inverse : InverseTables forward backward) (unset : forward key = none)
    (free : ∀ other, forward other ≠ some value) :
    InverseTables (Function.update forward key (some value))
      (Function.update backward value (some key)) := by
  intro other found
  by_cases sameKey : other = key
  · subst sameKey
    rw [Function.update_self]
    by_cases sameValue : found = value
    · simp [sameValue]
    · rw [Function.update_of_ne sameValue, ← inverse, unset]
      simp [Ne.symm sameValue]
  · rw [Function.update_of_ne sameKey]
    by_cases sameValue : found = value
    · subst sameValue
      simp [free other, Ne.symm sameKey]
    · rw [Function.update_of_ne sameValue]
      exact inverse other found

/-- A key moves from one value to another that no other key has. -/
theorem reassign (inverse : InverseTables forward backward) (found : forward key = some old)
    (free : ∀ other, other ≠ key → forward other ≠ some value) :
    InverseTables (Function.update forward key (some value))
      (Function.update (Function.update backward old none) value (some key)) := by
  have removed := inverse.remove found
  have assigned := removed.assign (Function.update_self key none forward) fun other => by
    by_cases sameKey : other = key
    · simp [sameKey]
    · rw [Function.update_of_ne sameKey]
      exact free other sameKey
  rwa [Function.update_idem] at assigned

end InverseTables

end FitzClient
