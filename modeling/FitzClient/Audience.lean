import Mathlib.Data.Set.Basic

/-!
# Audiences

Members attend keys, some of them listen, and every member has a key of its own.
A key that is parting is about to be removed, and until then nobody who listens
may attend it.  An operation either thins the audience, when whoever still
listens attends what it attended before, or it lets somebody join.  Under both,
whoever listens attends its own key, so that to end whoever attends a key is to
end all who listen.
-/

namespace FitzClient

/-- Who listens, who attends a key, and the keys that are about to go. -/
structure Audience (Key Member : Type*) where
  listening : Set Member
  attending : Key → Set Member
  parting : Set Key

namespace Audience

variable {Key Member : Type*} {audience before middle after : Audience Key Member} {key : Key}
  {own : Member → Key}

/-- Nobody who listens attends this key. -/
def Deserted (audience : Audience Key Member) (key : Key) : Prop :=
  ∀ member ∈ audience.listening, member ∉ audience.attending key

/-- Whoever listens attends its own key, and no key that is parting. -/
structure Settled (own : Member → Key) (audience : Audience Key Member) : Prop where
  attends : ∀ member ∈ audience.listening, member ∈ audience.attending (own member)
  deserted : ∀ key ∈ audience.parting, audience.Deserted key

/-- Nobody starts to listen, and whoever goes on listening attends the same
keys. -/
structure Thins (before after : Audience Key Member) : Prop where
  listening : after.listening ⊆ before.listening
  attending : ∀ member ∈ after.listening, ∀ key,
    member ∈ after.attending key ↔ member ∈ before.attending key
  parting : ∀ key ∈ after.parting, key ∈ before.parting ∨ after.Deserted key

/-- Whoever listens attends what it attended before, or joins its own key
now. -/
structure Joins (own : Member → Key) (before after : Audience Key Member) : Prop where
  attends : ∀ member ∈ after.listening,
    member ∈ after.attending (own member) ∨ member ∈ before.listening ∧
      ∀ key, member ∈ before.attending key → member ∈ after.attending key
  parting : after.parting = ∅

namespace Thins

theorem refl (audience : Audience Key Member) : Thins audience audience :=
  ⟨Set.Subset.rfl, fun _ _ _ => Iff.rfl, fun _ => Or.inl⟩

theorem deserted (thins : Thins before after) (deserted : before.Deserted key) :
    after.Deserted key := by
  intro member listens attends
  have attended := (thins.attending member listens key).mp attends
  exact deserted member (thins.listening listens) attended

theorem trans (first : Thins before middle) (second : Thins middle after) :
    Thins before after where
  listening := second.listening.trans first.listening
  attending member listens key :=
    (second.attending member listens key).trans
      (first.attending member (second.listening listens) key)
  parting key parts := by
    rcases second.parting key parts with parted | deserted
    · exact (first.parting key parted).imp_right second.deserted
    · exact Or.inr deserted

theorem settled (thins : Thins before after) (settled : before.Settled own) :
    after.Settled own where
  attends member listens := by
    have attended := settled.attends member (thins.listening listens)
    exact (thins.attending member listens _).mpr attended
  deserted key parts := by
    rcases thins.parting key parts with parted | deserted
    · exact thins.deserted (settled.deserted key parted)
    · exact deserted

end Thins

namespace Joins

theorem settled (joins : Joins own before after) (settled : before.Settled own) :
    after.Settled own where
  attends member listens := by
    rcases joins.attends member listens with attends | ⟨listened, keeps⟩
    · exact attends
    · exact keeps _ (settled.attends member listened)
  deserted key parts := by
    rw [joins.parting] at parts
    exact parts.elim

theorem after_thins (joins : Joins own middle after) (thins : Thins before middle) :
    Joins own before after where
  attends member listens := by
    refine (joins.attends member listens).imp_right ?_
    rintro ⟨listened, keeps⟩
    exact ⟨thins.listening listened, fun key attended =>
      keeps key ((thins.attending member listened key).mpr attended)⟩
  parting := joins.parting

theorem thin (joins : Joins own before middle) (thins : Thins middle after)
    (parting : after.parting = ∅) : Joins own before after where
  attends member listens := by
    have keeps := thins.attending member listens
    refine (joins.attends member (thins.listening listens)).imp ?_ ?_
    · exact (keeps _).mpr
    · rintro ⟨listened, kept⟩
      exact ⟨listened, fun key attended => (keeps key).mpr (kept key attended)⟩
  parting := parting

end Joins

end Audience

end FitzClient
