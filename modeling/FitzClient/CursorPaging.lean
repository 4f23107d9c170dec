import Mathlib.Data.List.Basic

/-!
# Pages of an ordered list

A long ordered list is read page by page.  A page has at least one entry as
long as any is left and says whether more follow, and the next request asks
for what lies strictly beyond the key of its last entry.  As the list is
ordered strictly, this is what the page has left over, whatever its size.
-/

namespace FitzClient

namespace CursorPaging

variable {Entry Key : Type*}

/-- A page of the entries that are left: some of them, from the front. -/
def IsPage (left entries : List Entry) (hasMore : Bool) : Prop :=
  ∃ size, 1 ≤ size ∧ entries = left.take size ∧ (hasMore = true ↔ size < left.length)

variable {left entries : List Entry}

/-- The page of a list that has been read. -/
theorem isPage_nil : IsPage ([] : List Entry) [] false :=
  ⟨1, Nat.le_refl 1, rfl, nofun, fun more => (Nat.not_lt_zero _ more).elim⟩

/-- The last page has everything that is left. -/
theorem IsPage.eq_of_last (page : IsPage left entries false) : entries = left := by
  obtain ⟨size, _, rfl, more_iff⟩ := page
  exact List.take_of_length_le (Nat.le_of_not_lt fun more => Bool.false_ne_true (more_iff.mpr more))

/-- A page with more to come has a last entry. -/
theorem IsPage.exists_of_more (page : IsPage left entries true) :
    ∃ front last back, entries = front ++ [last] ∧ left = front ++ last :: back := by
  obtain ⟨size, positive, rfl, more_iff⟩ := page
  have more : size < left.length := more_iff.mp rfl
  have nonempty : left.take size ≠ [] := by
    rw [ne_eq, List.take_eq_nil_iff, not_or]
    exact ⟨by omega, fun empty => by simp [empty] at more⟩
  refine ⟨(left.take size).dropLast, (left.take size).getLast nonempty, left.drop size,
    (List.dropLast_append_getLast nonempty).symm, ?_⟩
  calc
    left = left.take size ++ left.drop size := (List.take_append_drop size left).symm
    _ = ((left.take size).dropLast ++ [(left.take size).getLast nonempty]) ++ left.drop size := by
      rw [List.dropLast_append_getLast nonempty]
    _ = _ := by rw [List.append_assoc, List.singleton_append]

section ordered

variable (key : Entry → Key) (precedes : Key → Key → Prop) [DecidableRel precedes]

/-- Every entry comes before those that follow it. -/
def Ordered (entries : List Entry) : Prop :=
  entries.Pairwise fun first second => precedes (key first) (key second)

/-- The entries beyond a position, in their order. -/
def beyond (position : Key) (entries : List Entry) : List Entry :=
  entries.filter fun entry => precedes position (key entry)

variable {key precedes}

/-- Beyond the last entry of a page is what the page has left over. -/
theorem beyond_last (asymmetric : ∀ first second, precedes first second → ¬ precedes second first)
    {front back : List Entry} {last : Entry}
    (ordered : Ordered key precedes (front ++ last :: back)) :
    beyond key precedes (key last) (front ++ last :: back) = back := by
  obtain ⟨-, fromLast, across⟩ := List.pairwise_append.mp ordered
  have passed : front.filter (fun entry => precedes (key last) (key entry)) = [] := by
    rw [List.filter_eq_nil_iff]
    intro entry member
    simpa using asymmetric _ _ (across entry member last List.mem_cons_self)
  have kept : back.filter (fun entry => precedes (key last) (key entry)) = back := by
    rw [List.filter_eq_self]
    intro entry member
    simpa using List.rel_of_pairwise_cons fromLast member
  have own : ¬ precedes (key last) (key last) := fun self => asymmetric _ _ self self
  rw [beyond, List.filter_append, passed, List.nil_append,
    List.filter_cons_of_neg (by simpa using own), kept]

end ordered

end CursorPaging

end FitzClient
