import Mathlib.Data.Finset.Card
import Mathlib.Data.Finset.Range
import Mathlib.Data.List.Basic
import Mathlib.Data.List.Nodup

/-!
# Lists as stores of numbered cells

Objects that a program allocates and later updates in place are kept in a
list and named by their index: allocation appends a cell and an update is
`List.modify`.  These lemmas say what an update does to a cell and to the
number of cells with a property.
-/

namespace FitzClient

variable {Cell : Type*}

/-- Reading a store after an update. -/
theorem getElem?_modify_eq_some {cells : List Cell} {index other : Nat} {update : Cell → Cell}
    {cell : Cell} :
    (cells.modify index update)[other]? = some cell ↔
      ∃ before, cells[other]? = some before ∧
        cell = if index = other then update before else before := by
  rw [List.getElem?_modify]
  cases cells[other]? with
  | none => simp
  | some before => simp [eq_comm]

/-- The cells of a store after an update. -/
theorem mem_modify {cells : List Cell} {index : Nat} {update : Cell → Cell} {cell : Cell}
    (member : cell ∈ cells.modify index update) :
    cell ∈ cells ∨ ∃ before, cells[index]? = some before ∧ cell = update before := by
  obtain ⟨other, found⟩ := List.mem_iff_getElem?.mp member
  obtain ⟨before, foundBefore, rfl⟩ := getElem?_modify_eq_some.mp found
  by_cases same : index = other
  · subst same
    exact Or.inr ⟨before, foundBefore, if_pos rfl⟩
  · rw [if_neg same]
    exact Or.inl (List.mem_of_getElem? foundBefore)

/-- Reading a store after an allocation. -/
theorem getElem?_concat_eq_some {cells : List Cell} {fresh cell : Cell} {index : Nat} :
    (cells ++ [fresh])[index]? = some cell ↔
      cells[index]? = some cell ∨ index = cells.length ∧ cell = fresh := by
  rcases Nat.lt_trichotomy index cells.length with before | rfl | after
  · rw [List.getElem?_append_left before]
    constructor
    · exact Or.inl
    · rintro (old | ⟨atEnd, -⟩)
      · exact old
      · omega
  · simp [eq_comm]
  · have absent : (cells ++ [fresh])[index]? = none :=
      List.getElem?_eq_none (by simp; omega)
    have absentBefore : cells[index]? = none := List.getElem?_eq_none (by omega)
    simp only [absent, absentBefore, reduceCtorEq, false_or, false_iff, not_and]
    omega

/-- An update moves the updated cell between the counted and the uncounted. -/
theorem countP_modify (counts : Cell → Bool) (update : Cell → Cell) {cells : List Cell}
    {index : Nat} {cell : Cell} (found : cells[index]? = some cell) :
    (cells.modify index update).countP counts + (counts cell).toNat =
      cells.countP counts + (counts (update cell)).toNat := by
  induction cells generalizing index with
  | nil => simp at found
  | cons head tail ih =>
      cases index with
      | zero =>
          obtain rfl : head = cell := by simpa using found
          cases before : counts head <;> cases after : counts (update head) <;>
            simp [before, after]
      | succ index =>
          have tailCount := ih (by simpa using found)
          simp only [List.modify_succ_cons, List.countP_cons]
          omega

/-- Replacing a cell is an update of it. -/
theorem countP_set (counts : Cell → Bool) (fresh : Cell) {cells : List Cell} {index : Nat}
    {cell : Cell} (found : cells[index]? = some cell) :
    (cells.set index fresh).countP counts + (counts cell).toNat =
      cells.countP counts + (counts fresh).toNat := by
  have same : cells.set index fresh = cells.modify index fun _ => fresh := by
    apply List.ext_getElem?
    intro other
    by_cases apart : index = other
    · subst apart
      have bound := (List.getElem?_eq_some_iff.mp found).1
      simp [bound]
    · simp [apart]
  rw [same]
  exact countP_modify counts (fun _ => fresh) found

theorem countP_modify_of_eq {cells : List Cell} {index : Nat} {update : Cell → Cell}
    (counts : Cell → Bool)
    (same : ∀ cell, cells[index]? = some cell → counts (update cell) = counts cell) :
    (cells.modify index update).countP counts = cells.countP counts := by
  cases found : cells[index]? with
  | none =>
      have outside : cells.length ≤ index := List.getElem?_eq_none_iff.mp found
      rw [List.modify_eq_self outside]
  | some cell =>
      have counted := countP_modify counts update found
      rw [same cell found] at counted
      omega

/-- A map that keeps the counted property of every cell keeps the count. -/
theorem countP_mapIdx_of_eq (counts : Cell → Bool) {update : Nat → Cell → Cell}
    (cells : List Cell) (same : ∀ index cell, counts (update index cell) = counts cell) :
    (cells.mapIdx update).countP counts = cells.countP counts := by
  induction cells generalizing update with
  | nil => rfl
  | cons head tail ih =>
      rw [List.mapIdx_cons, List.countP_cons, List.countP_cons, same,
        ih fun index cell => same (index + 1) cell]

/-- The indices of the counted cells. -/
def countedIndices (counts : Cell → Bool) (cells : List Cell) : Finset Nat :=
  (Finset.range cells.length).filter fun index => cells[index]?.map counts = some true

theorem mem_countedIndices {counts : Cell → Bool} {cells : List Cell} {index : Nat} :
    index ∈ countedIndices counts cells ↔
      ∃ cell, cells[index]? = some cell ∧ counts cell = true := by
  simp only [countedIndices, Finset.mem_filter, Finset.mem_range, Option.map_eq_some_iff]
  constructor
  · exact And.right
  · rintro ⟨cell, found, counted⟩
    exact ⟨(List.getElem?_eq_some_iff.mp found).1, cell, found, counted⟩

theorem card_countedIndices (counts : Cell → Bool) (cells : List Cell) :
    (countedIndices counts cells).card = cells.countP counts := by
  induction cells using List.reverseRecOn with
  | nil => rfl
  | append_singleton cells last ih =>
      have unchanged : (countedIndices counts (cells ++ [last])).erase cells.length =
          countedIndices counts cells := by
        ext index
        rw [Finset.mem_erase, mem_countedIndices, mem_countedIndices]
        constructor
        · rintro ⟨inside, cell, found, counted⟩
          rcases getElem?_concat_eq_some.mp found with old | ⟨atEnd, -⟩
          · exact ⟨cell, old, counted⟩
          · exact (inside atEnd).elim
        · rintro ⟨cell, found, counted⟩
          refine ⟨?_, cell, getElem?_concat_eq_some.mpr (Or.inl found), counted⟩
          exact Nat.ne_of_lt (List.getElem?_eq_some_iff.mp found).1
      have atEnd : cells.length ∈ countedIndices counts (cells ++ [last]) ↔
          counts last = true := by
        rw [mem_countedIndices]
        simp
      rw [List.countP_append, ← ih, ← unchanged]
      cases counted : counts last with
      | true =>
          rw [Finset.card_erase_of_mem (atEnd.mpr counted)]
          have positive := Finset.card_pos.mpr ⟨_, atEnd.mpr counted⟩
          simp only [List.countP_cons, List.countP_nil, counted, if_true]
          omega
      | false =>
          rw [Finset.erase_eq_of_notMem]
          · simp [counted]
          · rw [atEnd, counted]
            simp

/-- Counted cells that occupy different counted slots are no more than these. -/
theorem countP_le_countP_of_places {Slot : Type*} {cells : List Cell} {slots : List Slot}
    (counts : Cell → Bool) (occupied : Slot → Bool) (place : Nat → Nat)
    (placed : ∀ (index : Nat) (cell : Cell), cells[index]? = some cell → counts cell = true →
      ∃ slot, slots[place index]? = some slot ∧ occupied slot = true)
    (apart : ∀ (first second : Nat) (firstCell secondCell : Cell),
      cells[first]? = some firstCell → counts firstCell = true →
      cells[second]? = some secondCell → counts secondCell = true →
      place first = place second → first = second) :
    cells.countP counts ≤ slots.countP occupied := by
  rw [← card_countedIndices, ← card_countedIndices]
  refine Finset.card_le_card_of_injOn place ?_ ?_
  · intro index member
    obtain ⟨cell, found, counted⟩ := mem_countedIndices.mp member
    exact mem_countedIndices.mpr (placed index cell found counted)
  · intro first firstMember second secondMember same
    obtain ⟨firstCell, foundFirst, countedFirst⟩ := mem_countedIndices.mp firstMember
    obtain ⟨secondCell, foundSecond, countedSecond⟩ := mem_countedIndices.mp secondMember
    exact apart first second firstCell secondCell foundFirst countedFirst foundSecond
      countedSecond same

variable {later cells : List Cell} {origin : Cell → Cell → Prop}

theorem exists_of_forall₂_right (corresponds : List.Forall₂ origin cells later) {index : Nat}
    {after : Cell} (found : later[index]? = some after) :
    ∃ before, cells[index]? = some before ∧ origin before after := by
  induction corresponds generalizing index with
  | nil => simp at found
  | @cons oldHead newHead _ _ related _ ih =>
      cases index with
      | zero =>
          obtain rfl : newHead = after := by simpa using found
          exact ⟨oldHead, rfl, related⟩
      | succ index => exact ih (by simpa using found)

theorem exists_of_forall₂_left (corresponds : List.Forall₂ origin cells later) {index : Nat}
    {before : Cell} (found : cells[index]? = some before) :
    ∃ after, later[index]? = some after ∧ origin before after := by
  induction corresponds generalizing index with
  | nil => simp at found
  | @cons oldHead newHead _ _ related _ ih =>
      cases index with
      | zero =>
          obtain rfl : oldHead = before := by simpa using found
          exact ⟨newHead, rfl, related⟩
      | succ index => exact ih (by simpa using found)

/-- Replacing one cell by a related one. -/
theorem forall₂_set (reflexive : ∀ cell, origin cell cell) {index : Nat}
    {before after : Cell} (found : cells[index]? = some before)
    (related : origin before after) : List.Forall₂ origin cells (cells.set index after) := by
  induction cells generalizing index with
  | nil => simp at found
  | cons head tail ih =>
      cases index with
      | zero =>
          obtain rfl : head = before := by simpa using found
          exact List.Forall₂.cons related (List.forall₂_same.mpr fun cell _ => reflexive cell)
      | succ index =>
          exact List.Forall₂.cons (reflexive head) (ih (by simpa using found))

theorem forall₂_modify (reflexive : ∀ cell, origin cell cell) {update : Cell → Cell}
    (related : ∀ cell, origin cell (update cell)) (cells : List Cell) (index : Nat) :
    List.Forall₂ origin cells (cells.modify index update) := by
  induction cells generalizing index with
  | nil => simp
  | cons head tail ih =>
      cases index with
      | zero =>
          rw [List.modify_zero_cons]
          exact List.Forall₂.cons (related head)
            (List.forall₂_same.mpr fun cell _ => reflexive cell)
      | succ index =>
          rw [List.modify_succ_cons]
          exact List.Forall₂.cons (reflexive head) (ih index)

theorem forall₂_mapIdx {update : Nat → Cell → Cell}
    (related : ∀ index cell, origin cell (update index cell)) (cells : List Cell) :
    List.Forall₂ origin cells (cells.mapIdx update) := by
  induction cells generalizing update with
  | nil => exact List.Forall₂.nil
  | cons head tail ih =>
      rw [List.mapIdx_cons]
      exact List.Forall₂.cons (related 0 head) (ih fun index cell => related (index + 1) cell)

/-- No two cells of the store are alike. -/
def PairwiseUnlike (cells : List Cell) (alike : Cell → Cell → Prop) : Prop :=
  ∀ (first second : Nat) (firstCell secondCell : Cell), cells[first]? = some firstCell →
    cells[second]? = some secondCell → alike firstCell secondCell → first = second

variable {alike : Cell → Cell → Prop}

/-- Cells stay unlike when alike cells come from alike cells. -/
theorem PairwiseUnlike.of_forall₂ (unlike : PairwiseUnlike cells alike)
    (corresponds : List.Forall₂ origin cells later)
    (reflects : ∀ {first second firstAfter secondAfter}, origin first firstAfter →
      origin second secondAfter → alike firstAfter secondAfter → alike first second) :
    PairwiseUnlike later alike := by
  intro first second firstAfter secondAfter firstFound secondFound areAlike
  obtain ⟨firstBefore, firstOld, firstOrigin⟩ :=
    exists_of_forall₂_right corresponds firstFound
  obtain ⟨secondBefore, secondOld, secondOrigin⟩ :=
    exists_of_forall₂_right corresponds secondFound
  exact unlike first second firstBefore secondBefore firstOld secondOld
    (reflects firstOrigin secondOrigin areAlike)

theorem PairwiseUnlike.concat {fresh : Cell} (unlike : PairwiseUnlike cells alike)
    (apart : ∀ (index : Nat) (cell : Cell), cells[index]? = some cell →
      ¬ alike cell fresh ∧ ¬ alike fresh cell) :
    PairwiseUnlike (cells ++ [fresh]) alike := by
  intro first second firstCell secondCell firstFound secondFound areAlike
  rcases getElem?_concat_eq_some.mp firstFound with firstOld | ⟨rfl, rfl⟩ <;>
    rcases getElem?_concat_eq_some.mp secondFound with secondOld | ⟨rfl, rfl⟩
  · exact unlike first second firstCell secondCell firstOld secondOld areAlike
  · exact ((apart first firstCell firstOld).1 areAlike).elim
  · exact ((apart second secondCell secondOld).2 areAlike).elim
  · rfl

end FitzClient
