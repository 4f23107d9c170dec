import FitzClient.GlobPattern

/-!
# Containment of patterns

For the matcher that stops at the first `many`, one pattern lies within another
if the other matches a single path: the one that is spelled as the first pattern
is, with a name of its own in the place of the wildcards.  Such a path also
tells how the fronts of the two patterns are related, segment by segment.
-/

namespace FitzClient

namespace GlobSegment

variable {α : Type*}

/-- Whether a segment names what it stands for. -/
def isLiteral : GlobSegment α → Bool
  | literal _ => true
  | one | many => false

end GlobSegment

namespace GlobPattern

open GlobSegment

variable {α : Type*}

/-- The number of names in a pattern. -/
def literals (pattern : GlobPattern α) : Nat :=
  pattern.countP isLiteral

variable [DecidableEq α]

/-- The front of a pattern, with `name` in the place of its wildcards. -/
def spell (name : α) (pattern : GlobPattern α) : List α :=
  (front pattern).map (instantiate name)

@[simp]
theorem spell_nil (name : α) : spell name [] = [] := rfl

@[simp]
theorem front_many_cons (pattern : GlobPattern α) : front (many :: pattern) = [] := by
  simp [front]

theorem front_cons {segment : GlobSegment α} (isFixed : segment ≠ many)
    (pattern : GlobPattern α) : front (segment :: pattern) = segment :: front pattern := by
  simp [front, isFixed]

@[simp]
theorem spell_many_cons (name : α) (pattern : GlobPattern α) :
    spell name (many :: pattern) = [] := by
  simp [spell]

theorem spell_cons {segment : GlobSegment α} (isFixed : segment ≠ many) (name : α)
    (pattern : GlobPattern α) :
    spell name (segment :: pattern) = segment.instantiate name :: spell name pattern := by
  simp [spell, front_cons isFixed]

theorem front_of_many_notMem {pattern : GlobPattern α} (without : many ∉ pattern) :
    front pattern = pattern := by
  refine List.takeWhile_eq_self_iff.mpr fun segment member => ?_
  simpa using fun same : segment = many => without (same ▸ member)

/-- A pattern with `many` is longer than its front. -/
theorem front_lt {pattern : GlobPattern α} (wide : many ∈ pattern) :
    (front pattern).length < pattern.length ∧ literals (front pattern) ≤ literals pattern := by
  have start : List.Sublist (front pattern) pattern := List.takeWhile_sublist _
  refine ⟨start.length_le.lt_of_ne fun counted => ?_, start.countP_le⟩
  have whole : front pattern = pattern := start.eq_of_length counted
  exact many_notMem_front pattern (by rwa [whole])

/-- A pattern matches its own spelling, with anything after it if it goes on. -/
theorem frontMatches_spell (name : α) {pattern : GlobPattern α} {rest : List α}
    (room : many ∈ pattern ∨ rest = []) :
    frontMatches pattern (spell name pattern ++ rest) = true := by
  induction pattern with
  | nil =>
      obtain rfl : rest = [] := room.resolve_left List.not_mem_nil
      rfl
  | cons segment pattern ih =>
      by_cases isMany : segment = many
      · subst isMany
        rfl
      · have later : many ∈ pattern ∨ rest = [] := room.imp_left fun member =>
          (List.mem_cons.mp member).resolve_left (Ne.symm isMany)
        rw [spell_cons isMany, List.cons_append, frontMatches_cons_cons isMany, ih later,
          Bool.and_true]
        cases segment <;> simp [admits, instantiate]

/-- A name is admitted by a literal only where it is spelled by the same one. -/
theorem eq_of_literal_spelled {name : α} {broad narrow : GlobSegment α}
    (fresh : literal name ≠ broad) (spelled : broad.admits (narrow.instantiate name) = true)
    (isName : broad.isLiteral = true) : narrow = broad := by
  cases broad with
  | one | many => cases isName
  | literal broadName =>
      have named : broadName = narrow.instantiate name := of_decide_eq_true spelled
      cases narrow with
      | literal narrowName => exact congrArg literal named.symm
      | one | many => exact absurd (congrArg literal named.symm) fresh

/-- A segment that admits what another one spells admits all that the other
one does. -/
theorem admits_of_spelled {name : α} {broad narrow : GlobSegment α} (fresh : literal name ≠ broad)
    (spelled : broad.admits (narrow.instantiate name) = true)
    {found : α} (admitted : narrow.admits found = true) : broad.admits found = true := by
  by_cases isName : broad.isLiteral = true
  · rwa [← eq_of_literal_spelled fresh spelled isName]
  · cases broad with
    | one | many => rfl
    | literal broadName => exact absurd rfl isName

/-- What matches the spelling of a pattern matches all that the pattern does. -/
theorem frontMatches_of_spelled {name : α} {broad narrow : GlobPattern α} {path : List α}
    (fresh : literal name ∉ broad) (spelled : frontMatches broad (spell name narrow) = true)
    (reaches : many ∈ broad ∨ many ∉ narrow) (matched : frontMatches narrow path = true) :
    frontMatches broad path = true := by
  induction narrow generalizing broad path with
  | nil =>
      obtain rfl : path = [] := List.isEmpty_iff.mp matched
      exact spelled
  | cons segment narrow ih =>
      by_cases isMany : segment = many
      · subst isMany
        rw [spell_many_cons] at spelled
        match broad with
        | [] => simp at reaches
        | many :: _ => rfl
      obtain ⟨found, rest, rfl, admitted, matchedRest⟩ :=
        (frontMatches_cons_of_ne_many isMany narrow).mp matched
      rw [spell_cons isMany] at spelled
      match broad with
      | [] => simp [frontMatches] at spelled
      | wide :: broad =>
          by_cases isWide : wide = many
          · subst isWide
            rfl
          rw [frontMatches_cons_cons isWide, Bool.and_eq_true] at spelled ⊢
          simp only [List.mem_cons, not_or, Ne.symm isWide, Ne.symm isMany, false_or]
            at fresh reaches
          exact ⟨admits_of_spelled fresh.1 spelled.1 admitted,
            ih fresh.2 spelled.2 reaches matchedRest⟩

/-- One pattern says no more than another about the paths of the other. -/
structure Wider (broad narrow : GlobPattern α) : Prop where
  length_le : broad.length ≤ narrow.length
  literals_le : literals broad ≤ literals narrow
  eq_of_length : broad.length = narrow.length → literals broad = literals narrow →
    broad = narrow

omit [DecidableEq α] in
theorem Wider.nil (narrow : GlobPattern α) : Wider [] narrow where
  length_le := Nat.zero_le _
  literals_le := Nat.zero_le _
  eq_of_length counted _ := (List.eq_nil_of_length_eq_zero counted.symm).symm

omit [DecidableEq α] in
theorem literals_cons (segment : GlobSegment α) (pattern : GlobPattern α) :
    literals (segment :: pattern) = literals pattern + if segment.isLiteral then 1 else 0 :=
  List.countP_cons

omit [DecidableEq α] in
theorem Wider.cons_same {segment : GlobSegment α} {broad narrow : GlobPattern α}
    (wider : Wider broad narrow) : Wider (segment :: broad) (segment :: narrow) where
  length_le := by simpa using wider.length_le
  literals_le := by
    rw [literals_cons, literals_cons]
    exact Nat.add_le_add_right wider.literals_le _
  eq_of_length counted sums := by
    rw [literals_cons, literals_cons, Nat.add_right_cancel_iff] at sums
    rw [wider.eq_of_length (by simpa using counted) sums]

omit [DecidableEq α] in
theorem Wider.cons_one {segment : GlobSegment α} {broad narrow : GlobPattern α}
    (isFixed : segment ≠ many) (wider : Wider broad narrow) :
    Wider (one :: broad) (segment :: narrow) where
  length_le := by simpa using wider.length_le
  literals_le := by
    rw [literals_cons, literals_cons]
    exact Nat.le_add_right_of_le wider.literals_le
  eq_of_length counted sums := by
    have fewer := wider.literals_le
    rw [literals_cons, literals_cons] at sums
    cases segment with
    | literal name =>
        simp only [isLiteral, Bool.false_eq_true, if_false, if_true] at sums
        omega
    | one => rw [wider.eq_of_length (by simpa using counted) sums]
    | many => exact absurd rfl isFixed

theorem Wider.cons {name : α} {wide segment : GlobSegment α} {broad narrow : GlobPattern α}
    (fresh : literal name ≠ wide) (isWide : wide ≠ many) (isFixed : segment ≠ many)
    (spelled : wide.admits (segment.instantiate name) = true) (wider : Wider broad narrow) :
    Wider (wide :: broad) (segment :: narrow) := by
  cases wide with
  | literal wideName =>
      rw [eq_of_literal_spelled fresh spelled rfl]
      exact wider.cons_same
  | one => exact wider.cons_one isFixed
  | many => exact absurd rfl isWide

/-- The front of what matches the spelling of a pattern. -/
theorem wider_of_spelled {name : α} {broad narrow : GlobPattern α}
    (fresh : literal name ∉ broad) (spelled : frontMatches broad (spell name narrow) = true) :
    Wider (front broad) (front narrow) ∧
      (many ∉ broad → (front broad).length = (front narrow).length) := by
  induction broad generalizing narrow with
  | nil =>
      have empty : front narrow = [] := by simpa [frontMatches, spell] using spelled
      exact ⟨Wider.nil _, fun _ => by rw [empty]; rfl⟩
  | cons wide broad ih =>
      by_cases isWide : wide = many
      · subst isWide
        rw [front_many_cons]
        exact ⟨Wider.nil _, fun without => absurd List.mem_cons_self without⟩
      match narrow with
      | [] => rw [spell_nil, frontMatches_cons_nil isWide] at spelled; cases spelled
      | segment :: narrow =>
          by_cases isMany : segment = many
          · subst isMany
            rw [spell_many_cons, frontMatches_cons_nil isWide] at spelled
            cases spelled
          rw [spell_cons isMany, frontMatches_cons_cons isWide, Bool.and_eq_true] at spelled
          obtain ⟨apart, freshRest⟩ := not_or.mp (mt List.mem_cons.mpr fresh)
          obtain ⟨wider, counted⟩ := ih freshRest spelled.2
          rw [front_cons isWide, front_cons isMany]
          refine ⟨Wider.cons apart isWide isMany spelled.1 wider, fun without => ?_⟩
          rw [List.length_cons, List.length_cons, counted fun member => without (.tail _ member)]

/-- The names of a spelling. -/
theorem mem_spell {name found : α} {pattern : GlobPattern α} (member : found ∈ spell name pattern) :
    found = name ∨ literal found ∈ pattern := by
  obtain ⟨segment, inFront, rfl⟩ := List.mem_map.mp member
  have inPattern : segment ∈ pattern := (List.takeWhile_sublist _).mem inFront
  cases segment with
  | literal literalName => exact Or.inr inPattern
  | one | many => exact Or.inl rfl

/-- A pattern that is spelled without the given name has no wildcards before
its first `many`. -/
theorem spell_eq_of_notMem {name : α} {pattern : GlobPattern α}
    (without : name ∉ spell name pattern) : (spell name pattern).map literal = front pattern := by
  rw [spell] at without ⊢
  generalize front pattern = named at without ⊢
  induction named with
  | nil => rfl
  | cons segment rest ih =>
      rw [List.map_cons, List.mem_cons, not_or] at without
      rw [List.map_cons, List.map_cons, ih without.2]
      cases segment with
      | literal literalName => rfl
      | one | many => exact absurd rfl without.1

end GlobPattern

end FitzClient
