import Mathlib.Data.List.TakeWhile
import Mathlib.Tactic.ByContra

/-!
# Glob patterns over paths

A pattern is a list of segments.  A literal stands for one segment of a path,
`one` for any segment and `many` for any number of them, none included.

A matcher that walks along pattern and path and answers as soon as it comes to
`many` takes no notice of what the pattern says after it.  It is right about a
pattern if nothing but `many` follows the first `many`, and in one more case:
the pattern begins with `many` and asks for one segment of any name after it,
which every path that is not empty has.  About every other pattern it is wrong
on some path.
-/

namespace FitzClient

/-- A segment of a pattern. -/
inductive GlobSegment (α : Type*)
  | literal (name : α)
  | one
  | many
  deriving DecidableEq

namespace GlobSegment

variable {α : Type*}

/-- The stretches of a path that a segment of a pattern stands for. -/
def Covers : GlobSegment α → List α → Prop
  | literal name, covered => covered = [name]
  | one, covered => ∃ name, covered = [name]
  | many, _ => True

/-- A single segment of a path that a segment of a pattern may stand for. -/
def admits [DecidableEq α] : GlobSegment α → α → Bool
  | literal literalName, name => literalName = name
  | one, _ | many, _ => true

/-- A path segment that a segment of a pattern stands for: its own name, or a
name that is given. -/
def instantiate (name : α) : GlobSegment α → α
  | literal literalName => literalName
  | one | many => name

/-- A fixed segment stands for one segment of a path. -/
theorem covers_iff_of_ne_many [DecidableEq α] {segment : GlobSegment α}
    (fixed : segment ≠ many) {covered : List α} :
    segment.Covers covered ↔ ∃ name, covered = [name] ∧ segment.admits name = true := by
  cases segment with
  | literal literalName => simp [Covers, admits]
  | one => simp [Covers, admits]
  | many => exact absurd rfl fixed

end GlobSegment

/-- A pattern is the list of its segments. -/
abbrev GlobPattern (α : Type*) := List (GlobSegment α)

namespace GlobPattern

open GlobSegment

variable {α : Type*}

/-- The meaning of a pattern: the path falls into stretches that its segments
stand for. -/
def Matches : GlobPattern α → List α → Prop
  | [], path => path = []
  | segment :: pattern, path =>
      ∃ covered rest, path = covered ++ rest ∧ segment.Covers covered ∧ Matches pattern rest

/-- The segments that stand for exactly one segment of a path. -/
def fixed [DecidableEq α] (pattern : GlobPattern α) : GlobPattern α :=
  pattern.filter (· ≠ many)

/-- What stands before the first `many`. -/
def front [DecidableEq α] (pattern : GlobPattern α) : GlobPattern α :=
  pattern.takeWhile (· ≠ many)

/-- What stands from the first `many` on. -/
def back [DecidableEq α] (pattern : GlobPattern α) : GlobPattern α :=
  pattern.dropWhile (· ≠ many)

/-- The answer of a matcher that stops at the first `many`. -/
def frontMatches [DecidableEq α] : GlobPattern α → List α → Bool
  | [], path => path.isEmpty
  | many :: _, _ => true
  | _ :: _, [] => false
  | segment :: pattern, name :: path => segment.admits name && frontMatches pattern path

theorem matches_many_cons {pattern : GlobPattern α} {path : List α} :
    Matches (many :: pattern) path ↔ ∃ rest, rest <:+ path ∧ Matches pattern rest := by
  constructor
  · rintro ⟨covered, rest, rfl, -, matched⟩
    exact ⟨rest, List.suffix_append covered rest, matched⟩
  · rintro ⟨rest, ⟨covered, rfl⟩, matched⟩
    exact ⟨covered, rest, rfl, trivial, matched⟩

theorem matches_nil_of_all_many {pattern : GlobPattern α}
    (all : ∀ segment ∈ pattern, segment = many) : Matches pattern [] := by
  induction pattern with
  | nil => rfl
  | cons segment pattern ih =>
      obtain rfl := all segment List.mem_cons_self
      exact matches_many_cons.mpr
        ⟨[], List.suffix_refl [], ih fun other member => all other (.tail _ member)⟩

/-- A pattern means the same with an end that means the same. -/
theorem matches_append_congr {first second : GlobPattern α}
    (same : ∀ path, Matches first path ↔ Matches second path) (before : GlobPattern α)
    {path : List α} : Matches (before ++ first) path ↔ Matches (before ++ second) path := by
  induction before generalizing path with
  | nil => exact same path
  | cons segment before ih => simp only [List.cons_append, Matches, ih]

theorem matches_append {first second : GlobPattern α} {front back : List α}
    (matchedFirst : Matches first front) (matchedSecond : Matches second back) :
    Matches (first ++ second) (front ++ back) := by
  induction first generalizing front with
  | nil =>
      obtain rfl : front = [] := matchedFirst
      exact matchedSecond
  | cons segment first ih =>
      obtain ⟨covered, rest, rfl, covers, matched⟩ := matchedFirst
      exact ⟨covered, rest ++ back, List.append_assoc _ _ _, covers, ih matched⟩

/-- A literal of the pattern occurs in the path. -/
theorem Matches.mem_of_literal {pattern : GlobPattern α} {path : List α} {name : α}
    (matched : Matches pattern path) (member : literal name ∈ pattern) : name ∈ path := by
  induction pattern generalizing path with
  | nil => cases member
  | cons segment pattern ih =>
      obtain ⟨covered, rest, rfl, covers, matched⟩ := matched
      rw [List.mem_append]
      cases member with
      | head =>
          obtain rfl : covered = [name] := covers
          exact Or.inl List.mem_cons_self
      | tail _ later => exact Or.inr (ih matched later)

variable [DecidableEq α]

theorem front_append_back (pattern : GlobPattern α) : front pattern ++ back pattern = pattern :=
  List.takeWhile_append_dropWhile

theorem many_notMem_front (pattern : GlobPattern α) : many ∉ front pattern := fun member => by
  simpa using List.mem_takeWhile_imp member

/-- The pattern after its front is empty or begins with `many`. -/
theorem back_eq (pattern : GlobPattern α) :
    back pattern = [] ∨ ∃ rest, back pattern = many :: rest := by
  induction pattern with
  | nil => exact Or.inl rfl
  | cons segment pattern ih =>
      by_cases isMany : segment = many
      · exact Or.inr ⟨pattern, by simp [back, isMany]⟩
      · rwa [back, List.dropWhile_cons_of_pos (by simpa using isMany)]

theorem fixed_of_many_notMem {pattern : GlobPattern α} (without : many ∉ pattern) :
    fixed pattern = pattern := by
  rw [fixed, List.filter_eq_self]
  intro segment member
  simpa using fun same : segment = many => without (same ▸ member)

theorem fixed_eq_append (pattern : GlobPattern α) :
    fixed pattern = front pattern ++ fixed (back pattern) := by
  have halves : fixed pattern = fixed (front pattern) ++ fixed (back pattern) := by
    rw [fixed, fixed, fixed, ← List.filter_append, front_append_back]
  rw [halves, fixed_of_many_notMem (many_notMem_front pattern)]

/-- A path has a segment for each fixed one of the pattern. -/
theorem Matches.length_fixed_le {pattern : GlobPattern α} {path : List α}
    (matched : Matches pattern path) : (fixed pattern).length ≤ path.length := by
  induction pattern generalizing path with
  | nil => exact Nat.zero_le _
  | cons segment pattern ih =>
      obtain ⟨covered, rest, rfl, covers, matched⟩ := matched
      have later := ih matched
      cases segment with
      | literal name =>
          obtain rfl : covered = [name] := covers
          simpa [fixed] using later
      | one =>
          obtain ⟨name, rfl⟩ := covers
          simpa [fixed] using later
      | many =>
          rw [List.length_append]
          simpa [fixed] using Nat.le_add_left_of_le later

theorem frontMatches_cons_cons {segment : GlobSegment α} (isFixed : segment ≠ many)
    (pattern : GlobPattern α) (name : α) (path : List α) :
    frontMatches (segment :: pattern) (name :: path) =
      (segment.admits name && frontMatches pattern path) := by
  cases segment with
  | literal literalName => rfl
  | one => rfl
  | many => exact absurd rfl isFixed

theorem frontMatches_cons_nil {segment : GlobSegment α} (isFixed : segment ≠ many)
    (pattern : GlobPattern α) : frontMatches (segment :: pattern) [] = false := by
  cases segment with
  | literal literalName => rfl
  | one => rfl
  | many => exact absurd rfl isFixed

theorem frontMatches_cons_of_ne_many {segment : GlobSegment α} (isFixed : segment ≠ many)
    (pattern : GlobPattern α) {path : List α} :
    frontMatches (segment :: pattern) path = true ↔
      ∃ name rest, path = name :: rest ∧ segment.admits name = true ∧
        frontMatches pattern rest = true := by
  cases path with
  | nil => simp [frontMatches_cons_nil isFixed]
  | cons name path =>
      rw [frontMatches_cons_cons isFixed, Bool.and_eq_true]
      constructor
      · rintro ⟨admitted, matched⟩
        exact ⟨name, path, rfl, admitted, matched⟩
      · rintro ⟨_, _, whole, admitted, matched⟩
        obtain ⟨rfl, rfl⟩ := List.cons.inj whole
        exact ⟨admitted, matched⟩

theorem matches_cons_of_ne_many {segment : GlobSegment α} (isFixed : segment ≠ many)
    {pattern : GlobPattern α} {path : List α} :
    Matches (segment :: pattern) path ↔
      ∃ name rest, path = name :: rest ∧ segment.admits name = true ∧ Matches pattern rest := by
  constructor
  · rintro ⟨covered, rest, rfl, covers, matched⟩
    obtain ⟨name, rfl, admitted⟩ := (covers_iff_of_ne_many isFixed).mp covers
    exact ⟨name, rest, rfl, admitted, matched⟩
  · rintro ⟨name, rest, rfl, admitted, matched⟩
    exact ⟨[name], rest, rfl, (covers_iff_of_ne_many isFixed).mpr ⟨name, rfl, admitted⟩, matched⟩

/-- Without `many` the matcher is right. -/
theorem frontMatches_iff_of_many_notMem {pattern : GlobPattern α} (without : many ∉ pattern)
    {path : List α} : frontMatches pattern path = true ↔ Matches pattern path := by
  induction pattern generalizing path with
  | nil => exact List.isEmpty_iff
  | cons segment pattern ih =>
      have isFixed : segment ≠ many := fun same => without (same ▸ List.mem_cons_self)
      have later : many ∉ pattern := fun member => without (.tail _ member)
      simp only [frontMatches_cons_of_ne_many isFixed, matches_cons_of_ne_many isFixed, ih later]

/-- With `many` it asks for a path that starts as the pattern does. -/
theorem frontMatches_append_many {before : GlobPattern α} (rest : GlobPattern α)
    (without : many ∉ before) {path : List α} :
    frontMatches (before ++ many :: rest) path = true ↔
      Matches (before ++ [many]) path := by
  induction before generalizing path with
  | nil => exact ⟨fun _ => ⟨path, [], by simp [Covers, Matches]⟩, fun _ => rfl⟩
  | cons segment before ih =>
      have isFixed : segment ≠ many := fun same => without (same ▸ List.mem_cons_self)
      have later : many ∉ before := fun member => without (.tail _ member)
      simp only [List.cons_append, frontMatches_cons_of_ne_many isFixed,
        matches_cons_of_ne_many isFixed, ih later]

/-- The matcher overlooks nothing when it stops, or only that the path must not
be empty. -/
def StopsRight (pattern : GlobPattern α) : Prop :=
  fixed (back pattern) = [] ∨ front pattern = [] ∧ fixed (back pattern) = [one]

instance (pattern : GlobPattern α) : Decidable (StopsRight pattern) :=
  inferInstanceAs (Decidable (_ ∨ _))

theorem all_many_of_fixed_eq_nil {pattern : GlobPattern α} (free : fixed pattern = []) :
    ∀ segment ∈ pattern, segment = many := by
  intro segment member
  simpa using List.filter_eq_nil_iff.mp free segment member

theorem matches_singleton_of_fixed_eq {pattern : GlobPattern α} (asks : fixed pattern = [one])
    (name : α) : Matches pattern [name] := by
  induction pattern with
  | nil => cases asks
  | cons segment pattern ih =>
      cases segment with
      | literal literalName => simp [fixed] at asks
      | many => exact ⟨[], [name], rfl, trivial, ih (by simpa [fixed] using asks)⟩
      | one =>
          have free : fixed pattern = [] := by
            rw [fixed, List.filter_cons_of_pos (by simp)] at asks
            exact (List.cons.inj asks).2
          exact ⟨[name], [], rfl, ⟨name, rfl⟩,
            matches_nil_of_all_many (all_many_of_fixed_eq_nil free)⟩

theorem frontMatches_iff_of_stopsRight {pattern : GlobPattern α} (stops : StopsRight pattern)
    {path : List α} (nonempty : path ≠ []) :
    frontMatches pattern path = true ↔ Matches pattern path := by
  rw [← front_append_back pattern]
  rcases back_eq pattern with backEmpty | ⟨rest, stopped⟩
  case inl =>
    rw [backEmpty, List.append_nil]
    exact frontMatches_iff_of_many_notMem (many_notMem_front pattern)
  rw [stopped, frontMatches_append_many rest (many_notMem_front pattern)]
  rw [StopsRight, stopped] at stops
  have skips : fixed (many :: rest) = fixed rest := List.filter_cons_of_neg (by simp)
  rw [skips] at stops
  rcases stops with free | ⟨frontEmpty, asks⟩
  · -- what follows the first `many` is covered by nothing
    refine matches_append_congr (fun tail => ?_) (front pattern)
    simp only [matches_many_cons]
    constructor
    · intro _
      exact ⟨[], List.nil_suffix, matches_nil_of_all_many (all_many_of_fixed_eq_nil free)⟩
    · intro _
      exact ⟨[], List.nil_suffix, rfl⟩
  · -- the last segment of the path is the one that is asked for
    rw [frontEmpty, List.nil_append, List.nil_append, matches_many_cons, matches_many_cons]
    constructor
    · intro _
      exact ⟨[path.getLast nonempty],
        ⟨path.dropLast, List.dropLast_concat_getLast nonempty⟩,
        matches_singleton_of_fixed_eq asks _⟩
    · intro _
      exact ⟨[], List.nil_suffix, rfl⟩

/-- A path whose names are taken from the pattern. -/
theorem matches_map_instantiate {pattern : GlobPattern α} (without : many ∉ pattern) (name : α) :
    Matches pattern (pattern.map (instantiate name)) := by
  induction pattern with
  | nil => rfl
  | cons segment pattern ih =>
      have isFixed : segment ≠ many := fun same => without (same ▸ List.mem_cons_self)
      have later : many ∉ pattern := fun member => without (.tail _ member)
      refine (matches_cons_of_ne_many isFixed).mpr ⟨_, _, rfl, ?_, ih later⟩
      cases segment <;> simp [admits, instantiate]

/-- A matcher that is right about all paths of concrete names stops right. -/
theorem stopsRight_of_sound {pattern : GlobPattern α} {concrete : α → Prop} {name : α}
    (isConcrete : concrete name)
    (literals : ∀ name, literal name ∈ pattern → concrete name)
    (another : ∀ name, ∃ other, concrete other ∧ other ≠ name)
    (sound : ∀ path, path ≠ [] → (∀ name ∈ path, concrete name) →
      frontMatches pattern path = true → Matches pattern path) : StopsRight pattern := by
  rcases back_eq pattern with backEmpty | ⟨rest, stopped⟩
  case inl => exact Or.inl (by rw [backEmpty]; rfl)
  have parts : front pattern ++ many :: rest = pattern := by
    rw [← stopped]
    exact front_append_back pattern
  have answers (path : List α) (starts : Matches (front pattern ++ [many]) path) :
      frontMatches pattern path = true := by
    rw [← parts]
    exact (frontMatches_append_many rest (many_notMem_front pattern)).mpr starts
  have counted : fixed pattern = front pattern ++ fixed (back pattern) := fixed_eq_append pattern
  by_cases frontEmpty : front pattern = []
  case neg =>
    -- the names of the front alone leave nothing for a fixed segment after it
    left
    have names : Matches (front pattern) ((front pattern).map (instantiate name)) :=
      matches_map_instantiate (many_notMem_front pattern) name
    have starts : Matches (front pattern ++ [many]) ((front pattern).map (instantiate name)) := by
      rw [← List.append_nil ((front pattern).map (instantiate name))]
      exact matches_append names (matches_many_cons.mpr ⟨[], List.nil_suffix, rfl⟩)
    have concretes : ∀ found ∈ (front pattern).map (instantiate name), concrete found := by
      intro found member
      obtain ⟨segment, inFront, rfl⟩ := List.mem_map.mp member
      cases segment with
      | literal literalName =>
          refine literals literalName ?_
          rw [← parts]
          exact List.mem_append_left _ inFront
      | one | many => exact isConcrete
    have matched := sound _ (by simpa using frontEmpty) concretes (answers _ starts)
    have enough := matched.length_fixed_le
    rw [counted, List.length_append, List.length_map] at enough
    exact List.eq_nil_of_length_eq_zero (by omega)
  case pos =>
    -- a path of a single name shows what else is asked for
    have single (found : α) (isConcrete : concrete found) : Matches pattern [found] := by
      refine sound [found] (List.cons_ne_nil _ _) (fun other member => ?_) (answers [found] ?_)
      · rwa [List.mem_singleton.mp member]
      · rw [frontEmpty]
        exact matches_many_cons.mpr ⟨[], List.nil_suffix, rfl⟩
    have enough := (single name isConcrete).length_fixed_le
    rw [counted, frontEmpty, List.nil_append, List.length_singleton] at enough
    match asked : fixed (back pattern) with
    | [] => exact Or.inl asked
    | [.one] => exact Or.inr ⟨frontEmpty, asked⟩
    | [.many] =>
        have member : many ∈ fixed (back pattern) := asked ▸ List.mem_singleton_self many
        simp [fixed] at member
    | [.literal literalName] =>
        obtain ⟨other, otherConcrete, different⟩ := another literalName
        have member : literal literalName ∈ pattern := by
          have inFixed : literal literalName ∈ fixed pattern := by
            rw [counted, asked]
            exact List.mem_append_right _ (List.mem_singleton_self _)
          exact (List.mem_filter.mp inFixed).1
        have named := (single other otherConcrete).mem_of_literal member
        exact absurd (List.mem_singleton.mp named).symm different
    | _ :: _ :: _ =>
        rw [asked] at enough
        simp at enough

/-- A path that matches: every wildcard stands for `name`, and the first `many`
for `count` of them. -/
def expand (name : α) (count : Nat) : GlobPattern α → List α
  | [] => []
  | many :: pattern => List.replicate count name ++ expand name 0 pattern
  | segment :: pattern => segment.instantiate name :: expand name count pattern

omit [DecidableEq α] in
theorem matches_expand (name : α) (count : Nat) (pattern : GlobPattern α) :
    Matches pattern (expand name count pattern) := by
  induction pattern generalizing count with
  | nil => rfl
  | cons segment pattern ih =>
      cases segment with
      | literal literalName => exact ⟨[literalName], _, rfl, rfl, ih count⟩
      | one => exact ⟨[name], _, rfl, ⟨name, rfl⟩, ih count⟩
      | many => exact ⟨List.replicate count name, _, rfl, trivial, ih 0⟩

omit [DecidableEq α] in
/-- Its names are the given one and the literals of the pattern. -/
theorem mem_expand {name found : α} {count : Nat} {pattern : GlobPattern α}
    (member : found ∈ expand name count pattern) : found = name ∨ literal found ∈ pattern := by
  induction pattern generalizing count with
  | nil => cases member
  | cons segment pattern ih =>
      cases segment with
      | literal literalName =>
          rcases List.mem_cons.mp member with rfl | later
          · exact Or.inr List.mem_cons_self
          · exact (ih later).imp_right (.tail _)
      | one =>
          rcases List.mem_cons.mp member with rfl | later
          · exact Or.inl rfl
          · exact (ih later).imp_right (.tail _)
      | many =>
          rcases List.mem_append.mp member with repeated | later
          · exact Or.inl (List.eq_of_mem_replicate repeated)
          · exact (ih later).imp_right (.tail _)

theorem length_expand (name : α) (count : Nat) (pattern : GlobPattern α) :
    (expand name count pattern).length =
      (fixed pattern).length + if many ∈ pattern then count else 0 := by
  induction pattern generalizing count with
  | nil => simp [expand, fixed]
  | cons segment pattern ih =>
      cases segment with
      | literal literalName =>
          have counted := ih count
          simp only [expand, List.length_cons, counted]
          simp [fixed, Nat.add_right_comm]
      | one =>
          have counted := ih count
          simp only [expand, List.length_cons, counted]
          simp [fixed, Nat.add_right_comm]
      | many =>
          have counted := ih 0
          simp only [expand, List.length_append, List.length_replicate, counted]
          simp [fixed, Nat.add_comm]

/-- Without `many` every matching path has the length of the pattern. -/
theorem Matches.length_eq {pattern : GlobPattern α} {path : List α}
    (matched : Matches pattern path) (without : many ∉ pattern) :
    path.length = (fixed pattern).length := by
  rw [fixed_of_many_notMem without]
  induction pattern generalizing path with
  | nil =>
      obtain rfl : path = [] := matched
      rfl
  | cons segment pattern ih =>
      have isFixed : segment ≠ many := fun same => without (same ▸ List.mem_cons_self)
      obtain ⟨name, rest, rfl, -, later⟩ := (matches_cons_of_ne_many isFixed).mp matched
      rw [List.length_cons, List.length_cons, ih later fun member => without (.tail _ member)]

/-- A pattern matches a path of this length if it has no more fixed segments,
and no fewer unless it has `many`. -/
theorem exists_matches_length_iff {pattern : GlobPattern α} {count : Nat} (name : α) :
    (∃ path, path.length = count ∧ Matches pattern path ∧
      ∀ found ∈ path, found = name ∨ literal found ∈ pattern) ↔
      (fixed pattern).length ≤ count ∧ (many ∉ pattern → (fixed pattern).length = count) := by
  constructor
  · rintro ⟨path, rfl, matched, -⟩
    exact ⟨matched.length_fixed_le, fun without => (matched.length_eq without).symm⟩
  · rintro ⟨enough, exactly⟩
    refine ⟨expand name (count - (fixed pattern).length) pattern, ?_, matches_expand _ _ _,
      fun found => mem_expand⟩
    rw [length_expand]
    split
    · omega
    · next without => rw [exactly without, Nat.add_zero]

omit [DecidableEq α] in
/-- Paths that match start with the literal that a pattern starts with. -/
theorem head_of_literal {name : α} {pattern : GlobPattern α} {path : List α}
    (starts : pattern.head? = some (.literal name))
    (matched : pattern.Matches path) : path.head? = some name := by
  cases pattern with
  | nil => cases starts
  | cons segment pattern =>
      obtain rfl : segment = .literal name := by simpa using starts
      obtain ⟨covered, rest, rfl, covers, -⟩ := matched
      obtain rfl : covered = [name] := covers
      rfl

omit [DecidableEq α] in
/-- A wildcard in front may stand for any name. -/
theorem head_expand {name : α} {count : Nat} {pattern : GlobPattern α}
    (starts : pattern.head? = some .one ∨ pattern.head? = some .many ∧ 0 < count) :
    (pattern.expand name count).head? = some name := by
  cases pattern with
  | nil => simp at starts
  | cons segment pattern =>
      rcases starts with isOne | ⟨isMany, positive⟩
      · obtain rfl : segment = .one := by simpa using isOne
        rfl
      · obtain rfl : segment = .many := by simpa using isMany
        cases count with
        | zero => cases positive
        | succ count => rfl

end GlobPattern

end FitzClient
