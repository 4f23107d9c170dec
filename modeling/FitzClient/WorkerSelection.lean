import FitzClient.RouteShapes
import FitzClient.GlobContainment
import Mathlib.Data.List.MinMax
import Mathlib.Data.Prod.Lex

/-!
# Which worker serves a route

The worker table is a dictionary from accepted patterns to registrations in the
order of their first registration.  An invocation goes to the matching pattern
with the greatest specificity, the earlier one of two that are equal.

The specificity counts a trailing `**` as a segment before it counts against the
pattern, so `rpc://a/**` is preferred to `rpc://a` for the route `rpc://a`.
-/

namespace FitzClient

namespace RpcRoutes

/-- `_workers`, in the order of iteration. -/
structure WorkerTable (Worker : Type) where
  entries : List (CodePoints × Worker)
  distinct : (entries.map Prod.fst).Nodup
  accepted : ∀ entry ∈ entries, route entry.1 true = .ok ()

namespace WorkerTable

variable {Worker : Type}

/-- The patterns of the table. -/
def patterns (table : WorkerTable Worker) : List CodePoints :=
  table.entries.map Prod.fst

def empty : WorkerTable Worker where
  entries := []
  distinct := List.nodup_nil
  accepted := nofun

theorem accepted_of_mem {table : WorkerTable Worker} {pattern : CodePoints}
    (member : pattern ∈ table.patterns) : route pattern true = .ok () := by
  obtain ⟨entry, inTable, rfl⟩ := List.mem_map.mp member
  exact table.accepted entry inTable

instance (table : WorkerTable Worker) (pattern : CodePoints) :
    Decidable (pattern ∈ table.patterns) :=
  decidable_of_iff (∃ entry ∈ table.entries, entry.1 = pattern) List.mem_map.symm

/-- `self._workers[route] = registration`: a pattern that is known keeps its
place. -/
def register (table : WorkerTable Worker) (pattern : CodePoints) (worker : Worker)
    (isAccepted : route pattern true = .ok ()) : WorkerTable Worker :=
  if known : pattern ∈ table.patterns then
    { entries := table.entries.map fun entry =>
        if entry.1 = pattern then (pattern, worker) else entry
      distinct := by
        have kept : (table.entries.map fun entry =>
            if entry.1 = pattern then (pattern, worker) else entry).map Prod.fst =
              table.patterns := by
          rw [List.map_map, patterns]
          refine List.map_congr_left fun entry _ => ?_
          by_cases same : entry.1 = pattern <;> simp [same]
        rw [kept]
        exact table.distinct
      accepted := by
        intro entry member
        obtain ⟨before, inTable, rfl⟩ := List.mem_map.mp member
        by_cases same : before.1 = pattern
        · simpa [same] using isAccepted
        · simpa [same] using table.accepted before inTable }
  else
    { entries := table.entries ++ [(pattern, worker)]
      distinct := by
        rw [List.map_append]
        exact List.Nodup.append table.distinct (List.nodup_singleton _)
          (List.disjoint_singleton.mpr known)
      accepted := by
        intro entry member
        rcases List.mem_append.mp member with inTable | added
        · exact table.accepted entry inTable
        · rw [List.mem_singleton.mp added]
          exact isAccepted }

end WorkerTable

/-- The tuples of `_specificity`. -/
def Specificity : Type :=
  ℕ ×ₗ ℕ ×ₗ ℤ ×ₗ ℤ

/-- Tuples are compared from the front. -/
instance : LinearOrder Specificity :=
  @Prod.Lex.instLinearOrder ℕ (ℕ ×ₗ ℤ ×ₗ ℤ) Nat.instLinearOrder
    (@Prod.Lex.instLinearOrder ℕ (ℤ ×ₗ ℤ) Nat.instLinearOrder
      (@Prod.Lex.instLinearOrder ℤ ℤ Int.instLinearOrder Int.instLinearOrder))

/-- `_specificity` -/
def specificity (pattern : CodePoints) : Specificity :=
  let parts := segments pattern
  toLex (parts.countP fun part => part ≠ star ∧ part ≠ doubleStar,
    toLex (parts.length, toLex (-(parts.count doubleStar : ℤ), -(parts.count star : ℤ))))

/-- The entry that `_best_worker` takes: `max` returns the first of the
maximal ones. -/
def bestEntry {Worker : Type} (table : WorkerTable Worker) (candidate : CodePoints) :
    Option (CodePoints × Worker) :=
  (table.entries.filter fun entry => routeMatches candidate entry.1).argmax fun entry =>
    specificity entry.1

/-- `_best_worker` -/
def bestWorker {Worker : Type} (table : WorkerTable Worker) (candidate : CodePoints) :
    Option Worker :=
  (bestEntry table candidate).map Prod.snd

example : bestWorker ((WorkerTable.empty.register (.ofString "rpc://a/*") 1
    (by decide +kernel)).register (.ofString "rpc://a/b") 2 (by decide +kernel))
      (.ofString "rpc://a/b") = some 2 := by
  decide +kernel

/-- Every concrete route of the first pattern is one of the second. -/
def Within (narrow broad : CodePoints) : Prop :=
  ∀ candidate, route candidate false = .ok () → routeMatches candidate narrow = true →
    routeMatches candidate broad = true

/-- The first pattern has strictly fewer routes. -/
def Narrower (narrow broad : CodePoints) : Prop :=
  Within narrow broad ∧ ¬ Within broad narrow

/-- Among matching patterns of the table the first is preferred to the
second. -/
def Precedes {Worker : Type} (table : WorkerTable Worker) (first second : CodePoints) : Prop :=
  specificity second < specificity first ∨
    specificity second = specificity first ∧
      table.patterns.idxOf first < table.patterns.idxOf second

/-- A pattern of the table, or another one for the same routes, is preferred to
every pattern that it is narrower than. -/
def Ordered {Worker : Type} (table : WorkerTable Worker) : Prop :=
  ∀ broad ∈ table.patterns, ∀ narrow ∈ table.patterns, Narrower narrow broad →
    ∃ same ∈ table.patterns, Within same narrow ∧ Within narrow same ∧ Precedes table same broad

/-- The worker for a route is one of the narrowest patterns that match. -/
structure SelectsNarrowest {Worker : Type} (table : WorkerTable Worker) (candidate : CodePoints) :
    Prop where
  isSome_iff : (bestWorker table candidate).isSome = true ↔
    ∃ pattern ∈ table.patterns, routeMatches candidate pattern = true
  notBeaten : ∀ entry, bestEntry table candidate = some entry →
    ∀ pattern ∈ table.patterns, routeMatches candidate pattern = true →
      ¬ Narrower pattern entry.1
  exactFirst : ∀ entry, bestEntry table candidate = some entry →
    candidate ∈ table.patterns → entry.1 = candidate

section

variable {Worker : Type} {table : WorkerTable Worker} {candidate pattern : CodePoints}
  {entry : CodePoints × Worker}

theorem bestEntry_isSome_iff : (bestEntry table candidate).isSome = true ↔
    ∃ pattern ∈ table.patterns, routeMatches candidate pattern = true := by
  rw [Option.isSome_iff_ne_none, ne_eq, bestEntry, List.argmax_eq_none, List.filter_eq_nil_iff,
    WorkerTable.patterns]
  simp

theorem bestEntry_spec (found : bestEntry table candidate = some entry) :
    entry.1 ∈ table.patterns ∧ routeMatches candidate entry.1 = true := by
  obtain ⟨inTable, answered⟩ := List.mem_filter.mp (List.argmax_mem found)
  exact ⟨List.mem_map_of_mem inTable, answered⟩

/-- The first of the maximal ones among the entries that are asked for. -/
theorem idxOf_le_of_argmax {Value Key : Type} [BEq Key] [LawfulBEq Key]
    {Score : Type} [LinearOrder Score] {score : Key → Score} {asked : Key → Bool}
    {entries : List (Key × Value)} {best other : Key × Value}
    (found : (entries.filter fun entry => asked entry.1).argmax (fun entry => score entry.1) =
      some best)
    (member : other ∈ entries) (isAsked : asked other.1 = true)
    (tied : score other.1 = score best.1) :
    (entries.map Prod.fst).idxOf best.1 ≤ (entries.map Prod.fst).idxOf other.1 := by
  induction entries with
  | nil => cases member
  | cons first entries ih =>
      by_cases firstAsked : asked first.1 = true
      case neg =>
        rw [List.filter_cons, if_neg firstAsked] at found
        have bestAsked := (List.mem_filter.mp (List.argmax_mem found)).2
        have bestApart : first.1 ≠ best.1 := fun same => firstAsked (same ▸ bestAsked)
        have otherApart : first.1 ≠ other.1 := fun same => firstAsked (same ▸ isAsked)
        have later : other ∈ entries :=
          (List.mem_cons.mp member).resolve_left fun same => otherApart (by rw [same])
        rw [List.map_cons, List.idxOf_cons_ne _ bestApart, List.idxOf_cons_ne _ otherApart]
        exact Nat.succ_le_succ (ih found later)
      rw [List.filter_cons, if_pos firstAsked, List.argmax_cons] at found
      cases rest :
          (entries.filter fun entry => asked entry.1).argmax fun entry => score entry.1 with
      | none =>
          rw [rest] at found
          obtain rfl : first = best := Option.some.inj found
          rw [List.map_cons, List.idxOf_cons_self]
          exact Nat.zero_le _
      | some chosen =>
          rw [rest] at found
          dsimp only at found
          split_ifs at found with greater
          · obtain rfl : chosen = best := Option.some.inj found
            have bestApart : first.1 ≠ chosen.1 := ne_of_apply_ne score greater.ne
            have otherApart : first.1 ≠ other.1 :=
              ne_of_apply_ne score (tied ▸ greater).ne
            have later : other ∈ entries :=
              (List.mem_cons.mp member).resolve_left fun same => otherApart (by rw [same])
            rw [List.map_cons, List.idxOf_cons_ne _ bestApart, List.idxOf_cons_ne _ otherApart]
            exact Nat.succ_le_succ (ih rest later)
          · obtain rfl : first = best := Option.some.inj found
            rw [List.map_cons, List.idxOf_cons_self]
            exact Nat.zero_le _

/-- The selected pattern is preferred to all others that match. -/
theorem precedes_of_bestEntry (found : bestEntry table candidate = some entry)
    (member : pattern ∈ table.patterns) (answered : routeMatches candidate pattern = true) :
    pattern = entry.1 ∨ Precedes table entry.1 pattern := by
  obtain ⟨other, inTable, rfl⟩ := List.mem_map.mp member
  have inMatches : other ∈ table.entries.filter fun entry => routeMatches candidate entry.1 :=
    List.mem_filter.mpr ⟨inTable, answered⟩
  have le := @List.le_of_mem_argmax _ _ _ (fun entry : CodePoints × Worker =>
    specificity entry.1) _ _ _ inMatches found
  rcases le.lt_or_eq with less | tied
  · exact Or.inr (Or.inl less)
  · have earlier : table.patterns.idxOf entry.1 ≤ table.patterns.idxOf other.1 :=
      @idxOf_le_of_argmax _ _ _ _ _ _ specificity (routeMatches candidate) _ _ _ found inTable
        answered tied
    rcases earlier.lt_or_eq with before | same
    · exact Or.inr (Or.inr ⟨tied, before⟩)
    · exact Or.inl ((List.idxOf_inj member).mp same.symm)

theorem Precedes.asymm {first second : CodePoints} (before : Precedes table first second) :
    ¬ Precedes table second first := by
  rintro (less | ⟨tied, earlier⟩)
  · rcases before with greater | ⟨tied, -⟩
    · exact lt_asymm less greater
    · exact less.ne tied.symm
  · rcases before with greater | ⟨-, later⟩
    · exact greater.ne tied.symm
    · exact lt_asymm earlier later

end

section

variable {Worker : Type} {table : WorkerTable Worker} {candidate name : CodePoints}
  {narrow broad pattern : CodePoints}

theorem isLiteral_globSegment (part : CodePoints) :
    (globSegment part).isLiteral = decide (part ≠ star ∧ part ≠ doubleStar) := by
  rw [globSegment]
  split_ifs <;> simp_all [GlobSegment.isLiteral]

/-- The specificity in terms of the pattern that is meant. -/
theorem specificity_eq (pattern : CodePoints) :
    ∃ singles : ℤ, specificity pattern = toLex ((glob pattern).literals,
      toLex ((glob pattern).length, toLex (-((glob pattern).count .many : ℤ), singles))) := by
  refine ⟨-((segments pattern).count star : ℤ), ?_⟩
  have names : (glob pattern).literals =
      (segments pattern).countP fun part => part ≠ star ∧ part ≠ doubleStar := by
    rw [GlobPattern.literals, glob, List.countP_map]
    exact List.countP_congr fun part _ => by simp [isLiteral_globSegment]
  have doubles : (glob pattern).count .many = (segments pattern).count doubleStar := by
    rw [List.count, List.count, glob, List.countP_map]
    refine List.countP_congr fun part _ => ?_
    rw [Function.comp_apply, beq_iff_eq, beq_iff_eq, globSegment]
    split_ifs <;> simp_all
  have lengths : (glob pattern).length = (segments pattern).length := List.length_map _
  rw [specificity, names, doubles, lengths]

/-- More names, then more segments, then fewer `**`. -/
theorem specificity_lt (literals : (glob broad).literals ≤ (glob narrow).literals)
    (tied : (glob broad).literals = (glob narrow).literals →
      (glob broad).length < (glob narrow).length ∨
        (glob broad).length = (glob narrow).length ∧
          (glob narrow).count .many < (glob broad).count .many) :
    specificity broad < specificity narrow := by
  obtain ⟨broadSingles, broadIs⟩ := specificity_eq broad
  obtain ⟨narrowSingles, narrowIs⟩ := specificity_eq narrow
  rw [broadIs, narrowIs]
  change @LT.lt (ℕ ×ₗ ℕ ×ₗ ℤ ×ₗ ℤ) _ _ _
  simp only [Prod.Lex.toLex_lt_toLex]
  omega

/-- A name that no pattern of the table mentions. -/
theorem exists_fresh (names : List CodePoints) : ∃ name, Concrete name ∧ name ∉ names := by
  refine ⟨List.replicate ((names.map List.length).foldr max ⊥ + 1) 0x61, ⟨by simp, ?_, ?_⟩, ?_⟩
  · exact fun member => absurd (List.eq_of_mem_replicate member) (by decide)
  · exact fun member => absurd (List.eq_of_mem_replicate member) (by decide)
  · intro member
    have inLengths : (names.map List.length).foldr max ⊥ + 1 ∈ names.map List.length :=
      List.mem_map.mpr ⟨_, member, List.length_replicate⟩
    exact Nat.not_succ_le_self _ (List.le_max_of_le inLengths le_rfl)

theorem exists_fresh_of_table (table : WorkerTable Worker) (names : List CodePoints) :
    ∃ name, Concrete name ∧ name ∉ names ∧
      ∀ pattern ∈ table.patterns, .literal name ∉ glob pattern := by
  obtain ⟨name, concrete, fresh⟩ := exists_fresh (names ++ table.patterns.flatMap segments)
  rw [List.mem_append, not_or] at fresh
  refine ⟨name, concrete, fresh.1, fun pattern member inPattern => fresh.2 ?_⟩
  obtain ⟨part, inSegments, parsed⟩ := List.mem_map.mp inPattern
  rw [globSegment] at parsed
  split_ifs at parsed
  obtain rfl := GlobSegment.literal.inj parsed
  exact List.mem_flatMap.mpr ⟨pattern, member, inSegments⟩

theorem glob_ne_nil (pattern : CodePoints) : glob pattern ≠ [] :=
  fun empty => List.splitOn_ne_nil _ _ (List.map_eq_nil_iff.mp empty)

/-- A route of concrete names, as the matcher sees it. -/
theorem routeMatches_ofSegments {path : List CodePoints} (nonempty : path ≠ [])
    (concrete : ∀ part ∈ path, Concrete part) :
    route (ofSegments path) false = .ok () ∧ ∀ pattern,
      routeMatches (ofSegments path) pattern = (glob pattern).frontMatches path := by
  refine ⟨route_ofSegments nonempty concrete, fun pattern => ?_⟩
  rw [routeMatches_eq_frontMatches,
    segments_ofSegments nonempty fun part member => (concrete part member).2.2]

/-- The names of a spelling are concrete. -/
theorem concrete_of_mem_spell (accepted : route pattern true = .ok ()) (concrete : Concrete name)
    {part : CodePoints} (member : part ∈ (glob pattern).spell name) : Concrete part := by
  rcases GlobPattern.mem_spell member with rfl | named
  · exact concrete
  · exact concrete_of_literal accepted named

/-- A pattern that begins with `**` is not narrower than another one. -/
theorem front_ne_nil_of_narrower (narrower : Narrower narrow broad) :
    (glob narrow).front ≠ [] := by
  intro empty
  refine narrower.2 fun candidate _ _ => ?_
  rw [routeMatches_eq_frontMatches]
  match parsed : glob narrow with
  | [] => exact absurd parsed (glob_ne_nil narrow)
  | .many :: _ => rfl
  | .one :: _ | .literal _ :: _ =>
      rw [parsed, GlobPattern.front_cons (by simp)] at empty
      cases empty

/-- The route that spells a pattern. -/
def spelled (name pattern : CodePoints) : CodePoints :=
  ofSegments ((glob pattern).spell name)

theorem spelled_spec (accepted : route narrow true = .ok ()) (concrete : Concrete name)
    (starts : (glob narrow).front ≠ []) :
    route (spelled name narrow) false = .ok () ∧
      routeMatches (spelled name narrow) narrow = true ∧
      ∀ pattern, routeMatches (spelled name narrow) pattern =
        (glob pattern).frontMatches ((glob narrow).spell name) := by
  have nonempty : (glob narrow).spell name ≠ [] := by simpa [GlobPattern.spell] using starts
  obtain ⟨exact, answers⟩ := routeMatches_ofSegments nonempty fun part =>
    concrete_of_mem_spell accepted concrete
  refine ⟨exact, ?_, answers⟩
  have own := GlobPattern.frontMatches_spell name
    (Or.inr rfl : GlobSegment.many ∈ glob narrow ∨ ([] : List CodePoints) = [])
  rwa [List.append_nil, ← answers] at own

/-- What matches the spelling has all routes of the pattern, or is preferred
less. -/
theorem within_or_lt (fresh : .literal name ∉ glob broad)
    (answered : (glob broad).frontMatches ((glob narrow).spell name) = true) :
    Within narrow broad ∨ specificity broad < specificity narrow := by
  by_cases reaches : .many ∈ glob broad ∨ .many ∉ glob narrow
  · left
    intro candidate _ matched
    rw [routeMatches_eq_frontMatches] at matched ⊢
    exact GlobPattern.frontMatches_of_spelled fresh answered reaches matched
  · right
    obtain ⟨without, wide⟩ := not_or.mp reaches
    obtain ⟨wider, counted⟩ := GlobPattern.wider_of_spelled fresh answered
    have lengths := counted without
    have literals := wider.literals_le
    rw [GlobPattern.front_of_many_notMem without] at lengths literals
    obtain ⟨less, fewer⟩ := GlobPattern.front_lt (not_not.mp wide)
    exact specificity_lt (literals.trans fewer) fun _ => Or.inl (lengths.trans_lt less)

/-- If in a table every pattern is preferred to those that it is narrower than,
a route goes to a narrowest pattern. -/
theorem notBeaten_of_ordered {entry : CodePoints × Worker} (ordered : Ordered table)
    (concrete : route candidate false = .ok ()) (found : bestEntry table candidate = some entry)
    (member : pattern ∈ table.patterns) (answered : routeMatches candidate pattern = true) :
    ¬ Narrower pattern entry.1 := by
  intro narrower
  obtain ⟨same, inTable, into, from', precedes⟩ :=
    ordered entry.1 (bestEntry_spec found).1 pattern member narrower
  rcases precedes_of_bestEntry found inTable (from' candidate concrete answered) with rfl | later
  · exact narrower.2 into
  · exact precedes.asymm later

/-- And only then. -/
theorem ordered_of_notBeaten
    (notBeaten : ∀ candidate, route candidate false = .ok () → ∀ entry,
      bestEntry table candidate = some entry → ∀ pattern ∈ table.patterns,
        routeMatches candidate pattern = true → ¬ Narrower pattern entry.1) : Ordered table := by
  intro broad inTable narrow member narrower
  obtain ⟨name, concrete, -, fresh⟩ := exists_fresh_of_table table []
  obtain ⟨exact, own, answers⟩ := spelled_spec (WorkerTable.accepted_of_mem member) concrete
    (front_ne_nil_of_narrower narrower)
  obtain ⟨entry, found⟩ := Option.isSome_iff_exists.mp
    (bestEntry_isSome_iff.mpr ⟨narrow, member, own⟩)
  obtain ⟨chosen, answered⟩ := bestEntry_spec found
  have kept := notBeaten _ exact entry found
  -- the chosen pattern has all routes of the narrow one, and no more of them
  have reaches : Within narrow entry.1 := by
    rw [answers] at answered
    refine (within_or_lt (fresh _ chosen) answered).resolve_right fun less => ?_
    rcases precedes_of_bestEntry found member own with same | before | ⟨tied, -⟩
    · exact less.ne (by rw [same])
    · exact lt_asymm less before
    · exact less.ne tied.symm
  have back : Within entry.1 narrow := by
    by_contra apart
    exact kept narrow member own ⟨reaches, apart⟩
  refine ⟨entry.1, chosen, back, reaches, ?_⟩
  refine (precedes_of_bestEntry found inTable (narrower.1 _ exact own)).resolve_left ?_
  rintro rfl
  exact kept narrow member own narrower

/-- Routes are the same if their segments are. -/
theorem eq_of_segments_eq {first second : CodePoints}
    (firstFront : CodePoints.ofString "rpc://" <+: first)
    (secondFront : CodePoints.ofString "rpc://" <+: second)
    (same : segments first = segments second) : first = second := by
  obtain ⟨firstRest, rfl⟩ := firstFront
  obtain ⟨secondRest, rfl⟩ := secondFront
  rw [segments, segments, List.drop_left' schemeLength_eq, List.drop_left' schemeLength_eq] at same
  have joined := congrArg [slash].intercalate same
  rw [List.intercalate_splitOn, List.intercalate_splitOn] at joined
  rw [joined]

theorem glob_of_concrete (concrete : route candidate false = .ok ()) :
    glob candidate = (segments candidate).map .literal := by
  obtain ⟨-, -, names, -⟩ := route_eq_ok_iff.mp concrete
  refine List.map_congr_left fun part member => ?_
  rw [globSegment, if_neg, if_neg]
  · rintro rfl
    exact names rfl star member (star_inside (Or.inl rfl))
  · rintro rfl
    exact names rfl doubleStar member (star_inside (Or.inr rfl))

/-- A registration for the route itself matches nothing else. -/
theorem frontMatches_map_literal {names path : List CodePoints} :
    GlobPattern.frontMatches (names.map .literal) path = true ↔ path = names := by
  rw [GlobPattern.frontMatches_iff_of_many_notMem (by simp)]
  induction names generalizing path with
  | nil => rfl
  | cons name names ih =>
      simp only [List.map_cons, GlobPattern.matches_cons_of_ne_many (by simp :
        GlobSegment.literal name ≠ .many), ih, GlobSegment.admits, decide_eq_true_eq]
      constructor
      · rintro ⟨_, _, rfl, rfl, rfl⟩
        rfl
      · rintro rfl
        exact ⟨name, names, rfl, rfl, rfl⟩

theorem globSegment_injective : Function.Injective globSegment := by
  intro first second same
  rw [globSegment, globSegment] at same
  split_ifs at same <;> simp_all

/-- A registration for the route itself is narrower than any other that
matches. -/
theorem narrower_of_exact (concrete : route candidate false = .ok ())
    (accepted : route pattern true = .ok ()) (answered : routeMatches candidate pattern = true)
    (other : pattern ≠ candidate) : Narrower candidate pattern := by
  have own (path : List CodePoints) : (glob candidate).frontMatches path = true ↔
      path = segments candidate := by
    rw [glob_of_concrete concrete, frontMatches_map_literal]
  constructor
  · intro found _ matched
    rw [routeMatches_eq_frontMatches, own] at matched
    rwa [routeMatches_eq_frontMatches, matched, ← routeMatches_eq_frontMatches]
  · intro within
    obtain ⟨name, isConcrete, fresh⟩ := exists_fresh (segments candidate)
    -- a route of the pattern with a name of its own for every wildcard
    have sole (rest : List CodePoints) (room : .many ∈ glob pattern ∨ rest = [])
        (nonempty : (glob pattern).spell name ++ rest ≠ [])
        (named : ∀ part ∈ rest, part = name) :
        (glob pattern).spell name ++ rest = segments candidate := by
      have concretes : ∀ part ∈ (glob pattern).spell name ++ rest, Concrete part := by
        intro part member
        rcases List.mem_append.mp member with spelt | after
        · exact concrete_of_mem_spell accepted isConcrete spelt
        · rwa [named part after]
      obtain ⟨exact, answers⟩ := routeMatches_ofSegments nonempty concretes
      have matched := within _ exact (by rw [answers, GlobPattern.frontMatches_spell name room])
      rwa [answers, own] at matched
    by_cases wide : .many ∈ glob pattern
    · have ends := sole [name] (Or.inl wide) (by simp) (by simp)
      exact fresh (ends ▸ List.mem_append_right _ (List.mem_singleton_self name))
    · have whole := GlobPattern.front_of_many_notMem wide
      have spelt := sole [] (Or.inr rfl)
        (by simp [GlobPattern.spell, whole, glob_ne_nil]) nofun
      rw [List.append_nil] at spelt
      have names := GlobPattern.spell_eq_of_notMem (spelt ▸ fresh)
      rw [spelt, whole, ← glob_of_concrete concrete] at names
      have parts : segments candidate = segments pattern :=
        List.map_injective_iff.mpr globSegment_injective names
      exact other (eq_of_segments_eq (route_eq_ok_iff.mp accepted).1
        (route_eq_ok_iff.mp concrete).1 parts.symm)

/-- The patterns of a table are ordered if and only if for every route the
selection respects containment. -/
theorem selectsNarrowest_iff (table : WorkerTable Worker) :
    (∀ candidate, route candidate false = .ok () → SelectsNarrowest table candidate) ↔
      Ordered table := by
  constructor
  · intro selects
    exact ordered_of_notBeaten fun candidate concrete => (selects candidate concrete).notBeaten
  · intro ordered candidate concrete
    refine ⟨?_, fun entry found pattern => notBeaten_of_ordered ordered concrete found,
      fun entry found member => ?_⟩
    · rw [bestWorker, Option.isSome_map, bestEntry_isSome_iff]
    · obtain ⟨chosen, answered⟩ := bestEntry_spec found
      by_contra other
      have own : routeMatches candidate candidate = true := by
        rw [routeMatches_eq_frontMatches, glob_of_concrete concrete, frontMatches_map_literal]
      exact notBeaten_of_ordered ordered concrete found member own
        (narrower_of_exact concrete (WorkerTable.accepted_of_mem chosen) answered other)

/-- A worker for a route and one for all routes below it. -/
def nestedWorkers : WorkerTable Unit :=
  (WorkerTable.empty.register (.ofString "rpc://a") () (by decide +kernel)).register
    (.ofString "rpc://a/**") () (by decide +kernel)

/-- The worker for the route itself loses to the one for all routes below it. -/
theorem exists_beaten : ¬ ∀ (table : WorkerTable Unit) candidate,
    route candidate false = .ok () → SelectsNarrowest table candidate := by
  intro selects
  have exact : route (.ofString "rpc://a") false = .ok () := by decide +kernel
  have wins := (selects nestedWorkers (.ofString "rpc://a") exact).exactFirst
    (.ofString "rpc://a/**", ()) (by decide +kernel) (by decide +kernel)
  exact absurd wins (by decide +kernel)

/-- Nothing follows the first `**` of the pattern. -/
def Trailing (pattern : CodePoints) : Prop :=
  (glob pattern).back = [] ∨ (glob pattern).back = [.many]

theorem Trailing.glob_eq (trailing : Trailing pattern) :
    glob pattern = (glob pattern).front ∨ glob pattern = (glob pattern).front ++ [.many] := by
  have parts := GlobPattern.front_append_back (glob pattern)
  refine trailing.imp (fun ends => ?_) fun ends => ?_
  · rw [ends, List.append_nil] at parts
    exact parts.symm
  · rw [ends] at parts
    exact parts.symm

theorem Trailing.literals_eq (trailing : Trailing pattern) :
    (glob pattern).literals = (glob pattern).front.literals := by
  rcases trailing.glob_eq with whole | ends
  · rw [← whole]
  · have counted := congrArg GlobPattern.literals ends
    rw [counted]
    simp [GlobPattern.literals, GlobSegment.isLiteral]

/-- Patterns that mean the same have the same routes. -/
theorem within_of_glob_eq (same : glob narrow = glob broad) : Within narrow broad := by
  intro candidate _ matched
  rwa [routeMatches_eq_frontMatches, ← same, ← routeMatches_eq_frontMatches]

/-- A narrower pattern has the greater specificity, except a route itself over
all routes at or below it. -/
theorem specificity_lt_of_narrower (trailing : Trailing broad)
    (concrete : Concrete name) (accepted : route narrow true = .ok ())
    (fresh : .literal name ∉ glob broad) (narrower : Narrower narrow broad)
    (apart : glob broad ≠ glob narrow ++ [.many]) : specificity broad < specificity narrow := by
  obtain ⟨exact, own, answers⟩ := spelled_spec accepted concrete
    (front_ne_nil_of_narrower narrower)
  have answered := narrower.1 _ exact own
  rw [answers] at answered
  obtain ⟨wider, counted⟩ := GlobPattern.wider_of_spelled fresh answered
  have parts := GlobPattern.front_append_back (glob narrow)
  have start : List.Sublist (glob narrow).front (glob narrow) := List.takeWhile_sublist _
  have names : (glob narrow).front.literals ≤ (glob narrow).literals := start.countP_le
  have fewer := wider.literals_le
  have shorter := wider.length_le
  have different : glob broad ≠ glob narrow := fun same => narrower.2 (within_of_glob_eq same)
  refine specificity_lt (by rw [trailing.literals_eq]; exact fewer.trans names) fun tied => ?_
  rw [trailing.literals_eq] at tied
  have sameNames : (glob broad).front.literals = (glob narrow).front.literals := by omega
  rcases trailing.glob_eq with whole | ends
  · -- an exact pattern has the length of what it matches
    have lengths := counted (by rw [whole]; exact GlobPattern.many_notMem_front _)
    have equal := wider.eq_of_length lengths sameNames
    rw [← whole] at lengths equal
    refine Or.inl (lengths.trans_lt (start.length_le.lt_of_ne fun full => different ?_))
    rw [equal, start.eq_of_length full]
  · have length : (glob broad).length = (glob broad).front.length + 1 := by
      conv_lhs => rw [ends]
      simp
    rcases shorter.lt_or_eq with less | lengths
    · rcases start.length_le.lt_or_eq with longer | full
      · exact Or.inl (by omega)
      · -- as long as the pattern, but without `**`
        rw [start.eq_of_length full] at less
        rcases Nat.lt_or_eq_of_le (Nat.succ_le_of_lt less) with longer | same
        · exact Or.inl (by omega)
        refine Or.inr ⟨by omega, ?_⟩
        have without : .many ∉ glob narrow := by
          rw [← start.eq_of_length full]
          exact GlobPattern.many_notMem_front _
        rw [List.count_eq_zero_of_not_mem without, List.count_pos_iff, ends]
        exact List.mem_append_right _ (List.mem_singleton_self _)
    · have equal := wider.eq_of_length lengths sameNames
      rw [equal] at ends
      left
      rcases GlobPattern.back_eq (glob narrow) with empty | ⟨rest, stopped⟩
      · rw [empty, List.append_nil] at parts
        exact absurd (by rw [ends, parts]) apart
      · have nonempty : rest ≠ [] := by
          rintro rfl
          rw [stopped] at parts
          exact different (ends.trans parts)
        have positive := List.length_pos_iff.mpr nonempty
        have total := congrArg List.length parts
        rw [stopped, List.length_append, List.length_cons] at total
        omega

/-- All routes at or below a concrete one are more than the route itself. -/
theorem narrower_of_append (isExact : .many ∉ glob narrow)
    (ends : glob broad = glob narrow ++ [.many]) (accepted : route broad true = .ok ()) :
    Narrower narrow broad := by
  constructor
  · intro candidate _ matched
    rw [routeMatches_eq_frontMatches] at matched ⊢
    rw [GlobPattern.frontMatches_iff_of_many_notMem isExact] at matched
    rw [ends, GlobPattern.frontMatches_append_many [] isExact, ← List.append_nil (segments _)]
    exact GlobPattern.matches_append matched
      (GlobPattern.matches_many_cons.mpr ⟨[], List.nil_suffix, rfl⟩)
  · intro within
    have concrete : Concrete (CodePoints.ofString "a") := by decide +kernel
    have concretes : ∀ part ∈ (glob broad).spell (.ofString "a") ++ [.ofString "a"],
        Concrete part := by
      intro part member
      rcases List.mem_append.mp member with spelt | after
      · exact concrete_of_mem_spell accepted concrete spelt
      · rwa [List.mem_singleton.mp after]
    obtain ⟨exact, answers⟩ := routeMatches_ofSegments (by simp) concretes
    have wide : .many ∈ glob broad := by simp [ends]
    have matched := within _ exact
      (by rw [answers, GlobPattern.frontMatches_spell _ (Or.inl wide)])
    rw [answers, GlobPattern.frontMatches_iff_of_many_notMem isExact] at matched
    have counted := matched.length_eq isExact
    have front : (glob broad).front = glob narrow := by
      rw [ends, GlobPattern.front, List.takeWhile_append_of_pos]
      · simp
      · intro segment member
        simpa using fun same : segment = .many => isExact (same ▸ member)
    rw [GlobPattern.fixed_of_many_notMem isExact, GlobPattern.spell, front] at counted
    simp at counted

/-- What matches the spelling of a concrete pattern is preferred less than that
pattern with `**` after it. -/
theorem specificity_lt_append {same : CodePoints} (trailing : Trailing same)
    (fresh : .literal name ∉ glob same) (isExact : .many ∉ glob narrow)
    (answered : (glob same).frontMatches ((glob narrow).spell name) = true)
    (ends : glob broad = glob narrow ++ [.many]) (apart : glob same ≠ glob broad) :
    specificity same < specificity broad := by
  obtain ⟨wider, -⟩ := GlobPattern.wider_of_spelled fresh answered
  rw [GlobPattern.front_of_many_notMem isExact] at wider
  have shorter := wider.length_le
  have names : (glob broad).literals = (glob narrow).literals := by
    rw [ends]
    simp [GlobPattern.literals, GlobSegment.isLiteral]
  have length : (glob broad).length = (glob narrow).length + 1 := by simp [ends]
  refine specificity_lt (by rw [names, trailing.literals_eq]; exact wider.literals_le) ?_
  intro tied
  rw [names, trailing.literals_eq] at tied
  left
  rcases trailing.glob_eq with whole | wide
  · rw [whole]
    omega
  · have sameLength : (glob same).length = (glob same).front.length + 1 := by
      conv_lhs => rw [wide]
      simp
    refine lt_of_le_of_ne (by omega) fun equal => apart ?_
    rw [wide, wider.eq_of_length (by omega) tied, ends]

/-- With `**` at the end of patterns only, the table is ordered if and only if
no route is registered together with all routes at or below it. -/
theorem ordered_iff_of_trailing (trailing : ∀ pattern ∈ table.patterns, Trailing pattern) :
    Ordered table ↔ ∀ narrow ∈ table.patterns, ∀ broad ∈ table.patterns,
      .many ∉ glob narrow → glob broad ≠ glob narrow ++ [.many] := by
  obtain ⟨name, concrete, -, fresh⟩ := exists_fresh_of_table table []
  constructor
  · intro ordered narrow member broad inTable isExact ends
    have narrower := narrower_of_append isExact ends (WorkerTable.accepted_of_mem inTable)
    obtain ⟨same, inPatterns, into, reaches, precedes⟩ :=
      ordered broad inTable narrow member narrower
    obtain ⟨exact, own, answers⟩ := spelled_spec (WorkerTable.accepted_of_mem member) concrete
      (front_ne_nil_of_narrower narrower)
    have answered := reaches _ exact own
    rw [answers] at answered
    have less := specificity_lt_append (trailing same inPatterns) (fresh same inPatterns) isExact
      answered ends fun meaning => narrower.2 fun candidate isConcrete matched =>
        into candidate isConcrete (within_of_glob_eq meaning.symm candidate isConcrete matched)
    rcases precedes with greater | ⟨tied, -⟩
    · exact lt_asymm less greater
    · exact less.ne tied.symm
  · intro apart broad inTable narrow member narrower
    refine ⟨narrow, member, fun _ _ matched => matched, fun _ _ matched => matched, Or.inl ?_⟩
    refine specificity_lt_of_narrower (trailing broad inTable) concrete
      (WorkerTable.accepted_of_mem member) (fresh broad inTable) narrower fun ends => ?_
    refine apart narrow member broad inTable (fun wide => ?_) ends
    have notMem := GlobPattern.many_notMem_front (glob broad)
    rcases (trailing broad inTable).glob_eq with whole | wider
    · rw [← whole, ends] at notMem
      exact notMem (List.mem_append_left _ wide)
    · have fronts := List.append_cancel_right (ends.symm.trans wider)
      exact notMem (fronts ▸ wide)

end

end RpcRoutes

end FitzClient
