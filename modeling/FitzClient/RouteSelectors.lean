import FitzClient.RouteShapes

/-!
# Selectors

`is_selector_route_shape` has two modes.  With interior double stars it asks the
question of the broker: is there a route of the domain that the selector
matches?  By default it accepts three forms, and one selector among them is
outside the grammar of the broker: two segments, both of them `**`.
-/

namespace FitzClient

open RpcRoutes

variable {route : CodePoints} {scheme : String} {segmentCount : Nat}
  {allowRealmWildcard allowInteriorDoubleStar : Bool} {parts : List CodePoints}

/-- What a route of this scheme starts with. -/
def schemeFront (scheme : String) : CodePoints :=
  .ofString (scheme ++ "://")

/-- The segments of a route after its scheme. -/
def schemeSegments (scheme : String) (route : CodePoints) : List CodePoints :=
  (route.drop (schemeFront scheme).length).splitOn slash

/-- The route with these segments. -/
def ofSchemeSegments (scheme : String) (parts : List CodePoints) : CodePoints :=
  schemeFront scheme ++ [slash].intercalate parts

theorem schemeSegments_ofSchemeSegments (nonempty : parts ≠ [])
    (apart : ∀ part ∈ parts, slash ∉ part) :
    schemeSegments scheme (ofSchemeSegments scheme parts) = parts := by
  rw [schemeSegments, ofSchemeSegments, List.drop_left]
  exact List.splitOn_intercalate slash apart nonempty

theorem ofSchemeSegments_schemeSegments (front : schemeFront scheme <+: route) :
    ofSchemeSegments scheme (schemeSegments scheme route) = route := by
  obtain ⟨rest, rfl⟩ := front
  rw [schemeSegments, ofSchemeSegments, List.drop_left, List.intercalate_splitOn]

theorem schemeSegments_ne_nil : schemeSegments scheme route ≠ [] :=
  List.splitOn_ne_nil _ _

/-- What `_parts` leaves of a route that it accepts. -/
theorem routeParts_eq_some_segments_iff :
    routeParts route scheme allowInteriorDoubleStar = some parts ↔
      parts = schemeSegments scheme route ∧ schemeFront scheme <+: route ∧
        Shaped (schemeSegments scheme route) ∧
          (allowInteriorDoubleStar = false → doubleStar ∈ schemeSegments scheme route →
            (schemeSegments scheme route).getLast? = some doubleStar) := by
  rw [routeParts_eq_some_iff]
  constructor
  · rintro ⟨front, rfl, shaped, trailing⟩
    exact ⟨rfl, front, shaped, trailing⟩
  · rintro ⟨rfl, front, shaped, trailing⟩
    exact ⟨front, rfl, shaped, trailing⟩

/-- An exact route has the given number of concrete names. -/
theorem isExactRouteShape_iff :
    isExactRouteShape route scheme segmentCount = true ↔
      schemeFront scheme <+: route ∧ (schemeSegments scheme route).length = segmentCount ∧
        ∀ part ∈ schemeSegments scheme route, Concrete part := by
  have apart : ∀ part ∈ schemeSegments scheme route, slash ∉ part :=
    fun part => notMem_of_mem_splitOn slash
  rw [isExactRouteShape]
  cases found : routeParts route scheme false with
  | none =>
      simp only [Bool.false_eq_true, false_iff]
      rintro ⟨front, -, concrete⟩
      have shaped : Shaped (schemeSegments scheme route) :=
        ⟨fun part member => (concrete part member).1, fun part member inside =>
          absurd inside (concrete part member).2.1⟩
      have accepted : routeParts route scheme false = some (schemeSegments scheme route) :=
        routeParts_eq_some_segments_iff.mpr ⟨rfl, front, shaped, fun _ member =>
          absurd (star_inside (Or.inr rfl)) (concrete doubleStar member).2.1⟩
      rw [found] at accepted
      cases accepted
  | some parts =>
      obtain ⟨rfl, front, shaped, -⟩ := routeParts_eq_some_segments_iff.mp found
      simp only [front, true_and, decide_eq_true_eq]
      refine and_congr_right fun _ => forall₂_congr fun part member => ?_
      exact ⟨fun starFree => ⟨shaped.filled part member, starFree, apart part member⟩,
        fun concrete => concrete.2.1⟩

/-- Concrete names make an exact route. -/
theorem exact_ofSchemeSegments (nonempty : parts ≠ []) (concrete : ∀ part ∈ parts, Concrete part) :
    schemeSegments scheme (ofSchemeSegments scheme parts) = parts ∧
      isExactRouteShape (ofSchemeSegments scheme parts) scheme parts.length = true := by
  have segments : schemeSegments scheme (ofSchemeSegments scheme parts) = parts :=
    schemeSegments_ofSchemeSegments nonempty fun part member => (concrete part member).2.2
  refine ⟨segments, isExactRouteShape_iff.mpr ?_⟩
  rw [segments]
  exact ⟨List.prefix_append _ _, rfl, concrete⟩

/-- Two segments `**` next to each other. -/
theorem adjacentDoubleStars_iff (parts : List CodePoints) :
    adjacentDoubleStars parts = true ↔ [doubleStar, doubleStar] <:+: parts := by
  rw [adjacentDoubleStars, decide_eq_true_eq]
  induction parts with
  | nil => simp
  | cons first parts ih =>
      cases parts with
      | nil => simp [List.infix_cons_iff]
      | cons second parts =>
          rw [List.infix_cons_iff, ← ih]
          simp only [List.tail_cons, List.zip_cons_cons, List.exists_mem_cons_iff]
          refine or_congr_left ⟨fun both => ?_, fun front => ?_⟩
          · obtain ⟨rfl, rfl⟩ := both
            exact ⟨parts, rfl⟩
          · obtain ⟨rest, whole⟩ := front
            simp only [List.cons_append, List.cons.injEq] at whole
            exact ⟨whole.1.symm, whole.2.1.symm⟩

/-- The first segment is a literal. -/
def HeadLiteral (parts : List CodePoints) : Prop :=
  parts.head? ≠ some star ∧ parts.head? ≠ some doubleStar

/-- The segments that stand for one segment of a route. -/
def fixedParts (parts : List CodePoints) : List CodePoints :=
  parts.filter (· ≠ doubleStar)

theorem fixedParts_of_notMem (without : doubleStar ∉ parts) : fixedParts parts = parts :=
  List.filter_eq_self.mpr fun part member =>
    decide_eq_true fun same : part = doubleStar => without (same ▸ member)

theorem selector_interior_iff :
    isSelectorRouteShape route scheme segmentCount allowRealmWildcard true = true ↔
      schemeFront scheme <+: route ∧ Shaped (schemeSegments scheme route) ∧
        ¬ [doubleStar, doubleStar] <:+: schemeSegments scheme route ∧
        ((fixedParts (schemeSegments scheme route)).length ≤ segmentCount ∧
          (doubleStar ∉ schemeSegments scheme route →
            (fixedParts (schemeSegments scheme route)).length = segmentCount)) ∧
        (allowRealmWildcard = false → HeadLiteral (schemeSegments scheme route)) := by
  rw [isSelectorRouteShape]
  cases found : routeParts route scheme true with
  | none =>
      simp only [Bool.false_eq_true, false_iff]
      rintro ⟨front, shaped, -⟩
      have accepted : routeParts route scheme true = some (schemeSegments scheme route) :=
        routeParts_eq_some_segments_iff.mpr ⟨rfl, front, shaped, nofun⟩
      rw [found] at accepted
      cases accepted
  | some parts =>
      obtain ⟨rfl, front, shaped, -⟩ := routeParts_eq_some_segments_iff.mp found
      simp only [front, shaped, true_and, if_true, ← adjacentDoubleStars_iff]
      generalize schemeSegments scheme route = parts
      by_cases adjacent : adjacentDoubleStars parts = true
      case pos => simp [adjacent]
      simp only [adjacent, Bool.false_eq_true, if_false, not_false_eq_true, true_and]
      have counts : (segmentCount < (fixedParts parts).length ∨
          doubleStar ∉ parts ∧ (fixedParts parts).length ≠ segmentCount) ↔
          ¬ ((fixedParts parts).length ≤ segmentCount ∧
            (doubleStar ∉ parts → (fixedParts parts).length = segmentCount)) := by
        rw [not_and_or, Nat.not_le, Classical.not_imp]
      have realm : (¬ ((parts.head? = some star ∨ parts.head? = some doubleStar) ∧
          ¬ allowRealmWildcard = true)) ↔ (allowRealmWildcard = false → HeadLiteral parts) := by
        cases allowRealmWildcard <;> simp [HeadLiteral]
      rw [← realm]
      split_ifs with outside <;> simp only [decide_eq_true_eq] at outside
      · simp only [false_iff, not_and]
        exact fun inside => absurd inside (counts.mp outside)
      · simp only [decide_eq_true_eq]
        exact ⟨fun wildcard => ⟨not_not.mp fun apart => outside (counts.mpr apart), wildcard⟩,
          fun accepted => accepted.2⟩

theorem selector_default_iff :
    isSelectorRouteShape route scheme segmentCount allowRealmWildcard false = true ↔
      schemeFront scheme <+: route ∧ Shaped (schemeSegments scheme route) ∧
        (schemeSegments scheme route = [doubleStar] ∧ allowRealmWildcard = true ∨
          (∃ realm, schemeSegments scheme route = [realm, doubleStar] ∧
            (realm ≠ star ∨ allowRealmWildcard = true)) ∨
          (schemeSegments scheme route).length = segmentCount ∧
            doubleStar ∉ schemeSegments scheme route ∧
            ((schemeSegments scheme route).head? ≠ some star ∨ allowRealmWildcard = true)) := by
  rw [isSelectorRouteShape]
  cases found : routeParts route scheme false with
  | none =>
      simp only [Bool.false_eq_true, false_iff]
      rintro ⟨front, shaped, form⟩
      have accepted : routeParts route scheme false = some (schemeSegments scheme route) := by
        refine routeParts_eq_some_segments_iff.mpr ⟨rfl, front, shaped, fun _ member => ?_⟩
        rcases form with ⟨single, -⟩ | ⟨realm, pair, -⟩ | ⟨-, without, -⟩
        · rw [single]
          rfl
        · rw [pair]
          rfl
        · exact absurd member without
      rw [found] at accepted
      cases accepted
  | some parts =>
      obtain ⟨rfl, front, shaped, trailing⟩ := routeParts_eq_some_segments_iff.mp found
      simp only [front, shaped, true_and, Bool.false_eq_true, if_false]
      generalize schemeSegments scheme route = parts at trailing
      by_cases single : parts = [doubleStar]
      case pos => simp [single]
      by_cases pair : ∃ realm, parts = [realm, doubleStar]
      case pos =>
        obtain ⟨realm, rfl⟩ := pair
        simp
      have longer : ¬ (parts.length = 2 ∧ parts.getLast? = some doubleStar) := by
        rintro ⟨two, last⟩
        obtain ⟨realm, second, rfl⟩ := List.length_eq_two.mp two
        obtain rfl : second = doubleStar := by simpa using last
        exact pair ⟨realm, rfl⟩
      simp only [single, longer, if_false]
      split_ifs with other
      · simp only [false_iff]
        rintro (⟨empty, -⟩ | ⟨realm, isPair, -⟩ | ⟨counted, without, -⟩)
        · exact empty
        · exact pair ⟨realm, isPair⟩
        · exact other.elim (fun differs => differs counted) without
      · obtain ⟨counted, without⟩ := not_or.mp other
        have realm : (¬ (parts.head? = some star ∧ ¬ allowRealmWildcard = true)) ↔
            (parts.head? ≠ some star ∨ allowRealmWildcard = true) := by
          rw [not_and_or, not_not]
        rw [decide_eq_true_eq, realm]
        constructor
        · exact fun accepted => Or.inr (Or.inr ⟨not_not.mp counted, without, accepted⟩)
        · rintro (⟨empty, -⟩ | ⟨realm, isPair, -⟩ | ⟨-, -, accepted⟩)
          · exact empty.elim
          · exact (pair ⟨realm, isPair⟩).elim
          · exact accepted

/-- What is accepted by default is accepted with interior double stars, and
what is accepted in either mode has no adjacent `**` and, where realm wildcards
are not allowed, starts with a literal. -/
def WithinBroker (route : CodePoints) (scheme : String) (segmentCount : Nat)
    (allowRealmWildcard : Bool) : Prop :=
  (isSelectorRouteShape route scheme segmentCount allowRealmWildcard false = true →
    isSelectorRouteShape route scheme segmentCount allowRealmWildcard true = true) ∧
  ∀ allowInteriorDoubleStar,
    isSelectorRouteShape route scheme segmentCount allowRealmWildcard allowInteriorDoubleStar =
      true →
    ¬ [doubleStar, doubleStar] <:+: schemeSegments scheme route ∧
      (allowRealmWildcard = false → HeadLiteral (schemeSegments scheme route))

/-- The selector of this scheme with two segments, both `**`. -/
def twiceDoubleStar (scheme : String) : CodePoints :=
  ofSchemeSegments scheme [doubleStar, doubleStar]

theorem schemeSegments_twiceDoubleStar :
    schemeSegments scheme (twiceDoubleStar scheme) = [doubleStar, doubleStar] :=
  schemeSegments_ofSchemeSegments (by simp) (by decide)

theorem eq_twiceDoubleStar_iff (front : schemeFront scheme <+: route) :
    route = twiceDoubleStar scheme ↔
      schemeSegments scheme route = [doubleStar, doubleStar] := by
  constructor
  · rintro rfl
    exact schemeSegments_twiceDoubleStar
  · intro segments
    rw [twiceDoubleStar, ← segments, ofSchemeSegments_schemeSegments front]

theorem selector_twiceDoubleStar (scheme : String) (segmentCount : Nat)
    (allowRealmWildcard : Bool) :
    isSelectorRouteShape (twiceDoubleStar scheme) scheme segmentCount allowRealmWildcard false =
      true := by
  rw [selector_default_iff, schemeSegments_twiceDoubleStar]
  refine ⟨List.prefix_append _ _, ⟨?_, ?_⟩, Or.inr (Or.inl ⟨doubleStar, rfl, Or.inl ?_⟩)⟩
  · decide
  · intro part member _
    exact Or.inr (by simpa using member)
  · decide

/-- What is accepted by default, but for one selector. -/
theorem withinBroker_of_default (positive : 0 < segmentCount)
    (accepted :
      isSelectorRouteShape route scheme segmentCount allowRealmWildcard false = true)
    (apart : route ≠ twiceDoubleStar scheme) :
    isSelectorRouteShape route scheme segmentCount allowRealmWildcard true = true := by
  obtain ⟨front, shaped, form⟩ := selector_default_iff.mp accepted
  have differs := (not_congr (eq_twiceDoubleStar_iff front)).mp apart
  refine selector_interior_iff.mpr ⟨front, shaped, ?_⟩
  generalize schemeSegments scheme route = parts at form differs
  rcases form with ⟨rfl, wildcard⟩ | ⟨realm, rfl, wildcard⟩ | ⟨counted, without, wildcard⟩
  · refine ⟨fun adjacent => ?_, ⟨?_, fun without => ?_⟩, fun closed => ?_⟩
    · exact absurd adjacent.length_le (by simp)
    · simp [fixedParts]
    · exact absurd List.mem_cons_self without
    · simp [closed] at wildcard
  · have other : realm ≠ doubleStar := fun same => differs (by rw [same])
    refine ⟨fun adjacent => ?_, ⟨?_, fun without => ?_⟩, fun closed => ⟨?_, ?_⟩⟩
    · have same := adjacent.eq_of_length rfl
      exact other (List.cons.inj same).1.symm
    · have single : fixedParts [realm, doubleStar] = [realm] := by simp [fixedParts, other]
      rw [single]
      exact positive
    · exact absurd (.tail _ List.mem_cons_self) without
    · simpa [closed] using wildcard
    · simpa using other
  · refine ⟨fun adjacent => without (adjacent.mem List.mem_cons_self), ?_, fun closed => ⟨?_, ?_⟩⟩
    · rw [fixedParts_of_notMem without]
      exact ⟨counted.le, fun _ => counted⟩
    · simpa [closed] using wildcard
    · exact fun first => without (List.mem_of_head? first)

/-- For every string, scheme and realm-wildcard setting and every number of
segments, the default vocabulary lies within the grammar of the broker if and
only if the string is not the selector of two `**`. -/
theorem withinBroker_iff (route : CodePoints) (scheme : String) {segmentCount : Nat}
    (allowRealmWildcard : Bool) (positive : 0 < segmentCount) :
    WithinBroker route scheme segmentCount allowRealmWildcard ↔
      route ≠ twiceDoubleStar scheme := by
  constructor
  · rintro ⟨-, shapes⟩ rfl
    have accepted := selector_twiceDoubleStar scheme segmentCount allowRealmWildcard
    have apart := (shapes false accepted).1
    rw [schemeSegments_twiceDoubleStar] at apart
    exact apart (List.infix_rfl)
  · intro apart
    have shape (accepted : isSelectorRouteShape route scheme segmentCount allowRealmWildcard
        true = true) : ¬ [doubleStar, doubleStar] <:+: schemeSegments scheme route ∧
          (allowRealmWildcard = false → HeadLiteral (schemeSegments scheme route)) := by
      obtain ⟨-, -, adjacent, -, realm⟩ := selector_interior_iff.mp accepted
      exact ⟨adjacent, realm⟩
    refine ⟨fun accepted => withinBroker_of_default positive accepted apart, ?_⟩
    intro allowInteriorDoubleStar accepted
    cases allowInteriorDoubleStar with
    | false => exact shape (withinBroker_of_default positive accepted apart)
    | true => exact shape accepted

/-- Stream selectors of a realm lie within the grammar. -/
theorem withinBroker_trailing :
    WithinBroker (.ofString "stream://realm/**") "stream" 3 true ↔
      CodePoints.ofString "stream://realm/**" ≠ twiceDoubleStar "stream" :=
  withinBroker_iff _ _ true (by decide)

/-- `**` may be followed by another one. -/
theorem exists_outside_broker :
    ¬ ∀ route scheme segmentCount allowRealmWildcard, 0 < segmentCount →
      WithinBroker route scheme segmentCount allowRealmWildcard := by
  intro within
  have widens := (within (.ofString "lease://**/**") "lease" 3 true (by decide)).1
  exact absurd (widens (by decide +kernel)) (by decide +kernel)

/-- The routes that a selector of these segments matches. -/
def selectorGlob (scheme : String) (selector : CodePoints) : GlobPattern CodePoints :=
  (schemeSegments scheme selector).map globSegment

theorem globSegment_eq_many_iff {part : CodePoints} :
    globSegment part = .many ↔ part = doubleStar := by
  rw [globSegment]
  split_ifs <;> simp_all

theorem many_mem_iff :
    GlobSegment.many ∈ parts.map globSegment ↔ doubleStar ∈ parts := by
  simp only [List.mem_map, globSegment_eq_many_iff, exists_eq_right]

theorem length_fixed_map (parts : List CodePoints) :
    (GlobPattern.fixed (parts.map globSegment)).length = (fixedParts parts).length := by
  rw [GlobPattern.fixed, List.filter_map, List.length_map, fixedParts]
  congr 1
  refine List.filter_congr fun part _ => ?_
  simp [globSegment_eq_many_iff]

/-- The literals of a well-formed selector are names of concrete routes. -/
theorem concrete_of_literal_mem {name : CodePoints}
    (shaped : Shaped (schemeSegments scheme route))
    (member : .literal name ∈ selectorGlob scheme route) : Concrete name := by
  obtain ⟨part, inSelector, parsed⟩ := List.mem_map.mp member
  rw [globSegment] at parsed
  split_ifs at parsed with isMany isStar
  obtain rfl := GlobSegment.literal.inj parsed
  exact ⟨shaped.filled part inSelector,
    fun inside => (shaped.alone part inSelector inside).elim isStar isMany,
    notMem_of_mem_splitOn slash inSelector⟩

/-- The count of segments decides whether some route is matched. -/
theorem exists_exact_iff (shaped : Shaped (schemeSegments scheme route))
    (positive : 0 < segmentCount) :
    (∃ candidate, isExactRouteShape candidate scheme segmentCount = true ∧
      (selectorGlob scheme route).Matches (schemeSegments scheme candidate)) ↔
      (fixedParts (schemeSegments scheme route)).length ≤ segmentCount ∧
        (doubleStar ∉ schemeSegments scheme route →
          (fixedParts (schemeSegments scheme route)).length = segmentCount) := by
  rw [← length_fixed_map, ← many_mem_iff, ← selectorGlob,
    ← GlobPattern.exists_matches_length_iff (CodePoints.ofString "a")]
  constructor
  · rintro ⟨candidate, exact, matched⟩
    obtain ⟨-, counted, -⟩ := isExactRouteShape_iff.mp exact
    obtain ⟨path, sameLength, matchedPath, names⟩ :=
      (GlobPattern.exists_matches_length_iff (CodePoints.ofString "a")).mpr
        ⟨matched.length_fixed_le, fun without => (matched.length_eq without).symm⟩
    exact ⟨path, sameLength.trans counted, matchedPath, names⟩
  · rintro ⟨path, counted, matched, names⟩
    have nonempty : path ≠ [] := List.ne_nil_of_length_pos (counted ▸ positive)
    have concrete : ∀ part ∈ path, Concrete part := by
      intro part member
      rcases names part member with rfl | literal
      · decide +kernel
      · exact concrete_of_literal_mem shaped literal
    obtain ⟨segments, exact⟩ := @exact_ofSchemeSegments scheme path nonempty concrete
    exact ⟨ofSchemeSegments scheme path, counted ▸ exact, by rwa [segments]⟩

theorem shaped_iff : Shaped parts ↔ ∀ part ∈ parts, part ≠ [] ∧
    (asterisk ∉ part ∨ part = star ∨ part = doubleStar) := by
  constructor
  · intro shaped part member
    exact ⟨shaped.filled part member, Classical.or_iff_not_imp_left.mpr fun inside =>
      shaped.alone part member (not_not.mp inside)⟩
  · intro formed
    exact ⟨fun part member => (formed part member).1, fun part member inside =>
      (formed part member).2.resolve_left fun without => without inside⟩

/-- With interior double stars a selector is accepted if and only if it is well
formed and matches a route of the domain. -/
theorem selector_accepts_iff (route : CodePoints) (scheme : String) {segmentCount : Nat}
    (allowRealmWildcard : Bool) (positive : 0 < segmentCount) :
    isSelectorRouteShape route scheme segmentCount allowRealmWildcard true = true ↔
      schemeFront scheme <+: route ∧
        (∀ part ∈ schemeSegments scheme route, part ≠ [] ∧
          (asterisk ∉ part ∨ part = star ∨ part = doubleStar)) ∧
        ¬ [doubleStar, doubleStar] <:+: schemeSegments scheme route ∧
        (allowRealmWildcard = false → HeadLiteral (schemeSegments scheme route)) ∧
        ∃ candidate, isExactRouteShape candidate scheme segmentCount = true ∧
          (selectorGlob scheme route).Matches (schemeSegments scheme candidate) := by
  rw [selector_interior_iff, ← shaped_iff]
  refine and_congr_right fun _ => and_congr_right fun shaped => and_congr_right fun _ => ?_
  rw [exists_exact_iff shaped positive, and_comm]

/-- An interior `**` that matches no segment of the shortest route. -/
theorem selector_accepts_interior :
    isSelectorRouteShape (.ofString "lease://realm/**/area/lock") "lease" 3 false true = true ↔
      schemeFront "lease" <+: CodePoints.ofString "lease://realm/**/area/lock" ∧
        (∀ part ∈ schemeSegments "lease" (.ofString "lease://realm/**/area/lock"), part ≠ [] ∧
          (asterisk ∉ part ∨ part = star ∨ part = doubleStar)) ∧
        ¬ [doubleStar, doubleStar] <:+:
          schemeSegments "lease" (.ofString "lease://realm/**/area/lock") ∧
        (false = false →
          HeadLiteral (schemeSegments "lease" (.ofString "lease://realm/**/area/lock"))) ∧
        ∃ candidate, isExactRouteShape candidate "lease" 3 = true ∧
          (selectorGlob "lease" (.ofString "lease://realm/**/area/lock")).Matches
            (schemeSegments "lease" candidate) :=
  selector_accepts_iff _ _ false (by decide)

end FitzClient
