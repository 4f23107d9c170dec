import FitzClient.RouteSelectors
import FitzClient.StreamPage

/-!
# Selectors of streams

A page of a stream has the extended layout when its selector spans realms.  The
client reads this off the text of the selector, and what it accepts as a
selector is decided by the shape of its segments.  The two agree, but for the
selector of two `**` that should not have been accepted.
-/

namespace FitzClient

open RpcRoutes

namespace StreamSelectors

/-- The `StreamError` that `_assert_stream_pattern` raises. -/
structure InvalidPattern where
  message : CodePoints
  reason : String
  deriving DecidableEq, Repr

def invalidPattern (pattern : CodePoints) : InvalidPattern where
  message := .ofString "Invalid stream pattern: " ++ pattern ++
    .ofString (" (expected stream://\x7brealm\x7d/\x7barea\x7d/\x7bresource\x7d, " ++
      "stream://\x7brealm\x7d/\x7barea\x7d/*, or stream://\x7brealm\x7d/**)")
  reason := "INVALID_ROUTE"

/-- `_assert_stream_pattern` -/
def assertStreamPattern (pattern : CodePoints) : Except InvalidPattern Unit :=
  if pattern = .ofString "stream://*/**" ∨
      ¬ isSelectorRouteShape pattern "stream" 3 true false then
    .error (invalidPattern pattern)
  else
    .ok ()

/-- The selector matches streams of two realms. -/
def SpansRealms (pattern : CodePoints) : Prop :=
  ∃ first second : CodePoints,
    isExactRouteShape first "stream" 3 = true ∧ isExactRouteShape second "stream" 3 = true ∧
      (selectorGlob "stream" pattern).Matches (schemeSegments "stream" first) ∧
      (selectorGlob "stream" pattern).Matches (schemeSegments "stream" second) ∧
      (schemeSegments "stream" first).head? ≠ (schemeSegments "stream" second).head?

variable {pattern : CodePoints} {parts : List CodePoints}

theorem assertStreamPattern_iff :
    assertStreamPattern pattern = .ok () ↔ pattern ≠ .ofString "stream://*/**" ∧
      isSelectorRouteShape pattern "stream" 3 true false = true := by
  rw [assertStreamPattern]
  split_ifs with refused
  · simp only [false_iff]
    rintro ⟨apart, accepted⟩
    exact refused.elim apart fun rejected => rejected accepted
  · obtain ⟨apart, accepted⟩ := not_or.mp refused
    simp [apart, not_not.mp accepted]

theorem eq_ofSchemeSegments_iff (front : schemeFront "stream" <+: pattern)
    (nonempty : parts ≠ []) (apart : ∀ part ∈ parts, slash ∉ part) :
    pattern = ofSchemeSegments "stream" parts ↔ schemeSegments "stream" pattern = parts := by
  constructor
  · rintro rfl
    exact schemeSegments_ofSchemeSegments nonempty apart
  · rintro rfl
    exact (ofSchemeSegments_schemeSegments front).symm

/-- The text begins with `*` and a slash if the first of several segments is
`*`. -/
theorem star_slash_isPrefix_iff (front : schemeFront "stream" <+: pattern) :
    CodePoints.ofString "stream://*/" <+: pattern ↔
      (schemeSegments "stream" pattern).head? = some star ∧
        1 < (schemeSegments "stream" pattern).length := by
  have text : CodePoints.ofString "stream://*/" = schemeFront "stream" ++ (star ++ [slash]) := by
    decide +kernel
  constructor
  · rintro ⟨rest, whole⟩
    have nonempty : rest.splitOn slash ≠ [] := List.splitOn_ne_nil _ _
    have segments : schemeSegments "stream" pattern = star :: rest.splitOn slash := by
      rw [← eq_ofSchemeSegments_iff front (List.cons_ne_nil _ _)]
      · rw [ofSchemeSegments, List.intercalate_cons_of_ne_nil nonempty, List.intercalate_splitOn,
          ← whole, text]
        simp
      · intro part member
        rcases List.mem_cons.mp member with rfl | later
        · decide
        · exact notMem_of_mem_splitOn slash later
    rw [segments]
    exact ⟨rfl, by simpa using List.length_pos_of_ne_nil nonempty⟩
  · rintro ⟨head, long⟩
    obtain ⟨first, second, more, segments⟩ :
        ∃ first second more, schemeSegments "stream" pattern = first :: second :: more := by
      generalize schemeSegments "stream" pattern = parts at long ⊢
      rcases parts with _ | ⟨first, _ | ⟨second, more⟩⟩
      · exact absurd long (Nat.not_lt_zero 1)
      · exact absurd long (Nat.lt_irrefl 1)
      · exact ⟨first, second, more, rfl⟩
    rw [segments] at head
    obtain rfl : first = star := by simpa using head
    refine ⟨[slash].intercalate (second :: more), ?_⟩
    rw [← ofSchemeSegments_schemeSegments front, segments, ofSchemeSegments,
      List.intercalate_cons_cons, text]
    simp

theorem isExtended_iff (front : schemeFront "stream" <+: pattern) :
    StreamPage.isExtended pattern = true ↔ schemeSegments "stream" pattern = [doubleStar] ∨
      (schemeSegments "stream" pattern).head? = some star ∧
        1 < (schemeSegments "stream" pattern).length := by
  have whole : CodePoints.ofString "stream://**" = ofSchemeSegments "stream" [doubleStar] := by
    decide +kernel
  rw [StreamPage.isExtended, decide_eq_true_eq, star_slash_isPrefix_iff front, whole,
    eq_ofSchemeSegments_iff front (by simp) (by decide)]

/-- A wildcard in front may stand for any realm. -/
theorem exists_stream_of_realm
    (accepted : isSelectorRouteShape pattern "stream" 3 true false = true)
    (wildcard : (schemeSegments "stream" pattern).head? = some star ∨
      (schemeSegments "stream" pattern).head? = some doubleStar) {realm : CodePoints}
    (concreteRealm : Concrete realm) :
    ∃ candidate, isExactRouteShape candidate "stream" 3 = true ∧
      (selectorGlob "stream" pattern).Matches (schemeSegments "stream" candidate) ∧
      (schemeSegments "stream" candidate).head? = some realm := by
  obtain ⟨front, shaped, form⟩ := selector_default_iff.mp accepted
  obtain ⟨count, counted, starts⟩ : ∃ count,
      ((selectorGlob "stream" pattern).expand realm count).length = 3 ∧
        ((selectorGlob "stream" pattern).head? = some .one ∨
          (selectorGlob "stream" pattern).head? = some .many ∧ 0 < count) := by
    rw [selectorGlob]
    generalize schemeSegments "stream" pattern = parts at form wildcard
    rcases form with ⟨rfl, -⟩ | ⟨first, rfl, -⟩ | ⟨counted, without, -⟩
    · exact ⟨3, rfl, Or.inr ⟨rfl, by decide⟩⟩
    · rcases wildcard with isStar | isDouble
      · obtain rfl : first = star := by simpa using isStar
        exact ⟨2, rfl, Or.inl rfl⟩
      · obtain rfl : first = doubleStar := by simpa using isDouble
        exact ⟨3, rfl, Or.inr ⟨rfl, by decide⟩⟩
    · have isStar : parts.head? = some star :=
        wildcard.resolve_right fun isDouble => without (List.mem_of_head? isDouble)
      refine ⟨0, ?_, Or.inl ?_⟩
      · rw [GlobPattern.length_expand, length_fixed_map, fixedParts_of_notMem without, counted]
        simp
      · rw [List.head?_map, isStar]
        rfl
  have nonempty : (selectorGlob "stream" pattern).expand realm count ≠ [] :=
    List.ne_nil_of_length_pos (by omega)
  have concrete : ∀ part ∈ (selectorGlob "stream" pattern).expand realm count, Concrete part := by
    intro part member
    rcases GlobPattern.mem_expand member with rfl | literal
    · exact concreteRealm
    · exact concrete_of_literal_mem shaped literal
  obtain ⟨segments, exact⟩ := @exact_ofSchemeSegments "stream" _ nonempty concrete
  rw [counted] at exact
  refine ⟨_, exact, ?_, ?_⟩
  · rw [segments]
    exact GlobPattern.matches_expand _ _ _
  · rw [segments, GlobPattern.head_expand starts]

/-- An accepted selector spans realms if and only if its first segment is a
wildcard. -/
theorem spansRealms_iff (accepted : isSelectorRouteShape pattern "stream" 3 true false = true) :
    SpansRealms pattern ↔ (schemeSegments "stream" pattern).head? = some star ∨
      (schemeSegments "stream" pattern).head? = some doubleStar := by
  constructor
  · rintro ⟨first, second, -, -, matchesFirst, matchesSecond, differ⟩
    obtain ⟨realm, rest, segments⟩ := List.exists_cons_of_ne_nil
      (@schemeSegments_ne_nil pattern "stream")
    rw [segments]
    by_contra literal
    have starts : (selectorGlob "stream" pattern).head? = some (.literal realm) := by
      have apart : realm ≠ star ∧ realm ≠ doubleStar := by simpa [not_or] using literal
      rw [selectorGlob, segments, List.map_cons, List.head?_cons, globSegment,
        if_neg apart.2, if_neg apart.1]
    exact differ ((GlobPattern.head_of_literal starts matchesFirst).trans
      (GlobPattern.head_of_literal starts matchesSecond).symm)
  · intro wildcard
    obtain ⟨first, exactFirst, matchesFirst, realmFirst⟩ :=
      exists_stream_of_realm accepted wildcard
        (by decide +kernel : Concrete (.ofString "a"))
    obtain ⟨second, exactSecond, matchesSecond, realmSecond⟩ :=
      exists_stream_of_realm accepted wildcard
        (by decide +kernel : Concrete (.ofString "b"))
    refine ⟨first, second, exactFirst, exactSecond, matchesFirst, matchesSecond, ?_⟩
    rw [realmFirst, realmSecond]
    decide +kernel

/-- The layout of a page is the right one for every accepted selector but
`stream://**/**`. -/
theorem isExtended_iff_spansRealms_iff (accepted : assertStreamPattern pattern = .ok ()) :
    (StreamPage.isExtended pattern = true ↔ SpansRealms pattern) ↔
      pattern ≠ .ofString "stream://**/**" := by
  obtain ⟨apart, isSelector⟩ := assertStreamPattern_iff.mp accepted
  obtain ⟨front, shaped, form⟩ := selector_default_iff.mp isSelector
  have twice : CodePoints.ofString "stream://**/**" = twiceDoubleStar "stream" := by
    decide +kernel
  have excluded : CodePoints.ofString "stream://*/**" =
      ofSchemeSegments "stream" [star, doubleStar] := by
    decide +kernel
  rw [excluded, ne_eq, eq_ofSchemeSegments_iff front (by simp) (by decide)] at apart
  rw [isExtended_iff front, spansRealms_iff isSelector, twice, ne_eq, eq_twiceDoubleStar_iff front]
  generalize schemeSegments "stream" pattern = parts at form apart
  rcases form with ⟨rfl, -⟩ | ⟨realm, rfl, -⟩ | ⟨counted, without, -⟩
  · simp
  · by_cases isDouble : realm = doubleStar
    · subst isDouble
      simp [star, doubleStar]
    · have notExcluded : realm ≠ star := fun isStar => apart (by rw [isStar])
      simp [isDouble, notExcluded]
  · have head : parts.head? ≠ some doubleStar := fun isDouble =>
      without (List.mem_of_head? isDouble)
    have apartFrom : parts ≠ [doubleStar] ∧ parts ≠ [doubleStar, doubleStar] :=
      ⟨fun same => without (same ▸ List.mem_cons_self),
        fun same => without (same ▸ List.mem_cons_self)⟩
    simp [head, apartFrom, counted]

/-- Selectors over all realms have the extended layout. -/
theorem isExtended_of_all_realms :
    (StreamPage.isExtended (.ofString "stream://**") = true ↔
      SpansRealms (.ofString "stream://**")) ↔
      CodePoints.ofString "stream://**" ≠ .ofString "stream://**/**" :=
  isExtended_iff_spansRealms_iff (by decide +kernel)

/-- The client reads pages for two `**` in the layout of one realm. -/
theorem exists_wrong_layout :
    ¬ ∀ pattern, assertStreamPattern pattern = .ok () →
      (StreamPage.isExtended pattern = true ↔ SpansRealms pattern) := by
  intro agrees
  have accepted : assertStreamPattern (.ofString "stream://**/**") = .ok () := by decide +kernel
  have spans : SpansRealms (.ofString "stream://**/**") :=
    (spansRealms_iff (assertStreamPattern_iff.mp accepted).2).mpr (Or.inr (by decide +kernel))
  have extended := (agrees _ accepted).mpr spans
  exact absurd extended (by decide +kernel)

end StreamSelectors

end FitzClient
