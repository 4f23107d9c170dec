import FitzClient.WireBuffer
import FitzClient.GlobPattern

/-!
# Routes

A route is a scheme followed by segments with a slash between them.  The
domains check its shape before it is sent: no segment is empty, an asterisk
stands alone in its segment, and `**` may only end a selector.  The check for
the last rule looks at the last segment alone, so a selector with another `**`
further in front passes it too.
-/

namespace FitzClient

/-- `"*"`, which stands for one segment. -/
def star : CodePoints := [0x2A]

/-- `"**"`, which stands for any number of segments. -/
def doubleStar : CodePoints := [0x2A, 0x2A]

/-- The code point of `"*"`. -/
def asterisk : Nat := 0x2A

/-- The code point of `"/"`. -/
def slash : Nat := 0x2F

/-- `_parts` -/
def routeParts (route : CodePoints) (scheme : String) (allowInteriorDoubleStar : Bool) :
    Option (List CodePoints) :=
  let front := CodePoints.ofString (scheme ++ "://")
  if ¬ front <+: route then
    none
  else
    let parts := (route.drop front.length).splitOn slash
    if parts.isEmpty ∨ ∃ part ∈ parts, part.isEmpty then
      none
    else if ∃ part ∈ parts, asterisk ∈ part ∧ ¬ (part = star ∨ part = doubleStar) then
      none
    else if ¬ allowInteriorDoubleStar ∧ doubleStar ∈ parts ∧ parts.getLast? ≠ some doubleStar then
      none
    else
      some parts

/-- No part is empty, and an asterisk stands alone in its part. -/
structure Shaped (parts : List CodePoints) : Prop where
  filled : ∀ part ∈ parts, part ≠ []
  alone : ∀ part ∈ parts, asterisk ∈ part → part = star ∨ part = doubleStar

theorem routeParts_eq_some_iff {route : CodePoints} {scheme : String}
    {allowInteriorDoubleStar : Bool} {parts : List CodePoints} :
    routeParts route scheme allowInteriorDoubleStar = some parts ↔
      CodePoints.ofString (scheme ++ "://") <+: route ∧
        parts = (route.drop (CodePoints.ofString (scheme ++ "://")).length).splitOn slash ∧
        Shaped parts ∧
        (allowInteriorDoubleStar = false → doubleStar ∈ parts →
          parts.getLast? = some doubleStar) := by
  rw [routeParts]
  by_cases front : CodePoints.ofString (scheme ++ "://") <+: route
  case neg => simp [front]
  simp only [front, not_true_eq_false, if_false, true_and]
  have nonempty : (route.drop (CodePoints.ofString (scheme ++ "://")).length).splitOn slash ≠ [] :=
    List.splitOn_ne_nil _ _
  generalize (route.drop (CodePoints.ofString (scheme ++ "://")).length).splitOn slash = split
    at nonempty ⊢
  split_ifs with empty apart interior
  · simp only [false_iff]
    rintro ⟨rfl, shaped, -⟩
    rcases empty with empty | ⟨part, member, empty⟩
    · exact nonempty (List.isEmpty_iff.mp empty)
    · exact shaped.filled part member (List.isEmpty_iff.mp empty)
  · simp only [false_iff]
    rintro ⟨rfl, shaped, -⟩
    obtain ⟨part, member, inside, other⟩ := apart
    exact other (shaped.alone part member inside)
  · simp only [false_iff]
    rintro ⟨rfl, -, trailing⟩
    obtain ⟨closed, member, last⟩ := interior
    exact last (trailing (by simpa using closed) member)
  · rw [Option.some.injEq]
    constructor
    · rintro rfl
      refine ⟨rfl, ⟨fun part member none => ?_, fun part member inside => ?_⟩,
        fun closed member => ?_⟩
      · exact empty (Or.inr ⟨part, member, List.isEmpty_iff.mpr none⟩)
      · exact not_not.mp fun other => apart ⟨part, member, inside, other⟩
      · exact not_not.mp fun last => interior ⟨by simp [closed], member, last⟩
    · rintro ⟨rfl, -, -⟩
      rfl

/-- `is_exact_route_shape` -/
def isExactRouteShape (route : CodePoints) (scheme : String) (segmentCount : Nat) : Bool :=
  match routeParts route scheme false with
  | none => false
  | some parts => parts.length = segmentCount ∧ ∀ part ∈ parts, asterisk ∉ part

/-- `itertools.pairwise` has a pair of `"**"`. -/
def adjacentDoubleStars (parts : List CodePoints) : Bool :=
  ∃ pair ∈ parts.zip parts.tail, pair.1 = doubleStar ∧ pair.2 = doubleStar

/-- `is_selector_route_shape` -/
def isSelectorRouteShape (route : CodePoints) (scheme : String) (segmentCount : Nat)
    (allowRealmWildcard allowInteriorDoubleStar : Bool) : Bool :=
  match routeParts route scheme allowInteriorDoubleStar with
  | none => false
  | some parts =>
      if allowInteriorDoubleStar then
        if adjacentDoubleStars parts then
          false
        else
          let fixed := (parts.filter (· ≠ doubleStar)).length
          let flexible : Bool := doubleStar ∈ parts
          if segmentCount < fixed ∨ ¬ flexible ∧ fixed ≠ segmentCount then
            false
          else
            ¬ ((parts.head? = some star ∨ parts.head? = some doubleStar) ∧ ¬ allowRealmWildcard)
      else if parts = [doubleStar] then
        allowRealmWildcard
      else if parts.length = 2 ∧ parts.getLast? = some doubleStar then
        parts.head? ≠ some star ∨ allowRealmWildcard
      else if parts.length ≠ segmentCount ∨ doubleStar ∈ parts then
        false
      else
        ¬ (parts.head? = some star ∧ ¬ allowRealmWildcard)

namespace RpcRoutes

/-- The length of `"rpc://"`. -/
def schemeLength : Nat := 6

/-- `route[6:].split("/")` -/
def segments (route : CodePoints) : List CodePoints :=
  (route.drop schemeLength).splitOn slash

/-- The `RPCError` that `_route` raises. -/
structure InvalidRoute where
  message : CodePoints
  code : String
  deriving DecidableEq, Repr

def invalidRoute (route : CodePoints) : InvalidRoute where
  message := .ofString "Invalid RPC route: " ++ route
  code := "INVALID_ROUTE"

/-- `_route` -/
def route (candidate : CodePoints) (patterns : Bool) : Except InvalidRoute Unit :=
  if ¬ CodePoints.ofString "rpc://" <+: candidate then
    .error (invalidRoute candidate)
  else
    let parts := segments candidate
    if (parts.isEmpty ∨ ∃ part ∈ parts, part.isEmpty) ∨
        (¬ patterns ∧ ∃ part ∈ parts, asterisk ∈ part) ∨
        (∃ part ∈ parts, asterisk ∈ part ∧ ¬ (part = star ∨ part = doubleStar)) ∨
        doubleStar ∈ parts ∧ parts.getLast? ≠ some doubleStar then
      .error (invalidRoute candidate)
    else
      .ok ()

/-- The loop of `_matches` from a segment of the pattern on; `total` is
`len(pattern_parts)`. -/
def matchesFrom (routeParts : List CodePoints) (total : Nat) : Nat → List CodePoints → Bool
  | _, [] => routeParts.length = total
  | index, part :: parts =>
      if part = doubleStar then
        true
      else
        match routeParts[index]? with
        | none => false
        | some segment =>
            if part = star ∨ part = segment then
              matchesFrom routeParts total (index + 1) parts
            else
              false

/-- `_matches` -/
def routeMatches (candidate pattern : CodePoints) : Bool :=
  matchesFrom (segments candidate) (segments pattern).length 0 (segments pattern)

theorem schemeLength_eq : (CodePoints.ofString "rpc://").length = schemeLength := by
  decide +kernel

theorem route_eq_ok_iff {candidate : CodePoints} {patterns : Bool} :
    route candidate patterns = .ok () ↔
      CodePoints.ofString "rpc://" <+: candidate ∧ Shaped (segments candidate) ∧
        (patterns = false → ∀ part ∈ segments candidate, asterisk ∉ part) ∧
        (doubleStar ∈ segments candidate →
          (segments candidate).getLast? = some doubleStar) := by
  have nonempty : segments candidate ≠ [] := List.splitOn_ne_nil _ _
  rw [route]
  by_cases front : CodePoints.ofString "rpc://" <+: candidate
  case neg => simp [front]
  simp only [front, not_true_eq_false, if_false, true_and]
  split_ifs with invalid
  · simp only [false_iff]
    rintro ⟨shaped, concrete, trailing⟩
    rcases invalid with (empty | ⟨part, member, empty⟩) | ⟨closed, part, member, inside⟩ |
      ⟨part, member, inside, apart⟩ | ⟨member, last⟩
    · exact nonempty (List.isEmpty_iff.mp empty)
    · exact shaped.filled part member (List.isEmpty_iff.mp empty)
    · exact concrete (by simpa using closed) part member inside
    · exact apart (shaped.alone part member inside)
    · exact last (trailing member)
  · simp only [true_iff]
    obtain ⟨notEmpty, closed⟩ := not_or.mp invalid
    obtain ⟨concrete, closed⟩ := not_or.mp closed
    obtain ⟨alone, trailing⟩ := not_or.mp closed
    refine ⟨⟨fun part member empty => ?_, fun part member inside => ?_⟩,
      fun shut part member inside => ?_, fun member => ?_⟩
    · exact notEmpty (Or.inr ⟨part, member, List.isEmpty_iff.mpr empty⟩)
    · exact not_not.mp fun apart => alone ⟨part, member, inside, apart⟩
    · exact concrete ⟨by simp [shut], part, member, inside⟩
    · exact not_not.mp fun last => trailing ⟨member, last⟩

/-- A name that a concrete route may have. -/
def Concrete (part : CodePoints) : Prop :=
  part ≠ [] ∧ asterisk ∉ part ∧ slash ∉ part

instance : DecidablePred Concrete := fun _ => inferInstanceAs (Decidable (_ ∧ _))

/-- The route with these segments. -/
def ofSegments (parts : List CodePoints) : CodePoints :=
  CodePoints.ofString "rpc://" ++ [slash].intercalate parts

theorem segments_ofSegments {parts : List CodePoints} (nonempty : parts ≠ [])
    (apart : ∀ part ∈ parts, slash ∉ part) : segments (ofSegments parts) = parts := by
  rw [segments, ofSegments, List.drop_left' schemeLength_eq]
  exact List.splitOn_intercalate slash apart nonempty

theorem star_inside {part : CodePoints} (isStar : part = star ∨ part = doubleStar) :
    asterisk ∈ part := by
  rcases isStar with rfl | rfl <;> decide

/-- Concrete names make a concrete route. -/
theorem route_ofSegments {parts : List CodePoints} (nonempty : parts ≠ [])
    (concrete : ∀ part ∈ parts, Concrete part) : route (ofSegments parts) false = .ok () := by
  rw [route_eq_ok_iff, segments_ofSegments nonempty fun part member => (concrete part member).2.2]
  refine ⟨List.prefix_append _ _, ⟨fun part member => (concrete part member).1,
    fun part member inside => absurd inside (concrete part member).2.1⟩,
    fun _ part member => (concrete part member).2.1, fun member => ?_⟩
  exact absurd (star_inside (Or.inr rfl)) (concrete doubleStar member).2.1

theorem notMem_of_mem_splitOn (separator : Nat) {text part : CodePoints}
    (member : part ∈ text.splitOn separator) : separator ∉ part := by
  induction text generalizing part with
  | nil =>
      obtain rfl : part = [] := by simpa using member
      exact List.not_mem_nil
  | cons point text ih =>
      rw [List.splitOn_cons_eq_if_modifyHead] at member
      cases pieces : text.splitOn separator with
      | nil => exact absurd pieces (List.splitOn_ne_nil _ _)
      | cons first others =>
          rw [pieces] at member ih
          split_ifs at member with separates
          · cases member with
            | head => exact List.not_mem_nil
            | tail _ later => exact ih later
          · cases member with
            | head =>
                have differs : separator ≠ point := fun same => separates (by simp [same])
                simp [differs, ih List.mem_cons_self]
            | tail _ later => exact ih (.tail _ later)

/-- The meaning of a part of a pattern. -/
def globSegment (part : CodePoints) : GlobSegment CodePoints :=
  if part = doubleStar then .many else if part = star then .one else .literal part

/-- The documented meaning of a worker pattern. -/
def glob (pattern : CodePoints) : GlobPattern CodePoints :=
  (segments pattern).map globSegment

/-- The loop stops at the first `**`, whatever comes after it. -/
theorem matchesFrom_eq_frontMatches {routeParts parts : List CodePoints} {total index : Nat}
    (counted : total = index + parts.length) (within : index ≤ routeParts.length) :
    matchesFrom routeParts total index parts =
      GlobPattern.frontMatches (parts.map globSegment) (routeParts.drop index) := by
  induction parts generalizing index with
  | nil =>
      rw [List.map_nil, GlobPattern.frontMatches, matchesFrom, counted]
      rw [Bool.eq_iff_iff, decide_eq_true_eq, List.isEmpty_iff, List.drop_eq_nil_iff,
        List.length_nil]
      omega
  | cons part parts ih =>
      rw [matchesFrom, List.map_cons]
      by_cases isMany : part = doubleStar
      case pos =>
        rw [if_pos isMany, globSegment, if_pos isMany]
        rfl
      rw [if_neg isMany]
      have isFixed : globSegment part ≠ .many := by
        rw [globSegment, if_neg isMany]
        split_ifs <;> simp
      cases found : routeParts[index]? with
      | none =>
          have spent : routeParts.drop index = [] :=
            List.drop_eq_nil_iff.mpr (List.getElem?_eq_none_iff.mp found)
          rw [spent, GlobPattern.frontMatches_cons_nil isFixed]
      | some segment =>
          obtain ⟨inside, atIndex⟩ := List.getElem?_eq_some_iff.mp found
          have next : routeParts.drop index = segment :: routeParts.drop (index + 1) := by
            rw [← atIndex]
            exact List.drop_eq_getElem_cons inside
          have admits : (globSegment part).admits segment =
              decide (part = star ∨ part = segment) := by
            rw [globSegment, if_neg isMany]
            split_ifs with isStar
            · simp [GlobSegment.admits, isStar]
            · simp [GlobSegment.admits, isStar]
          have later : total = index + 1 + parts.length := by
            rw [counted, List.length_cons]
            omega
          rw [next, GlobPattern.frontMatches_cons_cons isFixed, admits, ← ih later inside]
          by_cases passes : part = star ∨ part = segment
          · simp [passes]
          · simp [passes]

theorem routeMatches_eq_frontMatches (candidate pattern : CodePoints) :
    routeMatches candidate pattern =
      GlobPattern.frontMatches (glob pattern) (segments candidate) :=
  matchesFrom_eq_frontMatches (Nat.zero_add _).symm (Nat.zero_le _)

/-- The literals of an accepted pattern are names of concrete routes. -/
theorem concrete_of_literal {pattern name : CodePoints} (accepted : route pattern true = .ok ())
    (member : .literal name ∈ glob pattern) : Concrete name := by
  obtain ⟨-, shaped, -, -⟩ := route_eq_ok_iff.mp accepted
  obtain ⟨part, inPattern, parsed⟩ := List.mem_map.mp member
  rw [globSegment] at parsed
  split_ifs at parsed with isMany isStar
  obtain rfl := GlobSegment.literal.inj parsed
  exact ⟨shaped.filled part inPattern,
    fun inside => (shaped.alone part inPattern inside).elim isStar isMany,
    notMem_of_mem_splitOn slash inPattern⟩

/-- There is always another name. -/
theorem exists_other_concrete (name : CodePoints) : ∃ other, Concrete other ∧ other ≠ name := by
  by_cases same : name = CodePoints.ofString "a"
  · refine ⟨CodePoints.ofString "b", by decide +kernel, ?_⟩
    rw [same]
    decide +kernel
  · exact ⟨CodePoints.ofString "a", by decide +kernel, Ne.symm same⟩

/-- For every worker pattern that `_route` accepts, `_matches` gives its
documented meaning on all concrete routes if and only if nothing but `**`
follows its first `**`, or it starts with `**` and besides such segments has
a single `*`. -/
theorem routeMatches_documented_iff {pattern : CodePoints}
    (accepted : route pattern true = .ok ()) :
    (∀ candidate, route candidate false = .ok () →
      (routeMatches candidate pattern = true ↔ (glob pattern).Matches (segments candidate))) ↔
      (glob pattern).StopsRight := by
  simp only [routeMatches_eq_frontMatches]
  constructor
  · intro documented
    have someName : Concrete (CodePoints.ofString "a") := by decide +kernel
    refine GlobPattern.stopsRight_of_sound someName (fun name => concrete_of_literal accepted)
      exists_other_concrete ?_
    intro path nonempty concrete answered
    have parsed : segments (ofSegments path) = path :=
      segments_ofSegments nonempty fun part member => (concrete part member).2.2
    have agrees := documented (ofSegments path) (route_ofSegments nonempty concrete)
    rw [parsed] at agrees
    exact agrees.mp answered
  · intro stops candidate _
    exact GlobPattern.frontMatches_iff_of_stopsRight stops (List.splitOn_ne_nil _ _)

/-- Workers for everything of one service are matched as documented. -/
theorem routeMatches_documented_trailing :
    (∀ candidate, route candidate false = .ok () →
      (routeMatches candidate (.ofString "rpc://a/*/**") = true ↔
        (glob (.ofString "rpc://a/*/**")).Matches (segments candidate))) ↔
      (glob (.ofString "rpc://a/*/**")).StopsRight :=
  routeMatches_documented_iff (by decide +kernel)

/-- A pattern with a second `**` further in front is accepted, and a route
that lacks the segment between them is matched. -/
theorem exists_overmatched :
    ¬ ∀ pattern, route pattern true = .ok () → ∀ candidate, route candidate false = .ok () →
      (routeMatches candidate pattern = true ↔
        (glob pattern).Matches (segments candidate)) := by
  intro documented
  have agrees := documented (.ofString "rpc://a/**/b/**") (by decide +kernel)
    (.ofString "rpc://a") (by decide +kernel)
  have answered : routeMatches (.ofString "rpc://a") (.ofString "rpc://a/**/b/**") = true := by
    decide +kernel
  have enough := (agrees.mp answered).length_fixed_le
  exact absurd enough (by decide +kernel)

end RpcRoutes

end FitzClient
