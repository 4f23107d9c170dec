import FitzClient.WireExtensions

/-!
# The grammar of the extension envelope

A payload with extensions is the length of its core, the core, and at least one
field after another up to the end; in a HELLO exactly one of them is numbered 1,
and its value lists ascending ids.  The cursor loop of the decoder accepts this
language and nothing else, and returns the core and the list of ids.

One turn of the loop takes one field off the front of what is left, so what
the loop accepts is found by induction on the length of what is left, and what
it makes of a list of fields by induction on the list.
-/

namespace FitzClient

namespace WireExtensions

/-- A list of capabilities: a count and that many ascending ids. -/
structure CapabilityList (value : Bytes) (ids : List Nat) : Prop where
  counted : ids.length ≤ 65535
  positive : ∀ id ∈ ids, 0 < id
  fits : ∀ id ∈ ids, id ≤ 0xFFFFFFFF
  sorted : ids.Pairwise (· < ·)
  whole : value = BigEndian.encode 2 ids.length ++ ids.flatMap (BigEndian.encode 4)

/-- The bytes of a field. -/
def fieldLayout (field : Nat × Bytes) : Bytes :=
  BigEndian.encode 2 field.1 ++ BigEndian.encode 4 field.2.length ++ field.2

/-- The id of a field is a number other than zero, and its length fits. -/
structure ValidField (field : Nat × Bytes) : Prop where
  positive : 0 < field.1
  idFits : field.1 < 256 ^ 2
  valueFits : field.2.length < 256 ^ 4

/-- A payload with extensions. -/
structure Envelope (payload core : Bytes) (fields : List (Nat × Bytes)) : Prop where
  coreFits : core.length < 256 ^ 4
  nonempty : fields ≠ []
  valid : ∀ field ∈ fields, ValidField field
  whole : payload = BigEndian.encode 4 core.length ++ core ++ fields.flatMap fieldLayout

/-- The capabilities that the fields of a message stand for. -/
def Lists (messageType : Nat) (fields : List (Nat × Bytes)) (ids : List Nat) : Prop :=
  if messageType = 2 then
    ∃ value, fields.filter (fun field => field.1 = 1) = [(1, value)] ∧ CapabilityList value ids
  else
    ids = []

theorem ascending_iff {previous : Nat} {ids : List Nat} :
    ascending previous ids = true ↔
      (∀ id ∈ ids, previous < id) ∧ (∀ id ∈ ids, id ≤ 0xFFFFFFFF) ∧ ids.Pairwise (· < ·) := by
  induction ids generalizing previous with
  | nil => simp [ascending]
  | cons id ids ih =>
      simp only [ascending, Bool.and_eq_true, decide_eq_true_eq, ih, List.forall_mem_cons,
        List.pairwise_cons]
      constructor
      · rintro ⟨⟨above, fits⟩, later, laterFit, sorted⟩
        exact ⟨⟨above, fun other member => above.trans (later other member)⟩, ⟨fits, laterFit⟩,
          later, sorted⟩
      · rintro ⟨⟨above, -⟩, ⟨fits, laterFit⟩, later, sorted⟩
        exact ⟨⟨above, fits⟩, later, laterFit, sorted⟩

theorem encodeCapabilities_eq_ok_iff {ids : List Nat} {value : Bytes} :
    encodeCapabilities ids = .ok value ↔ CapabilityList value ids := by
  rw [encodeCapabilities]
  split_ifs with refused
  · refine ⟨by rintro ⟨⟩, fun listed => ?_⟩
    rcases refused with long | unordered
    · exact absurd listed.counted (Nat.not_le.mpr long)
    · exact absurd (ascending_iff.mpr ⟨listed.positive, listed.fits, listed.sorted⟩) unordered
  · obtain ⟨short, ordered⟩ := not_or.mp refused
    obtain ⟨positive, fits, sorted⟩ := ascending_iff.mp (not_not.mp ordered)
    rw [Except.ok.injEq]
    exact ⟨fun same => ⟨Nat.not_lt.mp short, positive, fits, sorted, same.symm⟩,
      fun listed => listed.whole.symm⟩

/-- The numbers that stand one after another. -/
def slices (body : Bytes) (count : Nat) : List Nat :=
  (List.range count).map fun index => BigEndian.decode ((body.drop (4 * index)).take 4)

theorem slices_succ (body : Bytes) (count : Nat) :
    slices body (count + 1) = BigEndian.decode (body.take 4) :: slices (body.drop 4) count := by
  rw [slices, List.range_succ_eq_map, List.map_cons, List.map_map, slices]
  refine congrArg (_ :: ·) (List.map_congr_left fun index _ => ?_)
  rw [Function.comp_apply, List.drop_drop, Nat.mul_succ, Nat.add_comm]

theorem slices_flatMap {ids : List Nat} (fits : ∀ id ∈ ids, id ≤ 0xFFFFFFFF) :
    slices (ids.flatMap (BigEndian.encode 4)) ids.length = ids := by
  induction ids with
  | nil => rfl
  | cons id ids ih =>
      have idFits : id < 256 ^ 4 := Nat.lt_succ_of_le (fits id List.mem_cons_self)
      rw [List.length_cons, slices_succ, List.flatMap_cons,
        List.take_left' (BigEndian.length_encode 4 id),
        List.drop_left' (BigEndian.length_encode 4 id), BigEndian.decode_encode idFits,
        ih fun other member => fits other (.tail _ member)]

theorem flatMap_slices {body : Bytes} {count : Nat} (sized : body.length = 4 * count) :
    (slices body count).flatMap (BigEndian.encode 4) = body := by
  induction count generalizing body with
  | zero => exact (List.eq_nil_of_length_eq_zero sized).symm
  | succ count ih =>
      have front : (body.take 4).length = 4 := by
        rw [List.length_take]
        omega
      have rest : (body.drop 4).length = 4 * count := by
        rw [List.length_drop]
        omega
      rw [slices_succ, List.flatMap_cons, ih rest, BigEndian.encode_decode_of_length front,
        List.take_append_drop]

/-- The capability field is accepted once, as the list it is. -/
theorem decodeCapabilities_eq_ok_iff {earlier : Option (List Nat)} {value : Bytes}
    {ids : List Nat} :
    decodeCapabilities earlier value = .ok ids ↔ earlier = none ∧ CapabilityList value ids := by
  have shifted (count : Nat) :
      ((List.range count).map fun index =>
        BigEndian.decode ((value.drop (2 + 4 * index)).take 4)) = slices (value.drop 2) count := by
    simp only [slices, List.drop_drop]
  simp only [decodeCapabilities, shifted]
  constructor
  · intro decoded
    split_ifs at decoded with refused mismatch
    obtain ⟨fresh, long⟩ := not_or.mp refused
    have sized : value.length = 2 + 4 * BigEndian.decode (value.take 2) := not_not.mp mismatch
    have front : (value.take 2).length = 2 := by
      rw [List.length_take]
      omega
    have body : (value.drop 2).length = 4 * BigEndian.decode (value.take 2) := by
      rw [List.length_drop]
      omega
    cases encoded : encodeCapabilities
        (slices (value.drop 2) (BigEndian.decode (value.take 2))) with
    | error error =>
        rw [encoded] at decoded
        cases decoded
    | ok again =>
        rw [encoded] at decoded
        obtain rfl := Except.ok.inj decoded
        have listed := encodeCapabilities_eq_ok_iff.mp encoded
        have same : again = value := by
          rw [listed.whole, flatMap_slices body]
          simp only [slices, List.length_map, List.length_range]
          rw [BigEndian.encode_decode_of_length front, List.take_append_drop]
        exact ⟨by simpa using fresh, same ▸ listed⟩
  · rintro ⟨rfl, listed⟩
    have countFits : ids.length < 256 ^ 2 := Nat.lt_succ_of_le listed.counted
    have count : BigEndian.decode (value.take 2) = ids.length := by
      rw [listed.whole, List.take_left' (BigEndian.length_encode 2 _),
        BigEndian.decode_encode countFits]
    have body : value.drop 2 = ids.flatMap (BigEndian.encode 4) := by
      rw [listed.whole, List.drop_left' (BigEndian.length_encode 2 _)]
    have sized : value.length = 2 + 4 * ids.length := by
      rw [listed.whole, List.length_append, BigEndian.length_encode, List.length_flatMap]
      simp [Nat.mul_comm]
    have accepted : ¬ ((none : Option (List Nat)).isSome = true ∨ value.length < 2) :=
      not_or.mpr ⟨Bool.false_ne_true, by omega⟩
    rw [if_neg accepted, count, if_neg (not_not.mpr sized), body,
      slices_flatMap listed.fits, encodeCapabilities_eq_ok_iff.mpr listed]
    rfl

/-- The loop takes the field at the front. -/
theorem decodeFields_fieldLayout {field : Nat × Bytes} (valid : ValidField field)
    (handshake : Bool) (capabilities : Option (List Nat)) (fieldsSeen : Bool) (rest : Bytes) :
    decodeFields handshake capabilities fieldsSeen (fieldLayout field ++ rest) =
      if handshake ∧ field.1 = 1 then
        match decodeCapabilities capabilities field.2 with
        | .error error => .error error
        | .ok found => decodeFields handshake (some found) true rest
      else
        decodeFields handshake capabilities true rest := by
  have id : (fieldLayout field ++ rest).take 2 = BigEndian.encode 2 field.1 := by
    simp only [fieldLayout, List.append_assoc]
    exact List.take_left' (BigEndian.length_encode 2 _)
  have size : ((fieldLayout field ++ rest).drop 2).take 4 =
      BigEndian.encode 4 field.2.length := by
    simp only [fieldLayout, List.append_assoc]
    rw [List.drop_left' (BigEndian.length_encode 2 _)]
    exact List.take_left' (BigEndian.length_encode 4 _)
  have value : (fieldLayout field ++ rest).drop 6 = field.2 ++ rest := by
    simp only [fieldLayout]
    rw [List.append_assoc, List.drop_left' (by simp)]
  have long : 6 ≤ (fieldLayout field ++ rest).length := by
    simp only [fieldLayout, List.length_append, BigEndian.length_encode]
    omega
  have some : (fieldLayout field ++ rest).isEmpty = false := by
    rw [List.isEmpty_eq_false_iff, ← List.length_pos_iff]
    omega
  rw [decodeFields]
  simp only [id, size, value, some, Bool.false_eq_true, if_false, Nat.not_lt.mpr long,
    BigEndian.decode_encode valid.idFits, BigEndian.decode_encode valid.valueFits,
    List.take_left', List.drop_left']
  refine if_neg (not_or.mpr ⟨valid.positive.ne', ?_⟩)
  rw [List.length_append]
  omega

/-- What the loop gets past starts with a field. -/
theorem exists_field_of_decodeFields {handshake : Bool} {capabilities : Option (List Nat)}
    {fieldsSeen : Bool} {left : Bytes} {result : Option (List Nat) × Bool} (some : left ≠ [])
    (decoded : decodeFields handshake capabilities fieldsSeen left = .ok result) :
    ∃ field rest, ValidField field ∧ left = fieldLayout field ++ rest := by
  rw [decodeFields, if_neg (by simpa using some)] at decoded
  by_cases short : left.length < 6
  case pos =>
    rw [if_pos short] at decoded
    cases decoded
  rw [if_neg short] at decoded
  by_cases invalid : BigEndian.decode (left.take 2) = 0 ∨
      (left.drop 6).length < BigEndian.decode ((left.drop 2).take 4)
  case pos =>
    simp only [invalid, if_true] at decoded
    cases decoded
  obtain ⟨positive, within⟩ := not_or.mp invalid
  have idSize : (left.take 2).length = 2 := by
    rw [List.length_take]
    omega
  have lengthSize : ((left.drop 2).take 4).length = 4 := by
    rw [List.length_take, List.length_drop]
    omega
  have size : ((left.drop 6).take (BigEndian.decode ((left.drop 2).take 4))).length =
      BigEndian.decode ((left.drop 2).take 4) := by
    rw [List.length_take]
    omega
  refine ⟨(BigEndian.decode (left.take 2),
    (left.drop 6).take (BigEndian.decode ((left.drop 2).take 4))),
    (left.drop 6).drop (BigEndian.decode ((left.drop 2).take 4)),
    ⟨Nat.pos_of_ne_zero positive, ?_, ?_⟩, ?_⟩
  · have bound := BigEndian.decode_lt (left.take 2)
    rwa [idSize] at bound
  · have bound := BigEndian.decode_lt ((left.drop 2).take 4)
    rwa [lengthSize, ← size] at bound
  · rw [fieldLayout, size, BigEndian.encode_decode_of_length idSize,
      BigEndian.encode_decode_of_length lengthSize, List.append_assoc, List.take_append_drop,
      ← List.take_add, List.take_append_drop]

/-- The fields that a message lists its capabilities in. -/
def listed (handshake : Bool) (fields : List (Nat × Bytes)) : List (Nat × Bytes) :=
  fields.filter fun field => handshake && field.1 = 1

/-- What the loop makes of a list of fields: the first list of capabilities is
the only one. -/
def Collected (handshake : Bool) (capabilities : Option (List Nat))
    (fields : List (Nat × Bytes)) (found : Option (List Nat)) : Prop :=
  listed handshake fields = [] ∧ found = capabilities ∨
    capabilities = none ∧ ∃ value ids, listed handshake fields = [(1, value)] ∧
      CapabilityList value ids ∧ found = some ids

theorem collected_some_iff {handshake : Bool} {ids : List Nat} {fields : List (Nat × Bytes)}
    {found : Option (List Nat)} :
    Collected handshake (some ids) fields found ↔
      listed handshake fields = [] ∧ found = some ids := by
  simp [Collected]

theorem decodeFields_flatMap_iff {handshake : Bool} {fields : List (Nat × Bytes)}
    (valid : ∀ field ∈ fields, ValidField field) {capabilities found : Option (List Nat)}
    {before seen : Bool} :
    decodeFields handshake capabilities before (fields.flatMap fieldLayout) = .ok (found, seen) ↔
      Collected handshake capabilities fields found ∧ seen = (before || !fields.isEmpty) := by
  induction fields generalizing capabilities before with
  | nil =>
      rw [List.flatMap_nil, decodeFields]
      simp only [List.isEmpty_nil, if_true, Except.ok.injEq, Prod.mk.injEq, Collected, listed,
        List.filter_nil, true_and, Bool.not_true, Bool.or_false]
      constructor
      · rintro ⟨rfl, rfl⟩
        exact ⟨Or.inl rfl, rfl⟩
      · rintro ⟨rfl | ⟨-, value, ids, none, -⟩, rfl⟩
        · exact ⟨rfl, rfl⟩
        · cases none
  | cons field fields ih =>
      have later : ∀ other ∈ fields, ValidField other := fun other member =>
        valid other (.tail _ member)
      rw [List.flatMap_cons, decodeFields_fieldLayout (valid field List.mem_cons_self)]
      simp only [List.isEmpty_cons, Bool.not_false, Bool.or_true]
      by_cases lists : handshake = true ∧ field.1 = 1
      case neg =>
        have same : listed handshake (field :: fields) = listed handshake fields :=
          List.filter_cons_of_neg (by simpa using lists)
        rw [if_neg lists, ih later, Bool.true_or, Collected, Collected, same]
      case pos =>
        have first : listed handshake (field :: fields) = field :: listed handshake fields :=
          List.filter_cons_of_pos (by simpa using lists)
        rw [if_pos lists, Collected, first]
        cases decoded : decodeCapabilities capabilities field.2 with
        | error error =>
            simp only [reduceCtorEq, false_iff]
            rintro ⟨⟨none, -⟩ | ⟨fresh, value, ids, only, list, -⟩, -⟩
            · cases none
            · obtain ⟨rfl, -⟩ := List.cons.inj only
              rw [decodeCapabilities_eq_ok_iff.mpr ⟨fresh, list⟩] at decoded
              cases decoded
        | ok ids =>
            obtain ⟨fresh, list⟩ := decodeCapabilities_eq_ok_iff.mp decoded
            rw [ih later, collected_some_iff, Bool.true_or]
            refine and_congr_left fun _ => ⟨?_, ?_⟩
            · rintro ⟨only, rfl⟩
              exact Or.inr ⟨fresh, field.2, ids, by rw [only, ← lists.2], list, rfl⟩
            · rintro (⟨none, -⟩ | ⟨-, value, other, only, otherList, rfl⟩)
              · cases none
              · obtain ⟨rfl, rest⟩ := List.cons.inj only
                have again := decodeCapabilities_eq_ok_iff.mpr ⟨fresh, otherList⟩
                rw [decoded] at again
                exact ⟨rest, congrArg some (Except.ok.inj again).symm⟩

/-- The loop accepts lists of fields only. -/
theorem exists_fields_of_decodeFields {handshake : Bool} {capabilities : Option (List Nat)}
    {before : Bool} {left : Bytes} {result : Option (List Nat) × Bool}
    (decoded : decodeFields handshake capabilities before left = .ok result) :
    ∃ fields : List (Nat × Bytes), (∀ field ∈ fields, ValidField field) ∧
      left = fields.flatMap fieldLayout := by
  induction size : left.length using Nat.strong_induction_on generalizing capabilities before left
    with
  | h length ih =>
      by_cases spent : left = []
      case pos => exact ⟨[], by simp, spent⟩
      obtain ⟨field, rest, valid, rfl⟩ := exists_field_of_decodeFields spent decoded
      have shorter : rest.length < length := by
        rw [← size, fieldLayout]
        simp only [List.length_append, BigEndian.length_encode]
        omega
      have goesOn : ∃ capabilities, decodeFields handshake capabilities true rest = .ok result := by
        rw [decodeFields_fieldLayout valid] at decoded
        split_ifs at decoded
        · cases list : decodeCapabilities capabilities field.2 with
          | error error =>
              rw [list] at decoded
              cases decoded
          | ok ids =>
              rw [list] at decoded
              exact ⟨some ids, decoded⟩
        · exact ⟨capabilities, decoded⟩
      obtain ⟨capabilities, decodedRest⟩ := goesOn
      obtain ⟨fields, valids, rfl⟩ := ih rest.length shorter decodedRest rfl
      exact ⟨field :: fields, List.forall_mem_cons.mpr ⟨valid, valids⟩, List.flatMap_cons.symm⟩

theorem codec_of_encodeCapabilities {ids : List Nat} {error : WireException}
    (refused : encodeCapabilities ids = .error error) : ∃ message, error = .codec message := by
  rw [encodeCapabilities] at refused
  split_ifs at refused
  exact ⟨_, (Except.error.inj refused).symm⟩

theorem codec_of_decodeCapabilities {earlier : Option (List Nat)} {value : Bytes}
    {error : WireException} (refused : decodeCapabilities earlier value = .error error) :
    ∃ message, error = .codec message := by
  simp only [decodeCapabilities] at refused
  split_ifs at refused
  · exact ⟨_, (Except.error.inj refused).symm⟩
  · exact ⟨_, (Except.error.inj refused).symm⟩
  · generalize (List.range _).map _ = ids at refused
    cases encoded : encodeCapabilities ids with
    | error other =>
        rw [encoded] at refused
        obtain rfl := Except.error.inj refused
        exact codec_of_encodeCapabilities encoded
    | ok again =>
        rw [encoded] at refused
        cases refused

theorem codec_of_decodeFields {handshake : Bool} {capabilities : Option (List Nat)}
    {before : Bool} {left : Bytes} {error : WireException}
    (refused : decodeFields handshake capabilities before left = .error error) :
    ∃ message, error = .codec message := by
  fun_induction decodeFields handshake capabilities before left with
  | case1 => cases refused
  | case2 => exact ⟨_, (Except.error.inj refused).symm⟩
  | case3 => exact ⟨_, (Except.error.inj refused).symm⟩
  | case4 _ _ _ _ _ _ _ _ _ _ _ list =>
      obtain rfl := Except.error.inj refused
      exact codec_of_decodeCapabilities list
  | case5 _ _ _ _ _ _ _ _ _ _ _ _ ih => exact ih refused
  | case6 _ _ _ _ _ _ _ _ _ _ ih => exact ih refused

theorem codec_of_decodePayload {payload : Bytes} {messageType flags : Nat}
    {error : WireException} (refused : decodePayload payload messageType flags = .error error) :
    ∃ message, error = .codec message := by
  simp only [decodePayload] at refused
  split_ifs at refused with _ short long
  case pos => exact ⟨_, (Except.error.inj refused).symm⟩
  case pos => exact ⟨_, (Except.error.inj refused).symm⟩
  case pos => exact ⟨_, (Except.error.inj refused).symm⟩
  cases read : decodeFields (decide (messageType = 2)) none false
      (payload.drop (4 + BigEndian.decode (payload.take 4))) with
  | error other =>
      rw [read] at refused
      obtain rfl := Except.error.inj refused
      exact codec_of_decodeFields read
  | ok result =>
      rw [read] at refused
      simp only at refused
      split_ifs at refused
      exact ⟨_, (Except.error.inj refused).symm⟩

theorem lists_iff {messageType : Nat} {fields : List (Nat × Bytes)} {ids : List Nat} :
    Lists messageType fields ids ↔
      ∃ found, Collected (decide (messageType = 2)) none fields found ∧
        ¬ (messageType = 2 ∧ found = none) ∧ found.getD [] = ids := by
  by_cases handshake : messageType = 2
  · simp only [Lists, handshake, if_true, decide_true, Collected, listed, Bool.true_and, true_and]
    constructor
    · rintro ⟨value, only, list⟩
      exact ⟨some ids, Or.inr ⟨value, ids, only, list, rfl⟩, nofun, rfl⟩
    · rintro ⟨_, ⟨-, rfl⟩ | ⟨value, other, only, list, rfl⟩, found, rfl⟩
      · exact absurd rfl found
      · exact ⟨value, only, list⟩
  · simp [Lists, handshake, Collected, listed, eq_comm]

theorem decodePayload_eq_ok_iff {payload : Bytes} {messageType flags : Nat}
    (extended : present flags = true) {core : Bytes} {ids : List Nat} :
    decodePayload payload messageType flags = .ok (core, ids) ↔
      ∃ fields, Envelope payload core fields ∧ Lists messageType fields ids := by
  simp only [lists_iff, decodePayload, extended, not_true_eq_false, if_false]
  constructor
  · intro decoded
    split_ifs at decoded with short long
    cases read : decodeFields (decide (messageType = 2)) none false
        (payload.drop (4 + BigEndian.decode (payload.take 4))) with
    | error error =>
        rw [read] at decoded
        cases decoded
    | ok result =>
        obtain ⟨found, seen⟩ := result
        simp only [read] at decoded
        split_ifs at decoded with missing
        obtain ⟨rfl, rfl⟩ := Prod.mk.inj (Except.ok.inj decoded)
        obtain ⟨some, complete⟩ := not_or.mp missing
        obtain ⟨fields, valid, rest⟩ := exists_fields_of_decodeFields read
        rw [rest, decodeFields_flatMap_iff valid] at read
        obtain ⟨collected, rfl⟩ := read
        have lengthSize : (payload.take 4).length = 4 := by
          rw [List.length_take]
          omega
        have coreSize : ((payload.drop 4).take (BigEndian.decode (payload.take 4))).length =
            BigEndian.decode (payload.take 4) := by
          rw [List.length_take, List.length_drop]
          omega
        have bound := BigEndian.decode_lt (payload.take 4)
        rw [lengthSize] at bound
        refine ⟨fields, ⟨by rwa [coreSize], by simpa using some, valid, ?_⟩, found, collected,
          by simpa using complete, rfl⟩
        rw [coreSize, BigEndian.encode_decode_of_length lengthSize, ← rest, ← List.take_add,
          List.take_append_drop]
  · rintro ⟨fields, ⟨coreFits, nonempty, valid, rfl⟩, found, collected, complete, rfl⟩
    have front : (BigEndian.encode 4 core.length ++ core ++ fields.flatMap fieldLayout).take 4 =
        BigEndian.encode 4 core.length := by
      rw [List.append_assoc]
      exact List.take_left' (BigEndian.length_encode 4 _)
    have body : ((BigEndian.encode 4 core.length ++ core ++ fields.flatMap fieldLayout).drop 4).take
        core.length = core := by
      rw [List.append_assoc, List.drop_left' (BigEndian.length_encode 4 _)]
      exact List.take_left' rfl
    have rest : (BigEndian.encode 4 core.length ++ core ++ fields.flatMap fieldLayout).drop
        (4 + core.length) = fields.flatMap fieldLayout :=
      List.drop_left' (by simp)
    have read : decodeFields (decide (messageType = 2)) none false
        (fields.flatMap fieldLayout) = .ok (found, !fields.isEmpty) :=
      (decodeFields_flatMap_iff valid).mpr ⟨collected, rfl⟩
    have long : 4 + core.length ≤
        (BigEndian.encode 4 core.length ++ core ++ fields.flatMap fieldLayout).length := by
      simp only [List.length_append, BigEndian.length_encode]
      omega
    rw [front, BigEndian.decode_encode coreFits, rest, read, body]
    rw [if_neg (by omega), if_neg (by omega)]
    simpa [nonempty] using complete

theorem encodeFields_eq_ok {previous : Nat} {fields : List (Nat × Bytes)} {entries : Bytes}
    (encoded : encodeFields previous fields = .ok entries) :
    (∀ field ∈ fields, previous < field.1 ∧ ValidField field) ∧
      fields.Pairwise (fun first second => first.1 < second.1) ∧
      entries = fields.flatMap fieldLayout := by
  induction fields generalizing previous entries with
  | nil => exact ⟨by simp, List.Pairwise.nil, (Except.ok.inj encoded).symm⟩
  | cons field fields ih =>
      obtain ⟨fieldId, value⟩ := field
      rw [encodeFields] at encoded
      split_ifs at encoded with unordered long
      obtain ⟨above, fits⟩ := unordered
      cases later : encodeFields fieldId fields with
      | error error =>
          rw [later] at encoded
          cases encoded
      | ok rest =>
          rw [later] at encoded
          obtain rfl := Except.ok.inj encoded
          obtain ⟨valid, sorted, rfl⟩ := ih later
          have first : ValidField (fieldId, value) :=
            ⟨Nat.zero_lt_of_lt above, Nat.lt_succ_of_le fits, Nat.not_le.mp long⟩
          refine ⟨List.forall_mem_cons.mpr ⟨⟨above, first⟩, fun other member => ?_⟩,
            List.pairwise_cons.mpr ⟨fun other member => (valid other member).1, sorted⟩, rfl⟩
          exact ⟨above.trans (valid other member).1, (valid other member).2⟩

/-- Of fields with ascending ids one at most has the id 1. -/
theorem filter_eq_of_mem {fields : List (Nat × Bytes)} {value : Bytes}
    (sorted : fields.Pairwise (fun first second => first.1 < second.1))
    (member : (1, value) ∈ fields) :
    fields.filter (fun field => field.1 = 1) = [(1, value)] := by
  induction fields with
  | nil => cases member
  | cons field fields ih =>
      obtain ⟨above, sorted⟩ := List.pairwise_cons.mp sorted
      cases member with
      | head =>
          have others : fields.filter (fun field => field.1 = 1) = [] := by
            rw [List.filter_eq_nil_iff]
            intro other member
            simpa using (above other member).ne'
          rw [List.filter_cons_of_pos (by simp), others]
      | tail _ later =>
          have below := above _ later
          rw [List.filter_cons_of_neg (by simpa using below.ne), ih sorted later]

/-- What the encoder makes of a core and its fields is an envelope. -/
theorem envelope_of_encodePayload {core payload : Bytes} {fields : List (Nat × Bytes)}
    (nonempty : fields ≠ []) (encoded : encodePayload core fields = .ok payload) :
    Envelope payload core fields ∧
      fields.Pairwise (fun first second => first.1 < second.1) := by
  rw [encodePayload, if_neg (by simpa using nonempty)] at encoded
  cases entries : encodeFields 0 fields with
  | error error =>
      rw [entries] at encoded
      cases encoded
  | ok rest =>
      simp only [entries] at encoded
      split_ifs at encoded with long
      obtain rfl := Except.ok.inj encoded
      obtain ⟨valid, sorted, rfl⟩ := encodeFields_eq_ok entries
      exact ⟨⟨Nat.not_le.mp long, nonempty, fun field member => (valid field member).2, rfl⟩,
        sorted⟩

/-- With the extension bit set, a payload is decoded or refused as a codec
error, and it is decoded to a core and a list of ids exactly if it is an envelope
of this core whose fields list these ids.  So what the encoder makes of a core
and some fields is decoded to this core, and a HELLO to the ids in its
field 1. -/
theorem envelope_exact (payload : Bytes) (messageType flags : Nat)
    (extended : present flags = true) :
    ((∃ core ids, decodePayload payload messageType flags = .ok (core, ids)) ∨
      ∃ message, decodePayload payload messageType flags = .error (.codec message)) ∧
    (∀ core ids, decodePayload payload messageType flags = .ok (core, ids) ↔
      ∃ fields, Envelope payload core fields ∧ Lists messageType fields ids) ∧
    (∀ core fields, fields ≠ [] → encodePayload core fields = .ok payload →
      (messageType ≠ 2 → decodePayload payload messageType flags = .ok (core, [])) ∧
      (messageType = 2 → ∀ ids value, (1, value) ∈ fields →
        encodeCapabilities ids = .ok value →
        decodePayload payload messageType flags = .ok (core, ids))) := by
  refine ⟨?_, fun core ids => decodePayload_eq_ok_iff extended,
    fun core fields nonempty encoded => ?_⟩
  · cases decoded : decodePayload payload messageType flags with
    | error error =>
        obtain ⟨message, rfl⟩ := codec_of_decodePayload decoded
        exact Or.inr ⟨message, rfl⟩
    | ok result => exact Or.inl ⟨result.1, result.2, rfl⟩
  · obtain ⟨envelope, sorted⟩ := envelope_of_encodePayload nonempty encoded
    refine ⟨fun other => ?_, fun handshake ids value member list => ?_⟩
    · exact (decodePayload_eq_ok_iff extended).mpr ⟨fields, envelope, by rw [Lists, if_neg other]⟩
    · refine (decodePayload_eq_ok_iff extended).mpr ⟨fields, envelope, ?_⟩
      rw [Lists, if_pos handshake]
      exact ⟨value, filter_eq_of_mem sorted member, encodeCapabilities_eq_ok_iff.mp list⟩

/-- A HELLO with a core of one byte that lists the two capabilities of the client. -/
theorem envelope_exact_hello :
    decodePayload [0, 0, 0, 1, 9, 0, 1, 0, 0, 0, 10, 0, 2, 0, 0, 0, 1, 0, 0, 0, 2] 2
      extensionsPresent = .ok ([9], [1, 2]) :=
  ((envelope_exact [0, 0, 0, 1, 9, 0, 1, 0, 0, 0, 10, 0, 2, 0, 0, 0, 1, 0, 0, 0, 2] 2
    extensionsPresent (by decide)).2.2 [9] [(1, [0, 2, 0, 0, 0, 1, 0, 0, 0, 2])] (by simp) rfl).2
    rfl [1, 2] [0, 2, 0, 0, 0, 1, 0, 0, 0, 2] (by simp) rfl

end WireExtensions

end FitzClient
