import Mathlib.Data.List.Basic
import Mathlib.Order.Basic
import Mathlib.Order.Nat

/-!
# Readers that consume a list of tokens

A reader takes a value off the front of a list of tokens or fails.  It is
exact for a layout if it takes precisely the valid values, each from its
layout, and leaves what follows alone.  Then the layouts have no prefix of one
another's and a failing reader has been given no layout at all.

Exactness is carried through loops: a loop that is told how often to go round,
and one that goes on until the reader says that nothing follows.  For errors
that must not escape, the inputs that let one escape are found in the same way,
as a list of layouts followed by an input on which the next turn lets it
escape.  A list of layouts that is cut off anywhere makes one of the readers
for it fail, and those in front of that one read their values.
-/

namespace FitzClient

/-- A computation that takes a value off a list of tokens. -/
abbrev TokenReader (ε τ : Type) := StateT (List τ) (Except ε)

namespace TokenReader

variable {ε τ α β : Type}

theorem bind_of_ok {first : TokenReader ε τ α} {unread rest : List τ} {value : α}
    (read : first unread = .ok (value, rest)) (next : α → TokenReader ε τ β) :
    (first >>= next) unread = next value rest := by
  simp only [bind, StateT.bind, read, Except.bind]

theorem bind_of_error {first : TokenReader ε τ α} {unread : List τ} {error : ε}
    (read : first unread = .error error) (next : α → TokenReader ε τ β) :
    (first >>= next) unread = .error error := by
  simp only [bind, StateT.bind, read, Except.bind]

theorem bind_eq_ok_iff {first : TokenReader ε τ α} {next : α → TokenReader ε τ β}
    {unread rest : List τ} {value : β} :
    (first >>= next) unread = .ok (value, rest) ↔
      ∃ middle left, first unread = .ok (middle, left) ∧ next middle left = .ok (value, rest) := by
  cases read : first unread with
  | error error => simp [bind_of_error read]
  | ok found =>
      obtain ⟨middle, left⟩ := found
      simp [bind_of_ok read]

theorem bind_eq_error_iff {first : TokenReader ε τ α} {next : α → TokenReader ε τ β}
    {unread : List τ} {error : ε} :
    (first >>= next) unread = .error error ↔
      first unread = .error error ∨
        ∃ middle left, first unread = .ok (middle, left) ∧ next middle left = .error error := by
  cases read : first unread with
  | error other => simp [bind_of_error read]
  | ok found =>
      obtain ⟨middle, left⟩ := found
      simp [bind_of_ok read]

theorem pure_eq_ok_iff {value found : α} {unread rest : List τ} :
    (pure value : TokenReader ε τ α) unread = .ok (found, rest) ↔
      found = value ∧ unread = rest := by
  constructor
  · intro read
    obtain ⟨rfl, rfl⟩ := Prod.mk.inj (Except.ok.inj read)
    exact ⟨rfl, rfl⟩
  · rintro ⟨rfl, rfl⟩
    rfl

theorem throw_apply (error : ε) (unread : List τ) :
    (throw error : TokenReader ε τ α) unread = .error error := rfl

/-- `if not condition: raise error` -/
def require (condition : Prop) [Decidable condition] (error : ε) : TokenReader ε τ Unit :=
  if condition then pure () else throw error

theorem require_eq_ok_iff {condition : Prop} [Decidable condition] {error : ε}
    {unread rest : List τ} {value : Unit} :
    require condition error unread = .ok (value, rest) ↔ condition ∧ unread = rest := by
  rw [require]
  split_ifs with holds
  · simp [pure_eq_ok_iff, holds]
  · simp [throw_apply, holds]

theorem throw_bind (error : ε) (next : α → TokenReader ε τ β) :
    (throw error >>= next : TokenReader ε τ β) = throw error := rfl

theorem require_bind {condition : Prop} [Decidable condition] {error : ε}
    {next : Unit → TokenReader ε τ β} :
    (require condition error >>= next) = if condition then next () else throw error := by
  rw [require]
  split_ifs with holds
  · exact pure_bind () next
  · exact throw_bind error next

/-- `if not reader.is_eof(): raise error` -/
def atEnd (error : ε) : TokenReader ε τ Unit := fun unread =>
  if unread.isEmpty then .ok ((), []) else .error error

theorem atEnd_eq_ok_iff {error : ε} {unread rest : List τ} {value : Unit} :
    atEnd error unread = .ok (value, rest) ↔ unread = [] ∧ rest = [] := by
  rw [atEnd]
  split_ifs with ended
  · simp [List.isEmpty_iff.mp ended, eq_comm]
  · simp [List.isEmpty_iff.not.mp ended]

/-- The value that is read, whatever is left. -/
def run (reader : TokenReader ε τ α) (tokens : List τ) : Except ε α :=
  (reader tokens).map Prod.fst

theorem run_eq_ok_iff {reader : TokenReader ε τ α} {tokens : List τ} {value : α} :
    run reader tokens = .ok value ↔ ∃ rest, reader tokens = .ok (value, rest) := by
  rw [run]
  cases reader tokens with
  | error error => simp [Except.map]
  | ok found => simp [Except.map, Prod.ext_iff]

theorem run_eq_error_iff {reader : TokenReader ε τ α} {tokens : List τ} {error : ε} :
    run reader tokens = .error error ↔ reader tokens = .error error := by
  rw [run]
  cases reader tokens with
  | error other => simp [Except.map]
  | ok found => simp [Except.map]

/-- The reader with its errors wrapped. -/
def mapError {ε' : Type} (wrap : ε → ε') (reader : TokenReader ε τ α) : TokenReader ε' τ α :=
  fun unread => (reader unread).mapError wrap

theorem mapError_eq_ok_iff {ε' : Type} {wrap : ε → ε'} {reader : TokenReader ε τ α}
    {unread rest : List τ} {value : α} :
    mapError wrap reader unread = .ok (value, rest) ↔ reader unread = .ok (value, rest) := by
  rw [mapError]
  cases reader unread with
  | error error => simp [Except.mapError]
  | ok found => simp [Except.mapError]

theorem mapError_eq_error_iff {ε' : Type} {wrap : ε → ε'} {reader : TokenReader ε τ α}
    {unread : List τ} {error : ε'} :
    mapError wrap reader unread = .error error ↔
      ∃ inner, reader unread = .error inner ∧ wrap inner = error := by
  rw [mapError]
  cases reader unread with
  | error inner => simp [Except.mapError]
  | ok found => simp [Except.mapError]

/-- The reader takes the valid values off the front, each as its layout. -/
def Exact (reader : TokenReader ε τ α) (valid : α → Prop) (layout : α → List τ) : Prop :=
  ∀ unread value rest, reader unread = .ok (value, rest) ↔
    valid value ∧ unread = layout value ++ rest

section Exact

variable {reader : TokenReader ε τ α} {valid : α → Prop} {layout : α → List τ}

/-- What was laid out is read. -/
theorem Exact.read (exact : Exact reader valid layout) {value : α} (isValid : valid value)
    (rest : List τ) : reader (layout value ++ rest) = .ok (value, rest) :=
  (exact _ _ _).mpr ⟨isValid, rfl⟩

theorem Exact.mapError {ε' : Type} {wrap : ε → ε'} (exact : Exact reader valid layout) :
    Exact (mapError wrap reader) valid layout := fun unread value rest =>
  mapError_eq_ok_iff.trans (exact unread value rest)

/-- One layout is not the beginning of another. -/
theorem Exact.append_inj (exact : Exact reader valid layout) {first second : α}
    {firstRest secondRest : List τ} (firstValid : valid first) (secondValid : valid second)
    (same : layout first ++ firstRest = layout second ++ secondRest) :
    first = second ∧ firstRest = secondRest := by
  have firstRead := exact.read firstValid firstRest
  rw [same, exact.read secondValid secondRest] at firstRead
  obtain ⟨rfl, rfl⟩ := Prod.mk.inj (Except.ok.inj firstRead)
  exact ⟨rfl, rfl⟩

/-- A reader for all the tokens: nothing may be left. -/
def whole (reader : TokenReader ε τ α) (trailing : ε) (tokens : List τ) : Except ε α :=
  run (do
    let value ← reader
    atEnd trailing
    return value) tokens

theorem Exact.whole_eq_ok_iff (exact : Exact reader valid layout) {trailing : ε}
    {tokens : List τ} {value : α} :
    whole reader trailing tokens = .ok value ↔ valid value ∧ tokens = layout value := by
  rw [whole, run_eq_ok_iff]
  simp only [bind_eq_ok_iff, atEnd_eq_ok_iff, pure_eq_ok_iff, exact _ _ _]
  constructor
  · rintro ⟨_, _, _, ⟨isValid, rfl⟩, _, _, ⟨rfl, rfl⟩, rfl, rfl⟩
    exact ⟨isValid, List.append_nil _⟩
  · rintro ⟨isValid, rfl⟩
    exact ⟨[], value, [], ⟨isValid, (List.append_nil _).symm⟩, (), [], ⟨rfl, rfl⟩, rfl, rfl⟩

/-- What is accepted as a whole is rejected when it is lengthened. -/
theorem Exact.whole_append (exact : Exact reader valid layout) {trailing : ε}
    {tokens more : List τ} {value other : α} (read : whole reader trailing tokens = .ok value)
    (longer : whole reader trailing (tokens ++ more) = .ok other) : more = [] := by
  obtain ⟨isValid, rfl⟩ := exact.whole_eq_ok_iff.mp read
  obtain ⟨otherValid, same⟩ := exact.whole_eq_ok_iff.mp longer
  rw [← List.append_nil (layout other)] at same
  exact (exact.append_inj isValid otherValid same).2

/-- A decoder for lists of tokens accepts nothing that is cut or lengthened. -/
def Strict (decode : List τ → Except ε α) : Prop :=
  ∀ tokens value, decode tokens = .ok value →
    (∀ size < tokens.length, ∀ other, decode (tokens.take size) ≠ .ok other) ∧
      ∀ more, more ≠ [] → ∀ other, decode (tokens ++ more) ≠ .ok other

theorem Exact.strict (exact : Exact reader valid layout) (trailing : ε) :
    Strict (whole reader trailing) := by
  refine fun tokens value read => ⟨fun size shorter other cut => ?_, fun more some other longer =>
    some (exact.whole_append read longer)⟩
  rw [← List.take_append_drop size tokens] at read
  have spent := exact.whole_append cut read
  rw [List.drop_eq_nil_iff] at spent
  omega

/-- A reader of layouts that are not empty consumes something. -/
theorem Exact.shrinks (exact : Exact reader valid layout)
    (positive : ∀ value, 0 < (layout value).length) (unread : List τ) (value : α)
    (rest : List τ) (read : reader unread = .ok (value, rest)) :
    rest.length < unread.length := by
  obtain ⟨-, rfl⟩ := (exact _ _ _).mp read
  have some := positive value
  rw [List.length_append]
  omega

/-- `reader` again and again, a given number of times. -/
def times (reader : TokenReader ε τ α) : Nat → TokenReader ε τ (List α)
  | 0 => pure []
  | count + 1 => do
      let value ← reader
      let values ← times reader count
      return value :: values

/-- How often such a loop enters its body. -/
def timesTurns (reader : TokenReader ε τ α) : Nat → List τ → Nat
  | 0, _ => 0
  | count + 1, unread =>
      match reader unread with
      | .error _ => 1
      | .ok (_, rest) => timesTurns reader count rest + 1

theorem Exact.times (exact : Exact reader valid layout) (count : Nat) :
    Exact (times reader count)
      (fun values => values.length = count ∧ ∀ value ∈ values, valid value)
      (fun values => values.flatMap layout) := by
  induction count with
  | zero =>
      intro unread values rest
      rw [TokenReader.times, pure_eq_ok_iff]
      constructor
      · rintro ⟨rfl, rfl⟩
        exact ⟨⟨rfl, by simp⟩, rfl⟩
      · rintro ⟨⟨none, -⟩, rfl⟩
        obtain rfl := List.eq_nil_of_length_eq_zero none
        exact ⟨rfl, rfl⟩
  | succ count ih =>
      intro unread values rest
      simp only [TokenReader.times, bind_eq_ok_iff, pure_eq_ok_iff]
      constructor
      · rintro ⟨value, middle, read, others, _, goesOn, rfl, rfl⟩
        obtain ⟨isValid, rfl⟩ := (exact _ _ _).mp read
        obtain ⟨⟨rfl, valids⟩, rfl⟩ := (ih _ _ _).mp goesOn
        exact ⟨⟨rfl, List.forall_mem_cons.mpr ⟨isValid, valids⟩⟩,
          by rw [List.flatMap_cons, List.append_assoc]⟩
      · rintro ⟨⟨counted, valids⟩, rfl⟩
        cases values with
        | nil => cases counted
        | cons value values =>
            obtain ⟨isValid, valids⟩ := List.forall_mem_cons.mp valids
            rw [List.flatMap_cons, List.append_assoc]
            exact ⟨value, _, exact.read isValid _, values, _,
              (ih _ _ _).mpr ⟨⟨Nat.succ.inj counted, valids⟩, rfl⟩, rfl, rfl⟩

/-- A body that consumes something is entered once more at most than there are
tokens. -/
theorem timesTurns_le (shrinks : ∀ unread value rest, reader unread = .ok (value, rest) →
    rest.length < unread.length) (count : Nat) (unread : List τ) :
    timesTurns reader count unread ≤ unread.length + 1 := by
  induction count generalizing unread with
  | zero => exact Nat.zero_le _
  | succ count ih =>
      rw [timesTurns]
      split
      · omega
      · rename_i value rest read
        have shorter := shrinks unread value rest read
        have later := ih rest
        omega

/-- A reader that says whether another value follows, and consumes something
if one does. -/
structure Marked (ε τ α : Type) where
  read : TokenReader ε τ (Option α)
  shrinks : ∀ unread value rest, read unread = .ok (some value, rest) →
    rest.length < unread.length

/-- All the values up to the end marker. -/
def Marked.all (marked : Marked ε τ α) (unread : List τ) : Except ε (List α × List τ) :=
  match found : marked.read unread with
  | .error error => .error error
  | .ok (none, rest) => .ok ([], rest)
  | .ok (some value, rest) =>
      have := marked.shrinks unread value rest found
      (marked.all rest).map fun others => (value :: others.1, others.2)
termination_by unread.length

/-- How often this loop enters its body. -/
def Marked.turns (marked : Marked ε τ α) (unread : List τ) : Nat :=
  match found : marked.read unread with
  | .error _ | .ok (none, _) => 1
  | .ok (some value, rest) =>
      have := marked.shrinks unread value rest found
      marked.turns rest + 1
termination_by unread.length

/-- The values are marked by their layouts, and the end by a layout of its own. -/
structure Marked.Exact (marked : Marked ε τ α) (valid : α → Prop) (layout : α → List τ)
    (stop : List τ) : Prop where
  value : ∀ unread value rest, marked.read unread = .ok (some value, rest) ↔
    valid value ∧ unread = layout value ++ rest
  stop : ∀ unread rest, marked.read unread = .ok (none, rest) ↔ unread = stop ++ rest

section Marked

variable {marked : Marked ε τ α} {stop : List τ}

theorem Marked.all_of_some {unread rest : List τ} {value : α}
    (read : marked.read unread = .ok (some value, rest)) :
    marked.all unread = (marked.all rest).map fun others => (value :: others.1, others.2) := by
  rw [Marked.all]
  split <;> simp_all

theorem Marked.all_of_none {unread rest : List τ} (read : marked.read unread = .ok (none, rest)) :
    marked.all unread = .ok ([], rest) := by
  rw [Marked.all]
  split <;> simp_all

theorem Marked.all_of_error {unread : List τ} {error : ε}
    (read : marked.read unread = .error error) : marked.all unread = .error error := by
  rw [Marked.all]
  split <;> simp_all

/-- Induction along the turns of the loop. -/
theorem Marked.induct (marked : Marked ε τ α) {holds : List τ → Prop}
    (error : ∀ unread error, marked.read unread = .error error → holds unread)
    (none : ∀ unread rest, marked.read unread = .ok (none, rest) → holds unread)
    (some : ∀ unread value rest, marked.read unread = .ok (some value, rest) → holds rest →
      holds unread) (unread : List τ) : holds unread := by
  induction size : unread.length using Nat.strong_induction_on generalizing unread with
  | h length ih =>
      cases read : marked.read unread with
      | error failure => exact error unread failure read
      | ok found =>
          obtain ⟨_ | value, rest⟩ := found
          · exact none unread rest read
          · have shorter := marked.shrinks unread value rest read
            exact some unread value rest read (ih rest.length (size ▸ shorter) rest rfl)

theorem Marked.Exact.all (exact : marked.Exact valid layout stop) :
    TokenReader.Exact marked.all (fun values => ∀ value ∈ values, valid value)
      (fun values => values.flatMap layout ++ stop) := by
  intro unread values rest
  constructor
  · intro read
    induction unread using marked.induct generalizing values with
    | error unread error failed =>
        rw [Marked.all_of_error failed] at read
        cases read
    | none unread final stopped =>
        rw [Marked.all_of_none stopped] at read
        obtain ⟨rfl, rfl⟩ := Prod.mk.inj (Except.ok.inj read)
        exact ⟨by simp, (exact.stop _ _).mp stopped⟩
    | some unread value left found ih =>
        rw [Marked.all_of_some found] at read
        cases others : marked.all left with
        | error error =>
            rw [others] at read
            cases read
        | ok result =>
            rw [others] at read
            obtain ⟨rfl, rfl⟩ := Prod.mk.inj (Except.ok.inj read)
            obtain ⟨isValid, rfl⟩ := (exact.value _ _ _).mp found
            obtain ⟨valids, whole⟩ := ih _ others
            exact ⟨List.forall_mem_cons.mpr ⟨isValid, valids⟩, by
              rw [whole]
              simp only [List.flatMap_cons, List.append_assoc]⟩
  · rintro ⟨valids, rfl⟩
    induction values with
    | nil => exact Marked.all_of_none ((exact.stop _ _).mpr rfl)
    | cons value values ih =>
        obtain ⟨isValid, valids⟩ := List.forall_mem_cons.mp valids
        have found : marked.read ((value :: values).flatMap layout ++ stop ++ rest) =
            .ok (some value, values.flatMap layout ++ stop ++ rest) :=
          (exact.value _ _ _).mpr ⟨isValid, by simp only [List.flatMap_cons, List.append_assoc]⟩
        rw [Marked.all_of_some found, ih valids]
        rfl

theorem Marked.turns_le (marked : Marked ε τ α) (unread : List τ) :
    marked.turns unread ≤ unread.length + 1 := by
  induction unread using marked.induct with
  | error unread error failed =>
      rw [Marked.turns]
      split <;> simp_all
  | none unread rest stopped =>
      rw [Marked.turns]
      split <;> simp_all
  | some unread value rest found ih =>
      have shorter := marked.shrinks unread value rest found
      have turn : marked.turns unread = marked.turns rest + 1 := by
        rw [Marked.turns]
        split <;> simp_all
      omega

end Marked

/-- The reader fails with an error of a kind that must not escape. -/
def Leaks (escapes : ε → Prop) (reader : TokenReader ε τ α) (unread : List τ) : Prop :=
  ∃ error, reader unread = .error error ∧ escapes error

variable {escapes : ε → Prop}

theorem leaks_bind_iff {first : TokenReader ε τ α} {next : α → TokenReader ε τ β}
    {unread : List τ} :
    Leaks escapes (first >>= next) unread ↔
      Leaks escapes first unread ∨
        ∃ middle left, first unread = .ok (middle, left) ∧ Leaks escapes (next middle) left := by
  simp only [Leaks, bind_eq_error_iff]
  constructor
  · rintro ⟨error, failed | ⟨middle, left, read, failed⟩, escaping⟩
    · exact Or.inl ⟨error, failed, escaping⟩
    · exact Or.inr ⟨middle, left, read, error, failed, escaping⟩
  · rintro (⟨error, failed, escaping⟩ | ⟨middle, left, read, error, failed, escaping⟩)
    · exact ⟨error, Or.inl failed, escaping⟩
    · exact ⟨error, Or.inr ⟨middle, left, read, failed⟩, escaping⟩

theorem not_leaks_pure {value : α} {unread : List τ} :
    ¬ Leaks escapes (pure value : TokenReader ε τ α) unread := by
  rintro ⟨error, failed, -⟩
  cases failed

theorem leaks_throw_iff {error : ε} {unread : List τ} :
    Leaks escapes (throw error : TokenReader ε τ α) unread ↔ escapes error := by
  constructor
  · rintro ⟨_, failed, escaping⟩
    obtain rfl := Except.error.inj failed
    exact escaping
  · exact fun escaping => ⟨error, rfl, escaping⟩

theorem leaks_ite_iff {condition : Prop} [Decidable condition]
    {first second : TokenReader ε τ α} {unread : List τ} :
    Leaks escapes (if condition then first else second) unread ↔
      condition ∧ Leaks escapes first unread ∨ ¬ condition ∧ Leaks escapes second unread := by
  split_ifs with holds
  · simp [holds]
  · simp [holds]

theorem leaks_require_iff {condition : Prop} [Decidable condition] {error : ε}
    {unread : List τ} :
    Leaks escapes (require condition error) unread ↔ ¬ condition ∧ escapes error := by
  rw [require]
  split_ifs with holds
  · exact ⟨fun leaks => (not_leaks_pure leaks).elim, fun failed => absurd holds failed.1⟩
  · rw [leaks_throw_iff]
    exact ⟨fun escaping => ⟨holds, escaping⟩, fun failed => failed.2⟩

theorem leaks_atEnd_iff {error : ε} {unread : List τ} :
    Leaks escapes (atEnd error) unread ↔ unread ≠ [] ∧ escapes error := by
  simp only [Leaks, atEnd]
  split_ifs with ended
  · simp [List.isEmpty_iff.mp ended]
  · simp [List.isEmpty_iff.not.mp ended]

theorem leaks_mapError_iff {ε' : Type} {wrap : ε → ε'} {escapes : ε' → Prop}
    {reader : TokenReader ε τ α} {unread : List τ} :
    Leaks escapes (mapError wrap reader) unread ↔
      Leaks (fun error => escapes (wrap error)) reader unread := by
  simp only [Leaks, mapError_eq_error_iff]
  constructor
  · rintro ⟨_, ⟨inner, failed, rfl⟩, escaping⟩
    exact ⟨inner, failed, escaping⟩
  · rintro ⟨inner, failed, escaping⟩
    exact ⟨wrap inner, ⟨inner, failed, rfl⟩, escaping⟩

/-- A sequence leaks at its first part, or after a layout of that. -/
theorem Exact.leaks_bind_iff (exact : Exact reader valid layout) {next : α → TokenReader ε τ β}
    {unread : List τ} :
    Leaks escapes (reader >>= next) unread ↔
      Leaks escapes reader unread ∨
        ∃ value left, valid value ∧ unread = layout value ++ left ∧
          Leaks escapes (next value) left := by
  rw [TokenReader.leaks_bind_iff]
  simp only [exact _ _ _, and_assoc]

/-- A reader for all the tokens leaks where the reader does. -/
theorem leaks_whole_iff {reader : TokenReader ε τ α} {trailing : ε} (safe : ¬ escapes trailing)
    {tokens : List τ} :
    (∃ error, whole reader trailing tokens = .error error ∧ escapes error) ↔
      Leaks escapes reader tokens := by
  have unfolded : (∃ error, whole reader trailing tokens = .error error ∧ escapes error) ↔
      Leaks escapes (reader >>= fun value => atEnd trailing >>= fun _ => pure value) tokens :=
    exists_congr fun error => and_congr_left fun _ => run_eq_error_iff
  rw [unfolded]
  simp only [TokenReader.leaks_bind_iff, leaks_atEnd_iff, not_leaks_pure, safe, and_false,
    exists_false, or_false]

/-- A counted loop leaks after less values than it was to read. -/
theorem Exact.leaks_times_iff (exact : Exact reader valid layout) {count : Nat}
    {unread : List τ} :
    Leaks escapes (TokenReader.times reader count) unread ↔
      ∃ (values : List α) (left : List τ), values.length < count ∧ (∀ value ∈ values, valid value) ∧
        unread = values.flatMap layout ++ left ∧ Leaks escapes reader left := by
  induction count generalizing unread with
  | zero =>
      refine ⟨fun leaks => (not_leaks_pure leaks).elim, ?_⟩
      rintro ⟨values, left, none, -⟩
      exact absurd none (Nat.not_lt_zero _)
  | succ count ih =>
      rw [TokenReader.times, exact.leaks_bind_iff]
      constructor
      · rintro (leaks | ⟨value, left, isValid, rfl, leaks⟩)
        · exact ⟨[], unread, Nat.zero_lt_succ _, by simp, rfl, leaks⟩
        · rcases TokenReader.leaks_bind_iff.mp leaks with leaks | ⟨_, _, -, leaks⟩
          · obtain ⟨values, left, fewer, valids, rfl, leaksLater⟩ := ih.mp leaks
            exact ⟨value :: values, left, Nat.succ_lt_succ fewer,
              List.forall_mem_cons.mpr ⟨isValid, valids⟩,
              by rw [List.flatMap_cons, List.append_assoc], leaksLater⟩
          · exact (not_leaks_pure leaks).elim
      · rintro ⟨values, left, fewer, valids, rfl, leaks⟩
        cases values with
        | nil => exact Or.inl leaks
        | cons value values =>
            obtain ⟨isValid, valids⟩ := List.forall_mem_cons.mp valids
            refine Or.inr ⟨value, values.flatMap layout ++ left, isValid,
              by rw [List.flatMap_cons, List.append_assoc], ?_⟩
            exact TokenReader.leaks_bind_iff.mpr (Or.inl (ih.mpr
              ⟨values, left, Nat.lt_of_succ_lt_succ fewer, valids, rfl, leaks⟩))

/-- A loop with an end marker leaks after some values. -/
theorem Marked.Exact.leaks_all_iff {marked : Marked ε τ α} {stop : List τ}
    (exact : marked.Exact valid layout stop) {unread : List τ} :
    Leaks escapes marked.all unread ↔
      ∃ (values : List α) (left : List τ), (∀ value ∈ values, valid value) ∧
        unread = values.flatMap layout ++ left ∧ Leaks escapes marked.read left := by
  constructor
  · intro leaks
    induction unread using marked.induct with
    | error unread error failed =>
        obtain ⟨other, all, escaping⟩ := leaks
        rw [Marked.all_of_error failed] at all
        obtain rfl := Except.error.inj all
        exact ⟨[], unread, by simp, rfl, error, failed, escaping⟩
    | none unread rest stopped =>
        obtain ⟨other, all, -⟩ := leaks
        rw [Marked.all_of_none stopped] at all
        cases all
    | some unread value rest found ih =>
        obtain ⟨error, all, escaping⟩ := leaks
        rw [Marked.all_of_some found] at all
        cases others : marked.all rest with
        | ok result =>
            rw [others] at all
            cases all
        | error other =>
            rw [others] at all
            obtain rfl := Except.error.inj all
            obtain ⟨values, left, valids, rfl, leaks⟩ := ih ⟨other, others, escaping⟩
            obtain ⟨isValid, rfl⟩ := (exact.value _ _ _).mp found
            exact ⟨value :: values, left, List.forall_mem_cons.mpr ⟨isValid, valids⟩,
              by rw [List.flatMap_cons, List.append_assoc], leaks⟩
  · rintro ⟨values, left, valids, rfl, error, failed, escaping⟩
    refine ⟨error, ?_, escaping⟩
    induction values with
    | nil => exact Marked.all_of_error failed
    | cons value values ih =>
        obtain ⟨isValid, valids⟩ := List.forall_mem_cons.mp valids
        have found : marked.read ((value :: values).flatMap layout ++ left) =
            .ok (some value, values.flatMap layout ++ left) :=
          (exact.value _ _ _).mpr ⟨isValid, by rw [List.flatMap_cons, List.append_assoc]⟩
        rw [Marked.all_of_some found, ih valids]
        rfl

end Exact

section RunningOut

variable {κ : Type} {reader : TokenReader ε τ α} {short : ε → Prop}

/-- A reader that is given only a part of these tokens fails with such an error. -/
def Starves (short : ε → Prop) (reader : TokenReader ε τ α) (tokens : List τ) : Prop :=
  ∀ size < tokens.length, Leaks short reader (tokens.take size)

/-- A sequence runs out in its first part, or in what that goes on with. -/
theorem Starves.bind {next : α → TokenReader ε τ β} {front tokens : List τ} {value : α}
    (first : Starves short reader front)
    (read : ∀ rest, reader (front ++ rest) = .ok (value, rest))
    (second : Starves short (next value) tokens) :
    Starves short (reader >>= next) (front ++ tokens) := by
  intro size shorter
  rw [leaks_bind_iff]
  rcases Nat.lt_or_ge size front.length with early | late
  · rw [List.take_append_of_le_length (Nat.le_of_lt early)]
    exact Or.inl (first size early)
  · obtain ⟨more, rfl⟩ := Nat.exists_eq_add_of_le late
    rw [List.length_append, Nat.add_lt_add_iff_left] at shorter
    rw [List.take_length_add_append]
    exact Or.inr ⟨value, tokens.take more, read _, second more shorter⟩

/-- What is done with the value does not matter. -/
theorem Starves.bind_left {tokens : List τ} (starves : Starves short reader tokens)
    (next : α → TokenReader ε τ β) : Starves short (reader >>= next) tokens :=
  fun size shorter => leaks_bind_iff.mpr (Or.inl (starves size shorter))

/-- A reader for each of the keys, one after another. -/
def each (read : κ → TokenReader ε τ α) : List κ → TokenReader ε τ (List α)
  | [] => pure []
  | key :: keys => do
      let value ← read key
      let values ← each read keys
      return value :: values

variable {read : κ → TokenReader ε τ α} {key : α → κ} {layout : α → List τ}

/-- What was laid out by a list of values is read by the readers for them. -/
theorem each_flatMap {values : List α}
    (reads : ∀ value ∈ values, ∀ rest,
      read (key value) (layout value ++ rest) = .ok (value, rest)) (rest : List τ) :
    each read (values.map key) (values.flatMap layout ++ rest) = .ok (values, rest) := by
  induction values with
  | nil => rfl
  | cons value values ih =>
      obtain ⟨front, others⟩ := List.forall_mem_cons.mp reads
      rw [List.map_cons, List.flatMap_cons, List.append_assoc, each, bind_of_ok (front _),
        bind_of_ok (ih others)]
      rfl

/-- Tokens that run out do so at one of the values: the layouts of those in front of it are
there, and the reader for it fails on what is left. -/
theorem exists_starved {values : List α}
    (starves : ∀ value ∈ values, Starves short (read (key value)) (layout value)) {size : Nat}
    (shorter : size < (values.flatMap layout).length) :
    ∃ front value back rest, values = front ++ value :: back ∧
      (values.flatMap layout).take size = front.flatMap layout ++ rest ∧
      Leaks short (read (key value)) rest := by
  induction values generalizing size with
  | nil => exact absurd shorter (Nat.not_lt_zero _)
  | cons value values ih =>
      obtain ⟨starved, otherStarves⟩ := List.forall_mem_cons.mp starves
      rw [List.flatMap_cons] at shorter ⊢
      rcases Nat.lt_or_ge size (layout value).length with early | late
      · refine ⟨[], value, values, (layout value).take size, rfl, ?_, starved size early⟩
        exact List.take_append_of_le_length (Nat.le_of_lt early)
      · obtain ⟨more, rfl⟩ := Nat.exists_eq_add_of_le late
        rw [List.length_append, Nat.add_lt_add_iff_left] at shorter
        obtain ⟨front, failing, back, rest, rfl, cut, leaks⟩ := ih otherStarves shorter
        refine ⟨value :: front, failing, back, rest, rfl, ?_, leaks⟩
        rw [List.take_length_add_append, cut, List.flatMap_cons, List.append_assoc]

end RunningOut

end TokenReader

end FitzClient
