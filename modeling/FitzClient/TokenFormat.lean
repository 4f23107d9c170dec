import FitzClient.TokenReader

/-!
# Formats of whole inputs

A reader takes a value off the front; a decoder is given all the tokens and
accounts for every one of them.  A format is a decoder with the inputs that it
accepts for each value, so that two decoders of one format are told apart by
their errors only.  Formats come from exact readers, with or without a check of
the length in front, and are combined by relabelling their values and by giving
the empty input a meaning of its own.
-/

namespace FitzClient

/-- A decoder and the inputs that it accepts for each value. -/
structure TokenFormat (ε τ α : Type) where
  decode : List τ → Except ε α
  Encodes : α → List τ → Prop
  exact : ∀ tokens value, decode tokens = .ok value ↔ Encodes value tokens

namespace TokenFormat

open TokenReader

variable {ε τ α β : Type}

/-- What an exact reader takes, with nothing after it. -/
def ofReader {reader : TokenReader ε τ α} {valid : α → Prop} {layout : α → List τ}
    (exact : Exact reader valid layout) (trailing : ε) : TokenFormat ε τ α where
  decode := whole reader trailing
  Encodes value tokens := valid value ∧ tokens = layout value
  exact _ _ := exact.whole_eq_ok_iff

/-- A reader that is given as many tokens as it takes. -/
def sized (size : Nat) (wrong : ε) (reader : TokenReader ε τ α) (tokens : List τ) : Except ε α :=
  if tokens.length ≠ size then .error wrong else run reader tokens

theorem sized_eq_ok_iff {reader : TokenReader ε τ α} {valid : α → Prop} {layout : α → List τ}
    (exact : Exact reader valid layout) {size : Nat}
    (lengths : ∀ value, (layout value).length = size) {wrong : ε} {tokens : List τ} {value : α} :
    sized size wrong reader tokens = .ok value ↔ valid value ∧ tokens = layout value := by
  unfold sized
  constructor
  · intro read
    split_ifs at read with isSize
    obtain ⟨rest, taken⟩ := run_eq_ok_iff.mp read
    obtain ⟨isValid, rfl⟩ := (exact _ _ _).mp taken
    have sum := not_not.mp isSize
    rw [List.length_append, lengths] at sum
    rw [List.eq_nil_of_length_eq_zero (Nat.add_eq_left.mp sum), List.append_nil]
    exact ⟨isValid, rfl⟩
  · rintro ⟨isValid, rfl⟩
    rw [if_neg (not_not.mpr (lengths value)), run_eq_ok_iff]
    have taken := exact.read isValid []
    rw [List.append_nil] at taken
    exact ⟨[], taken⟩

/-- What an exact reader of a fixed length takes. -/
def ofSized {reader : TokenReader ε τ α} {valid : α → Prop} {layout : α → List τ}
    (exact : Exact reader valid layout) (size : Nat)
    (lengths : ∀ value, (layout value).length = size) (wrong : ε) : TokenFormat ε τ α where
  decode := sized size wrong reader
  Encodes value tokens := valid value ∧ tokens = layout value
  exact _ _ := sized_eq_ok_iff exact lengths

/-- Nothing at all. -/
def nothing (trailing : ε) : TokenFormat ε τ Unit where
  decode tokens := if tokens.isEmpty then .ok () else .error trailing
  Encodes _ tokens := tokens = []
  exact tokens value := by
    cases tokens <;> simp

/-- A check that the input is long enough, in front of a format whose encodings are. -/
def atLeast (size : Nat) (wrong : ε) (format : TokenFormat ε τ α)
    (long : ∀ tokens value, format.Encodes value tokens → size ≤ tokens.length) :
    TokenFormat ε τ α where
  decode tokens := if tokens.length < size then .error wrong else format.decode tokens
  Encodes := format.Encodes
  exact tokens value := by
    split_ifs with short
    · refine iff_of_false nofun fun encodes => ?_
      have enough := long tokens value encodes
      omega
    · exact format.exact tokens value

/-- A decoder that does not look at its input. -/
def ignored (value : α) : TokenFormat ε τ α where
  decode _ := .ok value
  Encodes found _ := found = value
  exact _ _ := by rw [Except.ok.injEq, eq_comm]

/-- The values under other names. -/
def map (rename : α → β) (format : TokenFormat ε τ α) : TokenFormat ε τ β where
  decode tokens := (format.decode tokens).map rename
  Encodes value tokens := ∃ inner, format.Encodes inner tokens ∧ rename inner = value
  exact tokens value := by
    simp only [← format.exact]
    cases format.decode tokens with
    | error error => simp [Except.map]
    | ok found => simp [Except.map]

/-- An empty input stands for a value of its own. -/
def orEmpty (absent : α) (format : TokenFormat ε τ α) : TokenFormat ε τ α where
  decode tokens := if tokens.isEmpty then .ok absent else format.decode tokens
  Encodes value tokens := tokens = [] ∧ value = absent ∨ tokens ≠ [] ∧ format.Encodes value tokens
  exact tokens value := by
    cases tokens with
    | nil => simp [eq_comm]
    | cons token tokens => simp [format.exact]

/-- No encoding goes on after another one, unless that one is empty. -/
def Delimited (format : TokenFormat ε τ α) : Prop :=
  ∀ tokens more first second, format.Encodes first tokens →
    format.Encodes second (tokens ++ more) → more = [] ∨ tokens = []

/-- No encoding goes on after another one. -/
def Strict (format : TokenFormat ε τ α) : Prop :=
  ∀ tokens more first second, format.Encodes first tokens →
    format.Encodes second (tokens ++ more) → more = []

theorem strict_ofReader {reader : TokenReader ε τ α} {valid : α → Prop} {layout : α → List τ}
    (exact : Exact reader valid layout) (trailing : ε) : (ofReader exact trailing).Strict := by
  rintro tokens more first second ⟨isValid, rfl⟩ ⟨alsoValid, same⟩
  rw [← List.append_nil (layout second)] at same
  exact (exact.append_inj isValid alsoValid same).2

/-- An input of another length is refused. -/
theorem strict_ofSized {reader : TokenReader ε τ α} {valid : α → Prop} {layout : α → List τ}
    (exact : Exact reader valid layout) {size : Nat}
    (lengths : ∀ value, (layout value).length = size) (wrong : ε) :
    (ofSized exact size lengths wrong).Strict := by
  rintro tokens more first second ⟨-, rfl⟩ ⟨-, same⟩
  have length := congrArg List.length same
  rw [List.length_append, lengths, lengths] at length
  exact List.eq_nil_of_length_eq_zero (Nat.add_eq_left.mp length)

theorem strict_nothing (trailing : ε) : (nothing trailing : TokenFormat ε τ Unit).Strict := by
  rintro tokens more first second rfl isNothing
  exact isNothing

/-- A single encoding does not go on after itself. -/
theorem strict_of_subsingleton {format : TokenFormat ε τ α} {only : List τ}
    (isOnly : ∀ tokens value, format.Encodes value tokens → tokens = only) : format.Strict := by
  intro tokens more first second isFirst isSecond
  have same := isOnly _ _ isSecond
  rw [isOnly _ _ isFirst] at same
  exact List.append_right_eq_self.mp same

theorem Strict.map {format : TokenFormat ε τ α} (strict : format.Strict) (rename : α → β) :
    (format.map rename).Strict := by
  rintro tokens more _ _ ⟨first, isFirst, -⟩ ⟨second, isSecond, -⟩
  exact strict tokens more first second isFirst isSecond

theorem Delimited.map {format : TokenFormat ε τ α} (delimited : format.Delimited)
    (rename : α → β) : (format.map rename).Delimited := by
  rintro tokens more _ _ ⟨first, isFirst, -⟩ ⟨second, isSecond, -⟩
  exact delimited tokens more first second isFirst isSecond

theorem Strict.atLeast {format : TokenFormat ε τ α} (strict : format.Strict) {size : Nat}
    {wrong : ε} (long : ∀ tokens value, format.Encodes value tokens → size ≤ tokens.length) :
    (format.atLeast size wrong long).Strict := strict

theorem Strict.orEmpty {format : TokenFormat ε τ α} (strict : format.Strict) (absent : α) :
    (format.orEmpty absent).Delimited := by
  rintro tokens more first second (⟨none, -⟩ | ⟨some, isFirst⟩) (⟨allNone, -⟩ | ⟨-, isSecond⟩)
  · exact Or.inr none
  · exact Or.inr none
  · exact (some (List.append_eq_nil_iff.mp allNone).1).elim
  · exact Or.inl (strict tokens more first second isFirst isSecond)

end TokenFormat

end FitzClient
