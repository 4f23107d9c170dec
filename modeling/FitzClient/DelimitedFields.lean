import Mathlib.Data.List.Basic

/-!
# Sequences of delimited fields

A value is written by a code that depends on its kind only, and where an
encoding ends can be told from the kind.  A sequence of values can then be told
from its encoding if the kind of each value follows from the values in front of
it, as that of a flagged or counted field does.
-/

namespace FitzClient

/-- A code whose encodings are delimited among the values of one kind. -/
structure DelimitedCode (Value Kind Token : Type*) where
  kind : Value → Kind
  encoding : Value → List Token
  valid : Value → Prop
  delimited : ∀ {first second : Value} {rest others : List Token}, valid first → valid second →
    kind first = kind second → encoding first ++ rest = encoding second ++ others →
    first = second ∧ rest = others

namespace DelimitedCode

variable {Value Kind Token Item : Type*} (code : DelimitedCode Value Kind Token)

/-- The kinds of two sequences agree as long as the values do. -/
def Agrees : List Value → List Value → Prop
  | [], [] => True
  | first :: firsts, second :: seconds =>
      code.kind first = code.kind second ∧ (first = second → Agrees firsts seconds)
  | _, _ => False

variable {code} {firsts seconds moreFirsts moreSeconds : List Value}

/-- Such sequences have different encodings, even with something behind them. -/
theorem Agrees.append_inj (agrees : code.Agrees firsts seconds)
    (firstsValid : ∀ value ∈ firsts, code.valid value)
    (secondsValid : ∀ value ∈ seconds, code.valid value) {rest others : List Token}
    (same : firsts.flatMap code.encoding ++ rest = seconds.flatMap code.encoding ++ others) :
    firsts = seconds ∧ rest = others := by
  induction firsts generalizing seconds with
  | nil =>
      cases seconds with
      | nil => exact ⟨rfl, same⟩
      | cons second seconds => exact agrees.elim
  | cons first firsts ih =>
      cases seconds with
      | nil => exact agrees.elim
      | cons second seconds =>
          obtain ⟨sameKind, later⟩ := agrees
          obtain ⟨firstValid, tailValid⟩ := List.forall_mem_cons.mp firstsValid
          obtain ⟨secondValid, otherTailValid⟩ := List.forall_mem_cons.mp secondsValid
          rw [List.flatMap_cons, List.flatMap_cons, List.append_assoc, List.append_assoc] at same
          obtain ⟨rfl, sameRest⟩ := code.delimited firstValid secondValid sameKind same
          obtain ⟨rfl, rfl⟩ := ih (later rfl) tailValid otherTailValid sameRest
          exact ⟨rfl, rfl⟩

theorem Agrees.eq_of_flatMap_eq (agrees : code.Agrees firsts seconds)
    (firstsValid : ∀ value ∈ firsts, code.valid value)
    (secondsValid : ∀ value ∈ seconds, code.valid value)
    (same : firsts.flatMap code.encoding = seconds.flatMap code.encoding) : firsts = seconds := by
  have padded : firsts.flatMap code.encoding ++ [] = seconds.flatMap code.encoding ++ [] := by
    rw [same]
  exact (agrees.append_inj firstsValid secondsValid padded).1

/-- One sequence after another. -/
theorem Agrees.append (front : code.Agrees firsts seconds)
    (back : firsts = seconds → code.Agrees moreFirsts moreSeconds) :
    code.Agrees (firsts ++ moreFirsts) (seconds ++ moreSeconds) := by
  induction firsts generalizing seconds with
  | nil =>
      cases seconds with
      | nil => exact back rfl
      | cons second seconds => exact front.elim
  | cons first firsts ih =>
      cases seconds with
      | nil => exact front.elim
      | cons second seconds =>
          refine ⟨front.1, fun sameFirst => ih (front.2 sameFirst) fun sameRest => ?_⟩
          exact back (by rw [sameFirst, sameRest])

/-- The sequences of equally many items. -/
theorem Agrees.flatMap {layout : Item → List Value}
    (agrees : ∀ first second, code.Agrees (layout first) (layout second))
    {firstItems secondItems : List Item} (sameLength : firstItems.length = secondItems.length) :
    code.Agrees (firstItems.flatMap layout) (secondItems.flatMap layout) := by
  induction firstItems generalizing secondItems with
  | nil =>
      obtain rfl := List.length_eq_zero_iff.mp sameLength.symm
      exact trivial
  | cons first firsts ih =>
      cases secondItems with
      | nil => cases sameLength
      | cons second seconds =>
          exact (agrees first second).append fun _ => ih (Nat.succ.inj sameLength)

/-- Where one sequence ends, so does the other. -/
theorem Agrees.eq_of_append_eq (agrees : code.Agrees firsts seconds) {rest others : List Value}
    (same : firsts ++ rest = seconds ++ others) : firsts = seconds ∧ rest = others := by
  induction firsts generalizing seconds with
  | nil =>
      cases seconds with
      | nil => exact ⟨rfl, same⟩
      | cons second seconds => exact agrees.elim
  | cons first firsts ih =>
      cases seconds with
      | nil => exact agrees.elim
      | cons second seconds =>
          obtain ⟨rfl, sameTail⟩ := List.cons.inj same
          obtain ⟨rfl, rfl⟩ := ih (agrees.2 rfl) sameTail
          exact ⟨rfl, rfl⟩

variable (code) in
/-- An item can be told from its sequence. -/
structure Tells (layout : Item → List Value) : Prop where
  agrees : ∀ first second, code.Agrees (layout first) (layout second)
  injective : Function.Injective layout

variable {layout : Item → List Value}

/-- So it can with anything behind it. -/
theorem Tells.append_inj (tells : code.Tells layout) {first second : Item}
    {rest others : List Value} (same : layout first ++ rest = layout second ++ others) :
    first = second ∧ rest = others := by
  obtain ⟨sameFront, sameBack⟩ := (tells.agrees first second).eq_of_append_eq same
  exact ⟨tells.injective sameFront, sameBack⟩

/-- Two items one after another. -/
theorem Tells.append {Other : Type*} {back : Other → List Value} (tells : code.Tells layout)
    (tellsBack : code.Tells back) :
    code.Tells fun items : Item × Other => layout items.1 ++ back items.2 where
  agrees first second :=
    (tells.agrees first.1 second.1).append fun _ => tellsBack.agrees first.2 second.2
  injective first second same := by
    obtain ⟨sameFront, sameBack⟩ := tells.append_inj same
    exact Prod.ext sameFront (tellsBack.injective sameBack)

/-- An item that is told by its parts. -/
theorem Tells.comp {Other : Type*} {parts : Other → Item} (tells : code.Tells layout)
    (injective : Function.Injective parts) : code.Tells fun item => layout (parts item) where
  agrees first second := tells.agrees (parts first) (parts second)
  injective _ _ same := injective (tells.injective same)

/-- So can each of equally many items. -/
theorem Tells.flatMap_inj (tells : code.Tells layout) {firstItems secondItems : List Item}
    (sameLength : firstItems.length = secondItems.length)
    (same : firstItems.flatMap layout = secondItems.flatMap layout) : firstItems = secondItems := by
  induction firstItems generalizing secondItems with
  | nil => exact (List.length_eq_zero_iff.mp sameLength.symm).symm
  | cons first firsts ih =>
      cases secondItems with
      | nil => cases sameLength
      | cons second seconds =>
          rw [List.flatMap_cons, List.flatMap_cons] at same
          obtain ⟨rfl, sameBack⟩ := tells.append_inj same
          rw [ih (Nat.succ.inj sameLength) sameBack]

end DelimitedCode

end FitzClient
