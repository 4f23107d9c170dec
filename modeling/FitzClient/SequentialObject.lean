import Mathlib.Data.List.Nodup

/-!
# Sequential objects and their histories

A sequential object takes one query after another.  A history lists who asked
which query and what the answer was; it is sequential if the object gives these
answers when it takes the queries in this order.

A history that is only ever extended orders in the same way whatever it has
listed so far, and whatever it lists later comes behind.
-/

namespace FitzClient

/-- An object that answers one query after another. -/
structure SequentialObject (Query Answer State : Type) where
  initial : State
  perform : State → Query → Answer × State

/-- An entry of a history. -/
structure Execution (Origin Query Answer : Type) where
  origin : Origin
  query : Query
  answer : Answer
  deriving DecidableEq, Repr

variable {Origin Query Answer State : Type}

namespace SequentialObject

/-- The state after these queries. -/
def after (object : SequentialObject Query Answer State) : State → List Query → State
  | state, [] => state
  | state, query :: queries => object.after (object.perform state query).2 queries

/-- The answers to these queries. -/
def answers (object : SequentialObject Query Answer State) : State → List Query → List Answer
  | _, [] => []
  | state, query :: queries =>
      (object.perform state query).1 :: object.answers (object.perform state query).2 queries

variable (object : SequentialObject Query Answer State)

theorem after_append (state : State) (front back : List Query) :
    object.after state (front ++ back) = object.after (object.after state front) back := by
  induction front generalizing state with
  | nil => rfl
  | cons query front ih => exact ih _

theorem answers_append (state : State) (front back : List Query) :
    object.answers state (front ++ back) =
      object.answers state front ++ object.answers (object.after state front) back := by
  induction front generalizing state with
  | nil => rfl
  | cons query front ih =>
      rw [List.cons_append, answers, answers, List.cons_append, ih]
      rfl

/-- The object gives the answers of the history in its order, and is then in this state. -/
structure Explains (history : List (Execution Origin Query Answer)) (state : State) : Prop where
  answers : history.map Execution.answer =
    object.answers object.initial (history.map Execution.query)
  state : state = object.after object.initial (history.map Execution.query)

theorem explains_nil :
    object.Explains ([] : List (Execution Origin Query Answer)) object.initial :=
  ⟨rfl, rfl⟩

variable {object}

/-- The object takes one more query. -/
theorem Explains.concat {history : List (Execution Origin Query Answer)} {state : State}
    (explains : object.Explains history state) (origin : Origin) (query : Query) :
    object.Explains (history ++ [⟨origin, query, (object.perform state query).1⟩])
      (object.perform state query).2 where
  answers := by
    rw [List.map_append, List.map_append, answers_append, ← explains.answers, ← explains.state]
    rfl
  state := by
    rw [List.map_append, after_append, ← explains.state]
    rfl

end SequentialObject

/-- `first` is listed before `second`. -/
def ListedBefore {Item : Type} (items : List Item) (first second : Item) : Prop :=
  List.Sublist [first, second] items

variable {Item : Type} {items more : List Item} {first second : Item}

/-- What is listed stays in its place. -/
theorem getElem?_of_isPrefix {longer : List Item} (grown : items <+: longer) {index : Nat}
    (found : items[index]? = some first) : longer[index]? = some first := by
  obtain ⟨inside, rfl⟩ := List.getElem?_eq_some_iff.mp found
  exact List.prefix_iff_getElem?.mp grown index inside

/-- What a longer list adds comes behind what there was. -/
theorem listedBefore_of_grown (old : first ∈ items) (new : second ∉ items)
    (listed : second ∈ items ++ more) : ListedBefore (items ++ more) first second := by
  have added : second ∈ more := (List.mem_append.mp listed).resolve_left new
  exact (List.singleton_sublist.mpr old).append (List.singleton_sublist.mpr added)

end FitzClient
