import Mathlib.Data.List.AList

/-!
# Dictionaries

A Python dictionary whose order is not observed is an association list with
distinct keys.  Two rules say what can be found in it after an assignment and
after a `pop`; programs that keep several tables in step are verified with
them alone.  A third one says that a dictionary is rebuilt from its items.
-/

namespace FitzClient

/-- A finite map with distinct keys. -/
abbrev Dictionary (Key Value : Type) :=
  AList fun _ : Key => Value

namespace Dictionary

variable {Key Value : Type} [DecidableEq Key] {dictionary : Dictionary Key Value}
  {key other : Key} {value found : Value}

/-- Reading after `d[key] = value`. -/
theorem lookup_insert_eq_some :
    (dictionary.insert key value).lookup other = some found ↔
      other = key ∧ found = value ∨ other ≠ key ∧ dictionary.lookup other = some found := by
  by_cases same : other = key
  · subst same
    simp [eq_comm]
  · simp [same]

/-- Reading after `d.pop(key, None)`. -/
theorem lookup_erase_eq_some :
    (dictionary.erase key).lookup other = some found ↔
      other ≠ key ∧ dictionary.lookup other = some found := by
  by_cases same : other = key
  · subst same
    simp
  · simp [same]

/-- `d.pop(key, None)` of an absent key. -/
theorem erase_eq_self (absent : dictionary.lookup key = none) :
    dictionary.erase key = dictionary :=
  AList.ext (List.kerase_of_notMem_keys (AList.lookup_eq_none.mp absent))

/-- An assignment as an update of the lookup function. -/
theorem lookup_insert_eq_update :
    (fun other => (dictionary.insert key value).lookup other) =
      Function.update (fun other => dictionary.lookup other) key (some value) := by
  funext other
  by_cases same : other = key
  · subst same
    simp
  · simp [same]

/-- A `pop` as an update of the lookup function. -/
theorem lookup_erase_eq_update :
    (fun other => (dictionary.erase key).lookup other) =
      Function.update (fun other => dictionary.lookup other) key none := by
  funext other
  by_cases same : other = key
  · subst same
    simp
  · simp [same]

/-- `d.items()` -/
def items (dictionary : Dictionary Key Value) : List (Key × Value) :=
  dictionary.entries.map fun entry => (entry.1, entry.2)

/-- `d[key] = value` for pairs in turn. -/
def assign (dictionary : Dictionary Key Value) (pairs : List (Key × Value)) :
    Dictionary Key Value :=
  pairs.foldl (fun dictionary pair => dictionary.insert pair.1 pair.2) dictionary

theorem mem_items : (key, value) ∈ dictionary.items ↔ dictionary.lookup key = some value := by
  rw [← Option.mem_def, AList.mem_lookup_iff, items, List.mem_map]
  constructor
  · rintro ⟨entry, present, same⟩
    obtain ⟨rfl, rfl⟩ := Prod.mk.inj same
    exact present
  · exact fun present => ⟨_, present, rfl⟩

omit [DecidableEq Key] in
theorem nodup_items (dictionary : Dictionary Key Value) :
    (dictionary.items.map Prod.fst).Nodup := by
  have keys : dictionary.items.map Prod.fst = dictionary.keys := by
    simp [items, AList.keys, List.keys, Function.comp_def]
  rw [keys]
  exact dictionary.keys_nodup

/-- Reading after assignments to distinct keys. -/
theorem lookup_assign_eq_some {pairs : List (Key × Value)} (nodup : (pairs.map Prod.fst).Nodup) :
    (dictionary.assign pairs).lookup key = some value ↔
      (key, value) ∈ pairs ∨ key ∉ pairs.map Prod.fst ∧ dictionary.lookup key = some value := by
  induction pairs generalizing dictionary with
  | nil => simp [assign]
  | cons pair pairs ih =>
      obtain ⟨fresh, nodup⟩ := List.nodup_cons.mp nodup
      have step : dictionary.assign (pair :: pairs) =
          assign (dictionary.insert pair.1 pair.2) pairs := rfl
      rw [step, ih nodup, lookup_insert_eq_some, List.mem_cons, List.map_cons, List.mem_cons,
        Prod.ext_iff]
      by_cases same : key = pair.1
      · subst same
        have absent : (pair.1, value) ∉ pairs := fun present =>
          fresh (List.mem_map.mpr ⟨_, present, rfl⟩)
        simp [fresh, absent]
      · simp [same]

/-- All pairs of a dictionary make it up again, in whatever order they are assigned. -/
theorem lookup_assign_items {pairs : List (Key × Value)}
    (listed : pairs.Perm dictionary.items) (key : Key) :
    (assign ∅ pairs).lookup key = dictionary.lookup key := by
  have nodup : (pairs.map Prod.fst).Nodup :=
    (listed.map Prod.fst).nodup_iff.mpr dictionary.nodup_items
  ext value
  rw [lookup_assign_eq_some nodup, listed.mem_iff, mem_items]
  simp

end Dictionary

end FitzClient
