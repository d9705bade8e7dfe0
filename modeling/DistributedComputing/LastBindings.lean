import Mathlib.Data.List.Basic

/-!
# The last binding of a key

Bindings that are made one after the other, where a later one overrides an earlier one of the
same key.
-/

namespace DistributedComputing

variable {Key Value Name Meaning : Type}

/-- The value of the last binding of the key. -/
def lastValue [DecidableEq Key] (key : Key) (bindings : List (Key × Value)) : Option Value :=
  ((bindings.filter fun binding => binding.1 = key).getLast?).map (·.2)

variable [DecidableEq Key] [DecidableEq Name]

theorem lastValue_cons (key : Key) (binding : Key × Value) (bindings : List (Key × Value)) :
    lastValue key (binding :: bindings) =
      (lastValue key bindings).or (if binding.1 = key then some binding.2 else none) := by
  unfold lastValue
  by_cases same : binding.1 = key
  · rw [List.filter_cons_of_pos (by simpa using same), List.getLast?_cons, if_pos same]
    cases (bindings.filter fun binding => binding.1 = key).getLast? <;> rfl
  · rw [List.filter_cons_of_neg (by simpa using same), if_neg same, Option.or_none]

theorem lastValue_eq_none_iff {key : Key} {bindings : List (Key × Value)} :
    lastValue key bindings = none ↔ ∀ binding ∈ bindings, binding.1 ≠ key := by
  induction bindings with
  | nil => simp [lastValue]
  | cons binding bindings ih =>
      rw [lastValue_cons, Option.or_eq_none_iff, ih, List.forall_mem_cons]
      by_cases same : binding.1 = key <;> simp [same]

theorem lastValue_eq_some_iff {key : Key} {value : Value} {bindings : List (Key × Value)} :
    lastValue key bindings = some value ↔
      ∃ before after, bindings = before ++ (key, value) :: after ∧
        ∀ binding ∈ after, binding.1 ≠ key := by
  induction bindings with
  | nil => simp [lastValue]
  | cons binding bindings ih =>
      rw [lastValue_cons, Option.or_eq_some_iff, ih, lastValue_eq_none_iff]
      constructor
      · rintro (⟨before, after, rfl, none⟩ | ⟨none, first⟩)
        · exact ⟨binding :: before, after, rfl, none⟩
        · obtain ⟨name, given⟩ := binding
          obtain ⟨rfl, rfl⟩ : name = key ∧ given = value := by simpa using first
          exact ⟨[], bindings, rfl, none⟩
      · rintro ⟨before, after, split, none⟩
        cases before with
        | nil =>
            obtain ⟨rfl, rfl⟩ := List.cons.inj split
            exact .inr ⟨none, by simp⟩
        | cons first before =>
            obtain ⟨rfl, rfl⟩ := List.cons.inj split
            exact .inl ⟨before, after, rfl, none⟩

/-- A key is bound to some value when some binding is of the key. -/
theorem exists_lastValue_iff {key : Key} {bindings : List (Key × Value)} :
    (∃ value, lastValue key bindings = some value) ↔ ∃ binding ∈ bindings, binding.1 = key := by
  rw [← Option.ne_none_iff_exists', Ne, lastValue_eq_none_iff]
  simp

/-- Keys that are written in another way, each its own way, keep their last values. -/
theorem lastValue_map {write : Key → Name} (injective : ∀ first second,
    write first = write second → first = second) (change : Value → Meaning) (key : Key)
    (bindings : List (Key × Value)) :
    lastValue (write key) (bindings.map fun binding => (write binding.1, change binding.2)) =
      (lastValue key bindings).map change := by
  induction bindings with
  | nil => rfl
  | cons binding bindings ih =>
      rw [List.map_cons, lastValue_cons, lastValue_cons, ih]
      by_cases same : binding.1 = key
      · rw [if_pos same, if_pos (congrArg write same)]
        cases lastValue key bindings <;> rfl
      · rw [if_neg same, if_neg fun written => same (injective _ _ written), Option.or_none,
          Option.or_none]

/-- What is bound to the keys of items can be read off the last item of a key. -/
theorem lastValue_items {Item : Type} (name : Item → Key) (change : Item → Value) (key : Key)
    (items : List Item) :
    lastValue key (items.map fun item => (name item, change item)) =
      (lastValue key (items.map fun item => (name item, item))).map change := by
  induction items with
  | nil => rfl
  | cons item items ih =>
      rw [List.map_cons, List.map_cons, lastValue_cons, lastValue_cons, ih]
      by_cases same : name item = key
      · rw [if_pos same, if_pos same]
        cases lastValue key (items.map fun item => (name item, item)) <;> rfl
      · rw [if_neg same, if_neg same, Option.or_none, Option.or_none]

end DistributedComputing
