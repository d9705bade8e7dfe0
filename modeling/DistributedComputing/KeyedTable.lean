import Mathlib.Data.List.Nodup

/-!
# Tables with a unique key

A table is a list of rows no two of which share their key, as a primary key or a
unique index guarantees.  Updates take a row test and a change that keeps the key,
so every table that can be written down satisfies the constraint.
-/

namespace DistributedComputing

/-- A list of rows whose keys are pairwise distinct. -/
structure KeyedTable {Row Key : Type} (key : Row → Key) where
  rows : List Row
  unique : (rows.map key).Nodup

namespace KeyedTable

variable {Row Key : Type} {key : Row → Key}

@[ext]
theorem ext {first second : KeyedTable key} (rowsEq : first.rows = second.rows) :
    first = second := by
  cases first
  cases second
  cases rowsEq
  rfl

/-- The table without rows. -/
def empty : KeyedTable key where
  rows := []
  unique := List.nodup_nil

theorem eq_of_key_eq (table : KeyedTable key) {first second : Row}
    (firstMem : first ∈ table.rows) (secondMem : second ∈ table.rows)
    (keyEq : key first = key second) : first = second :=
  List.inj_on_of_nodup_map table.unique firstMem secondMem keyEq

/-- Change every row that passes the test; the change keeps each row's key. -/
def updateWhere (table : KeyedTable key) (test : Row → Bool) (change : Row → Row)
    (keeps : ∀ row, key (change row) = key row := by intro; rfl) :
    KeyedTable key where
  rows := table.rows.map fun row => if test row then change row else row
  unique := by
    have keysEq : (table.rows.map fun row => if test row then change row else row).map key =
        table.rows.map key := by
      rw [List.map_map]
      apply List.map_congr_left
      intro row _
      simp only [Function.comp_apply]
      split
      · exact keeps row
      · rfl
    rw [keysEq]
    exact table.unique

section Lookup

variable [DecidableEq Key]

/-- The row with the given key. -/
def lookup (table : KeyedTable key) (wanted : Key) : Option Row :=
  table.rows.find? fun row => decide (key row = wanted)

@[simp]
theorem lookup_empty (wanted : Key) : (empty : KeyedTable key).lookup wanted = none :=
  rfl

theorem lookup_eq_some_iff (table : KeyedTable key) (wanted : Key) (row : Row) :
    table.lookup wanted = some row ↔ row ∈ table.rows ∧ key row = wanted := by
  constructor
  · intro found
    exact ⟨List.mem_of_find?_eq_some found, by simpa using List.find?_some found⟩
  · rintro ⟨member, rfl⟩
    cases found : table.lookup (key row) with
    | none =>
        have absent := List.find?_eq_none.mp found row member
        simp at absent
    | some other =>
        have keyEq : key other = key row := by simpa using List.find?_some found
        rw [table.eq_of_key_eq (List.mem_of_find?_eq_some found) member keyEq]

theorem lookup_of_mem {table : KeyedTable key} {row : Row} (member : row ∈ table.rows) :
    table.lookup (key row) = some row :=
  (table.lookup_eq_some_iff (key row) row).mpr ⟨member, rfl⟩

theorem mem_of_lookup {table : KeyedTable key} {wanted : Key} {row : Row}
    (found : table.lookup wanted = some row) : row ∈ table.rows :=
  ((table.lookup_eq_some_iff wanted row).mp found).1

theorem key_of_lookup {table : KeyedTable key} {wanted : Key} {row : Row}
    (found : table.lookup wanted = some row) : key row = wanted :=
  ((table.lookup_eq_some_iff wanted row).mp found).2

theorem lookup_eq_none_iff (table : KeyedTable key) (wanted : Key) :
    table.lookup wanted = none ↔ ∀ row ∈ table.rows, key row ≠ wanted := by
  simp [lookup, List.find?_eq_none]

/-- An update changes what a key looks up to exactly when its row passes. -/
theorem lookup_updateWhere (table : KeyedTable key) (test : Row → Bool)
    (change : Row → Row) (keeps : ∀ row, key (change row) = key row) (wanted : Key) :
    (table.updateWhere test change keeps).lookup wanted =
      (table.lookup wanted).map fun row => if test row then change row else row := by
  have keysEq : ∀ row, key (if test row then change row else row) = key row := by
    intro row
    split
    · exact keeps row
    · rfl
  simp only [lookup, updateWhere, List.find?_map, Function.comp_def, keysEq]

/-- Change the row with the given key, if there is one. -/
def updateAt (table : KeyedTable key) (wanted : Key) (change : Row → Row)
    (keeps : ∀ row, key (change row) = key row := by intro; rfl) : KeyedTable key :=
  table.updateWhere (fun row => decide (key row = wanted)) change keeps

theorem lookup_updateAt (table : KeyedTable key) (wanted : Key) (change : Row → Row)
    (keeps : ∀ row, key (change row) = key row) (other : Key) :
    (table.updateAt wanted change keeps).lookup other =
      if other = wanted then (table.lookup wanted).map change else table.lookup other := by
  rw [updateAt, lookup_updateWhere]
  cases found : table.lookup other with
  | none =>
      by_cases same : other = wanted
      · subst same
        simp [found]
      · simp [same]
  | some row =>
      have keyEq := key_of_lookup found
      by_cases same : other = wanted
      · subst same
        simp [keyEq, found]
      · simp [keyEq, same]

/-- Add a row with a key that is not in the table yet. -/
def insert (table : KeyedTable key) (row : Row) (fresh : table.lookup (key row) = none) :
    KeyedTable key where
  rows := table.rows ++ [row]
  unique := by
    rw [lookup_eq_none_iff] at fresh
    rw [List.map_append, List.nodup_append]
    refine ⟨table.unique, by simp, ?_⟩
    rintro _ firstMem _ secondMem rfl
    obtain ⟨other, member, keyEq⟩ := List.mem_map.mp firstMem
    simp only [List.map_cons, List.map_nil, List.mem_singleton] at secondMem
    exact fresh other member (keyEq.trans secondMem)

theorem lookup_insert (table : KeyedTable key) (row : Row)
    (fresh : table.lookup (key row) = none) (wanted : Key) :
    (table.insert row fresh).lookup wanted =
      if key row = wanted then some row else table.lookup wanted := by
  simp only [lookup, insert, List.find?_append, List.find?_cons, List.find?_nil]
  by_cases same : key row = wanted
  · subst same
    have absent : table.rows.find? (fun other => decide (key other = key row)) = none := fresh
    simp [absent]
  · simp [same]

end Lookup

end KeyedTable

end DistributedComputing
