import Mathlib.Data.List.Nodup
import Mathlib.Tactic.Ring

/-!
# Tables with a primary key

A table is a list of rows whose keys are distinct, so that a key finds at most one row.
Inserting asks for a fresh key, writing replaces the row that has the key of the new one, and
erasing drops the rows that a test selects. Each operation keeps the keys distinct.

Counting laws say how many rows with a property an operation adds or takes away. They are
stated over the integers, since a counter kept beside a table moves in both directions.
-/

namespace ShellHub.Tables

/-- How replacing one element changes the number of those with a property. -/
theorem countP_replaced {α : Type} {list : List α} {index : Nat} {old : α}
    (found : list[index]? = some old) (test : α → Bool) (new : α) :
    (list.set index new).countP test + (if test old then 1 else 0) =
      list.countP test + if test new then 1 else 0 := by
  obtain ⟨inside, value⟩ := List.getElem?_eq_some_iff.mp found
  have counted : test old = true → 0 < list.countP test := fun holds =>
    List.countP_pos_iff.mpr ⟨old, List.mem_of_getElem? found, holds⟩
  rw [List.countP_set inside, value]
  split
  · rename_i holds
    have := counted holds
    omega
  · omega

/-- Rows with distinct keys. -/
structure Table (α κ : Type) (key : α → κ) where
  rows : List α
  distinct : (rows.map key).Nodup

namespace Table

variable {α κ : Type} {key : α → κ}

/-- The table without rows. -/
def empty : Table α κ key := ⟨[], List.nodup_nil⟩

/-- Drop the rows that a test selects. -/
def erase (table : Table α κ key) (drop : α → Bool) : Table α κ key :=
  ⟨table.rows.filter fun row => !drop row,
    table.distinct.sublist (List.filter_sublist.map key)⟩

/-- Change every row without touching its key. -/
def change (table : Table α κ key) (edit : α → α) (keeps : ∀ row, key (edit row) = key row) :
    Table α κ key :=
  ⟨table.rows.map edit, by
    rw [List.map_map, show key ∘ edit = key from funext keeps]
    exact table.distinct⟩

/-- The number of rows with a property. -/
def count (table : Table α κ key) (test : α → Bool) : Nat := table.rows.countP test

variable [DecidableEq κ] {table : Table α κ key}

/-- The row with a key. -/
def find (table : Table α κ key) (wanted : κ) : Option α :=
  table.rows.find? fun row => key row = wanted

/-- Replace the row that has the key of the new one. -/
def put (table : Table α κ key) (row : α) : Table α κ key :=
  table.change (fun old => if key old = key row then row else old) fun old => by
    split
    · rename_i same
      exact same.symm
    · rfl

/-- Add a row with a fresh key. -/
def insert (table : Table α κ key) (row : α) (fresh : table.find (key row) = none) :
    Table α κ key :=
  ⟨table.rows ++ [row], by
    rw [List.map_append, List.map_singleton, List.nodup_append]
    refine ⟨table.distinct, List.nodup_singleton _, ?_⟩
    intro used member other single
    rw [List.mem_singleton] at single
    subst single
    rintro rfl
    obtain ⟨old, stored, same⟩ := List.mem_map.mp member
    exact absurd same (by simpa using List.find?_eq_none.mp fresh old stored)⟩

/-- A key finds exactly the stored row that has it. -/
theorem find_eq_some {wanted : κ} {row : α} :
    table.find wanted = some row ↔ row ∈ table.rows ∧ key row = wanted := by
  constructor
  · intro found
    exact ⟨List.mem_of_find?_eq_some found, by simpa using List.find?_some found⟩
  · rintro ⟨member, rfl⟩
    cases found : table.find (key row) with
    | none => simpa using List.find?_eq_none.mp found row member
    | some other =>
      have same : key other = key row := by simpa using List.find?_some found
      rw [List.inj_on_of_nodup_map table.distinct (List.mem_of_find?_eq_some found) member same]

/-- A key finds nothing exactly when no row has it. -/
theorem find_eq_none {wanted : κ} :
    table.find wanted = none ↔ ∀ row ∈ table.rows, key row ≠ wanted := by
  simp [find, List.find?_eq_none]

/-- A row is found by its own key. -/
theorem find_of_mem {row : α} (member : row ∈ table.rows) : table.find (key row) = some row :=
  find_eq_some.mpr ⟨member, rfl⟩

/-- After an erasure a key finds the same row, unless the row was dropped. -/
theorem find_erase (table : Table α κ key) (drop : α → Bool) (wanted : κ) :
    (table.erase drop).find wanted = (table.find wanted).filter fun row => !drop row := by
  cases found : table.find wanted with
  | none =>
    rw [find_eq_none] at found
    simp only [Option.filter_none, find_eq_none]
    intro row member
    exact found row (List.mem_of_mem_filter member)
  | some row =>
    obtain ⟨member, rfl⟩ := find_eq_some.mp found
    cases dropped : drop row with
    | false =>
      rw [Option.filter_some, dropped, Bool.not_false, if_pos rfl, find_eq_some]
      exact ⟨List.mem_filter.mpr ⟨member, by simp [dropped]⟩, rfl⟩
    | true =>
      simp only [Option.filter_some, dropped, Bool.not_true, Bool.false_eq_true, if_false,
        find_eq_none]
      intro other kept same
      obtain ⟨stored, stays⟩ := List.mem_filter.mp kept
      cases List.inj_on_of_nodup_map table.distinct stored member same
      simp [dropped] at stays

/-- After a key-preserving change a key finds the changed row. -/
theorem find_change (table : Table α κ key) (edit : α → α)
    (keeps : ∀ row, key (edit row) = key row) (wanted : κ) :
    (table.change edit keeps).find wanted = (table.find wanted).map edit := by
  simp [find, change, List.find?_map, Function.comp_def, keeps]

/-- After a write the key of the new row finds it, if it found a row before. -/
theorem find_put (table : Table α κ key) (row : α) (wanted : κ) :
    (table.put row).find wanted =
      if key row = wanted then (table.find wanted).map fun _ => row else table.find wanted := by
  rw [put, find_change]
  cases found : table.find wanted with
  | none => simp
  | some old =>
    obtain ⟨_, rfl⟩ := find_eq_some.mp found
    by_cases same : key old = key row
    · simp [same]
    · simp [same, Ne.symm same]

/-- After an insertion the fresh key finds the new row. -/
theorem find_insert (table : Table α κ key) (row : α) (fresh : table.find (key row) = none)
    (wanted : κ) :
    (table.insert row fresh).find wanted =
      if key row = wanted then some row else table.find wanted := by
  have rows : (table.insert row fresh).rows = table.rows ++ [row] := rfl
  unfold find at fresh ⊢
  rw [rows, List.find?_append]
  by_cases same : key row = wanted
  · subst same
    simp [fresh]
  · simp [same]

/-- A key that finds a row finds one after an insertion. -/
theorem isSome_find_insert {row : α} {fresh : table.find (key row) = none} {wanted : κ}
    (found : (table.find wanted).isSome) : ((table.insert row fresh).find wanted).isSome := by
  rw [find_insert]
  split
  · rfl
  · exact found

/-- A key that finds a row finds one after a write. -/
theorem isSome_find_put {row : α} {wanted : κ} (found : (table.find wanted).isSome) :
    ((table.put row).find wanted).isSome := by
  rw [find_put]
  split
  · rwa [Option.isSome_map]
  · exact found

/-- A key that finds a row finds it after an erasure that does not drop the row. -/
theorem isSome_find_erase {drop : α → Bool} {wanted : κ} (found : (table.find wanted).isSome)
    (kept : ∀ row, key row = wanted → drop row = false) :
    ((table.erase drop).find wanted).isSome := by
  obtain ⟨row, stored⟩ := Option.isSome_iff_exists.mp found
  rw [find_erase, stored, Option.filter_some, kept row (find_eq_some.mp stored).2]
  rfl

/-- The rows of a table after a write. -/
theorem mem_put {row other : α} (member : other ∈ (table.put row).rows) :
    other = row ∨ other ∈ table.rows ∧ key other ≠ key row := by
  obtain ⟨old, stored, rfl⟩ := List.mem_map.mp member
  by_cases same : key old = key row
  · simp [same]
  · simp [same, stored]

/-! ## Counting -/

omit [DecidableEq κ] in
/-- Erasing takes away the dropped rows. -/
theorem count_erase (table : Table α κ key) (drop test : α → Bool) :
    ((table.erase drop).count test : Int) =
      table.count test - table.count (fun row => test row && drop row) := by
  obtain ⟨rows, distinct⟩ := table
  simp only [count, erase]
  clear distinct
  induction rows with
  | nil => rfl
  | cons row rows ih =>
    cases dropped : drop row <;> cases tested : test row <;>
      simp [dropped, tested] at ih ⊢ <;> omega

/-- Inserting adds the new row. -/
theorem count_insert (table : Table α κ key) (row : α) (fresh : table.find (key row) = none)
    (test : α → Bool) :
    ((table.insert row fresh).count test : Int) = table.count test + (test row).toNat := by
  cases tested : test row <;> simp [count, insert, List.countP_append, tested]

/-- Among the rows with one key there is the row it finds, and no other. -/
theorem count_key (table : Table α κ key) (wanted : κ) (test : α → Bool) :
    table.count (fun row => test row && decide (key row = wanted)) =
      ((table.find wanted).any test).toNat := by
  obtain ⟨rows, distinct⟩ := table
  simp only [count, find]
  induction rows with
  | nil => rfl
  | cons head rows ih =>
    rw [List.map_cons, List.nodup_cons] at distinct
    by_cases same : key head = wanted
    · have none : rows.countP (fun row => test row && decide (key row = wanted)) = 0 := by
        rw [List.countP_eq_zero]
        intro row member
        have other : key row ≠ wanted := fun equal =>
          distinct.1 (List.mem_map.mpr ⟨row, member, equal.trans same.symm⟩)
        simp [other]
      cases tested : test head <;> simp [same, none, tested]
    · simpa [same] using ih distinct.2

/-- The rows with one of several distinct keys are those that the keys find. -/
theorem count_keys (table : Table α κ key) {keys : List κ} (distinct : keys.Nodup)
    (test : α → Bool) :
    table.count (fun row => test row && decide (key row ∈ keys)) =
      keys.countP fun wanted => (table.find wanted).any test := by
  induction keys with
  | nil => simp [count]
  | cons wanted keys ih =>
    obtain ⟨fresh, rest⟩ := List.nodup_cons.mp distinct
    have split : table.count (fun row => test row && decide (key row ∈ wanted :: keys)) =
        table.count (fun row => test row && decide (key row ∈ keys)) +
          table.count (fun row => test row && decide (key row = wanted)) := by
      simp only [count]
      induction table.rows with
      | nil => rfl
      | cons row rows rowsHypothesis =>
        simp only [List.countP_cons, rowsHypothesis]
        by_cases same : key row = wanted
        · subst same
          simp [fresh]
          omega
        · simp [same]
          omega
    rw [split, ih rest, count_key, List.countP_cons]
    cases (table.find wanted).any test <;> simp

/-- A write exchanges the old row for the new one. -/
theorem count_put {row old : α} (found : table.find (key row) = some old) (test : α → Bool) :
    ((table.put row).count test : Int) =
      table.count test - (test old).toNat + (test row).toNat := by
  obtain ⟨rows, distinct⟩ := table
  unfold find at found
  simp only [count, put, change] at found ⊢
  induction rows with
  | nil => cases found
  | cons head rows ih =>
    rw [List.map_cons, List.nodup_cons] at distinct
    rw [List.find?_cons] at found
    by_cases same : key head = key row
    · -- the keys are distinct, so the write leaves the other rows alone
      have untouched : rows.map (fun other => if key other = key row then row else other) =
          rows := by
        refine (List.map_congr_left ?_).trans (List.map_id rows)
        intro other member
        refine if_neg fun equal => distinct.1 ?_
        exact List.mem_map.mpr ⟨other, member, equal.trans same.symm⟩
      simp only [same, decide_true, Option.some.injEq] at found
      subst found
      rw [List.map_cons, untouched, if_pos same, List.countP_cons, List.countP_cons]
      cases test head <;> cases test row <;> simp
    · simp only [same, decide_false] at found
      have rest := ih distinct.2 found
      simp only [List.map_cons, same, if_false, List.countP_cons] at rest ⊢
      push_cast
      omega

end Table

end ShellHub.Tables
