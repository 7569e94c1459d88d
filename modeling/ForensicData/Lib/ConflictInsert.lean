/-
ForensicData.Lib.ConflictInsert — tables that bind a key once.

`insertOnConflict` is `INSERT … ON CONFLICT (key) DO NOTHING` into a table with
another unique column: a key that is bound stays bound
(`insertOnConflict_of_bound`), a new one is appended (`insertOnConflict_of_new`),
and keys and ids stay distinct (`Distinct.concat`).
-/
import Mathlib.Data.List.Basic
import Mathlib.Data.List.Nodup

namespace ForensicData.Lib

variable {α κ μ : Type} [DecidableEq κ]

/-- The rows after the insert; `none` if the row is new and its id is taken. -/
def insertOnConflict [DecidableEq μ] (key : α → κ) (id : α → μ) (row : α) (rows : List α) :
    Option (List α) :=
  if ∃ other ∈ rows, key other = key row then some rows
  else if ∃ other ∈ rows, id other = id row then none
  else some (rows ++ [row])

/-- The row of a key. -/
def rowAt (key : α → κ) (rows : List α) (k : κ) : Option α :=
  rows.find? fun row => decide (key row = k)

/-- No two rows have a key or an id in common. -/
structure Distinct (key : α → κ) (id : α → μ) (rows : List α) : Prop where
  keys : (rows.map key).Nodup
  ids : (rows.map id).Nodup

variable {key : α → κ} {id : α → μ} {row : α} {rows : List α} {k : κ}

theorem rowAt_eq_some (h : (rows.map key).Nodup) :
    rowAt key rows k = some row ↔ row ∈ rows ∧ key row = k := by
  constructor
  · intro hfound
    exact ⟨List.mem_of_find?_eq_some hfound, by simpa using List.find?_some hfound⟩
  · rintro ⟨hmem, hkey⟩
    cases hfound : rowAt key rows k with
    | none =>
      have hnone := List.find?_eq_none.mp hfound row hmem
      exact absurd hkey (by simpa using hnone)
    | some other =>
      have hother : key other = k := by simpa using List.find?_some hfound
      rw [List.inj_on_of_nodup_map h (List.mem_of_find?_eq_some hfound) hmem
        (hother.trans hkey.symm)]

theorem rowAt_eq_none : rowAt key rows k = none ↔ ∀ other ∈ rows, key other ≠ k := by
  simp [rowAt]

/-- A key that is bound stays bound to what it is. -/
theorem insertOnConflict_of_bound [DecidableEq μ] {found : α}
    (h : rowAt key rows (key row) = some found) :
    insertOnConflict key id row rows = some rows := by
  have hmem : found ∈ rows := List.mem_of_find?_eq_some h
  have hkey : key found = key row := by simpa using List.find?_some h
  rw [insertOnConflict, if_pos ⟨found, hmem, hkey⟩]

/-- A new key is appended if the id is free. -/
theorem insertOnConflict_of_new [DecidableEq μ] (h : rowAt key rows (key row) = none)
    (hid : ∀ other ∈ rows, id other ≠ id row) :
    insertOnConflict key id row rows = some (rows ++ [row]) := by
  rw [rowAt_eq_none] at h
  rw [insertOnConflict, if_neg, if_neg]
  · rintro ⟨other, hother, heq⟩
    exact hid other hother heq
  · rintro ⟨other, hother, heq⟩
    exact h other hother heq

theorem rowAt_concat_self (h : rowAt key rows (key row) = none) :
    rowAt key (rows ++ [row]) (key row) = some row := by
  rw [rowAt] at h ⊢
  rw [List.find?_append, h, Option.none_or]
  simp

/-- A new row keeps keys and ids distinct. -/
theorem Distinct.concat (h : Distinct key id rows) (hkey : rowAt key rows (key row) = none)
    (hid : ∀ other ∈ rows, id other ≠ id row) : Distinct key id (rows ++ [row]) := by
  rw [rowAt_eq_none] at hkey
  constructor
  · rw [List.map_append, List.nodup_append]
    refine ⟨h.keys, by simp, ?_⟩
    intro a ha b hb
    obtain ⟨other, hother, rfl⟩ := List.mem_map.mp ha
    obtain rfl : b = key row := by simpa using hb
    exact hkey other hother
  · rw [List.map_append, List.nodup_append]
    refine ⟨h.ids, by simp, ?_⟩
    intro a ha b hb
    obtain ⟨other, hother, rfl⟩ := List.mem_map.mp ha
    obtain rfl : b = id row := by simpa using hb
    exact hid other hother

section Map

variable {γ : Type} {f : γ → α}

theorem rowAt_map (items : List γ) :
    rowAt key (items.map f) k = (rowAt (fun item => key (f item)) items k).map f := by
  rw [rowAt, List.find?_map]
  rfl

/-- Inserting a row of an item is inserting the item. -/
theorem insertOnConflict_map [DecidableEq μ] (item : γ) (items : List γ) :
    insertOnConflict key id (f item) (items.map f)
      = (insertOnConflict (fun item => key (f item)) (fun item => id (f item)) item items).map
          (List.map f) := by
  have hkey : (∃ other ∈ items.map f, key other = key (f item)) ↔
      ∃ other ∈ items, key (f other) = key (f item) := by simp
  have hid : (∃ other ∈ items.map f, id other = id (f item)) ↔
      ∃ other ∈ items, id (f other) = id (f item) := by simp
  simp only [insertOnConflict, hkey, hid]
  split
  · rfl
  · split
    · rfl
    · simp

end Map

end ForensicData.Lib
