/-
Module: Gossipper.Lib.Table
Purpose: Tables as lists of rows: the update of the rows that meet a condition, and the
  keys of the table afterwards.
Trusted boundary: none
Main exports: update, mem_update, map_update, update_eq_self, eq_of_key
-/
import Mathlib.Data.List.Nodup

namespace Table

variable {α κ : Type}

/-- `UPDATE … SET … WHERE …`. -/
def update (where_ : α → Bool) (change : α → α) (rows : List α) : List α :=
  rows.map fun row => if where_ row then change row else row

variable {where_ : α → Bool} {change : α → α} {rows : List α}

variable {row : α}

theorem mem_update :
    row ∈ update where_ change rows ↔
      ∃ old ∈ rows, (if where_ old then change old else old) = row :=
  List.mem_map

theorem mem_update_of_where (member : row ∈ rows) (meets : where_ row = true) :
    change row ∈ update where_ change rows :=
  mem_update.mpr ⟨row, member, if_pos meets⟩

theorem mem_update_of_not (member : row ∈ rows) (fails : where_ row = false) :
    row ∈ update where_ change rows :=
  mem_update.mpr ⟨row, member, if_neg (by rw [fails]; exact Bool.false_ne_true)⟩

theorem map_update (column : α → κ) (kept : ∀ row, column (change row) = column row) :
    (update where_ change rows).map column = rows.map column := by
  rw [update, List.map_map]
  apply List.map_congr_left
  intro row _
  rw [Function.comp_apply, apply_ite column, kept, ite_self]

theorem update_eq_self (none_ : ∀ row ∈ rows, where_ row = false) :
    update where_ change rows = rows := by
  rw [update]
  conv_rhs => rw [← List.map_id rows]
  apply List.map_congr_left
  intro row member
  rw [none_ row member]
  rfl

theorem update_congr {other : α → Bool} (same : ∀ row ∈ rows, where_ row = other row) :
    update where_ change rows = update other change rows := by
  rw [update, update]
  apply List.map_congr_left
  intro row member
  rw [same row member]

end Table
