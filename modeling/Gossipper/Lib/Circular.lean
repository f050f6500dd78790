/-
Module: Gossipper.Lib.Circular
Purpose: A window of consecutive cells in a list that is used as a circle, and what writing a
  cell before or behind the window does to it.
Trusted boundary: none
Main exports: window, window_succ, window_concat, window_set_behind, window_set_before
-/
import Mathlib.Data.List.Basic

namespace Circular

open List

variable {α : Type} [Inhabited α]

/-- `size` cells of a circle, from a position on. -/
def window (cells : List α) (head size : Nat) : List α :=
  (List.range size).map fun i => cells.getD ((head + i) % cells.length) default

theorem window_length (cells : List α) (head size : Nat) :
    (window cells head size).length = size := by
  rw [window, length_map, length_range]

variable {cells : List α}

/-- The first cell and the window behind it. -/
theorem window_succ {head} (inside : head < cells.length) (size : Nat) :
    window cells head (size + 1) =
      cells.getD head default :: window cells ((head + 1) % cells.length) size := by
  rw [window, range_succ_eq_map, map_cons, map_map, Nat.add_zero,
    Nat.mod_eq_of_lt inside]
  refine congrArg _ (map_congr_left fun i _ => ?_)
  rw [Function.comp_apply, Nat.mod_add_mod, Nat.succ_eq_add_one, Nat.add_right_comm,
    Nat.add_assoc head]

theorem window_concat (cells : List α) (head size : Nat) :
    window cells head (size + 1) =
      window cells head size ++ [cells.getD ((head + size) % cells.length) default] := by
  rw [window, range_succ, map_append, map_singleton]
  rfl

theorem mod_ne (length : Nat) (later : a < b) (near : b < a + length) :
    a % length ≠ b % length := by
  intro same
  have divides : length ∣ b - a :=
    Nat.dvd_of_mod_eq_zero (Nat.sub_mod_eq_zero_of_mod_eq same.symm)
  have small := Nat.le_of_dvd (Nat.sub_pos_of_lt later) divides
  omega

theorem window_set_of_ne {head size position} (new : α)
    (outside : ∀ i < size, position ≠ (head + i) % cells.length) :
    window (cells.set position new) head size = window cells head size := by
  rw [window, window, length_set]
  refine map_congr_left fun i inWindow => ?_
  rw [getD_eq_getElem?_getD, getD_eq_getElem?_getD,
    getElem?_set_ne (outside i (mem_range.mp inWindow))]

/-- The cell behind a window is written. -/
theorem window_set_behind {size} (head : Nat) (new : α) (room : size < cells.length) :
    window (cells.set ((head + size) % cells.length) new) head (size + 1) =
      window cells head size ++ [new] := by
  have positive := Nat.zero_lt_of_lt room
  have inside : (head + size) % cells.length < cells.length := Nat.mod_lt _ positive
  rw [window_concat, length_set, window_set_of_ne new]
  · rw [getD_eq_getElem?_getD, getElem?_set_self inside, Option.getD_some]
  · intro i before
    exact (mod_ne _ (by omega) (by omega)).symm

/-- The cell before a window is written. -/
theorem window_set_before {head size} (new : α)
    (inside : head < cells.length) (room : size < cells.length) :
    window (cells.set head new) ((head + 1) % cells.length) size =
      window cells ((head + 1) % cells.length) size := by
  refine window_set_of_ne new fun i before => ?_
  rw [Nat.mod_add_mod]
  have apart : head % cells.length ≠ (head + 1 + i) % cells.length :=
    mod_ne _ (by omega) (by omega)
  rwa [Nat.mod_eq_of_lt inside] at apart

end Circular
