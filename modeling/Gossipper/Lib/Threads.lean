/-
Module: Gossipper.Lib.Threads
Purpose: A list of threads, each at a point of its program, and how the number of
  threads with a property changes when one of them moves.
Trusted boundary: none
Main exports: map_same, sum_move, forall_move, get_move, at_move, exists_move, get_start
-/
import Mathlib.Algebra.GroupWithZero.Nat
import Mathlib.Data.List.Basic

namespace Threads

open List

variable {π : Type} {threads : List π} {i : Nat} {old new : π} (p : π → Bool)

theorem countP_move (new : π) (before : threads[i]? = some old) :
    (threads.set i new).countP p + (if p old then 1 else 0) =
      threads.countP p + (if p new then 1 else 0) := by
  obtain ⟨inside, found⟩ := List.getElem?_eq_some_iff.mp before
  have counted : (if p old then 1 else 0) ≤ threads.countP p := by
    split
    · rename_i holds
      exact countP_pos_iff.mpr ⟨old, mem_of_getElem? before, holds⟩
    · exact Nat.zero_le _
  rw [countP_set inside, found]
  omega

theorem countP_same (before : threads[i]? = some old) (same : p new = p old) :
    (threads.set i new).countP p = threads.countP p := by
  have moved := countP_move p new before
  rw [same] at moved
  omega

theorem countP_le (before : threads[i]? = some old) (kept : p new = true → p old = true) :
    (threads.set i new).countP p ≤ threads.countP p := by
  have moved := countP_move p new before
  cases holds : p new with
  | false =>
    rw [holds, if_neg Bool.false_ne_true] at moved
    omega
  | true =>
    rw [holds, kept holds] at moved
    omega

theorem map_same {α : Type} (f : π → α) (before : threads[i]? = some old)
    (same : f new = f old) : (threads.set i new).map f = threads.map f := by
  obtain ⟨inside, _⟩ := List.getElem?_eq_some_iff.mp before
  apply ext_getElem?
  intro j
  rw [getElem?_map, getElem?_map, getElem?_set]
  split
  · rename_i here
    rw [← here, before, Option.map_some, Option.map_some, same]
  · rfl

theorem sum_move (f : π → Nat) (new : π) (before : threads[i]? = some old) :
    ((threads.set i new).map f).sum + f old = (threads.map f).sum + f new := by
  induction threads generalizing i with
  | nil => cases before
  | cons thread rest ih =>
    cases i with
    | zero =>
      cases before
      simp only [set_cons_zero, map_cons, sum_cons]
      omega
    | succ i =>
      have moved := ih (i := i) (by simpa using before)
      simp only [set_cons_succ, map_cons, sum_cons]
      omega

variable {P : π → Prop}

theorem forall_move (all : ∀ thread ∈ threads, P thread) (moved : P new) :
    ∀ thread ∈ threads.set i new, P thread := by
  intro thread member
  rcases mem_or_eq_of_mem_set member with other | rfl
  · exact all thread other
  · exact moved

variable {j : Nat}

theorem get_move (found : (threads.set i new)[j]? = some thread) :
    j = i ∧ thread = new ∨ j ≠ i ∧ threads[j]? = some thread := by
  rw [getElem?_set] at found
  split at found
  · rename_i here
    split at found
    · exact .inl ⟨here.symm, (Option.some.inj found).symm⟩
    · cases found
  · rename_i elsewhere
    exact .inr ⟨fun same => elsewhere same.symm, found⟩

/-- A thread keeps a property that the move keeps. -/
theorem at_move (before : threads[i]? = some old)
    (kept : P old → P new) (here : ∃ thread, threads[j]? = some thread ∧ P thread) :
    ∃ thread, (threads.set i new)[j]? = some thread ∧ P thread := by
  obtain ⟨thread, found, holds⟩ := here
  obtain ⟨inside, -⟩ := List.getElem?_eq_some_iff.mp before
  by_cases same : i = j
  · subst same
    cases before.symm.trans found
    exact ⟨new, getElem?_set_self inside, kept holds⟩
  · exact ⟨thread, (getElem?_set_ne same).trans found, holds⟩

theorem exists_move (before : threads[i]? = some old) (kept : P old → P new)
    (some_ : ∃ thread ∈ threads, P thread) : ∃ thread ∈ threads.set i new, P thread := by
  obtain ⟨thread, member, holds⟩ := some_
  obtain ⟨j, found⟩ := mem_iff_getElem?.mp member
  obtain ⟨moved, atPlace, kept⟩ := at_move before kept ⟨thread, found, holds⟩
  exact ⟨moved, mem_of_getElem? atPlace, kept⟩

theorem get_start (found : (threads ++ [new])[j]? = some thread) :
    threads[j]? = some thread ∨ j = threads.length ∧ thread = new := by
  by_cases isOld : j < threads.length
  · rw [getElem?_append_left isOld] at found
    exact .inl found
  · rw [getElem?_append_right (Nat.le_of_not_lt isOld)] at found
    obtain ⟨bound, isNew⟩ := List.getElem?_eq_some_iff.mp found
    rw [length_singleton] at bound
    rw [getElem_singleton] at isNew
    exact .inr ⟨by omega, isNew.symm⟩

end Threads
