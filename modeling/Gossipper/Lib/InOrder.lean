/-
Module: Gossipper.Lib.InOrder
Purpose: Numbers that are given out one after another and come back in blocks; the cutting of
  a list into blocks and its grouping by a key.
Trusted boundary: none
Main exports: least_block, chunks, chunks_flatten, sublist_of_mem_chunks, group_perm
-/
import Mathlib.Data.List.Sort

namespace InOrder

open List

/-- Of the numbers from `done` up to `total`, a sorted block that lies below all others is the
run of numbers that starts at `done`. -/
theorem least_block (outstanding : (front ++ rest).Perm (List.range' done (total - done)))
    (sorted : front.Pairwise (· < ·)) (least : ∀ a ∈ front, ∀ b ∈ rest, a < b) :
    front = List.range' done front.length ∧
      rest.Perm (List.range' (done + front.length) (total - (done + front.length))) := by
  have reordered : (front ++ rest.mergeSort).Perm (front ++ rest) :=
    List.Perm.append_left _ (mergeSort_perm _ _)
  have ordered : (front ++ rest.mergeSort).Pairwise (· ≤ ·) := by
    rw [pairwise_append]
    refine ⟨sorted.imp Nat.le_of_lt, ?_, ?_⟩
    · exact pairwise_mergeSort' (· ≤ ·) rest
    · intro a inFront b inRest
      exact Nat.le_of_lt (least a inFront b ((mergeSort_perm _ _).mem_iff.mp inRest))
  have same : front ++ rest.mergeSort = List.range' done (total - done) :=
    (reordered.trans outstanding).eq_of_pairwise (fun a b _ _ => Nat.le_antisymm) ordered
      (pairwise_le_range' 1)
  obtain ⟨k, -, isFront, isRest⟩ := range'_eq_append_iff.mp same.symm
  have length : front.length = k := by
    rw [isFront, length_range']
  rw [Nat.mul_one, Nat.sub_sub] at isRest
  rw [length]
  exact ⟨isFront, isRest ▸ (mergeSort_perm _ _).symm⟩

section Blocks

variable {α : Type}

/-- A list cut into blocks of a size; the last one may be shorter. -/
def chunks (size : Nat) (l : List α) : List (List α) :=
  (List.range ((l.length + size - 1) / size)).map fun i => (l.drop (i * size)).take size

theorem chunks_flatten (positive : 0 < size) (l : List α) :
    (chunks size l).flatten = l := by
  have front (n : Nat) :
      ((List.range n).map fun i => (l.drop (i * size)).take size).flatten = l.take (n * size) := by
    induction n with
    | zero => simp
    | succ n ih =>
      rw [range_succ, map_append, flatten_append, ih,
        map_singleton, flatten_singleton, Nat.succ_mul, take_add]
  rw [chunks, front, take_of_length_le]
  have rounded := Nat.lt_div_mul_add positive (a := l.length + size - 1)
  omega

theorem sublist_of_mem_chunks {size : Nat} {l block : List α} (member : block ∈ chunks size l) :
    block.Sublist l := by
  obtain ⟨i, -, rfl⟩ := mem_map.mp member
  exact (take_sublist _ _).trans (drop_sublist _ _)

/-- The parts of a list with the same key, one key after another, are the list up to order. -/
theorem group_perm {κ : Type} [DecidableEq κ] (key : α → κ) {keys : List κ} {l : List α}
    (distinct : keys.Nodup) (known : ∀ a ∈ l, key a ∈ keys) :
    (keys.flatMap fun k => l.filter fun a => key a = k).Perm l := by
  induction keys generalizing l with
  | nil =>
    have empty : l = [] := eq_nil_iff_forall_not_mem.mpr fun a member =>
      not_mem_nil (known a member)
    rw [empty]
    rfl
  | cons first keys ih =>
    rw [nodup_cons] at distinct
    rw [flatMap_cons]
    -- the later keys select nothing that the first one has selected
    have later : (keys.flatMap fun k => l.filter fun a => key a = k) =
        keys.flatMap fun k => (l.filter fun a => !decide (key a = first)).filter
          fun a => key a = k := by
      refine flatMap_congr fun k member => ?_
      rw [filter_filter]
      refine filter_congr fun a _ => ?_
      by_cases same : key a = k
      · have other : k ≠ first := fun isFirst => distinct.1 (isFirst ▸ member)
        simp [same, other]
      · simp [same]
    rw [later]
    refine (List.Perm.append_left _ (ih distinct.2 ?_)).trans
      (filter_append_perm _ l)
    intro a member
    rw [mem_filter, Bool.not_eq_true', decide_eq_false_iff_not] at member
    exact (mem_cons.mp (known a member.1)).resolve_left member.2

end Blocks

end InOrder
