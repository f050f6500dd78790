/-
Module: Gossipper.Lib.Newest
Purpose: Rows in descending order of a key, and when the first rows are the same for two
  keys.
Trusted boundary: none
Main exports: eq_descending, filter_descending, take_descending_iff, find?_descending_iff
-/
import Mathlib.Data.List.Sort

namespace Newest

open List

variable {α κ τ : Type} [LinearOrder κ] [LinearOrder τ]

/-- `ORDER BY key DESC`. -/
def descending (key : α → κ) (rows : List α) : List α :=
  rows.insertionSort fun a b => key b ≤ key a

section One

variable {key : α → κ} {rows : List α}

theorem descending_perm (key : α → κ) (rows : List α) : (descending key rows).Perm rows :=
  perm_insertionSort _ rows

theorem mem_descending : row ∈ descending key rows ↔ row ∈ rows :=
  (descending_perm key rows).mem_iff

theorem descending_pairwise (distinct : (rows.map key).Nodup) :
    (descending key rows).Pairwise fun a b => key b < key a := by
  have total : Std.Total fun a b : α => key b ≤ key a :=
    ⟨fun a b => le_total (key b) (key a)⟩
  have trans : IsTrans α fun a b : α => key b ≤ key a :=
    ⟨fun _ _ _ first second => second.trans first⟩
  have sorted : (descending key rows).Pairwise fun a b => key b ≤ key a :=
    pairwise_insertionSort _ rows
  have differ : ((descending key rows).map key).Nodup :=
    ((descending_perm key rows).map key).nodup_iff.mpr distinct
  have apart : (descending key rows).Pairwise fun a b => key a ≠ key b :=
    pairwise_map.mp differ
  exact (sorted.and apart).imp fun both => lt_of_le_of_ne both.1 both.2.symm

theorem eq_descending (perm : sorted.Perm rows)
    (falls : sorted.Pairwise fun a b => key b < key a) : sorted = descending key rows := by
  have differ : (sorted.map key).Nodup :=
    pairwise_map.mpr (falls.imp fun less => less.ne')
  have distinct : (rows.map key).Nodup := ((perm.map key).nodup_iff).mp differ
  apply List.Perm.eq_of_pairwise _ falls (descending_pairwise distinct)
  · exact perm.trans (descending_perm key rows).symm
  · intro a b _ _ first second
    exact absurd first second.not_gt

theorem filter_descending (p : α → Bool) (distinct : (rows.map key).Nodup) :
    (descending key rows).filter p = descending key (rows.filter p) :=
  eq_descending ((descending_perm key rows).filter p)
    ((descending_pairwise distinct).sublist filter_sublist)

end One

/-! ### Two keys -/

section Two

variable {text : α → κ} {time : α → τ} {rows : List α}

/-- The first `n` rows for two keys are the same exactly when each of the first `n` rows for
the one key is ahead of all later ones for the other key, too. -/
theorem take_descending_iff (texts : (rows.map text).Nodup) (times : (rows.map time).Nodup)
    (n : Nat) :
    (descending text rows).take n = (descending time rows).take n ↔
      ∀ newer ∈ (descending time rows).take n, ∀ older ∈ rows,
        time older < time newer → text older < text newer := by
  have byText := descending_pairwise texts
  have byTime := descending_pairwise times
  constructor
  · intro same newer first older member before
    rw [← take_append_drop n (descending text rows), pairwise_append] at byText
    obtain ⟨falls, _, ahead⟩ := byText
    have split : older ∈ (descending text rows).take n ++ (descending text rows).drop n := by
      rw [take_append_drop]
      exact mem_descending.mpr member
    rcases mem_append.mp split with early | late
    · -- Both are among the first rows, which descend for both keys.
      have both : ((descending time rows).take n).Pairwise fun a b =>
          time b < time a ∧ text b < text a := by
        rw [same] at falls
        exact (byTime.sublist (take_sublist n _)).and falls
      rw [same] at early
      have agree : ∀ a ∈ (descending time rows).take n, ∀ b ∈ (descending time rows).take n,
          time b < time a → text b < text a := by
        refine List.Pairwise.forall_of_forall_of_flip ?_ (both.imp fun less _ => less.2)
          (both.imp fun less other => absurd other less.1.not_gt)
        intro a _ less
        exact absurd less (lt_irrefl _)
      exact agree newer first older early before
    · rw [same] at ahead
      exact ahead newer first older late
  · intro ahead
    rw [← take_append_drop n (descending time rows), pairwise_append] at byTime
    obtain ⟨falls, _, later⟩ := byTime
    -- The first rows for the one key and behind them the others, sorted for the other key.
    have distinctLate : (((descending time rows).drop n).map text).Nodup :=
      (((descending_perm time rows).map text).nodup_iff.mpr texts).sublist
        ((drop_sublist n _).map text)
    have inRows : ∀ row, row ∈ (descending time rows).take n ∨
        row ∈ (descending time rows).drop n → row ∈ rows := by
      intro row member
      have whole := mem_append.mpr member
      rw [take_append_drop] at whole
      exact mem_descending.mp whole
    have sorted : (descending time rows).take n ++
        descending text ((descending time rows).drop n) = descending text rows := by
      apply eq_descending
      · refine ((descending_perm text _).append_left _).trans ?_
        rw [take_append_drop]
        exact descending_perm time rows
      · rw [pairwise_append]
        refine ⟨?_, descending_pairwise distinctLate, ?_⟩
        · apply falls.imp_of_mem
          intro a b first second less
          exact ahead a first b (inRows b (.inl second)) less
        · intro a first b member
          have late := mem_descending.mp member
          exact ahead a first b (inRows b (.inr late)) (later a first b late)
    rw [← sorted, take_append, take_take, Nat.min_self]
    rcases Nat.le_total n (descending time rows).length with enough | few
    · rw [length_take_of_le enough, Nat.sub_self, take_zero, append_nil]
    · rw [drop_of_length_le few]
      exact (congrArg _ take_nil).trans (append_nil _)

/-- The same for the first row that meets a condition. -/
theorem find?_descending_iff (p : α → Bool) (texts : (rows.map text).Nodup)
    (times : (rows.map time).Nodup) :
    (descending text rows).find? p = (descending time rows).find? p ↔
      ∀ newer ∈ (descending time rows).find? p, ∀ older ∈ rows, p older = true →
        time older < time newer → text older < text newer := by
  have one : ∀ first second : Option α, first = second ↔ first.toList = second.toList := by
    intro first second
    cases first <;> cases second <;> simp
  rw [← head?_filter, ← head?_filter, filter_descending p texts,
    filter_descending p times, one, ← take_one, ← take_one,
    take_descending_iff (texts.sublist (filter_sublist.map text))
      (times.sublist (filter_sublist.map time)), take_one]
  simp only [Option.mem_toList, mem_filter, and_imp]
  exact Iff.rfl

end Two

end Newest
