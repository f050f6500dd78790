/-
Module: Gossipper.Lib.FirstMatch
Purpose: The first element of a list that meets a predicate, and when it is the same in every
  order of the list.
Trusted boundary: none
Main exports: AtMostOne, or_of_taken, or_of_first, find?_perm_iff
-/
import Mathlib.Data.List.Perm.Basic

namespace FirstMatch

open List Option

variable {α : Type} {p : α → Bool} {l other : List α}

/-- No two different elements of the list meet the predicate. -/
def AtMostOne (p : α → Bool) (l : List α) : Prop :=
  ∀ a ∈ l, ∀ b ∈ l, p a = true → p b = true → a = b

theorem AtMostOne.subset (unique : AtMostOne p l) (inside : other ⊆ l) : AtMostOne p other :=
  fun a member b member' holds holds' =>
    unique a (inside member) b (inside member') holds holds'

theorem AtMostOne.of_filter (few : (l.filter p).length ≤ 1) : AtMostOne p l := by
  intro a member b member' holds holds'
  have isIn := mem_filter.mpr ⟨member, holds⟩
  have isIn' := mem_filter.mpr ⟨member', holds'⟩
  match matched : l.filter p with
  | [] =>
    rw [matched] at isIn
    cases isIn
  | [c] =>
    rw [matched, mem_singleton] at isIn isIn'
    exact isIn.trans isIn'.symm
  | _ :: _ :: _ =>
    rw [matched] at few
    simp at few

variable {a : α}

theorem or_of_taken {taken : Option α} {holds : Bool} (known : holds = true → taken.isSome) :
    taken.or (if holds then some a else none) = taken := by
  split
  · rename_i isMatch
    exact or_of_isSome (known isMatch)
  · exact or_none

theorem or_of_first {taken : Option α} {holds : Bool} (isMatch : holds = true)
    (first : taken.isNone) : taken.or (if holds then some a else none) = some a := by
  rw [isNone_iff_eq_none.mp first, none_or, if_pos isMatch]

theorem AtMostOne.find?_eq (unique : AtMostOne p l) (member : a ∈ l)
    (holds : p a = true) : l.find? p = some a := by
  have isSome : (l.find? p).isSome := find?_isSome.mpr ⟨a, member, holds⟩
  obtain ⟨b, found⟩ := isSome_iff_exists.mp isSome
  rw [found, unique b (mem_of_find?_eq_some found) a member (find?_some found) holds]

theorem AtMostOne.find?_perm (unique : AtMostOne p l) (perm : other.Perm l) :
    other.find? p = l.find? p := by
  cases found : l.find? p with
  | some a =>
    have unique' : AtMostOne p other := unique.subset perm.subset
    exact unique'.find?_eq (perm.symm.subset (mem_of_find?_eq_some found))
      (find?_some found)
  | none =>
    rw [find?_eq_none] at found ⊢
    exact fun b member => found b (perm.subset member)

theorem exists_perm_cons (member : a ∈ l) : ∃ rest, (a :: rest).Perm l := by
  obtain ⟨before, after, rfl⟩ := append_of_mem member
  exact ⟨before ++ after, perm_middle.symm⟩

/-- The first match is the same in every order exactly if at most one element matches. -/
theorem find?_perm_iff :
    (∀ other : List α, other.Perm l → other.find? p = l.find? p) ↔ AtMostOne p l := by
  constructor
  · intro same a member b member' holds holds'
    have front {c : α} (member : c ∈ l) (holds : p c = true) : l.find? p = some c := by
      obtain ⟨rest, perm⟩ := exists_perm_cons member
      rw [← same _ perm, find?_cons_of_pos holds]
    exact Option.some.inj ((front member holds).symm.trans (front member' holds'))
  · intro unique other perm
    exact unique.find?_perm perm

end FirstMatch
