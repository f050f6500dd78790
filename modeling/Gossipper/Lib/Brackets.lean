/-
Module: Gossipper.Lib.Brackets
Purpose: Scanners for bracketed keys.  A scanner goes through a text from left to
  right; where its test says that a key opens it reads up to the next closing symbol
  and goes on behind it.  Two scanners of one text differ in the test only.
Trusted boundary: none
Main exports: keys, keys_skip, keys_key, keys_append, keys_plain, scan_induction
-/
import Mathlib.Data.List.Infix

namespace Brackets

open List

variable {α : Type} [DecidableEq α] (close : α) (opens : List α → Bool)

/-- The scan.  The first argument is the key that is being read, in reverse. -/
def keysFrom : Option (List α) → List α → List (List α)
  | _, [] => []
  | none, b :: rest =>
    if opens (b :: rest) then keysFrom (some []) rest else keysFrom none rest
  | some key, b :: rest =>
    if b = close then key.reverse :: keysFrom none rest else keysFrom (some (b :: key)) rest

/-- The keys of a text, without their brackets. -/
def keys (text : List α) : List (List α) :=
  keysFrom close opens none text

variable {close opens}

@[simp] theorem keys_nil : keys close opens [] = [] := by
  simp [keys, keysFrom]

theorem keys_skip (notOpen : opens (b :: rest) = false) :
    keys close opens (b :: rest) = keys close opens rest := by
  rw [keys, keysFrom, notOpen, if_neg Bool.false_ne_true, ← keys]

private theorem keysFrom_inside {read key after} (absent : close ∉ key) :
    keysFrom close opens (some read) (key ++ close :: after) =
      (read.reverse ++ key) :: keys close opens after := by
  induction key generalizing read with
  | nil => simp [keysFrom, keys]
  | cons b key ih =>
    rw [mem_cons, not_or] at absent
    rw [cons_append, keysFrom, if_neg (Ne.symm absent.1), ih absent.2]
    simp

theorem keys_key {b key after} (absent : close ∉ key)
    (isOpen : opens (b :: (key ++ close :: after)) = true) :
    keys close opens (b :: (key ++ close :: after)) = key :: keys close opens after := by
  rw [keys, keysFrom, if_pos isOpen, keysFrom_inside absent, reverse_nil, nil_append]

theorem keys_plain (plain : ∀ b rest, b :: rest <:+ front → opens (b :: (rest ++ back)) = false) :
    keys close opens (front ++ back) = keys close opens back := by
  induction front with
  | nil => rfl
  | cons b front ih =>
    rw [cons_append, keys_skip (plain b front (suffix_refl _))]
    apply ih
    intro c rest ending
    exact plain c rest (ending.trans (suffix_cons b front))

section Closing

variable (closes : ∀ b rest, opens (b :: rest) = true → close ∈ rest)

include closes

private theorem keysFrom_append
    (same : ∀ b rest, b :: rest <:+ front → opens (b :: (rest ++ back)) = opens (b :: rest))
    (inside : state = none ∨ close ∈ front) :
    keysFrom close opens state (front ++ back) =
      keysFrom close opens state front ++ keys close opens back := by
  induction front generalizing state with
  | nil =>
    rcases inside with rfl | impossible
    · simp [keysFrom, keys]
    · simp at impossible
  | cons b front ih =>
    have sameRest : ∀ c rest, c :: rest <:+ front →
        opens (c :: (rest ++ back)) = opens (c :: rest) :=
      fun c rest ending => same c rest (ending.trans (suffix_cons b front))
    cases state with
    | none =>
      simp only [cons_append, keysFrom, same b front (suffix_refl _)]
      split
      · rename_i isOpen
        exact ih sameRest (.inr (closes b front isOpen))
      · exact ih sameRest (.inl rfl)
    | some key =>
      simp only [cons_append, keysFrom]
      split
      · rw [ih sameRest (.inl rfl), cons_append]
      · rename_i notClose
        have later : close ∈ front := by
          simpa [Ne.symm notClose] using inside
        exact ih sameRest (.inr later)

theorem keys_append
    (same : ∀ b rest, b :: rest <:+ front → opens (b :: (rest ++ back)) = opens (b :: rest)) :
    keys close opens (front ++ back) = keys close opens front ++ keys close opens back :=
  keysFrom_append closes same (.inl rfl)

omit [DecidableEq α] in
/-- Induction along a scan: the empty text, a symbol that is passed over, a key. -/
theorem scan_induction {motive : List α → Prop} (nil : motive [])
    (skip : ∀ b rest, opens (b :: rest) = false → motive rest → motive (b :: rest))
    (key : ∀ b key after, close ∉ key → opens (b :: (key ++ close :: after)) = true →
      motive after → motive (b :: (key ++ close :: after)))
    (text : List α) : motive text := by
  induction size : text.length using Nat.strong_induction_on generalizing text with
  | _ n ih =>
    subst size
    cases text with
    | nil => exact nil
    | cons b rest =>
      cases isOpen : opens (b :: rest) with
      | false => exact skip b rest isOpen (ih _ (by simp) rest rfl)
      | true =>
        obtain ⟨inner, after, rfl, absent⟩ :=
          eq_append_cons_of_mem (closes b rest isOpen)
        refine key b inner after absent isOpen (ih _ ?_ after rfl)
        simp only [length_cons, length_append]
        omega

end Closing

end Brackets
