/-
Module: Gossipper.Lib.Pool
Purpose: The use of pooled objects.  A program reads objects it holds and puts them
  back; after that it must not touch them again.
Trusted boundary: none
Main exports: Access, puts, Fresh, fresh_append, Fresh.untouched, Uses, Uses.append,
  Uses.fresh
-/
import Mathlib.Data.List.Nodup

namespace Pool

open List

variable {α : Type}

/-- What a program does with an object of the pool. -/
inductive Access (α : Type) where
  | read (object : α)
  | put (object : α)
deriving DecidableEq, Repr

/-- The objects that were put back, in that order. -/
def puts : List (Access α) → List α
  | [] => []
  | .read _ :: rest => puts rest
  | .put x :: rest => x :: puts rest

/-- No access touches an object of `freed`, or one that an earlier access put back. -/
def Fresh : List α → List (Access α) → Prop
  | _, [] => True
  | freed, .read x :: rest => x ∉ freed ∧ Fresh freed rest
  | freed, .put x :: rest => x ∉ freed ∧ Fresh (freed ++ [x]) rest

@[simp] theorem puts_append (first second : List (Access α)) :
    puts (first ++ second) = puts first ++ puts second := by
  induction first with
  | nil => rfl
  | cons access rest ih =>
    cases access with
    | read x => exact ih
    | put x => exact congrArg (x :: ·) ih

theorem puts_map_read (objects : List α) : puts (objects.map .read) = [] := by
  induction objects with
  | nil => rfl
  | cons x rest ih => exact ih

theorem puts_map_put (objects : List α) : puts (objects.map .put) = objects := by
  induction objects with
  | nil => rfl
  | cons x rest ih => exact congrArg (x :: ·) ih

theorem fresh_append {freed : List α} {first second : List (Access α)} :
    Fresh freed (first ++ second) ↔ Fresh freed first ∧ Fresh (freed ++ puts first) second := by
  induction first generalizing freed with
  | nil => simp [Fresh, puts]
  | cons access rest ih =>
    cases access with
    | read x =>
      simp only [cons_append, Fresh, puts, ih]
      exact and_assoc.symm
    | put x =>
      simp only [cons_append, Fresh, puts, ih, append_assoc,
        nil_append]
      exact and_assoc.symm

theorem Fresh.not_mem {freed : List α} {accesses : List (Access α)} {x : α}
    (fresh : Fresh freed accesses) (isFreed : x ∈ freed) :
    .read x ∉ accesses ∧ .put x ∉ accesses := by
  induction accesses generalizing freed with
  | nil => exact ⟨not_mem_nil, not_mem_nil⟩
  | cons access rest ih =>
    cases access with
    | read y =>
      obtain ⟨held, later⟩ := fresh
      obtain ⟨unread, unput⟩ := ih later isFreed
      have differs : x ≠ y := fun same => held (same ▸ isFreed)
      simp [unread, unput, differs]
    | put y =>
      obtain ⟨held, later⟩ := fresh
      obtain ⟨unread, unput⟩ :=
        ih later (mem_append_left _ isFreed)
      have differs : x ≠ y := fun same => held (same ▸ isFreed)
      simp [unread, unput, differs]

theorem Fresh.untouched {before after : List (Access α)} {x : α}
    (fresh : Fresh [] (before ++ .put x :: after)) :
    .read x ∉ after ∧ .put x ∉ after := by
  obtain ⟨_, _, later⟩ := fresh_append.mp fresh
  exact later.not_mem (mem_append_right _ (mem_singleton_self x))

theorem count_put [DecidableEq α] (accesses : List (Access α)) (x : α) :
    accesses.count (.put x) = (puts accesses).count x := by
  induction accesses with
  | nil => rfl
  | cons access rest ih =>
    cases access with
    | read y => simpa [puts] using ih
    | put y => simp [puts, count_cons, ih]

/-- Reads of objects of `live`, followed by puts that lead from `freed` to `after`. -/
def Uses (live freed after : List α) (accesses : List (Access α)) : Prop :=
  ∃ reads released, accesses = reads.map .read ++ released.map .put ∧ reads ⊆ live ∧
    after = freed ++ released

namespace Uses

variable {live freed middle after : List α} {first second : List (Access α)} {x : α}

theorem nil : Uses live freed freed [] :=
  ⟨[], [], rfl, nil_subset _, by simp⟩

theorem release (released : List α) : Uses live freed (freed ++ released) (released.map .put) :=
  ⟨[], released, rfl, nil_subset _, rfl⟩

theorem read (isLive : x ∈ live) (uses : Uses live freed after first) :
    Uses live freed after (.read x :: first) := by
  obtain ⟨reads, released, rfl, alive, rfl⟩ := uses
  exact ⟨x :: reads, released, rfl, cons_subset.mpr ⟨isLive, alive⟩, rfl⟩

theorem reads (alive : objects ⊆ live) (uses : Uses live freed after first) :
    Uses live freed after (objects.map .read ++ first) := by
  induction objects with
  | nil => exact uses
  | cons x rest ih =>
    obtain ⟨isLive, others⟩ := cons_subset.mp alive
    exact (ih others).read isLive

theorem append (uses : Uses live freed middle first) (released : Uses [] middle after second) :
    Uses live freed after (first ++ second) := by
  obtain ⟨reads, early, rfl, alive, rfl⟩ := uses
  obtain ⟨none, late, rfl, empty, rfl⟩ := released
  rw [subset_nil.mp empty]
  exact ⟨reads, early ++ late, by simp, alive, by simp⟩

theorem puts_eq (uses : Uses live freed after first) : after = freed ++ puts first := by
  obtain ⟨reads, released, rfl, _, rfl⟩ := uses
  rw [puts_append, puts_map_read, puts_map_put, nil_append]

/-- Such accesses touch nothing that is back in the pool, when nothing comes back twice and
the objects that are read were not there. -/
theorem fresh (uses : Uses live freed after first) (once : after.Nodup)
    (held : ∀ x ∈ live, x ∉ freed) : Fresh freed first := by
  obtain ⟨reads, released, rfl, alive, rfl⟩ := uses
  induction reads with
  | cons x rest ih =>
    obtain ⟨isLive, others⟩ := cons_subset.mp alive
    exact ⟨held x isLive, ih others⟩
  | nil =>
    clear held alive
    induction released generalizing freed with
    | nil => trivial
    | cons x rest ih =>
      have notFreed : x ∉ freed := fun isFreed =>
        (nodup_append.mp once).2.2 x isFreed x mem_cons_self rfl
      rw [← singleton_append, ← append_assoc] at once
      exact ⟨notFreed, ih once⟩

end Uses

end Pool
