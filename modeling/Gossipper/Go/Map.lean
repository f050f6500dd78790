/-
Module: Gossipper.Go.Map
Purpose: Go maps as association lists with distinct keys, and the two loops that fill
  one map: from the keys of a set, and from another map.  The order in which Go visits
  the keys does not show in the result.  Also `sort.SliceStable` on slices that are short
  enough for its insertion sort alone, for an order that only knows two groups.
Trusted boundary: none
Main exports: Map, lookup_insert_eq, lookup_assignAll, lookup_assignFrom, sliceStable_groups
-/
import Mathlib.Data.List.AList
import Mathlib.Data.List.Induction

namespace Gossipper.Go

open List

/-- A Go `map[κ]ν`. -/
abbrev Map (κ ν : Type) := AList fun _ : κ => ν

namespace Map

variable {κ ν : Type} [DecidableEq κ]

theorem lookup_insert_eq (m : Map κ ν) (key asked : κ) (value : ν) :
    (m.insert key value).lookup asked = if asked = key then some value else m.lookup asked := by
  split
  · rename_i same
    rw [same, AList.lookup_insert]
  · rename_i differs
    exact AList.lookup_insert_ne differs

/-- `for name := range names { m[name] = f(name) }`. -/
def assignAll (m : Map κ ν) (names : List κ) (f : κ → ν) : Map κ ν :=
  names.foldl (fun m name => m.insert name (f name)) m

theorem lookup_assignAll_of_not (m : Map κ ν) (f : κ → ν)
    (absent : asked ∉ names) : (assignAll m names f).lookup asked = m.lookup asked := by
  induction names generalizing m with
  | nil => rfl
  | cons name rest ih =>
    rw [mem_cons, not_or] at absent
    have later := ih (m.insert name (f name)) absent.2
    rwa [lookup_insert_eq, if_neg absent.1] at later

theorem lookup_assignAll (m : Map κ ν) (f : κ → ν)
    (member : asked ∈ names) : (assignAll m names f).lookup asked = some (f asked) := by
  induction names generalizing m with
  | nil => cases member
  | cons name rest ih =>
    by_cases inRest : asked ∈ rest
    · exact ih (m.insert name (f name)) inRest
    · obtain rfl : asked = name := (mem_cons.mp member).resolve_right inRest
      have later := lookup_assignAll_of_not (m.insert asked (f asked)) f inRest
      rwa [lookup_insert_eq, if_pos rfl] at later

/-- `for k, val := range source { m[k] = val }`. -/
def assignFrom (m source : Map κ ν) : Map κ ν :=
  source.entries.foldl (fun m entry => m.insert entry.1 entry.2) m

theorem lookup_foldl_insert {entries : List (Sigma fun _ : κ => ν)}
    (distinct : entries.NodupKeys) (m : Map κ ν) (asked : κ) :
    (entries.foldl (fun m entry => m.insert entry.1 entry.2) m).lookup asked =
      (entries.dlookup asked).or (m.lookup asked) := by
  induction entries generalizing m with
  | nil => rfl
  | cons entry rest ih =>
    rw [nodupKeys_cons] at distinct
    rw [foldl_cons, ih distinct.2, lookup_insert_eq]
    by_cases same : asked = entry.1
    · have noRest : List.dlookup asked rest = none := by
        rw [dlookup_eq_none, same]
        exact distinct.1
      rw [noRest, if_pos same, Option.none_or]
      subst same
      rw [dlookup_cons_eq]
      rfl
    · rw [if_neg same, dlookup_cons_ne _ _ same]

theorem lookup_assignFrom (m source : Map κ ν) (asked : κ) :
    (assignFrom m source).lookup asked = (source.lookup asked).or (m.lookup asked) :=
  lookup_foldl_insert source.nodupKeys m asked

/-- `for key := range keys { delete(m, key) }`. -/
theorem lookup_foldl_erase (keys : List κ) (m : Map κ ν) (asked : κ) :
    (keys.foldl (fun m key => m.erase key) m).lookup asked =
      if asked ∈ keys then none else m.lookup asked := by
  induction keys generalizing m with
  | nil => simp
  | cons key rest ih =>
    rw [foldl_cons, ih]
    by_cases same : asked = key
    · subst same
      simp [AList.lookup_erase]
    · simp [same, AList.lookup_erase_ne same]

end Map

end Gossipper.Go

namespace Gossipper.Go

open List

variable {α : Type}

/-- The inner loop of the insertion sort: an element is exchanged with the one before it while
it is less.  The list holds what stands before the element, from the last on. -/
def sink (less : α → α → Bool) (x : α) : List α → List α
  | [] => [x]
  | y :: before => if less x y then y :: sink less x before else x :: y :: before

/-- `sort.SliceStable` of at most twenty elements. -/
def sliceStable (less : α → α → Bool) (xs : List α) : List α :=
  (xs.foldl (fun sorted x => sink less x sorted) []).reverse

section Groups

variable (p : α → Bool)

theorem sink_front (isFront : p x = true)
    (behind : List α) (others : ∀ y ∈ behind, p y = false) (fronts : ∀ y ∈ before, p y = true) :
    sink (fun a b => p a && !p b) x (behind ++ before) = behind ++ x :: before := by
  induction behind with
  | nil =>
    cases before with
    | nil => rfl
    | cons y rest => simp [sink, isFront, fronts y mem_cons_self]
  | cons y rest ih =>
    have later := ih fun z member => others z (mem_cons_of_mem _ member)
    simp [sink, isFront, others y mem_cons_self, later]

theorem sink_back (isBack : p x = false) (before : List α) :
    sink (fun a b => p a && !p b) x before = x :: before := by
  cases before with
  | nil => rfl
  | cons y rest => simp [sink, isBack]

theorem sliceStable_groups (xs : List α) :
    sliceStable (fun a b => p a && !p b) xs = xs.filter p ++ xs.filter fun x => !p x := by
  -- what has been sorted so far, from the last element on
  have sorted : xs.foldl (fun sorted x => sink (fun a b => p a && !p b) x sorted) [] =
      (xs.filter fun x => !p x).reverse ++ (xs.filter p).reverse := by
    induction xs using List.reverseRecOn with
    | nil => rfl
    | append_singleton done x ih =>
      rw [foldl_append, foldl_cons, foldl_nil, ih]
      cases group : p x with
      | true =>
        rw [sink_front p group]
        · simp [group]
        · intro y member
          have kept := (mem_filter.mp (mem_reverse.mp member)).2
          simpa using kept
        · intro y member
          exact (mem_filter.mp (mem_reverse.mp member)).2
      | false =>
        rw [sink_back p group]
        simp [group]
  rw [sliceStable, sorted, reverse_append, reverse_reverse, reverse_reverse]

end Groups

end Gossipper.Go
