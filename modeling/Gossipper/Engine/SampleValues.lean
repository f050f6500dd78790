/-
Module: Gossipper.Engine.SampleValues
Purpose: The value set of a `sample` action, after `buildSampleValues` in
  `internal/engine/engine.go`.
Trusted boundary: the text of the action and the choice among the values are left out
Main exports: SampleSpec, buildSampleValues, buildSampleValues_eq
-/
import Gossipper.Go.Number

namespace Gossipper.Engine

open Go List

/-- A `sampleSpec` that `parseSampleSpec` accepts: three `int64` with a positive step and a
maximum not below the minimum. -/
structure SampleSpec where
  min : Int
  max : Int
  step : Int
  fromInt64 : -2 ^ 63 ≤ min
  toInt64 : max < 2 ^ 63
  stepInt64 : step < 2 ^ 63
  positive : 0 < step
  ordered : min ≤ max

def maxValues : Nat := 1000000

def valueSetTooLarge : Bytes := ascii "sample action value set is too large"

/-- The loop of `buildSampleValues` from `v` on. -/
def sampleLoop (spec : SampleSpec) (v : Int) (values : List Int) : Except Bytes (List Int) :=
  if v ≤ spec.max then
    if maxValues < (values ++ [v]).length then .error valueSetTooLarge
    else if 0 < spec.step ∧ addInt spec.max (-spec.step) < v then .ok (values ++ [v])
    else sampleLoop spec (addInt v spec.step) (values ++ [v])
  else .ok values
termination_by maxValues + 1 - values.length
decreasing_by
  rw [length_append, length_singleton] at *
  omega

def buildSampleValues (spec : SampleSpec) : Except Bytes (List Int) :=
  sampleLoop spec spec.min []

namespace SampleSpec

variable (spec : SampleSpec)

/-- The first `n` members of the progression. -/
def terms (n : Nat) : List Int :=
  (range n).map fun i : Nat => spec.min + i * spec.step

/-- How many members of the progression are not above the maximum. -/
def count : Nat :=
  ((spec.max - spec.min) / spec.step).toNat + 1

theorem term_le_iff (k : Nat) : spec.min + k * spec.step ≤ spec.max ↔ k < spec.count := by
  have whole : 0 ≤ (spec.max - spec.min) / spec.step :=
    Int.ediv_nonneg (Int.sub_nonneg.mpr spec.ordered) (Int.le_of_lt spec.positive)
  have reached := Int.le_ediv_iff_mul_le (a := (k : Int)) (b := spec.max - spec.min) spec.positive
  rw [count]
  omega

/-- The early exit is taken behind the last member, unless `max - step` wraps around. -/
theorem stops_iff (low : spec.min ≤ v) (high : v ≤ spec.max) :
    addInt spec.max (-spec.step) < v ↔
      spec.max < v + spec.step ∧ -2 ^ 63 ≤ spec.max - spec.step := by
  obtain ⟨min, max, step, fromInt64, toInt64, stepInt64, positive, ordered⟩ := spec
  simp only [addInt, Int.bmod] at *
  omega

theorem addInt_step (low : spec.min ≤ v) (high : v ≤ spec.max)
    (goesOn : ¬ addInt spec.max (-spec.step) < v) : addInt v spec.step = v + spec.step := by
  rw [stops_iff spec low high] at goesOn
  obtain ⟨min, max, step, fromInt64, toInt64, stepInt64, positive, ordered⟩ := spec
  simp only [addInt, Int.bmod] at *
  omega

/-- From the `k`-th member on the loop completes the progression. -/
theorem sampleLoop_terms (within : k ≤ spec.count) (fits : k ≤ maxValues) :
    sampleLoop spec (spec.min + k * spec.step) (spec.terms k) =
      if maxValues < spec.count then .error valueSetTooLarge else .ok (spec.terms spec.count) := by
  induction remaining : spec.count - k generalizing k with
  | zero =>
    obtain rfl : k = spec.count := by omega
    have above := mt (spec.term_le_iff spec.count).mp (Nat.lt_irrefl _)
    rw [sampleLoop, if_neg above, if_neg (by omega)]
  | succ n ih =>
    have inside : k < spec.count := by omega
    have low : spec.min ≤ spec.min + k * spec.step :=
      Int.le_add_of_nonneg_right (Int.mul_nonneg (Int.natCast_nonneg k) (Int.le_of_lt spec.positive))
    have high := (spec.term_le_iff k).mpr inside
    have next : spec.min + k * spec.step + spec.step = spec.min + (k + 1 : Nat) * spec.step := by
      rw [Int.natCast_succ, Int.add_mul, Int.one_mul, Int.add_assoc]
    have longer : spec.terms k ++ [spec.min + k * spec.step] = spec.terms (k + 1) := by
      simp [terms, range_succ]
    have size : (spec.terms (k + 1)).length = k + 1 := by simp [terms]
    rw [sampleLoop, if_pos high, longer, size]
    split
    · rw [if_pos (by omega)]
    split
    · rename_i stop
      rw [spec.stops_iff low high, next] at stop
      have last := mt (spec.term_le_iff (k + 1)).mpr (Int.not_le.mpr stop.2.1)
      have complete : spec.count = k + 1 := by omega
      rw [complete, if_neg (by omega)]
    · rename_i goesOn
      rw [not_and] at goesOn
      rw [spec.addInt_step low high (goesOn spec.positive), next]
      exact ih inside (by omega) (by omega)

end SampleSpec

/-- The value set is the whole progression, or refused for its size. -/
theorem buildSampleValues_eq (spec : SampleSpec) :
    buildSampleValues spec =
      if maxValues < spec.count then .error valueSetTooLarge else .ok (spec.terms spec.count) := by
  have whole := spec.sampleLoop_terms (Nat.zero_le _) (Nat.zero_le _)
  simpa [buildSampleValues, SampleSpec.terms] using whole

end Gossipper.Engine
