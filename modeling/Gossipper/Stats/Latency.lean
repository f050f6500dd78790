/-
Module: Gossipper.Stats.Latency
Purpose: The latency summaries of the collector, after `internal/stats/stats.go`.
Trusted boundary: durations are nanoseconds; the standard deviation is left out
Main exports: latencyBucketIndex, Accumulator.add, Accumulator.snapshot, exact_iff
-/
import Gossipper.Go.Number
import Mathlib.Algebra.Order.BigOperators.Group.List
import Mathlib.Algebra.Order.Group.Nat

namespace Gossipper.Stats

open Go List

def latencyBucketBoundsMS : List Int :=
  [10, 20, 50, 100, 200, 500, 1000, 2000, 5000]

def millisecond : Int := 1000000

def latencyBucketIndex (value : Int) : Nat :=
  latencyBucketBoundsMS.findIdx (value.tdiv millisecond ≤ ·)

/-- A `latencyAccumulator`. -/
structure Accumulator where
  count : Int
  total : Int
  min : Int
  max : Int
  last : Int
  buckets : List Int
deriving DecidableEq

namespace Accumulator

def new : Accumulator :=
  { count := 0, total := 0, min := 0, max := 0, last := 0, buckets := replicate 10 0 }

def add (a : Accumulator) (value : Int) : Accumulator :=
  { count := a.count + 1
    total := addInt a.total value
    min := if a.count + 1 = 1 ∨ value < a.min then value else a.min
    max := if a.max < value then value else a.max
    last := value
    buckets := a.buckets.modify (latencyBucketIndex value) (· + 1) }

end Accumulator

structure LatencySummary where
  count : Int
  average : Int
  min : Int
  max : Int
  last : Int
  buckets : List (Bytes × Int)
deriving DecidableEq

def bucketLabel (i : Nat) : Bytes :=
  match latencyBucketBoundsMS[i]? with
  | some bound => ascii "le_" ++ itoa bound ++ ascii "ms"
  | none => ascii "gt_5000ms"

def buildLatencyBuckets (counts : List Int) : List (Bytes × Int) :=
  counts.mapIdx fun i count => (bucketLabel i, count)

def Accumulator.snapshot (a : Accumulator) : Option LatencySummary :=
  if a.count = 0 then none
  else some
    { count := a.count, average := a.total.tdiv a.count, min := a.min, max := a.max,
      last := a.last, buckets := buildLatencyBuckets a.buckets }

/-! ### Exact counts -/

/-- The value is above the bounds before that of the bucket and not above that one. -/
def inBucket (i : Nat) (value : Int) : Bool :=
  ((latencyBucketBoundsMS.take i).all (· * millisecond < value)) &&
    latencyBucketBoundsMS[i]?.all (value ≤ · * millisecond)

/-- The value is not within the millisecond that begins at a bound. -/
def Clear (value : Int) : Prop :=
  ∀ bound ∈ latencyBucketBoundsMS,
    value < (bound + 1) * millisecond → value ≤ bound * millisecond

/-- The bucket that the bounds ask for. -/
def exactIndex (value : Int) : Nat :=
  latencyBucketBoundsMS.findIdx (value ≤ · * millisecond)

theorem findIdx_eq_iff {α : Type} {p : α → Bool} {bounds : List α} {i : Nat}
    (known : i ≤ bounds.length) :
    bounds.findIdx p = i ↔ (bounds.take i).all (!p ·) = true ∧ bounds[i]?.all p = true := by
  induction bounds generalizing i with
  | nil => simp at known; simp [known]
  | cons bound bounds ih =>
    cases i <;> cases here : p bound <;> simp_all [findIdx_cons]

/-- Of two conditions that hold from some bound on, the stronger one is first met where the
weaker one is, exactly if they agree. -/
theorem findIdx_eq_findIdx_iff {α : Type} {p q : α → Bool} {bounds : List α}
    (onward : bounds.Pairwise fun a b => p a → p b) (weaker : ∀ b ∈ bounds, p b → q b) :
    bounds.findIdx q = bounds.findIdx p ↔ ∀ b ∈ bounds, q b → p b := by
  induction bounds with
  | nil => simp
  | cons bound bounds ih =>
    rw [pairwise_cons] at onward
    rw [forall_mem_cons] at weaker
    cases strong : p bound with
    | true => simp_all [findIdx_cons]
    | false => cases weak : q bound <;> simp_all [findIdx_cons]

theorem inBucket_iff {i : Nat} (known : i < 10) (value : Int) :
    inBucket i value = true ↔ exactIndex value = i := by
  rw [exactIndex, findIdx_eq_iff (Nat.le_of_lt_succ known), inBucket, Bool.and_eq_true]
  simp

theorem tdiv_le_iff {value : Int} (nonneg : 0 ≤ value) (bound : Int) :
    value.tdiv millisecond ≤ bound ↔ value < (bound + 1) * millisecond := by
  rw [Int.tdiv_eq_ediv_of_nonneg nonneg, ← Int.lt_add_one_iff,
    Int.ediv_lt_iff_lt_mul (by decide)]

theorem tdiv_le_of_le {value bound : Int} (nonneg : 0 ≤ value)
    (exact_ : value ≤ bound * millisecond) : value.tdiv millisecond ≤ bound := by
  rw [tdiv_le_iff nonneg, Int.add_mul]
  exact Int.lt_of_le_of_lt exact_ (Int.lt_add_of_pos_right _ (by decide))

theorem clear_iff {value : Int} (nonneg : 0 ≤ value) :
    Clear value ↔ latencyBucketIndex value = exactIndex value := by
  rw [latencyBucketIndex, exactIndex, findIdx_eq_findIdx_iff]
  · simp [Clear, tdiv_le_iff nonneg]
  · have ascending : latencyBucketBoundsMS.Pairwise (· ≤ ·) := by decide
    refine ascending.imp fun le exact_ => ?_
    rw [decide_eq_true_eq] at exact_ ⊢
    exact exact_.trans (Int.mul_le_mul_of_nonneg_right le (by decide))
  · simpa using fun bound _ => tdiv_le_of_le nonneg

theorem latencyBucketIndex_le {value : Int} (nonneg : 0 ≤ value) :
    latencyBucketIndex value ≤ exactIndex value := by
  apply findIdx_le_findIdx
  simpa using fun bound _ => tdiv_le_of_le nonneg

/-! ### Runs of the accumulator -/

/-- What the accumulator knows of the values added so far. -/
structure Knows (values : List Int) (a : Accumulator) : Prop where
  count : a.count = values.length
  total : a.total = values.sum
  bounds : ∀ v ∈ values, a.min ≤ v ∧ v ≤ a.max
  size : a.buckets.length = 10
  whole : a.buckets.sum = values.length
  buckets : ∀ i < 10, a.buckets[i]? = some (values.countP (latencyBucketIndex · = i) : Int)

theorem latencyBucketIndex_lt (value : Int) : latencyBucketIndex value < 10 :=
  Nat.lt_succ_of_le (findIdx_le_length ..)

theorem sum_modify {counts : List Int} {i : Nat} (known : i < counts.length) :
    (counts.modify i (· + 1)).sum = counts.sum + 1 := by
  induction counts generalizing i with
  | nil => cases known
  | cons count counts ih =>
    cases i with
    | zero => simp; omega
    | succ i => simp [ih (Nat.lt_of_succ_lt_succ known)]; omega

theorem Knows.add {values : List Int} {a : Accumulator} {value : Int} (knows : Knows values a)
    (nonneg : 0 ≤ values.sum) (fits : values.sum + value < 2 ^ 63) (duration : 0 ≤ value) :
    Knows (values ++ [value]) (a.add value) := by
  obtain ⟨count, total, bounds, size, whole, buckets⟩ := knows
  refine ⟨by simp [Accumulator.add, count], ?_, ?_, by simp [Accumulator.add, size], ?_, ?_⟩
  · rw [Accumulator.add, total, addInt, Int.bmod_eq_of_le] <;> simp <;> omega
  · intro v member
    rw [mem_append, mem_singleton] at member
    simp only [Accumulator.add]
    rcases member with earlier | rfl
    · have known := bounds v earlier
      have := length_pos_of_mem earlier
      constructor <;> split <;> omega
    · constructor <;> split <;> omega
  · rw [Accumulator.add, sum_modify (size ▸ latencyBucketIndex_lt value), whole]
    simp
  · intro i known
    rw [Accumulator.add, getElem?_modify, buckets i known, countP_append, countP_singleton]
    split <;> simp [*]

theorem knows_foldl {values : List Int} (durations : ∀ v ∈ values, 0 ≤ v)
    (fits : values.sum < 2 ^ 63) : Knows values (values.foldl Accumulator.add .new) := by
  induction values using reverseRecOn with
  | nil =>
    exact ⟨rfl, rfl, nofun, rfl, rfl, fun i known => getElem?_replicate_of_lt known⟩
  | append_singleton values value ih =>
    rw [forall_mem_append] at durations
    rw [sum_append, sum_singleton] at fits
    have duration := durations.2 value (by simp)
    have nonneg := sum_nonneg durations.1
    rw [foldl_append]
    exact (ih durations.1 (by omega)).add nonneg fits duration

/-- Two counts of the values agree in every bucket exactly if no value is moved. -/
theorem same_counts_iff {values : List Int} (durations : ∀ v ∈ values, 0 ≤ v) :
    (∀ i < 10, values.countP (latencyBucketIndex · = i) = values.countP (inBucket i)) ↔
      ∀ v ∈ values, Clear v := by
  have inBucket_eq : ∀ i < 10, inBucket i = fun v => decide (exactIndex v = i) := by
    intro i known
    funext v
    rw [Bool.eq_iff_iff, inBucket_iff known, decide_eq_true_eq]
  constructor
  · intro same v member
    rw [clear_iff (durations v member)]
    by_contra moved
    have less := sum_lt_sum latencyBucketIndex exactIndex
      (fun v member => latencyBucketIndex_le (durations v member))
      ⟨v, member, lt_of_le_of_ne (latencyBucketIndex_le (durations v member)) moved⟩
    have perm : (values.map latencyBucketIndex).Perm (values.map exactIndex) := by
      refine perm_iff_count.mpr fun i => ?_
      have counts : ∀ f : Int → Nat,
          count i (values.map f) = values.countP (fun v => decide (f v = i)) := by
        intro f
        rw [count_eq_countP, countP_map]
        rfl
      rw [counts, counts]
      by_cases known : i < 10
      · rw [same i known, inBucket_eq i known]
      · have out : ∀ v, latencyBucketIndex v ≠ i ∧ exactIndex v ≠ i := by
          intro v
          have := latencyBucketIndex_lt v
          have : exactIndex v ≤ 9 := findIdx_le_length ..
          omega
        simp [out]
    exact less.ne perm.sum_eq
  · intro clear i known
    rw [inBucket_eq i known]
    exact countP_congr fun v member => by simp [(clear_iff (durations v member)).mp (clear v member)]

theorem counts_buildLatencyBuckets (counts : List Int) :
    (buildLatencyBuckets counts).map Prod.snd = counts := by
  ext i
  simp [buildLatencyBuckets]

/-- The summary of durations whose sum fits a `Duration`: its buckets are exact exactly if no
value is within the millisecond behind a bound. -/
theorem exact_iff {values : List Int} (nonempty : values ≠ []) (durations : ∀ v ∈ values, 0 ≤ v)
    (fits : values.sum < 2 ^ 63) :
    ∃ summary, (values.foldl Accumulator.add .new).snapshot = some summary ∧
      summary.count = values.length ∧ (summary.buckets.map Prod.snd).sum = summary.count ∧
      summary.min ≤ summary.average ∧ summary.average ≤ summary.max ∧
      ((∀ i < 10, (summary.buckets.map Prod.snd)[i]? = some (values.countP (inBucket i) : Int)) ↔
        ∀ v ∈ values, Clear v) := by
  obtain ⟨count, total, bounds, size, whole, buckets⟩ := knows_foldl durations fits
  have some := length_pos_of_ne_nil nonempty
  refine ⟨_, if_neg (by omega), count, ?_, ?_, ?_, ?_⟩
  · simp [counts_buildLatencyBuckets, whole, count]
  · have least := card_nsmul_le_sum values _ fun v member => (bounds v member).1
    simp only [total, count, Int.tdiv_eq_ediv_of_nonneg (sum_nonneg durations)]
    rw [Int.le_ediv_iff_mul_le (by omega), Int.mul_comm]
    simpa using least
  · have most := sum_le_card_nsmul values _ fun v member => (bounds v member).2
    simp only [total, count, Int.tdiv_eq_ediv_of_nonneg (sum_nonneg durations)]
    refine Int.ediv_le_of_le_mul (by omega) ?_
    rw [Int.mul_comm]
    simpa using most
  · rw [← same_counts_iff durations, counts_buildLatencyBuckets]
    refine forall₂_congr fun i known => ?_
    rw [buckets i known, Option.some.injEq, Int.ofNat_inj]

theorem three_durations_exact :
    ((([5000000, 11000000, 6000000000].foldl Accumulator.add .new).snapshot.map
      fun summary => summary.buckets.map Prod.snd).getD [])[1]? =
        some ([5000000, 11000000, 6000000000].countP (inBucket 1) : Int) := by
  obtain ⟨summary, isSummary, -, -, -, -, exact_⟩ := @exact_iff [5000000, 11000000, 6000000000]
    nofun (by decide) (by decide)
  rw [isSummary]
  exact exact_.mpr (by unfold Clear; decide) 1 (by decide)

/-- Ten and a half milliseconds are counted as at most ten. -/
theorem half_a_millisecond_over :
    (Accumulator.new.add 10500000).buckets = 1 :: replicate 9 0 ∧ inBucket 0 10500000 = false := by
  decide

end Gossipper.Stats
