/-
Module: Gossipper.Scheduler.Rate
Purpose: The pacing of new calls, after `internal/scheduler/rate.go` and the ramp loop of
  `internal/engine/engine.go`.
Trusted boundary: rates are exact numbers, times are whole nanoseconds; one goroutine calls `Wait`
Main exports: adjustRate, Ramp.step, directed_iff, Pace.step, starts_paced
-/
import Gossipper.Go.Number
import Gossipper.Lib.Run
import Mathlib.Algebra.Order.Field.Rat
import Mathlib.Tactic.NormNum

namespace Gossipper.Scheduler

open Go Transition List Option

def sanitizeRate (rate : ℚ) : ℚ :=
  if rate ≤ 0 then 1 else rate

def adjustRate (rate delta : ℚ) : ℚ :=
  sanitizeRate (rate + delta)

structure Ramp where
  rate : ℚ
  /-- The ramp loop has not returned. -/
  looping : Bool
deriving DecidableEq

inductive Ramp.Event where
  | tick
  | adjust (delta : ℚ)

namespace Ramp

variable (increase rateMax : ℚ)

/-- One turn of the loop in `startRateRampLoop`. -/
def tick (s : Ramp) : Ramp :=
  let next := adjustRate s.rate increase
  if 0 < rateMax ∧ rateMax < next then ⟨sanitizeRate rateMax, false⟩ else { s with rate := next }

def step : Event → Ramp → Option Ramp
  | .adjust delta, s => some { s with rate := adjustRate s.rate delta }
  | .tick, s => if s.looping then some (s.tick increase rateMax) else none

/-- By what an event adjusts the rate. -/
def Event.delta : Event → ℚ
  | .tick => increase
  | .adjust delta => delta

/-- What is asked of one step: the adjustment goes in its direction, the rate stays positive
and a tick ends below the maximum. -/
def Lawful (event : Event) (s : Ramp) : Prop :=
  (event.delta increase ≤ 0 → adjustRate s.rate (event.delta increase) ≤ s.rate) ∧
  (0 ≤ event.delta increase → s.rate ≤ adjustRate s.rate (event.delta increase)) ∧
  ∀ after ∈ step increase rateMax event s,
    0 < after.rate ∧ (event = .tick → after.rate ≤ rateMax)

/-- The rate does not fall to zero, or it was at least the one put in place of zero. -/
def Above (event : Event) (s : Ramp) : Prop :=
  0 < s.rate + event.delta increase ∨ 1 ≤ s.rate

end Ramp

theorem sanitizeRate_pos (rate : ℚ) : 0 < sanitizeRate rate := by
  unfold sanitizeRate
  split
  · exact one_pos
  · exact not_le.mp ‹_›

theorem adjustRate_le_iff (down : delta ≤ 0) :
    adjustRate rate delta ≤ rate ↔ 0 < rate + delta ∨ 1 ≤ rate := by
  unfold adjustRate sanitizeRate
  split
  · simp [not_lt.mpr ‹_›]
  · simp [not_le.mp ‹_›, down]

theorem le_adjustRate (positive : 0 < rate) (up : 0 ≤ delta) :
    rate ≤ adjustRate rate delta := by
  have above : 0 < rate + delta := add_pos_of_pos_of_nonneg positive up
  rw [adjustRate, sanitizeRate, if_neg (not_le.mpr above)]
  exact le_add_of_nonneg_right up

namespace Ramp

variable {increase rateMax : ℚ} {event : Event} {s after : Ramp}

theorem tick_spec (cap : 0 < rateMax) :
    0 < (s.tick increase rateMax).rate ∧ (s.tick increase rateMax).rate ≤ rateMax := by
  unfold tick
  dsimp only
  split
  · simp [sanitizeRate, not_le.mpr cap, cap]
  · rename_i inside
    exact ⟨sanitizeRate_pos _, not_lt.mp fun above => inside ⟨cap, above⟩⟩

theorem step_spec (cap : 0 < rateMax) (stepped : step increase rateMax event s = some after) :
    0 < after.rate ∧ (event = .tick → after.rate ≤ rateMax) := by
  cases event with
  | tick =>
    obtain ⟨-, ⟨⟩⟩ := ite_none_right_eq_some.mp stepped
    exact ⟨(tick_spec cap).1, fun _ => (tick_spec cap).2⟩
  | adjust delta =>
    cases stepped
    exact ⟨sanitizeRate_pos _, nofun⟩

theorem lawful_iff (positive : 0 < s.rate) (cap : 0 < rateMax) :
    Lawful increase rateMax event s ↔ Above increase event s := by
  constructor
  · rintro ⟨down, -, -⟩
    rcases le_total (event.delta increase) 0 with falling | rising
    · exact (adjustRate_le_iff falling).mp (down falling)
    · exact .inl (add_pos_of_pos_of_nonneg positive rising)
  · intro above
    exact ⟨fun falling => (adjustRate_le_iff falling).mpr above, le_adjustRate positive,
      fun after stepped => step_spec cap stepped⟩

/-- The steps of a run all do what is asked of them exactly if no adjustment takes a rate
below one to zero or further down. -/
theorem directed_iff {rate : ℚ} {events : List Event} {final : Ramp} (positive : 0 < rate)
    (cap : 0 < rateMax) :
    Guarded (step increase rateMax) (Lawful increase rateMax) ⟨rate, true⟩ events final ↔
      Guarded (step increase rateMax) (Above increase) ⟨rate, true⟩ events final := by
  refine guarded_iff_of_invariant (fun s => 0 < s.rate) positive ?_ ?_
  · exact fun _ _ _ stepped _ => (step_spec cap stepped).1
  · exact fun _ _ _ _ positive => lawful_iff positive cap

theorem one_down_to_half :
    Guarded (step 0 2) (Lawful 0 2) ⟨1, true⟩ [.adjust (-1 / 2)] ⟨1 / 2, true⟩ := by
  refine (directed_iff one_pos two_pos).mpr (.cons (.inl ?_) ?_ (.nil _))
  · norm_num [Event.delta]
  · norm_num [step, adjustRate, sanitizeRate]

/-- At half a call a second, one call a second less is one call a second. -/
theorem half_less_one_is_one :
    adjustRate (1 / 2) (-1) = 1 ∧ ¬ Lawful 0 2 (.adjust (-1)) ⟨1 / 2, true⟩ := by
  norm_num [Lawful, Event.delta, adjustRate, sanitizeRate]

end Ramp

/-! ### Waiting for the next start -/

/-- Where the goroutine that calls `Wait` is: outside, at the head of the loop, blocked by a
pause, past the look at the controller, with its target, or at the timer. -/
inductive Caller where
  | outside
  | looping
  | parked
  | ready
  | planned (target : Int)
  | selecting (target : Int)
deriving DecidableEq

structure Pace where
  /-- The last reading of the clock. -/
  now : Int
  nextFire : Int
  paused : Bool
  caller : Caller
  /-- The `updateCh` that the caller holds is closed. -/
  updated : Bool
  /-- When `Wait` returned without an error. -/
  returns : List Int
deriving DecidableEq

namespace Pace

inductive Event where
  | call
  | look
  | plan
  | wait
  | fire
  | wake
  | cancel
  | pause
  | resume
deriving DecidableEq

def new (created : Int) : Pace :=
  { now := created, nextFire := created, paused := false, caller := .outside, updated := false,
    returns := [] }

def pass (s : Pace) : Pace :=
  { s with caller := .outside, returns := s.returns ++ [s.now] }

variable (period : Int)

/-- An event at the time that the clock shows. -/
def act (s : Pace) : Event → Option Pace
  | .call => if s.caller = .outside then some { s with caller := .looping } else none
  | .look =>
    if s.caller = .looping then
      some { s with caller := if s.paused then .parked else .ready, updated := false }
    else none
  | .plan =>
    if s.caller = .ready then
      -- No more than `maxBurst` periods are caught up.
      let next := max s.nextFire (s.now + mulInt (-10) period) + period
      some { s with nextFire := next, caller := .planned next }
    else none
  | .wait =>
    match s.caller with
    | .planned target =>
      some (if target ≤ s.now then s.pass else { s with caller := .selecting target })
    | _ => none
  | .fire =>
    match s.caller with
    | .selecting target => if target ≤ s.now then some s.pass else none
    | _ => none
  | .wake =>
    match s.caller with
    | .parked | .selecting _ => if s.updated then some { s with caller := .looping } else none
    | _ => none
  | .cancel =>
    match s.caller with
    | .parked | .selecting _ => some { s with caller := .outside }
    | _ => none
  | .pause => some { s with paused := true, updated := true }
  | .resume => some { s with paused := false, nextFire := s.now, updated := true }

def step (event : Event × Int) (s : Pace) : Option Pace :=
  if s.now ≤ event.2 then { s with now := event.2 }.act period event.1 else none

/-- A `Wait` that returns has a target that no `Resume` has put the schedule back behind. -/
def inForce (event : Event × Int) (s : Pace) : Bool :=
  match s.caller with
  | .planned target | .selecting target =>
    (event.1 ≠ .wait && event.1 ≠ .fire) || event.2 < target || target ≤ s.nextFire
  | _ => true

/-- Each of the returns `later` and the target come a period after the one before, the first
one a period after `base`. -/
structure Paced (base : Int) (later : List Int) (s : Pace) : Prop where
  clock : base + later.length * period ≤ s.now
  schedule : base + later.length * period ≤ max s.nextFire (s.now - 10 * period)
  target : ∀ target, s.caller = .planned target ∨ s.caller = .selecting target →
    base + later.length * period + period ≤ target
  past : ∀ (k : Nat) (t : Int), later[k]? = some t → base + (k + 1) * period ≤ t

variable {period} {base : Int} {later : List Int} {s s' : Pace}

theorem Paced.advance {now} (paced : Paced period base later s) (onward : s.now ≤ now) :
    Paced period base later { s with now } := by
  obtain ⟨clock, schedule, target, past⟩ := paced
  exact ⟨clock.trans onward, by dsimp only; omega, target, past⟩

theorem neg_le_mulInt (positive : 0 < period) (small : period < 2 ^ 63) :
    -(10 * period) ≤ mulInt (-10) period := by
  have low : -(2 ^ 63 : Int) ≤ mulInt (-10) period := Int.le_bmod (by decide)
  by_cases fits : 10 * period ≤ 2 ^ 63
  · rw [mulInt, Int.bmod_eq_of_le] <;> omega
  · omega

theorem Paced.plan {next} (positive : 0 < period) (small : period < 2 ^ 63)
    (isNext : next = max s.nextFire (s.now + mulInt (-10) period) + period)
    (paced : Paced period base later s) :
    Paced period base later { s with nextFire := next, caller := .planned next } := by
  have burst := neg_le_mulInt positive small
  obtain ⟨clock, schedule, -, past⟩ := paced
  refine ⟨clock, ?_, ?_, past⟩
  · dsimp only
    omega
  · intro target held
    obtain rfl : next = target := by simpa using held
    omega

variable (period) in
/-- `Wait` does not return. -/
def Kept (s s' : Pace) : Prop :=
  s'.returns = s.returns ∧
    ∀ base later, Paced period base later s → Paced period base later s'

variable (period) in
/-- `Wait` returns. -/
def Returned (s s' : Pace) : Prop :=
  s'.caller = .outside ∧ s'.returns = s.returns ++ [s'.now] ∧
    ∀ base later, Paced period base later s → Paced period base (later ++ [s'.now]) s'

/-- The caller gets no new target, and the schedule is as it was or begins now. -/
theorem Kept.of_held (returns : s'.returns = s.returns) (clock : s'.now = s.now)
    (schedule : s'.nextFire = s.nextFire ∨ s'.nextFire = s.now)
    (held : ∀ target, s'.caller = .planned target ∨ s'.caller = .selecting target →
      s.caller = .planned target ∨ s.caller = .selecting target) :
    Kept period s s' := by
  refine ⟨returns, fun base later ⟨soFar, due, target, past⟩ => ?_⟩
  refine ⟨clock ▸ soFar, ?_, fun t isHeld => target t (held t isHeld), past⟩
  rcases schedule with same | reset <;> omega

theorem Paced.pass {target} (paced : Paced period base later s)
    (held : s.caller = .planned target ∨ s.caller = .selecting target) (due : target ≤ s.now)
    (inForce : target ≤ s.nextFire) : Paced period base (later ++ [s.now]) s.pass := by
  have far := (paced.target target held).trans due
  have longer : ((later ++ [s.now]).length : Int) * period = later.length * period + period := by
    simp [Int.add_mul]
  rw [Int.add_assoc] at far
  refine ⟨longer ▸ far, longer ▸ le_max_of_le_left ?_, nofun, ?_⟩
  · rw [← Int.add_assoc]
    exact (paced.target target held).trans inForce
  · intro k t found
    by_cases inside : k < later.length
    · exact paced.past k t (getElem?_append_left inside ▸ found)
    · have isLast : k = later.length := by
        have bound := (List.getElem?_eq_some_iff.mp found).1
        simp at bound
        omega
      subst isLast
      rw [getElem?_concat_length] at found
      cases found
      rwa [Int.add_mul, Int.one_mul]

theorem act_paced {event} (positive : 0 < period) (small : period < 2 ^ 63)
    (meets : inForce (event, s.now) s = true) (acted : s.act period event = some s') :
    Kept period s s' ∨ Returned period s s' := by
  cases event <;> simp only [act] at acted
  case call | look | wake | cancel =>
    repeat' split at acted
    all_goals cases acted
    all_goals exact .inl (.of_held rfl rfl (.inl rfl) (by simp))
  case pause =>
    cases acted
    exact .inl (.of_held rfl rfl (.inl rfl) fun _ => id)
  case resume =>
    cases acted
    exact .inl (.of_held rfl rfl (.inr rfl) fun _ => id)
  case plan =>
    obtain ⟨-, ⟨⟩⟩ := ite_none_right_eq_some.mp acted
    exact .inl ⟨rfl, fun _ _ paced => paced.plan positive small rfl⟩
  case wait =>
    split at acted
    · rename_i target planned
      split at acted <;> cases acted
      · rename_i due
        exact .inr ⟨rfl, rfl, fun _ _ paced =>
          paced.pass (.inl planned) due (by simpa [inForce, planned, due.not_gt] using meets)⟩
      · refine .inl (.of_held rfl rfl (.inl rfl) ?_)
        intro other held
        obtain rfl : target = other := by simpa using held
        exact .inl planned
    · cases acted
  case fire =>
    split at acted
    · rename_i target selecting
      obtain ⟨due, ⟨⟩⟩ := ite_none_right_eq_some.mp acted
      exact .inr ⟨rfl, rfl, fun _ _ paced =>
        paced.pass (.inr selecting) due (by simpa [inForce, selecting, due.not_gt] using meets)⟩
    · cases acted

variable (period) in
/-- All returns are paced from the creation on, those from any moment on from ten periods
before the first of them. -/
structure Spaced (created : Int) (s : Pace) : Prop where
  all : Paced period created s.returns s
  window : ∀ a first rest, s.returns.dropWhile (· < a) = first :: rest →
    Paced period (first - 10 * period) rest s

theorem Spaced.step {created event} (positive : 0 < period)
    (small : period < 2 ^ 63) (meets : inForce event s = true)
    (stepped : step period event s = some s') (spaced : Spaced period created s) :
    Spaced period created s' := by
  obtain ⟨onward, acted⟩ := ite_none_right_eq_some.mp stepped
  rcases act_paced positive small meets acted with ⟨same, kept⟩ | ⟨outside, grown, returned⟩
  · refine ⟨same ▸ kept _ _ (spaced.all.advance onward), fun a first rest from_ => ?_⟩
    exact kept _ _ ((spaced.window a first rest (same ▸ from_)).advance onward)
  · refine ⟨grown ▸ returned _ _ (spaced.all.advance onward), fun a first rest from_ => ?_⟩
    rw [grown, dropWhile_append] at from_
    cases before : s.returns.dropWhile (· < a) with
    | nil =>
      -- The first return of the window: the burst is counted from here.
      rw [before] at from_
      simp only [isEmpty_nil, if_true, dropWhile_cons] at from_
      split at from_ <;> cases from_
      exact ⟨by simp; omega, by simp, by simp [outside], by simp⟩
    | cons old others =>
      rw [before] at from_
      cases from_
      exact returned _ _ ((spaced.window a _ _ before).advance onward)

theorem countP_le_of_index {P : Int → Bool} {n : Int} (nonneg : 0 ≤ n)
    (below : ∀ (k : Nat) (t : Int), later[k]? = some t → P t → k < n) :
    (later.countP P : Int) ≤ n := by
  rw [← take_append_drop n.toNat later, countP_append]
  have none : (later.drop n.toNat).countP P = 0 := by
    refine countP_eq_zero.mpr fun t member holds => ?_
    obtain ⟨k, found⟩ := mem_iff_getElem?.mp member
    rw [getElem?_drop] at found
    have := below _ t found holds
    omega
  have some := (countP_le_length (l := later.take n.toNat) (p := P)).trans
    (length_take_le ..)
  omega

/-- The `k`-th return comes no earlier than `k` periods after the creation, and a window holds
no more returns than periods and eleven, if each `Wait` returns at a target in force. -/
theorem starts_paced {created : Int} {events : List (Event × Int)} (positive : 0 < period)
    (small : period < 2 ^ 63)
    (run : Guarded (step period) (inForce · · = true) (new created) events s) :
    (∀ (k : Nat) t, s.returns[k]? = some t → created + (k + 1) * period ≤ t) ∧
    ∀ a T, 0 ≤ T →
      (s.returns.countP (fun t => a ≤ t ∧ t ≤ a + T) : Int) ≤ T / period + 11 := by
  have spaced : Spaced period created s := by
    refine run.invariant ⟨⟨?_, ?_, nofun, nofun⟩, nofun⟩ ?_
    · simp [new]
    · simp [new]
    · exact fun _ _ _ meets stepped => Spaced.step positive small meets stepped
  refine ⟨spaced.all.past, fun a T nonneg => ?_⟩
  have periods : 0 ≤ T / period := Int.ediv_nonneg nonneg positive.le
  rw [← takeWhile_append_dropWhile (p := (· < a)) (l := s.returns), countP_append]
  have outside : (s.returns.takeWhile (· < a)).countP (fun t => a ≤ t ∧ t ≤ a + T) = 0 := by
    refine countP_eq_zero.mpr fun t member => ?_
    have := mem_takeWhile_imp member
    simp at this ⊢
    omega
  cases window : s.returns.dropWhile (· < a) with
  | nil =>
    simp only [outside]
    simp
    omega
  | cons first rest =>
    have later : a ≤ first := by
      simpa [window] using head_dropWhile_not (p := (· < a)) (l := s.returns) (by simp [window])
    have few : (rest.countP (fun t => a ≤ t ∧ t ≤ a + T) : Int) ≤ T / period + 10 := by
      refine countP_le_of_index (by omega) fun k t found inside => ?_
      have due := (spaced.window a first rest window).past k t found
      simp at inside
      have soon : (k - 9 : Int) ≤ T / period := by
        rw [Int.le_ediv_iff_mul_le positive, Int.sub_mul]
        rw [Int.add_mul, Int.one_mul] at due
        omega
      omega
    rw [outside, countP_cons]
    split <;> omega

theorem resumed_wait_paced :
    ¬ ∃ t, ((exec (restrict (step 10) inForce) [(.call, 0), (.look, 0), (.plan, 0), (.wait, 0),
      (.resume, 3), (.wake, 3), (.look, 3), (.plan, 3), (.wait, 4), (.fire, 13)]
      (new 0)).getD (new 0)).returns[0]? = some t ∧ t < (0 : Int) + ((0 : Nat) + 1) * 10 := by
  rintro ⟨t, found, early⟩
  refine absurd early (Int.not_lt.mpr ?_)
  exact (starts_paced (by decide) (by decide) (.of_isSome (by decide +kernel))).1 0 t found

/-- A `Resume` between the target and the look at the clock: the second `Wait` returns one
nanosecond after the first. -/
theorem resumed_behind_target :
    (exec (step 10) [(.call, 0), (.look, 0), (.plan, 0), (.resume, 1), (.wait, 10), (.call, 10),
      (.look, 10), (.plan, 10), (.wait, 11)] (new 0)).map returns = some [10, 11] := by
  decide +kernel

end Pace

end Gossipper.Scheduler
