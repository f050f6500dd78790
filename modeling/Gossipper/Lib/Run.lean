/-
Module: Gossipper.Lib.Run
Purpose: Runs of a system given by a partial step function on events, the induction rules
  for properties of their states, and runs in which something is counted: what the events
  bring in is held by the state or was lost by a step.
Trusted boundary: none
Main exports: Run, Run.guarded_of_invariant, always_iff_guarded_of_invariant, Run.conserved
-/
import Mathlib.Algebra.GroupWithZero.Nat
import Mathlib.Data.List.Basic

namespace Transition

open Option

variable {σ ε : Type}

/-- A run takes the events one after another; `none` means that an event cannot
happen in a state. -/
inductive Run (step : ε → σ → Option σ) : σ → List ε → σ → Prop where
  | nil (state : σ) : Run step state [] state
  | cons {state next final : σ} {event : ε} {events : List ε} :
      step event state = some next → Run step next events final →
        Run step state (event :: events) final

/-- A run in which every event meets a condition on itself and the state before it. -/
inductive Guarded (step : ε → σ → Option σ) (guard : ε → σ → Prop) :
    σ → List ε → σ → Prop where
  | nil (state : σ) : Guarded step guard state [] state
  | cons {state next final : σ} {event : ε} {events : List ε} :
      guard event state → step event state = some next →
        Guarded step guard next events final →
        Guarded step guard state (event :: events) final

/-- Take the events of a list. -/
def exec (step : ε → σ → Option σ) : List ε → σ → Option σ
  | [], state => some state
  | event :: events, state => (step event state).bind (exec step events)

variable {step : ε → σ → Option σ} {guard : ε → σ → Prop}

variable {events : List ε} {state final : σ}

theorem Run.of_exec
    (executed : exec step events state = some final) : Run step state events final := by
  induction events generalizing state with
  | nil =>
    cases executed
    exact .nil _
  | cons event events ih =>
    obtain ⟨next, stepped, rest⟩ := bind_eq_some_iff.mp executed
    exact .cons stepped (ih rest)

theorem Run.of_isSome (possible : (exec step events state).isSome) :
    Run step state events ((exec step events state).getD state) := by
  apply Run.of_exec
  obtain ⟨final, executed⟩ := isSome_iff_exists.mp possible
  rw [executed, getD_some]

theorem Run.append (left : Run step state first middle) (right : Run step middle second final) :
    Run step state (first ++ second) final := by
  induction left with
  | nil => exact right
  | cons stepped _ ih => exact .cons stepped (ih right)

/-- A map of states that takes steps to steps takes runs to runs. -/
theorem Run.map {τ : Type} {step' : ε → τ → Option τ} {f : σ → τ}
    (run : Run step state events final)
    (simulates : ∀ event before after, step event before = some after →
      step' event (f before) = some (f after)) :
    Run step' (f state) events (f final) := by
  induction run with
  | nil => exact .nil _
  | cons stepped _ ih => exact .cons (simulates _ _ _ stepped) ih

variable {Inv : σ → Prop}

/-- A property of the start that every step keeps holds at the end of every run. -/
theorem Run.invariant (run : Run step state events final) (start : Inv state)
    (kept : ∀ event before after, step event before = some after → Inv before → Inv after) :
    Inv final := by
  induction run with
  | nil => exact start
  | cons stepped _ ih =>
    exact ih (kept _ _ _ stepped start)

theorem Guarded.invariant (run : Guarded step guard state events final) (start : Inv state)
    (kept : ∀ event before after, guard event before → step event before = some after →
      Inv before → Inv after) :
    Inv final := by
  induction run with
  | nil => exact start
  | cons guarded stepped _ ih =>
    exact ih (kept _ _ _ guarded stepped start)

theorem Guarded.run
    (guarded : Guarded step guard state events final) : Run step state events final := by
  induction guarded with
  | nil => exact .nil _
  | cons _ stepped _ ih => exact .cons stepped ih

/-- A guard may be replaced by what it implies in the states of an invariant that the guarded
steps keep. -/
theorem Guarded.imp_of_invariant {weaker : ε → σ → Prop} (Inv : σ → Prop)
    (guarded : Guarded step guard state events final) (start : Inv state)
    (kept : ∀ event before after, guard event before → step event before = some after →
      Inv before → Inv after)
    (implies : ∀ event before after, step event before = some after → Inv before →
      guard event before → weaker event before) :
    Guarded step weaker state events final := by
  induction guarded with
  | nil => exact .nil _
  | cons meets stepped _ ih =>
    exact .cons (implies _ _ _ stepped start meets) stepped
      (ih (kept _ _ _ meets stepped start))

/-- Two guards that agree in the states of an invariant guard the same runs. -/
theorem guarded_iff_of_invariant {other : ε → σ → Prop} (Inv : σ → Prop) (start : Inv state)
    (kept : ∀ event before after, step event before = some after → Inv before → Inv after)
    (same : ∀ event before after, step event before = some after → Inv before →
      (guard event before ↔ other event before)) :
    Guarded step guard state events final ↔ Guarded step other state events final := by
  constructor
  · intro guarded
    apply guarded.imp_of_invariant Inv start
    · exact fun event before after _ stepped holds => kept event before after stepped holds
    · exact fun event before after stepped holds => (same event before after stepped holds).mp
  · intro guarded
    apply guarded.imp_of_invariant Inv start
    · exact fun event before after _ stepped holds => kept event before after stepped holds
    · exact fun event before after stepped holds => (same event before after stepped holds).mpr

theorem Run.guarded {P : ε → Prop}
    (run : Run step state events final) (all : ∀ event ∈ events, P event) :
    Guarded step (fun event _ => P event) state events final := by
  induction run with
  | nil => exact .nil _
  | cons stepped _ ih =>
    simp only [List.mem_cons, forall_eq_or_imp] at all
    exact .cons all.1 stepped (ih all.2)

/-- An invariant that implies the guard guards every run. -/
theorem Run.guarded_of_invariant (Inv : σ → Prop)
    (run : Run step state events final) (start : Inv state)
    (kept : ∀ event before after, step event before = some after → Inv before → Inv after)
    (meets : ∀ event before, Inv before → guard event before) :
    Guarded step guard state events final := by
  induction run with
  | nil => exact .nil _
  | cons stepped _ ih =>
    exact .cons (meets _ _ start) stepped (ih (kept _ _ _ stepped start))

/-- A run through states that all have a property. -/
inductive Always (step : ε → σ → Option σ) (Inv : σ → Prop) : σ → List ε → σ → Prop where
  | nil {state : σ} : Inv state → Always step Inv state [] state
  | cons {state next final : σ} {event : ε} {events : List ε} :
      Inv state → step event state = some next → Always step Inv next events final →
        Always step Inv state (event :: events) final

theorem Always.start (always : Always step Inv state events final) : Inv state := by
  cases always with
  | nil holds | cons holds _ _ => exact holds

/-- If the guard says exactly when a step keeps the property in the states of an invariant, the
runs that always have the property are the guarded ones. -/
theorem always_iff_guarded_of_invariant (Base : σ → Prop) (base : Base state)
    (kept : ∀ event before after, step event before = some after → Base before → Base after)
    (start : Inv state)
    (exact_ : ∀ event before after, step event before = some after → Base before → Inv before →
      (Inv after ↔ guard event before)) :
    Always step Inv state events final ↔ Guarded step guard state events final := by
  constructor
  · intro always
    induction always with
    | nil _ => exact .nil _
    | cons holds stepped rest ih =>
      exact .cons ((exact_ _ _ _ stepped base holds).mp rest.start) stepped
        (ih (kept _ _ _ stepped base) rest.start)
  · intro guarded
    induction guarded with
    | nil => exact .nil start
    | cons meets stepped _ ih =>
      exact .cons start stepped
        (ih (kept _ _ _ stepped base)
          ((exact_ _ _ _ stepped base start).mpr meets))

/-- The steps that meet a decidable guard. -/
def restrict (step : ε → σ → Option σ) (guard : ε → σ → Bool) (event : ε) (state : σ) :
    Option σ :=
  if guard event state then step event state else none

theorem Guarded.of_exec {guard : ε → σ → Bool}
    (executed : exec (restrict step guard) events state = some final) :
    Guarded step (fun event state => guard event state = true) state events final := by
  induction events generalizing state with
  | nil =>
    cases executed
    exact .nil _
  | cons event events ih =>
    obtain ⟨next, stepped, rest⟩ := bind_eq_some_iff.mp executed
    unfold restrict at stepped
    split at stepped
    · rename_i meets
      exact .cons meets stepped (ih rest)
    · cases stepped

theorem Guarded.of_isSome {guard : ε → σ → Bool}
    (possible : (exec (restrict step guard) events state).isSome) :
    Guarded step (fun event state => guard event state = true) state events
      ((exec (restrict step guard) events state).getD state) := by
  apply Guarded.of_exec
  obtain ⟨final, executed⟩ := isSome_iff_exists.mp possible
  rw [executed, getD_some]

end Transition

namespace Transition

variable {σ ε : Type}

/-- What the steps of a run lose. -/
def lost (step : ε → σ → Option σ) (loss : ε → σ → Nat) : List ε → σ → Nat
  | [], _ => 0
  | event :: events, state =>
    loss event state + ((step event state).map (lost step loss events)).getD 0

/-- What the events of a run bring in. -/
def gained (gain : ε → Nat) (events : List ε) : Nat :=
  (events.map gain).sum

variable {step : ε → σ → Option σ} {loss : ε → σ → Nat} {state final : σ} {events : List ε}

theorem lost_cons {event next} (stepped : step event state = some next) :
    lost step loss (event :: events) state = loss event state + lost step loss events next := by
  rw [lost, stepped, Option.map_some, Option.getD_some]

/-- A run loses nothing exactly when no step of it does. -/
theorem Run.lost_eq_zero_iff (run : Run step state events final) :
    lost step loss events state = 0 ↔
      Guarded step (fun event state => loss event state = 0) state events final := by
  induction run with
  | nil => exact ⟨fun _ => .nil _, fun _ => rfl⟩
  | cons stepped _ ih =>
    rw [lost_cons stepped, Nat.add_eq_zero_iff, ih]
    constructor
    · rintro ⟨here, later⟩
      exact .cons here stepped later
    · intro guarded
      cases guarded with
      | cons here stepped' later =>
        rw [stepped] at stepped'
        cases stepped'
        exact ⟨here, later⟩

/-- What is held and what was lost is what was held before and what came in.  The step may
rely on a limit that what is held and what comes in never reaches. -/
theorem Run.conserved (held : σ → Nat) (loss : ε → σ → Nat) (gain : ε → Nat) (limit : Nat)
    (run : Run step state events final)
    (fits : held state + gained gain events < limit)
    (each : ∀ event before after, step event before = some after →
      held before + gain event < limit →
      held after + loss event before = held before + gain event) :
    held final + lost step loss events state = held state + gained gain events := by
  induction run with
  | nil => rfl
  | @cons state next final event events stepped _ ih =>
    simp only [gained, List.map_cons, List.sum_cons] at fits ih ⊢
    have here := each event state next stepped (by omega)
    have later := ih (by omega)
    rw [lost_cons stepped]
    omega

end Transition
