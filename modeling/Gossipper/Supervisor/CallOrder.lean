/-
Module: Gossipper.Supervisor.CallOrder
Purpose: Schedules in which the calls for a job id and the end of its worker do not get in
  each other's way, and the order that holds along them.
Trusted boundary: as for the calls
Main exports: State.busy, State.live, undisturbed, Orderly, Orderly.step
-/
import Gossipper.Lib.Threads
import Gossipper.Supervisor.Jobs

namespace Gossipper.Supervisor.Lifecycle

open Go List Option

/-! ### Calls that do not disturb each other -/

/-- The row is in the table and its worker is not in the map: a worker is to come, or the
failure is to be stored. -/
def StartPhase.opening : StartPhase → Bool
  | .fetch | .launch | .register _ | .markFailed _ => true
  | _ => false

/-- A process runs, or is about to. -/
def StartPhase.live : StartPhase → Bool
  | .launch => true
  | .register process => process.exit.isNone
  | _ => false

/-- The end of the worker has not been stored. -/
def Worker.unrecorded (worker : Worker) : Bool :=
  match worker.wait with
  | .waiting | .removed | .decided _ => true
  | .recorded | .closed => false

/-- The process runs. -/
def Worker.live (worker : Worker) : Bool := worker.process.exit.isNone

/-- The call has asked the runner and has not returned. -/
def StopPhase.inFlight : StopPhase → Bool
  | .await _ | .get | .mark => true
  | .lookup | .returned => false

/-- The call waits for no worker any more. -/
def StopPhase.settling : StopPhase → Bool
  | .get | .mark => true
  | .lookup | .await _ | .returned => false

/-- Calls of `StartJob` between the insert and the map of the runner. -/
def State.opening (s : State) : Nat := s.starts.countP StartPhase.opening

/-- Workers whose end has not been stored. -/
def State.unrecorded (s : State) : Nat := s.workers.countP Worker.unrecorded

/-- Jobs of the id that are on their way. -/
def State.busy (s : State) : Nat := s.opening + s.unrecorded

/-- Calls of `StopJob` that have asked the runner. -/
def State.stopping (s : State) : Nat := s.stops.countP StopPhase.inFlight

/-- Those of them that wait for no worker. -/
def State.settling (s : State) : Nat := s.stops.countP StopPhase.settling

/-- Processes that run or are about to. -/
def State.live (s : State) : Nat :=
  s.starts.countP StartPhase.live + s.workers.countP Worker.live

/-- A step of `StartJob` that comes neither too early nor too late: the row is inserted
when no other job of the id is on its way and no `StopJob` has asked the runner, and it is
marked as running while it has not ended. -/
def StartPhase.undisturbed (s : State) : StartPhase → Bool
  | .create _ => s.row.isSome || (s.busy == 0 && s.stopping == 0)
  | .markRunning => s.row.all fun job => !job.status.final
  | _ => true

/-- A step of `StopJob` that does so: it asks the runner while the worker is in the map, or
when no job of the id is on its way, or without a row. -/
def StopPhase.undisturbed (s : State) : StopPhase → Bool
  | .lookup => s.registered.isSome || s.busy == 0 || s.row.isNone
  | _ => true

/-- The steps that do not disturb a job on its way; its row is not deleted while its process
runs or is about to. -/
def undisturbed : Event → State → Bool
  | .start i _ _, s => (s.starts[i]?).all (StartPhase.undisturbed s)
  | .stop j _ _, s => (s.stops[j]?).all (StopPhase.undisturbed s)
  | .delete, s => s.row.isNone || s.live == 0
  | _, _ => true

/-! ### The order of the calls -/

/-- At most one job of the id is on its way, and no `StopJob` gets between a row and its
worker.  Without a row, a `StopJob` that has asked the runner does nothing, and there will
be none before it has returned. -/
structure Orderly (s : State) : Prop where
  single : s.busy ≤ 1
  apart : s.row.isSome = true → 0 < s.stopping → s.opening = 0
  settled : s.row.isSome = true → 0 < s.settling → s.busy = 0
  awaited : s.row.isSome = true → ∀ w, .await w ∈ s.stops → s.unrecorded = 0 ∨
    ∃ worker, s.workers[w]? = some worker ∧ worker.unrecorded = true
  entered : ∀ w, s.registered = some w →
    ∃ worker : Worker, s.workers[w]? = some worker ∧ worker.wait = .waiting
  waiting : ∀ worker ∈ s.workers, worker.live = true → worker.wait = .waiting

section Order

variable {s : State}

theorem Orderly.idle (id : Bytes) (row : Option Job) : Orderly (State.idle id row) where
  single := Nat.zero_le 1
  apart := fun _ _ => rfl
  settled := fun _ _ => rfl
  awaited := fun _ _ member => nomatch member
  entered := fun _ registered => nomatch registered
  waiting := fun _ member => nomatch member

theorem Orderly.withRow (orderly : Orderly s)
    (was : row.isSome = true → s.row.isSome = true) : Orderly { s with row } :=
  ⟨orderly.single, fun there => orderly.apart (was there),
    fun there => orderly.settled (was there), fun there => orderly.awaited (was there),
    orderly.entered, orderly.waiting⟩

theorem Orderly.update (orderly : Orderly s) (succeeds : Bool) (change : Job → Job) :
    Orderly (s.update succeeds change) := by
  refine orderly.withRow ?_
  intro there
  cases succeeds with
  | false => exact there
  | true => exact (isSome_map).symm.trans there

theorem settling_le (s : State) : s.settling ≤ s.stopping := by
  apply countP_mono_left
  intro phase _ settling
  cases phase <;> first | rfl | cases settling

theorem busy_eq (s : State) : s.busy = s.opening + s.unrecorded := rfl

theorem Orderly.insert (orderly : Orderly s) (call : Call) (quiet : s.busy = 0)
    (alone : s.stopping = 0) : Orderly (s.insert call) := by
  have fewer := settling_le s
  refine ⟨orderly.single, ?_, ?_, ?_, orderly.entered, orderly.waiting⟩
  · intro _ stopping
    exact absurd alone (Nat.ne_of_gt stopping)
  · intro _ _
    exact quiet
  · intro _ w member
    have stopping : 0 < s.stopping := countP_pos_iff.mpr ⟨_, member, rfl⟩
    omega

variable {i : Nat}

section

variable (orderly : Orderly s)

include orderly

/-- A call of `StartJob` gets on. -/
theorem Orderly.setStart {phase next} (current : s.starts[i]? = some phase)
    (opens : next.opening = true → phase.opening = true ∨ (s.busy = 0 ∧ s.stopping = 0)) :
    Orderly (s.setStart i next) := by
  have moved : (s.setStart i next).opening + (if phase.opening then 1 else 0) =
      s.opening + (if next.opening then 1 else 0) :=
    Threads.countP_move StartPhase.opening next current
  have change : (s.setStart i next).opening ≤ s.opening ∨
      (s.busy = 0 ∧ s.stopping = 0 ∧ (s.setStart i next).opening ≤ s.opening + 1) := by
    cases opening : next.opening with
    | false =>
      rw [opening, if_neg Bool.false_ne_true] at moved
      omega
    | true =>
      rw [opening, if_pos rfl] at moved
      rcases opens opening with before | ⟨quiet, alone⟩
      · rw [before, if_pos rfl] at moved
        omega
      · omega
  have single := orderly.single
  have fewer := settling_le s
  rw [busy_eq] at single change
  refine ⟨?_, ?_, ?_, orderly.awaited, orderly.entered, orderly.waiting⟩
  · change (s.setStart i next).opening + s.unrecorded ≤ 1
    omega
  · intro there
    have apart := orderly.apart there
    change 0 < s.stopping → (s.setStart i next).opening = 0
    omega
  · intro there
    have settled := orderly.settled there
    rw [busy_eq] at settled
    change 0 < s.settling → (s.setStart i next).opening + s.unrecorded = 0
    omega

theorem Orderly.enter {process next}
    (current : s.starts[i]? = some (.register process)) (next_ : next.opening = false) :
    Orderly ((s.enter process).setStart i next) := by
  have moved : ((s.enter process).setStart i next).opening + 1 = s.opening + 0 := by
    have counted := Threads.countP_move StartPhase.opening next current
    rw [next_] at counted
    exact counted
  have added : ((s.enter process).setStart i next).unrecorded = s.unrecorded + 1 := by
    change (s.workers ++ [({ process } : Worker)]).countP Worker.unrecorded = _
    rw [countP_append]
    rfl
  have single := orderly.single
  rw [busy_eq] at single
  refine ⟨?_, ?_, ?_, ?_, ?_, ?_⟩
  · rw [busy_eq]
    omega
  · intro _ _
    omega
  · intro there
    have settled := orderly.settled there
    rw [busy_eq] at settled ⊢
    change 0 < s.settling → _
    omega
  · -- No call waits for a worker while another one is on its way.
    intro there w member
    have waits : 0 < s.stopping := countP_pos_iff.mpr ⟨_, member, rfl⟩
    have apart := orderly.apart there waits
    omega
  · intro w registered
    change (if s.sameID then some s.workers.length else s.registered) = some w at registered
    split at registered
    · cases registered
      exact ⟨_, getElem?_concat_length, rfl⟩
    · obtain ⟨worker, found, waits⟩ := orderly.entered w registered
      obtain ⟨inside, _⟩ := List.getElem?_eq_some_iff.mp found
      exact ⟨worker, (getElem?_append_left inside).trans found, waits⟩
  · intro worker member live
    rcases mem_append.mp member with old | new
    · exact orderly.waiting worker old live
    · rw [mem_singleton.mp new]

/-- A worker changes, and may leave the map. -/
theorem Orderly.setWorker {w worker next} (current : s.workers[w]? = some worker)
    (ends : next.unrecorded = true → worker.unrecorded = true)
    (entered : s.registered = some w → next.wait = .waiting)
    (waiting : next.live = true → next.wait = .waiting) : Orderly (s.setWorker w next) := by
  obtain ⟨inside, _⟩ := List.getElem?_eq_some_iff.mp current
  have moved : (s.setWorker w next).unrecorded + (if worker.unrecorded then 1 else 0) =
      s.unrecorded + (if next.unrecorded then 1 else 0) :=
    Threads.countP_move Worker.unrecorded next current
  have fewer : (s.setWorker w next).unrecorded ≤ s.unrecorded :=
    Threads.countP_le Worker.unrecorded current ends
  have single := orderly.single
  rw [busy_eq] at single
  refine ⟨?_, orderly.apart, ?_, ?_, ?_, Threads.forall_move orderly.waiting waiting⟩
  · change s.opening + (s.setWorker w next).unrecorded ≤ 1
    omega
  · intro there
    have settled := orderly.settled there
    rw [busy_eq] at settled
    change 0 < s.settling → s.opening + (s.setWorker w next).unrecorded = 0
    omega
  · intro there v member
    rcases orderly.awaited there v member with none_ | ⟨other, found, open_⟩
    · left
      omega
    · by_cases same : v = w
      · subst same
        cases found.symm.trans current
        cases unrecorded : next.unrecorded with
        | true => exact .inr ⟨next, getElem?_set_self inside, unrecorded⟩
        | false =>
          -- It was the only one whose end was not stored.
          left
          rw [unrecorded, open_, if_pos rfl, if_neg Bool.false_ne_true] at moved
          omega
      · right
        refine ⟨other, ?_, open_⟩
        change (s.workers.set w next)[v]? = some other
        rw [getElem?_set_ne (Ne.symm same)]
        exact found
  · intro v registered
    by_cases same : v = w
    · subst same
      exact ⟨next, getElem?_set_self inside, entered registered⟩
    · obtain ⟨other, found, phase⟩ := orderly.entered v registered
      refine ⟨other, ?_, phase⟩
      change (s.workers.set w next)[v]? = some other
      rw [getElem?_set_ne (Ne.symm same)]
      exact found

theorem Orderly.unregister : Orderly s.unregister :=
  ⟨orderly.single, orderly.apart, orderly.settled, orderly.awaited,
    (fun _ entry => nomatch entry), orderly.waiting⟩

/-- A call of `StopJob` gets on. -/
theorem Orderly.setStop {j phase next} (current : s.stops[j]? = some phase)
    (asks : s.row.isSome = true → next.inFlight = true → phase.inFlight = true ∨ s.opening = 0)
    (settles : s.row.isSome = true → next.settling = true → s.busy = 0)
    (awaits : ∀ w, next = .await w →
      ∃ worker, s.workers[w]? = some worker ∧ worker.unrecorded = true) :
    Orderly (s.setStop j next) := by
  refine ⟨orderly.single, ?_, ?_, ?_, orderly.entered, orderly.waiting⟩
  · intro there stopping
    obtain ⟨other, member, inFlight⟩ := countP_pos_iff.mp stopping
    rcases mem_or_eq_of_mem_set member with old | rfl
    · exact orderly.apart there (countP_pos_iff.mpr ⟨other, old, inFlight⟩)
    · rcases asks there inFlight with before | none_
      · exact orderly.apart there
          (countP_pos_iff.mpr ⟨phase, mem_of_getElem? current, before⟩)
      · exact none_
  · intro there settling
    obtain ⟨other, member, settled⟩ := countP_pos_iff.mp settling
    rcases mem_or_eq_of_mem_set member with old | rfl
    · exact orderly.settled there (countP_pos_iff.mpr ⟨other, old, settled⟩)
    · exact settles there settled
  · intro there w member
    rcases mem_or_eq_of_mem_set member with old | same
    · exact orderly.awaited there w old
    · exact .inr (awaits w same.symm)

end

variable {after : State} {now : Bytes}

theorem Orderly.startStep (orderly : Orderly s)
    (current : s.starts[i]? = some phase) (calm : phase.undisturbed s = true)
    (moved : startStep s i now result phase = some after) : Orderly after := by
  cases phase with
  | create call =>
    simp only [Lifecycle.startStep] at moved
    split at moved
    · rename_i empty
      split at moved
      · cases moved
        exact orderly.setStart current nofun
      · cases moved
        simp only [StartPhase.undisturbed, empty, isSome_none, Bool.false_or,
          Bool.and_eq_true, beq_iff_eq] at calm
        exact (orderly.insert call calm.1 calm.2).setStart current fun _ => .inr calm
    · cases moved
      exact orderly.setStart current nofun
  | fetch | launch =>
    simp only [Lifecycle.startStep] at moved
    split at moved <;> cases moved <;> exact orderly.setStart current fun _ => .inl rfl
  | register process =>
    cases moved
    exact orderly.enter current rfl
  | setPID pid =>
    simp only [Lifecycle.startStep] at moved
    split at moved
    · cases moved
      exact (orderly.update _ _).setStart current nofun
    · cases moved
      exact orderly.setStart current nofun
  | markRunning =>
    cases moved
    exact (orderly.update _ _).setStart current nofun
  | markFailed message =>
    cases moved
    exact (orderly.update _ _).setStart current fun _ => .inl rfl
  | returned => cases moved

theorem Orderly.waitStep {w worker succeeds}
    (orderly : Orderly s) (current : s.workers[w]? = some worker)
    (moved : waitStep s w now succeeds worker = some after) : Orderly after := by
  -- The worker that is in the map waits, so the others are not in it.
  have elsewhere : ∀ phase : WaitPhase, worker.wait = phase → phase ≠ .waiting →
      s.registered ≠ some w := by
    intro phase here other registered
    obtain ⟨entry, found, waits⟩ := orderly.entered w registered
    cases found.symm.trans current
    exact other (here.symm.trans waits)
  have ended : ∀ (exit : Exit) (next : WaitPhase), worker.process.exit = some exit →
      ({ worker with wait := next } : Worker).live = true → next = .waiting := by
    intro exit next here live
    simp only [Worker.live, here] at live
    cases live
  unfold Lifecycle.waitStep at moved
  split at moved
  · rename_i exit phase
    cases moved
    refine orderly.unregister.setWorker current ?_ (fun entry => nomatch entry) (ended _ _ exit)
    intro _
    simp [Worker.unrecorded, phase]
  · rename_i exit phase
    cases moved
    refine orderly.setWorker current ?_ (fun entry => absurd entry ?_) (ended _ _ exit)
    · intro _
      simp [Worker.unrecorded, phase]
    · exact elsewhere _ phase (by decide)
  · rename_i exit phase
    cases moved
    refine (orderly.update _ _).setWorker current ?_ (fun entry => absurd entry ?_)
      (ended _ _ exit)
    · intro impossible
      cases impossible
    · exact elsewhere _ phase (fun same => nomatch same)
  · rename_i exit phase
    cases moved
    refine orderly.setWorker current ?_ (fun entry => absurd entry ?_) (ended _ _ exit)
    · intro impossible
      cases impossible
    · exact elsewhere _ phase (by decide)
  · cases moved

theorem Orderly.stopStep {j phase succeeds}
    (orderly : Orderly s) (current : s.stops[j]? = some phase) (calm : phase.undisturbed s = true)
    (moved : stopStep s j now succeeds phase = some after) : Orderly after := by
  cases phase with
  | lookup =>
    simp only [Lifecycle.stopStep] at moved
    split at moved
    · rename_i missing
      cases moved
      simp only [StopPhase.undisturbed, missing, isSome_none, Bool.false_or,
        Bool.or_eq_true, beq_iff_eq, isNone_iff_eq_none] at calm
      have quiet : s.row.isSome = true → s.busy = 0 := by
        intro there
        apply calm.resolve_right
        rintro absent
        rw [absent] at there
        cases there
      refine orderly.setStop current ?_ (fun there _ => quiet there) (fun _ same => nomatch same)
      intro there _
      exact .inr (Nat.eq_zero_of_add_eq_zero (quiet there)).1
    · rename_i w registered
      obtain ⟨worker, found, rfl⟩ := map_eq_some_iff.mp moved
      obtain ⟨entry, same, waits⟩ := orderly.entered w registered
      cases same.symm.trans found
      have unrecorded : worker.unrecorded = true := by
        simp [Worker.unrecorded, waits]
      have there : 0 < s.unrecorded :=
        countP_pos_iff.mpr ⟨worker, mem_of_getElem? found, unrecorded⟩
      have none_ : s.opening = 0 := by
        have single := orderly.single
        rw [busy_eq] at single
        omega
      have marked : Orderly (s.setWorker w { worker with stopRequested := true }) :=
        orderly.setWorker found (fun _ => unrecorded) (fun _ => waits) (fun _ => waits)
      obtain ⟨inside, _⟩ := List.getElem?_eq_some_iff.mp found
      refine marked.setStop current (fun _ _ => .inr none_)
        (fun _ settling => absurd settling Bool.false_ne_true) ?_
      intro v same
      cases same
      exact ⟨_, getElem?_set_self inside, unrecorded⟩
  | await w =>
    simp only [Lifecycle.stopStep] at moved
    split at moved
    · rename_i worker found
      obtain ⟨closed, ⟨⟩⟩ := of_guard moved
      have inFlight : 0 < s.stopping :=
        countP_pos_iff.mpr ⟨_, mem_of_getElem? current, rfl⟩
      refine orderly.setStop current (fun _ _ => .inl rfl) ?_ (fun _ same => nomatch same)
      intro there _
      rw [busy_eq, orderly.apart there inFlight]
      rcases orderly.awaited there w (mem_of_getElem? current) with
        none_ | ⟨v, same, open_⟩
      · omega
      · cases same.symm.trans found
        simp only [Worker.unrecorded, closed] at open_
        cases open_
    · cases moved
  | get =>
    have settling : 0 < s.settling :=
      countP_pos_iff.mpr ⟨_, mem_of_getElem? current, rfl⟩
    have goesOn : ∀ next, next = StopPhase.mark ∨ next = StopPhase.returned →
        Orderly (s.setStop j next) := by
      intro next cases_
      refine orderly.setStop current (fun _ _ => .inl rfl)
        (fun there _ => orderly.settled there settling) ?_
      intro w same
      rcases cases_ with rfl | rfl <;> cases same
    simp only [Lifecycle.stopStep] at moved
    split at moved
    · split at moved
      · cases moved
        exact goesOn _ (.inl rfl)
      · cases moved
        exact goesOn _ (.inr rfl)
    · cases moved
      exact goesOn _ (.inr rfl)
  | mark =>
    cases moved
    exact (orderly.update _ _).setStop current
      (fun _ inFlight => absurd inFlight Bool.false_ne_true)
      (fun _ settling => absurd settling Bool.false_ne_true) (fun _ same => nomatch same)
  | returned => cases moved

theorem countP_call {π : Type} {p : π → Bool} {call} (calls : List π)
    (idle : p call = false) : (calls ++ [call]).countP p = calls.countP p := by
  rw [countP_append, countP_singleton, idle]
  rfl

theorem Orderly.step {event} (orderly : Orderly s)
    (calm : undisturbed event s = true) (stepped : step event s = some after) :
    Orderly after := by
  cases event with
  | callStart call =>
    cases stepped
    refine ⟨?_, ?_, ?_, orderly.awaited, orderly.entered, orderly.waiting⟩
    · rw [busy_eq, State.opening, countP_call s.starts rfl]
      exact orderly.single
    · rw [State.opening, countP_call s.starts rfl]
      exact orderly.apart
    · rw [busy_eq, State.opening, countP_call s.starts rfl]
      exact orderly.settled
  | callStop =>
    cases stepped
    refine ⟨orderly.single, ?_, ?_, ?_, orderly.entered, orderly.waiting⟩
    · rw [State.stopping, countP_call s.stops rfl]
      exact orderly.apart
    · rw [State.settling, countP_call s.stops rfl]
      exact orderly.settled
    · intro there w member
      rcases mem_append.mp member with old | new
      · exact orderly.awaited there w old
      · cases mem_singleton.mp new
  | delete =>
    cases stepped
    exact orderly.withRow fun there => nomatch there
  | start i now result =>
    obtain ⟨phase, current, moved⟩ := bind_eq_some_iff.mp stepped
    simp only [undisturbed, current, all_some] at calm
    exact orderly.startStep current calm moved
  | exitEarly i exit =>
    simp only [Lifecycle.step] at stepped
    split at stepped
    · rename_i current
      cases stepped
      exact orderly.setStart current fun _ => .inl rfl
    · cases stepped
  | exit w exit =>
    simp only [Lifecycle.step] at stepped
    split at stepped
    · rename_i pid stopRequested wait current
      cases stepped
      refine orderly.setWorker current (fun open_ => open_) ?_
        (fun live => absurd live Bool.false_ne_true)
      intro registered
      obtain ⟨entry, found, waits⟩ := orderly.entered w registered
      cases found.symm.trans current
      exact waits
    · cases stepped
  | wait w now succeeds =>
    obtain ⟨worker, current, moved⟩ := bind_eq_some_iff.mp stepped
    exact orderly.waitStep current moved
  | stop j now succeeds =>
    obtain ⟨phase, current, moved⟩ := bind_eq_some_iff.mp stepped
    simp only [undisturbed, current, all_some] at calm
    exact orderly.stopStep current calm moved

end Order

end Gossipper.Supervisor.Lifecycle
