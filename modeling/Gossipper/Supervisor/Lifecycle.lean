/-
Module: Gossipper.Supervisor.Lifecycle
Purpose: The life cycle of a job: a running worker process has its row, and a status that
  has ended stays.
Trusted boundary: as for the calls
Main exports: Served, StatusKept, RowFits, rows_step, job_lifecycle
-/
import Gossipper.Lib.Run
import Gossipper.Supervisor.CallOrder

namespace Gossipper.Supervisor.Lifecycle

open Go Transition List Option

/-! ### The life cycle -/

/-- A worker process of the id is running. -/
def State.Alive (s : State) : Prop :=
  (∃ process, .register process ∈ s.starts ∧ process.exit = none) ∨
    ∃ worker ∈ s.workers, worker.process.exit = none

/-- While a worker process runs, the row is there and has not ended. -/
def Served (s : State) : Prop :=
  s.Alive → ∃ job, s.row = some job ∧ (job.status = .pending ∨ job.status = .running)

/-- A row that has ended keeps its status. -/
def StatusKept (before after : State) : Prop :=
  ∀ job job', before.row = some job → after.row = some job' → job.status.final = true →
    job'.status = job.status

/-! ### The row -/

/-- The row of a job on its way has not ended, it is there as long as the process runs, and
a `StopJob` that is about to store the end finds no other one. -/
structure RowFits (s : State) : Prop where
  undecided : 0 < s.busy → ∀ job, s.row = some job → job.status.final = false
  present : 0 < s.live → s.row.isSome = true
  marked : .mark ∈ s.stops → ∀ job, s.row = some job → job.status.final = true →
    job.status = .stopped

section Rows

variable {s : State}

theorem RowFits.idle (id : Bytes) (row : Option Job) : RowFits (State.idle id row) where
  undecided := fun busy => absurd busy (Nat.lt_irrefl 0)
  present := fun live => absurd live (Nat.lt_irrefl 0)
  marked := fun member => nomatch member

variable {after : State}

/-- The row stays, and nothing new is on its way. -/
theorem RowFits.keep (fits : RowFits s) (row : after.row = s.row)
    (busy : after.busy ≤ s.busy) (live : after.live ≤ s.live)
    (mark : .mark ∈ after.stops → .mark ∈ s.stops) : RowFits after := by
  refine ⟨?_, ?_, ?_⟩
  · rw [row]
    exact fun more => fits.undecided (Nat.lt_of_lt_of_le more busy)
  · rw [row]
    exact fun more => fits.present (Nat.lt_of_lt_of_le more live)
  · rw [row]
    exact fun member => fits.marked (mark member)

variable {succeeds : Bool} {change : Job → Job}

variable {phase : StartPhase} {i : Nat}

open StartPhase

/-- The numbers after a call of `StartJob` has got on. -/
theorem busy_setStart (current : s.starts[i]? = some phase) (next : StartPhase) :
    (s.setStart i next).busy + (if phase.opening then 1 else 0) =
      s.busy + (if next.opening then 1 else 0) := by
  have moved : (s.setStart i next).opening + (if phase.opening then 1 else 0) =
      s.opening + (if next.opening then 1 else 0) :=
    Threads.countP_move opening next current
  change (s.setStart i next).opening + s.unrecorded + _ = s.opening + s.unrecorded + _
  omega

theorem live_setStart (current : s.starts[i]? = some phase) (next : StartPhase) :
    (s.setStart i next).live + (if phase.live then 1 else 0) =
      s.live + (if next.live then 1 else 0) := by
  have moved : ((s.setStart i next).starts.countP live) +
      (if phase.live then 1 else 0) =
        s.starts.countP live + (if next.live then 1 else 0) :=
    Threads.countP_move live next current
  change (s.setStart i next).starts.countP live + s.workers.countP Worker.live + _ =
    s.starts.countP live + s.workers.countP Worker.live + _
  omega

variable {worker : Worker} {w : Nat}

/-- The numbers after a worker has got on. -/
theorem busy_setWorker (current : s.workers[w]? = some worker) (next : Worker) :
    (s.setWorker w next).busy + (if worker.unrecorded then 1 else 0) =
      s.busy + (if next.unrecorded then 1 else 0) := by
  have moved : (s.setWorker w next).unrecorded + (if worker.unrecorded then 1 else 0) =
      s.unrecorded + (if next.unrecorded then 1 else 0) :=
    Threads.countP_move Worker.unrecorded next current
  change s.opening + (s.setWorker w next).unrecorded + _ = s.opening + s.unrecorded + _
  omega

theorem live_setWorker (current : s.workers[w]? = some worker)
    (next : Worker) (ends : next.live = true → worker.live = true) :
    (s.setWorker w next).live ≤ s.live := by
  have fewer : (s.workers.set w next).countP Worker.live ≤ s.workers.countP Worker.live :=
    Threads.countP_le Worker.live current ends
  change s.starts.countP live + (s.workers.set w next).countP Worker.live ≤
    s.starts.countP live + s.workers.countP Worker.live
  omega

theorem busy_enter {process next}
    (current : s.starts[i]? = some (.register process)) (next_ : next.opening = false) :
    ((s.enter process).setStart i next).busy = s.busy := by
  have moved := Threads.countP_move opening next current
  rw [next_] at moved
  have added : (s.workers ++ [({ process } : Worker)]).countP Worker.unrecorded =
      s.unrecorded + 1 := by
    rw [countP_append]
    rfl
  change (s.starts.set i next).countP opening +
    (s.workers ++ [({ process } : Worker)]).countP Worker.unrecorded = s.busy
  rw [added, busy_eq]
  change _ + 1 = s.opening + 0 at moved
  omega

theorem live_enter {process next}
    (current : s.starts[i]? = some (.register process)) (next_ : next.live = false) :
    ((s.enter process).setStart i next).live = s.live := by
  have moved := Threads.countP_move live next current
  rw [next_] at moved
  have added : (s.workers ++ [({ process } : Worker)]).countP Worker.live =
      s.workers.countP Worker.live + (if process.exit.isNone then 1 else 0) := by
    rw [countP_append, countP_singleton]
    rfl
  change (s.starts.set i next).countP live +
    (s.workers ++ [({ process } : Worker)]).countP Worker.live =
      s.starts.countP live + s.workers.countP Worker.live
  rw [added]
  change _ + (if process.exit.isNone then 1 else 0) = s.starts.countP live + 0 at moved
  omega

theorem StatusKept.of_row (row : after.row = s.row) : StatusKept s after := by
  intro job job' found found' _
  rw [row, found] at found'
  rw [Option.some.inj found']

/-- The row is written.  A status that has ended stays, and one comes to its end only when
nothing is on its way any more and no `StopJob` is about to store another end. -/
theorem rows_update (fits : RowFits s) (row : after.row = (s.update succeeds change).row)
    (busy : after.busy ≤ s.busy) (live : after.live ≤ s.live)
    (mark : .mark ∈ after.stops → .mark ∈ s.stops)
    (kept : ∀ job, s.row = some job → job.status.final = true →
      (change job).status = job.status)
    (ends : ∀ job, s.row = some job → (change job).status.final = true →
      job.status.final = true ∨
        after.busy = 0 ∧ (.mark ∈ s.stops → (change job).status = .stopped)) :
    RowFits after ∧ StatusKept s after := by
  cases succeeds with
  | false => exact ⟨fits.keep row busy live mark, .of_row row⟩
  | true =>
    have mapped : after.row = s.row.map change := row
    refine ⟨⟨?_, ?_, ?_⟩, ?_⟩
    · intro more job found
      rw [mapped] at found
      obtain ⟨old, there, rfl⟩ := map_eq_some_iff.mp found
      rw [Bool.eq_false_iff]
      intro final
      rcases ends old there final with was | ⟨none_, _⟩
      · rw [fits.undecided (Nat.lt_of_lt_of_le more busy) old there] at was
        cases was
      · exact absurd none_ (Nat.ne_of_gt more)
    · intro more
      rw [mapped, isSome_map]
      exact fits.present (Nat.lt_of_lt_of_le more live)
    · intro member job found final
      rw [mapped] at found
      obtain ⟨old, there, rfl⟩ := map_eq_some_iff.mp found
      rcases ends old there final with was | ⟨_, stopped⟩
      · rw [kept old there was]
        exact fits.marked (mark member) old there was
      · exact stopped (mark member)
    · intro job job' found found' final
      rw [mapped, found, map_some, Option.some.injEq] at found'
      rw [← found']
      exact kept job found final

variable {now : Bytes}

section

variable (orderly : Orderly s)

include orderly

theorem rows_startStep (fits : RowFits s)
    (current : s.starts[i]? = some phase) (calm : phase.undisturbed s = true)
    (moved : startStep s i now result phase = some after) :
    RowFits after ∧ StatusKept s after := by
  have busy := fun next => busy_setStart current next
  have live := fun next => live_setStart current next
  -- A call that neither opens a job nor starts a process leaves the row alone.
  have goesOn : ∀ next : StartPhase, (next.opening = true → phase.opening = true) →
      (next.live = true → phase.live = true) →
      RowFits (s.setStart i next) ∧ StatusKept s (s.setStart i next) := by
    intro next opening running
    refine ⟨fits.keep rfl ?_ ?_ id, .of_row rfl⟩
    · exact Nat.add_le_add_right (Threads.countP_le StartPhase.opening current opening) _
    · exact Nat.add_le_add_right (Threads.countP_le StartPhase.live current running) _
  cases phase with
  | create call =>
    simp only [startStep] at moved
    split at moved
    · rename_i empty
      split at moved
      · cases moved
        exact goesOn _ Bool.noConfusion Bool.noConfusion
      · cases moved
        refine ⟨⟨?_, ?_, ?_⟩, ?_⟩
        · intro _ job found
          cases found
          rfl
        · intro _
          rfl
        · intro _ job found final
          cases found
          cases final
        · intro job _ found
          rw [empty] at found
          cases found
    · cases moved
      exact goesOn _ Bool.noConfusion Bool.noConfusion
  | fetch =>
    simp only [startStep] at moved
    split at moved
    · rename_i job found
      cases moved
      refine ⟨⟨?_, ?_, fits.marked⟩, .of_row rfl⟩
      · intro more
        have same : (s.setStart i .launch).busy + 1 = s.busy + 1 := busy .launch
        exact fits.undecided (by omega)
      · intro _
        change s.row.isSome = true
        rw [found]
        rfl
    · cases moved
      exact goesOn _ (fun _ => rfl) Bool.noConfusion
  | launch =>
    simp only [startStep] at moved
    split at moved <;> cases moved <;> exact goesOn _ (fun _ => rfl) (fun _ => rfl)
  | register process =>
    cases moved
    exact ⟨fits.keep rfl (busy_enter current rfl).le (live_enter current rfl).le id, .of_row rfl⟩
  | setPID pid =>
    simp only [startStep] at moved
    split at moved
    · cases moved
      exact @rows_update _ _ true (Job.setPID pid) fits rfl (busy .markRunning).le
        (live .markRunning).le id (fun _ _ _ => rfl) fun _ _ final => .inl final
    · cases moved
      exact goesOn _ Bool.noConfusion Bool.noConfusion
  | markRunning =>
    cases moved
    simp only [StartPhase.undisturbed, Option.all_eq_true, Bool.not_eq_true'] at calm
    refine rows_update fits rfl (busy .returned).le (live .returned).le id ?_ fun _ _ =>
      Bool.noConfusion
    intro job found final
    rw [calm job found] at final
    cases final
  | markFailed message =>
    cases moved
    have single := orderly.single
    have closes : (s.setStart i .returned).busy + 1 = s.busy + 0 := busy .returned
    have none_ : (s.setStart i .returned).busy = 0 := by omega
    refine rows_update fits rfl (none_.trans_le (Nat.zero_le _)) (live .returned).le id ?_ ?_
    · intro job found final
      rw [fits.undecided (by omega) job found] at final
      cases final
    · refine fun job found _ => .inr ⟨none_, fun member => ?_⟩
      have stopping : 0 < s.stopping := countP_pos_iff.mpr ⟨_, member, rfl⟩
      have opening : 0 < s.opening := countP_pos_iff.mpr ⟨_, mem_of_getElem? current, rfl⟩
      have apart := orderly.apart (isSome_of_eq_some found) stopping
      omega
  | returned => cases moved

theorem rows_waitStep (fits : RowFits s) (current : s.workers[w]? = some worker)
    (moved : waitStep s w now succeeds worker = some after) :
    RowFits after ∧ StatusKept s after := by
  have live := fun next : WaitPhase =>
    live_setWorker current { worker with wait := next } id
  -- Unless the end is stored, the row is left alone.
  have goesOn : ∀ next : WaitPhase, ({ worker with wait := next } : Worker).unrecorded = true →
      worker.unrecorded = true →
      (s.setWorker w { worker with wait := next }).busy ≤ s.busy := by
    intro next after_ before
    have moved := busy_setWorker current { worker with wait := next }
    rw [after_, before] at moved
    omega
  unfold waitStep at moved
  split at moved
  · rename_i phase
    cases moved
    refine ⟨fits.keep rfl (goesOn .removed rfl ?_) (live .removed) id, .of_row rfl⟩
    simp [Worker.unrecorded, phase]
  · rename_i phase
    cases moved
    refine ⟨fits.keep rfl (goesOn (.decided _) rfl ?_) (live _) id, .of_row rfl⟩
    simp [Worker.unrecorded, phase]
  · rename_i exit status ended phase
    cases moved
    have unrecorded : worker.unrecorded = true := by
      simp [Worker.unrecorded, phase]
    have closes := busy_setWorker current { worker with wait := .recorded }
    rw [unrecorded] at closes
    change _ + 1 = s.busy + 0 at closes
    have single := orderly.single
    have none_ : (s.setWorker w { worker with wait := .recorded }).busy = 0 := by omega
    refine rows_update fits rfl (none_.trans_le (Nat.zero_le _)) (live .recorded) id ?_ ?_
    · intro job found final
      rw [fits.undecided (by omega) job found] at final
      cases final
    · refine fun job found _ => .inr ⟨none_, fun member => ?_⟩
      have settling : 0 < s.settling := countP_pos_iff.mpr ⟨_, member, rfl⟩
      have settled := orderly.settled (isSome_of_eq_some found) settling
      omega
  · rename_i phase
    cases moved
    have same := busy_setWorker current { worker with wait := .closed }
    change _ + _ = s.busy + 0 at same
    exact ⟨fits.keep rfl (by omega) (live .closed) id, .of_row rfl⟩
  · cases moved

theorem rows_stopStep {j phase} (fits : RowFits s)
    (current : s.stops[j]? = some phase) (moved : stopStep s j now succeeds phase = some after) :
    RowFits after ∧ StatusKept s after := by
  have other : ∀ next : StopPhase, next ≠ .mark → .mark ∈ s.stops.set j next →
      .mark ∈ s.stops := by
    intro next differs member
    rcases mem_or_eq_of_mem_set member with old | same
    · exact old
    · exact absurd same.symm differs
  have goesOn : ∀ next : StopPhase, next ≠ .mark →
      RowFits (s.setStop j next) ∧ StatusKept s (s.setStop j next) := by
    intro next differs
    exact ⟨fits.keep rfl (Nat.le_refl _) (Nat.le_refl _) (other next differs), .of_row rfl⟩
  cases phase with
  | lookup =>
    simp only [stopStep] at moved
    split at moved
    · cases moved
      exact goesOn _ StopPhase.noConfusion
    · rename_i w registered
      obtain ⟨worker, found, rfl⟩ := map_eq_some_iff.mp moved
      have same := busy_setWorker found { worker with stopRequested := true }
      have busy : (s.setWorker w { worker with stopRequested := true }).busy = s.busy :=
        Nat.add_right_cancel same
      have live := live_setWorker found { worker with stopRequested := true } id
      exact ⟨fits.keep rfl busy.le live (other _ StopPhase.noConfusion), .of_row rfl⟩
  | await w =>
    simp only [stopStep] at moved
    split at moved
    · obtain ⟨_, ⟨⟩⟩ := of_guard moved
      exact goesOn _ StopPhase.noConfusion
    · cases moved
  | get =>
    simp only [stopStep] at moved
    split at moved
    · rename_i job found
      split at moved
      · rename_i active
        cases moved
        -- The row that was read has not ended.
        refine ⟨⟨fits.undecided, fits.present, ?_⟩, .of_row rfl⟩
        intro _ job' found' final
        cases found.symm.trans found'
        simp only [Bool.or_eq_true, decide_eq_true_eq] at active
        rw [Status.final_eq_false.mpr active.symm] at final
        cases final
      · cases moved
        exact goesOn _ StopPhase.noConfusion
    · cases moved
      exact goesOn _ StopPhase.noConfusion
  | mark =>
    cases moved
    have here : StopPhase.mark ∈ s.stops := mem_of_getElem? current
    have settling : 0 < s.settling := countP_pos_iff.mpr ⟨_, here, rfl⟩
    refine rows_update fits rfl (Nat.le_refl _) (Nat.le_refl _) (other .returned StopPhase.noConfusion) ?_ ?_
    · intro job found final
      exact (fits.marked here job found final).symm
    · intro job found _
      exact .inr ⟨orderly.settled (isSome_of_eq_some found) settling, fun _ => rfl⟩
  | returned => cases moved

theorem rows_step {event} (fits : RowFits s)
    (calm : undisturbed event s = true) (stepped : step event s = some after) :
    RowFits after ∧ StatusKept s after := by
  cases event with
  | callStart call =>
    cases stepped
    refine ⟨fits.keep rfl ?_ ?_ id, .of_row rfl⟩
    · rw [busy_eq, State.opening, countP_call s.starts rfl]
      exact Nat.le_refl _
    · rw [State.live, countP_call s.starts rfl]
      exact Nat.le_refl _
  | callStop =>
    cases stepped
    refine ⟨fits.keep rfl (Nat.le_refl _) (Nat.le_refl _) ?_, .of_row rfl⟩
    intro member
    rcases mem_append.mp member with old | new
    · exact old
    · cases mem_singleton.mp new
  | delete =>
    cases stepped
    refine ⟨⟨?_, ?_, ?_⟩, ?_⟩
    · intro _ job found
      cases found
    · intro live
      have present := fits.present live
      simp only [undisturbed, Bool.or_eq_true, isNone_iff_eq_none, beq_iff_eq] at calm
      rcases calm with missing | none_
      · rw [missing] at present
        cases present
      · exact absurd none_ (Nat.ne_of_gt live)
    · intro _ job found
      cases found
    · intro _ job _ found
      cases found
  | start i now result =>
    obtain ⟨phase, current, moved⟩ := bind_eq_some_iff.mp stepped
    simp only [undisturbed, current, all_some] at calm
    exact rows_startStep orderly fits current calm moved
  | exitEarly i exit =>
    simp only [step] at stepped
    split at stepped
    · rename_i pid current
      cases stepped
      have busy := busy_setStart current (.register { pid, exit := some exit })
      have live := live_setStart current (.register { pid, exit := some exit })
      change _ + 1 = s.busy + 1 at busy
      change _ + 1 = s.live + 0 at live
      exact ⟨fits.keep rfl (by omega) (by omega) id, .of_row rfl⟩
    · cases stepped
  | exit w exit =>
    simp only [step] at stepped
    split at stepped
    · rename_i pid stopRequested wait current
      cases stepped
      have same := busy_setWorker current
        { process := { pid, exit := some exit }, stopRequested, wait }
      have busy := Nat.add_right_cancel same
      have live := live_setWorker current
        { process := { pid, exit := some exit }, stopRequested, wait }
        Bool.noConfusion
      exact ⟨fits.keep rfl busy.le live id, .of_row rfl⟩
    · cases stepped
  | wait w now succeeds =>
    obtain ⟨worker, current, moved⟩ := bind_eq_some_iff.mp stepped
    exact rows_waitStep orderly fits current moved
  | stop j now succeeds =>
    obtain ⟨phase, current, moved⟩ := bind_eq_some_iff.mp stepped
    exact rows_stopStep orderly fits current moved

theorem RowFits.served (fits : RowFits s) : Served s := by
  intro alive
  have counted : 0 < s.busy ∧ 0 < s.live := by
    rcases alive with ⟨process, member, running⟩ | ⟨worker, member, running⟩
    · have live : (register process).live = true := by
        simp [live, running, isNone_none]
      exact ⟨Nat.lt_add_right _ (countP_pos_iff.mpr ⟨_, member, rfl⟩),
        Nat.lt_add_right _ (countP_pos_iff.mpr ⟨_, member, live⟩)⟩
    · have live : worker.live = true := by
        simp [Worker.live, running, isNone_none]
      have unrecorded : worker.unrecorded = true := by
        simp [Worker.unrecorded, orderly.waiting worker member live]
      exact ⟨Nat.lt_add_left _ (countP_pos_iff.mpr ⟨_, member, unrecorded⟩),
        Nat.lt_add_left _ (countP_pos_iff.mpr ⟨_, member, live⟩)⟩
  obtain ⟨job, found⟩ := isSome_iff_exists.mp (fits.present counted.2)
  exact ⟨job, found, Status.final_eq_false.mp (fits.undecided counted.1 job found)⟩

end

end Rows

/-- As long as the steps do not disturb a job on its way, a running process has its row, and
the next undisturbed step keeps a status that has ended. -/
theorem job_lifecycle {id : Bytes} {row : Option Job} {events : List Event} {s : State}
    (run : Guarded step (fun event s => undisturbed event s = true) (State.idle id row) events s) :
    Served s ∧ ∀ event after, undisturbed event s = true → step event s = some after →
      StatusKept s after := by
  have held : Orderly s ∧ RowFits s := by
    apply run.invariant
    · exact ⟨.idle id row, .idle id row⟩
    · intro event before after calm stepped ⟨orderly, fits⟩
      exact ⟨orderly.step calm stepped, (rows_step orderly fits calm stepped).1⟩
  obtain ⟨orderly, fits⟩ := held
  refine ⟨fits.served orderly, ?_⟩
  intro event after calm stepped
  exact (rows_step orderly fits calm stepped).2

/-! ### A worker that exits at once -/

section Fast

/-- A job is started. -/
def began : List Event :=
  [.callStart { createdAt := ascii "2026-01-01T00:00:00Z" },
    .start 0 [] (.ok 0), .start 0 [] (.ok 0), .start 0 [] (.ok 4711), .start 0 [] (.ok 0),
    .start 0 [] (.ok 0)]

/-- Its worker exits and this is stored. -/
def ended : List Event :=
  [.exit 0 { code := 0 }, .wait 0 [] true, .wait 0 [] true, .wait 0 [] true]

/-- The state after a sequence of events. -/
def after (events : List Event) : State :=
  (exec step events (State.idle (ascii "job") none)).getD (State.idle (ascii "job") none)

/-- The worker exits when `StartJob` has returned: the job stays succeeded. -/
theorem ended_after_start :
    Served (after (began ++ [.start 0 [] (.ok 0)] ++ ended)) ∧
      (after (began ++ [.start 0 [] (.ok 0)] ++ ended)).row.map (·.status) =
        some .succeeded := by
  have run : Guarded step (fun event s => undisturbed event s = true)
      (State.idle (ascii "job") none) (began ++ [.start 0 [] (.ok 0)] ++ ended)
      (after (began ++ [.start 0 [] (.ok 0)] ++ ended)) := Guarded.of_exec (by decide)
  exact ⟨(job_lifecycle run).1, by decide⟩

/-- It exits before `StartJob` marks the row: the job that has succeeded is running, for
ever. -/
theorem succeeded_overwritten :
    ¬ ∀ (id : Bytes) (row : Option Job) (events : List Event) (s : State),
      Run step (State.idle id row) events s →
        Served s ∧ ∀ event after, step event s = some after → StatusKept s after := by
  intro always
  have run : Run step (State.idle (ascii "job") none) (began ++ ended)
      (after (began ++ ended)) := Run.of_isSome (by decide)
  obtain ⟨_, kept⟩ := always _ _ _ _ run
  have same := kept (.start 0 [] (.ok 0)) _ rfl _ _ rfl rfl rfl
  exact absurd same (by decide)

end Fast

end Gossipper.Supervisor.Lifecycle
