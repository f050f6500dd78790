/-
Module: Gossipper.Supervisor.Jobs
Purpose: The rows of the jobs table and the statements on one row, after
  `internal/supervisor/jobs.go`, and one job id under calls of `StartJob`, `StopJob` and
  `Delete` side by side with the goroutine that waits for the worker, after `registry.go`
  and `exec_runner.go`.
Trusted boundary: as for the users table, which is in the same database; a critical section
  of the runner is one step.  When a process exits, which statement fails and whether a
  process can be started is given by the events.  `StopJob` and `Delete` are called with the
  id of the row.
Main exports: Job, Worker, StartPhase, StopPhase, State, Event, startStep, waitStep, stopStep
-/
import Gossipper.Go.Text

namespace Gossipper.Supervisor

open Go

/-- `Status`. -/
inductive Status where
  | pending
  | running
  | succeeded
  | failed
  | stopped
deriving DecidableEq, Repr

/-- The job has ended. -/
def Status.final : Status → Bool
  | .pending | .running => false
  | .succeeded | .failed | .stopped => true

theorem Status.final_eq_false {status : Status} :
    status.final = false ↔ status = .pending ∨ status = .running := by
  cases status <;> decide

/-- A row of the jobs table, with the columns that are read or written here; the times are
texts. -/
structure Job where
  id : Bytes
  profileID : Bytes := []
  profileKind : Bytes := []
  status : Status
  createdAt : Bytes
  startedAt : Option Bytes := none
  finishedAt : Option Bytes := none
  exitCode : Option Int := none
  error : Option Bytes := none
  pid : Option Int := none
deriving DecidableEq, Repr

/-- `UpdateStatus`, on the row of the job. -/
def Job.updateStatus (now : Bytes) (status : Status) (exitCode : Option Int) (errMsg : Bytes)
    (job : Job) : Job :=
  match status with
  | .running => { job with status, startedAt := job.startedAt.or (some now) }
  | .succeeded | .failed | .stopped =>
    { job with status, finishedAt := some now, exitCode, error := some (trimSpace errMsg) }
  | .pending => { job with status }

/-- `SetPID`, on the row of the job. -/
def Job.setPID (pid : Int) (job : Job) : Job := { job with pid := some pid }

end Gossipper.Supervisor

namespace Gossipper.Supervisor.Lifecycle

open Go

/-! ### Processes and calls -/

/-- What `Wait` reports: the exit code, and the text of an error that is not an exit
status. -/
structure Exit where
  code : Int
  failMsg : Bytes := []
deriving DecidableEq, Repr

/-- A worker process; it runs as long as it has no exit. -/
structure Process where
  pid : Int
  exit : Option Exit := none
deriving DecidableEq, Repr

/-- Where `waitWorker` stands: before `Wait` returns, after it has taken the worker out of
the map, with the status it is going to store, after that, and when `doneCh` is closed. -/
inductive WaitPhase where
  | waiting
  | removed
  | decided (status : Status)
  | recorded
  | closed
deriving DecidableEq, Repr

/-- `runningWorker`. -/
structure Worker where
  process : Process
  stopRequested : Bool := false
  wait : WaitPhase := .waiting
deriving DecidableEq, Repr

/-- The status that `waitWorker` decides on. -/
def Worker.status (worker : Worker) (exit : Exit) : Status :=
  if worker.stopRequested then .stopped
  else if exit.code ≠ 0 || exit.failMsg ≠ [] then .failed
  else .succeeded

/-- What a call of `StartJob` brings with it for the row. -/
structure Call where
  profileID : Bytes := []
  profileKind : Bytes := []
  createdAt : Bytes
deriving DecidableEq, Repr

/-- Where a call of `StartJob` stands: before the insert, before the row is read back,
before the fork, with a process that the runner does not know yet, and before the three
updates. -/
inductive StartPhase where
  | create (call : Call)
  | fetch
  | launch
  | register (process : Process)
  | setPID (pid : Int)
  | markRunning
  | markFailed (message : Bytes)
  | returned
deriving DecidableEq, Repr

/-- Where a call of `StopJob` stands: before it asks the runner, waiting for a worker,
before it reads the row, and before its update. -/
inductive StopPhase where
  | lookup
  | await (worker : Nat)
  | get
  | mark
  | returned
deriving DecidableEq, Repr

/-- The id as `StartJob` is called with it; the row, and the worker that the map of the
runner has, of the id without its blanks; and all workers and calls so far. -/
structure State where
  id : Bytes
  row : Option Job
  registered : Option Nat := none
  workers : List Worker := []
  starts : List StartPhase := []
  stops : List StopPhase := []
deriving DecidableEq, Repr

/-- The id of the row. -/
def State.rowID (s : State) : Bytes := trimSpace s.id

/-- The runner, which has the id as it came, and the table know the job by the same id. -/
def State.sameID (s : State) : Bool := s.id == s.rowID

/-- Nothing goes on; a row may be left from before. -/
def State.idle (id : Bytes) (row : Option Job) : State where
  id := id
  row := row

/-- A call begins, or a call, a process or a waiting goroutine gets on. -/
inductive Event where
  | callStart (call : Call)
  | callStop
  | delete
  | start (i : Nat) (now : Bytes) (result : Except Bytes Int)
  | exitEarly (i : Nat) (exit : Exit)
  | exit (w : Nat) (exit : Exit)
  | wait (w : Nat) (now : Bytes) (succeeds : Bool)
  | stop (j : Nat) (now : Bytes) (succeeds : Bool)

/-! ### Steps -/

/-- The row of a new job; all callers ask for a pending one. -/
def Call.job (call : Call) (id : Bytes) : Job where
  id := id
  profileID := call.profileID
  profileKind := call.profileKind
  status := .pending
  createdAt := call.createdAt

/-- `UpdateStatus`, which may fail and may find no row. -/
def State.update (s : State) (succeeds : Bool) (change : Job → Job) : State :=
  { s with row := if succeeds then s.row.map change else s.row }

/-- A call of `StartJob` goes on in another phase. -/
def State.setStart (s : State) (i : Nat) (phase : StartPhase) : State :=
  { s with starts := s.starts.set i phase }

/-- A worker changes. -/
def State.setWorker (s : State) (w : Nat) (worker : Worker) : State :=
  { s with workers := s.workers.set w worker }

/-- A call of `StopJob` goes on in another phase. -/
def State.setStop (s : State) (j : Nat) (phase : StopPhase) : State :=
  { s with stops := s.stops.set j phase }

/-- `Create` inserts the row. -/
def State.insert (s : State) (call : Call) : State :=
  { s with row := some (call.job s.rowID) }

/-- `Start` enters the worker into the map, under the id as it came, and starts
`waitWorker`. -/
def State.enter (s : State) (process : Process) : State :=
  { s with
    registered := if s.sameID then some s.workers.length else s.registered
    workers := s.workers ++ [{ process }] }

/-- `waitWorker` takes the entry of its id out of the map. -/
def State.unregister (s : State) : State := { s with registered := none }

/-- A step of `StartJob`.  A result is an error, or a number that is the pid of the process
where one is started. -/
def startStep (s : State) (i : Nat) (now : Bytes) (result : Except Bytes Int) :
    StartPhase → Option State
  | .create call =>
    match result, s.row with
    | .ok _, none =>
      if s.rowID = [] then some (s.setStart i .returned)
      else some ((s.insert call).setStart i .fetch)
    | _, _ => some (s.setStart i .returned)
  | .fetch =>
    match result, s.row with
    | .ok _, some _ => some (s.setStart i .launch)
    | _, _ => some (s.setStart i .returned)
  | .launch =>
    match result with
    | .ok pid => some (s.setStart i (.register { pid }))
    | .error message => some (s.setStart i (.markFailed message))
  | .register process => some ((s.enter process).setStart i (.setPID process.pid))
  | .setPID pid =>
    match result with
    | .ok _ => some ((s.update true (Job.setPID pid)).setStart i .markRunning)
    | .error _ => some (s.setStart i .returned)
  | .markRunning =>
    some ((s.update result.isOk (Job.updateStatus now .running none [])).setStart i .returned)
  | .markFailed message =>
    some ((s.update result.isOk
      (Job.updateStatus now .failed none message)).setStart i .returned)
  | .returned => none

/-- A step of `waitWorker`, whose update is for the id as it came. -/
def waitStep (s : State) (w : Nat) (now : Bytes) (succeeds : Bool) (worker : Worker) :
    Option State :=
  match worker.process.exit, worker.wait with
  | some _, .waiting => some (s.unregister.setWorker w { worker with wait := .removed })
  | some exit, .removed =>
    some (s.setWorker w { worker with wait := .decided (worker.status exit) })
  | some exit, .decided status =>
    some ((s.update (succeeds && s.sameID) (Job.updateStatus now status (some exit.code)
      exit.failMsg)).setWorker w { worker with wait := .recorded })
  | some _, .recorded => some (s.setWorker w { worker with wait := .closed })
  | _, _ => none

/-- A step of `StopJob`. -/
def stopStep (s : State) (j : Nat) (now : Bytes) (succeeds : Bool) :
    StopPhase → Option State
  | .lookup =>
    match s.registered with
    | none => some (s.setStop j .get)
    | some w =>
      (s.workers[w]?).map fun worker =>
        (s.setWorker w { worker with stopRequested := true }).setStop j (.await w)
  | .await w =>
    match s.workers[w]? with
    | some worker => if worker.wait = .closed then some (s.setStop j .get) else none
    | none => none
  | .get =>
    match succeeds, s.row with
    | true, some job =>
      if job.status = .running || job.status = .pending then some (s.setStop j .mark)
      else some (s.setStop j .returned)
    | _, _ => some (s.setStop j .returned)
  | .mark =>
    some ((s.update succeeds (Job.updateStatus now .stopped none [])).setStop j .returned)
  | .returned => none

/-- One step. -/
def step : Event → State → Option State
  | .callStart call, s => some { s with starts := s.starts ++ [.create call] }
  | .callStop, s => some { s with stops := s.stops ++ [.lookup] }
  | .delete, s => some { s with row := none }
  | .start i now result, s => (s.starts[i]?).bind (startStep s i now result)
  | .exitEarly i exit, s =>
    match s.starts[i]? with
    | some (.register { pid, exit := none }) =>
      some (s.setStart i (.register { pid, exit := some exit }))
    | _ => none
  | .exit w exit, s =>
    match s.workers[w]? with
    | some { process := { pid, exit := none }, stopRequested, wait } =>
      some (s.setWorker w { process := { pid, exit := some exit }, stopRequested, wait })
    | _ => none
  | .wait w now succeeds, s => (s.workers[w]?).bind (waitStep s w now succeeds)
  | .stop j now succeeds, s => (s.stops[j]?).bind (stopStep s j now succeeds)

end Gossipper.Supervisor.Lifecycle
