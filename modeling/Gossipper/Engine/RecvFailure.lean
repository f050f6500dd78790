/-
Module: Gossipper.Engine.RecvFailure
Purpose: A recv whose wait ends because the transport failed, and what becomes of the call
  and of its count: the error branch behind `waitForMatch` in `executeCall`, over runs with
  any number of calls, after `internal/engine/engine.go`.
Trusted boundary: as in `Gossipper.Engine.Call` and `Gossipper.Engine.Accounting`.
Main exports: TransportFailure, step_transportFailure, State.CallFailed, transportFailure_fails_iff
-/
import Gossipper.Engine.Accounting

namespace Gossipper.Engine.Accounting

open Go Transition Scenario List Option

/-- An error that is not for `_unexp.main` skips an optional recv and ends the call otherwise. -/
theorem waitFailed_of_ne (script : Call.Script) (cmd : Command) (s : Call.State)
    (notToMain : error ≠ .unexpectedToMain) :
    Call.waitFailed script cmd s error =
      if cmd.optional then s.goto (s.index + 1) else s.finish (.failed (.wait error)) := by
  cases error with
  | unexpectedToMain => exact absurd rfl notToMain
  | optionalMismatch | unexpectedFinal | deadline | canceled | transport => rfl

section Failures

variable [CaseTables]

/-- The wait for `cmd` ends because of the transport: the mailbox is closed or the receive
function breaks, its context is canceled, or a retransmission cannot be sent. -/
inductive TransportFailure (script : Call.Script) (cmd : Command) (s : Call.State) :
    Call.Event → Call.WaitError → Prop where
  | broken {retrans : Int} {seen sendOk taken : Bool} {after : Call.After} :
      s.phase = .waiting retrans seen → script.commands[s.index]? = some cmd →
        Call.nextSource cmd s = .network →
        TransportFailure script cmd s (.poll .broken sendOk after taken) .transport
  | canceled {retrans : Int} {seen sendOk taken : Bool} {after : Call.After} :
      s.phase = .waiting retrans seen → script.commands[s.index]? = some cmd →
        Call.nextSource cmd s = .network →
        TransportFailure script cmd s (.poll .canceled sendOk after taken) .canceled
  | unsent {retrans : Int} {taken : Bool} {after : Call.After} :
      s.phase = .waiting retrans false → script.commands[s.index]? = some cmd →
        Call.nextSource cmd s = .network → 0 < retrans → s.last.payload ≠ [] →
        TransportFailure script cmd s (.poll (.deadline false) false after taken) .transport

variable {error : Call.WaitError}

/-- What the executor does when the transport fails. -/
theorem step_transportFailure (failure : TransportFailure script cmd s event error) :
    ∃ tried : Call.State, Call.step script event s = some
      (if cmd.optional then tried.goto (tried.index + 1)
        else tried.finish (.failed (.wait error))) := by
  cases failure with
  | broken waits atCommand fromNetwork | canceled waits atCommand fromNetwork =>
    refine ⟨s, ?_⟩
    rw [← waitFailed_of_ne script _ _ Call.WaitError.noConfusion]
    simp [Call.step, waits, atCommand, Call.poll, fromNetwork]
  | unsent waits atCommand fromNetwork isOn hasPayload =>
    refine ⟨s.pass .retransmit s.last.payload, ?_⟩
    rw [← waitFailed_of_ne script _ _ Call.WaitError.noConfusion]
    simp only [Call.step, waits, atCommand, Call.poll, fromNetwork, Call.onDeadline]
    rw [if_pos ⟨isOn, trivial, hasPayload, trivial⟩, if_neg Bool.false_ne_true]

/-- The call ended with an error of a wait, and is on its way to `FinishCall(false)` or was
counted there. -/
def Executed.FailedWith (error : Call.WaitError) (call : Executed) : Prop :=
  match call.phase with
  | .starting => False
  | .running state => state.phase = .ended (.failed (.wait error)) ∧ call.finishes = []
  | .leaving success _ _ => success = false ∧ call.finishes = []
  | .classified success => success = false ∧ call.finishes = []
  | .returned => call.failed = true

/-- A call that failed stays failed. -/
theorem Executed.FailedWith.callStep {cfg call new event stats after}
    (stepped : Accounting.callStep cfg stats call event = some (after, new))
    (failed : call.FailedWith error) : new.FailedWith error := by
  obtain ⟨input, phase, finishes⟩ := call
  cases phase with
  | starting => exact failed.elim
  | running state =>
    obtain ⟨ended, unfinished⟩ := failed
    cases event with
    | command _ event =>
      simp only [Accounting.callStep, Call.step, ended, map_none] at stepped
      cases stepped
    | leave _ cause saw =>
      simp only [Accounting.callStep, ended] at stepped
      cases stepped
      exact ⟨rfl, unfinished⟩
    | start | setUp | classify | finish => cases stepped
  | leaving success runErr saw =>
    cases event with
    | classify =>
      cases stepped
      exact failed
    | start | setUp | command | leave | finish => cases stepped
  | classified success =>
    obtain ⟨rfl, unfinished⟩ := failed
    cases event with
    | finish =>
      cases stepped
      simp only at unfinished
      simp [Executed.FailedWith, Executed.failed, unfinished, nil_append]
    | start | setUp | command | leave | classify => cases stepped
  | returned =>
    cases event with
    | start | setUp | command | leave | classify | finish => cases stepped

/-- The call of a number failed with the error, and the failed calls are counted. -/
structure State.CallFailed (s : State) (i : Nat) (error : Call.WaitError) : Prop where
  failed : ∃ call, s.calls[i]? = some call ∧ call.FailedWith error
  counted : s.stats.failedCalls = s.calls.countP Executed.failed

theorem failed_step {cfg : Config} {i : Nat} {event : Event}
    {before after : State} (stepped : step cfg event before = some after)
    (failed : ∃ call, before.calls[i]? = some call ∧ call.FailedWith error) :
    ∃ call, after.calls[i]? = some call ∧ call.FailedWith error := by
  cases step_stepped stepped with
  | start input =>
    obtain ⟨call, found, isFailed⟩ := failed
    obtain ⟨inside, -⟩ := List.getElem?_eq_some_iff.mp found
    exact ⟨call, (getElem?_append_left inside).trans found, isFailed⟩
  | move found moved => exact Threads.at_move found (Executed.FailedWith.callStep moved) failed

/-- A transport failure ends the call with its error, and the call is counted as failed however
the run goes on, exactly when the recv was mandatory. -/
theorem transportFailure_fails_iff {cfg : Config} {events : List Event} {s next : State} {i : Nat}
    {input : Input} {state : Call.State} {finishes : List Bool} {cmd : Command}
    {event : Call.Event} {error : Call.WaitError}
    (run : Run (step cfg) .initial events s)
    (found : s.calls[i]? = some ⟨input, .running state, finishes⟩)
    (failure : TransportFailure input.script cmd state event error)
    (stepped : step cfg (.command i event) s = some next) :
    (∀ after final, Run (step cfg) next after final → final.CallFailed i error) ↔
      cmd.optional = false := by
  obtain ⟨tried, ends⟩ := step_transportFailure failure
  have unfinished : finishes = [] :=
    ((accounted_of_run run).sound _ (mem_of_getElem? found)).2
  obtain ⟨inside, -⟩ := List.getElem?_eq_some_iff.mp found
  have moved := stepped
  simp only [step, found, bind_some, callStep, ends, map_some,
    Option.some.injEq] at moved
  have here : next.calls[i]? = some ⟨input, .running (if cmd.optional
      then tried.goto (tried.index + 1) else tried.finish (.failed (.wait error))), finishes⟩ := by
    rw [← moved]
    exact getElem?_set_self inside
  constructor
  · intro always
    obtain ⟨call, atEnd, failed⟩ := (always [] next (.nil _)).failed
    rw [here] at atEnd
    cases atEnd
    cases isOptional : cmd.optional with
    | false => rfl
    | true =>
      rw [isOptional, if_pos rfl] at failed
      cases failed.1
  · intro mandatory after final rest
    rw [mandatory, if_neg Bool.false_ne_true] at here
    refine ⟨?_, ?_⟩
    · have failed : ∃ call, next.calls[i]? = some call ∧ call.FailedWith error :=
        ⟨_, here, rfl, unfinished⟩
      exact rest.invariant failed fun _ _ _ stepped failed => failed_step stepped failed
    · exact (accounted_of_run (run.append (.cons stepped rest))).failed

end Failures

section Examples

attribute [local instance] CaseTables.asciiOnly

/-- A recv of a 200. -/
def recvOK (optional : Bool) : Command where
  type := .recv
  filter := { recvReq := [], recvResp := ascii "200", recvReqRegex := none }
  optional := optional
  retrans := 0
  condExec := []
  nextIndex := none
  conditional := false

/-- A scenario that only waits for a 200. -/
def recvScript (optional : Bool) : Call.Script where
  commands := [recvOK optional]
  unexpMain := none
  udp := true

/-- The call has reached the recv. -/
def reached (optional : Bool) : List Event :=
  [.start ⟨recvScript optional, false, none⟩, .setUp 0, .command 0 .wait]

def closed : Call.Event :=
  .poll .broken true .next false

/-- A call that waits. -/
def waitingCall (optional : Bool) : Executed where
  input := ⟨recvScript optional, false, none⟩
  phase := .running { Call.State.initial with phase := .waiting 0 false }
  finishes := []

theorem reached_waiting (optional : Bool) :
    exec (step ⟨false⟩) (reached optional) .initial =
      some { stats := Collector.new.startCall, calls := [waitingCall optional] } := rfl

theorem closed_fails (optional : Bool) :
    TransportFailure (recvScript optional) (recvOK optional)
      { Call.State.initial with phase := .waiting 0 false } closed .transport := by
  refine .broken rfl rfl ?_
  cases optional with
  | false | true => rfl

theorem mandatory_closed_fails :
    ∃ s next, Run (step ⟨false⟩) .initial (reached false) s ∧
      step ⟨false⟩ (.command 0 closed) s = some next ∧
      ∀ after final, Run (step ⟨false⟩) next after final → final.CallFailed 0 .transport := by
  have run := Run.of_exec (reached_waiting false)
  refine ⟨_, _, run, rfl, ?_⟩
  exact (transportFailure_fails_iff run rfl (closed_fails false) rfl).mpr rfl

/-- The mailbox is closed under an optional recv: the call goes on and is counted as a success. -/
theorem optional_closed_succeeds :
    TransportFailure (recvScript true) (recvOK true)
        { Call.State.initial with phase := .waiting 0 false } closed .transport ∧
      (exec (step ⟨false⟩) (reached true ++ [.command 0 closed, .command 0 .complete,
        .leave 0 timeout false, .classify 0, .finish 0]) .initial).map State.stats =
        some ⟨1, 1, 0, 0, []⟩ :=
  ⟨closed_fails true, by decide⟩

end Examples

end Gossipper.Engine.Accounting
