/-
Module: Gossipper.Engine.Accounting
Purpose: How calls are counted: `StartCall` at the head of `executeCall`, the media
  set-up, the body of the call and the deferred function with `AddFailureClass` and
  `FinishCall`, after `internal/engine/engine.go`, `call_media.go` and
  `internal/stats/stats.go`.  Any number of calls run side by side.
Trusted boundary: the counters do not overflow; durations, media counters and logs are
  left out.  The error a failing body returns and its `sawUnexpectedSIP` are data of the
  event that leaves the body.
Main exports: Failure, classifyCallFailure, Collector, Input, accounted_of_run, calls_conserved_iff
-/
import Gossipper.Engine.Call
import Gossipper.Lib.Threads

namespace Gossipper.Engine.Accounting

open Go Transition List Option

/-- An error, as `classifyCallFailure` looks at it: what `errors.Is` and `errors.As` find
in its chain, and its text. -/
structure Failure where
  unexpectedFinalAbort : Bool
  deadlineExceeded : Bool
  canceled : Bool
  mailboxClosed : Bool
  eof : Bool
  netError : Bool
  text : Bytes
deriving DecidableEq

/-- `Collector`, as far as calls are counted.  `failureClasses` is the map as a list. -/
structure Collector where
  totalCalls : Int
  successCalls : Int
  failedCalls : Int
  activeCalls : Int
  failureClasses : List (Bytes × Int)
deriving DecidableEq

/-- `m[name]++`. -/
def increment (name : Bytes) : List (Bytes × Int) → List (Bytes × Int)
  | [] => [(name, 1)]
  | (key, count) :: rest =>
    if key = name then (key, count + 1) :: rest else (key, count) :: increment name rest

/-- The sum of the values of a map. -/
def counted (classes : List (Bytes × Int)) : Int :=
  (classes.map Prod.snd).sum

theorem counted_increment (name : Bytes) (classes : List (Bytes × Int)) :
    counted (increment name classes) = counted classes + 1 := by
  induction classes with
  | nil => rfl
  | cons entry rest ih =>
    obtain ⟨key, count⟩ := entry
    simp only [increment]
    split
    · simp only [counted, map_cons, sum_cons]
      omega
    · simp only [counted, map_cons, sum_cons] at ih ⊢
      omega

namespace Collector

/-- `New`. -/
def new : Collector where
  totalCalls := 0
  successCalls := 0
  failedCalls := 0
  activeCalls := 0
  failureClasses := []

def startCall (c : Collector) : Collector :=
  { c with totalCalls := c.totalCalls + 1, activeCalls := c.activeCalls + 1 }

def finishCall (c : Collector) (success : Bool) : Collector :=
  let c := { c with activeCalls := c.activeCalls - 1 }
  if success then { c with successCalls := c.successCalls + 1 }
  else { c with failedCalls := c.failedCalls + 1 }

def addFailureClass (c : Collector) (name : Bytes) : Collector :=
  let name := trimSpace name
  if name = [] then c else { c with failureClasses := increment name c.failureClasses }

end Collector

/-- What a call is given: its scenario, the `webrtc` attribute of it, and what
`NewWebRTCBridge` would answer. -/
structure Input where
  script : Call.Script
  webRTC : Bool
  bridge : Option Failure

structure Config where
  webRTCMedia : Bool

/-- `newCallMedia`: the error, if there is one. -/
def newCallMedia (cfg : Config) (input : Input) : Option Failure :=
  if input.webRTC || cfg.webRTCMedia then input.bridge else none

/-- Where a call is inside `executeCall`.  `starting` is between `StartCall` and the media
set-up; `leaving` is the head of the deferred function, `classified` is before its
`FinishCall`. -/
inductive Phase where
  | starting
  | running (state : Call.State)
  | leaving (success : Bool) (runErr : Option Failure) (sawUnexpectedSIP : Bool)
  | classified (success : Bool)
  | returned

def Phase.isReturned : Phase → Bool
  | .returned => true
  | _ => false

/-- The media set-up: its error is returned before the deferred function is registered. -/
def setUpPhase (cfg : Config) (input : Input) : Phase :=
  match newCallMedia cfg input with
  | some _ => .returned
  | none => .running .initial

/-- A call that was counted as started; `finishes` are the arguments of the calls of
`FinishCall` made for it. -/
structure Executed where
  input : Input
  phase : Phase
  finishes : List Bool

structure State where
  stats : Collector
  calls : List Executed

def State.initial : State where
  stats := .new
  calls := []

inductive Event where
  | start (input : Input)
  | setUp (call : Nat)
  | command (call : Nat) (event : Call.Event)
  | leave (call : Nat) (error : Failure) (sawUnexpectedSIP : Bool)
  | classify (call : Nat)
  | finish (call : Nat)

section Calls

variable [CaseTables]

def classifyCallFailure (err : Option Failure) (sawUnexpectedSIP : Bool) : Bytes :=
  match err with
  | none => []
  | some err =>
    if err.unexpectedFinalAbort then ascii "unexpected_sip"
    else if err.deadlineExceeded then
      if sawUnexpectedSIP then ascii "unexpected_sip" else ascii "timeout"
    else if err.canceled then ascii "cancelled"
    else if err.mailboxClosed then ascii "transport_error"
    else if err.eof then ascii "transport_error"
    else if err.netError then ascii "transport_error"
    else
      let errText := toLower err.text
      if contains errText (ascii "empty sip message") || contains errText (ascii "invalid sip")
          || contains errText (ascii "malformed sip") then ascii "parse_error"
      else if contains errText (ascii "missing call-id") || contains errText (ascii "malformed")
        then ascii "parse_error"
      else ascii "scenario_error"

/-- The step of one call: its new phase, the statistics, and the `FinishCall` it makes. -/
def callStep (cfg : Config) (stats : Collector) (call : Executed) :
    Event → Option (Collector × Executed)
  | .setUp _ =>
    match call.phase with
    | .starting =>
      some (stats, { call with phase := setUpPhase cfg call.input })
    | _ => none
  | .command _ event =>
    match call.phase with
    | .running state =>
      (Call.step call.input.script event state).map fun next =>
        (stats, { call with phase := .running next })
    | _ => none
  | .leave _ error saw =>
    match call.phase with
    | .running state =>
      match state.phase with
      | .ended .success => some (stats, { call with phase := .leaving true none saw })
      | .ended (.failed _) =>
        some (stats, { call with phase := .leaving false (some error) saw })
      | _ => none
    | _ => none
  | .classify _ =>
    match call.phase with
    | .leaving success runErr saw =>
      let stats :=
        if success then stats else stats.addFailureClass (classifyCallFailure runErr saw)
      some (stats, { call with phase := .classified success })
    | _ => none
  | .finish _ =>
    match call.phase with
    | .classified success =>
      some (stats.finishCall success,
        { call with phase := .returned, finishes := call.finishes ++ [success] })
    | _ => none
  | .start _ => none

/-- `none` means that the event cannot happen in the state. -/
def step (cfg : Config) (event : Event) (s : State) : Option State :=
  match event with
  | .start input =>
    some { stats := s.stats.startCall, calls := s.calls ++ [⟨input, .starting, []⟩] }
  | .setUp i | .command i _ | .leave i _ _ | .classify i | .finish i =>
    (s.calls[i]?).bind fun call =>
      (callStep cfg s.stats call event).map fun (stats, call) =>
        { stats, calls := s.calls.set i call }

theorem classifyCallFailure_solid (err : Failure) (saw : Bool) :
    trimSpace (classifyCallFailure (some err) saw) ≠ [] := by
  have letter {name : Bytes} (member : 0x65 ∈ name) : trimSpace name ≠ [] :=
    trimSpace_ne_nil member (by decide) (by decide)
  simp only [classifyCallFailure]
  repeat' split
  all_goals exact letter (by decide)

end Calls

/-- The media of the call can be set up: it needs no WebRTC bridge, or gets one. -/
def mediaAvailable (cfg : Config) (input : Input) : Bool :=
  !(input.webRTC || cfg.webRTCMedia) || input.bridge.isNone

variable {cfg : Config}

theorem newCallMedia_eq_none_iff :
    newCallMedia cfg input = none ↔ mediaAvailable cfg input = true := by
  unfold newCallMedia mediaAvailable
  cases input.webRTC || cfg.webRTCMedia with
  | true | false => simp

namespace Executed

def succeeded (call : Executed) : Bool :=
  call.finishes == [true]

def failed (call : Executed) : Bool :=
  call.finishes == [false]

/-- The call has been given a failure class. -/
def hasClass (call : Executed) : Bool :=
  match call.phase with
  | .classified success => !success
  | _ => call.failed

/-- What is known of a call at each point. -/
def Sound (cfg : Config) (call : Executed) : Prop :=
  match call.phase with
  | .starting => call.finishes = []
  | .running _ => mediaAvailable cfg call.input = true ∧ call.finishes = []
  | .leaving success runErr _ =>
    mediaAvailable cfg call.input = true ∧ call.finishes = [] ∧
      (success = false → runErr.isSome = true)
  | .classified _ => mediaAvailable cfg call.input = true ∧ call.finishes = []
  | .returned =>
    if mediaAvailable cfg call.input then call.finishes = [true] ∨ call.finishes = [false]
    else call.finishes = []

end Executed

/-- The counters are those of the calls. -/
structure Accounted (cfg : Config) (s : State) : Prop where
  total : s.stats.totalCalls = s.calls.length
  success : s.stats.successCalls = s.calls.countP Executed.succeeded
  failed : s.stats.failedCalls = s.calls.countP Executed.failed
  active : s.stats.activeCalls =
    s.stats.totalCalls - s.stats.successCalls - s.stats.failedCalls
  classes : counted s.stats.failureClasses = s.calls.countP Executed.hasClass
  sound : ∀ call ∈ s.calls, call.Sound cfg

/-- How the number of calls with a property changes when one of them moves. -/
theorem countP_toInt {calls : List Executed} {i : Nat} {old : Executed} (p : Executed → Bool)
    (new : Executed) (found : calls[i]? = some old) :
    ((calls.set i new).countP p : Int) + (p old).toInt = calls.countP p + (p new).toInt := by
  have moved := Threads.countP_move p new found
  cases here : p old <;> cases there : p new <;>
    simp only [here, there, Bool.toInt, cond_true, cond_false, if_true, Bool.false_eq_true,
      if_false] at moved ⊢ <;> omega

namespace Accounted

variable {cfg : Config} {s : State} {i : Nat} {old : Executed}

theorem initial : Accounted cfg .initial where
  total := rfl
  success := rfl
  failed := rfl
  active := rfl
  classes := rfl
  sound := by
    intro call member
    cases member

theorem start (accounted : Accounted cfg s) (input : Input) :
    Accounted cfg { stats := s.stats.startCall, calls := s.calls ++ [⟨input, .starting, []⟩] } where
  total := by simp [Collector.startCall, accounted.total]
  success := by simp [Collector.startCall, accounted.success, Executed.succeeded]
  failed := by simp [Collector.startCall, accounted.failed, Executed.failed]
  active := by
    have active := accounted.active
    simp only [Collector.startCall]
    omega
  classes := by
    simp [Collector.startCall, accounted.classes, Executed.hasClass, Executed.failed]
  sound := by
    intro call member
    rcases mem_append.mp member with other | here
    · exact accounted.sound call other
    · rw [mem_singleton.mp here]
      exact rfl

/-- A call moves, and the counters change by what that call counts for. -/
theorem move (accounted : Accounted cfg s) (found : s.calls[i]? = some old) {stats : Collector}
    {new : Executed} (total : stats.totalCalls = s.stats.totalCalls)
    (success : stats.successCalls + old.succeeded.toInt =
      s.stats.successCalls + new.succeeded.toInt)
    (failed : stats.failedCalls + old.failed.toInt = s.stats.failedCalls + new.failed.toInt)
    (active : stats.activeCalls = stats.totalCalls - stats.successCalls - stats.failedCalls)
    (classes : counted stats.failureClasses + old.hasClass.toInt =
      counted s.stats.failureClasses + new.hasClass.toInt)
    (sound : new.Sound cfg) :
    Accounted cfg { stats, calls := s.calls.set i new } where
  total := by
    rw [length_set, total]
    exact accounted.total
  success := by
    have moved := countP_toInt Executed.succeeded new found
    have before := accounted.success
    simp only
    omega
  failed := by
    have moved := countP_toInt Executed.failed new found
    have before := accounted.failed
    simp only
    omega
  active := active
  classes := by
    have moved := countP_toInt Executed.hasClass new found
    have before := accounted.classes
    simp only
    omega
  sound := Threads.forall_move accounted.sound sound

/-- A call moves without a new count. -/
theorem keep (accounted : Accounted cfg s) (found : s.calls[i]? = some old)
    (finishes : new.finishes = old.finishes) (hasClass : new.hasClass = old.hasClass)
    (sound : new.Sound cfg) : Accounted cfg { s with calls := s.calls.set i new } := by
  have succeeded : new.succeeded = old.succeeded := by rw [Executed.succeeded, finishes]; rfl
  have failed : new.failed = old.failed := by rw [Executed.failed, finishes]; rfl
  exact accounted.move found rfl (by rw [succeeded]) (by rw [failed]) accounted.active
    (by rw [hasClass]) sound

section Call

variable {input : Input} {finishes : List Bool}

theorem setUp (accounted : Accounted cfg s)
    (found : s.calls[i]? = some ⟨input, .starting, finishes⟩) :
    Accounted cfg { s with
      calls := s.calls.set i ⟨input, setUpPhase cfg input, finishes⟩ } := by
  have unfinished : finishes = [] := accounted.sound _ (mem_of_getElem? found)
  subst unfinished
  cases media : newCallMedia cfg input with
  | none =>
    have available := newCallMedia_eq_none_iff.mp media
    simp only [setUpPhase, media]
    exact accounted.keep found rfl rfl ⟨available, rfl⟩
  | some error =>
    have unavailable : ¬ mediaAvailable cfg input = true := by
      rw [← newCallMedia_eq_none_iff, media]
      exact some_ne_none error
    simp only [setUpPhase, media]
    refine accounted.keep found rfl rfl ?_
    simp [Executed.Sound, if_neg unavailable]

theorem finish {success} (accounted : Accounted cfg s)
    (found : s.calls[i]? = some ⟨input, .classified success, finishes⟩) :
    Accounted cfg
      { stats := s.stats.finishCall success
        calls := s.calls.set i ⟨input, .returned, finishes ++ [success]⟩ } := by
  obtain ⟨available, unfinished⟩ := accounted.sound _ (mem_of_getElem? found)
  cases unfinished
  have active := accounted.active
  have sound : (⟨input, .returned, [success]⟩ : Executed).Sound cfg := by
    simp only [Executed.Sound, available, if_true]
    cases success with
    | false => exact .inr rfl
    | true => exact .inl rfl
  cases success with
  | false =>
    refine accounted.move found rfl rfl (Int.add_zero _) ?_ rfl sound
    simp only [Collector.finishCall, Bool.false_eq_true, if_false]
    omega
  | true =>
    refine accounted.move found rfl (Int.add_zero _) rfl ?_ rfl sound
    simp only [Collector.finishCall, if_true]
    omega

variable [CaseTables]

theorem classify {success runErr saw}
    (accounted : Accounted cfg s)
    (found : s.calls[i]? = some ⟨input, .leaving success runErr saw, finishes⟩) :
    Accounted cfg
      { stats :=
          if success then s.stats
          else s.stats.addFailureClass (classifyCallFailure runErr saw)
        calls := s.calls.set i ⟨input, .classified success, finishes⟩ } := by
  obtain ⟨available, unfinished, hasError⟩ := accounted.sound _ (mem_of_getElem? found)
  cases unfinished
  cases success with
  | true => exact accounted.keep found rfl rfl ⟨available, rfl⟩
  | false =>
    obtain ⟨error, known⟩ := isSome_iff_exists.mp (hasError rfl)
    cases known
    have solid := classifyCallFailure_solid error saw
    simp only [Bool.false_eq_true, if_false, Collector.addFailureClass, if_neg solid]
    refine accounted.move found rfl rfl rfl accounted.active ?_ ⟨available, rfl⟩
    rw [counted_increment]
    exact Int.add_zero _

theorem callStep {event call new stats}
    (accounted : Accounted cfg s) (found : s.calls[i]? = some call)
    (stepped : callStep cfg s.stats call event = some (stats, new)) :
    Accounted cfg { stats, calls := s.calls.set i new } := by
  obtain ⟨input, phase, finishes⟩ := call
  have sound := accounted.sound _ (mem_of_getElem? found)
  cases event with
  | start => cases stepped
  | setUp _ =>
    cases phase with
    | starting =>
      cases stepped
      exact accounted.setUp found
    | running | leaving | classified | returned => cases stepped
  | command _ event =>
    cases phase with
    | running state =>
      obtain ⟨next, _, moved⟩ := map_eq_some_iff.mp stepped
      cases moved
      exact accounted.keep found rfl rfl sound
    | starting | leaving | classified | returned => cases stepped
  | leave _ error saw =>
    cases phase with
    | running state =>
      obtain ⟨available, unfinished⟩ := sound
      simp only [Accounting.callStep] at stepped
      split at stepped
      · cases stepped
        exact accounted.keep found rfl rfl ⟨available, unfinished, Bool.noConfusion⟩
      · cases stepped
        exact accounted.keep found rfl rfl ⟨available, unfinished, fun _ => rfl⟩
      · cases stepped
    | starting | leaving | classified | returned => cases stepped
  | classify _ =>
    cases phase with
    | leaving success runErr saw =>
      cases stepped
      exact accounted.classify found
    | starting | running | classified | returned => cases stepped
  | finish _ =>
    cases phase with
    | classified success =>
      cases stepped
      exact accounted.finish found
    | starting | running | leaving | returned => cases stepped

end Call

end Accounted

/-- Every call was finished once, and the counters add up. -/
structure State.Conserved (s : State) : Prop where
  finishedOnce : ∀ call ∈ s.calls, call.finishes.length = 1
  total : s.stats.totalCalls = s.stats.successCalls + s.stats.failedCalls
  active : s.stats.activeCalls = 0
  classes : counted s.stats.failureClasses = s.stats.failedCalls

/-- When every call has returned and its media could be set up, each was finished once as
successful or as failed. -/
theorem Accounted.conserved (accounted : Accounted cfg s)
    (idle : ∀ call ∈ s.calls, call.phase.isReturned = true)
    (available : ∀ call ∈ s.calls, mediaAvailable cfg call.input = true) : s.Conserved := by
  have finished : ∀ call ∈ s.calls,
      call.finishes = [true] ∨ call.finishes = [false] := by
    intro call member
    have sound := accounted.sound call member
    have returned := idle call member
    have media := available call member
    obtain ⟨input, phase, finishes⟩ := call
    cases phase with
    | returned => simpa only [Executed.Sound, media, if_true] using sound
    | starting | running | leaving | classified => cases returned
  have partitioned : s.calls.length =
      s.calls.countP Executed.succeeded + s.calls.countP Executed.failed := by
    rw [length_eq_countP_add_countP Executed.succeeded]
    congr 1
    apply countP_congr
    intro call member
    rcases finished call member with once | once <;>
      simp [Executed.succeeded, Executed.failed, once]
  have classified : s.calls.countP Executed.hasClass = s.calls.countP Executed.failed := by
    apply countP_congr
    intro call member
    have returned := idle call member
    obtain ⟨input, phase, finishes⟩ := call
    cases phase with
    | returned => exact Iff.rfl
    | starting | running | leaving | classified => cases returned
  have total := accounted.total
  have success := accounted.success
  have failed := accounted.failed
  have active := accounted.active
  have classes := accounted.classes
  exact {
    finishedOnce := by
      intro call member
      rcases finished call member with once | once <;> rw [once] <;> rfl
    total := by omega
    active := by omega
    classes := by omega }

/-- A call that returned from a failed media set-up was never finished. -/
theorem Accounted.unfinished (accounted : Accounted cfg s)
    (member : call ∈ s.calls) (returned : call.phase.isReturned = true)
    (unavailable : mediaAvailable cfg call.input = false) : call.finishes = [] := by
  have sound := accounted.sound call member
  obtain ⟨input, phase, finishes⟩ := call
  cases phase with
  | returned => simpa only [Executed.Sound, unavailable, Bool.false_eq_true, if_false] using sound
  | starting | running | leaving | classified => cases returned

section Runs

variable [CaseTables] {cfg : Config} {s : State}

/-- What a step does: a call starts, or one call moves. -/
inductive Stepped (cfg : Config) (s : State) : Event → State → Prop where
  | start (input : Input) :
      Stepped cfg s (.start input)
        { stats := s.stats.startCall, calls := s.calls ++ [⟨input, .starting, []⟩] }
  | move {event : Event} {i : Nat} {call new : Executed} {stats : Collector} :
      s.calls[i]? = some call → callStep cfg s.stats call event = some (stats, new) →
        Stepped cfg s event { stats, calls := s.calls.set i new }

theorem step_stepped {event after} (stepped : step cfg event s = some after) :
    Stepped cfg s event after := by
  have moves {i : Nat}
      (moved : (s.calls[i]?.bind fun call => (callStep cfg s.stats call event).map fun result =>
        ({ stats := result.1, calls := s.calls.set i result.2 } : State)) = some after) :
      Stepped cfg s event after := by
    obtain ⟨call, found, rest⟩ := bind_eq_some_iff.mp moved
    obtain ⟨⟨stats, new⟩, called, rfl⟩ := map_eq_some_iff.mp rest
    exact .move found called
  cases event with
  | start input =>
    cases stepped
    exact .start input
  | setUp | command | leave | classify | finish => exact moves stepped

theorem accounted_of_run {events} (run : Run (step cfg) .initial events s) :
    Accounted cfg s := by
  apply run.invariant .initial
  intro event before after stepped accounted
  cases step_stepped stepped with
  | start input => exact accounted.start input
  | move found moved => exact accounted.callStep found moved

/-- The calls that were started. -/
def started (events : List Event) : List Input :=
  events.filterMap fun
    | .start input => some input
    | _ => none

theorem callStep_input {event call new stats after}
    (stepped : callStep cfg stats call event = some (after, new)) : new.input = call.input := by
  obtain ⟨input, phase, finishes⟩ := call
  cases event with
  | start => cases stepped
  | setUp | classify | finish =>
    cases phase <;> cases stepped
    rfl
  | command =>
    cases phase with
    | running =>
      obtain ⟨_, _, moved⟩ := map_eq_some_iff.mp stepped
      cases moved
      rfl
    | starting | leaving | classified | returned => cases stepped
  | leave =>
    cases phase with
    | running =>
      simp only [callStep] at stepped
      split at stepped
      · cases stepped
        rfl
      · cases stepped
        rfl
      · cases stepped
    | starting | leaving | classified | returned => cases stepped

theorem inputs_of_run {events before}
    (run : Run (step cfg) before events s) :
    s.calls.map Executed.input = before.calls.map Executed.input ++ started events := by
  induction run with
  | nil => simp [started]
  | @cons before next final event events stepped _ ih =>
    rw [ih]
    cases step_stepped stepped with
    | start input => simp [started]
    | move found moved =>
      rw [Threads.map_same Executed.input found (callStep_input moved)]
      cases event with
      | start => cases moved
      | setUp | command | leave | classify | finish => rfl

/-- When no call is running, the calls are conserved exactly when no call was started whose
WebRTC media could not be set up. -/
theorem calls_conserved_iff {events : List Event} (run : Run (step cfg) .initial events s)
    (idle : ∀ call ∈ s.calls, call.phase.isReturned = true) :
    s.Conserved ↔ ∀ input ∈ started events, mediaAvailable cfg input = true := by
  have accounted := accounted_of_run run
  have inputs : s.calls.map Executed.input = started events := inputs_of_run run
  rw [← inputs, List.forall_mem_map]
  constructor
  · intro conserved call member
    by_contra unavailable
    have unfinished := accounted.unfinished member (idle call member)
      (Bool.eq_false_iff.mpr unavailable)
    have once := conserved.finishedOnce call member
    rw [unfinished] at once
    cases once
  · exact accounted.conserved idle

end Runs

section Examples

attribute [local instance] CaseTables.asciiOnly

/-- A scenario without commands, and one that waits for a 200. -/
def emptyScript : Call.Script where
  commands := []
  unexpMain := none
  udp := true

def waitingScript : Call.Script where
  commands := [{
    type := .recv
    filter := { recvReq := [], recvResp := ascii "200", recvReqRegex := none }
    optional := false
    retrans := 0
    condExec := []
    nextIndex := none
    conditional := false }]
  unexpMain := none
  udp := true

def timeout : Failure where
  unexpectedFinalAbort := false
  deadlineExceeded := true
  canceled := false
  mailboxClosed := false
  eof := false
  netError := false
  text := ascii "context deadline exceeded"

def noICE : Failure where
  unexpectedFinalAbort := false
  deadlineExceeded := false
  canceled := false
  mailboxClosed := false
  eof := false
  netError := false
  text := ascii "webrtc: bad ICE server"

/-- One call runs to its end while another one times out. -/
def twoCalls : List Event :=
  [.start ⟨emptyScript, false, some noICE⟩, .start ⟨waitingScript, true, none⟩, .setUp 0, .setUp 1,
    .command 1 .wait, .command 0 .complete, .leave 0 timeout false, .command 1 .expire,
    .classify 0, .leave 1 timeout false, .classify 1, .finish 1, .finish 0]

theorem twoCalls_conserved :
    ∃ s, Run (step ⟨false⟩) .initial twoCalls s ∧ s.calls.length = 2 ∧
      s.stats.failedCalls = 1 ∧ s.Conserved := by
  have run : Run (step ⟨false⟩) .initial twoCalls _ := Run.of_isSome (by decide)
  exact ⟨_, run, by decide, by decide,
    (calls_conserved_iff run (by decide)).mpr (by decide)⟩

/-- The bridge of the only call fails: it stays active for ever. -/
theorem failedSetUp_not_conserved :
    ∃ s, Run (step ⟨false⟩) .initial [.start ⟨emptyScript, true, some noICE⟩, .setUp 0] s ∧
      (∀ call ∈ s.calls, call.phase.isReturned = true) ∧
      s.stats.totalCalls = 1 ∧ s.stats.successCalls = 0 ∧ s.stats.failedCalls = 0 ∧
      s.stats.activeCalls = 1 :=
  ⟨_, Run.of_isSome (by decide), by decide, by decide, by decide, by decide, by decide⟩

/-- In the middle of a run: a call is counted from its start, finished at most once, active until
then, and classified before it counts as failed. -/
structure Counted (events : List Event) (s : State) : Prop where
  total : s.stats.totalCalls = (started events).length
  once : ∀ call ∈ s.calls, call.finishes.length ≤ 1
  active : s.stats.activeCalls = s.calls.countP (·.finishes.isEmpty)
  classes : s.stats.failedCalls ≤ counted s.stats.failureClasses

theorem counted_of_run [CaseTables] {cfg : Config} {events : List Event} {s : State}
    (run : Run (step cfg) .initial events s) : Counted events s := by
  obtain ⟨total, success, failed, active, classes, sound⟩ := accounted_of_run run
  have finishes : ∀ call ∈ s.calls, call.finishes ∈ [[], [true], [false]] ∧
      (call.failed = true → call.hasClass = true) := by
    intro call member
    have known := sound call member
    rw [Executed.Sound] at known
    grind [Executed.failed, Executed.hasClass]
  have partitioned : s.calls.length = s.calls.countP Executed.succeeded +
      s.calls.countP Executed.failed + s.calls.countP (·.finishes.isEmpty) := by
    generalize s.calls = calls at finishes
    induction calls with
    | nil => rfl
    | cons call rest ih =>
      rw [forall_mem_cons] at finishes
      simp only [countP_cons, length_cons, ih finishes.2, Executed.succeeded, Executed.failed]
      grind
  have classed := countP_mono_left fun call member => (finishes call member).2
  have inputs : s.calls.map _ = started events := inputs_of_run run
  refine ⟨by rw [total, ← inputs, length_map], fun call member => ?_, by omega, by omega⟩
  grind [finishes call member]

/-- Both calls are under way. -/
theorem twoCalls_counted : ∃ s, Run (step ⟨false⟩) .initial (twoCalls.take 8) s ∧
    s.stats.activeCalls = 2 ∧ Counted (twoCalls.take 8) s :=
  ⟨_, .of_isSome (by decide), by decide, counted_of_run (.of_isSome (by decide))⟩

end Examples

end Gossipper.Engine.Accounting
