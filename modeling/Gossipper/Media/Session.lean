/-
Module: Gossipper.Media.Session
Purpose: The media session of one call: the actions of the call on it, the
  background loops that they start, and the counter of sent packets, after
  `internal/media/media.go`, `pcap.go`, `mic_pipeline.go` and `dtmf.go` and the
  calls in `internal/engine/actions_exec.go`.
Trusted boundary: the mutex makes a critical section one step.  Whether a socket
  opens, a file loads or a key is accepted is given with the action; what is sent
  and when a loop ends is given by the events.  The relay of a TURN server, the
  recording and the counters other than that of the sent packets are left out.
Main exports: Session, Action, LoopPhase, Thread, State, Event, step, step_stepped
-/
import Gossipper.Lib.Run

namespace Gossipper.Media

open Transition Option

/-! ### The session -/

/-- The fields of `Session` under its mutex.  `stream` is the number of the start
whose `cancel`, `conn` and `rtcpConn` the session holds, and `sent` is
`stats.RTPPacketsSent`. -/
structure Session where
  stream : Option Nat
  running : Bool
  paused : Bool
  echoMode : Bool
  sent : Nat
deriving DecidableEq, Repr

namespace Session

/-- `NewSession`. -/
def new : Session where
  stream := none
  running := false
  paused := false
  echoMode := false
  sent := 0

/-- The critical section of `Stop`. -/
def stop (s : Session) : Session :=
  { s with stream := none, running := false, paused := false, echoMode := false }

/-- `Pause`. -/
def pause (s : Session) : Session :=
  if s.running then { s with paused := true } else s

/-- `Resume`. -/
def resume (s : Session) : Session :=
  if s.running then { s with paused := false } else s

/-- The critical section of a start that succeeds; the counters start again. -/
def publish (number : Nat) (echoMode : Bool) : Session where
  stream := some number
  running := true
  paused := false
  echoMode := echoMode
  sent := 0

/-- The critical section of a start whose SRTP contexts cannot be built: the fields
are taken back, the counters are not. -/
def publishFailed : Session where
  stream := none
  running := false
  paused := false
  echoMode := false
  sent := 0

/-- A packet is counted; the counter is a `uint32`. -/
def count (s : Session) : Session :=
  { s with sent := (s.sent + 1) % 2 ^ 32 }

end Session

/-! ### Actions, loops and the goroutine of the call -/

/-- The starts that send to the endpoint of the peer: `Start`, `StartPCAPReplay` and
`StartMicrophone`. -/
inductive StreamKind where
  | stream
  | replay
  | microphone
deriving DecidableEq, Repr

/-- How a start ends: refused before it stops the session, without a socket, without
SRTP contexts, or well. -/
inductive StartOutcome where
  | rejected
  | noSocket
  | srtpFailed
  | started
deriving DecidableEq, Repr

/-- How `SendDTMF` ends: refused before it stops the session, at once because there are
no digits, without a socket, in an error while it sends, or well. -/
inductive DtmfOutcome where
  | rejected
  | empty
  | noSocket
  | interrupted
  | sent
deriving DecidableEq, Repr

/-- An action of the call on its session; `StartEcho` needs a socket only. -/
inductive Action where
  | start (kind : StreamKind) (outcome : StartOutcome)
  | echo (opens : Bool)
  | pause
  | resume
  | stop
  | dtmf (outcome : DtmfOutcome)
deriving DecidableEq, Repr

namespace Action

/-- The action starts a stream. -/
def starts : Action → Bool
  | .start _ .started | .echo true => true
  | _ => false

/-- The action returns an error, which ends the call. -/
def fails : Action → Bool
  | .start _ outcome => outcome != .started
  | .echo opens => !opens
  | .dtmf outcome => outcome != .empty && outcome != .sent
  | .pause | .resume | .stop => false

end Action

/-- A loop sends until it returns; its deferred `Stop` first takes the fields of the
session and then closes what it took. -/
inductive LoopPhase where
  | running
  | exiting
  | closing (taken : Option Nat)
  | gone
deriving DecidableEq, Repr

/-- What follows a `Stop` that the goroutine of the call makes. -/
inductive Continuation where
  | opens (echoMode : Bool) (outcome : StartOutcome)
  | sends
  | returns
  | ends
deriving DecidableEq, Repr

/-- Where the goroutine of the call stands: between actions, behind the critical section
of `Stop`, before the socket is opened, before the loop is started, inside `SendDTMF`,
behind the snapshot at the end of the call, or at its end. -/
inductive Thread where
  | idle
  | closing (taken : Option Nat) (next : Continuation)
  | opening (echoMode : Bool) (outcome : StartOutcome)
  | spawning
  | sending
  | finishing
  | ended
deriving DecidableEq, Repr

/-- The session, the sockets that are open (by the number of their start), the actions
still to come, and the loops (by the number of their start).  `expected` is there for the
statements: the start that returned without an error and is not over yet. -/
structure State where
  session : Session
  sockets : List Nat
  script : List Action
  thread : Thread
  loops : List LoopPhase
  expected : Option Nat
deriving DecidableEq, Repr

/-- A call with its actions before it. -/
def State.init (script : List Action) : State where
  session := .new
  sockets := []
  script := script
  thread := .idle
  loops := []
  expected := none

/-- The goroutine of the call takes its next action or its next step, or the call ends;
a loop returns, runs its deferred `Stop` in two steps, or counts a packet; `SendDTMF`
counts a packet. -/
inductive Event where
  | begin
  | proceed
  | endCall
  | finish (number : Nat)
  | loopStop (number : Nat)
  | loopClose (number : Nat)
  | count (number : Nat)
  | countDtmf
deriving DecidableEq, Repr

namespace State

/-- The goroutine of the call enters `Stop`. -/
def enterStop (s : State) (next : Continuation) : State :=
  { s with
    session := s.session.stop
    thread := .closing s.session.stream next
    expected := none }

/-- The sockets that a `Stop` took are closed. -/
def close (s : State) (taken : Option Nat) : State :=
  { s with sockets := s.sockets.filter fun number => some number ≠ taken }

/-- A packet is counted. -/
def countPacket (s : State) : State :=
  { s with session := s.session.count }

/-- The beginning of an action. -/
def beginAction (s : State) : Action → State
  | .pause => { s with session := s.session.pause }
  | .resume => { s with session := s.session.resume }
  | .stop => s.enterStop .returns
  | .start _ .rejected => { s with expected := none }
  | .start _ outcome => s.enterStop (.opens false outcome)
  | .echo opens => s.enterStop (.opens true (if opens then .started else .noSocket))
  | .dtmf .rejected | .dtmf .empty => { s with expected := none }
  | .dtmf .noSocket => s.enterStop .returns
  | .dtmf .interrupted | .dtmf .sent => s.enterStop .sends

/-- The next action begins; an error of it ends the call, so nothing follows it. -/
def beginNext (s : State) (action : Action) (rest : List Action) : State :=
  { s with script := if action.fails then [] else rest }.beginAction action

/-- Where the goroutine goes on behind a `Stop`. -/
def continueWith (s : State) : Continuation → State
  | .opens echoMode outcome => { s with thread := .opening echoMode outcome }
  | .sends => { s with thread := .sending }
  | .returns => { s with thread := .idle }
  | .ends => { s with thread := .ended }

/-- The socket is opened and the fields are set, as far as the start gets. -/
def openStream (s : State) (echoMode : Bool) : StartOutcome → State
  | .started =>
    { s with
      session := .publish s.loops.length echoMode
      sockets := s.loops.length :: s.sockets
      thread := .spawning }
  | .srtpFailed => { s with session := .publishFailed, thread := .idle }
  | .noSocket | .rejected => { s with thread := .idle }

/-- The loop is started and the start returns. -/
def spawn (s : State) : State :=
  { s with
    loops := s.loops ++ [.running]
    expected := some s.loops.length
    thread := .idle }

/-- `SendDTMF` returns. -/
def endSending (s : State) : State :=
  { s with thread := .idle }

/-- The loop of a start returns; its deferred `Stop` is still to come. -/
def finishLoop (s : State) (number : Nat) : State :=
  { s with
    loops := s.loops.set number .exiting
    expected := if s.expected = some number then none else s.expected }

/-- The critical section of the deferred `Stop` of a loop. -/
def stopLoop (s : State) (number : Nat) : State :=
  { s with
    loops := s.loops.set number (.closing s.session.stream)
    session := s.session.stop }

/-- The end of the deferred `Stop` of a loop. -/
def closeLoop (s : State) (number : Nat) (taken : Option Nat) : State :=
  { s.close taken with loops := s.loops.set number .gone }

/-- The deferred function of `executeCall` has taken its snapshot of the counters; it
stops the session next. -/
def endCall (s : State) : State :=
  { s with expected := none, thread := .finishing }

end State

/-- One step of the goroutine of the call inside an action or at the end of the call. -/
def proceed (s : State) : Option State :=
  match s.thread with
  | .idle | .ended => none
  | .closing taken next => some ((s.close taken).continueWith next)
  | .opening echoMode outcome => some (s.openStream echoMode outcome)
  | .spawning => some s.spawn
  | .sending => some s.endSending
  | .finishing => some (s.enterStop .ends)

/-- One step; `none` when the event cannot happen. -/
def step (event : Event) (s : State) : Option State :=
  match event with
  | .begin =>
    match s.thread, s.script with
    | .idle, action :: rest => some (s.beginNext action rest)
    | _, _ => none
  | .proceed => proceed s
  | .endCall => if s.thread = .idle then some s.endCall else none
  | .finish number =>
    if s.loops[number]? = some .running then some (s.finishLoop number) else none
  | .loopStop number =>
    if s.loops[number]? = some .exiting then some (s.stopLoop number) else none
  | .loopClose number =>
    match s.loops[number]? with
    | some (.closing taken) => some (s.closeLoop number taken)
    | _ => none
  | .count number =>
    if s.loops[number]? = some .running then some s.countPacket else none
  | .countDtmf => if s.thread = .sending then some s.countPacket else none

/-! ### What a step can do -/

/-- Every step, with the condition under which it happens. -/
inductive Stepped (s : State) : Event → State → Prop where
  | begin {action : Action} {rest : List Action} : s.thread = .idle →
      s.script = action :: rest → Stepped s .begin (s.beginNext action rest)
  | close {taken : Option Nat} {next : Continuation} : s.thread = .closing taken next →
      Stepped s .proceed ((s.close taken).continueWith next)
  | opens {echoMode : Bool} {outcome : StartOutcome} :
      s.thread = .opening echoMode outcome →
      Stepped s .proceed (s.openStream echoMode outcome)
  | spawn : s.thread = .spawning → Stepped s .proceed s.spawn
  | endSending : s.thread = .sending → Stepped s .proceed s.endSending
  | stop : s.thread = .finishing → Stepped s .proceed (s.enterStop .ends)
  | endCall : s.thread = .idle → Stepped s .endCall s.endCall
  | finish {number : Nat} : s.loops[number]? = some .running →
      Stepped s (.finish number) (s.finishLoop number)
  | loopStop {number : Nat} : s.loops[number]? = some .exiting →
      Stepped s (.loopStop number) (s.stopLoop number)
  | loopClose {number : Nat} {taken : Option Nat} :
      s.loops[number]? = some (.closing taken) →
      Stepped s (.loopClose number) (s.closeLoop number taken)
  | count {number : Nat} : s.loops[number]? = some .running →
      Stepped s (.count number) s.countPacket
  | countDtmf : s.thread = .sending → Stepped s .countDtmf s.countPacket

theorem step_stepped {event s after} (stepped : step event s = some after) :
    Stepped s event after := by
  revert stepped
  fun_cases step event s
  case case3 =>
    fun_cases proceed s <;> rintro ⟨⟩
    · exact .close ‹_›
    · exact .opens ‹_›
    · exact .spawn ‹_›
    · exact .endSending ‹_›
    · exact .stop ‹_›
  all_goals rintro ⟨⟩
  · exact .begin ‹_› ‹_›
  · exact .endCall ‹_›
  · exact .finish ‹_›
  · exact .loopStop ‹_›
  · exact .loopClose ‹_›
  · exact .count ‹_›
  · exact .countDtmf ‹_›

end Gossipper.Media
