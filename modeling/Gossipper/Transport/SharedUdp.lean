/-
Module: Gossipper.Transport.SharedUdp
Purpose: The receiver loops of a shared UDP socket, the channel they merge into and
  `Close`, after `internal/transport/udp.go`.  The channel may be closed by any loop
  whose read fails and by `Close`, while other loops hold a packet they are about to
  send.
Trusted boundary: one event is what a goroutine does between two points where another
  one can run: a read, one `select`, the close of one socket, the close of the channel.
  `UDPConn.Close` returns after the reads in progress have ended, so a closed socket
  delivers no datagram.
Main exports: State, Event, step, Quiet, closesQuietly, never_sends_on_closed
-/
import Gossipper.Go.Bytes
import Gossipper.Lib.Run
import Gossipper.Lib.Threads

namespace Gossipper.Transport.SharedUdp

open Go Transition Option

def maxUDPSIPDatagram : Nat := 4096

def inboundChanDepth : Nat := 512

def maxInboundChan : Nat := 8192

def maxUDPReceivers : Nat := 16

/-- `maybeSingleReceiverOS` is the identity where `SO_REUSEPORT` is available; elsewhere it
is 1. -/
def clampReceivers (reusePort : Bool) (n : Int) : Nat :=
  let n : Int := if n < 1 then 1 else n
  let n : Int := if n > maxUDPReceivers then maxUDPReceivers else n
  if reusePort then n.toNat else 1

def autoReceiverCount (reusePort : Bool) (numCPU : Int) : Nat :=
  clampReceivers reusePort (if numCPU < 1 then 1 else numCPU)

def effectiveReceivers (reusePort : Bool) (numCPU requested : Int) : Nat :=
  clampReceivers reusePort
    (if requested ≤ 0 then (autoReceiverCount reusePort numCPU : Int) else requested)

def inboundChanDepthFor (receivers : Nat) : Nat :=
  let d := inboundChanDepth * receivers
  let d := if d > maxInboundChan then maxInboundChan else d
  if d < inboundChanDepth then inboundChanDepth else d

structure Packet where
  data : Bytes
  addr : String
deriving DecidableEq

/-- Where a receiver loop is.  `sending` and `resending` are before the outer and before
the inner `select`; `failed` is between a read error and `shutdownIncoming`. -/
inductive Phase where
  | reading
  | sending (packet : Packet)
  | resending (packet : Packet)
  | failed
  | returned
deriving DecidableEq

/-- A receiver loop with its socket. -/
structure Loop where
  phase : Phase
  connClosed : Bool
deriving DecidableEq

/-- Where the body of `closeOnce.Do` is. -/
inductive Closer where
  | notCalled
  | closing (next : Nat)
  | done
deriving DecidableEq

/-- `crashed` records a send on the closed channel, which ends the process. -/
structure State where
  loops : List Loop
  incoming : List Packet
  depth : Nat
  incomingClosed : Bool
  closer : Closer
  crashed : Bool
deriving DecidableEq

def State.initial (receivers : Nat) : State where
  loops := List.replicate receivers ⟨.reading, false⟩
  incoming := []
  depth := inboundChanDepthFor receivers
  incomingClosed := false
  closer := .notCalled
  crashed := false

/-- The socket after the listeners have been bound. -/
def newSharedUDPWithReceivers (reusePort : Bool) (numCPU requested : Int) : State :=
  .initial (effectiveReceivers reusePort numCPU requested)

/-- The first three come from outside: a datagram, a read error and the consumer of
`Receive()`. -/
inductive Event where
  | datagram (loop : Nat) (data : Bytes) (addr : Option String)
  | readError (loop : Nat)
  | receive
  | select (loop : Nat)
  | shutdown (loop : Nat)
  | close
  | closeConn
  | closeChannel
deriving DecidableEq

namespace State

def setLoop (s : State) (i : Nat) (loop : Loop) : State :=
  { s with loops := s.loops.set i loop }

/-- `incomingOnce` makes the second call do nothing. -/
def shutdownIncoming (s : State) : State :=
  { s with incomingClosed := true }

end State

/-- What `readLoop` does with a datagram: the buffer takes its first bytes only. -/
def onDatagram (data : Bytes) (addr : Option String) : Phase :=
  let n := min data.length maxUDPSIPDatagram
  if n = 0 ∨ n > maxUDPSIPDatagram then .reading
  else
    match addr with
    | none => .reading
    | some addr => .sending ⟨data.take n, addr⟩

/-- One `select` with a send and a default: a closed channel makes the send ready, and
taking it panics. -/
def selectSend (s : State) (i : Nat) (loop : Loop) (packet : Packet) (default : Phase) :
    State :=
  if s.incomingClosed then { s with crashed := true }
  else if s.incoming.length < s.depth then
    { s.setLoop i { loop with phase := .reading } with incoming := s.incoming ++ [packet] }
  else s.setLoop i { loop with phase := default }

/-- The step of one receiver loop. -/
def loopStep (s : State) (i : Nat) (loop : Loop) : Event → Option State
  | .datagram _ data addr =>
    match loop with
    | ⟨.reading, false⟩ => some (s.setLoop i ⟨onDatagram data addr, false⟩)
    | _ => none
  | .readError _ =>
    match loop.phase with
    | .reading => some (s.setLoop i { loop with phase := .failed })
    | _ => none
  | .select _ =>
    match loop.phase with
    | .sending packet => some (selectSend s i loop packet (.resending packet))
    | .resending packet => some (selectSend s i loop packet .reading)
    | _ => none
  | .shutdown _ =>
    match loop.phase with
    | .failed => some (s.setLoop i { loop with phase := .returned }).shutdownIncoming
    | _ => none
  | _ => none

/-- The step of the body of `Close`. -/
def closeStep (s : State) : Event → Option State
  | .close =>
    match s.closer with
    | .notCalled => some { s with closer := .closing 0 }
    | _ => none
  | .closeConn =>
    match s.closer with
    | .closing next =>
      match s.loops[next]? with
      | some loop =>
        some { s.setLoop next { loop with connClosed := true } with
          closer := .closing (next + 1) }
      | none => none
    | _ => none
  | .closeChannel =>
    match s.closer with
    | .closing next =>
      if next < s.loops.length then none
      else some { s.shutdownIncoming with closer := .done }
    | _ => none
  | _ => none

/-- `none` means that the event cannot happen in the state; after a crash nothing can. -/
def step (event : Event) (s : State) : Option State :=
  if s.crashed then none
  else
    match event with
    | .datagram i _ _ | .readError i | .select i | .shutdown i =>
      (s.loops[i]?).bind fun loop => loopStep s i loop event
    | .receive =>
      match s.incoming with
      | [] => none
      | _ :: rest => some { s with incoming := rest }
    | .close | .closeConn | .closeChannel => closeStep s event

/-- The loop cannot come to a send any more: its read has failed, or is bound to fail. -/
def Loop.quiet (loop : Loop) : Bool :=
  match loop.phase with
  | .failed | .returned => true
  | .reading => loop.connClosed
  | .sending _ | .resending _ => false

def State.Quiet (s : State) : Prop :=
  ∀ loop ∈ s.loops, loop.quiet = true

instance (s : State) : Decidable s.Quiet :=
  inferInstanceAs (Decidable (∀ loop ∈ s.loops, loop.quiet = true))

/-- The condition on a step that closes the channel. -/
def closesQuietly (event : Event) (s : State) : Bool :=
  match event with
  | .shutdown _ | .closeChannel => decide s.Quiet
  | _ => true

/-- What the condition keeps true. -/
structure Safe (s : State) : Prop where
  quiet : s.incomingClosed = true → s.Quiet
  running : s.crashed = false

theorem safe_initial (receivers : Nat) : Safe (State.initial receivers) where
  quiet := by
    intro closed
    cases closed
  running := rfl

namespace State.Quiet

variable {s : State} {i : Nat} {loop : Loop}

theorem setLoop (quiet : s.Quiet) (moved : loop.quiet = true) : (s.setLoop i loop).Quiet :=
  Threads.forall_move quiet moved

theorem getElem (quiet : s.Quiet) (found : s.loops[i]? = some loop) : loop.quiet = true :=
  quiet loop (List.mem_of_getElem? found)

end State.Quiet

namespace Safe

variable {s : State} {i : Nat} {loop : Loop}

theorem setLoop (safe : Safe s) (moved : s.incomingClosed = true → loop.quiet = true) :
    Safe (s.setLoop i loop) where
  quiet := fun closed => (safe.quiet closed).setLoop (moved closed)
  running := safe.running

/-- A select of a loop that holds a packet: the channel is open, since the loop is not
quiet. -/
theorem selectSend {packet default} (safe : Safe s)
    (found : s.loops[i]? = some loop) (holds : loop.quiet = false) :
    Safe (selectSend s i loop packet default) := by
  have isOpen : s.incomingClosed = false := by
    apply Bool.eq_false_iff.mpr
    intro closed
    have quiet := (safe.quiet closed).getElem found
    rw [holds] at quiet
    cases quiet
  have notClosed : ¬ s.incomingClosed = true := by
    rw [isOpen]
    exact Bool.false_ne_true
  rw [SharedUdp.selectSend, if_neg notClosed]
  split
  · exact { quiet := fun closed => absurd closed notClosed, running := safe.running }
  · exact safe.setLoop fun closed => absurd closed notClosed

variable {event : Event} {after : State}

theorem loopStep (safe : Safe s)
    (found : s.loops[i]? = some loop) (quietly : closesQuietly event s = true)
    (stepped : loopStep s i loop event = some after) : Safe after := by
  obtain ⟨phase, connClosed⟩ := loop
  cases event with
  | datagram _ data addr =>
    simp only [SharedUdp.loopStep] at stepped
    split at stepped
    · rename_i reading
      cases reading
      cases stepped
      -- an open socket is read, so the channel cannot have been closed
      exact safe.setLoop fun closed => absurd ((safe.quiet closed).getElem found) (by decide)
    · cases stepped
  | readError _ =>
    cases phase <;> cases stepped
    exact safe.setLoop fun _ => rfl
  | select _ =>
    cases phase <;> cases stepped
    · exact safe.selectSend found rfl
    · exact safe.selectSend found rfl
  | shutdown _ =>
    cases phase <;> cases stepped
    have allQuiet : s.Quiet := of_decide_eq_true quietly
    exact { quiet := fun _ => allQuiet.setLoop rfl, running := safe.running }
  | receive | close | closeConn | closeChannel => cases stepped

theorem quiet_connClosed (quiet : loop.quiet = true) :
    ({ loop with connClosed := true } : Loop).quiet = true := by
  obtain ⟨phase, connClosed⟩ := loop
  cases phase with
  | reading | failed | returned => rfl
  | sending | resending => exact quiet

theorem closeStep (safe : Safe s)
    (quietly : closesQuietly event s = true) (stepped : closeStep s event = some after) :
    Safe after := by
  revert stepped
  fun_cases SharedUdp.closeStep s event <;> rintro ⟨⟩
  case case1 => exact { quiet := safe.quiet, running := safe.running }
  case case3 found =>
    exact {
      quiet := fun closed =>
        (safe.quiet closed).setLoop
          (quiet_connClosed ((safe.quiet closed).getElem found))
      running := safe.running }
  case case7 =>
    exact { quiet := fun _ => of_decide_eq_true quietly, running := safe.running }

theorem step (safe : Safe s)
    (quietly : closesQuietly event s = true) (stepped : step event s = some after) :
    Safe after := by
  unfold SharedUdp.step at stepped
  rw [if_neg (by rw [safe.running]; exact Bool.false_ne_true)] at stepped
  cases event with
  | datagram | readError | select | shutdown =>
    obtain ⟨loop, found, moved⟩ := bind_eq_some_iff.mp stepped
    exact safe.loopStep found quietly moved
  | receive =>
    simp only at stepped
    split at stepped
    · cases stepped
    · cases stepped
      exact { quiet := safe.quiet, running := safe.running }
  | close | closeConn | closeChannel => exact safe.closeStep quietly stepped

end Safe

/-- No loop sends on the closed channel, in any interleaving in which the channel is
closed only while every loop is quiet. -/
theorem never_sends_on_closed (reusePort : Bool) (numCPU requested : Int)
    {events : List Event} {s : State}
    (run : Guarded step (fun event before => closesQuietly event before = true)
      (newSharedUDPWithReceivers reusePort numCPU requested) events s) :
    s.crashed = false := by
  have safe : Safe s := by
    apply run.invariant (safe_initial _)
    intro event before after quietly stepped safe
    exact safe.step quietly stepped
  exact safe.running

/-- Two loops; a datagram is sent on, the consumer takes it, and `Close` closes the channel
after both reads have failed. -/
def quietClose : List Event :=
  [.datagram 0 [1] (some "peer"), .select 0, .receive, .close, .closeConn, .closeConn,
    .readError 0, .readError 1, .closeChannel, .shutdown 0, .shutdown 1]

theorem quietClose_never_sends :
    ∃ s, Guarded step (fun event before => closesQuietly event before = true)
        (newSharedUDPWithReceivers true 8 2) quietClose s ∧
      s.incomingClosed = true ∧ s.crashed = false := by
  have run : Guarded step (fun event before => closesQuietly event before = true)
      (newSharedUDPWithReceivers true 8 2) quietClose _ := Guarded.of_isSome (by decide)
  exact ⟨_, run, by decide, never_sends_on_closed true 8 2 run⟩

/-- With one loop, `Close` runs between its read and its send.  With two, the read error of
one closes the channel under the other, whose socket is still open. -/
theorem sends_on_closed :
    (∃ s, Run step (newSharedUDPWithReceivers true 1 0)
        [.datagram 0 [1] (some "peer"), .close, .closeConn, .closeChannel, .select 0] s ∧
      s.crashed = true) ∧
    (∃ s, Run step (newSharedUDPWithReceivers true 8 2)
        [.readError 0, .shutdown 0, .datagram 1 [1] (some "peer"), .select 1] s ∧
      s.crashed = true) :=
  ⟨⟨_, Run.of_isSome (by decide), by decide⟩, ⟨_, Run.of_isSome (by decide), by decide⟩⟩

end Gossipper.Transport.SharedUdp
