/-
Module: Gossipper.Engine.Client
Purpose: The client loops of `internal/engine/engine.go`, `tls_transport.go` and
  `ws_transport.go`: the concurrency semaphore, the call goroutines with their
  sockets, `SetMaxConcurrent`, and the one `remoteAddr` variable that the setdest actions
  of all calls share.
Trusted boundary: each event is one atomic action of the loop, of a call or of the
  control interface; what a call does between its sends and setdest actions is left
  open, and so is what the resolver answers.
Main exports: Config, State, Event, step, openSockets_le_maxSockets, send_destination_iff
-/
import Gossipper.Go.Text
import Gossipper.Lib.Run
import Gossipper.Lib.Threads

namespace Gossipper.Engine.Client

open Go Transition

/-- The client transports `runClient` knows. -/
inductive Transport where
  | u1
  | un
  | ui
  | t1
  | tn
  | l1
  | ln
  | w1
  | wn
  | ws1
  | wsn
deriving DecidableEq, Repr

namespace Transport

def text : Transport → String
  | .u1 => "u1"
  | .un => "un"
  | .ui => "ui"
  | .t1 => "t1"
  | .tn => "tn"
  | .l1 => "l1"
  | .ln => "ln"
  | .w1 => "w1"
  | .wn => "wn"
  | .ws1 => "ws1"
  | .wsn => "wsn"

/-- The loop opens a socket for each call. -/
def perCall : Transport → Bool
  | .un | .tn | .ln | .wn | .wsn => true
  | .u1 | .ui | .t1 | .l1 | .w1 | .ws1 => false

/-- What the loop stores in `perSocketMode` and passes to `callConcurrencyLimit`. -/
def perSocketMode : Transport → Bool
  | .u1 | .t1 | .ln | .wn | .wsn => true
  | .un | .ui | .tn | .l1 | .w1 | .ws1 => false

/-- The loop gives its calls a `setDestination` function. -/
def hasSetDestination : Transport → Bool
  | .u1 | .ui => true
  | _ => false

end Transport

/-- An address a datagram can go to. -/
structure Addr where
  ip : Bytes
  port : Nat
deriving DecidableEq

/-- What the client loops read.  `remoteAddr` is the configured remote as the
resolver answers it when the loop starts. -/
structure Config where
  transport : Transport
  totalCalls : Int
  unlimitedCalls : Bool
  maxConcurrent : Int
  maxSockets : Int
  localIP : Bytes
  uiSourceIPs : List Bytes
  remoteAddr : Addr

namespace Config

/-- The checks of `Parse` on the limits. -/
def parse (cfg : Config) : Except String Unit :=
  if cfg.maxConcurrent ≤ 0 then .error "max concurrent calls must be greater than zero"
  else if cfg.maxSockets < 0 then
    .error "max_socket must be greater than or equal to zero"
  else if 0 < cfg.maxSockets ∧ cfg.transport ∉ [.un, .tn, .ln] then
    .error "max_socket is only supported with un, tn, or ln transport"
  else .ok ()

/-- `callConcurrencyLimit`. -/
def callConcurrencyLimit (cfg : Config) (perCallSocket : Bool) : Int :=
  let limit := if cfg.maxConcurrent ≤ 0 then 1 else cfg.maxConcurrent
  if perCallSocket ∧ 0 < cfg.maxSockets ∧ cfg.maxSockets < limit then cfg.maxSockets
  else limit

/-- `clientShouldSpawnAnother`. -/
def clientShouldSpawnAnother (cfg : Config) (callIndex : Nat) : Bool :=
  cfg.unlimitedCalls || callIndex ≤ cfg.totalCalls

/-- `sourceIPForCall`. -/
def sourceIPForCall (cfg : Config) (callNumber : Nat) : Bytes :=
  (cfg.uiSourceIPs[(callNumber - 1) % cfg.uiSourceIPs.length]?).getD cfg.localIP

end Config

/-! ### The semaphore -/

/-- `dynSemaphore`. -/
structure Semaphore where
  active : Int
  limit : Int
deriving DecidableEq

namespace Semaphore

/-- `Resize`. -/
def resize (sem : Semaphore) (limit : Int) : Semaphore :=
  { sem with limit := if limit < 1 then 1 else limit }

/-- `Acquire`; `none` is a caller that waits. -/
def acquire (sem : Semaphore) : Option Semaphore :=
  if sem.limit ≤ sem.active then none else some { sem with active := sem.active + 1 }

/-- `Release`. -/
def release (sem : Semaphore) : Semaphore :=
  { sem with active := sem.active - 1 }

theorem resize_limit_le (sem : Semaphore) {limit bound} (small : limit ≤ bound)
    (positive : 0 < bound) : (sem.resize limit).limit ≤ bound := by
  unfold resize
  split
  · exact positive
  · exact small

end Semaphore

/-! ### Calls -/

/-- Where the goroutine of a call is.  In the per-call modes its socket is open
from `running` to `returning`; the slot of the semaphore is its own until `ended`. -/
inductive Phase where
  | acquired
  | running
  | returning
  | closed
  | ended
deriving DecidableEq, Repr

namespace Phase

def hasSocket : Phase → Bool
  | .running | .returning => true
  | _ => false

def holdsSlot : Phase → Bool
  | .ended => false
  | _ => true

end Phase

/-- A datagram on its way. -/
structure Datagram where
  call : Nat
  source : Bytes
  dest : Addr
  payload : Bytes

/-- A setdest action after its texts are rendered; `resolved` is what
`net.ResolveUDPAddr` answers for the host and the port. -/
structure SetDest where
  protocol : Bytes
  host : Bytes
  port : Nat
  resolved : Option Addr

/-- Why a setdest action ends its call. -/
inductive SetDestError where
  | unsupported
  | incompatible (requested current : Bytes)
  | unresolved (host : Bytes) (port : Nat)
deriving DecidableEq

/-- The client loop and its calls.  Call `i` of the list has the number `i + 1`;
`remoteAddr` is the one variable of that name that the goroutines of a loop
share. -/
structure State where
  sem : Semaphore
  perSocketMode : Bool
  scheduling : Bool
  calls : List Phase
  remoteAddr : Addr
  sent : List Datagram

/-- The loop is about to start its first call. -/
def State.initial (cfg : Config) : State where
  sem := Semaphore.resize ⟨0, if cfg.maxConcurrent < 1 then 1 else cfg.maxConcurrent⟩
    (cfg.callConcurrencyLimit cfg.transport.perSocketMode)
  perSocketMode := cfg.transport.perSocketMode
  scheduling := true
  calls := []
  remoteAddr := cfg.remoteAddr
  sent := []

/-- One action.  `dial` is where the goroutine opens its socket, if the transport
has one for each call. -/
inductive Event where
  | spawn
  | stop
  | dial (call : Nat) (connected : Bool)
  | send (call : Nat) (payload : Bytes)
  | setDest (call : Nat) (action : SetDest)
  | finish (call : Nat)
  | close (call : Nat)
  | release (call : Nat)
  | setMaxConcurrent (n : Int)

/-- `SetMaxConcurrent`. -/
def setMaxConcurrent (cfg : Config) (s : State) (n : Int) : State :=
  let n := if n < 1 then 1 else n
  let limit :=
    if s.perSocketMode ∧ 0 < cfg.maxSockets ∧ cfg.maxSockets < n then cfg.maxSockets else n
  { s with sem := s.sem.resize limit }

namespace State

/-- A goroutine goes on. -/
def move (s : State) (call : Nat) (phase : Phase) : State :=
  { s with calls := s.calls.set call phase }

/-- The per-call sockets that are open. -/
def openSockets (cfg : Config) (s : State) : Nat :=
  if cfg.transport.perCall then s.calls.countP Phase.hasSocket else 0

end State

section Step

variable [CaseTables]

/-- `normalizeTransportForSetDest`. -/
def normalizeTransportForSetDest (transport : Bytes) : Bytes :=
  let name := toLower (trimSpace transport)
  if [ascii "u1", ascii "un", ascii "ui", ascii "udp"].contains name then ascii "udp"
  else if [ascii "t1", ascii "tn", ascii "tcp"].contains name then ascii "tcp"
  else if [ascii "l1", ascii "ln", ascii "tls"].contains name then ascii "tls"
  else if [ascii "w1", ascii "wn", ascii "ws"].contains name then ascii "ws"
  else if [ascii "ws1", ascii "wsn", ascii "wss"].contains name then ascii "wss"
  else name

/-- `applySetDestination` with the `setDestination` of the loop: the address that
becomes `remoteAddr`. -/
def applySetDestination (cfg : Config) (action : SetDest) : Except SetDestError Addr :=
  if cfg.transport.hasSetDestination = false then .error .unsupported
  else
    let requested := normalizeTransportForSetDest action.protocol
    let current := normalizeTransportForSetDest (ascii cfg.transport.text)
    if action.protocol ≠ [] ∧ requested ≠ current then
      .error (.incompatible action.protocol current)
    else
      match action.resolved with
      | none => .error (.unresolved action.host action.port)
      | some addr => .ok addr

/-- One action; `none` means that it is not its turn. -/
def step (cfg : Config) : Event → State → Option State
  | .spawn, s =>
    if s.scheduling ∧ cfg.clientShouldSpawnAnother (s.calls.length + 1) then
      s.sem.acquire.map fun sem => { s with sem, calls := s.calls ++ [.acquired] }
    else none
  | .stop, s => some { s with scheduling := false }
  | .dial call connected, s =>
    if s.calls[call]? = some .acquired then
      some (s.move call (if connected then .running else .closed))
    else none
  | .send call payload, s =>
    if s.calls[call]? = some .running then
      let source :=
        if cfg.transport = .ui then cfg.sourceIPForCall (call + 1) else cfg.localIP
      some { s with sent := s.sent ++ [⟨call, source, s.remoteAddr, payload⟩] }
    else none
  | .setDest call action, s =>
    if s.calls[call]? = some .running then
      match applySetDestination cfg action with
      -- The error ends the call.
      | .error _ => some (s.move call .returning)
      | .ok addr => some { s with remoteAddr := addr }
    else none
  | .finish call, s =>
    if s.calls[call]? = some .running then some (s.move call .returning) else none
  | .close call, s =>
    if s.calls[call]? = some .returning then some (s.move call .closed) else none
  | .release call, s =>
    if s.calls[call]? = some .closed then
      some { s.move call .ended with sem := s.sem.release }
    else none
  | .setMaxConcurrent n, s => some (setMaxConcurrent cfg s n)

end Step

/-! ### The socket bound -/

section Bound

variable {cfg : Config} {event : Event} {s next : State}

/-- The limits the semaphore may get: in the loop that stores `perSocketMode` they
are cut to `maxSockets`, in the others they have to be small from the start. -/
def Config.allows (cfg : Config) (limit : Int) : Bool :=
  cfg.transport = .ln || limit ≤ cfg.maxSockets

/-- The control interface sets no limit that `maxSockets` does not cover. -/
def allowed (cfg : Config) : Event → Bool
  | .setMaxConcurrent n => cfg.allows n
  | _ => true

/-- A limit as `callConcurrencyLimit` and `SetMaxConcurrent` cut it. -/
theorem cut_le {mode : Bool} {limit sockets : Int} (positive : 0 < sockets)
    (small : mode = true ∨ limit ≤ sockets) :
    (if mode ∧ 0 < sockets ∧ sockets < limit then sockets else limit) ≤ sockets := by
  split
  · exact Int.le_refl _
  · rename_i uncut
    rcases small with rfl | small
    · exact Int.not_lt.mp fun larger => uncut ⟨rfl, positive, larger⟩
    · exact small

theorem allows_cases (small : cfg.allows limit) :
    cfg.transport.perSocketMode = true ∨ limit ≤ cfg.maxSockets := by
  simp only [Config.allows, Bool.or_eq_true, decide_eq_true_eq] at small
  rcases small with tls | small
  · rw [tls]
    exact .inl rfl
  · exact .inr small

/-- Every call that has not ended holds a slot, and there are at most `maxSockets`
slots. -/
structure Limited (cfg : Config) (s : State) : Prop where
  mode : s.perSocketMode = cfg.transport.perSocketMode
  counted : s.sem.active = s.calls.countP Phase.holdsSlot
  limit : s.sem.limit ≤ cfg.maxSockets
  active : s.sem.active ≤ cfg.maxSockets

namespace Limited

section

variable (limited : Limited cfg s)

include limited

theorem move (before : s.calls[call]? = some old) (same : new.holdsSlot = old.holdsSlot) :
    Limited cfg (s.move call new) := by
  refine ⟨limited.mode, ?_, limited.limit, limited.active⟩
  simp only [State.move]
  rw [Threads.countP_same _ before same]
  exact limited.counted

theorem release (before : s.calls[call]? = some .closed) :
    Limited cfg { s.move call .ended with sem := s.sem.release } := by
  have moved := Threads.countP_move Phase.holdsSlot .ended before
  simp only [Phase.holdsSlot, if_true, Bool.false_eq_true, if_false] at moved
  have counted := limited.counted
  have active := limited.active
  refine ⟨limited.mode, ?_, limited.limit, ?_⟩
  · simp only [State.move, Semaphore.release]
    omega
  · simp only [Semaphore.release]
    omega

theorem spawn (acquired : s.sem.acquire = some sem) :
    Limited cfg { s with sem, calls := s.calls ++ [.acquired] } := by
  unfold Semaphore.acquire at acquired
  obtain ⟨free, ⟨⟩⟩ := of_refusal acquired
  have counted := limited.counted
  have limit := limited.limit
  refine ⟨limited.mode, ?_, limit, ?_⟩
  · simp only [List.countP_append, List.countP_singleton, Phase.holdsSlot, if_true]
    omega
  · simp only
    omega

theorem resized {n : Int} (positive : 0 < cfg.maxSockets)
    (small : cfg.allows n) : Limited cfg (setMaxConcurrent cfg s n) := by
  refine ⟨limited.mode, limited.counted, ?_, limited.active⟩
  refine Semaphore.resize_limit_le _ (cut_le positive ?_) positive
  rw [limited.mode]
  rcases allows_cases small with mode | small
  · exact .inl mode
  · refine .inr ?_
    split
    · exact positive
    · exact small

theorem step [CaseTables] (positive : 0 < cfg.maxSockets)
    (guarded : allowed cfg event) (stepped : step cfg event s = some next) :
    Limited cfg next := by
  cases event with
  | spawn =>
    simp only [Client.step] at stepped
    obtain ⟨_, stepped⟩ := of_guard stepped
    obtain ⟨sem, acquired, rfl⟩ := Option.map_eq_some_iff.mp stepped
    exact limited.spawn acquired
  | stop =>
    cases stepped
    exact ⟨limited.mode, limited.counted, limited.limit, limited.active⟩
  | dial call connected =>
    simp only [Client.step] at stepped
    obtain ⟨before, ⟨⟩⟩ := of_guard stepped
    exact limited.move before (by cases connected <;> rfl)
  | send call payload =>
    simp only [Client.step] at stepped
    obtain ⟨_, ⟨⟩⟩ := of_guard stepped
    exact ⟨limited.mode, limited.counted, limited.limit, limited.active⟩
  | setDest call action =>
    simp only [Client.step] at stepped
    obtain ⟨before, stepped⟩ := of_guard stepped
    split at stepped
    · cases stepped
      exact limited.move before rfl
    · cases stepped
      exact ⟨limited.mode, limited.counted, limited.limit, limited.active⟩
  | finish call | close call =>
    simp only [Client.step] at stepped
    obtain ⟨before, ⟨⟩⟩ := of_guard stepped
    exact limited.move before rfl
  | release call =>
    simp only [Client.step] at stepped
    obtain ⟨before, ⟨⟩⟩ := of_guard stepped
    exact limited.release before
  | setMaxConcurrent n =>
    cases stepped
    exact limited.resized positive guarded

theorem openSockets_le : s.openSockets cfg ≤ cfg.maxSockets := by
  have within : s.calls.countP Phase.hasSocket ≤ s.calls.countP Phase.holdsSlot := by
    apply List.countP_mono_left
    intro phase _ socket
    cases phase <;> first | rfl | cases socket
  have counted := limited.counted
  have active := limited.active
  unfold State.openSockets
  split <;> omega

end

end Limited

theorem Limited.initial (accepted : cfg.parse = .ok ()) (positive : 0 < cfg.maxSockets)
    (sized : cfg.allows cfg.maxConcurrent) : Limited cfg (.initial cfg) := by
  refine ⟨rfl, rfl, Semaphore.resize_limit_le _ ?_ positive, Int.le_of_lt positive⟩
  have concurrent : ¬ cfg.maxConcurrent ≤ 0 := by
    intro none
    simp [Config.parse, none] at accepted
  simp only [Config.callConcurrencyLimit, if_neg concurrent]
  exact cut_le positive (allows_cases sized)

/-- With `max_socket` set, no more sockets are open than it says, in every run whose
limits are those of the `ln` loop or are themselves within `max_socket`. -/
theorem openSockets_le_maxSockets [CaseTables] {cfg : Config} (accepted : cfg.parse = .ok ())
    (positive : 0 < cfg.maxSockets) (sized : cfg.allows cfg.maxConcurrent)
    {events : List Event} {s : State}
    (run : Guarded (step cfg) (fun event _ => allowed cfg event = true) (.initial cfg) events s) :
    s.openSockets cfg ≤ cfg.maxSockets := by
  have limited : Limited cfg s :=
    run.invariant (Limited.initial accepted positive sized)
      fun _ _ _ guarded stepped ok => ok.step positive guarded stepped
  exact limited.openSockets_le

end Bound

section Concrete

attribute [local instance] CaseTables.asciiOnly

/-- Two calls and at most one socket, with the transport as a parameter. -/
def oneSocket (transport : Transport) : Config :=
  ⟨transport, 2, false, 10, 1, [], [], ⟨[], 5060⟩⟩

/-- With `ln` the second call has to wait until the first has given its slot back,
also after the limit was raised. -/
theorem tlsSockets_bounded :
    ∃ s, Guarded (step (oneSocket .ln)) (fun event _ => allowed (oneSocket .ln) event = true)
        (.initial (oneSocket .ln))
        [.spawn, .dial 0 true, .setMaxConcurrent 10, .finish 0, .close 0, .release 0, .spawn,
          .dial 1 true] s ∧
      s.openSockets (oneSocket .ln) ≤ (oneSocket .ln).maxSockets := by
  have possible : (exec (restrict (step (oneSocket .ln)) fun event _ => allowed (oneSocket .ln) event)
      [.spawn, .dial 0 true, .setMaxConcurrent 10, .finish 0, .close 0, .release 0, .spawn,
        .dial 1 true] (.initial (oneSocket .ln))).isSome := by decide
  have run := Guarded.of_isSome possible
  exact ⟨_, run, openSockets_le_maxSockets rfl (by decide) (by decide) run⟩

/-- With `un` two sockets are open although `max_socket` is one. -/
theorem udpSockets_unbounded :
    (oneSocket .un).parse = .ok () ∧
      (exec (step (oneSocket .un)) [.spawn, .spawn, .dial 0 true, .dial 1 true]
        (.initial (oneSocket .un))).map (State.openSockets (oneSocket .un)) = some 2 := by
  exact ⟨rfl, by decide⟩

end Concrete

end Gossipper.Engine.Client

namespace Gossipper.Engine.Client

open Go Transition

section Destination

variable [CaseTables] {cfg : Config}

/-- The call and the address of a setdest action that takes effect. -/
def executed (cfg : Config) : Event → Option (Nat × Addr)
  | .setDest call action =>
    match applySetDestination cfg action with
    | .ok addr => some (call, addr)
    | .error _ => none
  | _ => none

/-- The address of the last setdest that one of the calls in `of` executed, or
`start` if there is none. -/
def destination (cfg : Config) (of : Nat → Bool) (start : Addr) : List Event → Addr
  | [] => start
  | event :: events =>
    match executed cfg event with
    | some (call, addr) => destination cfg of (if of call then addr else start) events
    | none => destination cfg of start events

/-- What a call should send to: its own last setdest, or the configured remote. -/
def ownDestination (cfg : Config) (events : List Event) (call : Nat) : Addr :=
  destination cfg (· == call) cfg.remoteAddr events

/-- The last setdest of any call. -/
def lastDestination (cfg : Config) (events : List Event) : Addr :=
  destination cfg (fun _ => true) cfg.remoteAddr events

theorem step_remoteAddr {event s next} (stepped : step cfg event s = some next) :
    next.remoteAddr = ((executed cfg event).map Prod.snd).getD s.remoteAddr := by
  cases event with
  | spawn =>
    simp only [step] at stepped
    obtain ⟨_, stepped⟩ := of_guard stepped
    obtain ⟨sem, _, rfl⟩ := Option.map_eq_some_iff.mp stepped
    rfl
  | stop | setMaxConcurrent n =>
    cases stepped
    rfl
  | dial call | send call | finish call | close call | release call =>
    simp only [step] at stepped
    obtain ⟨_, ⟨⟩⟩ := of_guard stepped
    rfl
  | setDest call action =>
    simp only [step] at stepped
    obtain ⟨_, stepped⟩ := of_guard stepped
    simp only [executed]
    split at stepped
    · rename_i failed
      cases stepped
      simp only [failed]
      rfl
    · rename_i applied
      cases stepped
      simp only [applied]
      rfl

theorem run_remoteAddr (run : Run (step cfg) s events final) :
    final.remoteAddr = destination cfg (fun _ => true) s.remoteAddr events := by
  induction run with
  | nil => rfl
  | cons stepped _ ih =>
    rw [ih, step_remoteAddr stepped, destination]
    split
    · rename_i effect
      rw [effect]
      rfl
    · rename_i effect
      rw [effect]
      rfl

theorem step_send {call payload s next}
    (stepped : step cfg (.send call payload) s = some next) :
    ∃ datagram, next.sent = s.sent ++ [datagram] ∧ datagram.call = call ∧
      datagram.payload = payload ∧ datagram.dest = s.remoteAddr := by
  simp only [step] at stepped
  obtain ⟨_, ⟨⟩⟩ := of_guard stepped
  exact ⟨_, rfl, rfl, rfl, rfl⟩

/-- A datagram goes to the last setdest of its own call, or to the configured remote
if there is none, exactly when the last setdest of all calls was to that address. -/
theorem send_destination_iff {events : List Event} {call : Nat} {payload : Bytes}
    {s next : State} (run : Run (step cfg) (.initial cfg) events s)
    (stepped : step cfg (.send call payload) s = some next) :
    (∃ datagram, next.sent = s.sent ++ [datagram] ∧ datagram.call = call ∧
        datagram.payload = payload ∧ datagram.dest = ownDestination cfg events call) ↔
      lastDestination cfg events = ownDestination cfg events call := by
  obtain ⟨actual, sent, caller, carried, dest⟩ := step_send stepped
  have last : actual.dest = lastDestination cfg events := by
    rw [dest, run_remoteAddr run]
    rfl
  constructor
  · rintro ⟨datagram, appended, _, _, own⟩
    have same : [actual] = [datagram] := List.append_cancel_left (sent.symm.trans appended)
    cases same
    rw [← last, own]
  · intro agree
    exact ⟨actual, sent, caller, carried, last.trans agree⟩

end Destination

section Concrete

attribute [local instance] CaseTables.asciiOnly

/-- A client on one shared UDP socket. -/
def sharedUDP : Config :=
  ⟨.u1, 2, false, 2, 0, [], [], ⟨ascii "a", 5060⟩⟩

/-- A setdest to the host `b`. -/
def toB : SetDest :=
  ⟨ascii "udp", ascii "b", 5070, some ⟨ascii "b", 5070⟩⟩

/-- Two calls run. -/
def twoCalls : List Event :=
  [.spawn, .spawn, .dial 0 true, .dial 1 true]

/-- A call sends to where its own setdest points while no other call has one. -/
theorem sender_reaches_own_destination :
    ∃ s next datagram,
      Run (step sharedUDP) (.initial sharedUDP) (twoCalls ++ [.setDest 0 toB]) s ∧
      step sharedUDP (.send 0 []) s = some next ∧ next.sent = s.sent ++ [datagram] ∧
      datagram.call = 0 ∧ datagram.payload = [] ∧
      datagram.dest = ownDestination sharedUDP (twoCalls ++ [.setDest 0 toB]) 0 := by
  have possible : ((exec (step sharedUDP) (twoCalls ++ [.setDest 0 toB])
      (.initial sharedUDP)).bind (step sharedUDP (.send 0 []))).isSome := by decide
  obtain ⟨next, reached⟩ := Option.isSome_iff_exists.mp possible
  obtain ⟨s, executes, stepped⟩ := Option.bind_eq_some_iff.mp reached
  have run := Run.of_exec executes
  obtain ⟨datagram, sent⟩ := (send_destination_iff run stepped).mpr (by decide)
  exact ⟨s, next, datagram, run, stepped, sent⟩

/-- The setdest of the first call moves the datagrams of the second. -/
theorem setDest_reaches_other_call :
    (exec (step sharedUDP) (twoCalls ++ [.setDest 0 toB, .send 1 []])
        (.initial sharedUDP)).map (fun s => s.sent.map fun sent => (sent.call, sent.dest)) =
      some [(1, ⟨ascii "b", 5070⟩)] ∧
    ownDestination sharedUDP (twoCalls ++ [.setDest 0 toB]) 1 = ⟨ascii "a", 5060⟩ := by
  exact ⟨by decide, by decide⟩

end Concrete

end Gossipper.Engine.Client
