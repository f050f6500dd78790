/-
Module: Gossipper.Engine.Listeners
Purpose: How the server listeners admit calls: the coordinator of
  `runServerMultiListeners`, the pump of the UDP listeners and the accept and read
  loops of the TCP, TLS and WebSocket listeners, alone or beside each other.
Trusted boundary: each event is one critical section or one step of a goroutine
  between two of them; what a call does is left open.  A session map is the set of
  the calls that are registered in it: a call enters the map when it starts and its
  own goroutine takes it out.
Main exports: Kind, Server, Config, State, Event, step, Change, step_change
-/
import Gossipper.Engine.UdpServer
import Gossipper.Lib.Threads

namespace Gossipper.Engine.Listeners

open Go Sip Scenario Transition

/-- The kinds of listeners: `u1` and `un`, `t1`, `l1`, `tn`, `ln`, `w1` and `ws1`,
`wn` and `wsn`. -/
inductive Kind where
  | udp
  | tcpShared
  | tlsShared
  | tcpPerConn
  | tlsPerConn
  | wsShared
  | wsPerConn
deriving DecidableEq, Repr

namespace Kind

def isShared : Kind → Bool
  | .tcpShared | .tlsShared => true
  | _ => false

def isPerConn : Kind → Bool
  | .tcpPerConn | .tlsPerConn => true
  | _ => false

def isWS : Kind → Bool
  | .wsShared | .wsPerConn => true
  | _ => false

end Kind

/-- Where the goroutine of a call is. -/
inductive Phase where
  | active
  | unregistered
  | finished
deriving DecidableEq, Repr

/-- One listener on its own (`runServerUDP`, `runServerTCPShared` and so on), or
`runServerMultiListeners`. -/
inductive Server where
  | single (kind : Kind)
  | multi (kinds : List Kind)

structure Config extends UdpServer.Config where
  server : Server

namespace Config

/-- Several listeners behind one coordinator. -/
def isMulti (cfg : Config) : Bool :=
  match cfg.server with
  | .single _ => false
  | .multi _ => true

def listeners (cfg : Config) : List Kind :=
  match cfg.server with
  | .single kind => [kind]
  | .multi kinds => kinds

/-- The listeners that number their calls with the coordinator.  The WebSocket
listeners get one and do not use it. -/
def coordinates (cfg : Config) : Kind → Bool
  | .udp => true
  | .wsShared | .wsPerConn => false
  | _ => cfg.isMulti

/-- Where a call is right before it finishes.  The shared loops behind the
coordinator take it out of their own map first, under their own lock. -/
def lastPhase (cfg : Config) (kind : Kind) : Phase :=
  if kind.isShared && cfg.isMulti then .unregistered else .active

/-- `serverRejectNew`. -/
def serverRejectNew (cfg : Config) (currentCount : Nat) : Bool :=
  UdpServer.serverRejectNew cfg.toConfig currentCount

/-- `serverFinishedAll`. -/
def serverFinishedAll (cfg : Config) (finished : Nat) : Bool :=
  !cfg.unlimitedCalls && cfg.totalCalls ≤ finished

end Config

/-- The session maps: the one of the coordinator for all UDP listeners, one for each
shared TCP or TLS listener, one for each WebSocket connection. -/
inductive Table where
  | coordinator
  | listener (listener : Nat)
  | connection (listener connection : Nat)
deriving DecidableEq

/-- A call goroutine.  A goroutine of a per-connection listener is in no map and
waits for its first message before it executes its call. -/
structure Call where
  listener : Nat
  table : Option Table
  callID : Bytes
  number : Nat
  executed : Bool
  phase : Phase

namespace Call

/-- The call is an entry of the map. -/
def isIn (call : Call) (table : Table) : Bool :=
  call.table = some table && call.phase = .active

/-- The call came over a WebSocket connection. -/
def isWS (call : Call) : Bool :=
  match call.table with
  | some (.connection _ _) => true
  | _ => false

end Call

/-- Where the read loop of a shared TCP or TLS listener is, between the sections in
which it holds its own lock or the lock of the coordinator; `returned` is the accept
loop of a per-connection listener that has ended. -/
inductive Reader where
  | idle
  | checked (callID : Bytes)
  | reserved (callID : Bytes) (number : Nat)
  | refunding
  | returned
deriving DecidableEq

namespace Reader

/-- The number the loop holds for a call it has not started yet. -/
def number : Reader → Option Nat
  | .reserved _ number => some number
  | _ => none

@[simp] theorem number_idle : Reader.idle.number = none := rfl

@[simp] theorem number_checked (callID : Bytes) : (Reader.checked callID).number = none := rfl

@[simp] theorem number_reserved (callID : Bytes) (number : Nat) :
    (Reader.reserved callID number).number = some number := rfl

/-- The Call-ID for which the loop has found no session. -/
def pending : Reader → Option Bytes
  | .checked callID => some callID
  | .reserved callID _ => some callID
  | _ => none

end Reader

/-- The coordinator, the loops and the calls.  In the single per-connection loops
`accepted` is the loop counter.  `closes` counts the closes of `done`. -/
structure State where
  accepted : Nat
  finished : Nat
  doneOnce : Bool
  closes : Nat
  readers : List Reader
  connections : List (Nat × Nat)
  calls : List Call

/-- The listeners are open. -/
def State.initial (cfg : Config) : State where
  accepted := 0
  finished := 0
  doneOnce := false
  closes := 0
  readers := cfg.listeners.map fun _ => .idle
  connections := []
  calls := []

namespace State

/-- `sessions[callID]` exists. -/
def hasSession (s : State) (table : Table) (callID : Bytes) : Bool :=
  s.calls.any fun call => call.isIn table && call.callID = callID

/-- `len(sessions)`. -/
def sessionCount (s : State) (table : Table) : Nat :=
  s.calls.countP (·.isIn table)

def setReader (s : State) (listener : Nat) (reader : Reader) : State :=
  { s with readers := s.readers.set listener reader }

def setCall (s : State) (i : Nat) (call : Call) : State :=
  { s with calls := s.calls.set i call }

/-- A goroutine for a new call. -/
def start (s : State) (call : Call) : State :=
  { s with calls := s.calls ++ [call] }

/-- `finishCallUnlocked`. -/
def finishCallUnlocked (cfg : Config) (s : State) : State :=
  let s := { s with finished := s.finished + 1 }
  if cfg.serverFinishedAll s.finished ∧ s.doneOnce = false then
    { s with doneOnce := true, closes := s.closes + 1 }
  else s

end State

/-- One step.  `message` is a message that the pump, a read loop or the goroutine of a
WebSocket connection has read, with the switch of the listener and the first recv
command of the live scenario; `connect` is a connection that an accept loop gets. -/
inductive Event where
  | message (listener connection : Nat) (msg : Message) (acceptNew : Bool)
      (firstCmd : Option RecvFilter)
  | reserve (listener : Nat)
  | register (listener : Nat)
  | refund (listener : Nat)
  | connect (listener connection : Nat) (acceptNew : Bool)
  | execute (call : Nat)
  | unregister (call : Nat)
  | finish (call : Nat)

/-- The map a listener looks a Call-ID up in. -/
def Kind.table (kind : Kind) (listener connection : Nat) : Table :=
  match kind with
  | .udp => .coordinator
  | .wsShared | .wsPerConn => .connection listener connection
  | _ => .listener listener

section Step

variable [CaseTables]

/-- The Call-ID as the listener uses it; `runServerTLSShared` takes it as it is. -/
def Config.callID (cfg : Config) (kind : Kind) (msg : Message) : Option Bytes :=
  (header msg.headers (ascii "Call-ID")).map fun value =>
    if kind = .tlsShared ∧ cfg.isMulti = false then value else normalizeCallID value

/-- The test of the first message; the TLS and WebSocket read loops ignore a regular
expression. -/
def Kind.matchesFirst (kind : Kind) (filter : RecvFilter) (msg : Message) : Bool :=
  match kind with
  | .tlsShared | .wsShared | .wsPerConn =>
    matchRecv .fresh msg filter.recvReq filter.recvResp []
  | _ => filter.matchesFirst msg

/-- The message may open a session.  A WebSocket listener looks at its switch when a
connection comes, not when a message comes. -/
def Kind.wants (kind : Kind) (msg : Message) (acceptNew : Bool) (firstCmd : Option RecvFilter) :
    Bool :=
  match firstCmd with
  | none => false
  | some filter => (kind.isWS || acceptNew) && kind.matchesFirst filter msg

/-- What a loop does with a message that has a Call-ID. -/
def onMessage (cfg : Config) (s : State) (listener connection : Nat) (kind : Kind)
    (callID : Bytes) (wanted : Bool) : Option State :=
  let table := kind.table listener connection
  if s.hasSession table callID || !wanted then some s
  else
    match kind with
    | .udp =>
      if cfg.serverRejectNew s.accepted then some s
      else
        some ({ s with accepted := s.accepted + 1 }.start
          ⟨listener, some table, callID, s.accepted + 1, true, .active⟩)
    | .tcpShared | .tlsShared =>
      if cfg.isMulti then some (s.setReader listener (.checked callID))
      else if cfg.serverRejectNew (s.sessionCount table) then some s
      else
        some (s.start
          ⟨listener, some table, callID, s.sessionCount table + 1, true, .active⟩)
    | .wsShared | .wsPerConn =>
      if kind = .wsPerConn ∧ 0 < s.sessionCount table then some s
      else
        some (s.start
          ⟨listener, some table, callID, s.sessionCount table + 1, true, .active⟩)
    | .tcpPerConn | .tlsPerConn => none

/-- What an accept loop does with a connection. -/
def onConnect (cfg : Config) (s : State) (listener connection : Nat) (kind : Kind)
    (acceptNew : Bool) : Option State :=
  if kind.isWS then
    if acceptNew then some { s with connections := (listener, connection) :: s.connections }
    else some s
  else if kind.isPerConn then
    let call : Call := ⟨listener, none, [], s.accepted + 1, false, .active⟩
    if cfg.isMulti then
      if !acceptNew then some s
      else if cfg.serverRejectNew s.accepted then some (s.setReader listener .returned)
      else some ({ s with accepted := s.accepted + 1 }.start call)
    -- The loop counter goes up at every connection, also at one that is refused.
    else if cfg.serverRejectNew s.accepted then none
    else if !acceptNew then some { s with accepted := s.accepted + 1 }
    else some ({ s with accepted := s.accepted + 1 }.start call)
  else none

/-- One step; `none` means that it is not possible. -/
def step (cfg : Config) : Event → State → Option State
  | .message listener connection msg acceptNew firstCmd, s =>
    match cfg.listeners[listener]?, s.readers[listener]? with
    | some kind, some .idle =>
      if kind.isWS ∧ (listener, connection) ∉ s.connections then none
      else
        match cfg.callID kind msg with
        | none => some s
        | some callID =>
          onMessage cfg s listener connection kind callID
            (kind.wants msg acceptNew firstCmd)
    | _, _ => none
  | .reserve listener, s =>
    match s.readers[listener]? with
    | some (.checked callID) =>
      if cfg.serverRejectNew s.accepted then some (s.setReader listener .idle)
      else
        some ({ s with accepted := s.accepted + 1 }.setReader listener
          (.reserved callID (s.accepted + 1)))
    | _ => none
  | .register listener, s =>
    match s.readers[listener]? with
    | some (.reserved callID number) =>
      if s.hasSession (.listener listener) callID then
        some (s.setReader listener .refunding)
      else
        some ((s.setReader listener .idle).start
          ⟨listener, some (.listener listener), callID, number, true, .active⟩)
    | _ => none
  | .refund listener, s =>
    match s.readers[listener]? with
    | some .refunding => some { s.setReader listener .idle with accepted := s.accepted - 1 }
    | _ => none
  | .connect listener connection acceptNew, s =>
    match cfg.listeners[listener]?, s.readers[listener]? with
    | some kind, some .idle => onConnect cfg s listener connection kind acceptNew
    | _, _ => none
  | .execute i, s =>
    match s.calls[i]? with
    | some call =>
      if call.executed = false ∧ call.phase = .active then
        some (s.setCall i { call with executed := true })
      else none
    | none => none
  | .unregister i, s =>
    match s.calls[i]? with
    | some call =>
      match cfg.listeners[call.listener]? with
      | some kind =>
        if kind.isShared ∧ cfg.isMulti ∧ call.phase = .active then
          some (s.setCall i { call with phase := .unregistered })
        else none
      | none => none
    | none => none
  | .finish i, s =>
    match s.calls[i]? with
    | some call =>
      match cfg.listeners[call.listener]? with
      | some kind =>
        if call.phase = cfg.lastPhase kind then
          let s := s.setCall i { call with phase := .finished }
          if cfg.coordinates kind then some (s.finishCallUnlocked cfg) else some s
        else none
      | none => none
    | none => none

/-! ### What a step can do -/

/-- What a step changes when it opens no session behind the coordinator's back. -/
inductive Coordination (cfg : Config) (s : State) : Event → State → Prop where
  | quiet {event : Event} (connections : List (Nat × Nat)) :
      Coordination cfg s event { s with connections }
  | checked {event : Event} {listener : Nat} {callID : Bytes} :
      cfg.isMulti = true → s.readers[listener]? = some .idle →
      s.hasSession (.listener listener) callID = false →
        Coordination cfg s event (s.setReader listener (.checked callID))
  | rejected {listener : Nat} {callID : Bytes} :
      s.readers[listener]? = some (.checked callID) →
        Coordination cfg s (.reserve listener) (s.setReader listener .idle)
  | returned {event : Event} {listener : Nat} :
      s.readers[listener]? = some .idle →
        Coordination cfg s event (s.setReader listener .returned)
  | reserved {listener : Nat} {callID : Bytes} :
      s.readers[listener]? = some (.checked callID) →
      cfg.serverRejectNew s.accepted = false →
        Coordination cfg s (.reserve listener)
          ({ s with accepted := s.accepted + 1 }.setReader listener
            (.reserved callID (s.accepted + 1)))
  | registered {listener number : Nat} {callID : Bytes} :
      s.readers[listener]? = some (.reserved callID number) →
        Coordination cfg s (.register listener)
          ((s.setReader listener .idle).start
            ⟨listener, some (.listener listener), callID, number, true, .active⟩)
  | taken {listener number : Nat} {callID : Bytes} :
      s.readers[listener]? = some (.reserved callID number) →
      s.hasSession (.listener listener) callID = true →
        Coordination cfg s (.register listener) (s.setReader listener .refunding)
  | refunded {listener : Nat} :
      s.readers[listener]? = some .refunding →
        Coordination cfg s (.refund listener)
          { s.setReader listener .idle with accepted := s.accepted - 1 }
  /-- The pump of a UDP listener opens a session. -/
  | pumped {listener connection : Nat} {msg : Message} {acceptNew : Bool}
      {firstCmd : Option RecvFilter} {callID : Bytes} :
      cfg.listeners[listener]? = some .udp → cfg.callID .udp msg = some callID →
      s.hasSession .coordinator callID = false → cfg.serverRejectNew s.accepted = false →
        Coordination cfg s (.message listener connection msg acceptNew firstCmd)
          ({ s with accepted := s.accepted + 1 }.start
            ⟨listener, some .coordinator, callID, s.accepted + 1, true, .active⟩)
  /-- A per-connection listener takes a connection. -/
  | connected {listener connection : Nat} {kind : Kind} :
      cfg.listeners[listener]? = some kind → kind.isPerConn = true →
      cfg.serverRejectNew s.accepted = false →
        Coordination cfg s (.connect listener connection true)
          ({ s with accepted := s.accepted + 1 }.start
            ⟨listener, none, [], s.accepted + 1, false, .active⟩)
  | executes {i : Nat} {call : Call} :
      s.calls[i]? = some call →
        Coordination cfg s (.execute i) (s.setCall i { call with executed := true })
  | unregistered {i : Nat} {call : Call} :
      s.calls[i]? = some call → call.phase = .active →
        Coordination cfg s (.unregister i) (s.setCall i { call with phase := .unregistered })
  | finished {i : Nat} {call : Call} {kind : Kind} :
      s.calls[i]? = some call → cfg.listeners[call.listener]? = some kind →
      cfg.coordinates kind = true → call.phase ≠ .finished →
        Coordination cfg s (.finish i)
          ((s.setCall i { call with phase := .finished }).finishCallUnlocked cfg)
  | left {i : Nat} {call : Call} {kind : Kind} :
      s.calls[i]? = some call → cfg.listeners[call.listener]? = some kind →
      cfg.coordinates kind = false →
        Coordination cfg s (.finish i) (s.setCall i { call with phase := .finished })

/-- Every way in which a step changes the state. -/
inductive Change (cfg : Config) (s : State) : Event → State → Prop where
  | coordination {event : Event} {next : State} :
      Coordination cfg s event next → Change cfg s event next
  /-- The single per-connection loop refuses a connection. -/
  | refused {listener connection : Nat} {kind : Kind} :
      cfg.listeners[listener]? = some kind → kind.isPerConn = true → cfg.isMulti = false →
        Change cfg s (.connect listener connection false) { s with accepted := s.accepted + 1 }
  /-- A single read loop or a WebSocket connection opens a session without the
  coordinator. -/
  | opened {listener connection : Nat} {msg : Message} {acceptNew : Bool}
      {firstCmd : Option RecvFilter} {kind : Kind} {callID : Bytes} :
      cfg.listeners[listener]? = some kind → cfg.coordinates kind = false →
      kind.isPerConn = false → cfg.callID kind msg = some callID →
      s.hasSession (kind.table listener connection) callID = false →
      (kind.isShared = true →
        cfg.serverRejectNew (s.sessionCount (kind.table listener connection)) = false) →
        Change cfg s (.message listener connection msg acceptNew firstCmd)
          (s.start ⟨listener, some (kind.table listener connection), callID,
            s.sessionCount (kind.table listener connection) + 1, true, .active⟩)

variable {s next : State} {cfg : Config}

theorem onMessage_change
    (known : cfg.listeners[listener]? = some kind) (idle : s.readers[listener]? = some .idle)
    (found : cfg.callID kind msg = some callID)
    (stepped : onMessage cfg s listener connection kind callID wanted = some next) :
    Change cfg s (.message listener connection msg acceptNew firstCmd) next := by
  by_cases old : (s.hasSession (kind.table listener connection) callID || !wanted) = true
  · simp only [onMessage, if_pos old] at stepped
    cases stepped
    exact .coordination (.quiet s.connections)
  · have fresh : s.hasSession (kind.table listener connection) callID = false := by
      simp only [Bool.or_eq_true, not_or, Bool.not_eq_true] at old
      exact old.1
    simp only [onMessage, if_neg old] at stepped
    cases kind with
    | udp =>
      simp only at stepped
      split at stepped
      · cases stepped
        exact .coordination (.quiet s.connections)
      · rename_i room
        cases stepped
        exact .coordination (.pumped known found fresh (by simpa using room))
    | tcpShared | tlsShared =>
      simp only at stepped
      split at stepped
      · rename_i multi
        cases stepped
        exact .coordination (.checked multi idle fresh)
      · rename_i single
        split at stepped
        · cases stepped
          exact .coordination (.quiet s.connections)
        · rename_i room
          cases stepped
          exact .opened known (by simpa [Config.coordinates] using single) rfl found fresh
            fun _ => by simpa using room
    | wsShared | wsPerConn =>
      simp only at stepped
      split at stepped
      · cases stepped
        exact .coordination (.quiet s.connections)
      · cases stepped
        refine .opened known rfl rfl found fresh fun shared => ?_
        cases shared
    | tcpPerConn | tlsPerConn => cases stepped

theorem onConnect_change
    (known : cfg.listeners[listener]? = some kind) (idle : s.readers[listener]? = some .idle)
    (stepped : onConnect cfg s listener connection kind acceptNew = some next) :
    Change cfg s (.connect listener connection acceptNew) next := by
  revert stepped
  fun_cases onConnect cfg s listener connection kind acceptNew
  all_goals rintro ⟨⟩
  case case1 | case2 | case3 => exact .coordination (.quiet _)
  case case4 => exact .coordination (.returned idle)
  case case5 perConn _ _ taken room | case8 perConn _ _ room taken =>
    obtain rfl : acceptNew = true := by simpa using taken
    exact .coordination (.connected known perConn (by simpa using room))
  case case7 perConn single _ untaken =>
    obtain rfl : acceptNew = false := by simpa using untaken
    exact .refused known perConn (by simpa using single)

theorem step_change (stepped : step cfg event s = some next) : Change cfg s event next := by
  revert stepped
  fun_cases step cfg event s
  all_goals first | rintro ⟨⟩ | intro stepped
  case case2 => exact .coordination (.quiet s.connections)
  case case3 known callID found idle _ => exact onMessage_change known idle found stepped
  case case5 found _ => exact .coordination (.rejected found)
  case case6 found room => exact .coordination (.reserved found (by simpa using room))
  case case8 found session => exact .coordination (.taken found session)
  case case9 found _ => exact .coordination (.registered found)
  case case11 found => exact .coordination (.refunded found)
  case case13 known idle => exact onConnect_change known idle stepped
  case case15 found => exact .coordination (.executes found)
  case case18 enabled found => exact .coordination (.unregistered found enabled.2.2)
  case case22 known before coordinated found _ =>
    refine .coordination (.finished found known coordinated (before ▸ ?_))
    unfold Config.lastPhase
    split <;> exact Phase.noConfusion
  case case23 known _ alone found _ =>
    obtain rfl := Option.some.inj stepped
    exact .coordination (.left found known (by simpa using alone))

end Step

end Gossipper.Engine.Listeners
