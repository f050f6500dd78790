/-
Module: Gossipper.Engine.Call
Purpose: One call: the command loop of `executeCall`, the wait for a message in
  `waitForMatch`, and the pending list between them, after
  `internal/engine/engine.go`.
Trusted boundary: rendering, actions, variables and the clock are not modelled;
  an event carries what they yield at the point where the code uses it.  A map of
  a received message is visited in one order.
Main exports: Script, Received, SendEntry, Phase, State, Event, nextSource, stash, onMessage, poll
-/
import Gossipper.Lib.Run
import Gossipper.Engine.LastSent
import Gossipper.Scenario.Model

namespace Gossipper.Engine.Call

open Go Sip Scenario Transition

/-- What a call executes: the commands, the position of the label `_unexp.main`,
and whether the transport is UDP. -/
structure Script where
  commands : List Command
  unexpMain : Option Nat
  udp : Bool

/-- A pooled message that the call obtained from `receive`, numbered in that order. -/
structure Received where
  id : Nat
  msg : Message
deriving DecidableEq, Repr

/-- Why bytes are passed to `send`. -/
inductive SendCause where
  | command
  | retransmit
  | ack
  | byeReply
deriving DecidableEq, Repr

/-- Bytes passed to `send`, with the number of messages that send commands had
sent by then. -/
structure SendEntry where
  cause : SendCause
  txn : Nat
  payload : Bytes
deriving DecidableEq, Repr

/-- The errors that end a wait. -/
inductive WaitError where
  | optionalMismatch
  | unexpectedToMain
  | unexpectedFinal (status : Int) (expected : Bytes)
  | deadline
  | canceled
  | transport
deriving DecidableEq, Repr

/-- The errors that end a call. -/
inductive CallError where
  | render
  | send
  | action
  | wait (cause : WaitError)
deriving DecidableEq, Repr

/-- How a call ends. -/
inductive Result where
  | success
  | failed (cause : CallError)
deriving DecidableEq, Repr

/-- Where a call stands: before a command, inside the loop of `waitForMatch`, or
at its end. -/
inductive Phase where
  | ready
  | waiting (retrans : Int) (finalResponseSeen : Bool)
  | ended (result : Result)
deriving DecidableEq, Repr

/-- The variables of `executeCall`.  `held` are the matched messages, whose
`PutMessage` is deferred; `freed` are the messages returned to the pool; `routed`
are those that were copied for `_unexp.main`; `log` is everything passed to
`send`; `history` is what the send commands sent. -/
structure State where
  index : Nat
  phase : Phase
  last : LastSent
  history : List Sent
  lastRetrans : Int
  pending : List Received
  held : List Received
  freed : List Nat
  routed : List Nat
  nextId : Nat
  log : List SendEntry

/-- The start of a call. -/
def State.initial : State where
  index := 0
  phase := .ready
  last := .initial
  history := []
  lastRetrans := 0
  pending := []
  held := []
  freed := []
  routed := []
  nextId := 0
  log := []

namespace State

/-- `send(payload)`. -/
def pass (s : State) (cause : SendCause) (payload : Bytes) : State :=
  { s with log := s.log ++ [⟨cause, s.history.length, payload⟩] }

/-- `sip.PutMessage(m)`. -/
def free (s : State) (item : Received) : State :=
  { s with freed := s.freed ++ [item.id] }

/-- Leaving `executeCall`: the deferred calls return the matched messages, last
one first, and drain the pending list. -/
def finish (s : State) (result : Result) : State :=
  { s with
    phase := .ended result
    freed := s.freed ++ (s.held.reverse.map Received.id ++ s.pending.map Received.id)
    held := []
    pending := [] }

/-- Go on at a command. -/
def goto (s : State) (index : Nat) : State :=
  { s with index := index, phase := .ready }

end State

/-- What the work behind a command leads to: the next command, a jump, the end by
a stop action, or an error. -/
inductive After where
  | next
  | jump (index : Nat)
  | stop
  | fail

/-- What a send command leads to. -/
inductive SendResult where
  | renderFailed
  | sendFailed (payload : Bytes)
  | sent (sent : Sent)

/-- What `receive(waitCtx)` returns.  `late` says that the whole wait is over or the
context of the call is done. -/
inductive Net where
  | message (msg : Message)
  | deadline (late : Bool)
  | canceled
  | broken

/-- One step of the executor.  `taken` is the outcome of a conditional next label,
`sendOk` that of a retransmission. -/
inductive Event where
  | complete
  | skip
  | send (result : SendResult) (taken : Bool)
  | wait
  | other (after : After) (taken : Bool)
  | expire
  | poll (net : Net) (sendOk : Bool) (after : After) (taken : Bool)

/-- `resolveNext`. -/
def resolveNext (index : Nat) (cmd : Command) (taken : Bool) : Nat :=
  match cmd.nextIndex with
  | none => index + 1
  | some next => if cmd.conditional && !taken then index + 1 else next

/-- The end of a command that did its work. -/
def proceed (cmd : Command) (s : State) (after : After) (taken : Bool) : State :=
  match after with
  | .next => s.goto (resolveNext s.index cmd taken)
  | .jump index => s.goto index
  | .stop => s.finish .success
  | .fail => s.finish (.failed .action)

/-- The error branch behind `waitForMatch`. -/
def waitFailed (script : Script) (cmd : Command) (s : State) (error : WaitError) : State :=
  match error, script.unexpMain with
  | .unexpectedToMain, some index => s.goto index
  | _, _ =>
    if cmd.optional then s.goto (s.index + 1)
    else s.finish (.failed (.wait error))

section Executor

variable [CaseTables]

/-- The updates of a send command. -/
def sendMessage (cmd : Command) (s : State) (result : SendResult) (taken : Bool) : State :=
  match result with
  | .renderFailed => s.finish (.failed .render)
  | .sendFailed payload => (s.pass .command payload).finish (.failed .send)
  | .sent sent =>
    let s := { s with history := s.history ++ [sent] }
    let s := s.pass .command sent.payload
    let s := { s with last := s.last.record sent, lastRetrans := cmd.retrans }
    s.goto (resolveNext s.index cmd taken)

/-- The message satisfies the command. -/
def matchesNow (cmd : Command) (s : State) (msg : Message) : Bool :=
  cmd.filter.matchesCached msg s.last.cseqNum s.last.method

/-- `ResponseMatchesCached` with the cached values of the call. -/
def matchesTxn (s : State) (msg : Message) : Bool :=
  responseMatchesCached msg s.last.branch s.last.method

/-- Where the next message comes from. -/
inductive Source where
  | pending (item : Received) (rest : List Received)
  | mismatch
  | network

/-- `receiveWithPending`.  An optional recv takes only a pending message that
matches, and does not go to the network while a final response is pending. -/
def nextSource (cmd : Command) (s : State) : Source :=
  if cmd.optional then
    match s.pending.find? fun item => matchesNow cmd s item.msg with
    | some item => .pending item (s.pending.eraseP fun item => matchesNow cmd s item.msg)
    | none =>
      if s.pending.any fun item => 200 ≤ item.msg.statusCode then .mismatch else .network
  else
    match s.pending with
    | item :: rest => .pending item rest
    | [] => .network

/-- A retransmitted 200 of the INVITE is answered with the stored ACK. -/
def resendAck (s : State) (msg : Message) : State :=
  if msg.statusCode = 200 ∧ s.last.inviteACK ≠ [] ∧ s.last.inviteBranch ≠ [] then
    match viaBranch msg.headers with
    | some branch =>
      if equalFold branch s.last.inviteBranch then s.pass .ack s.last.inviteACK else s
    | none => s
  else s

/-- The message is a BYE request and the command does not wait for one. -/
def unawaitedBye (cmd : Command) (msg : Message) : Bool :=
  msg.method == ascii "BYE" && msg.statusCode == 0 &&
    match cmd.filter.recvReqRegex with
    | some regex => !regex msg.startLine
    | none => cmd.filter.recvReq != ascii "BYE"

/-- The error for a final response that no recv can take. -/
def unexpectedFinal (cmd : Command) (msg : Message) : WaitError :=
  .unexpectedFinal msg.statusCode (trimSpace cmd.filter.recvResp)

/-- The stash callback, on a message that does not match. -/
def stash (script : Script) (cmd : Command) (s : State) (item : Received) (fromPending : Bool) :
    State × Option WaitError :=
  let msg := item.msg
  if unawaitedBye cmd msg then
    let s := s.pass .byeReply (buildResponse msg 200 (ascii "OK"))
    (if fromPending then s else s.free item, none)
  else if fromPending then
    if cmd.optional then ({ s with pending := s.pending ++ [item] }, none)
    else if 0 < msg.statusCode ∧ matchesTxn s msg = false then (resendAck s msg, none)
    else if 200 ≤ msg.statusCode ∧ script.unexpMain = none ∧ matchesTxn s msg then
      (s, some (unexpectedFinal cmd msg))
    else (s, none)
  else if 0 < msg.statusCode ∧ matchesTxn s msg = false then
    ((resendAck s msg).free item, none)
  else if 0 < msg.statusCode ∧ msg.statusCode < 200 ∧ matchesTxn s msg then
    (s.free item, none)
  else
    match script.unexpMain with
    | some _ => ({ s with routed := s.routed ++ [item.id] }, some .unexpectedToMain)
    | none =>
      if cmd.optional = false ∧ 200 ≤ msg.statusCode ∧ matchesTxn s msg then
        (s, some (unexpectedFinal cmd msg))
      else ({ s with pending := s.pending ++ [item] }, none)

/-- A match: `PutMessage` is deferred, and a matched response stops the
retransmission. -/
def accept (cmd : Command) (s : State) (item : Received) (after : After) (taken : Bool) : State :=
  let lastRetrans :=
    if cmd.filter.recvResp ≠ [] ∧ 0 < s.lastRetrans then 0 else s.lastRetrans
  proceed cmd { s with held := s.held ++ [item], lastRetrans := lastRetrans } after taken

/-- The part of the wait loop behind a message. -/
def onMessage (script : Script) (cmd : Command) (s : State) (item : Received)
    (fromPending : Bool) (retrans : Int) (finalResponseSeen : Bool) (after : After)
    (taken : Bool) : State :=
  if matchesNow cmd s item.msg then accept cmd s item after taken
  else
    match stash script cmd s item fromPending with
    | (stashed, some error) => waitFailed script cmd (stashed.free item) error
    | (stashed, none) =>
      if cmd.optional then waitFailed script cmd stashed .optionalMismatch
      else
        { (if fromPending then stashed.free item else stashed) with
          phase := .waiting retrans
            (finalResponseSeen || (200 ≤ item.msg.statusCode && matchesTxn s item.msg)) }

/-- The part of the wait loop behind an expired receive. -/
def onDeadline (script : Script) (cmd : Command) (s : State) (late : Bool) (sendOk : Bool)
    (retrans : Int) (finalResponseSeen : Bool) : State :=
  if 0 < retrans ∧ finalResponseSeen = false ∧ s.last.payload ≠ [] ∧ late = false then
    let s := s.pass .retransmit s.last.payload
    if sendOk then s else waitFailed script cmd s .transport
  else waitFailed script cmd s .deadline

/-- One iteration of the wait loop. -/
def poll (script : Script) (cmd : Command) (s : State) (net : Net) (sendOk : Bool)
    (retrans : Int) (finalResponseSeen : Bool) (after : After) (taken : Bool) : State :=
  match nextSource cmd s with
  | .pending item rest =>
    onMessage script cmd { s with pending := rest } item true retrans finalResponseSeen after
      taken
  | .mismatch => waitFailed script cmd s .optionalMismatch
  | .network =>
    match net with
    | .message msg =>
      onMessage script cmd { s with nextId := s.nextId + 1 } ⟨s.nextId, msg⟩ false retrans
        finalResponseSeen after taken
    | .deadline late => onDeadline script cmd s late sendOk retrans finalResponseSeen
    | .canceled => waitFailed script cmd s .canceled
    | .broken => waitFailed script cmd s .transport

/-- One step of the executor; `none` when the event does not fit the state. -/
def step (script : Script) (event : Event) (s : State) : Option State :=
  match s.phase, script.commands[s.index]? with
  | .ended _, _ => none
  | .ready, none =>
    match event with
    | .complete => some (s.finish .success)
    | _ => none
  | .ready, some cmd =>
    match event, cmd.type with
    | .skip, _ => if cmd.condExec = [] then none else some (s.goto (s.index + 1))
    | .send result taken, .send => some (sendMessage cmd s result taken)
    | .wait, .recv =>
      -- Over a stream nothing is retransmitted.
      some { s with phase := .waiting (if script.udp then s.lastRetrans else 0) false }
    | .other _ _, .send | .other _ _, .recv => none
    | .other after taken, _ => some (proceed cmd s after taken)
    | _, _ => none
  | .waiting retrans finalResponseSeen, some cmd =>
    match event with
    | .expire => some (waitFailed script cmd s .deadline)
    | .poll net sendOk after taken =>
      some (poll script cmd s net sendOk retrans finalResponseSeen after taken)
    | _ => none
  | .waiting _ _, none => none

end Executor

end Gossipper.Engine.Call
