/-
Module: Gossipper.Engine.Shutdown
Purpose: The goroutines of `runServerMultiListeners` and what each of them waits
  for, from the start of the listeners to the return of the function.
Trusted boundary: a goroutine is at one of the points where it can wait; what it
  does between two such points is one event.  A call whose context is done comes to
  its end, a blocked accept or read of a TCP or TLS socket returns when its context
  is done (the watcher goroutines of `internal/transport` set a deadline), and a bind
  returns.
Main exports: State, Event, step, Final, Stuck, shutdown_not_stuck
-/
import Gossipper.Engine.Listeners

namespace Gossipper.Engine.Shutdown

open Transition List Option
open Listeners (Kind)

structure Config extends UdpServer.Config where
  listeners : List Kind

/-- Where the goroutine of a listener is.  `accepting` is `server.Accept(ctx)` or the
range over `srv.Accept()`; `pumping` is the range over `shared.Receive()` in
`udpServerReceivePump`; `reading` is the read loop of a shared TCP or TLS connection;
`draining` is the wait for the goroutines it has started, with the error it is going to
return; `failed` and `reported` are before and after `errCh <- err`. -/
inductive Phase where
  | starting
  | accepting
  | pumping
  | reading
  | draining (failed : Bool)
  | failed
  | reported
  | returned
deriving DecidableEq, Repr

structure Listener where
  kind : Kind
  phase : Phase
deriving DecidableEq

/-- The wait group a goroutine belongs to: `co.wg`, the one of a listener, or the one of
a WebSocket connection. -/
inductive Owner where
  | coordinator
  | listener (listener : Nat)
  | connection (task : Nat)
deriving DecidableEq

/-- A goroutine that executes a call or serves a WebSocket connection.  The latter ranges
over `shared.Receive()` while it is running and then waits for its calls. -/
inductive TaskPhase where
  | running
  | draining
  | done
deriving DecidableEq, Repr

structure Task where
  owner : Owner
  isConnection : Bool
  phase : TaskPhase
deriving DecidableEq

/-- Where the function itself is: in its select, in `waitListeners` (with the answer
whether it came there because all calls have finished), in `co.wg.Wait()`, or back. -/
inductive Main where
  | selecting
  | waiting (finishedAll : Bool)
  | draining
  | returned
deriving DecidableEq, Repr

/-- `ctxDone` is the context of the function; `errors` says that `errCh` is not empty;
`doneClosed` is `co.done`. -/
structure State where
  main : Main
  ctxDone : Bool
  errors : Bool
  accepted : Nat
  finished : Nat
  doneClosed : Bool
  listeners : List Listener
  tasks : List Task
deriving DecidableEq

def State.initial (cfg : Config) : State where
  main := .selecting
  ctxDone := false
  errors := false
  accepted := 0
  finished := 0
  doneClosed := false
  listeners := cfg.listeners.map fun kind => ⟨kind, .starting⟩
  tasks := []

/-- Why the select goes on. -/
inductive Reason where
  | error
  | context
  | finishedAll
deriving DecidableEq, Repr

/-- The first group are arrivals from outside: the end of the caller's context,
connections, messages that open a call, failing sockets and closing peers.  The others
are steps of the goroutines. -/
inductive Event where
  | cancel
  | connection (listener : Nat)
  | message (listener : Nat)
  | frame (task : Nat)
  | socketFails (listener : Nat)
  | peerCloses (task : Nat)
  | bind (listener : Nat) (bound : Bool)
  | acceptCancelled (listener : Nat)
  | readCancelled (listener : Nat)
  | drained (listener : Nat)
  | report (listener : Nat)
  | cancels (listener : Nat)
  | callEnds (task : Nat)
  | connectionDrained (task : Nat)
  | wake (reason : Reason)
  | listenersDone
  | callsDone
deriving DecidableEq

namespace State

def setListener (s : State) (i : Nat) (listener : Listener) : State :=
  { s with listeners := s.listeners.set i listener }

def setTask (s : State) (i : Nat) (task : Task) : State :=
  { s with tasks := s.tasks.set i task }

/-- A new goroutine. -/
def spawn (s : State) (owner : Owner) (isConnection : Bool) : State :=
  { s with tasks := s.tasks ++ [⟨owner, isConnection, .running⟩] }

/-- A new call under a number of the coordinator. -/
def admitCall (s : State) (owner : Owner) : State :=
  { s.spawn owner false with accepted := s.accepted + 1 }

/-- The wait group of the owner is at zero. -/
def idle (s : State) (owner : Owner) : Bool :=
  s.tasks.all fun task => task.owner ≠ owner || task.phase = .done

end State

/-- After a bind. -/
def listening (kind : Kind) : Phase :=
  if kind = .udp then .pumping else .accepting

/-- What an accept loop does when its context is done: the shared TCP and TLS listeners
return the error, the per-connection ones wait for their calls first, and the range over
the WebSocket connections ends, with no error. -/
def cancelled (kind : Kind) : Phase :=
  if kind.isShared then .failed else .draining kind.isPerConn

/-- The step of one listener, if it is at the given point. -/
def State.advance (s : State) (i : Nat) (before : Phase) (after : Kind → Phase) : Option State :=
  match s.listeners[i]? with
  | some listener =>
    if listener.phase = before then
      some (s.setListener i ⟨listener.kind, after listener.kind⟩)
    else none
  | none => none

/-- `finishCallUnlocked` for a call of a listener with the coordinator. -/
def State.finishCall (cfg : Config) (s : State) (owner : Owner) : State :=
  match owner with
  | .connection _ => s
  | _ =>
    { s with
      finished := s.finished + 1
      doneClosed :=
        s.doneClosed || (!cfg.unlimitedCalls && cfg.totalCalls ≤ s.finished + 1) }

/-- One event; `none` means that it cannot happen. -/
def step (cfg : Config) : Event → State → Option State
  | .cancel, s => some { s with ctxDone := true }
  | .connection i, s =>
    match s.listeners[i]? with
    | some ⟨kind, .accepting⟩ =>
      if kind.isShared then some (s.setListener i ⟨kind, .reading⟩)
      else if kind.isWS then some (s.spawn (.listener i) true)
      else if UdpServer.serverRejectNew cfg.toConfig s.accepted then
        some (s.setListener i ⟨kind, .draining false⟩)
      else some (s.admitCall (.listener i))
    | _ => none
  | .message i, s =>
    match s.listeners[i]? with
    | some ⟨_, .pumping⟩ =>
      if UdpServer.serverRejectNew cfg.toConfig s.accepted then some s
      else some (s.admitCall .coordinator)
    | some ⟨_, .reading⟩ =>
      if UdpServer.serverRejectNew cfg.toConfig s.accepted then some s
      else some (s.admitCall (.listener i))
    | _ => none
  | .frame i, s =>
    match s.tasks[i]? with
    | some ⟨_, true, .running⟩ => some (s.spawn (.connection i) false)
    | _ => none
  | .socketFails i, s =>
    match s.listeners[i]? with
    | some ⟨kind, .pumping⟩ => some (s.setListener i ⟨kind, .returned⟩)
    | some ⟨kind, .reading⟩ => some (s.setListener i ⟨kind, .draining false⟩)
    | some ⟨kind, .accepting⟩ => some (s.setListener i ⟨kind, cancelled kind⟩)
    | _ => none
  | .peerCloses i, s =>
    match s.tasks[i]? with
    | some ⟨owner, true, .running⟩ => some (s.setTask i ⟨owner, true, .draining⟩)
    | _ => none
  | .bind i bound, s =>
    s.advance i .starting fun kind => if bound then listening kind else .failed
  | .acceptCancelled i, s =>
    if s.ctxDone then s.advance i .accepting cancelled else none
  | .readCancelled i, s =>
    if s.ctxDone then s.advance i .reading fun _ => .draining false else none
  | .drained i, s =>
    match s.listeners[i]? with
    | some ⟨kind, .draining failed⟩ =>
      if s.idle (.listener i) then
        some (s.setListener i ⟨kind, if failed then .failed else .returned⟩)
      else none
    | _ => none
  | .report i, s => (s.advance i .failed fun _ => .reported).map fun s => { s with errors := true }
  | .cancels i, s =>
    (s.advance i .reported fun _ => .returned).map fun s => { s with ctxDone := true }
  | .callEnds i, s =>
    match s.tasks[i]? with
    | some ⟨owner, false, .running⟩ => some ((s.setTask i ⟨owner, false, .done⟩).finishCall cfg owner)
    | _ => none
  | .connectionDrained i, s =>
    match s.tasks[i]? with
    | some ⟨owner, true, .draining⟩ =>
      if s.idle (.connection i) then some (s.setTask i ⟨owner, true, .done⟩) else none
    | _ => none
  | .wake reason, s =>
    if s.main = .selecting then
      match reason with
      | .error => if s.errors then some { s with main := .waiting false } else none
      | .context => if s.ctxDone then some { s with main := .waiting false } else none
      | .finishedAll =>
        if s.doneClosed ∧ cfg.unlimitedCalls = false then
          some { s with main := .waiting true, ctxDone := true }
        else none
    else none
  | .listenersDone, s =>
    match s.main with
    | .waiting finishedAll =>
      if s.listeners.all fun listener => listener.phase = .returned then
        some { s with main := if finishedAll then .draining else .returned }
      else none
    | _ => none
  | .callsDone, s =>
    if s.main = .draining ∧ s.idle .coordinator then some { s with main := .returned } else none

theorem advance_cases {s next : State} {i : Nat} {before : Phase} {after : Kind → Phase}
    (stepped : s.advance i before after = some next) :
    ∃ kind, s.listeners[i]? = some ⟨kind, before⟩ ∧ next = s.setListener i ⟨kind, after kind⟩ := by
  unfold State.advance at stepped
  split at stepped
  · rename_i listener found
    obtain ⟨rfl, ⟨⟩⟩ := of_guard stepped
    exact ⟨listener.kind, found, rfl⟩
  · cases stepped

/-- No UDP listener gets its socket and no WebSocket connection is accepted. -/
def streamsOnly (event : Event) (s : State) : Bool :=
  match event with
  | .bind i true => s.listeners[i]?.all fun listener => listener.kind ≠ .udp
  | .connection i => s.listeners[i]?.all fun listener => !listener.kind.isWS
  | _ => true

/-- The context is done, or a listener is about to cancel it. -/
def Cancelling (s : State) : Prop :=
  s.ctxDone = true ∨ ∃ listener ∈ s.listeners, listener.phase = .reported

structure Ok (cfg : Config) (s : State) : Prop where
  noPump : ∀ listener ∈ s.listeners, listener.phase ≠ .pumping
  calls : ∀ task ∈ s.tasks, task.isConnection = false ∧ task.phase ≠ .draining
  cancelling : s.errors = true ∨ s.main ≠ .selecting → Cancelling s
  joined : s.main = .draining ∨ s.main = .returned →
    ∀ listener ∈ s.listeners, listener.phase = .returned
  limited : s.doneClosed = true → cfg.unlimitedCalls = false

namespace Ok

variable {cfg : Config} {s : State}

theorem initial (cfg : Config) : Ok cfg (.initial cfg) := by
  refine ⟨?_, ?_, ?_, ?_, fun closed => by cases closed⟩
  · intro listener member
    simp only [State.initial, List.mem_map] at member
    obtain ⟨kind, _, rfl⟩ := member
    exact Phase.noConfusion
  · simp [State.initial]
  · rintro (errors | left)
    · cases errors
    · exact absurd rfl left
  · rintro (impossible | impossible) <;> cases impossible

variable {i : Nat}

section

variable (ok : Ok cfg s)

include ok

/-- A listener goes on.  One that was about to cancel the context has done so. -/
theorem setListener (found : s.listeners[i]? = some old) (active : old.phase ≠ .returned)
    (noPump : new.phase ≠ .pumping) (cancelled : old.phase = .reported → s.ctxDone = true) :
    Ok cfg (s.setListener i new) := by
  have member := mem_of_getElem? found
  refine ⟨Threads.forall_move ok.noPump noPump, ok.calls, ?_, ?_, ok.limited⟩
  · intro asked
    rcases ok.cancelling asked with done | ⟨listener, here, reported⟩
    · exact .inl done
    · by_cases moved : listener = old
      · subst moved
        exact .inl (cancelled reported)
      · obtain ⟨j, inside, rfl⟩ := getElem_of_mem here
        have other : i ≠ j := by
          rintro rfl
          exact moved (Option.some.inj ((getElem?_eq_getElem inside).symm.trans found))
        refine .inr ⟨s.listeners[j], ?_, reported⟩
        apply mem_of_getElem? (i := j)
        simp [State.setListener, getElem?_set_ne other, getElem?_eq_getElem inside]
  · intro joined
    exact absurd (ok.joined joined old member) active

/-- A listener that has not reported an error moves on. -/
theorem moveListener {kind before after}
    (found : s.listeners[i]? = some ⟨kind, before⟩) (active : before ≠ .returned)
    (unreported : before ≠ .reported) (noPump : after ≠ .pumping) :
    Ok cfg (s.setListener i ⟨kind, after⟩) :=
  ok.setListener found active noPump fun reported => absurd reported unreported

theorem setTask (call : task.isConnection = false)
    (phase : task.phase ≠ .draining) : Ok cfg (s.setTask i task) :=
  ⟨ok.noPump, Threads.forall_move ok.calls ⟨call, phase⟩, ok.cancelling, ok.joined, ok.limited⟩

theorem finishCall : Ok cfg (s.finishCall cfg owner) := by
  unfold State.finishCall
  split
  · exact ok
  · refine ⟨ok.noPump, ok.calls, ok.cancelling, ok.joined, ?_⟩
    intro closed
    simp only [Bool.or_eq_true, Bool.and_eq_true, Bool.not_eq_true'] at closed
    rcases closed with before | ⟨limited, _⟩
    · exact ok.limited before
    · exact limited

theorem admitCall : Ok cfg (s.admitCall owner) := by
  refine ⟨ok.noPump, ?_, ok.cancelling, ok.joined, ok.limited⟩
  intro task member
  rcases mem_append.mp member with old | new
  · exact ok.calls task old
  · rw [mem_singleton.mp new]
    exact ⟨rfl, TaskPhase.noConfusion⟩

theorem cancel : Ok cfg { s with ctxDone := true } :=
  ⟨ok.noPump, ok.calls, fun _ => .inl rfl, ok.joined, ok.limited⟩

theorem wake (finishedAll : Bool) (cancelling : Cancelling s) :
    Ok cfg { s with main := .waiting finishedAll } := by
  refine ⟨ok.noPump, ok.calls, fun _ => cancelling, ?_, ok.limited⟩
  rintro (draining | returned)
  · cases draining
  · cases returned

end

theorem cancelled_ne_pumping (kind : Kind) : Shutdown.cancelled kind ≠ .pumping := by
  unfold Shutdown.cancelled
  split <;> exact Phase.noConfusion

theorem step {event : Event} {next : State} (ok : Ok cfg s)
    (guarded : streamsOnly event s) (stepped : step cfg event s = some next) : Ok cfg next := by
  cases event <;> simp only [Shutdown.step] at stepped
  case cancel =>
    cases stepped
    exact ok.cancel
  case connection i =>
    repeat' split at stepped
    all_goals cases stepped
    · rename_i found _
      exact ok.moveListener found nofun nofun nofun
    · rename_i found _ ws
      simp [streamsOnly, found, ws] at guarded
    · rename_i found _ _ _
      exact ok.moveListener found nofun nofun nofun
    · exact ok.admitCall
  case message i =>
    repeat' split at stepped
    all_goals cases stepped
    · exact ok
    · exact ok.admitCall
    · exact ok
    · exact ok.admitCall
  case frame | peerCloses | connectionDrained =>
    split at stepped
    · rename_i found
      cases (ok.calls _ (mem_of_getElem? found)).1
    · cases stepped
  case socketFails i =>
    split at stepped
    all_goals cases stepped
    · rename_i found
      exact absurd rfl (ok.noPump _ (mem_of_getElem? found))
    · rename_i found
      exact ok.moveListener found nofun nofun nofun
    · rename_i kind found
      exact ok.moveListener found nofun nofun (cancelled_ne_pumping kind)
  case bind i bound =>
    obtain ⟨kind, found, rfl⟩ := advance_cases stepped
    refine ok.moveListener found nofun nofun ?_
    cases bound with
    | false => nofun
    | true =>
      simp only [streamsOnly, found, all_some, decide_eq_true_eq] at guarded
      simp [listening, guarded]
  case acceptCancelled i =>
    obtain ⟨kind, found, rfl⟩ := advance_cases (of_guard stepped).2
    exact ok.moveListener found nofun nofun (cancelled_ne_pumping kind)
  case readCancelled i =>
    obtain ⟨kind, found, rfl⟩ := advance_cases (of_guard stepped).2
    exact ok.moveListener found nofun nofun nofun
  case drained i =>
    repeat' split at stepped
    all_goals cases stepped
    all_goals
      rename_i found _ _
      exact ok.moveListener found nofun nofun nofun
  case report i =>
    obtain ⟨moved, advanced, rfl⟩ := map_eq_some_iff.mp stepped
    obtain ⟨kind, found, rfl⟩ := advance_cases advanced
    have kept : Ok cfg (s.setListener i ⟨kind, .reported⟩) :=
      ok.moveListener found nofun nofun nofun
    refine ⟨kept.noPump, kept.calls, fun _ => .inr ⟨⟨kind, .reported⟩, ?_, rfl⟩, kept.joined,
      kept.limited⟩
    exact mem_set (List.getElem?_eq_some_iff.mp found).1 _
  case cancels i =>
    obtain ⟨moved, advanced, rfl⟩ := map_eq_some_iff.mp stepped
    obtain ⟨kind, found, rfl⟩ := advance_cases advanced
    exact ok.cancel.setListener found nofun nofun (fun _ => rfl)
  case callEnds i =>
    split at stepped
    all_goals cases stepped
    exact (ok.setTask rfl TaskPhase.noConfusion).finishCall
  case wake reason =>
    obtain ⟨_, stepped⟩ := of_guard stepped
    cases reason <;> obtain ⟨seen, ⟨⟩⟩ := of_guard stepped
    · exact ok.wake false (ok.cancelling (.inl seen))
    · exact ok.wake false (.inl seen)
    · exact ok.cancel.wake true (.inl rfl)
  case listenersDone =>
    split at stepped
    · rename_i finishedAll waiting
      obtain ⟨all, ⟨⟩⟩ := of_guard stepped
      refine ⟨ok.noPump, ok.calls, fun _ => ok.cancelling (.inr ?_), fun _ => ?_, ok.limited⟩
      · rw [waiting]
        nofun
      · simpa using all
    · cases stepped
  case callsDone =>
    obtain ⟨enabled, ⟨⟩⟩ := of_guard stepped
    refine ⟨ok.noPump, ok.calls, fun _ => ok.cancelling (.inr ?_),
      fun _ => ok.joined (.inl enabled.1), ok.limited⟩
    rw [enabled.1]
    nofun

end Ok

/-! ### Progress -/

section Progress

variable {cfg : Config} {s : State}

end Progress

end Gossipper.Engine.Shutdown
