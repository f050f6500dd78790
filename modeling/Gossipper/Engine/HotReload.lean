/-
Module: Gossipper.Engine.HotReload
Purpose: The live scenario of a UDP server: `TryReplaceLiveScenario`, the snapshot of the
  accept path (`snapshotLiveFirstRecvCommand`) and the snapshot each session takes for itself
  at the head of `executeCall`, after `internal/engine/engine.go`.  The pump, the replacements
  and the calls are interleaved freely.
Trusted boundary: as in `Gossipper.Engine.UdpServer` and `Gossipper.Engine.Call`.  The accept
  path reads the live scenario once, so a replacement during the rest of it is one after it.
Main exports: LiveScenario, tryReplaceLiveScenario, State, Event, step, Unmixed, always_unmixed_iff
-/
import Gossipper.Engine.Call
import Gossipper.Engine.UdpServer
import Gossipper.Scenario.Parse

namespace Gossipper.Engine.HotReload

open Go Sip Scenario Transition Option

/-- `Scenario`, as far as the accept path and the executor read it. -/
structure LiveScenario where
  mode : Mode
  commands : List Command
  unexpMain : Option Nat

/-- What the executor runs for a scenario; the transport is UDP. -/
def LiveScenario.script (scenario : LiveScenario) : Call.Script where
  commands := scenario.commands
  unexpMain := scenario.unexpMain
  udp := true

/-- `firstReceiveIndex`; `none` is -1. -/
def firstReceiveIndex (scenario : LiveScenario) : Option Nat :=
  scenario.commands.findIdx? fun cmd => cmd.type = .recv

/-- `snapshotLiveFirstRecvCommand`, on the snapshot it takes. -/
def snapshotLiveFirstRecvCommand (scenario : LiveScenario) : Option Command :=
  (firstReceiveIndex scenario).bind fun i =>
    scenario.commands[i]?.filter fun cmd => cmd.type = .recv

/-- A mode in quotes; its text has nothing to escape. -/
def quotedMode : Mode → Bytes
  | .client => ascii "\"client\""
  | .server => ascii "\"server\""

/-- A call under way: the scenario that `executeCall` took, and where it stands. -/
structure Running where
  scenario : LiveScenario
  state : Call.State

/-- The engine.  `mode` is the mode of the startup scenario; `acceptedBy` records for each session
the scenario whose first recv its opening message was matched with. -/
structure State where
  mode : Mode
  live : LiveScenario
  server : UdpServer.State
  acceptedBy : Nat → Option LiveScenario
  calls : Nat → Option Running

/-- The engine at its start. -/
def State.initial (scenario : LiveScenario) : State where
  mode := scenario.mode
  live := scenario
  server := .initial
  acceptedBy := fun _ => none
  calls := fun _ => none

/-- `TryReplaceLiveScenario`. -/
def tryReplaceLiveScenario (s : State) (next : LiveScenario) : Except Bytes State :=
  if next.mode ≠ s.mode then
    .error (ascii "scenario mode " ++ quotedMode next.mode ++
      ascii " does not match startup mode " ++ quotedMode s.mode ++
      ascii " (restart required)")
  else .ok { s with live := next }

/-- One action: a replacement, one of the pump or of a session before its call, the snapshot at
the head of `executeCall`, a step of the executor, or the end of a session. -/
inductive Event where
  | replace (next : LiveScenario)
  | read (data : Bytes) (circumstances : Reparse) (socket : Nat) (acceptNew : Bool)
  | deliver
  | enqueueStart (session : Nat)
  | begin (session : Nat)
  | command (session : Nat) (event : Call.Event)
  | finish (session : Nat)

/-- The call has returned. -/
def Running.isOver (call : Running) : Bool :=
  match call.state.phase with
  | .ended _ => true
  | _ => false

section Step

variable [CaseTables]

/-- The message that a step of the executor takes from the mailbox. -/
def takenMessage (script : Call.Script) (event : Call.Event) (s : Call.State) : Option Message :=
  match s.phase, script.commands[s.index]?, event with
  | .waiting _ _, some cmd, .poll (.message msg) _ _ _ =>
    match Call.nextSource cmd s with
    | .network => some msg
    | _ => none
  | _, _, _ => none

/-- A message the executor takes is the next one in the inbox of its session. -/
def receiveNext (cfg : UdpServer.Config) (server : UdpServer.State) (session : Nat)
    (taken : Option Message) : Option UdpServer.State :=
  match taken with
  | none => some server
  | some msg =>
    if (server.table session).contents.head?.map UdpServer.Item.msg = some msg then
      UdpServer.step cfg (.receive session) server
    else none

/-- What the pump leaves behind a datagram that it read while `live` was the live scenario. -/
def State.pumped (s : State) (server : UdpServer.State) : State :=
  { s with
    server := server
    acceptedBy :=
      if s.server.accepted < server.accepted then
        Function.update s.acceptedBy s.server.accepted (some s.live)
      else s.acceptedBy }

/-- One action; `none` means that it cannot happen in the state. -/
def step (cfg : UdpServer.Config) (event : Event) (s : State) : Option State :=
  match event with
  | .replace next =>
    match tryReplaceLiveScenario s next with
    | .ok replaced => some replaced
    | .error _ => some s
  | .read data circumstances socket acceptNew =>
    let firstCmd := (snapshotLiveFirstRecvCommand s.live).map Command.filter
    (UdpServer.step cfg (.read data circumstances socket acceptNew firstCmd) s.server).map
      s.pumped
  | .deliver => (UdpServer.step cfg .deliver s.server).map fun server => { s with server }
  | .enqueueStart session =>
    (UdpServer.step cfg (.enqueueStart session) s.server).map fun server => { s with server }
  | .begin session =>
    if session < s.server.accepted ∧ (s.server.table session).started = true ∧
        (s.calls session).isNone then
      some { s with calls := Function.update s.calls session (some ⟨s.live, .initial⟩) }
    else none
  | .command session event =>
    (s.calls session).bind fun call =>
      (Call.step call.scenario.script event call.state).bind fun next =>
        (receiveNext cfg s.server session
            (takenMessage call.scenario.script event call.state)).map fun server =>
          { s with
            server := server
            calls := Function.update s.calls session (some { call with state := next }) }
  | .finish session =>
    if (s.calls session).any Running.isOver then
      (UdpServer.step cfg (.finish session) s.server).map fun server => { s with server }
    else none

end Step

/-! ### One scenario per session -/

/-- A call runs the scenario its session was accepted by, and nothing else. -/
def Unmixed [CaseTables] (s : State) : Prop :=
  ∀ i call, s.calls i = some call →
    s.acceptedBy i = some call.scenario ∧
      ∃ events, Run (Call.step call.scenario.script) .initial events call.state

/-- `executeCall` takes the scenario that the session was accepted by. -/
def beginsUnderAccepted (event : Event) (s : State) : Prop :=
  match event with
  | .begin session => s.acceptedBy session = some s.live
  | _ => True

theorem beginsUnderAccepted_of_ne (notBegin : ∀ i, event ≠ .begin i) :
    beginsUnderAccepted event s := by
  cases event with
  | begin i => exact absurd rfl (notBegin i)
  | replace | read | deliver | enqueueStart | command | finish => trivial

/-- Calls belong to accepted sessions and run the scenario they took. -/
def Founded [CaseTables] (s : State) : Prop :=
  ∀ i call, s.calls i = some call →
    i < s.server.accepted ∧
      ∃ events, Run (Call.step call.scenario.script) .initial events call.state

section Sessions

variable [CaseTables] {cfg : UdpServer.Config}

/-- What an action does to the calls and to the scenarios the sessions were accepted by. -/
inductive Stepped (s : State) : Event → State → Prop where
  | replace {next live : LiveScenario} : Stepped s (.replace next) { s with live }
  | read {data : Bytes} {circumstances : Reparse} {socket : Nat} {acceptNew : Bool}
      {server : UdpServer.State} :
      server.accepted = s.server.accepted ∨ server.accepted = s.server.accepted + 1 →
        Stepped s (.read data circumstances socket acceptNew) (s.pumped server)
  | inbox {event : Event} {server : UdpServer.State} :
      server.accepted = s.server.accepted → (∀ i, event ≠ .begin i) →
        Stepped s event { s with server }
  | begin {session : Nat} :
      session < s.server.accepted → s.calls session = none →
        Stepped s (.begin session)
          { s with calls := Function.update s.calls session (some ⟨s.live, .initial⟩) }
  | command {session : Nat} {event : Call.Event} {call : Running} {next : Call.State}
      {server : UdpServer.State} :
      s.calls session = some call →
        Call.step call.scenario.script event call.state = some next →
        server.accepted = s.server.accepted →
        Stepped s (.command session event)
          { s with
            server := server
            calls := Function.update s.calls session (some { call with state := next }) }

theorem receiveNext_accepted {server next session taken} (received : receiveNext cfg server session taken = some next) :
    next.accepted = server.accepted := by
  unfold receiveNext at received
  split at received
  · cases received
    rfl
  · obtain ⟨_, received⟩ := of_guard received
    exact UdpServer.step_accepted received

variable {s t : State} {event : Event}

theorem step_stepped (stepped : step cfg event s = some t) :
    Stepped s event t := by
  cases event with
  | replace next =>
    simp only [step, tryReplaceLiveScenario] at stepped
    split at stepped
    · rename_i replaced accepted
      cases stepped
      split at accepted
      · cases accepted
      · cases accepted
        exact .replace
    · cases stepped
      exact .replace
  | read data circumstances socket acceptNew =>
    obtain ⟨server, pumped, rfl⟩ := map_eq_some_iff.mp stepped
    exact .read (UdpServer.step_accepted pumped)
  | deliver | enqueueStart session =>
    obtain ⟨server, moved, rfl⟩ := map_eq_some_iff.mp stepped
    exact .inbox (UdpServer.step_accepted moved) (fun _ => Event.noConfusion)
  | begin session =>
    simp only [step] at stepped
    obtain ⟨possible, ⟨⟩⟩ := of_guard stepped
    exact .begin possible.1 (isNone_iff_eq_none.mp possible.2.2)
  | command session event =>
    obtain ⟨call, found, rest⟩ := bind_eq_some_iff.mp stepped
    obtain ⟨next, executed, rest⟩ := bind_eq_some_iff.mp rest
    obtain ⟨server, received, rfl⟩ := map_eq_some_iff.mp rest
    exact .command found executed (receiveNext_accepted received)
  | finish session =>
    simp only [step] at stepped
    obtain ⟨_, stepped⟩ := of_guard stepped
    obtain ⟨server, moved, rfl⟩ := map_eq_some_iff.mp stepped
    exact .inbox (UdpServer.step_accepted moved) (fun _ => Event.noConfusion)

variable {call : Running} {i : Nat}

section

variable (stepped : step cfg event s = some t)

include stepped

/-- A call of the state behind a step is an old one with its old scenario, or has just begun. -/
theorem call_of_step (found : t.calls i = some call) :
    (∃ old, s.calls i = some old ∧ call.scenario = old.scenario ∧
      ∃ events, Run (Call.step call.scenario.script) old.state events call.state) ∨
    event = .begin i ∧ i < s.server.accepted ∧ call = ⟨s.live, .initial⟩ := by
  have unchanged (same : t.calls i = s.calls i) :
      ∃ old, s.calls i = some old ∧ call.scenario = old.scenario ∧
        ∃ events, Run (Call.step call.scenario.script) old.state events call.state :=
    ⟨call, same.symm.trans found, rfl, [], .nil _⟩
  cases step_stepped stepped with
  | replace | read | inbox => exact .inl (unchanged rfl)
  | @begin session inside _ =>
    by_cases here : i = session
    · subst here
      simp only [Function.update_self, Option.some.injEq] at found
      exact .inr ⟨rfl, inside, found.symm⟩
    · exact .inl (unchanged (Function.update_of_ne here _ _))
  | @command session event old next server known executed =>
    by_cases here : i = session
    · subst here
      simp only [Function.update_self, Option.some.injEq] at found
      subst found
      exact .inl ⟨old, known, rfl, [event], .cons executed (.nil _)⟩
    · exact .inl (unchanged (Function.update_of_ne here _ _))

theorem accepted_mono :
    s.server.accepted ≤ t.server.accepted := by
  cases step_stepped stepped with
  | replace | begin => exact Nat.le_refl _
  | read opened =>
    simp only [State.pumped]
    omega
  | inbox same | command _ _ same => exact Nat.le_of_eq same.symm

theorem acceptedBy_step (inside : i < s.server.accepted) : t.acceptedBy i = s.acceptedBy i := by
  cases step_stepped stepped with
  | replace | begin | inbox | command => rfl
  | read opened =>
    simp only [State.pumped]
    split
    · exact Function.update_of_ne (Nat.ne_of_lt inside) _ _
    · rfl

theorem founded_step (founded : Founded s) : Founded t := by
  intro i call found
  rcases call_of_step stepped found with ⟨old, known, same, rest, more⟩ | ⟨_, inside, isNew⟩
  · obtain ⟨inside, events, run⟩ := founded i old known
    refine ⟨Nat.lt_of_lt_of_le inside (accepted_mono stepped), events ++ rest, ?_⟩
    rw [same] at more ⊢
    exact run.append more
  · subst isNew
    exact ⟨Nat.lt_of_lt_of_le inside (accepted_mono stepped), [], .nil _⟩

/-- A step keeps sessions unmixed exactly when a call that begins finds the scenario its session
was accepted by. -/
theorem unmixed_step_iff
    (founded : Founded s) (unmixed : Unmixed s) : Unmixed t ↔ beginsUnderAccepted event s := by
  constructor
  · intro kept
    cases step_stepped stepped with
    | replace | read | command => trivial
    | inbox _ notBegin => exact beginsUnderAccepted_of_ne notBegin
    | @begin session _ _ => exact (kept session _ (Function.update_self ..)).1
  · intro begins i call found
    refine ⟨?_, (founded_step stepped founded i call found).2⟩
    rcases call_of_step stepped found with ⟨old, known, same, -⟩ | ⟨rfl, inside, rfl⟩
    · obtain ⟨inside, -⟩ := founded i old known
      rw [acceptedBy_step stepped inside, same]
      exact (unmixed i old known).1
    · rw [acceptedBy_step stepped inside]
      exact begins

theorem scenario_step (found : s.calls i = some call) :
    ∃ later, t.calls i = some later ∧ later.scenario = call.scenario := by
  cases step_stepped stepped with
  | replace | read | inbox => exact ⟨call, found, rfl⟩
  | @begin session _ absent =>
    have other : i ≠ session := by
      rintro rfl
      cases found.symm.trans absent
    exact ⟨call, (Function.update_of_ne other _ _).trans found, rfl⟩
  | @command session event old next server known _ _ =>
    by_cases here : i = session
    · subst here
      cases known.symm.trans found
      exact ⟨_, Function.update_self .., rfl⟩
    · exact ⟨call, (Function.update_of_ne here _ _).trans found, rfl⟩

end

theorem scenario_run (run : Run (step cfg) s events t) (found : s.calls i = some call) :
    ∃ later, t.calls i = some later ∧ later.scenario = call.scenario := by
  have start : ∃ later, s.calls i = some later ∧ later.scenario = call.scenario :=
    ⟨call, found, rfl⟩
  apply run.invariant start
  rintro event before after stepped ⟨middle, known, same⟩
  obtain ⟨later, atEnd, kept⟩ := scenario_step stepped known
  exact ⟨later, atEnd, kept.trans same⟩

/-- No accepted session waits for its snapshot while the live scenario is replaced. -/
def replacedAtRest (event : Event) (s : State) : Prop :=
  match event with
  | .replace _ => ∀ i, i < s.server.accepted → s.calls i ≠ none
  | _ => True

/-- A session that has not begun was accepted by the live scenario. -/
def Current (s : State) : Prop :=
  ∀ i, i < s.server.accepted → s.calls i = none → s.acceptedBy i = some s.live

theorem current_step (atRest : replacedAtRest event s)
    (stepped : step cfg event s = some t) (current : Current s) : Current t := by
  intro i inside waits
  have waited : s.calls i = none := by
    by_contra begun
    obtain ⟨call, found⟩ := ne_none_iff_exists'.mp begun
    obtain ⟨later, atEnd, -⟩ := scenario_step stepped found
    cases atEnd.symm.trans waits
  cases step_stepped stepped with
  | replace => exact absurd waited (atRest i inside)
  | inbox same | command _ _ same => exact current i (same ▸ inside) waited
  | begin => exact current i inside waited
  | read opened =>
    simp only [State.pumped] at inside ⊢
    rcases opened with same | opened
    · rw [if_neg (by omega)]
      exact current i (same ▸ inside) waited
    · rw [if_pos (by omega)]
      by_cases here : i = s.server.accepted
      · rw [here, Function.update_self]
      · rw [Function.update_of_ne here]
        exact current i (by omega) waited

/-- Replacements at rest never come between the two snapshots of a session. -/
theorem beginsUnderAccepted_of_atRest
    (guarded : Guarded (step cfg) replacedAtRest (.initial live) events final) :
    Guarded (step cfg) beginsUnderAccepted (.initial live) events final := by
  apply guarded.imp_of_invariant Current
  · intro i inside
    exact absurd inside (Nat.not_lt_zero i)
  · intro event before after atRest stepped current
    exact current_step atRest stepped current
  · intro event before after stepped current _
    cases step_stepped stepped with
    | replace | read | command => trivial
    | inbox _ notBegin => exact beginsUnderAccepted_of_ne notBegin
    | @begin session inside absent => exact current session inside absent

/-- Every session of a run executes the scenario it was accepted by exactly when each call begins
under that scenario; and a call under way keeps its scenario in any case. -/
theorem always_unmixed_iff (live : LiveScenario) (events : List Event) (final : State) :
    (Always (step cfg) Unmixed (.initial live) events final ↔
      Guarded (step cfg) beginsUnderAccepted (.initial live) events final) ∧
    ∀ middle rest, Run (step cfg) middle rest final → ∀ i call, middle.calls i = some call →
      ∃ later, final.calls i = some later ∧ later.scenario = call.scenario := by
  refine ⟨?_, ?_⟩
  · apply always_iff_guarded_of_invariant Founded
    · intro i call found
      cases found
    · intro event before after stepped founded
      exact founded_step stepped founded
    · intro i call found
      cases found
    · intro event before after stepped founded unmixed
      exact unmixed_step_iff stepped founded unmixed
  · intro middle rest run i call found
    exact scenario_run run found

end Sessions

section Examples

attribute [local instance] CaseTables.asciiOnly

/-- A server scenario that waits for one request. -/
def awaits (method : String) : LiveScenario where
  mode := .server
  commands := [{
    type := .recv
    filter := ⟨ascii method, [], none⟩
    optional := false
    retrans := 0
    condExec := []
    nextIndex := none
    conditional := false }]
  unexpMain := none

/-- What a scenario waits for. -/
def LiveScenario.awaited (scenario : LiveScenario) : List Bytes :=
  scenario.commands.map fun cmd => cmd.filter.recvReq

/-- An INVITE opens a session; before its goroutine runs, a scenario for OPTIONS is put in place:
the session waits for an OPTIONS. -/
theorem replaced_between_snapshots :
    (exec (step UdpServer.unlimited)
        [.read (ascii "INVITE sip:b SIP/2.0\r\nCall-ID: 1\r\n\r\n") .fresh 0 true,
          .replace (awaits "OPTIONS"), .enqueueStart 0, .begin 0]
        (.initial (awaits "INVITE"))).map (fun s =>
          ((s.acceptedBy 0).map LiveScenario.awaited,
            (s.calls 0).map fun call => call.scenario.awaited)) =
      some (some [ascii "INVITE"], some [ascii "OPTIONS"]) := by
  decide

end Examples

end Gossipper.Engine.HotReload
