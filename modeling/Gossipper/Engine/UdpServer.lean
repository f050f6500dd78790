/-
Module: Gossipper.Engine.UdpServer
Purpose: The receive pump of a UDP server and the session goroutines it starts,
  after `udpServerReceivePump` and the pump of `runServerPerSourceIP` in
  `internal/engine/engine.go`.
Trusted boundary: each event is one atomic action of the pump or of a session;
  what a session does between two receives is not part of this module.
Main exports: Config, Event, State, step, Blocked, session_in_order
-/
import Gossipper.Lib.Run
import Gossipper.Scenario.Model

namespace Gossipper.Engine.UdpServer

open Go Sip Scenario Transition List

/-- The configuration the pump reads.  `perSourceIP` is the pump of
`runServerPerSourceIP`, which ties a session to the socket that opened it. -/
structure Config where
  totalCalls : Int
  unlimitedCalls : Bool
  perSourceIP : Bool

/-- `serverRejectNew`. -/
def serverRejectNew (cfg : Config) (currentCount : Nat) : Bool :=
  !cfg.unlimitedCalls && cfg.totalCalls ≤ currentCount

/-- `sipMailboxCap`. -/
def inboxCap : Nat := 512

/-- A parsed datagram with its position in the order of reading. -/
structure Item where
  seq : Nat
  msg : Message

/-- A session: the message that opened it, whether its goroutine has put that
message into the inbox, everything that was ever put there and how much of it the
session has received. -/
structure Session where
  callID : Bytes
  shared : Nat
  opening : Item
  started : Bool
  ended : Bool
  pushed : List Item
  taken : Nat

namespace Session

/-- The messages in the inbox. -/
def contents (session : Session) : List Item :=
  session.pushed.drop session.taken

/-- The messages the session has received, in order. -/
def received (session : Session) : List Item :=
  session.pushed.take session.taken

end Session

/-- The pump, the coordinator and the sessions.  Session `i` is call `i + 1`. -/
structure State where
  readCount : Nat
  accepted : Nat
  finished : Nat
  /-- A message whose session was found and that is not yet in its inbox. -/
  inHand : Option (Item × Nat)
  /-- `co.sessions`. -/
  sessions : List (Bytes × Nat)
  table : Nat → Session

/-- Nothing read. -/
def State.initial : State where
  readCount := 0
  accepted := 0
  finished := 0
  inHand := none
  sessions := []
  table := fun _ => ⟨[], 0, ⟨0, .zero⟩, false, false, [], 0⟩

/-- One action.  `read` carries what the pump reads besides the datagram: the
socket it came from, the switch of the listener and the first recv command of the
live scenario. -/
inductive Event where
  | read (data : Bytes) (circumstances : Reparse) (socket : Nat) (acceptNew : Bool)
      (firstCmd : Option RecvFilter)
  | deliver
  | enqueueStart (session : Nat)
  | receive (session : Nat)
  | finish (session : Nat)

/-- A new session that `item` opens. -/
def openSession (s : State) (callID : Bytes) (socket : Nat) (item : Item) : State :=
  { s with
    accepted := s.accepted + 1
    sessions := (callID, s.accepted) :: s.sessions
    table := Function.update s.table s.accepted
      ⟨callID, socket, item, false, false, [], 0⟩ }

/-- Put a message into an inbox. -/
def push (s : State) (session : Nat) (item : Item) : State :=
  { s with
    table := Function.update s.table session
      { s.table session with pushed := (s.table session).pushed ++ [item] } }

section Step

variable [CaseTables]

/-- The part of the pump under the coordinator's lock. -/
def route (cfg : Config) (s : State) (callID : Bytes) (socket : Nat) (acceptNew : Bool)
    (firstCmd : Option RecvFilter) (item : Item) : State :=
  match s.sessions.lookup callID with
  | some session =>
    if cfg.perSourceIP ∧ (s.table session).shared ≠ socket then s
    else { s with inHand := some (item, session) }
  | none =>
    match acceptNew, firstCmd with
    | true, some filter =>
      if !filter.matchesFirst item.msg || serverRejectNew cfg s.accepted then s
      else openSession s callID socket item
    | _, _ => s

/-- One action.  `none` means that the goroutine waits or has another action next. -/
def step (cfg : Config) : Event → State → Option State
  | .read data circumstances socket acceptNew firstCmd, s =>
    match s.inHand with
    | some _ => none
    | none =>
      let next := { s with readCount := s.readCount + 1 }
      match circumstances.parse data with
      | none => some next
      | some msg =>
        match header msg.headers (ascii "Call-ID") with
        | none => some next
        | some callID =>
          some (route cfg next (normalizeCallID callID) socket acceptNew firstCmd
            ⟨s.readCount, msg⟩)
  | .deliver, s =>
    match s.inHand with
    | none => none
    | some (item, session) =>
      let next := { s with inHand := none }
      -- A full inbox drops the message.
      if (s.table session).contents.length < inboxCap then some (push next session item)
      else some next
  | .enqueueStart session, s =>
    let target := s.table session
    -- A send into the full inbox blocks.
    if session < s.accepted ∧ target.started = false ∧ target.contents.length < inboxCap then
      let s := push s session target.opening
      some { s with
        table := Function.update s.table session { s.table session with started := true } }
    else none
  | .receive session, s =>
    let target := s.table session
    if session < s.accepted ∧ target.started ∧ target.ended = false ∧ target.contents ≠ [] then
      some { s with
        table := Function.update s.table session { target with taken := target.taken + 1 } }
    else none
  | .finish session, s =>
    let target := s.table session
    if session < s.accepted ∧ target.started ∧ target.ended = false then
      some { s with
        finished := s.finished + 1
        sessions := s.sessions.filter fun entry => entry.1 ≠ target.callID
        table := Function.update s.table session { target with ended := true } }
    else none

end Step

/-! ### Sessions in order -/

/-- The inbox of a session that has started begins with the opening message; the
messages in it were read in this order; before the start it is empty. -/
structure SessionOk (readCount : Nat) (session : Session) : Prop where
  opened : session.opening.seq < readCount
  sorted : session.pushed.Pairwise fun a b => a.seq < b.seq
  bound : ∀ item ∈ session.pushed, item.seq < readCount
  fresh : session.started = false → session.pushed = []
  first : session.started = true → session.pushed.head? = some session.opening

/-- A message that was read after everything its session has. -/
structure HandOk (readCount : Nat) (session : Session) (item : Item) : Prop where
  recent : item.seq < readCount
  afterOpening : session.opening.seq < item.seq
  afterPushed : ∀ other ∈ session.pushed, other.seq < item.seq

/-- What every state reached under the guard keeps. -/
structure InOrder (s : State) : Prop where
  sessions : ∀ i, i < s.accepted → SessionOk s.readCount (s.table i)
  registered : ∀ callID i, (callID, i) ∈ s.sessions → i < s.accepted
  hand : ∀ item i, s.inHand = some (item, i) →
    i < s.accepted ∧ HandOk s.readCount (s.table i) item

/-- The pump puts a message into an inbox only behind the opening message. -/
def startedFirst (event : Event) (s : State) : Bool :=
  match event, s.inHand with
  | .deliver, some (_, i) => (s.table i).started
  | _, _ => true

namespace SessionOk

variable {readCount : Nat} {session : Session}

theorem mono (ok : SessionOk readCount session) : SessionOk (readCount + 1) session :=
  ⟨Nat.lt_succ_of_lt ok.opened, ok.sorted,
    fun item member => Nat.lt_succ_of_lt (ok.bound item member), ok.fresh, ok.first⟩

theorem same (ok : SessionOk readCount session)
    (opening : other.opening = session.opening) (pushed : other.pushed = session.pushed)
    (started : other.started = session.started) : SessionOk readCount other := by
  obtain ⟨opened, sorted, bound, fresh, first⟩ := ok
  constructor <;> simp only [opening, pushed, started] <;> assumption

theorem opening (callID : Bytes) (socket : Nat) (item : Item) :
    SessionOk (item.seq + 1) ⟨callID, socket, item, false, false, [], 0⟩ :=
  ⟨Nat.lt_succ_self _, .nil, by simp, fun _ => rfl, by simp⟩

theorem start (ok : SessionOk readCount session) (waiting : session.started = false) :
    SessionOk readCount
      { session with pushed := session.pushed ++ [session.opening], started := true } := by
  have empty := ok.fresh waiting
  exact ⟨ok.opened, by simp [empty], by simp [empty, ok.opened], by simp, by simp [empty]⟩

/-- A later message goes behind what is there. -/
theorem push (ok : SessionOk readCount session)
    (hand : HandOk readCount session item) (started : session.started = true) :
    SessionOk readCount { session with pushed := session.pushed ++ [item] } := by
  refine ⟨ok.opened, ?_, ?_, ?_, ?_⟩
  · rw [pairwise_append]
    refine ⟨ok.sorted, pairwise_singleton _ _, fun other member last isItem => ?_⟩
    rw [mem_singleton.mp isItem]
    exact hand.afterPushed other member
  · intro other member
    rcases mem_append.mp member with old | isItem
    · exact ok.bound other old
    · rw [mem_singleton.mp isItem]
      exact hand.recent
  · simp [started]
  · intro _
    rw [head?_append, ok.first started]
    rfl

end SessionOk

/-- Changing one session that stays in order, while the pump has nothing in hand
for it that the change could overtake. -/
theorem InOrder.update {s t} (ok : InOrder s) {i next}
    (count : t.readCount = s.readCount) (accepted : t.accepted = s.accepted)
    (registry : ∀ entry ∈ t.sessions, entry ∈ s.sessions)
    (table : t.table = Function.update s.table i next)
    (nextOk : i < s.accepted → SessionOk s.readCount next)
    (hand : ∀ item j, t.inHand = some (item, j) → s.inHand = some (item, j) ∧
      (j = i → HandOk s.readCount (s.table i) item → HandOk s.readCount next item)) :
    InOrder t := by
  refine ⟨fun j known => ?_, fun callID j entry => ?_, fun item j holds => ?_⟩
  · rw [accepted] at known
    rw [count, table]
    by_cases own : j = i
    · subst own
      rw [Function.update_self]
      exact nextOk known
    · rw [Function.update_of_ne own]
      exact ok.sessions j known
  · rw [accepted]
    exact ok.registered callID j (registry _ entry)
  · obtain ⟨held, keeps⟩ := hand item j holds
    obtain ⟨known, handOk⟩ := ok.hand item j held
    rw [accepted, count, table]
    refine ⟨known, ?_⟩
    by_cases own : j = i
    · subst own
      rw [Function.update_self]
      exact keeps rfl handOk
    · rw [Function.update_of_ne own]
      exact handOk

section Order

variable [CaseTables]

variable {cfg : Config}

/-- Routing a message that was just read. -/
theorem InOrder.route (ok : InOrder s) (idle : s.inHand = none)
    (callID : Bytes) (socket : Nat) (acceptNew : Bool) (firstCmd : Option RecvFilter)
    (msg : Message) :
    InOrder (route cfg { s with readCount := s.readCount + 1 } callID socket acceptNew firstCmd
      ⟨s.readCount, msg⟩) := by
  have counted : InOrder { s with readCount := s.readCount + 1 } :=
    ⟨fun i known => (ok.sessions i known).mono, ok.registered, by simp [idle]⟩
  unfold UdpServer.route
  split
  · rename_i i present
    obtain ⟨before, after, sessionsEq, _⟩ := lookup_eq_some_iff.mp present
    have known : i < s.accepted :=
      ok.registered callID i (by simp [show s.sessions = _ from sessionsEq])
    split
    · exact counted
    · refine ⟨counted.sessions, counted.registered, fun item j holds => ?_⟩
      simp only [Option.some.injEq, Prod.mk.injEq] at holds
      obtain ⟨rfl, rfl⟩ := holds
      have session := ok.sessions i known
      exact ⟨known, Nat.lt_succ_self _, session.opened, session.bound⟩
  · split
    · split
      · exact counted
      · refine ⟨fun i known => ?_, fun key i entry => ?_, by simp [openSession, idle]⟩
        · by_cases isNew : i = s.accepted
          · subst isNew
            simpa [openSession] using SessionOk.opening callID socket ⟨s.readCount, msg⟩
          · have older : i < s.accepted := Nat.lt_of_le_of_ne (Nat.lt_succ_iff.mp known) isNew
            simpa [openSession, isNew] using counted.sessions i older
        · simp only [openSession, mem_cons, Prod.mk.injEq] at entry
          rcases entry with ⟨_, rfl⟩ | old
          · exact Nat.lt_succ_self _
          · exact Nat.lt_succ_of_lt (ok.registered key i old)
    · exact counted

variable {event : Event} {s t : State}

theorem step_inOrder
    (guarded : startedFirst event s = true) (stepped : step cfg event s = some t) (ok : InOrder s) :
    InOrder t := by
  cases event with
  | read data circumstances socket acceptNew firstCmd =>
    simp only [step] at stepped
    split at stepped
    · cases stepped
    · rename_i idle
      have counted : InOrder { s with readCount := s.readCount + 1 } :=
        ⟨fun i known => (ok.sessions i known).mono, ok.registered, by simp [idle]⟩
      split at stepped
      · cases stepped
        exact counted
      · split at stepped
        · cases stepped
          exact counted
        · cases stepped
          exact ok.route idle _ _ _ _ _
  | deliver =>
    simp only [step] at stepped
    split at stepped
    · cases stepped
    · rename_i item i holds
      obtain ⟨known, hand⟩ := ok.hand item i holds
      have started : (s.table i).started = true := by simpa [startedFirst, holds] using guarded
      split at stepped
      · cases stepped
        exact ok.update rfl rfl (fun _ => id) rfl
          (fun known => (ok.sessions i known).push hand started) (by simp [push])
      · cases stepped
        exact ⟨ok.sessions, ok.registered, by simp⟩
  | enqueueStart i =>
    simp only [step] at stepped
    obtain ⟨enabled, stepped⟩ := of_guard stepped
    obtain ⟨known, waiting, _⟩ := enabled
    cases stepped
    refine ok.update rfl rfl (fun _ => id) (by simp [push])
      (fun known => (ok.sessions i known).start waiting) fun item j holds => ⟨holds, ?_⟩
    rintro rfl ⟨recent, afterOpening, _⟩
    refine ⟨recent, afterOpening, fun other member => ?_⟩
    simp only [(ok.sessions j known).fresh waiting, nil_append, mem_singleton]
      at member
    rw [member]
    exact afterOpening
  | receive i =>
    simp only [step] at stepped
    obtain ⟨_, ⟨⟩⟩ := of_guard stepped
    exact ok.update rfl rfl (fun _ => id) rfl
      (fun known => (ok.sessions i known).same rfl rfl rfl)
      fun item j holds => ⟨holds, fun _ hand => ⟨hand.recent, hand.afterOpening, hand.afterPushed⟩⟩
  | finish i =>
    simp only [step] at stepped
    obtain ⟨_, ⟨⟩⟩ := of_guard stepped
    exact ok.update rfl rfl (fun _ => mem_of_mem_filter) rfl
      (fun known => (ok.sessions i known).same rfl rfl rfl)
      fun item j holds => ⟨holds, fun _ hand => ⟨hand.recent, hand.afterOpening, hand.afterPushed⟩⟩

theorem step_accepted (stepped : step cfg event s = some t) :
    match event with
    | .read _ _ _ _ _ => t.accepted = s.accepted ∨ t.accepted = s.accepted + 1
    | _ => t.accepted = s.accepted := by
  cases event with
  | read data circumstances socket acceptNew firstCmd =>
    simp only [step] at stepped ⊢
    split at stepped
    · cases stepped
    · repeat' split at stepped
      all_goals cases stepped
      · exact .inl rfl
      · exact .inl rfl
      · unfold route
        repeat' split
        all_goals first | exact .inl rfl | exact .inr rfl
  | deliver =>
    simp only [step] at stepped
    repeat' split at stepped
    all_goals cases stepped
    all_goals rfl
  | enqueueStart i | receive i | finish i =>
    simp only [step] at stepped
    split at stepped
    all_goals cases stepped
    all_goals rfl

/-! ### A blocked session -/

/-- The goroutine of a session waits to put the opening message into its own full
inbox. -/
def Blocked (s : State) (i : Nat) : Prop :=
  i < s.accepted ∧ (s.table i).started = false ∧ inboxCap ≤ (s.table i).contents.length

/-! ### Whole runs -/

/-- In every run in which the pump puts messages into an inbox only behind the
opening message, every session receives the opening message first and the others
in the order in which they were read, and no session is blocked on its inbox. -/
theorem session_in_order {cfg : Config} {events : List Event} {s : State}
    (run : Guarded (step cfg) (fun event s => startedFirst event s = true) .initial events s)
    (i : Nat) (known : i < s.accepted) :
    ((s.table i).received = [] ∨ (s.table i).received.head? = some (s.table i).opening) ∧
      ((s.table i).received.Pairwise fun a b => a.seq < b.seq) ∧ ¬ Blocked s i := by
  have start : InOrder .initial := ⟨by simp [State.initial], by simp [State.initial],
    by simp [State.initial]⟩
  have ordered : InOrder s :=
    run.invariant start fun _ _ _ guarded stepped ok => step_inOrder guarded stepped ok
  have ok := ordered.sessions i known
  refine ⟨?_, ok.sorted.sublist (take_sublist _ _), ?_⟩
  · cases started : (s.table i).started with
    | false => simp [Session.received, ok.fresh started]
    | true =>
      cases taken : (s.table i).taken with
      | zero => simp [Session.received, taken]
      | succ n => simp [Session.received, taken, head?_take, ok.first started]
  · rintro ⟨_, waiting, full⟩
    simp [Session.contents, ok.fresh waiting, inboxCap] at full

end Order

/-! ### Concrete runs -/

section Concrete

attribute [local instance] CaseTables.asciiOnly

/-- A server without a call limit. -/
def unlimited : Config := ⟨0, true, false⟩

/-- The pump reads an INVITE of one call; the scenario starts with recv INVITE. -/
def readInvite : Event :=
  .read (ascii "INVITE b c\r\nCall-ID: x\r\n\r\n") .fresh 0 true
    (some ⟨ascii "INVITE", [], none⟩)

/-- The session puts its opening message into the inbox before the pump delivers a
retransmission. -/
theorem session_starts_first :
    ∃ s, Guarded (step unlimited) (fun event s => startedFirst event s = true) .initial
        [readInvite, .enqueueStart 0, readInvite, .deliver, .receive 0, .receive 0] s ∧
      ((s.table 0).received = [] ∨ (s.table 0).received.head? = some (s.table 0).opening) ∧
      ((s.table 0).received.Pairwise fun a b => a.seq < b.seq) ∧ ¬ Blocked s 0 := by
  have finishes : (exec (restrict (step unlimited) startedFirst)
      [readInvite, .enqueueStart 0, readInvite, .deliver, .receive 0, .receive 0]
      .initial).map State.accepted = some 1 := by decide
  obtain ⟨s, executed, known⟩ := Option.map_eq_some_iff.mp finishes
  have run := Guarded.of_exec executed
  exact ⟨s, run, session_in_order run 0 (by omega)⟩

/-- The pump is faster: the session receives the retransmission first. -/
theorem session_overtaken :
    (exec (step unlimited) [readInvite, readInvite, .deliver, .enqueueStart 0, .receive 0]
        .initial).map
      (fun s => ((s.table 0).opening.seq, (s.table 0).received.map Item.seq)) =
        some (0, [1]) := by
  decide

end Concrete

end Gossipper.Engine.UdpServer
