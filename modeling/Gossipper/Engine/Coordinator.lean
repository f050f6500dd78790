/-
Module: Gossipper.Engine.Coordinator
Purpose: The counters and call numbers of the coordinator that several server
  listeners share, over every order of their critical sections.
Trusted boundary: none beyond Gossipper.Engine.Listeners
Main exports: Numbers, Free, Finishes, coordinator_invariant
-/
import Mathlib.Data.List.Nodup
import Gossipper.Engine.Listeners

namespace Gossipper.Engine.Listeners

open Go Sip Scenario Transition Option
open List hiding beq_eq_decide

variable {cfg : Config} {s : State}

/-! ### Numbers

Every number up to `accepted` belongs to one call or to one read loop that is about
to start a call. -/

/-- How many calls and read loops have the number. -/
def State.held (s : State) (number : Nat) : Nat :=
  s.calls.countP (·.number = number) + s.readers.countP (·.number = some number)

/-- How many should have it when `accepted` numbers were given out. -/
def owners (accepted number : Nat) : Nat :=
  if 1 ≤ number ∧ number ≤ accepted then 1 else 0

theorem owners_succ (accepted number : Nat) :
    owners (accepted + 1) number =
      owners accepted number + if accepted + 1 = number then 1 else 0 := by
  unfold owners
  split <;> split <;> split <;> omega

structure Numbers (cfg : Config) (s : State) : Prop where
  held : ∀ number, s.held number = owners s.accepted number
  total : s.calls.length + s.readers.countP (·.number.isSome) = s.accepted
  limit : cfg.unlimitedCalls = false → s.accepted ≤ max 0 cfg.totalCalls

theorem below_limit (room : cfg.serverRejectNew s.accepted = false)
    (limited : cfg.unlimitedCalls = false) :
    ((s.accepted + 1 : Nat) : Int) ≤ max 0 cfg.totalCalls := by
  simp only [Config.serverRejectNew, UdpServer.serverRejectNew, limited, Bool.not_false,
    Bool.true_and, decide_eq_false_iff_not] at room
  omega

namespace Numbers

theorem initial (cfg : Config) : Numbers cfg (.initial cfg) := by
  have none : ∀ p : Reader → Bool, p .idle = false →
      (cfg.listeners.map fun _ => Reader.idle).countP p = 0 := by
    intro p idle
    simp [idle]
  constructor
  · intro number
    simp only [State.held, State.initial, countP_nil]
    rw [none _ rfl, owners, if_neg (by omega)]
  · simp only [State.initial, length_nil]
    rw [none _ rfl]
  · intro _
    exact Int.le_max_left 0 cfg.totalCalls

section

variable (numbers : Numbers cfg s)

include numbers

theorem setReader (found : s.readers[listener]? = some old) (same : new.number = old.number) :
    Numbers cfg (s.setReader listener new) := by
  refine ⟨?_, ?_, numbers.limit⟩
  · intro number
    simp only [State.held, State.setReader]
    rw [Threads.countP_same _ found (by simp [same])]
    exact numbers.held number
  · simp only [State.setReader]
    rw [Threads.countP_same _ found (by simp [same])]
    exact numbers.total

/-- A read loop reserves the next number. -/
theorem reserve (found : s.readers[listener]? = some (.checked callID))
    (room : cfg.serverRejectNew s.accepted = false) :
    Numbers cfg ({ s with accepted := s.accepted + 1 }.setReader listener
      (.reserved callID (s.accepted + 1))) := by
  refine ⟨?_, ?_, below_limit room⟩
  · intro number
    have moved := Threads.countP_move (fun reader => reader.number = some number)
      (Reader.reserved callID (s.accepted + 1)) found
    have before := numbers.held number
    simp only [Reader.number_checked, Reader.number_reserved, Option.some.injEq, reduceCtorEq,
      decide_false, decide_eq_true_eq, Bool.false_eq_true, if_false] at moved
    simp only [State.held, State.setReader, owners_succ] at before ⊢
    omega
  · have moved := Threads.countP_move (fun reader => reader.number.isSome)
      (Reader.reserved callID (s.accepted + 1)) found
    have total := numbers.total
    simp only [Reader.number_checked, Reader.number_reserved, isSome_some,
      isSome_none, if_true, Bool.false_eq_true, if_false] at moved
    simp only [State.setReader]
    omega

theorem register (found : s.readers[listener]? = some (.reserved callID number))
    (given : call.number = number) :
    Numbers cfg ((s.setReader listener .idle).start call) := by
  refine ⟨?_, ?_, numbers.limit⟩
  · intro other
    have moved := Threads.countP_move (fun reader => reader.number = some other)
      Reader.idle found
    have before := numbers.held other
    simp only [Reader.number_idle, Reader.number_reserved, Option.some.injEq, reduceCtorEq,
      decide_false, decide_eq_true_eq, Bool.false_eq_true, if_false] at moved
    simp only [State.held, State.setReader, State.start, countP_append,
      countP_singleton, given, decide_eq_true_eq] at before ⊢
    omega
  · have moved := Threads.countP_move (fun reader => reader.number.isSome)
      Reader.idle found
    have total := numbers.total
    simp only [Reader.number_idle, Reader.number_reserved, isSome_some,
      isSome_none, if_true, Bool.false_eq_true, if_false] at moved
    simp only [State.setReader, State.start, length_append, length_singleton]
    omega

theorem admitCall (next : call.number = s.accepted + 1)
    (room : cfg.serverRejectNew s.accepted = false) :
    Numbers cfg ({ s with accepted := s.accepted + 1 }.start call) := by
  refine ⟨?_, ?_, below_limit room⟩
  · intro number
    have before := numbers.held number
    simp only [State.held, State.start, countP_append, countP_singleton, next,
      decide_eq_true_eq, owners_succ] at before ⊢
    omega
  · have total := numbers.total
    simp only [State.start, length_append, length_singleton]
    omega

theorem setCall (found : s.calls[i]? = some old) (same : new.number = old.number) :
    Numbers cfg (s.setCall i new) := by
  refine ⟨?_, ?_, numbers.limit⟩
  · intro number
    simp only [State.held, State.setCall]
    rw [Threads.countP_same _ found (by simp [same])]
    exact numbers.held number
  · simp only [State.setCall, length_set]
    exact numbers.total

theorem finishCallUnlocked :
    Numbers cfg (s.finishCallUnlocked cfg) := by
  simp only [State.finishCallUnlocked]
  split <;> exact ⟨numbers.held, numbers.total, numbers.limit⟩

theorem nodup : (s.calls.map Call.number).Nodup := by
  apply nodup_iff_count_le_one.mpr
  intro number
  have held := numbers.held number
  have most : owners s.accepted number ≤ 1 := by
    unfold owners
    split <;> omega
  rw [List.count, countP_map]
  simp only [State.held, Function.comp_def, beq_eq_decide] at held ⊢
  omega

end

end Numbers

/-! ### Sessions

Only the read loop of a listener adds to its session map, so what it has not found
there is not there when it comes back with a number. -/

structure Free (s : State) : Prop where
  absent : ∀ (listener : Nat) (reader : Reader) (callID : Bytes),
    s.readers[listener]? = some reader →
    reader.pending = some callID → s.hasSession (.listener listener) callID = false
  noRefund : ∀ listener : Nat, s.readers[listener]? ≠ some Reader.refunding

/-- A call that goes on is in no map in which it was not before. -/
theorem hasSession_setCall (found : s.calls[i]? = some old) (sameID : new.callID = old.callID)
    (kept : new.isIn table = true → old.isIn table = true)
    (absent : s.hasSession table callID = false) :
    (s.setCall i new).hasSession table callID = false := by
  simp only [State.hasSession, State.setCall, List.any_eq_false, Bool.and_eq_true,
    decide_eq_true_eq, not_and] at absent ⊢
  intro call member
  rcases mem_or_eq_of_mem_set member with other | rfl
  · exact absent call other
  · intro inside
    rw [sameID]
    exact absent old (mem_of_getElem? found) (kept inside)

namespace Free

theorem initial (cfg : Config) : Free (.initial cfg) := by
  have idle : ∀ (listener : Nat) (reader : Reader),
      (State.initial cfg).readers[listener]? = some reader → reader = .idle := by
    intro listener reader found
    simp only [State.initial, getElem?_map, map_eq_some_iff] at found
    obtain ⟨_, _, rfl⟩ := found
    rfl
  constructor
  · intro listener reader callID found pending
    rw [idle listener reader found] at pending
    cases pending
  · intro listener found
    cases idle listener _ found

theorem setReader (free : Free s) (absent : ∀ callID, new.pending = some callID →
      s.hasSession (.listener listener) callID = false)
    (noRefund : new ≠ .refunding) : Free (s.setReader listener new) := by
  have cases : ∀ (other : Nat) (reader : Reader),
      (s.setReader listener new).readers[other]? = some reader →
        (other = listener ∧ reader = new) ∨ s.readers[other]? = some reader := by
    intro other reader found
    exact (Threads.get_move found).imp_right And.right
  constructor
  · intro other reader callID found pending
    rcases cases other reader found with ⟨rfl, rfl⟩ | found
    · exact absent callID pending
    · exact free.absent other reader callID found pending
  · intro other found
    rcases cases other _ found with ⟨_, same⟩ | found
    · exact noRefund same.symm
    · exact free.noRefund other found

/-- A new call whose map no read loop is waiting for. -/
theorem start (free : Free s) (apart : ∀ (listener : Nat) (reader : Reader) (callID : Bytes),
      s.readers[listener]? = some reader → reader.pending = some callID → call.isIn (.listener listener) = false) :
    Free (s.start call) := by
  refine ⟨?_, free.noRefund⟩
  intro listener reader callID found pending
  have absent := free.absent listener reader callID found pending
  simp_all [State.hasSession, State.start, apart listener reader callID found pending]

theorem setCall (free : Free s) (found : s.calls[i]? = some old) (sameID : new.callID = old.callID)
    (kept : ∀ table, new.isIn table = true → old.isIn table = true) : Free (s.setCall i new) := by
  refine ⟨?_, free.noRefund⟩
  intro listener reader callID atReader pending
  exact hasSession_setCall found sameID (kept _)
    (free.absent listener reader callID atReader pending)

theorem finishCallUnlocked (free : Free s) : Free (s.finishCallUnlocked cfg) := by
  simp only [State.finishCallUnlocked]
  split <;> exact ⟨free.absent, free.noRefund⟩

/-- The call that a read loop registers is apart from what the others wait for. -/
theorem register (free : Free s) (inside : listener < s.readers.length) :
    Free ((s.setReader listener .idle).start
      ⟨listener, some (.listener listener), callID, number, true, .active⟩) := by
  have idle : Free (s.setReader listener .idle) :=
    free.setReader (by intro _ pending; cases pending) Reader.noConfusion
  apply idle.start
  intro other reader pendingID found pending
  have differs : other ≠ listener := by
    rintro rfl
    simp only [State.setReader, getElem?_set_self inside] at found
    cases found
    cases pending
  simp [Call.isIn, differs.symm]

end Free

/-! ### Finished calls -/

structure Finishes (cfg : Config) (s : State) : Prop where
  ended : s.finished = s.calls.countP (·.phase = .finished)
  once : s.closes = if s.doneOnce then 1 else 0
  done : s.doneOnce = (decide (0 < s.finished) && cfg.serverFinishedAll s.finished)

namespace Finishes

theorem initial (cfg : Config) : Finishes cfg (.initial cfg) :=
  ⟨rfl, rfl, rfl⟩

theorem start (finishes : Finishes cfg s) (active : call.phase = .active) :
    Finishes cfg (s.start call) := by
  refine ⟨?_, finishes.once, finishes.done⟩
  simp only [State.start, countP_append, countP_singleton, active, reduceCtorEq,
    decide_false, Bool.false_eq_true, if_false]
  exact finishes.ended

theorem setCall (finishes : Finishes cfg s) (found : s.calls[i]? = some old)
    (same : (new.phase = .finished) = (old.phase = .finished)) :
    Finishes cfg (s.setCall i new) := by
  refine ⟨?_, finishes.once, finishes.done⟩
  simp only [State.setCall]
  rw [Threads.countP_same _ found (by simp [same])]
  exact finishes.ended

/-- `finishCallUnlocked` closes `done` at the last call and never again. -/
theorem finish (finishes : Finishes cfg s)
    (found : s.calls[i]? = some old) (before : old.phase ≠ .finished) :
    Finishes cfg ((s.setCall i { old with phase := .finished }).finishCallUnlocked cfg) := by
  have moved := Threads.countP_move (fun call => call.phase = .finished)
    { old with phase := Phase.finished } found
  simp only [before, decide_false, decide_true, Bool.false_eq_true, if_true,
    if_false] at moved
  have ended : s.finished + 1 =
      (s.calls.set i { old with phase := .finished }).countP (·.phase = .finished) := by
    have count := finishes.ended
    omega
  have once := finishes.once
  have done := finishes.done
  simp only [State.finishCallUnlocked]
  split
  · rename_i closes
    refine ⟨ended, ?_, by simp [closes.1]⟩
    simp only [State.setCall, if_true] at closes ⊢
    rw [once, closes.2]
    rfl
  · rename_i stays
    refine ⟨ended, once, ?_⟩
    simp only [State.setCall] at stays ⊢
    cases after : cfg.serverFinishedAll (s.finished + 1) with
    | true =>
      simp only [after, true_and, Bool.not_eq_false] at stays
      simp [stays]
    | false =>
      rw [done, Bool.and_false]
      simp only [Config.serverFinishedAll, Bool.and_eq_false_iff,
        decide_eq_false_iff_not] at after ⊢
      rcases after with unlimited | more
      · exact .inr (.inl unlimited)
      · exact .inr (.inr (by omega))

end Finishes

/-! ### Whole runs -/

structure Coordinated (cfg : Config) (s : State) : Prop where
  numbers : Numbers cfg s
  free : Free s
  finishes : Finishes cfg s

/-- The calls whose scenario has been started. -/
def State.executedCalls (s : State) : List Call :=
  s.calls.filter Call.executed

section Run

variable [CaseTables] {event : Event} {next : State}

theorem Numbers.coordination (numbers : Numbers cfg s) (free : Free s)
    (change : Coordination cfg s event next) : Numbers cfg next ∧ Free next := by
  have admitted : Free { s with accepted := s.accepted + 1 } := ⟨free.absent, free.noRefund⟩
  cases change with
  | quiet connections =>
    exact ⟨⟨numbers.held, numbers.total, numbers.limit⟩, ⟨free.absent, free.noRefund⟩⟩
  | checked _ idle fresh =>
    refine ⟨numbers.setReader idle rfl, free.setReader ?_ Reader.noConfusion⟩
    intro callID pending
    cases pending
    exact fresh
  | rejected found =>
    exact ⟨numbers.setReader found rfl,
      free.setReader (by intro _ pending; cases pending) Reader.noConfusion⟩
  | returned idle =>
    exact ⟨numbers.setReader idle rfl,
      free.setReader (by intro _ pending; cases pending) Reader.noConfusion⟩
  | reserved found room =>
    refine ⟨numbers.reserve found room, admitted.setReader ?_ Reader.noConfusion⟩
    intro callID pending
    cases pending
    exact free.absent _ _ _ found rfl
  | registered found =>
    exact ⟨numbers.register found rfl,
      free.register (List.getElem?_eq_some_iff.mp found).1⟩
  | taken found session =>
    rw [free.absent _ _ _ found rfl] at session
    cases session
  | refunded found => exact absurd found (free.noRefund _)
  | pumped _ _ _ room | connected _ _ room =>
    exact ⟨numbers.admitCall rfl room, admitted.start fun _ _ _ _ _ => by simp [Call.isIn]⟩
  | executes found =>
    exact ⟨numbers.setCall found rfl, free.setCall found rfl fun _ inside => inside⟩
  | unregistered found | left found =>
    refine ⟨numbers.setCall found rfl, free.setCall found rfl ?_⟩
    intro table inside
    simp [Call.isIn] at inside
  | finished found =>
    constructor
    · apply Numbers.finishCallUnlocked
      exact numbers.setCall found rfl
    · apply Free.finishCallUnlocked
      refine free.setCall found rfl ?_
      intro table inside
      simp [Call.isIn] at inside

/-- The finished calls, when all of them finish through the coordinator. -/
theorem Finishes.coordination (finishes : Finishes cfg s)
    (all : ∀ kind ∈ cfg.listeners, cfg.coordinates kind = true)
    (change : Coordination cfg s event next) : Finishes cfg next := by
  cases change with
  | quiet | checked | rejected | returned | reserved | taken | refunded =>
    exact ⟨finishes.ended, finishes.once, finishes.done⟩
  | registered | pumped | connected =>
    exact Finishes.start ⟨finishes.ended, finishes.once, finishes.done⟩ rfl
  | executes found => exact finishes.setCall found rfl
  | unregistered found active => exact finishes.setCall found (by simp [active])
  | finished found _ _ before => exact finishes.finish found before
  | left _ listener alone =>
    rw [all _ (mem_of_getElem? listener)] at alone
    cases alone

/-- A step of listeners that all use the coordinator. -/
theorem Coordinated.step (coordinated : Coordinated cfg s)
    (all : ∀ kind ∈ cfg.listeners, cfg.coordinates kind = true)
    (stepped : step cfg event s = some next) : Coordinated cfg next := by
  obtain ⟨numbers, free, finishes⟩ := coordinated
  cases step_change stepped with
  | coordination change =>
    obtain ⟨numbers', free'⟩ := numbers.coordination free change
    exact ⟨numbers', free', finishes.coordination all change⟩
  | @refused _ _ kind listener perConn single =>
    have multi := all _ (mem_of_getElem? listener)
    cases kind <;> simp [Config.coordinates, Kind.isPerConn, single] at multi perConn
  | opened listener alone =>
    rw [all _ (mem_of_getElem? listener)] at alone
    cases alone

/-- Admission by listeners that share the coordinator, in every state of every run: what the two
counters count, the limit, the numbers of the calls, and when `done` is closed.  With a limit of
zero or less nothing is accepted and `done` stays open. -/
theorem coordinator_invariant {cfg : Config} {events : List Event} {s : State}
    (all : ∀ kind ∈ cfg.listeners, cfg.coordinates kind = true)
    (run : Run (step cfg) (.initial cfg) events s) :
    s.accepted = s.calls.length + s.readers.countP (·.number.isSome) ∧
      s.finished = s.calls.countP (·.phase = .finished) ∧
      s.finished ≤ s.accepted ∧
      (cfg.unlimitedCalls = false → s.accepted ≤ max 0 cfg.totalCalls) ∧
      (s.executedCalls.map Call.number).Nodup ∧
      (0 < s.closes ↔
        cfg.unlimitedCalls = false ∧ 0 < cfg.totalCalls ∧ s.finished = cfg.totalCalls) ∧
      s.closes ≤ 1 := by
  have start : Coordinated cfg (.initial cfg) := ⟨.initial cfg, .initial cfg, .initial cfg⟩
  obtain ⟨numbers, _, finishes⟩ :=
    run.invariant start fun _ _ _ stepped ok => ok.step all stepped
  have bounded : s.finished ≤ s.accepted := by
    calc s.finished = s.calls.countP (·.phase = .finished) := finishes.ended
      _ ≤ s.calls.length := countP_le_length
      _ ≤ s.accepted := by
        have total := numbers.total
        omega
  refine ⟨numbers.total.symm, finishes.ended, bounded, numbers.limit, ?_, ?_, ?_⟩
  · exact numbers.nodup.sublist (filter_sublist.map _)
  · rw [finishes.once, finishes.done]
    cases limited : cfg.unlimitedCalls with
    | true => simp [Config.serverFinishedAll, limited]
    | false =>
      have most := numbers.limit limited
      simp only [Config.serverFinishedAll, limited, Bool.not_false, Bool.true_and,
        Bool.and_eq_true, decide_eq_true_eq, true_and]
      split <;> omega
  · rw [finishes.once]
    split <;> omega

end Run

section Concrete

attribute [local instance] CaseTables.asciiOnly

/-- A UDP, a shared TCP and a per-connection TLS listener for two calls. -/
def mixedListeners : Config :=
  ⟨⟨2, false, false⟩, .multi [.udp, .tcpShared, .tlsPerConn]⟩

/-- The parsed INVITE of a call. -/
def invite (callID : String) : Message :=
  { Message.zero with
    startLine := ascii "INVITE b c"
    method := ascii "INVITE"
    headers := [(ascii "Call-ID", [ascii callID])] }

/-- The scenario starts with recv INVITE. -/
def recvInvite : Option RecvFilter :=
  some ⟨ascii "INVITE", [], none⟩

/-- The TCP loop and the TLS loop take the two calls, the pump gets none, and `done`
is closed when both have finished. -/
def mixedEvents : List Event :=
  [.message 1 0 (invite "x") true recvInvite, .reserve 1, .connect 2 0 true, .register 1,
    .message 0 0 (invite "y") true recvInvite, .execute 0, .finish 0, .unregister 1, .finish 1]

theorem mixedListeners_admit :
    ∃ s, Run (step mixedListeners) (.initial mixedListeners) mixedEvents s ∧
      s.finished = 2 ∧ s.closes = 1 ∧
      s.accepted = s.calls.length + s.readers.countP (·.number.isSome) ∧
      s.finished = s.calls.countP (·.phase = .finished) ∧
      s.finished ≤ s.accepted ∧
      (mixedListeners.unlimitedCalls = false → s.accepted ≤ max 0 mixedListeners.totalCalls) ∧
      (s.executedCalls.map Call.number).Nodup ∧
      (0 < s.closes ↔ mixedListeners.unlimitedCalls = false ∧ 0 < mixedListeners.totalCalls ∧
        s.finished = mixedListeners.totalCalls) ∧
      s.closes ≤ 1 := by
  have possible : (exec (step mixedListeners) mixedEvents (.initial mixedListeners)).isSome := by
    decide
  have run := Run.of_isSome possible
  exact ⟨_, run, by decide, by decide, coordinator_invariant (by decide) run⟩

/-- With the limit -1 nothing is accepted: the counter stands above the limit, which no call has
to reach, and `done` is open. -/
theorem negative_limit_exceeded :
    let cfg : Config := ⟨⟨-1, false, false⟩, .multi [.udp, .tcpShared]⟩
    ∃ s, Run (step cfg) (.initial cfg) [.message 0 0 (invite "x") true recvInvite] s ∧
      cfg.unlimitedCalls = false ∧ ¬ s.accepted ≤ cfg.totalCalls ∧
      cfg.totalCalls ≤ s.finished ∧ s.closes = 0 := by
  intro cfg
  have possible : (exec (step cfg) [.message 0 0 (invite "x") true recvInvite]
      (.initial cfg)).isSome := by decide
  exact ⟨_, .of_isSome possible, rfl, by decide, by decide, by decide⟩

end Concrete

end Gossipper.Engine.Listeners
