/-
Module: Gossipper.Engine.DynSemaphore
Purpose: The call limiter under every interleaving of `Acquire`, `Release` and `Resize`, with
  its condition variable and the callbacks of `context.AfterFunc`, after
  `internal/engine/semaphore.go`.
Trusted boundary: `sync.Cond` takes a ticket before it unlocks, `Signal` wakes the caller with
  the oldest one; the error of a context is seen before its callbacks are started, and `stop`
  of `AfterFunc` keeps a callback from running that is not started
Main exports: Phase, Hook, Acquire, State, Event, step, State.Sound, Orderly, limiter_sound
-/
import Gossipper.Engine.Client

namespace Gossipper.Engine.DynSemaphore

open Transition List Option

/-! ### The limiter -/

/-- Where a call of `Acquire` is. -/
inductive Phase where
  /-- at `s.mu.Lock` -/
  | locking
  /-- with the mutex, at `s.cond.Wait` -/
  | waits
  | parked (ticket : Nat)
  /-- notified, and at the `Lock` in `Wait` -/
  | woken
  /-- at the deferred `stop`, with the mutex unlocked -/
  | stopping (ok : Bool)
  | returned (ok : Bool)
deriving DecidableEq, Repr

def Phase.isParked : Phase → Bool
  | .parked _ => true
  | _ => false

/-- The call is behind its loop. -/
def Phase.isLeaving : Phase → Bool
  | .stopping _ | .returned _ => true
  | _ => false

/-- The callback of `context.AfterFunc`, which broadcasts. -/
inductive Hook where
  | armed
  | started
  | ran
  | stopped
deriving DecidableEq, Repr

/-- A call of `Acquire`, with the number of its context. -/
structure Acquire where
  ctx : Nat
  phase : Phase
  hook : Hook
deriving DecidableEq, Repr

/-- A caller that waits is notified. -/
def Acquire.wake (call : Acquire) : Acquire :=
  if call.phase.isParked then { call with phase := .woken } else call

/-- The limiter and the calls on it.  `signals` and `broadcasts` count the calls of `Release`
and `Resize` that have unlocked the mutex and not notified yet; `acquired` and `released` count
the calls that have changed `active`. -/
structure State where
  sem : Client.Semaphore
  calls : List Acquire
  cancelled : List Nat
  tickets : Nat
  signals : Nat
  broadcasts : Nat
  acquired : Nat
  released : Nat

/-- `newDynSemaphore`. -/
def State.initial (limit : Int) : State where
  sem := Client.Semaphore.resize ⟨0, 1⟩ limit
  calls := []
  cancelled := []
  tickets := 0
  signals := 0
  broadcasts := 0
  acquired := 0
  released := 0

namespace State

/-- Nobody has the mutex; what is done under it is one event, but for `Acquire` on its way into
`Wait`. -/
def lockFree (s : State) : Bool :=
  s.calls.all fun call => call.phase != .waits

def parked (s : State) : Nat :=
  s.calls.countP (·.phase.isParked)

/-- A call whose context is not cancelled has been notified. -/
def wokenUp (s : State) (call : Acquire) : Bool :=
  call.phase == .woken && !s.cancelled.contains call.ctx

/-- The notifications of single callers that are under way. -/
def notified (s : State) : Nat :=
  s.signals + s.calls.countP s.wokenUp

/-- The callback of a call will broadcast: it is started, or it will be, since its context is
cancelled and the call has been in `Wait`. -/
def rings (s : State) (call : Acquire) : Bool :=
  call.hook == .started || call.hook == .armed && s.cancelled.contains call.ctx &&
    (call.phase.isParked || call.phase == .woken)

/-- A broadcast is under way. -/
def broadcasting (s : State) : Bool :=
  0 < s.broadcasts || s.calls.any s.rings

def setCall (s : State) (i : Nat) (call : Acquire) : State :=
  { s with calls := s.calls.set i call }

def wakeAll (s : State) : State :=
  { s with calls := s.calls.map .wake }

end State

inductive Event where
  | acquire (ctx : Nat)
  | cancel (ctx : Nat)
  /-- `AfterFunc` starts the callback of a call -/
  | startHook (call : Nat)
  | runHook (call : Nat)
  /-- a call gets the mutex and looks for a slot -/
  | check (call : Nat)
  | park (call : Nat)
  | stop (call : Nat)
  | release
  | signal (call : Option Nat)
  | resize (limit : Int)
  | broadcast
deriving DecidableEq, Repr

/-- The loop of `Acquire` from where the call gets the mutex. -/
def State.checkSlot (s : State) (i : Nat) (call : Acquire) : State :=
  let isCancelled := s.cancelled.contains call.ctx
  match s.sem.acquire with
  | none => s.setCall i { call with phase := if isCancelled then .stopping false else .waits }
  | some sem =>
    if isCancelled then s.setCall i { call with phase := .stopping false }
    else
      { s.setCall i { call with phase := .stopping true } with
        sem := sem
        acquired := s.acquired + 1 }

/-- One event; `none` means that it cannot happen. -/
def step : Event → State → Option State
  | .acquire ctx, s =>
    let hook := if s.cancelled.contains ctx then .started else .armed
    some { s with calls := s.calls ++ [⟨ctx, .locking, hook⟩] }
  | .cancel ctx, s => some { s with cancelled := ctx :: s.cancelled }
  | .startHook i, s =>
    (s.calls[i]?).bind fun call =>
      if call.hook = .armed ∧ s.cancelled.contains call.ctx then
        some (s.setCall i { call with hook := .started })
      else none
  | .runHook i, s =>
    (s.calls[i]?).bind fun call =>
      if call.hook = .started then some (s.setCall i { call with hook := .ran }).wakeAll
      else none
  | .check i, s =>
    (s.calls[i]?).bind fun call =>
      if s.lockFree ∧ (call.phase = .locking ∨ call.phase = .woken) then
        some (s.checkSlot i call)
      else none
  | .park i, s =>
    (s.calls[i]?).bind fun call =>
      if call.phase = .waits then
        some { s.setCall i { call with phase := .parked s.tickets } with
          tickets := s.tickets + 1 }
      else none
  | .stop i, s =>
    (s.calls[i]?).bind fun call =>
      match call.phase with
      | .stopping ok =>
        some (s.setCall i
          { call with
            phase := .returned ok
            hook := if call.hook = .armed then .stopped else call.hook })
      | _ => none
  | .release, s =>
    if s.lockFree then
      some { s with sem := s.sem.release, released := s.released + 1, signals := s.signals + 1 }
    else none
  | .signal chosen, s =>
    if 0 < s.signals then
      let s := { s with signals := s.signals - 1 }
      match chosen with
      | none => if s.parked = 0 then some s else none
      | some i =>
        (s.calls[i]?).bind fun call =>
          match call.phase with
          | .parked ticket =>
            -- the notification goes to the oldest ticket
            if s.calls.all fun other =>
                match other.phase with
                | .parked later => ticket ≤ later
                | _ => true
            then some (s.setCall i { call with phase := .woken })
            else none
          | _ => none
    else none
  | .resize limit, s =>
    if s.lockFree then
      some { s with sem := s.sem.resize limit, broadcasts := s.broadcasts + 1 }
    else none
  | .broadcast, s =>
    if 0 < s.broadcasts then some { s.wakeAll with broadcasts := s.broadcasts - 1 } else none

/-! ### The property -/

/-- The counter is exact, a slot is only given when one is free, and every caller that waits
with a cancelled context, or beside free slots, will be notified: by a broadcast, or there are
as many notifications under way as slots are free. -/
structure State.Sound (s : State) : Prop where
  held : s.sem.active = s.acquired - s.released
  granted : ∀ i s', step (.check i) s = some s' → s'.acquired ≠ s.acquired →
    s.sem.active < s.sem.limit
  cancelled : ∀ call ∈ s.calls, call.phase.isParked = true →
    s.cancelled.contains call.ctx = true → s.broadcasting = true
  free : s.parked ≠ 0 → s.sem.active < s.sem.limit →
    s.broadcasting = true ∨ s.sem.limit - s.sem.active ≤ s.notified

/-- No call goes into `Wait` after its callback has broadcast, and no call that was notified
leaves with a cancelled context, its callback not started yet, while a slot is free and another
caller waits. -/
def Orderly : Event → State → Prop
  | .park i, s => ∀ call, s.calls[i]? = some call → call.hook ≠ .ran
  | .check i, s =>
    ∀ call, s.calls[i]? = some call → call.phase = .woken → call.hook = .armed →
      s.cancelled.contains call.ctx = true → s.parked = 0 ∨ s.sem.limit ≤ s.sem.active
  | _, _ => True

/-! ### The invariant -/

/-- What holds of every call. -/
structure CallOk (sem : Client.Semaphore) (cancelled : List Nat) (call : Acquire) : Prop where
  fired : call.hook = .started ∨ call.hook = .ran → cancelled.contains call.ctx = true
  parked : call.phase.isParked = true → call.hook = .armed ∨ call.hook = .started
  running : call.phase.isLeaving = false → call.hook ≠ .stopped
  waits : call.phase = .waits → sem.limit ≤ sem.active

structure Inv (s : State) : Prop where
  held : s.sem.active = s.acquired - s.released
  calls : ∀ call ∈ s.calls, CallOk s.sem s.cancelled call
  free : s.broadcasting = true ∨ s.parked = 0 ∨ s.sem.limit - s.sem.active ≤ s.notified

theorem acquire_eq_none {sem : Client.Semaphore} :
    sem.acquire = none ↔ sem.limit ≤ sem.active := by
  unfold Client.Semaphore.acquire
  split
  · rename_i full
    exact iff_of_true rfl full
  · rename_i below
    exact iff_of_false nofun below

theorem acquire_eq_some {sem sem' : Client.Semaphore} (acquired : sem.acquire = some sem') :
    sem.active < sem.limit ∧ sem' = { sem with active := sem.active + 1 } := by
  unfold Client.Semaphore.acquire at acquired
  obtain ⟨below, acquired⟩ := of_refusal acquired
  exact ⟨Int.not_le.mp below, (Option.some.inj acquired).symm⟩

variable {call : Acquire} {s : State}

open State

theorem rings_of_parked (ok : CallOk s.sem s.cancelled call)
    (isParked : call.phase.isParked = true) (cancelled : s.cancelled.contains call.ctx = true) :
    s.rings call = true := by
  rw [rings, cancelled, isParked]
  obtain armed | started := ok.parked isParked
  · rw [armed]
    rfl
  · rw [started]
    rfl

theorem broadcasting_of_rings (member : call ∈ s.calls)
    (rings : s.rings call = true) : s.broadcasting = true := by
  rw [broadcasting, List.any_eq_true.mpr ⟨call, member, rings⟩, Bool.or_true]

theorem Inv.sound (inv : Inv s) : s.Sound where
  held := inv.held
  granted i s' stepped more := by
    obtain ⟨call, -, checked⟩ := bind_eq_some_iff.mp stepped
    obtain ⟨_, ⟨⟩⟩ := of_guard checked
    by_contra full
    apply more
    rw [checkSlot, acquire_eq_none.mpr (Int.not_lt.mp full)]
    rfl
  cancelled call member isParked cancelled :=
    broadcasting_of_rings member (rings_of_parked (inv.calls call member) isParked cancelled)
  free someParked _ := inv.free.imp id fun left => left.resolve_left someParked

theorem Inv.initial (limit : Int) : Inv (.initial limit) where
  held := rfl
  calls := nofun
  free := .inr (.inl rfl)

/-! ### Events that end in a broadcast or leave nobody parked -/

theorem isParked_wake (call : Acquire) : call.wake.phase.isParked = false := by
  unfold Acquire.wake
  cases isParked : call.phase.isParked with
  | false => rw [if_neg Bool.false_ne_true, isParked]
  | true => rfl

theorem parked_wakeAll (s : State) : s.wakeAll.parked = 0 := by
  rw [parked, wakeAll, countP_eq_zero]
  intro call member
  obtain ⟨before, -, rfl⟩ := List.mem_map.mp member
  rw [isParked_wake]
  exact Bool.false_ne_true

theorem CallOk.wake {sem cancelled}
    (ok : CallOk sem cancelled call) : CallOk sem cancelled call.wake := by
  unfold Acquire.wake
  split
  · rename_i isParked
    refine ⟨ok.fired, nofun, fun _ stopped => ?_, nofun⟩
    obtain armed | started := ok.parked isParked
    · cases armed.symm.trans stopped
    · cases started.symm.trans stopped
  · exact ok

namespace Inv

variable {s s' : State} {i : Nat} {call : Acquire}

theorem okAt (inv : Inv s) (found : s.calls[i]? = some call) : CallOk s.sem s.cancelled call :=
  inv.calls call (mem_of_getElem? found)

/-- Who changes the counter or the limit has the mutex, so nobody is on the way into `Wait`. -/
theorem calls_of_lockFree (inv : Inv s) (lockFree : s.lockFree = true) (sem : Client.Semaphore) :
    ∀ call ∈ s.calls, CallOk sem s.cancelled call := by
  intro call member
  obtain ⟨fired, isParked, running, -⟩ := inv.calls call member
  refine ⟨fired, isParked, running, fun waits => ?_⟩
  have notWaits := List.all_eq_true.mp lockFree call member
  rw [waits] at notWaits
  cases notWaits

open Threads

/-- Only one call changes, and a broadcast or a slot short of callers is left. -/
theorem setCall (inv : Inv s) (ok : CallOk s.sem s.cancelled new)
    (free : (s.setCall i new).broadcasting = true ∨ (s.setCall i new).parked = 0 ∨
      s.sem.limit - s.sem.active ≤ (s.setCall i new).notified) : Inv (s.setCall i new) :=
  ⟨inv.held, forall_move inv.calls ok, free⟩

/-- One call changes in nothing that counts for the notifications. -/
theorem setSame (inv : Inv s) (found : s.calls[i]? = some call)
    (ok : CallOk s.sem s.cancelled new) (rings : s.rings call = true → s.rings new = true)
    (isParked : new.phase.isParked = call.phase.isParked)
    (wokenUp : s.wokenUp new = s.wokenUp call) : Inv (s.setCall i new) := by
  have parked : (s.setCall i new).parked = s.parked := by
    unfold State.parked State.setCall
    exact countP_same _ found isParked
  have notified : (s.setCall i new).notified = s.notified :=
    congrArg (s.signals + ·) (countP_same s.wokenUp found wokenUp)
  refine inv.setCall ok ?_
  rw [parked, notified]
  refine inv.free.imp (fun before => ?_) id
  rw [State.broadcasting, Bool.or_eq_true, List.any_eq_true] at before ⊢
  exact before.imp id (exists_move found rings)

theorem wakeAll (inv : Inv s) : Inv s.wakeAll where
  held := inv.held
  calls call member := by
    obtain ⟨before, isBefore, rfl⟩ := List.mem_map.mp member
    exact (inv.calls before isBefore).wake
  free := .inr (.inl (parked_wakeAll s))

/-! ### The single events -/

section

variable (inv : Inv s)

include inv

theorem acquire (ctx : Nat) (stepped : step (.acquire ctx) s = some s') :
    Inv s' := by
  cases stepped
  refine ⟨inv.held, ?_, ?_⟩
  · rw [forall_mem_append]
    refine ⟨inv.calls, ?_⟩
    rw [forall_mem_singleton]
    refine ⟨fun fired => ?_, nofun, fun _ stopped => ?_, nofun⟩
    · by_contra fine
      simp only [if_neg fine] at fired
      obtain started | ran := fired
      · cases started
      · cases ran
    · simp only at stopped
      split at stopped <;> cases stopped
  · refine inv.free.imp (fun before => ?_) (Or.imp (fun none => ?_) fun enough => ?_)
    · rw [broadcasting, Bool.or_eq_true, List.any_eq_true] at before ⊢
      refine before.imp id ?_
      rintro ⟨call, member, rings⟩
      exact ⟨call, mem_append_left _ member, rings⟩
    · rw [parked, countP_append]
      rw [parked] at none
      rw [none]
      rfl
    · rw [notified, countP_append]
      exact Int.le_trans enough (Int.ofNat_le.mpr (Nat.add_le_add_left (Nat.le_add_right _ _) _))

theorem cancel (ctx : Nat) : Inv { s with cancelled := ctx :: s.cancelled } := by
  have grows (other : Nat) (before : s.cancelled.contains other = true) :
      (ctx :: s.cancelled).contains other = true := by
    rw [List.contains_cons, before, Bool.or_true]
  refine ⟨inv.held, fun call member => ?_, ?_⟩
  · obtain ⟨fired, parked, running, waits⟩ := inv.calls call member
    exact ⟨fun started => grows call.ctx (fired started), parked, running, waits⟩
  -- a notified call whose context is the one that is cancelled has its callback before it
  by_cases affected : ∃ call ∈ s.calls, s.wokenUp call = true ∧ call.ctx = ctx
  · obtain ⟨call, member, wokenUp, isCtx⟩ := affected
    rw [State.wokenUp, Bool.and_eq_true, beq_iff_eq, Bool.not_eq_true'] at wokenUp
    obtain ⟨isWoken, fine⟩ := wokenUp
    have ok := inv.calls call member
    have armed : call.hook = .armed := by
      cases isHook : call.hook with
      | armed => rfl
      | started => cases fine.symm.trans (ok.fired (.inl isHook))
      | ran => cases fine.symm.trans (ok.fired (.inr isHook))
      | stopped => exact absurd isHook (ok.running (by rw [isWoken]; rfl))
    refine .inl (broadcasting_of_rings member ?_)
    simp [State.rings, armed, isWoken, isCtx]
  · refine inv.free.imp (fun before => ?_) (Or.imp id fun enough => ?_)
    · rw [State.broadcasting, Bool.or_eq_true, List.any_eq_true] at before ⊢
      refine before.imp id ?_
      rintro ⟨call, member, rings⟩
      refine ⟨call, member, ?_⟩
      simp only [State.rings, Bool.or_eq_true, Bool.and_eq_true] at rings ⊢
      exact rings.imp id fun armed => ⟨⟨armed.1.1, grows _ armed.1.2⟩, armed.2⟩
    · have same : s.calls.countP (State.wokenUp { s with cancelled := ctx :: s.cancelled }) =
          s.calls.countP s.wokenUp := by
        refine countP_congr fun call member => ?_
        simp only [State.wokenUp, List.contains_cons, Bool.not_or, Bool.and_eq_true,
          Bool.not_eq_true', beq_eq_false_iff_ne]
        refine ⟨fun woken => ⟨woken.1, woken.2.2⟩, fun woken => ⟨woken.1, fun isCtx => ?_,
          woken.2⟩⟩
        refine affected ⟨call, member, ?_, isCtx⟩
        simp only [State.wokenUp, Bool.and_eq_true, Bool.not_eq_true']
        exact woken
      rw [State.notified, same]
      exact enough

theorem startHook (found : s.calls[i]? = some call)
    (cancelled : s.cancelled.contains call.ctx = true) :
    Inv (s.setCall i { call with hook := .started }) := by
  have ok := inv.okAt found
  refine inv.setCall ⟨fun _ => cancelled, fun _ => .inr rfl, fun _ => nofun, ok.waits⟩ (.inl ?_)
  have inside := (List.getElem?_eq_some_iff.mp found).1
  exact broadcasting_of_rings (mem_of_getElem? (getElem?_set_self inside)) rfl

theorem runHook (found : s.calls[i]? = some call) (started : call.hook = .started) :
    Inv (s.setCall i { call with hook := .ran }).wakeAll where
  held := inv.held
  calls other member := by
    obtain ⟨before, isBefore, rfl⟩ := List.mem_map.mp member
    have ok := inv.okAt found
    -- the call itself may wait, and is woken by its own broadcast
    obtain old | rfl := mem_or_eq_of_mem_set isBefore
    · exact (inv.calls before old).wake
    · refine ⟨fun _ => ?_, fun isParked => ?_, fun _ => ?_, fun isWaits => ?_⟩
      · rw [Acquire.wake]
        split <;> exact ok.fired (.inl started)
      · rw [isParked_wake] at isParked
        cases isParked
      · rw [Acquire.wake]
        split <;> nofun
      · refine ok.waits ?_
        rw [Acquire.wake] at isWaits
        split at isWaits
        · cases isWaits
        · exact isWaits
  free := .inr (.inl (parked_wakeAll _))

/-- A call with the mutex finds no slot. -/
theorem checkFull (found : s.calls[i]? = some call)
    (entering : call.phase = .locking ∨ call.phase = .woken)
    (full : s.sem.limit ≤ s.sem.active) (cancelled : Bool) :
    Inv (s.setCall i { call with phase := if cancelled then .stopping false else .waits }) := by
  have ok := inv.okAt found
  have running : call.hook ≠ .stopped := by
    refine ok.running ?_
    obtain isPhase | isPhase := entering <;> rw [isPhase] <;> rfl
  refine inv.setCall ⟨ok.fired, fun isParked => ?_, fun _ => running, fun _ => full⟩
    (.inr (.inr ?_))
  · cases cancelled <;> cases isParked
  · exact Int.le_trans (Int.sub_nonpos_of_le full) (Int.natCast_nonneg _)

/-- A call with the mutex leaves with the error of its context while a slot is free. -/
theorem checkCancelled (found : s.calls[i]? = some call)
    (entering : call.phase = .locking ∨ call.phase = .woken)
    (cancelled : s.cancelled.contains call.ctx = true) (below : s.sem.active < s.sem.limit)
    (orderly : call.phase = .woken → call.hook = .armed →
      s.parked = 0 ∨ s.sem.limit ≤ s.sem.active) :
    Inv (s.setCall i { call with phase := .stopping false }) := by
  have ok := inv.okAt found
  have okNew : CallOk s.sem s.cancelled { call with phase := .stopping false } :=
    ⟨ok.fired, nofun, nofun, nofun⟩
  have notParked : call.phase.isParked = false := by
    obtain isPhase | isPhase := entering <;> rw [isPhase] <;> rfl
  have notCounted : s.wokenUp call = false := by
    rw [State.wokenUp, cancelled, Bool.not_true, Bool.and_false]
  by_cases lost : call.phase = .woken ∧ call.hook = .armed
  · refine inv.setCall okNew (.inr (.inl ?_))
    have none := (orderly lost.1 lost.2).resolve_right (Int.not_le.mpr below)
    rw [← none]
    unfold State.parked State.setCall
    exact countP_same _ found notParked.symm
  · refine inv.setSame found okNew (fun rings => ?_) notParked.symm ?_
    · simp only [State.rings, Bool.or_eq_true, Bool.and_eq_true, beq_iff_eq, notParked,
        Bool.false_eq_true, false_or] at rings ⊢
      exact rings.imp id fun armed => absurd ⟨armed.2, armed.1.1⟩ lost
    · rw [notCounted]
      rfl

/-- A call with the mutex takes a free slot. -/
theorem checkFree (found : s.calls[i]? = some call) (lockFree : s.lockFree = true)
    (entering : call.phase = .locking ∨ call.phase = .woken)
    (fine : s.cancelled.contains call.ctx = false) :
    Inv { s.setCall i { call with phase := .stopping true } with
      sem := { s.sem with active := s.sem.active + 1 }
      acquired := s.acquired + 1 } := by
  have ok := inv.okAt found
  have notParked : call.phase.isParked = false := by
    obtain isPhase | isPhase := entering <;> rw [isPhase] <;> rfl
  have parked : (s.setCall i { call with phase := .stopping true }).parked = s.parked := by
    unfold State.parked State.setCall
    exact countP_same _ found notParked.symm
  refine ⟨?_, ?_, ?_⟩
  · have held := inv.held
    change s.sem.active + 1 = ((s.acquired + 1 : Nat) : Int) - s.released
    omega
  · refine forall_move (inv.calls_of_lockFree lockFree _) ?_
    exact ⟨ok.fired, nofun, nofun, nofun⟩
  · refine inv.free.imp (fun before => ?_) (Or.imp (fun none => parked.trans none)
      fun enough => ?_)
    · simp only [State.broadcasting, Bool.or_eq_true, List.any_eq_true] at before ⊢
      refine before.imp id (exists_move (P := fun call => s.rings call = true) found
        fun rings => ?_)
      rw [State.rings, fine, Bool.and_false, Bool.false_and, Bool.or_false] at rings ⊢
      exact rings
    · -- the slot and the notification of the call are used up together
      have moved := countP_move s.wokenUp { call with phase := .stopping true } found
      have used : s.wokenUp { call with phase := .stopping true } = false := rfl
      have atMost : (if s.wokenUp call = true then 1 else 0) ≤ 1 := by
        split <;> omega
      rw [used, if_neg Bool.false_ne_true] at moved
      change s.sem.limit - (s.sem.active + 1) ≤
        ((s.signals + (s.calls.set i { call with phase := .stopping true }).countP s.wokenUp :
          Nat) : Int)
      rw [State.notified] at enough
      omega

theorem check (orderly : Orderly (.check i) s) (found : s.calls[i]? = some call)
    (lockFree : s.lockFree = true) (entering : call.phase = .locking ∨ call.phase = .woken) :
    Inv (s.checkSlot i call) := by
  unfold checkSlot
  cases slot : s.sem.acquire with
  | none => exact inv.checkFull found entering (acquire_eq_none.mp slot) _
  | some sem =>
    obtain ⟨below, rfl⟩ := acquire_eq_some slot
    cases cancelled : s.cancelled.contains call.ctx with
    | true =>
      exact inv.checkCancelled found entering cancelled below fun woken armed =>
        orderly call found woken armed cancelled
    | false => exact inv.checkFree found lockFree entering cancelled

theorem park (orderly : Orderly (.park i) s) (found : s.calls[i]? = some call)
    (waits : call.phase = .waits) :
    Inv { s.setCall i { call with phase := .parked s.tickets } with
      tickets := s.tickets + 1 } := by
  have ok := inv.okAt found
  have full := ok.waits waits
  have running : call.hook ≠ .stopped := ok.running (by rw [waits]; rfl)
  have hook : call.hook = .armed ∨ call.hook = .started := by
    cases isHook : call.hook with
    | armed => exact .inl rfl
    | started => exact .inr rfl
    | ran => exact absurd isHook (orderly call found)
    | stopped => exact absurd isHook running
  have parked : Inv (s.setCall i { call with phase := .parked s.tickets }) := by
    refine inv.setCall ⟨ok.fired, fun _ => hook, fun _ => running, nofun⟩
      (.inr (.inr ?_))
    exact Int.le_trans (Int.sub_nonpos_of_le full) (Int.natCast_nonneg _)
  exact ⟨parked.held, parked.calls, parked.free⟩

theorem stop (found : s.calls[i]? = some call) (stopping : call.phase = .stopping ok) :
    Inv (s.setCall i
      { call with
        phase := .returned ok
        hook := if call.hook = .armed then .stopped else call.hook }) := by
  have okCall := inv.okAt found
  refine inv.setSame found ⟨fun fired => okCall.fired ?_, nofun,
    nofun, nofun⟩ (fun rings => ?_) ?_ ?_
  · simp only at fired
    split at fired
    · obtain started | ran := fired
      · cases started
      · cases ran
    · exact fired
  · simp only [State.rings, stopping, Phase.isParked, Bool.or_eq_true, Bool.and_eq_true,
      beq_iff_eq] at rings ⊢
    obtain started | ⟨-, isParked | woken⟩ := rings
    · refine .inl ?_
      rw [started]
      rfl
    · cases isParked
    · cases woken
  · rw [stopping]
    rfl
  · rw [State.wokenUp, State.wokenUp, stopping]
    rfl

theorem release (lockFree : s.lockFree = true) :
    Inv { s with
      sem := s.sem.release
      released := s.released + 1
      signals := s.signals + 1 } := by
  refine ⟨?_, inv.calls_of_lockFree lockFree _, inv.free.imp id (Or.imp id fun enough => ?_)⟩
  · have held := inv.held
    simp only [Client.Semaphore.release, Int.natCast_add, Int.natCast_one] at held ⊢
    omega
  · change s.sem.limit - (s.sem.active - 1) ≤
      ((s.signals + 1 + s.calls.countP s.wokenUp : Nat) : Int)
    rw [notified] at enough
    omega

theorem resize (lockFree : s.lockFree = true) (limit : Int) :
    Inv { s with sem := s.sem.resize limit, broadcasts := s.broadcasts + 1 } := by
  refine ⟨inv.held, inv.calls_of_lockFree lockFree _, .inl ?_⟩
  rw [broadcasting, decide_eq_true (Nat.succ_pos _), Bool.true_or]

/-- A signal wakes a caller that waits. -/
theorem signal (pending : 0 < s.signals) (found : s.calls[i]? = some call)
    (isParked : call.phase.isParked = true) :
    Inv ({ s with signals := s.signals - 1 }.setCall i { call with phase := .woken }) := by
  have ok := inv.okAt found
  have inside := (List.getElem?_eq_some_iff.mp found).1
  have okNew : CallOk s.sem s.cancelled { call with phase := .woken } := by
    refine ⟨ok.fired, nofun, fun _ stopped => ?_, nofun⟩
    obtain armed | started := ok.parked isParked
    · cases armed.symm.trans stopped
    · cases started.symm.trans stopped
  refine ⟨inv.held, forall_move inv.calls okNew, ?_⟩
  cases cancelled : s.cancelled.contains call.ctx with
  | true =>
    refine .inl (broadcasting_of_rings (mem_of_getElem? (getElem?_set_self inside)) ?_)
    obtain armed | started := ok.parked isParked
    · have listed : call.ctx ∈ s.cancelled := contains_iff_mem.mp cancelled
      simp [State.rings, State.setCall, armed, listed]
    · simp [State.rings, started]
  | false =>
    refine inv.free.imp (fun before => ?_) (Or.imp (fun none => ?_) fun enough => ?_)
    · simp only [State.broadcasting, Bool.or_eq_true, List.any_eq_true] at before ⊢
      refine before.imp id (exists_move found fun rings => ?_)
      simp only [State.rings, State.setCall, cancelled, Bool.and_false, Bool.false_and,
        Bool.or_false] at rings ⊢
      exact rings
    · -- a caller waits, so the count is not zero
      have positive : 0 < s.parked :=
        countP_pos_iff.mpr ⟨call, mem_of_getElem? found, isParked⟩
      omega
    · have moved := countP_move s.wokenUp { call with phase := .woken } found
      have counts : s.wokenUp { call with phase := .woken } = true := by
        rw [State.wokenUp, cancelled]
        rfl
      have didNot : s.wokenUp call = false := by
        rw [State.wokenUp, Bool.and_eq_false_iff]
        refine .inl ?_
        cases isPhase : call.phase with
        | parked ticket => rfl
        | _ =>
          rw [isPhase] at isParked
          cases isParked
      rw [counts, didNot, if_pos rfl, if_neg Bool.false_ne_true] at moved
      change s.sem.limit - s.sem.active ≤
        ((s.signals - 1 + (s.calls.set i { call with phase := .woken }).countP s.wokenUp :
          Nat) : Int)
      rw [State.notified] at enough
      omega

theorem step (orderly : Orderly event s) (stepped : DynSemaphore.step event s = some s') : Inv s' := by
  cases event with
  | acquire ctx => exact inv.acquire ctx stepped
  | cancel ctx =>
    cases stepped
    exact inv.cancel ctx
  | startHook i =>
    obtain ⟨call, found, starts⟩ := bind_eq_some_iff.mp stepped
    obtain ⟨ready, ⟨⟩⟩ := of_guard starts
    exact inv.startHook found ready.2
  | runHook i =>
    obtain ⟨call, found, runs⟩ := bind_eq_some_iff.mp stepped
    obtain ⟨started, ⟨⟩⟩ := of_guard runs
    exact inv.runHook found started
  | check i =>
    obtain ⟨call, found, checks⟩ := bind_eq_some_iff.mp stepped
    obtain ⟨ready, ⟨⟩⟩ := of_guard checks
    exact inv.check orderly found ready.1 ready.2
  | park i =>
    obtain ⟨call, found, parks⟩ := bind_eq_some_iff.mp stepped
    obtain ⟨waits, ⟨⟩⟩ := of_guard parks
    exact inv.park orderly found waits
  | stop i =>
    obtain ⟨call, found, stops⟩ := bind_eq_some_iff.mp stepped
    split at stops
    · rename_i ok stopping
      cases stops
      exact inv.stop found stopping
    · cases stops
  | release =>
    simp only [DynSemaphore.step] at stepped
    obtain ⟨lockFree, ⟨⟩⟩ := of_guard stepped
    exact inv.release lockFree
  | signal chosen =>
    simp only [DynSemaphore.step] at stepped
    obtain ⟨pending, stepped⟩ := of_guard stepped
    cases chosen with
    | none =>
      dsimp only at stepped
      obtain ⟨none, ⟨⟩⟩ := of_guard stepped
      exact ⟨inv.held, inv.calls, .inr (.inl none)⟩
    | some i =>
      obtain ⟨call, found, signals⟩ := bind_eq_some_iff.mp stepped
      split at signals
      · rename_i ticket isParked
        obtain ⟨_, ⟨⟩⟩ := of_guard signals
        refine inv.signal pending found ?_
        rw [isParked]
        rfl
      · cases signals
  | resize limit =>
    simp only [DynSemaphore.step] at stepped
    obtain ⟨lockFree, ⟨⟩⟩ := of_guard stepped
    exact inv.resize lockFree limit
  | broadcast =>
    simp only [DynSemaphore.step] at stepped
    obtain ⟨_, ⟨⟩⟩ := of_guard stepped
    exact ⟨inv.held, inv.wakeAll.calls, .inr (.inl (parked_wakeAll s))⟩

end

end Inv

/-- In every run whose events are orderly, from every limit, the slots held are the successful
calls of `Acquire` less the calls of `Release`, a call succeeds only below the limit, and nobody
waits without a notification under way whose context is cancelled or beside a free slot. -/
theorem limiter_sound (limit : Int) (events : List Event) (s : State)
    (run : Guarded step Orderly (.initial limit) events s) : s.Sound := by
  have inv : Inv s := run.invariant (.initial limit) fun _ _ _ orderly stepped inv =>
    inv.step orderly stepped
  exact inv.sound

section Runs

/-- A second call waits for the slot of the first, and gets it. -/
theorem second_call_woken :
    ∃ s, Guarded step Orderly (.initial 1)
        [.acquire 7, .check 0, .stop 0, .acquire 8, .check 1, .park 1, .release,
          .signal (some 1), .check 1] s ∧
      (s.acquired = 2 ∧ s.sem.active = 1) ∧ s.Sound := by
  have run : ∃ s, Guarded step Orderly (.initial 1)
        [.acquire 7, .check 0, .stop 0, .acquire 8, .check 1, .park 1, .release,
          .signal (some 1), .check 1] s ∧
      s.acquired = 2 ∧ s.sem.active = 1 := by
    refine ⟨_, .cons trivial rfl <| .cons (fun _ found => ?_) rfl <| .cons trivial rfl <|
      .cons trivial rfl <| .cons (fun _ found => ?_) rfl <| .cons (fun _ found => ?_) rfl <|
      .cons trivial rfl <| .cons trivial rfl <| .cons (fun _ found => ?_) rfl <| .nil _, rfl, rfl⟩
    · cases found
      exact nofun
    · cases found
      exact nofun
    · cases found
      exact nofun
    · cases found
      exact nofun
  obtain ⟨s, guarded, counts⟩ := run
  exact ⟨s, guarded, counts, limiter_sound 1 _ s guarded⟩

/-- The context of a call is cancelled when the call has looked at it and is not yet in `Wait`:
the broadcast wakes nobody, and the call waits.  And a call that was signalled leaves with the
error of its context before its callback is started: another call waits beside a free slot. -/
theorem wake_ups_lost :
    (∃ s, Run step (.initial 1)
        [.acquire 7, .check 0, .stop 0, .acquire 8, .check 1, .cancel 8, .startHook 1,
          .runHook 1, .park 1] s ∧
        (∃ call ∈ s.calls, call.phase.isParked = true ∧
          s.cancelled.contains call.ctx = true) ∧
        s.broadcasting = false ∧ s.notified = 0) ∧
      ∃ s, Run step (.initial 1)
        [.acquire 7, .check 0, .stop 0, .acquire 8, .check 1, .park 1, .acquire 9, .check 2,
          .park 2, .release, .signal (some 1), .cancel 8, .check 1, .stop 1] s ∧
        (s.parked = 1 ∧ s.sem.active < s.sem.limit) ∧
        s.broadcasting = false ∧ s.notified = 0 := by
  refine ⟨⟨_, .of_exec rfl, ⟨⟨8, .parked 0, .ran⟩, ?_, rfl, rfl⟩, rfl, rfl⟩,
    ⟨_, .of_exec rfl, ⟨rfl, ?_⟩, rfl, rfl⟩⟩
  · decide
  · decide

end Runs

end Gossipper.Engine.DynSemaphore
