/-
Module: Gossipper.Engine.Pooled
Purpose: What a call does with the pooled messages it received: every read of a field
  and every `PutMessage`, in the order of `executeCall`, `receiveWithPending`, the stash
  callback and `waitForMatch` of `internal/engine/engine.go`.
Trusted boundary: that of `Gossipper.Engine.Call`.  `m.Copy()`, `copyHeaders` and
  `BuildResponse` copy what they read, so what is made of a message is no part of it.
Main exports: accesses, Traced, tracedStep, accesses_uses, messages_put_once
-/
import Gossipper.Engine.Pending
import Gossipper.Lib.Pool

namespace Gossipper.Engine.Call

open Go Sip Scenario Transition Pool List

/-! ### The accesses of the code -/

/-- The deferred calls, as `executeCall` is left. -/
def finishAccesses (s : State) : List (Access Nat) :=
  (s.held.reverse.map Received.id ++ s.pending.map Received.id).map .put

/-- A stop action and an error leave the call. -/
def proceedAccesses (s : State) : After → List (Access Nat)
  | .next => []
  | .jump _ => []
  | .stop => finishAccesses s
  | .fail => finishAccesses s

/-- The error branch behind `waitForMatch`; `_unexp.main` works on the copy. -/
def waitFailedAccesses (script : Script) (cmd : Command) (s : State) (error : WaitError) :
    List (Access Nat) :=
  match error, script.unexpMain with
  | .unexpectedToMain, some _ => []
  | _, _ => if cmd.optional then [] else finishAccesses s

def sendAccesses (s : State) : SendResult → List (Access Nat)
  | .renderFailed => finishAccesses s
  | .sendFailed _ => finishAccesses s
  | .sent _ => []

section Executor

variable [CaseTables]

/-- `receiveWithPending`: an optional recv looks at the pending messages up to the first
match. -/
def scanned (cmd : Command) (s : State) : List Received :=
  if cmd.optional then
    s.pending.takeWhile (fun item => !matchesNow cmd s item.msg) ++
      (s.pending.find? fun item => matchesNow cmd s item.msg).toList
  else []

/-- The stash callback.  The first read is that of the test for a BYE. -/
def stashAccesses (cmd : Command) (s : State) (item : Received) (fromPending : Bool) :
    List (Access Nat) :=
  let msg := item.msg
  .read item.id ::
    if unawaitedBye cmd msg then
      .read item.id :: if fromPending then [] else [.put item.id]
    else if fromPending then
      if cmd.optional then [] else [.read item.id]
    else if 0 < msg.statusCode ∧ matchesTxn s msg = false then [.read item.id, .put item.id]
    else if 0 < msg.statusCode ∧ msg.statusCode < 200 ∧ matchesTxn s msg then
      [.read item.id, .put item.id]
    else
      -- the trace, then the copy for `_unexp.main` or the test for a final response
      [.read item.id, .read item.id]

/-- The command behind a match: the fields for the render context before the actions, the
status code after them. -/
def acceptAccesses (s : State) (item : Received) (after : After) : List (Access Nat) :=
  .read item.id ::
    match after with
    | .next => [.read item.id]
    | .jump _ => [.read item.id]
    | .stop => finishAccesses { s with held := s.held ++ [item] }
    | .fail => finishAccesses { s with held := s.held ++ [item] }

/-- The part of the wait loop behind a message: the match, and without one the status
and the transaction before the stash. -/
def onMessageAccesses (script : Script) (cmd : Command) (s : State) (item : Received)
    (fromPending : Bool) (after : After) : List (Access Nat) :=
  .read item.id ::
    if matchesNow cmd s item.msg then acceptAccesses s item after
    else
      .read item.id :: (stashAccesses cmd s item fromPending ++
        match stash script cmd s item fromPending with
        | (stashed, some error) =>
          .put item.id :: waitFailedAccesses script cmd (stashed.free item) error
        | (stashed, none) =>
          if cmd.optional then waitFailedAccesses script cmd stashed .optionalMismatch
          else if fromPending then [.put item.id] else [])

def onDeadlineAccesses (script : Script) (cmd : Command) (s : State) (late : Bool)
    (sendOk : Bool) (retrans : Int) (finalResponseSeen : Bool) : List (Access Nat) :=
  if 0 < retrans ∧ finalResponseSeen = false ∧ s.last.payload ≠ [] ∧ late = false then
    if sendOk then []
    else waitFailedAccesses script cmd (s.pass .retransmit s.last.payload) .transport
  else waitFailedAccesses script cmd s .deadline

def pollAccesses (script : Script) (cmd : Command) (s : State) (net : Net) (sendOk : Bool)
    (retrans : Int) (finalResponseSeen : Bool) (after : After) : List (Access Nat) :=
  ((scanned cmd s).map Received.id).map .read ++
    match nextSource cmd s with
    | .pending item rest =>
      onMessageAccesses script cmd { s with pending := rest } item true after
    | .mismatch => waitFailedAccesses script cmd s .optionalMismatch
    | .network =>
      match net with
      | .message msg =>
        onMessageAccesses script cmd { s with nextId := s.nextId + 1 } ⟨s.nextId, msg⟩
          false after
      | .deadline late =>
        onDeadlineAccesses script cmd s late sendOk retrans finalResponseSeen
      | .canceled => waitFailedAccesses script cmd s .canceled
      | .broken => waitFailedAccesses script cmd s .transport

/-- The accesses of one step of the executor. -/
def accesses (script : Script) (event : Event) (s : State) : List (Access Nat) :=
  match s.phase, script.commands[s.index]? with
  | .ready, none => finishAccesses s
  | .ready, some _ =>
    match event with
    | .send result _ => sendAccesses s result
    | .other after _ => proceedAccesses s after
    | _ => []
  | .waiting retrans finalResponseSeen, some cmd =>
    match event with
    | .expire => waitFailedAccesses script cmd s .deadline
    | .poll net sendOk after _ =>
      pollAccesses script cmd s net sendOk retrans finalResponseSeen after
    | _ => []
  | _, _ => []

/-- A call with all its accesses so far. -/
structure Traced where
  call : State
  trace : List (Access Nat)

def Traced.initial : Traced where
  call := .initial
  trace := []

def tracedStep (script : Script) (event : Event) (t : Traced) : Option Traced :=
  (step script event t.call).map fun next =>
    { call := next, trace := t.trace ++ accesses script event t.call }

end Executor

/-! ### Reads come before puts -/

section Uses

variable {script : Script} {cmd : Command} {s : State} {item : Received} {live : List Nat}

theorem finish_uses (s : State) (result : Result) :
    Uses live s.freed (s.finish result).freed (finishAccesses s) :=
  .release _

theorem proceed_uses (cmd : Command) (s : State) (after : After) (taken : Bool) :
    Uses live s.freed (proceed cmd s after taken).freed (proceedAccesses s after) := by
  cases after with
  | next | jump index => exact .nil
  | stop | fail => exact finish_uses s _

theorem waitFailed_uses (script : Script) (cmd : Command) (s : State) (error : WaitError) :
    Uses live s.freed (waitFailed script cmd s error).freed
      (waitFailedAccesses script cmd s error) := by
  have leaves (result : Result) :
      Uses live s.freed (if cmd.optional then s.goto (s.index + 1) else s.finish result).freed
        (if cmd.optional then [] else finishAccesses s) := by
    split
    · exact .nil
    · exact finish_uses s result
  cases error with
  | unexpectedToMain =>
    cases main : script.unexpMain with
    | some index =>
      simp only [waitFailed, waitFailedAccesses, main]
      exact .nil
    | none =>
      simp only [waitFailed, waitFailedAccesses, main]
      exact leaves _
  | optionalMismatch | unexpectedFinal | deadline | canceled | transport => exact leaves _

theorem accept_uses (isLive : item.id ∈ live) (after : After) (taken : Bool) :
    Uses live s.freed (accept cmd s item after taken).freed (acceptAccesses s item after) := by
  have kept : Uses live s.freed s.freed [.read item.id] := Uses.nil.read isLive
  refine Uses.read isLive ?_
  cases after with
  | next | jump index => exact kept
  | stop | fail => exact finish_uses { s with held := s.held ++ [item] } .success

theorem onDeadline_uses (script : Script) (cmd : Command) (s : State) (late sendOk : Bool)
    (retrans : Int) (finalResponseSeen : Bool) :
    Uses live s.freed
      (onDeadline script cmd s late sendOk retrans finalResponseSeen).freed
      (onDeadlineAccesses script cmd s late sendOk retrans finalResponseSeen) := by
  unfold onDeadline onDeadlineAccesses
  split
  · dsimp only
    split
    · exact .nil
    · exact waitFailed_uses script cmd (s.pass .retransmit s.last.payload) _
  · exact waitFailed_uses script cmd s _

variable [CaseTables]

theorem sendMessage_uses (cmd : Command) (s : State) (result : SendResult) (taken : Bool) :
    Uses live s.freed (sendMessage cmd s result taken).freed (sendAccesses s result) := by
  cases result with
  | renderFailed => exact finish_uses s _
  | sendFailed payload => exact finish_uses (s.pass .command payload) _
  | sent sent => exact .nil

@[simp] theorem freed_resendAck (s : State) (msg : Message) :
    (resendAck s msg).freed = s.freed := by
  unfold resendAck
  repeat' split
  all_goals rfl

theorem stash_uses (isLive : item.id ∈ live) (fromPending : Bool) :
    Uses live s.freed (stash script cmd s item fromPending).1.freed
      (stashAccesses cmd s item fromPending) := by
  have kept : Uses live s.freed s.freed [] := .nil
  have put : Uses live s.freed (s.free item).freed [.put item.id] := .release [item.id]
  have acked : Uses live s.freed ((resendAck s item.msg).free item).freed [.put item.id] := by
    have freed : ((resendAck s item.msg).free item).freed = (s.free item).freed := by
      simp [State.free, freed_resendAck]
    rw [freed]
    exact put
  simp only [stash, stashAccesses]
  refine Uses.read isLive ?_
  split
  · cases fromPending with
    | true => exact kept.read isLive
    | false => exact put.read isLive
  · split
    · split
      · exact kept
      · split
        · rw [freed_resendAck]
          exact kept.read isLive
        · split <;> exact kept.read isLive
    · split
      · exact acked.read isLive
      · split
        · exact put.read isLive
        · split
          · exact (kept.read isLive).read isLive
          · split <;> exact (kept.read isLive).read isLive

theorem onMessage_uses (isLive : item.id ∈ live) (fromPending : Bool) (retrans : Int)
    (finalResponseSeen : Bool) (after : After) (taken : Bool) :
    Uses live s.freed
      (onMessage script cmd s item fromPending retrans finalResponseSeen after taken).freed
      (onMessageAccesses script cmd s item fromPending after) := by
  have stashedUses : Uses live s.freed (stash script cmd s item fromPending).1.freed
    (stashAccesses cmd s item fromPending) := stash_uses isLive fromPending
  unfold onMessage onMessageAccesses
  refine Uses.read isLive ?_
  split
  · exact accept_uses isLive after taken
  · refine Uses.read isLive ?_
    -- Both sides match on the result of `stash`, so it is taken apart once.
    generalize stash script cmd s item fromPending = result at stashedUses ⊢
    obtain ⟨stashed, outcome⟩ := result
    dsimp only at stashedUses ⊢
    cases outcome with
    | some error =>
      have put : Uses [] stashed.freed (stashed.free item).freed [.put item.id] :=
        .release [item.id]
      exact stashedUses.append (put.append (waitFailed_uses script cmd _ error))
    | none =>
      dsimp only
      split
      · exact stashedUses.append (waitFailed_uses script cmd stashed _)
      · cases fromPending with
        | true => exact stashedUses.append (.release [item.id])
        | false => exact stashedUses.append .nil

/-- The messages a step may read: those that are pending and the next one from the
network. -/
def readable (s : State) : List Nat :=
  s.pending.map Received.id ++ [s.nextId]

theorem scanned_subset (cmd : Command) (s : State) : scanned cmd s ⊆ s.pending := by
  intro item member
  unfold scanned at member
  split at member
  · rcases mem_append.mp member with before | found
    · exact (takeWhile_subset _) before
    · exact mem_of_find?_eq_some (Option.mem_toList.mp found)
  · cases member

theorem poll_uses (script : Script) (cmd : Command) (s : State) (net : Net) (sendOk : Bool)
    (retrans : Int) (finalResponseSeen : Bool) (after : After) (taken : Bool) :
    Uses (readable s) s.freed
      (poll script cmd s net sendOk retrans finalResponseSeen after taken).freed
      (pollAccesses script cmd s net sendOk retrans finalResponseSeen after) := by
  have scan : (scanned cmd s).map Received.id ⊆ readable s :=
    List.Subset.trans (map_subset _ (scanned_subset cmd s)) (subset_append_left _ _)
  unfold poll pollAccesses
  refine Uses.reads scan ?_
  cases source : nextSource cmd s with
  | pending item rest =>
    have isLive : item.id ∈ readable s := by
      obtain ⟨⟨front, back, split, _⟩, _, _⟩ := nextSource_pending source
      simp [readable, split]
    exact onMessage_uses (s := { s with pending := rest }) isLive true retrans _ after taken
  | mismatch => exact waitFailed_uses script cmd s _
  | network =>
    cases net with
    | message msg =>
      have isLive : s.nextId ∈ readable s := by simp [readable]
      have received : (⟨s.nextId, msg⟩ : Received).id ∈ readable s := isLive
      exact onMessage_uses (s := { s with nextId := s.nextId + 1 }) received false retrans _
        after taken
    | deadline late => exact onDeadline_uses script cmd s late sendOk retrans finalResponseSeen
    | canceled | broken => exact waitFailed_uses script cmd s _

theorem accesses_uses (stepped : step script event s = some t) :
    Uses (readable s) s.freed t.freed (accesses script event s) := by
  unfold accesses
  revert stepped
  fun_cases step script event s <;> rintro ⟨⟩
  case case2 atEnd ready =>
    simp only [ready, atEnd]
    exact finish_uses s _
  case case12 cmd atCommand waiting =>
    simp only [waiting, atCommand]
    exact waitFailed_uses script cmd s _
  case case13 cmd atCommand waiting _ _ _ _ =>
    simp only [waiting, atCommand]
    exact poll_uses script cmd s _ _ _ _ _ _
  case case6 cmd atCommand ready _ _ _ =>
    simp only [ready, atCommand]
    exact sendMessage_uses cmd s _ _
  case case10 cmd atCommand ready _ _ _ _ =>
    simp only [ready, atCommand]
    exact proceed_uses cmd s _ _
  case case5 atCommand ready _ | case7 atCommand ready _ =>
    simp only [ready, atCommand]
    exact .nil

end Uses

/-! ### Nothing is left at the end -/

/-- A call that has ended holds no message. -/
def Settled (s : State) : Prop :=
  ∀ result, s.phase = .ended result → s.pending = [] ∧ s.held = []

theorem settled_finish (s : State) (result : Result) : Settled (s.finish result) :=
  fun _ _ => ⟨rfl, rfl⟩

theorem settled_goto (s : State) (index : Nat) : Settled (s.goto index) := by
  intro result ended
  cases ended

variable {s : State}

theorem settled_waiting (waiting : s.phase = .waiting retrans finalResponseSeen) : Settled s := by
  intro result ended
  rw [waiting] at ended
  cases ended

theorem settled_proceed (cmd : Command) (s : State) (after : After) (taken : Bool) :
    Settled (proceed cmd s after taken) := by
  cases after with
  | next => exact settled_goto s _
  | jump index => exact settled_goto s index
  | stop | fail => exact settled_finish s _

theorem settled_waitFailed (script : Script) (cmd : Command) (s : State) (error : WaitError) :
    Settled (waitFailed script cmd s error) := by
  unfold waitFailed
  split
  · exact settled_goto s _
  · split
    · exact settled_goto s _
    · exact settled_finish s _

/-- The trace puts back what is back in the pool, and touches none of it again. -/
structure Disciplined (t : Traced) : Prop where
  owned : Owned t.call
  settled : Settled t.call
  freed : t.call.freed = puts t.trace
  fresh : Fresh [] t.trace

theorem Disciplined.initial : Disciplined .initial where
  owned := .initial
  settled := by
    intro result ended
    cases ended
  freed := rfl
  fresh := trivial

theorem Owned.nodup_freed (owned : Owned s) : s.freed.Nodup := by
  rw [nodup_iff_count_le_one]
  intro x
  have once := owned.once x
  have counted : s.freed.count x ≤ (ids s).count x := by
    simp only [ids, count_append]
    omega
  split at once <;> omega

theorem Owned.readable_held (owned : Owned s) :
    ∀ x ∈ readable s, x ∉ s.freed := by
  intro x isReadable isFreed
  have inIds : x ∈ ids s := mem_append_right _ isFreed
  have below := owned.mem_lt inIds
  rcases mem_append.mp isReadable with isPending | isNext
  · have once := owned.once x
    rw [if_pos below] at once
    have pendingCount := count_pos_iff.mpr isPending
    have freedCount := count_pos_iff.mpr isFreed
    simp only [ids, count_append] at once
    omega
  · rw [mem_singleton.mp isNext] at below
    exact absurd below (Nat.lt_irrefl _)

section Runs

variable [CaseTables] {script : Script}

theorem settled_onMessage (cmd : Command) (s : State) (item : Received) (fromPending : Bool)
    (retrans : Int) (finalResponseSeen : Bool) (after : After) (taken : Bool) :
    Settled (onMessage script cmd s item fromPending retrans finalResponseSeen after taken) := by
  fun_cases onMessage script cmd s item fromPending retrans finalResponseSeen after taken
  case case1 => exact settled_proceed cmd _ after taken
  case case4 => exact settled_waiting rfl
  all_goals exact settled_waitFailed script cmd _ _

theorem settled_poll
    (waiting : s.phase = .waiting retrans finalResponseSeen) (net : Net) (sendOk : Bool)
    (after : After) (taken : Bool) :
    Settled (poll script cmd s net sendOk retrans finalResponseSeen after taken) := by
  unfold poll
  split
  · exact settled_onMessage cmd _ _ _ _ _ after taken
  · exact settled_waitFailed script cmd s _
  · split
    · exact settled_onMessage cmd _ _ _ _ _ after taken
    · unfold onDeadline
      split
      · dsimp only
        split
        · exact settled_waiting waiting
        · exact settled_waitFailed script cmd _ _
      · exact settled_waitFailed script cmd s _
    · exact settled_waitFailed script cmd s _
    · exact settled_waitFailed script cmd s _

theorem settled_step (stepped : Stepped script s event t) :
    Settled t := by
  cases stepped with
  | complete => exact settled_finish s _
  | skip => exact settled_goto s _
  | send result taken =>
    cases result with
    | renderFailed => exact settled_finish s _
    | sendFailed payload => exact settled_finish (s.pass .command payload) _
    | sent sent => exact settled_goto _ _
  | wait => exact settled_waiting rfl
  | other after taken => exact settled_proceed _ s after taken
  | expire => exact settled_waitFailed script _ s _
  | poll net sendOk after taken waiting => exact settled_poll waiting net sendOk after taken

theorem Disciplined.step (disciplined : Disciplined t)
    (stepped : tracedStep script event t = some u) : Disciplined u := by
  obtain ⟨next, called, rfl⟩ := Option.map_eq_some_iff.mp stepped
  have owned := owned_step disciplined.owned (step_stepped called)
  have uses := accesses_uses called
  have fresh := uses.fresh owned.nodup_freed disciplined.owned.readable_held
  exact {
    owned := owned
    settled := settled_step (step_stepped called)
    freed := by
      rw [puts_append, ← disciplined.freed]
      exact uses.puts_eq
    fresh := by
      rw [fresh_append, nil_append, ← disciplined.freed]
      exact ⟨disciplined.fresh, fresh⟩ }

/-- In every run of a call, a message that is put back is not touched again, and when the
call has ended every message it received was put back once. -/
theorem messages_put_once {events : List Event} {t : Traced}
    (run : Run (tracedStep script) .initial events t) :
    (∀ before after x, t.trace = before ++ .put x :: after →
      .read x ∉ after ∧ .put x ∉ after) ∧
    (∀ result, t.call.phase = .ended result → ∀ x, x < t.call.nextId →
      t.trace.count (.put x) = 1) := by
  have disciplined : Disciplined t :=
    run.invariant .initial fun _ _ _ stepped before => before.step stepped
  constructor
  · intro before after x split
    have fresh := disciplined.fresh
    rw [split] at fresh
    exact fresh.untouched
  · intro result ended x received
    obtain ⟨noPending, noHeld⟩ := disciplined.settled result ended
    have once := disciplined.owned.once x
    rw [ids, noPending, noHeld, if_pos received] at once
    rw [count_put, ← disciplined.freed]
    exact once

end Runs

section Concrete

attribute [local instance] CaseTables.asciiOnly

/-- A 486 arrives at the optional recv, is deferred, and ends the call at the next one. -/
def busyCall : List Event :=
  [.send (.sent invite) false, .wait, .poll (.message busy) true .next false, .wait,
    .poll .broken true .next false]

theorem busyCall_put_once :
    ∃ t, Run (tracedStep early180) .initial busyCall t ∧ t.call.nextId = 1 ∧
      t.trace.count (.put 0) = 1 := by
  have run : Run (tracedStep early180) .initial busyCall _ := Run.of_isSome (by decide)
  exact ⟨_, run, by decide, (messages_put_once run).2 _ rfl 0 (by decide)⟩

end Concrete

end Gossipper.Engine.Call
