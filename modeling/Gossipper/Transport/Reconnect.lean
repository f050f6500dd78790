/-
Module: Gossipper.Transport.Reconnect
Purpose: The connections of a shared TCP client under every interleaving of `Send`, the read
  loop, failures of the network and `Close`, after `SharedTCP` in `internal/transport/tcp.go`.
Trusted boundary: a read or write on a connection that has failed or was closed may return an
  error, one on another connection does not; a dialled connection is a new one
Main exports: Conn, Phase, Thread.next, State, Event, step, State.Sound, Orderly,
  connections_sound
-/
import Gossipper.Lib.Run
import Gossipper.Lib.Threads

namespace Gossipper.Transport.Reconnect

open Transition List Option

/-! ### The client -/

/-- `ReconnectOptions`. -/
structure ReconnectOptions where
  maxAttempts : Int
  sleep : Int
  closeOnReconnect : Bool

/-- What closes a connection: a reconnect that has replaced it, or `Close`. -/
inductive Closer where
  | reconnect
  | close
deriving DecidableEq, Repr

/-- A connection that was dialled. -/
structure Conn where
  failed : Bool
  closedBy : Option Closer
deriving DecidableEq, Repr

namespace Conn

def dialled : Conn := ⟨false, none⟩

/-- Reads and writes may return an error. -/
def broken (conn : Conn) : Bool :=
  conn.failed || conn.closedBy.isSome

/-- The network breaks the connection, unless it is closed already. -/
def fail (conn : Conn) : Conn :=
  { conn with failed := conn.failed || conn.closedBy.isNone }

/-- `conn.Close()`; a second call does nothing. -/
def close (closer : Closer) (conn : Conn) : Conn :=
  { conn with closedBy := conn.closedBy.or (some closer) }

end Conn

/-- Where the read loop or a `Send` is.  The connection of a phase is the value of the local
variable `conn` or `reader`. -/
inductive Phase where
  /-- at the top of the loop of `readLoop` -/
  | start
  | fetch
  /-- in `ReadMessage` or the first `Write` -/
  | blocked (conn : Nat)
  /-- in the `select` of `readLoop` -/
  | deliver
  /-- at the start of `tryReconnect` -/
  | ask (conn : Nat)
  | wait (conn : Nat)
  | locked (conn : Nat)
  | dial (conn : Nat) (attempt : Nat)
  | install (conn new : Nat)
  | replace (old : Nat)
  /-- in `Send`, after a reconnect -/
  | refetch
  | rewrite (conn : Nat)
  | returned
deriving DecidableEq, Repr

/-- The goroutine has `reconnectMu`. -/
def Phase.holdsLock : Phase → Bool
  | .locked _ | .dial _ _ | .install _ _ | .replace _ => true
  | _ => false

/-- The goroutine has a connection that no field of the client refers to. -/
def Phase.owns (conn : Nat) : Phase → Bool
  | .install _ new => new == conn
  | .replace old => old == conn
  | _ => false

/-- The read loop or a call of `Send`. -/
structure Thread where
  isReader : Bool
  phase : Phase
deriving DecidableEq, Repr

/-- Where the first call of `Close` is; `closeOnce` makes all others wait for it. -/
inductive Closing where
  | notCalled
  | announced
  | fetched (conn : Nat)
  | done
deriving DecidableEq, Repr

structure State where
  conns : List Conn
  current : Nat
  closed : Bool
  lock : Option Nat
  threads : List Thread
  closing : Closing

/-- `NewSharedTCPWithReconnect`. -/
def State.initial : State where
  conns := [.dialled]
  current := 0
  closed := false
  lock := none
  threads := [⟨true, .start⟩]
  closing := .notCalled

def State.broken (s : State) (conn : Nat) : Bool :=
  (s.conns[conn]?).any Conn.broken

/-- What the world answers to a goroutine: the operation it is in succeeds or fails, what was
read is not a message, or the channel `closed` wakes it. -/
inductive Answer where
  | ok
  | fails
  | malformed
  | woken
deriving DecidableEq, Repr

/-- What a goroutine does to the client when it goes to its next phase. -/
inductive Effect where
  | none
  | acquire
  | release
  | dials
  | installs (new : Nat)
  | closes (old : Nat)
deriving DecidableEq, Repr

/-- The next phase of a goroutine and what it does to the client. -/
def Thread.next (opts : ReconnectOptions) (s : State) (answer : Answer) (thread : Thread) :
    Option (Phase × Effect) :=
  match thread.phase with
  | .start => some (if s.closed then .returned else .fetch, .none)
  | .fetch => some (.blocked s.current, .none)
  | .blocked conn =>
    match answer with
    | .ok => some (if thread.isReader then .deliver else .returned, .none)
    | .fails => if s.broken conn then some (.ask conn, .none) else none
    | .malformed => if thread.isReader then some (.ask conn, .none) else none
    | .woken => none
  | .deliver =>
    match answer with
    | .ok => some (.start, .none)
    | .woken => if s.closed then some (.returned, .none) else none
    | _ => none
  | .ask conn =>
    if opts.closeOnReconnect || opts.maxAttempts ≤ 0 || s.closed then some (.returned, .none)
    else some (.wait conn, .none)
  | .wait conn => if s.lock = none then some (.locked conn, .acquire) else none
  | .locked conn => if s.closed then some (.returned, .release) else some (.dial conn 0, .none)
  | .dial conn attempt =>
    if (attempt : Int) < opts.maxAttempts then
      match answer with
      | .ok => some (.install conn s.conns.length, .dials)
      | .fails => some (.dial conn (attempt + 1), .none)
      | .woken =>
        -- `sleepUnlessClosed`, before every attempt but the first
        if 0 < attempt && 0 < opts.sleep && s.closed then some (.returned, .release)
        else none
      | .malformed => none
    else some (.returned, .release)
  | .install _ new => some (.replace s.current, .installs new)
  | .replace old => some (if thread.isReader then .start else .refetch, .closes old)
  | .refetch => some (.rewrite s.current, .none)
  | .rewrite conn =>
    match answer with
    | .ok => some (.returned, .none)
    | .fails => if s.broken conn then some (.returned, .none) else none
    | _ => none
  | .returned => none

/-- The goroutine at a position of the list goes to a phase. -/
def State.apply (s : State) (t : Nat) (thread : Thread) (phase : Phase) (effect : Effect) :
    State :=
  let s := { s with threads := s.threads.set t { thread with phase := phase } }
  match effect with
  | .none => s
  | .acquire => { s with lock := some t }
  | .release => { s with lock := none }
  | .dials => { s with conns := s.conns ++ [.dialled] }
  | .installs new => { s with current := new }
  | .closes old => { s with conns := s.conns.modify old (.close .reconnect), lock := none }

/-- What can happen: a connection fails, `Send` or `Close` is called, the call of `Close` reads
`s.conn` and closes it, or a goroutine goes on. -/
inductive Event where
  | fail (conn : Nat)
  | send
  | close
  | closeFetches
  | closeCloses
  | advance (t : Nat) (answer : Answer)
deriving DecidableEq, Repr

/-- One event; `none` means that it cannot happen. -/
def step (opts : ReconnectOptions) : Event → State → Option State
  | .fail conn, s => some { s with conns := s.conns.modify conn .fail }
  | .send, s => some { s with threads := s.threads ++ [⟨false, .fetch⟩] }
  | .close, s =>
    if s.closing = .notCalled then some { s with closed := true, closing := .announced }
    else none
  | .closeFetches, s =>
    if s.closing = .announced then some { s with closing := .fetched s.current } else none
  | .closeCloses, s =>
    match s.closing with
    | .fetched conn =>
      some { s with conns := s.conns.modify conn (.close .close), closing := .done }
    | _ => none
  | .advance t answer, s =>
    match s.threads[t]? with
    | none => none
    | some thread =>
      (thread.next opts s answer).map fun (phase, effect) => s.apply t thread phase effect

/-! ### The property -/

/-- `Close` has been called, and it and all other operations have returned. -/
def State.Finished (s : State) : Prop :=
  s.closing = .done ∧ ∀ thread ∈ s.threads, thread.phase = .returned

/-- No reconnect has closed a connection that had not failed, and when all operations have
returned, every connection is closed. -/
structure State.Sound (s : State) : Prop where
  failed : ∀ conn ∈ s.conns, conn.closedBy = some .reconnect → conn.failed = true
  allClosed : s.Finished → ∀ conn ∈ s.conns, conn.closedBy ≠ none

/-! ### The invariant -/

/-- What is kept of a connection: failures and closings are not undone, and no other closer is
put in the place of the first. -/
structure Conn.Kept (conn conn' : Conn) : Prop where
  failed : conn.failed = true → conn'.failed = true
  closedBy : conn.closedBy ≠ none → conn'.closedBy = conn.closedBy

def Failed (conns : List Conn) (c : Nat) : Prop :=
  ∃ conn, conns[c]? = some conn ∧ conn.failed = true

def Broken (conns : List Conn) (c : Nat) : Prop :=
  ∃ conn, conns[c]? = some conn ∧ (conn.failed = true ∨ conn.closedBy ≠ none)

/-- What a goroutine in a phase knows about its connections. -/
def Knows (s : State) : Phase → Prop
  | .ask conn | .wait conn | .locked conn => s.closed = true ∨ Broken s.conns conn
  | .dial conn _ => conn = s.current ∧ Failed s.conns conn
  | .install conn new =>
    (conn = s.current ∧ Failed s.conns conn) ∧ new ≠ s.current ∧
      ∃ isNew, s.conns[new]? = some isNew ∧ isNew.closedBy = none
  | .replace old => old ≠ s.current ∧ Failed s.conns old
  | _ => True

/-- What is known about a connection. -/
structure Accounted (s : State) (c : Nat) (conn : Conn) : Prop where
  held : conn.closedBy = none → c = s.current ∨ ∃ thread ∈ s.threads, thread.phase.owns c = true
  replaced : conn.closedBy = some .reconnect → conn.failed = true ∧ c ≠ s.current
  ended : conn.closedBy = some .close → s.closed = true

/-- What the call of `Close` knows. -/
def ClosingKnows (s : State) : Closing → Prop
  | .notCalled => s.closed = false
  | .announced => s.closed = true
  | .fetched conn => s.closed = true ∧ conn = s.current
  | .done => s.closed = true ∧ ∃ conn, s.conns[s.current]? = some conn ∧ conn.closedBy ≠ none

structure Inv (s : State) : Prop where
  current : s.current < s.conns.length
  lock : ∀ (t : Nat) (thread : Thread), s.threads[t]? = some thread →
    thread.phase.holdsLock = true → s.lock = some t
  phases : ∀ (t : Nat) (thread : Thread), s.threads[t]? = some thread →
    Knows s thread.phase
  conns : ∀ (c : Nat) (conn : Conn), s.conns[c]? = some conn → Accounted s c conn
  closing : ClosingKnows s s.closing

/-- A reconnect that has got the lock finds the connection in use whose error it has seen, it
has seen no error because of a malformed message, and it puts its connection in place before
`Close` reads the field. -/
def Orderly : Event → State → Prop
  | .advance t answer, s =>
    ∀ thread, s.threads[t]? = some thread →
      match thread.phase with
      | .blocked _ => answer = .malformed → s.closed = true
      | .locked conn => s.closed = false → conn = s.current
      | .install _ _ => s.closing = .notCalled ∨ s.closing = .announced
      | _ => True
  | _, _ => True

theorem Inv.sound (inv : Inv s) : s.Sound := by
  constructor
  · intro conn member byReconnect
    obtain ⟨c, found⟩ := mem_iff_getElem?.mp member
    exact ((inv.conns c conn found).replaced byReconnect).1
  · intro finished conn member isOpen
    obtain ⟨c, found⟩ := mem_iff_getElem?.mp member
    obtain isCurrent | ⟨thread, isThread, owns⟩ := (inv.conns c conn found).held isOpen
    · have ended := inv.closing
      rw [finished.1] at ended
      obtain ⟨-, last, isLast, closed⟩ := ended
      rw [← isCurrent] at isLast
      cases found.symm.trans isLast
      exact closed isOpen
    · rw [finished.2 thread isThread] at owns
      cases owns

theorem Inv.initial : Inv .initial where
  current := Nat.one_pos
  lock t thread found := by
    match t with
    | 0 => cases found; nofun
  phases t thread found := by
    match t with
    | 0 => cases found; trivial
  conns c conn found := by
    match c with
    | 0 => cases found; exact ⟨fun _ => .inl rfl, nofun, nofun⟩
  closing := rfl

/-! ### Changes of the connections -/

/-- The connections only change as they may. -/
def Extends (conns conns' : List Conn) : Prop :=
  ∀ (c : Nat) (conn : Conn), conns[c]? = some conn →
    ∃ conn', conns'[c]? = some conn' ∧ conn.Kept conn'

section Extends

variable {conns conns' : List Conn} {c : Nat}

theorem Extends.refl (conns : List Conn) : Extends conns conns :=
  fun _ conn found => ⟨conn, found, id, fun _ => rfl⟩

theorem Extends.append (conns more : List Conn) : Extends conns (conns ++ more) :=
  fun _ conn found => ⟨conn, getElem?_append_left (List.getElem?_eq_some_iff.mp found).1 ▸
    found, id, fun _ => rfl⟩

theorem Extends.modify {f : Conn → Conn} (kept : ∀ conn : Conn, conn.Kept (f conn))
    (conns : List Conn) (at_ : Nat) : Extends conns (conns.modify at_ f) := by
  intro c conn found
  rw [getElem?_modify, found]
  by_cases here : at_ = c
  · exact ⟨f conn, by simp [here], kept conn⟩
  · exact ⟨conn, by simp [here], id, fun _ => rfl⟩

theorem Extends.failed (extends_ : Extends conns conns') (failed : Failed conns c) :
    Failed conns' c := by
  obtain ⟨conn, found, isFailed⟩ := failed
  obtain ⟨conn', found', kept⟩ := extends_ c conn found
  exact ⟨conn', found', kept.failed isFailed⟩

theorem Extends.broken (extends_ : Extends conns conns') (broken : Broken conns c) :
    Broken conns' c := by
  obtain ⟨conn, found, isBroken⟩ := broken
  obtain ⟨conn', found', kept⟩ := extends_ c conn found
  refine ⟨conn', found', isBroken.imp kept.failed fun closed => ?_⟩
  rwa [kept.closedBy closed]

end Extends

theorem modify_eq_some {conns : List Conn} {f : Conn → Conn} {i c : Nat} {conn' : Conn}
    (found : (conns.modify i f)[c]? = some conn') :
    ∃ conn, conns[c]? = some conn ∧ (if i = c then f conn else conn) = conn' := by
  rw [getElem?_modify] at found
  exact map_eq_some_iff.mp found

variable (conn : Conn) (closer : Closer)

namespace Conn

theorem closedBy_close_cases :
    (conn.close closer).closedBy = conn.closedBy ∨
      conn.closedBy = none ∧ (conn.close closer).closedBy = some closer := by
  unfold close
  cases conn.closedBy with
  | none => exact .inr ⟨rfl, rfl⟩
  | some _ => exact .inl rfl

theorem closedBy_close : (conn.close closer).closedBy ≠ none := by
  unfold close
  cases conn.closedBy <;> nofun

theorem kept_close (conn : Conn) : conn.Kept (conn.close closer) where
  failed := id
  closedBy closed := by
    obtain same | ⟨isOpen, -⟩ := conn.closedBy_close_cases closer
    · exact same
    · exact absurd isOpen closed

theorem kept_fail : conn.Kept conn.fail where
  failed isFailed := by
    rw [fail, isFailed]
    rfl
  closedBy _ := rfl

end Conn

theorem broken_of_broken {s : State} {c : Nat} (broken : s.broken c = true) :
    Broken s.conns c := by
  obtain ⟨conn, found, isBroken⟩ := (Option.any_eq_true _ _).mp broken
  rw [Conn.broken, Bool.or_eq_true, isSome_iff_ne_none] at isBroken
  exact ⟨conn, found, isBroken⟩

variable {s s' : State} {phase : Phase}

/-- What a goroutine knows that has not got the lock. -/
theorem Knows.unlocked (knows : Knows s phase)
    (noLock : phase.holdsLock = false) (closed : s.closed = true → s'.closed = true)
    (extends_ : Extends s.conns s'.conns) : Knows s' phase := by
  cases phase with
  | ask conn | wait conn => exact knows.imp closed extends_.broken
  | locked conn | dial conn attempt | install conn new | replace old => cases noLock
  | _ => trivial

/-- What a goroutine knows, while the connection in use is the same and no other one is
closed. -/
theorem Knows.sameCurrent (knows : Knows s phase)
    (closed : s.closed = true → s'.closed = true) (extends_ : Extends s.conns s'.conns)
    (current : s'.current = s.current)
    (unclosed : ∀ (c : Nat) (conn : Conn), c ≠ s.current → s.conns[c]? = some conn →
      conn.closedBy = none → ∃ conn', s'.conns[c]? = some conn' ∧ conn'.closedBy = none) :
    Knows s' phase := by
  cases phase with
  | locked conn => exact knows.imp closed extends_.broken
  | dial conn attempt => exact ⟨knows.1.trans current.symm, extends_.failed knows.2⟩
  | install conn new =>
    obtain ⟨⟨isCurrent, failed⟩, other, isNew, found, isOpen⟩ := knows
    exact ⟨⟨isCurrent.trans current.symm, extends_.failed failed⟩, current ▸ other,
      unclosed new isNew other found isOpen⟩
  | replace old => exact ⟨current ▸ knows.1, extends_.failed knows.2⟩
  | _ => exact knows.unlocked rfl closed extends_

/-- What `Close` knows, while the connection in use is the same. -/
theorem ClosingKnows.sameCurrent {closing}
    (knows : ClosingKnows s closing) (closed : s'.closed = s.closed)
    (extends_ : Extends s.conns s'.conns) (current : s'.current = s.current) :
    ClosingKnows s' closing := by
  cases closing with
  | notCalled | announced => exact closed.trans knows
  | fetched conn => exact ⟨closed.trans knows.1, knows.2.trans current.symm⟩
  | done =>
    obtain ⟨isClosed, last, isLast, lastClosed⟩ := knows
    obtain ⟨last', isLast', kept⟩ := extends_ s.current last isLast
    refine ⟨closed.trans isClosed, last', current ▸ isLast', ?_⟩
    rwa [kept.closedBy lastClosed]

open Threads

/-- A goroutine that does not own a connection leaves it accounted for. -/
theorem Accounted.moved {c t conn thread}
    (accounted : Accounted s c conn) (found : s.threads[t]? = some thread)
    (notOwner : thread.phase.owns c = false)
    (threads : s'.threads = s.threads.set t { thread with phase := phase })
    (current : s'.current = s.current) (closed : s'.closed = s.closed) : Accounted s' c conn where
  held isOpen := by
    rw [current, threads]
    refine (accounted.held isOpen).imp id (exists_move found fun wasOwner => ?_)
    cases notOwner.symm.trans wasOwner
  replaced byReconnect := current ▸ accounted.replaced byReconnect
  ended byClose := closed.trans (accounted.ended byClose)

namespace Inv

variable {s : State} {t : Nat} {thread : Thread} {phase : Phase}

section

variable (inv : Inv s)

include inv

/-- While a goroutine has the lock, no other one has. -/
theorem otherUnlocked (found : s.threads[t]? = some thread)
    (holds : thread.phase.holdsLock = true) {t' other} (isOther : t' ≠ t)
    (found' : s.threads[t']? = some other) : other.phase.holdsLock = false := by
  cases locked : other.phase.holdsLock with
  | false => rfl
  | true =>
    have mine := inv.lock t thread found holds
    have theirs := inv.lock t' other found' locked
    exact absurd (Option.some.inj (theirs.symm.trans mine)) isOther

/-- A goroutine moves, and takes or gives back the lock, with the connections as they are. -/
theorem move {lock} (found : s.threads[t]? = some thread)
    (mine : phase.holdsLock = true → lock = some t)
    (others : lock = s.lock ∨ s.lock = none ∨ s.lock = some t)
    (knows : Knows s phase) (owns : ∀ c, thread.phase.owns c = false) :
    Inv { s with lock := lock, threads := s.threads.set t { thread with phase := phase } } where
  current := inv.current
  lock t' thread' found' holds := by
    obtain ⟨rfl, rfl⟩ | ⟨isOther, before⟩ := get_move found'
    · exact mine holds
    · have theirs := inv.lock t' thread' before holds
      obtain same | free | isMine := others
      · exact same.trans theirs
      · cases free.symm.trans theirs
      · exact absurd (Option.some.inj (theirs.symm.trans isMine)) isOther
  phases t' thread' found' := by
    obtain ⟨rfl, rfl⟩ | ⟨-, before⟩ := get_move found'
    · exact knows
    · exact inv.phases t' thread' before
  conns c conn isConn := (inv.conns c conn isConn).moved found (owns c) rfl rfl rfl
  closing := inv.closing

/-- A goroutine with the lock has dialled a new connection. -/
theorem dials {conn attempt} (found : s.threads[t]? = some thread)
    (isDial : thread.phase = .dial conn attempt) :
    Inv { s with
      conns := s.conns ++ [.dialled]
      threads := s.threads.set t { thread with phase := .install conn s.conns.length } } := by
  have extends_ := Extends.append s.conns [.dialled]
  have unclosed (c : Nat) (conn : Conn) (_ : c ≠ s.current) (isConn : s.conns[c]? = some conn)
      (isOpen : conn.closedBy = none) :
      ∃ conn', (s.conns ++ [.dialled])[c]? = some conn' ∧ conn'.closedBy = none :=
    ⟨conn, getElem?_append_left (List.getElem?_eq_some_iff.mp isConn).1 ▸ isConn, isOpen⟩
  have knows := inv.phases t thread found
  rw [isDial] at knows
  refine ⟨?_, ?_, ?_, ?_, ?_⟩
  · rw [length_append]
    exact Nat.lt_add_right _ inv.current
  · intro t' thread' found' holds
    obtain ⟨rfl, rfl⟩ | ⟨-, before⟩ := get_move found'
    · exact inv.lock t' thread found (by rw [isDial]; rfl)
    · exact inv.lock t' thread' before holds
  · intro t' thread' found'
    obtain ⟨rfl, rfl⟩ | ⟨-, before⟩ := get_move found'
    · exact ⟨⟨knows.1, extends_.failed knows.2⟩, (Nat.ne_of_lt inv.current).symm, .dialled,
        getElem?_concat_length, rfl⟩
    · exact (inv.phases t' thread' before).sameCurrent id extends_ rfl unclosed
  · intro c conn' isConn
    obtain isOld | ⟨isLast, rfl⟩ := get_start isConn
    · exact (inv.conns c conn' isOld).moved found (by rw [isDial]; rfl) rfl rfl rfl
    · refine ⟨fun _ => .inr ⟨_, mem_of_getElem? (getElem?_set_self
        (List.getElem?_eq_some_iff.mp found).1), ?_⟩, nofun, nofun⟩
      exact beq_iff_eq.mpr isLast.symm
  · exact inv.closing.sameCurrent rfl extends_ rfl

/-- A goroutine with the lock puts its connection in the place of the one in use, before
`Close` reads the field. -/
theorem installs {conn new} (found : s.threads[t]? = some thread)
    (isInstall : thread.phase = .install conn new)
    (early : s.closing = .notCalled ∨ s.closing = .announced) :
    Inv { s with
      current := new
      threads := s.threads.set t { thread with phase := .replace s.current } } := by
  have knows := inv.phases t thread found
  rw [isInstall] at knows
  obtain ⟨⟨isCurrent, failed⟩, other, isNew, foundNew, newOpen⟩ := knows
  have holds : thread.phase.holdsLock = true := by
    rw [isInstall]
    rfl
  have owner : ∃ thread' ∈ s.threads.set t { thread with phase := .replace s.current },
      thread'.phase = .replace s.current :=
    ⟨_, mem_of_getElem? (getElem?_set_self (List.getElem?_eq_some_iff.mp found).1), rfl⟩
  refine ⟨(List.getElem?_eq_some_iff.mp foundNew).1, ?_, ?_, ?_, ?_⟩
  · intro t' thread' found' holds'
    obtain ⟨rfl, rfl⟩ | ⟨-, before⟩ := get_move found'
    · exact inv.lock t' thread found holds
    · exact inv.lock t' thread' before holds'
  · intro t' thread' found'
    obtain ⟨rfl, rfl⟩ | ⟨isOther, before⟩ := get_move found'
    · exact ⟨other.symm, isCurrent ▸ failed⟩
    · exact (inv.phases t' thread' before).unlocked
        (inv.otherUnlocked found holds isOther before) id (.refl _)
  · intro c conn' isConn
    obtain ⟨held, replaced, ended⟩ := inv.conns c conn' isConn
    refine ⟨fun isOpen => ?_, fun byReconnect => ⟨(replaced byReconnect).1, ?_⟩, ended⟩
    · obtain ⟨thread', member, isReplace⟩ := owner
      obtain wasCurrent | ⟨holder, isHolder, owns⟩ := held isOpen
      · refine .inr ⟨thread', member, ?_⟩
        rw [isReplace, wasCurrent]
        exact beq_self_eq_true _
      · -- the owner is the goroutine with the lock, and owns the new connection
        obtain ⟨t', foundHolder⟩ := mem_iff_getElem?.mp isHolder
        by_cases same : t' = t
        · subst same
          cases found.symm.trans foundHolder
          rw [isInstall] at owns
          exact .inl (beq_iff_eq.mp owns).symm
        · have unlocked := inv.otherUnlocked found holds same foundHolder
          revert owns unlocked
          cases holder.phase <;> nofun
    · rintro rfl
      cases foundNew.symm.trans isConn
      cases newOpen.symm.trans byReconnect
  · have ending := inv.closing
    revert ending
    obtain isNot | isAnnounced := early
    · rw [isNot]
      exact id
    · rw [isAnnounced]
      exact id

/-- A goroutine closes the connection that it has replaced, and gives the lock back. -/
theorem closes {old : Nat} (found : s.threads[t]? = some thread)
    (isReplace : thread.phase = .replace old) (noLock : phase.holdsLock = false)
    (free : ∀ s', Knows s' phase) :
    Inv { s with
      conns := s.conns.modify old (.close .reconnect)
      lock := none
      threads := s.threads.set t { thread with phase := phase } } := by
  have knows := inv.phases t thread found
  rw [isReplace] at knows
  obtain ⟨notCurrent, failed⟩ := knows
  have holds : thread.phase.holdsLock = true := by
    rw [isReplace]
    rfl
  have kept := Conn.kept_close .reconnect
  refine ⟨?_, ?_, ?_, ?_, ?_⟩
  · rw [length_modify]
    exact inv.current
  · intro t' thread' found' holds'
    obtain ⟨rfl, rfl⟩ | ⟨isOther, before⟩ := get_move found'
    · cases noLock.symm.trans holds'
    · cases (inv.otherUnlocked found holds isOther before).symm.trans holds'
  · intro t' thread' found'
    obtain ⟨rfl, rfl⟩ | ⟨isOther, before⟩ := get_move found'
    · exact free _
    · exact (inv.phases t' thread' before).unlocked
        (inv.otherUnlocked found holds isOther before) id (.modify kept _ _)
  · intro c conn' isConn
    obtain ⟨conn, before, rfl⟩ := modify_eq_some isConn
    have accounted := inv.conns c conn before
    by_cases isOld : old = c
    · subst isOld
      obtain ⟨conn', isConn', isFailed⟩ := failed
      cases before.symm.trans isConn'
      rw [if_pos rfl]
      refine ⟨fun isOpen => absurd isOpen (conn.closedBy_close _),
        fun _ => ⟨isFailed, notCurrent⟩, fun byClose => accounted.ended ?_⟩
      obtain already | ⟨-, isNow⟩ := conn.closedBy_close_cases .reconnect
      · exact already ▸ byClose
      · cases isNow.symm.trans byClose
    · rw [if_neg isOld]
      refine accounted.moved found ?_ rfl rfl rfl
      rw [isReplace]
      exact beq_eq_false_iff_ne.mpr isOld
  · exact inv.closing.sameCurrent rfl (.modify kept _ _) rfl

/-- The connections change by themselves or by `Close`, and no goroutine moves. -/
theorem world (closed : s.closed = true → closed' = true) (extends_ : Extends s.conns conns')
    (unclosed : ∀ (c : Nat) (conn : Conn), c ≠ s.current → s.conns[c]? = some conn →
      conn.closedBy = none → ∃ conn', conns'[c]? = some conn' ∧ conn'.closedBy = none)
    (accounted : ∀ (c : Nat) (conn : Conn), conns'[c]? = some conn →
      Accounted { s with conns := conns', closed := closed', closing := closing' } c conn)
    (closing : ClosingKnows
      { s with conns := conns', closed := closed', closing := closing' } closing') :
    Inv { s with conns := conns', closed := closed', closing := closing' } where
  current := by
    obtain ⟨conn', isConn', -⟩ := extends_ s.current _ (getElem?_eq_getElem inv.current)
    exact (List.getElem?_eq_some_iff.mp isConn').1
  lock := inv.lock
  phases t thread found := (inv.phases t thread found).sameCurrent closed extends_ rfl unclosed
  conns := accounted
  closing := closing

theorem fail (conn : Nat) :
    Inv { s with conns := s.conns.modify conn .fail } := by
  have extends_ : Extends s.conns (s.conns.modify conn .fail) := .modify Conn.kept_fail _ _
  refine inv.world id extends_ ?_ ?_ ?_
  · intro c isConn _ found isOpen
    rw [getElem?_modify, found]
    refine ⟨_, rfl, ?_⟩
    split <;> exact isOpen
  · intro c conn' found
    obtain ⟨before, isBefore, rfl⟩ := modify_eq_some found
    obtain ⟨held, replaced, ended⟩ := inv.conns c before isBefore
    split
    · refine ⟨held, fun byReconnect => ⟨?_, (replaced byReconnect).2⟩, ended⟩
      exact before.kept_fail.failed (replaced byReconnect).1
    · exact ⟨held, replaced, ended⟩
  · exact inv.closing.sameCurrent rfl extends_ rfl

theorem send : Inv { s with threads := s.threads ++ [⟨false, .fetch⟩] } := by
  refine ⟨inv.current, ?_, ?_, ?_, inv.closing⟩
  · intro t thread found holds
    obtain before | ⟨-, rfl⟩ := get_start found
    · exact inv.lock t thread before holds
    · cases holds
  · intro t thread found
    obtain before | ⟨-, rfl⟩ := get_start found
    · exact inv.phases t thread before
    · trivial
  · intro c conn isConn
    obtain ⟨held, replaced, ended⟩ := inv.conns c conn isConn
    refine ⟨fun isOpen => (held isOpen).imp id ?_, replaced, ended⟩
    rintro ⟨thread, member, owns⟩
    exact ⟨thread, mem_append_left _ member, owns⟩

theorem closeCloses {conn : Nat} (isFetched : s.closing = .fetched conn) :
    Inv { s with conns := s.conns.modify conn (.close .close), closing := .done } := by
  have ending := inv.closing
  rw [isFetched] at ending
  obtain ⟨closed, isCurrent⟩ := ending
  subst isCurrent
  refine inv.world id (.modify (Conn.kept_close .close) _ _) ?_ ?_ ?_
  · intro c isConn other found isOpen
    rw [getElem?_modify_ne _ _ other.symm, found]
    exact ⟨isConn, rfl, isOpen⟩
  · intro c conn' found
    obtain ⟨before, isBefore, rfl⟩ := modify_eq_some found
    obtain ⟨held, replaced, ended⟩ := inv.conns c before isBefore
    split
    · refine ⟨fun isOpen => absurd isOpen (before.closedBy_close _), fun byReconnect => ?_,
        fun _ => closed⟩
      obtain already | ⟨-, isNow⟩ := before.closedBy_close_cases .close
      · exact replaced (already ▸ byReconnect)
      · cases isNow.symm.trans byReconnect
    · exact ⟨held, replaced, ended⟩
  · obtain ⟨last, isLast⟩ : ∃ last, s.conns[s.current]? = some last :=
      ⟨_, getElem?_eq_getElem inv.current⟩
    refine ⟨closed, last.close .close, ?_, last.closedBy_close _⟩
    change (s.conns.modify s.current _)[s.current]? = _
    rw [getElem?_modify_eq, isLast]
    rfl

/-- A goroutine moves and does nothing to the client. -/
theorem quiet {before} (found : s.threads[t]? = some thread)
    (isPhase : thread.phase = before) (same : phase.holdsLock = true → before.holdsLock = true)
    (knows : Knows s phase) (owns : ∀ c, before.owns c = false) :
    Inv (s.apply t thread phase .none) := by
  subst isPhase
  exact inv.move found (fun holds => inv.lock t thread found (same holds)) (.inl rfl) knows owns

/-- A goroutine gives up its reconnect and returns. -/
theorem release {before} (found : s.threads[t]? = some thread)
    (isPhase : thread.phase = before) (holds : before.holdsLock = true)
    (owns : ∀ c, before.owns c = false) : Inv (s.apply t thread .returned .release) := by
  subst isPhase
  exact inv.move found nofun (.inr (.inr (inv.lock t thread found holds))) trivial owns

/-- The connection whose error a reconnect has seen, if it is in use when the reconnect has got
the lock, has failed. -/
theorem failed_of_locked {conn} (open_ : s.closed = false)
    (broken : s.closed = true ∨ Broken s.conns conn) (isCurrent : conn = s.current) :
    Failed s.conns conn := by
  obtain isClosed | ⟨seen, found, failed | closed⟩ := broken
  · cases open_.symm.trans isClosed
  · exact ⟨seen, found, failed⟩
  · obtain ⟨-, replaced, ended⟩ := inv.conns conn seen found
    cases closer : seen.closedBy with
    | none => exact absurd closer closed
    | some by_ =>
      cases by_ with
      | reconnect => exact absurd isCurrent (replaced closer).2
      | close => cases open_.symm.trans (ended closer)

/-- A goroutine goes on. -/
theorem advance {opts : ReconnectOptions} {answer : Answer} {effect : Effect}
    (orderly : Orderly (.advance t answer) s) (found : s.threads[t]? = some thread)
    (next : thread.next opts s answer = some (phase, effect)) :
    Inv (s.apply t thread phase effect) := by
  have guard := orderly thread found
  have knows := inv.phases t thread found
  simp only [Thread.next] at next
  cases isPhase : thread.phase with
  | start | fetch | deliver | refetch | rewrite _ | returned =>
    -- A goroutine in these phases knows nothing and owns nothing.
    simp only [isPhase] at next
    repeat' split at next
    all_goals cases next
    all_goals exact inv.quiet found isPhase nofun trivial fun _ => rfl
  | blocked conn =>
    simp only [isPhase] at next guard
    repeat' split at next
    all_goals cases next
    · exact inv.quiet found isPhase nofun trivial fun _ => rfl
    · exact inv.quiet found isPhase nofun trivial fun _ => rfl
    · rename_i isBroken
      exact inv.quiet found isPhase nofun (.inr (broken_of_broken isBroken)) fun _ => rfl
    · exact inv.quiet found isPhase nofun (.inl (guard rfl)) fun _ => rfl
  | ask conn =>
    simp only [isPhase] at next knows
    split at next
    all_goals cases next
    · exact inv.quiet found isPhase nofun trivial fun _ => rfl
    · exact inv.quiet found isPhase nofun knows fun _ => rfl
  | wait conn =>
    simp only [isPhase] at next knows
    rw [ite_none_right_eq_some] at next
    obtain ⟨isFree, next⟩ := next
    cases next
    refine inv.move found (fun _ => rfl) (.inr (.inl isFree)) knows fun _ => ?_
    rw [isPhase]
    rfl
  | locked conn =>
    simp only [isPhase] at next knows guard
    split at next
    all_goals cases next
    · exact inv.release found isPhase rfl fun _ => rfl
    · rename_i notClosed
      have open_ : s.closed = false := Bool.not_eq_true _ ▸ notClosed
      have isCurrent := guard open_
      have failed := inv.failed_of_locked open_ knows isCurrent
      exact inv.quiet found isPhase (fun _ => rfl) ⟨isCurrent, failed⟩ fun _ => rfl
  | dial conn attempt =>
    simp only [isPhase] at next knows
    repeat' split at next
    all_goals cases next
    · exact inv.dials found isPhase
    · exact inv.quiet found isPhase (fun _ => rfl) knows fun _ => rfl
    · exact inv.release found isPhase rfl fun _ => rfl
    · exact inv.release found isPhase rfl fun _ => rfl
  | install conn new =>
    simp only [isPhase] at next guard
    cases next
    exact inv.installs found isPhase guard
  | replace old =>
    simp only [isPhase] at next
    cases next
    refine inv.closes found isPhase ?_ fun _ => ?_
    · split <;> rfl
    · split <;> trivial

theorem step (orderly : Orderly event s) (stepped : Reconnect.step opts event s = some s') : Inv s' := by
  cases event with
  | fail conn =>
    cases stepped
    exact inv.fail conn
  | send =>
    cases stepped
    exact inv.send
  | close =>
    simp only [Reconnect.step] at stepped
    split at stepped
    · cases stepped
      refine inv.world (fun _ => rfl) (.refl _) (fun _ conn _ found isOpen =>
        ⟨conn, found, isOpen⟩) (fun c conn found => ?_) rfl
      obtain ⟨held, replaced, -⟩ := inv.conns c conn found
      exact ⟨held, replaced, fun _ => rfl⟩
    · cases stepped
  | closeFetches =>
    simp only [Reconnect.step] at stepped
    split at stepped
    · rename_i announced
      cases stepped
      have closed := inv.closing
      rw [announced] at closed
      refine inv.world id (.refl _) (fun _ conn _ found isOpen => ⟨conn, found, isOpen⟩)
        (fun c conn found => ?_) ⟨closed, rfl⟩
      obtain ⟨held, replaced, ended⟩ := inv.conns c conn found
      exact ⟨held, replaced, ended⟩
    · cases stepped
  | closeCloses =>
    simp only [Reconnect.step] at stepped
    split at stepped
    · rename_i conn isFetched
      cases stepped
      exact inv.closeCloses isFetched
    · cases stepped
  | advance t answer =>
    simp only [Reconnect.step] at stepped
    split at stepped
    · cases stepped
    · rename_i thread found
      obtain ⟨⟨phase, effect⟩, next, rfl⟩ := map_eq_some_iff.mp stepped
      exact inv.advance orderly found next

end

end Inv

/-- In every run whose events are orderly, for all options, no reconnect closes a connection
that has not failed, and when `Close` and all operations have returned, every connection that
was dialled is closed. -/
theorem connections_sound (opts : ReconnectOptions) (events : List Event) (s : State)
    (run : Guarded (step opts) Orderly .initial events s) : s.Sound := by
  have inv : Inv s := run.invariant .initial fun _ _ _ orderly stepped inv =>
    inv.step orderly stepped
  exact inv.sound

section Runs

/-- The read loop sees a failure and replaces the connection, and `Close` ends it. -/
theorem readLoop_reconnects :
    ∃ s, Guarded (step ⟨3, 0, false⟩) Orderly .initial
        [.advance 0 .ok, .advance 0 .ok, .fail 0, .advance 0 .fails, .advance 0 .ok,
          .advance 0 .ok, .advance 0 .ok, .advance 0 .ok, .advance 0 .ok, .advance 0 .ok,
          .close, .closeFetches, .closeCloses, .advance 0 .ok] s ∧
      s.conns = [⟨true, some .reconnect⟩, ⟨false, some .close⟩] ∧ s.Finished ∧ s.Sound := by
  have run : ∃ s, Guarded (step ⟨3, 0, false⟩) Orderly .initial
        [.advance 0 .ok, .advance 0 .ok, .fail 0, .advance 0 .fails, .advance 0 .ok,
          .advance 0 .ok, .advance 0 .ok, .advance 0 .ok, .advance 0 .ok, .advance 0 .ok,
          .close, .closeFetches, .closeCloses, .advance 0 .ok] s ∧
      s.conns = [⟨true, some .reconnect⟩, ⟨false, some .close⟩] ∧ s.Finished := by
    refine ⟨_, .cons ?_ rfl <| .cons ?_ rfl <| .cons trivial rfl <| .cons ?_ rfl <|
      .cons ?_ rfl <| .cons ?_ rfl <| .cons ?_ rfl <| .cons ?_ rfl <| .cons ?_ rfl <|
      .cons ?_ rfl <| .cons trivial rfl <| .cons trivial rfl <| .cons trivial rfl <|
      .cons ?_ rfl <| .nil _, rfl, rfl, by decide⟩
    all_goals
      intro thread found
      cases found
    · trivial
    · trivial
    · exact nofun
    · trivial
    · trivial
    · exact fun _ => rfl
    · trivial
    · exact .inl rfl
    · trivial
    · trivial
  obtain ⟨s, guarded, conns, finished⟩ := run
  exact ⟨s, guarded, conns, finished, connections_sound _ _ s guarded⟩

/-- `Send` sees a failure and replaces the connection; the read loop sees the same failure and
replaces the new connection.  And a reconnect that has dialled when `Close` closes the
connection in use leaves its own one open. -/
theorem fresh_connection_closed_and_connection_left :
    (∃ s, Run (step ⟨3, 0, false⟩) .initial
        [.advance 0 .ok, .advance 0 .ok, .send, .advance 1 .ok, .fail 0, .advance 1 .fails,
          .advance 1 .ok, .advance 1 .ok, .advance 1 .ok, .advance 1 .ok, .advance 1 .ok,
          .advance 1 .ok, .advance 0 .fails, .advance 0 .ok, .advance 0 .ok, .advance 0 .ok,
          .advance 0 .ok, .advance 0 .ok, .advance 0 .ok] s ∧
        ∃ conn ∈ s.conns, conn.closedBy = some .reconnect ∧ conn.failed = false) ∧
      ∃ s, Run (step ⟨3, 0, false⟩) .initial
        [.advance 0 .ok, .advance 0 .ok, .fail 0, .advance 0 .fails, .advance 0 .ok,
          .advance 0 .ok, .advance 0 .ok, .advance 0 .ok, .close, .closeFetches, .closeCloses,
          .advance 0 .ok, .advance 0 .ok, .advance 0 .ok] s ∧
        s.Finished ∧ ∃ conn ∈ s.conns, conn.closedBy = none := by
  refine ⟨⟨_, .of_exec rfl, ⟨false, some .reconnect⟩, ?_, rfl, rfl⟩,
    ⟨_, .of_exec rfl, ⟨rfl, ?_⟩, ⟨false, none⟩, ?_, rfl⟩⟩
  · decide
  · decide
  · decide

end Runs

end Gossipper.Transport.Reconnect
