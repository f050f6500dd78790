/-
Module: Gossipper.Eventlog.Ring
Purpose: The ring buffer of the event log, after `internal/eventlog/ring.go`, and the queue
  that it stands for: a list that keeps its newest elements.
Trusted boundary: the slice that a batch is copied to is read before the next drain, as
  `drainLoop` does
Main exports: Ring, newRingBuffer, Ring.push, Ring.drain, Ring.close, toQueue_push, toQueue_drain
-/
import Gossipper.Lib.Circular

namespace Gossipper.Eventlog

open Circular List

variable {α : Type}

/-! ### The ring -/

/-- `ringBuffer`, with what its indices satisfy. -/
structure Ring (α : Type) where
  buf : List α
  head : Nat
  tail : Nat
  size : Nat
  cap : Nat
  dropped : UInt64
  closed : Bool
  buf_length : buf.length = cap
  head_lt : head < cap
  tail_eq : tail = (head + size) % cap
  size_le : size ≤ cap

/-- `newRingBuffer`. -/
def newRingBuffer [Inhabited α] (capacity : Int) : Ring α where
  buf := List.replicate (if capacity ≤ 0 then 1 else capacity.toNat) default
  head := 0
  tail := 0
  size := 0
  cap := if capacity ≤ 0 then 1 else capacity.toNat
  dropped := 0
  closed := false
  buf_length := length_replicate
  head_lt := by split <;> omega
  tail_eq := (Nat.zero_mod _).symm
  size_le := Nat.zero_le _

namespace Ring

theorem cap_pos (r : Ring α) : 0 < r.cap := Nat.zero_lt_of_lt r.head_lt

/-- The oldest event of a full ring is given up. -/
def overwrite (r : Ring α) (full : r.size = r.cap) : Ring α :=
  { r with
    head := (r.head + 1) % r.cap
    size := r.size - 1
    dropped := r.dropped + 1
    head_lt := Nat.mod_lt _ r.cap_pos
    tail_eq := by
      have positive := r.cap_pos
      rw [r.tail_eq, Nat.mod_add_mod, full]
      congr 1
      omega
    size_le := Nat.le_trans (Nat.sub_le _ _) r.size_le }

/-- The event is written behind the others, and `tail` goes on. -/
def write (r : Ring α) (ev : α) (room : r.size < r.cap) : Ring α :=
  { r with
    buf := r.buf.set r.tail ev
    tail := (r.tail + 1) % r.cap
    size := r.size + 1
    buf_length := length_set.trans r.buf_length
    tail_eq := by rw [r.tail_eq, Nat.mod_add_mod, Nat.add_assoc]
    size_le := room }

/-- `push`. -/
def push (ev : α) (r : Ring α) : Ring α :=
  if r.closed then r
  else if full : r.size = r.cap then
    (r.overwrite full).write ev (Nat.lt_of_lt_of_eq (Nat.sub_lt (full ▸ r.cap_pos) Nat.one_pos) full)
  else r.write ev (Nat.lt_of_le_of_ne r.size_le full)

/-- The number of events that a slice of a capacity takes. -/
def batchSize (r : Ring α) (capOut : Nat) : Nat :=
  min r.size (if capOut = 0 then r.size else capOut)

/-- `close`. -/
def close (r : Ring α) : Ring α := { r with closed := true }

section Drain

variable [Inhabited α]

/-- The loop of `drain`: the events copied, the buffer and `head`. -/
def copyOut (cap : Nat) : Nat → List α → Nat → List α × List α × Nat
  | 0, buf, head => ([], buf, head)
  | n + 1, buf, head =>
    let rest := copyOut cap n (buf.set head default) ((head + 1) % cap)
    (buf.getD head default :: rest.1, rest.2)

theorem copyOut_length (cap n : Nat) (buf : List α) (head : Nat) :
    (copyOut cap n buf head).2.1.length = buf.length := by
  induction n generalizing buf head with
  | zero => rfl
  | succ n ih =>
    rw [copyOut]
    exact (ih _ _).trans length_set

theorem copyOut_head {cap head} (n : Nat) (buf : List α) (inside : head < cap) :
    (copyOut cap n buf head).2.2 = (head + n) % cap := by
  induction n generalizing buf head with
  | zero => exact (Nat.mod_eq_of_lt inside).symm
  | succ n ih =>
    rw [copyOut]
    refine (ih _ (Nat.mod_lt _ (Nat.zero_lt_of_lt inside))).trans ?_
    rw [Nat.mod_add_mod, Nat.add_assoc, Nat.add_comm 1]

/-- The batch that `drain` returns and the ring behind it. -/
def takeBatch (r : Ring α) (n : Nat) (enough : n ≤ r.size) : List α × Ring α :=
  let copied := copyOut r.cap n r.buf r.head
  (copied.1,
    { r with
      buf := copied.2.1
      head := copied.2.2
      size := r.size - n
      buf_length := (copyOut_length _ _ _ _).trans r.buf_length
      head_lt := by
        rw [copyOut_head n r.buf r.head_lt]
        exact Nat.mod_lt _ r.cap_pos
      tail_eq := by
        rw [copyOut_head n r.buf r.head_lt, Nat.mod_add_mod, r.tail_eq, Nat.add_assoc,
          Nat.add_sub_cancel' enough]
      size_le := Nat.le_trans (Nat.sub_le _ _) r.size_le })

/-- `drain` into a slice of a capacity, with `none` for a consumer that waits. -/
def drain (capOut : Nat) (r : Ring α) : Option ((List α × Bool) × Ring α) :=
  if r.size = 0 then if r.closed then some (([], false), r) else none
  else
    let taken := r.takeBatch (r.batchSize capOut) (Nat.min_le_left _ _)
    some ((taken.1, true), taken.2)

/-- The buffered events, from the oldest on. -/
def contents (r : Ring α) : List α := window r.buf r.head r.size

end Drain

end Ring

/-! ### The queue -/

/-- A queue that keeps its newest elements. -/
structure Queue (α : Type) where
  capacity : Nat
  items : List α
  dropped : UInt64
  closed : Bool

namespace Queue

/-- The new element comes in; of too many, the oldest goes. -/
def push (x : α) (q : Queue α) : Queue α :=
  if q.closed then q
  else if q.items.length = q.capacity then
    { q with items := q.items.tail ++ [x], dropped := q.dropped + 1 }
  else { q with items := q.items ++ [x] }

/-- The oldest elements go out, as many as a limit allows; a limit of zero is none. -/
def drain (limit : Nat) (q : Queue α) : Option ((List α × Bool) × Queue α) :=
  if q.items = [] then if q.closed then some (([], false), q) else none
  else
    let n := if limit = 0 then q.items.length else limit
    some ((q.items.take n, true), { q with items := q.items.drop n })

def close (q : Queue α) : Queue α := { q with closed := true }

theorem drain_cases (limit : Nat) (q : Queue α) :
    (q.items = [] ∧ q.closed = true ∧ q.drain limit = some (([], false), q)) ∨
      (q.items = [] ∧ q.closed = false ∧ q.drain limit = none) ∨
      ∃ n, q.drain limit = some ((q.items.take n, true), { q with items := q.items.drop n }) := by
  unfold drain
  by_cases empty : q.items = []
  · rw [if_pos empty]
    cases isClosed : q.closed with
    | true => exact .inl ⟨empty, rfl, if_pos rfl⟩
    | false => exact .inr (.inl ⟨empty, rfl, if_neg Bool.false_ne_true⟩)
  · rw [if_neg empty]
    exact .inr (.inr ⟨_, rfl⟩)

end Queue

/-! ### The ring refines the queue -/

namespace Ring

variable [Inhabited α]

/-- The queue that a ring stands for. -/
def toQueue (r : Ring α) : Queue α where
  capacity := r.cap
  items := r.contents
  dropped := r.dropped
  closed := r.closed

theorem contents_length (r : Ring α) : r.contents.length = r.size :=
  window_length _ _ _

theorem contents_overwrite (r : Ring α) (full : r.size = r.cap) :
    (r.overwrite full).contents = r.contents.tail := by
  have size : r.size - 1 + 1 = r.size := Nat.sub_add_cancel (full ▸ r.cap_pos)
  have inside : r.head < r.buf.length := r.buf_length.symm ▸ r.head_lt
  have split := window_succ inside (r.size - 1)
  rw [size, r.buf_length] at split
  rw [contents, contents, split]
  rfl

theorem contents_write (r : Ring α) (ev : α) (room : r.size < r.cap) :
    (r.write ev room).contents = r.contents ++ [ev] := by
  have behind := window_set_behind r.head ev (r.buf_length.symm ▸ room)
  rw [r.buf_length, ← r.tail_eq] at behind
  exact behind

theorem toQueue_push (ev : α) (r : Ring α) : (r.push ev).toQueue = r.toQueue.push ev := by
  have closed : r.toQueue.closed = r.closed := rfl
  have capacity : r.toQueue.capacity = r.cap := rfl
  have items : r.toQueue.items.length = r.size := r.contents_length
  unfold push Queue.push
  rw [closed, items, capacity]
  split
  · rfl
  · split
    · rw [toQueue, contents_write, contents_overwrite]
      rfl
    · rw [toQueue, contents_write]
      rfl

/-- The loop copies the first events of the window and leaves the others as they are. -/
theorem copyOut_spec {cap head : Nat} (n : Nat) {buf : List α} {size : Nat}
    (length : buf.length = cap) (inside : head < cap) (enough : n ≤ size) (fits : size ≤ cap) :
    (copyOut cap n buf head).1 = (window buf head size).take n ∧
      window (copyOut cap n buf head).2.1 (copyOut cap n buf head).2.2 (size - n) =
        (window buf head size).drop n := by
  induction n generalizing buf head size with
  | zero => exact ⟨rfl, rfl⟩
  | succ n ih =>
    obtain ⟨rest, rfl⟩ : ∃ rest, size = rest + 1 := ⟨size - 1, by omega⟩
    subst length
    have kept := window_set_before (default : α) inside (Nat.lt_of_succ_le fits)
    have length : (buf.set head default).length = buf.length := length_set
    have advanced : (head + 1) % buf.length < buf.length :=
      Nat.mod_lt _ (Nat.zero_lt_of_lt inside)
    have next := ih length advanced (Nat.le_of_succ_le_succ enough)
      (Nat.le_of_succ_le fits)
    rw [kept] at next
    rw [copyOut, window_succ inside, take_succ_cons, drop_succ_cons,
      Nat.add_sub_add_right]
    exact ⟨congrArg _ next.1, next.2⟩

theorem takeBatch_spec (r : Ring α) (n : Nat) (enough : n ≤ r.size) :
    (r.takeBatch n enough).1 = r.contents.take n ∧
      (r.takeBatch n enough).2.contents = r.contents.drop n :=
  copyOut_spec n r.buf_length r.head_lt enough r.size_le

theorem toQueue_drain (capOut : Nat) (r : Ring α) :
    (r.drain capOut).map (fun taken => (taken.1, taken.2.toQueue)) = r.toQueue.drain capOut := by
  have closed : r.toQueue.closed = r.closed := rfl
  have length : r.toQueue.items.length = r.size := r.contents_length
  have empty : r.toQueue.items = [] ↔ r.size = 0 := by
    rw [← length, length_eq_zero_iff]
  unfold drain Queue.drain
  simp only [empty, closed, length]
  split
  · split <;> rfl
  · obtain ⟨out, left⟩ := r.takeBatch_spec (r.batchSize capOut) (Nat.min_le_left _ _)
    -- a batch is as long as the slice and the buffered events allow
    have take : r.contents.take (r.batchSize capOut) =
        r.contents.take (if capOut = 0 then r.size else capOut) := by
      rw [batchSize, Nat.min_comm, ← r.contents_length, ← take_eq_take_min]
    have drop : r.contents.drop (r.batchSize capOut) =
        r.contents.drop (if capOut = 0 then r.size else capOut) := by
      rw [batchSize, Nat.min_comm, ← r.contents_length, ← drop_eq_drop_min]
    rw [Option.map_some, out, take, toQueue, left, drop]
    rfl

end Ring

end Gossipper.Eventlog
