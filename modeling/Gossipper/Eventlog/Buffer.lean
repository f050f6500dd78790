/-
Module: Gossipper.Eventlog.Buffer
Purpose: The ring buffer of the event log between any number of producers and one consumer: what
  is delivered, what is lost, and what `drain` returns after `close`.
Trusted boundary: none beyond Gossipper.Eventlog.Ring; `dropped` is counted in 64 bits
Main exports: Ops, State, Event, step, Simulates, ring_simulates, drainLoop, buffer_keeps_newest
-/
import Gossipper.Eventlog.Ring
import Gossipper.Lib.Run

namespace Gossipper.Eventlog

open Transition List

variable {α β γ : Type}

/-! ### Producers and the consumer -/

/-- The operations of a buffer, each of which runs under its mutex. -/
structure Ops (α β : Type) where
  push : α → β → β
  drain : Nat → β → Option ((List α × Bool) × β)
  close : β → β
  closed : β → Bool

def ringOps [Inhabited α] : Ops α (Ring α) := ⟨Ring.push, Ring.drain, Ring.close, Ring.closed⟩

def queueOps : Ops α (Queue α) := ⟨Queue.push, Queue.drain, Queue.close, Queue.closed⟩

/-- Where the consumer is: outside `drain`, in `cond.Wait`, or notified there. -/
inductive Consumer where
  | idle
  | parked (capOut : Nat)
  | woken (capOut : Nat)
deriving DecidableEq, Repr

/-- `Signal` or `Broadcast`, with one consumer. -/
def Consumer.notify : Consumer → Consumer
  | .parked capOut => .woken capOut
  | other => other

/-- A buffer with what was accepted and what was drained, and whether the last `drain` has
reported the end. -/
structure State (α β : Type) where
  store : β
  accepted : List α
  batches : List (List α)
  consumer : Consumer
  ended : Bool

def State.initial (store : β) : State α β := ⟨store, [], [], .idle, false⟩

inductive Event (α : Type) where
  | push (ev : α)
  | close
  | drain (capOut : Nat)
  /-- the consumer that was notified gets the mutex -/
  | resume
deriving DecidableEq, Repr

/-- The consumer has the mutex and looks for events. -/
def State.attempt (ops : Ops α β) (capOut : Nat) (s : State α β) : State α β :=
  match ops.drain capOut s.store with
  | none => { s with consumer := .parked capOut }
  | some ((batch, ok), store) =>
    { s with store, batches := s.batches ++ [batch], consumer := .idle, ended := !ok }

/-- One event; `none` means that it cannot happen. -/
def step (ops : Ops α β) : Event α → State α β → Option (State α β)
  | .push ev, s =>
    if ops.closed s.store then some s
    else
      some { s with
        store := ops.push ev s.store
        accepted := s.accepted ++ [ev]
        consumer := s.consumer.notify }
  | .close, s => some { s with store := ops.close s.store, consumer := s.consumer.notify }
  | .drain capOut, s => if s.consumer = .idle then some (s.attempt ops capOut) else none
  | .resume, s =>
    match s.consumer with
    | .woken capOut => some (s.attempt ops capOut)
    | _ => none

/-- The batches that the loop of the logger hands to its sinks until `drain` reports the end;
`none` when it waits, or is not through in so many rounds. -/
def drainLoop [Inhabited α] (capOut : Nat) : Nat → Ring α → Option (List (List α))
  | 0, _ => none
  | rounds + 1, r =>
    (r.drain capOut).bind fun taken =>
      if taken.1.2 then (drainLoop capOut rounds taken.2).map (taken.1.1 :: ·) else some []

/-- What is delivered and buffered is the sequence of accepted events without those that were
removed, which are as many as `dropCount` says, each with `cap` newer ones behind it.  When the
end is reported, or the consumer waits, nothing is buffered; after `close`, all that is buffered
is delivered and then the end reported. -/
structure State.KeepsNewest [Inhabited α] (s : State α (Ring α)) : Prop where
  order : ∃ kept removed : List Nat,
    (kept ++ removed).Perm (List.range s.accepted.length) ∧
    kept.Pairwise (· < ·) ∧
    (s.batches.flatten ++ s.store.contents).map some = kept.map (s.accepted[·]?) ∧
    s.store.dropped.toNat = removed.length % 2 ^ 64 ∧
    ∀ p ∈ removed, p + s.store.cap < s.accepted.length
  ended : s.ended = true → s.store.closed = true ∧ s.store.contents = []
  waiting : ∀ capOut, s.consumer = .parked capOut →
    s.store.closed = false ∧ s.store.contents = []
  flushed : s.store.closed = true → ∀ capOut, ∃ batches,
    drainLoop capOut (s.store.size + 1) s.store = some batches ∧
      batches.flatten = s.store.contents

/-! ### The abstract buffer simulates the ring -/

/-- A map of buffers that commutes with their operations. -/
structure Simulates (ops : Ops α β) (ops' : Ops α γ) (f : β → γ) : Prop where
  push : ∀ ev b, f (ops.push ev b) = ops'.push ev (f b)
  drain : ∀ capOut b,
    (ops.drain capOut b).map (fun taken => (taken.1, f taken.2)) = ops'.drain capOut (f b)
  close : ∀ b, f (ops.close b) = ops'.close (f b)
  closed : ∀ b, ops'.closed (f b) = ops.closed b

theorem ring_simulates [Inhabited α] :
    Simulates (ringOps : Ops α (Ring α)) queueOps Ring.toQueue where
  push := Ring.toQueue_push
  drain := Ring.toQueue_drain
  close _ := rfl
  closed _ := rfl

def State.map (f : β → γ) (s : State α β) : State α γ := { s with store := f s.store }

namespace Simulates

variable {ops : Ops α β} {ops' : Ops α γ} {f : β → γ}

theorem attempt (simulates : Simulates ops ops' f) (capOut : Nat) (s : State α β) :
    (s.map f).attempt ops' capOut = (s.attempt ops capOut).map f := by
  unfold State.attempt
  rw [State.map, ← simulates.drain]
  cases ops.drain capOut s.store with
  | none | some taken => rfl

theorem step (simulates : Simulates ops ops' f) (event : Event α) (s s' : State α β)
    (stepped : Eventlog.step ops event s = some s') :
    Eventlog.step ops' event (s.map f) = some (s'.map f) := by
  cases event with
  | push ev =>
    simp only [Eventlog.step, State.map, simulates.closed] at stepped ⊢
    split at stepped
    · rename_i isClosed
      cases stepped
      exact if_pos isClosed
    · rename_i isOpen
      cases stepped
      rw [if_neg isOpen, ← simulates.push]
  | close =>
    cases stepped
    simp [Eventlog.step, State.map, simulates.close]
  | drain capOut =>
    simp only [Eventlog.step] at stepped ⊢
    split at stepped
    · rename_i isIdle
      cases stepped
      rw [← simulates.attempt]
      exact if_pos isIdle
    · cases stepped
  | resume =>
    simp only [Eventlog.step] at stepped ⊢
    split at stepped
    · rename_i capOut isWoken
      cases stepped
      rw [← simulates.attempt, State.map, isWoken]
    · cases stepped

end Simulates

/-! ### Runs of the queue -/

theorem map_range'_middle (front middle back : List α) :
    (List.range' front.length middle.length).map ((front ++ (middle ++ back))[·]?) =
      middle.map some := by
  apply ext_getElem
  · rw [length_map, length_map, length_range']
  · intro i _ inside
    rw [length_map] at inside
    rw [getElem_map, getElem_map, getElem_range', Nat.one_mul,
      getElem?_append_right (Nat.le_add_right _ _), Nat.add_sub_cancel_left,
      getElem?_append_left inside, getElem?_eq_getElem inside]

theorem range_add (a b : Nat) : List.range (a + b) = List.range a ++ List.range' a b := by
  rw [range_eq_range', range_eq_range', ← List.range'_append_1, Nat.zero_add]

/-- The accepted events that have left the queue, `gone`, were delivered or lost. -/
structure Accounted (s : State α (Queue α)) (gone : List α) (delivered lost : List Nat) :
    Prop where
  accepted : s.accepted = gone ++ s.store.items
  all : (delivered ++ lost).Perm (List.range gone.length)
  ascending : delivered.Pairwise (· < ·)
  batches : s.batches.flatten.map some = delivered.map (s.accepted[·]?)
  dropped : s.store.dropped = UInt64.ofNat lost.length
  newer : ∀ p ∈ lost, p + s.store.capacity < s.accepted.length

structure QueueInv (s : State α (Queue α)) : Prop where
  capacity : 0 < s.store.capacity
  accounted : ∃ gone delivered lost, Accounted s gone delivered lost
  ended : s.ended = true → s.store.closed = true ∧ s.store.items = []
  waiting : ∀ capOut, s.consumer = .parked capOut → s.store.closed = false ∧ s.store.items = []

namespace Accounted

variable {s : State α (Queue α)} {gone : List α} {delivered lost : List Nat}

section

variable (accounted : Accounted s gone delivered lost)

include accounted

theorem delivered_lt (member : p ∈ delivered) : p < gone.length :=
  mem_range.mp (accounted.all.mem_iff.mp (mem_append_left _ member))

theorem batches_append (more : List α) :
    s.batches.flatten.map some = delivered.map ((s.accepted ++ more)[·]?) := by
  rw [accounted.batches]
  refine map_congr_left fun p member => (getElem?_append_left ?_).symm
  rw [accounted.accepted, length_append]
  exact Nat.lt_add_right _ (accounted.delivered_lt member)

/-- An event comes in. -/
theorem push (capacity : 0 < s.store.capacity)
    (isOpen : s.store.closed = false) (ev : α) (consumer : Consumer) :
    ∃ gone' lost', Accounted
      { s with
        store := s.store.push ev
        accepted := s.accepted ++ [ev]
        consumer := consumer } gone' delivered lost' := by
  have batches := accounted.batches_append [ev]
  unfold Queue.push
  rw [isOpen, if_neg Bool.false_ne_true]
  by_cases full : s.store.items.length = s.store.capacity
  · -- the oldest event in the queue is lost
    rw [if_pos full]
    obtain ⟨oldest, items, isItems⟩ := exists_cons_of_length_pos (full ▸ capacity)
    refine ⟨gone ++ [oldest], lost ++ [gone.length], ?_, ?_, accounted.ascending, batches, ?_, ?_⟩
    · rw [accounted.accepted, isItems]
      simp
    · rw [length_append, length_singleton, range_succ, ← append_assoc]
      exact accounted.all.append_right _
    · rw [length_append, length_singleton, UInt64.ofNat_add, ← accounted.dropped]
      rfl
    · intro p member
      rw [length_append, length_singleton]
      obtain old | isNew := mem_append.mp member
      · exact Nat.lt_succ_of_lt (accounted.newer p old)
      · rw [mem_singleton.mp isNew, accounted.accepted, length_append, full]
        exact Nat.lt_succ_self _
  · rw [if_neg full]
    refine ⟨gone, lost, ?_, accounted.all, accounted.ascending, batches, accounted.dropped, ?_⟩
    · rw [accounted.accepted, append_assoc]
    · intro p member
      rw [length_append]
      exact Nat.lt_add_right _ (accounted.newer p member)

/-- The oldest events in the queue are delivered. -/
theorem drain (n : Nat) (consumer : Consumer) (ended : Bool) :
    ∃ gone' delivered', Accounted
      { s with
        store := { s.store with items := s.store.items.drop n }
        batches := s.batches ++ [s.store.items.take n]
        consumer := consumer
        ended := ended } gone' delivered' lost := by
  have split : s.accepted = gone ++ (s.store.items.take n ++ s.store.items.drop n) := by
    rw [accounted.accepted, take_append_drop]
  refine ⟨gone ++ s.store.items.take n,
    delivered ++ List.range' gone.length (s.store.items.take n).length, ?_, ?_, ?_, ?_,
    accounted.dropped, accounted.newer⟩
  · rw [split, append_assoc]
  · rw [append_assoc, length_append, range_add]
    refine (List.Perm.append_left _ perm_append_comm).trans ?_
    rw [← append_assoc]
    exact accounted.all.append_right _
  · refine pairwise_append.mpr ⟨accounted.ascending, pairwise_lt_range' 1, ?_⟩
    intro p before q after
    exact Nat.lt_of_lt_of_le (accounted.delivered_lt before) (List.mem_range'_1.mp after).1
  · rw [flatten_append, map_append, map_append, flatten_singleton,
      accounted.batches]
    refine congrArg _ ?_
    rw [split]
    exact (map_range'_middle _ _ _).symm

end

end Accounted

namespace QueueInv

variable {s s' : State α (Queue α)}

theorem initial (capacity : Nat) (positive : 0 < capacity) :
    QueueInv (.initial (⟨capacity, [], 0, false⟩ : Queue α)) where
  capacity := positive
  accounted := ⟨[], [], [], rfl, .nil, .nil, rfl, rfl, nofun⟩
  ended := nofun
  waiting := nofun

theorem attempt (inv : QueueInv s) (capOut : Nat) : QueueInv (s.attempt queueOps capOut) := by
  obtain ⟨capacity, ⟨gone, delivered, lost, accounted⟩, ended, waiting⟩ := inv
  have drains : queueOps.drain capOut s.store = s.store.drain capOut := rfl
  unfold State.attempt
  obtain ⟨empty, isClosed, result⟩ | ⟨empty, isOpen, result⟩ | ⟨n, result⟩ :=
    s.store.drain_cases capOut
  · rw [drains, result]
    obtain ⟨gone', delivered', drained⟩ := accounted.drain 0 .idle true
    exact ⟨capacity, ⟨gone', delivered', lost, drained⟩, fun _ => ⟨isClosed, empty⟩, nofun⟩
  · rw [drains, result]
    refine ⟨capacity, ⟨gone, delivered, lost, ?_⟩, ended, fun _ _ => ⟨isOpen, empty⟩⟩
    exact ⟨accounted.accepted, accounted.all, accounted.ascending, accounted.batches,
      accounted.dropped, accounted.newer⟩
  · rw [drains, result]
    obtain ⟨gone', delivered', drained⟩ := accounted.drain n .idle false
    exact ⟨capacity, ⟨gone', delivered', lost, drained⟩, nofun, nofun⟩

theorem notify_ne_parked (consumer : Consumer) (capOut : Nat) :
    consumer.notify ≠ .parked capOut := by
  cases consumer <;> nofun

theorem step (inv : QueueInv s) (event : Event α)
    (stepped : Eventlog.step queueOps event s = some s') : QueueInv s' := by
  cases event with
  | push ev =>
    simp only [Eventlog.step] at stepped
    split at stepped
    · cases stepped
      exact inv
    · rename_i notClosed
      cases stepped
      have isOpen : s.store.closed = false := Bool.not_eq_true _ ▸ notClosed
      obtain ⟨capacity, ⟨gone, delivered, lost, accounted⟩, ended, -⟩ := inv
      obtain ⟨gone', lost', pushed⟩ := accounted.push capacity isOpen ev s.consumer.notify
      refine ⟨?_, ⟨gone', delivered, lost', pushed⟩, fun isEnded => ?_, fun capOut parked => ?_⟩
      · change 0 < (s.store.push ev).capacity
        unfold Queue.push
        split
        · exact capacity
        · split <;> exact capacity
      · cases isOpen.symm.trans (ended isEnded).1
      · exact absurd parked (notify_ne_parked _ _)
  | close =>
    cases stepped
    obtain ⟨capacity, ⟨gone, delivered, lost, accounted⟩, ended, -⟩ := inv
    refine ⟨capacity, ⟨gone, delivered, lost, ?_⟩, fun isEnded => ⟨rfl, (ended isEnded).2⟩,
      fun capOut parked => absurd parked (notify_ne_parked _ _)⟩
    exact ⟨accounted.accepted, accounted.all, accounted.ascending, accounted.batches,
      accounted.dropped, accounted.newer⟩
  | drain capOut =>
    simp only [Eventlog.step] at stepped
    split at stepped
    · cases stepped
      exact inv.attempt capOut
    · cases stepped
  | resume =>
    simp only [Eventlog.step] at stepped
    split at stepped
    · cases stepped
      exact inv.attempt _
    · cases stepped

end QueueInv

/-! ### The ring -/

theorem drainLoop_empty [Inhabited α] (capOut rounds : Nat) (r : Ring α)
    (closed : r.closed = true) (empty : r.size = 0) :
    ∃ batches, drainLoop capOut (rounds + 1) r = some batches ∧ batches.flatten = r.contents := by
  refine ⟨[], ?_, (eq_nil_of_length_eq_zero (r.contents_length.trans empty)).symm⟩
  rw [drainLoop, Ring.drain, if_pos empty, if_pos closed]
  rfl

/-- After `close`, as many rounds as events are buffered, and one more, deliver them all. -/
theorem drainLoop_closed [Inhabited α] (capOut rounds : Nat) (r : Ring α)
    (closed : r.closed = true) (enough : r.size ≤ rounds) :
    ∃ batches, drainLoop capOut (rounds + 1) r = some batches ∧ batches.flatten = r.contents := by
  induction rounds generalizing r with
  | zero => exact drainLoop_empty capOut 0 r closed (Nat.le_zero.mp enough)
  | succ rounds ih =>
    by_cases empty : r.size = 0
    · exact drainLoop_empty capOut (rounds + 1) r closed empty
    · have some_ : 0 < r.batchSize capOut := by
        unfold Ring.batchSize
        split <;> omega
      have least : r.batchSize capOut ≤ r.size := Nat.min_le_left _ _
      obtain ⟨out, left⟩ := r.takeBatch_spec (r.batchSize capOut) least
      obtain ⟨batches, looped, all⟩ := ih
        (r.takeBatch (r.batchSize capOut) least).2 closed (by
          change r.size - r.batchSize capOut ≤ rounds
          omega)
      refine ⟨r.contents.take (r.batchSize capOut) :: batches, ?_, ?_⟩
      · rw [drainLoop, Ring.drain, if_neg empty]
        simp [Option.bind_some, looped, out, Option.map_some]
      · rw [flatten_cons, all, left, take_append_drop]

/-- In every run of producers and one consumer on a ring of any capacity, with drains of any
size, the buffer is a queue that keeps its newest events. -/
theorem buffer_keeps_newest [Inhabited α] (capacity : Int) (events : List (Event α))
    (s : State α (Ring α))
    (run : Run (step ringOps) (.initial (newRingBuffer capacity)) events s) :
    s.KeepsNewest := by
  have abstract_ : Run (step queueOps) (State.map Ring.toQueue (.initial (newRingBuffer capacity)))
      events (s.map Ring.toQueue) := run.map ring_simulates.step
  have inv : QueueInv (s.map Ring.toQueue) :=
    abstract_.invariant (.initial _ (newRingBuffer capacity : Ring α).cap_pos)
      fun event _ _ stepped inv => inv.step event stepped
  obtain ⟨-, ⟨gone, delivered, lost, accounted⟩, ended, waiting⟩ := inv
  -- as if all that is buffered were delivered now
  obtain ⟨gone', kept, drained⟩ := accounted.drain s.store.contents.length .idle false
  have takes : s.store.contents.take s.store.contents.length = s.store.contents :=
    take_length
  have all : s.accepted = gone' := by
    have split := drained.accepted
    rwa [show (s.map Ring.toQueue).store.items = s.store.contents from rfl, drop_length,
      append_nil] at split
  have batches := drained.batches
  rw [flatten_append, flatten_singleton] at batches
  refine ⟨⟨kept, lost, all ▸ drained.all, drained.ascending, ?_, ?_, accounted.newer⟩, ended,
    waiting, fun closed capOut => ?_⟩
  · rw [← takes]
    exact batches
  · exact (congrArg UInt64.toNat accounted.dropped).trans UInt64.toNat_ofNat'
  · exact drainLoop_closed capOut _ s.store closed (Nat.le_refl _)

section Runs

/-- Three events through a ring of two cells: the oldest one is removed, and the two others are
delivered, the second one after `close`. -/
theorem oldest_of_three_removed :
    ∃ s : State Nat (Ring Nat), Run (step ringOps) (.initial (newRingBuffer 2))
        [.drain 1, .push 10, .push 11, .push 12, .resume, .close, .drain 1, .drain 1] s ∧
      (s.batches = [[11], [12], []] ∧ s.store.dropped = 1 ∧ s.ended = true) ∧ s.KeepsNewest := by
  have run : ∃ s : State Nat (Ring Nat), Run (step ringOps) (.initial (newRingBuffer 2))
        [.drain 1, .push 10, .push 11, .push 12, .resume, .close, .drain 1, .drain 1] s ∧
      s.batches = [[11], [12], []] ∧ s.store.dropped = 1 ∧ s.ended = true :=
    ⟨_, .of_exec rfl, rfl, rfl, rfl⟩
  obtain ⟨s, ran, results⟩ := run
  exact ⟨s, ran, results, buffer_keeps_newest 2 _ s ran⟩

end Runs

end Gossipper.Eventlog
