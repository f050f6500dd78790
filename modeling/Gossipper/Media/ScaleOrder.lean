/-
Module: Gossipper.Media.ScaleOrder
Purpose: When the streams of the scale engine are continuous: the order of the batches between
  the scheduler, the channel and the workers, and the events that keep it.
Trusted boundary: none
Main exports: OnTime, popAll_due, Patching, Batch, Inv, Orderly, streams_continuous
-/
import Gossipper.Media.ScalePackets
import Mathlib.Data.List.Perm.Basic

namespace Gossipper.Media.ScaleSend

open Go Transition List Option

/-! ### A tick -/

variable {popped : List Stream × List Nat} {streams : List Stream} {now : Int}

theorem pop_eq_some {id} (pops : pop now streams id = some popped) :
    ∃ st, streams[id]? = some st ∧ st.isOpen = true ∧ st.nextSend ≤ now ∧
      popped = (streams.set id { st with nextSend := st.nextSend + st.origin.interval },
        if st.paused then [] else [id]) := by
  unfold pop at pops
  split at pops
  · cases pops
  · rename_i st found
    obtain ⟨isDue, pops⟩ := of_guard pops
    exact ⟨st, found, isDue.1, isDue.2.1, (Option.some.inj pops).symm⟩

theorem popAll_follows {order} (pops : popAll now order streams = some popped) :
    Follows streams popped.1 := by
  induction order generalizing streams popped with
  | nil =>
    simp only [popAll] at pops
    obtain ⟨_, ⟨⟩⟩ := of_guard pops
    exact .refl streams
  | cons id order ih =>
    obtain ⟨first, popsFirst, rest⟩ := bind_eq_some_iff.mp pops
    obtain ⟨others, popsOthers, rfl⟩ := map_eq_some_iff.mp rest
    obtain ⟨st, found, -, -, rfl⟩ := pop_eq_some popsFirst
    have changed : st.Kept { st with nextSend := st.nextSend + st.origin.interval } :=
      ⟨rfl, rfl, rfl, rfl, rfl, fun isOpen => isOpen⟩
    have later : Follows _ others.1 := ih popsOthers
    exact (Follows.set found changed).trans later

/-- No stream is due for a second packet at the time of a tick. -/
def OnTime (now : Int) (streams : List Stream) : Prop :=
  ∀ st ∈ streams, st.isOpen = true → st.paused = false → now < st.nextSend + st.origin.interval

/-- The streams for which a tick sends a packet were due before it. -/
theorem popAll_due {order} (pops : popAll now order streams = some popped)
    (onTime : OnTime now streams) :
    popped.2.Nodup ∧ ∀ id ∈ popped.2, ∃ st, streams[id]? = some st ∧ st.nextSend ≤ now := by
  induction order generalizing streams popped with
  | nil =>
    simp only [popAll] at pops
    obtain ⟨_, ⟨⟩⟩ := of_guard pops
    exact ⟨nodup_nil, fun id member => absurd member not_mem_nil⟩
  | cons id order ih =>
    obtain ⟨first, popsFirst, rest⟩ := bind_eq_some_iff.mp pops
    obtain ⟨others, popsOthers, rfl⟩ := map_eq_some_iff.mp rest
    obtain ⟨st, found, isOpen, isDue, rfl⟩ := pop_eq_some popsFirst
    have inRange := (List.getElem?_eq_some_iff.mp found).1
    have stillOnTime : OnTime now
        (streams.set id { st with nextSend := st.nextSend + st.origin.interval }) := by
      intro other member otherOpen otherSends
      obtain isOld | rfl := mem_or_eq_of_mem_set member
      · exact onTime other isOld otherOpen otherSends
      · have next := onTime st (mem_of_getElem? found) isOpen otherSends
        exact Int.lt_trans next (Int.lt_add_of_pos_right _ st.origin.interval_pos)
    obtain ⟨distinct, wereDue⟩ := ih popsOthers stillOnTime
    have dueBefore (other : Nat) (member : other ∈ others.2) :
        ∃ st, streams[other]? = some st ∧ st.nextSend ≤ now := by
      obtain ⟨st', found', isDue'⟩ := wereDue other member
      by_cases same : id = other
      · subst same
        exact ⟨st, found, isDue⟩
      · rw [getElem?_set_ne same] at found'
        exact ⟨st', found', isDue'⟩
    cases pausing : st.paused with
    | true =>
      simp only [if_true, nil_append]
      exact ⟨distinct, dueBefore⟩
    | false =>
      simp only [Bool.false_eq_true, if_false, singleton_append,
        nodup_cons, forall_mem_cons]
      refine ⟨⟨fun again => ?_, distinct⟩, ⟨st, found, isDue⟩, dueBefore⟩
      -- the stream would have to be due for its next packet as well
      obtain ⟨st', found', isDue'⟩ := wereDue id again
      rw [getElem?_set_self inRange] at found'
      cases found'
      have next := onTime st (mem_of_getElem? found) isOpen pausing
      exact absurd isDue' (Int.not_le.mpr next)

/-- A buffer that is taken from the pool, or made, is in no other message. -/
theorem alloc_spec {memory : Memory} {used : List Nat} (choice : Nat) (template : Bytes)
    (distinct : (used ++ memory.free).Nodup)
    (bounded : ∀ buffer ∈ used ++ memory.free, buffer < memory.buffers.length) :
    (memory.alloc choice template).2.buffers[(memory.alloc choice template).1]? =
        some template ∧
      (∀ buffer ∈ used, (memory.alloc choice template).2.buffers[buffer]? =
        memory.buffers[buffer]?) ∧
      (used ++ (memory.alloc choice template).1 ::
        (memory.alloc choice template).2.free).Nodup ∧
      ∀ buffer ∈ used ++ (memory.alloc choice template).1 ::
        (memory.alloc choice template).2.free,
        buffer < (memory.alloc choice template).2.buffers.length := by
  unfold Memory.alloc
  split
  · rename_i buffer found
    obtain ⟨inRange, isBuffer⟩ := List.getElem?_eq_some_iff.mp found
    have taken : (used ++ buffer :: memory.free.eraseIdx choice).Perm (used ++ memory.free) := by
      rw [← isBuffer]
      exact (getElem_cons_eraseIdx_perm inRange).append_left _
    have isBound : buffer < memory.buffers.length :=
      bounded buffer (mem_append_right _ (mem_of_getElem? found))
    refine ⟨getElem?_set_self isBound, ?_, taken.nodup_iff.mpr distinct, ?_⟩
    · intro other member
      apply getElem?_set_ne
      rintro rfl
      exact disjoint_of_nodup_append distinct member (mem_of_getElem? found)
    · intro other member
      rw [length_set]
      exact bounded other (taken.mem_iff.mp member)
  · have fresh : memory.buffers.length ∉ used ++ memory.free := fun member =>
      Nat.lt_irrefl _ (bounded _ member)
    have moved : (used ++ memory.buffers.length :: memory.free).Perm
        (memory.buffers.length :: (used ++ memory.free)) := perm_middle
    refine ⟨getElem?_concat_length, ?_, ?_, ?_⟩
    · intro other member
      exact getElem?_append_left (bounded other (mem_append_left _ member))
    · exact moved.nodup_iff.mpr (nodup_cons.mpr ⟨fresh, distinct⟩)
    · intro other member
      rw [length_append, length_singleton]
      obtain rfl | old := mem_cons.mp (moved.mem_iff.mp member)
      · exact Nat.lt_succ_self _
      · exact Nat.lt_succ_of_lt (bounded other old)

/-- What a round of the patch loop adds. -/
theorem patchOne_eq_some {direct id choice work work'}
    (patches : patchOne direct id choice work = some work') :
    work' = work ∨ ∃ st, work.streams[id]? = some st ∧
      (direct = true ∧
          work' = ⟨work.streams.set id st.patched, work.memory,
            work.messages ++ [⟨id, st.packetsSent, .shared⟩]⟩ ∨
        direct = false ∧
          work' = ⟨work.streams.set id st.patched,
            (work.memory.alloc choice st.patched.sendBuf).2,
            work.messages ++ [⟨id, st.packetsSent,
              .pooled (work.memory.alloc choice st.patched.sendBuf).1⟩]⟩) := by
  simp only [patchOne] at patches
  split at patches
  · exact .inl (Option.some.inj patches).symm
  · rename_i st found
    refine .inr ⟨st, found, ?_⟩
    split at patches
    · rename_i isDirect
      exact .inl ⟨isDirect, (Option.some.inj patches).symm⟩
    · rename_i isQueued
      obtain ⟨_, patches⟩ := of_refusal patches
      exact .inr ⟨Bool.not_eq_true _ ▸ isQueued, (Option.some.inj patches).symm⟩

/-- The patch loop behind the messages of earlier ticks. -/
structure Patching (direct : Bool) (handed : List (Nat × Bytes)) (others : List Message)
    (work : Work) : Prop where
  valid : Valid work.streams work.memory handed (others ++ work.messages)
  ascending : Ascending work.messages
  later : ∀ m ∈ others, ∀ r ∈ work.messages, m.stream = r.stream → m.number < r.number
  pooled : direct = false → ∀ m ∈ work.messages, m.buf ≠ .shared

namespace Patching

variable {direct : Bool} {handed : List (Nat × Bytes)} {others : List Message} {work : Work}

section

variable (patching : Patching direct handed others work)

include patching

/-- A message for the next packet of a stream stands behind all others. -/
theorem add {id st memory' m} (found : work.streams[id]? = some st)
    (isStream : m.stream = id) (isNumber : m.number = st.packetsSent)
    (pooled : direct = false → m.buf ≠ .shared)
    (valid : Valid (work.streams.set id st.patched) memory' handed
      (others ++ work.messages ++ [m])) :
    Patching direct handed others
      ⟨work.streams.set id st.patched, memory', work.messages ++ [m]⟩ := by
  have behind (other : Message) (member : other ∈ others ++ work.messages)
      (same : other.stream = m.stream) : other.number < m.number := by
    obtain ⟨st', found', below, -⟩ := patching.valid.content other member
    rw [same, isStream] at found'
    cases found.symm.trans found'
    rwa [isNumber]
  refine ⟨append_assoc .. ▸ valid, ?_, ?_, ?_⟩
  · refine pairwise_append.mpr ⟨patching.ascending, pairwise_singleton _ _, ?_⟩
    intro other member new isNew
    rw [mem_singleton.mp isNew]
    exact behind other (mem_append_right _ member)
  · intro other member r isMessage
    obtain old | isNew := mem_append.mp isMessage
    · exact patching.later other member r old
    · rw [mem_singleton.mp isNew]
      exact behind other (mem_append_left _ member)
  · intro isQueued r isMessage
    obtain old | isNew := mem_append.mp isMessage
    · exact patching.pooled isQueued r old
    · rw [mem_singleton.mp isNew]
      exact pooled isQueued

theorem patchOne {id choice : Nat} {work' : Work}
    (apart : ∀ m ∈ others ++ work.messages, m.buf = .shared → m.stream ≠ id)
    (patches : ScaleSend.patchOne direct id choice work = some work') :
    Patching direct handed others work' := by
  obtain rfl | ⟨st, found, ⟨isDirect, rfl⟩ | ⟨-, rfl⟩⟩ := patchOne_eq_some patches
  · exact patching
  · have valid := patching.valid
    refine patching.add found rfl rfl (fun isQueued => ?_)
      (valid.patch found rfl rfl apart (fun _ _ => rfl) ?_ ?_ ?_)
    · cases isDirect.symm.trans isQueued
    · have inRange := (List.getElem?_eq_some_iff.mp found).1
      simp [contentOf, getElem?_set_self inRange, map_some]
    · rw [filterMap_append]
      exact (append_nil _).symm ▸ valid.buffers
    · rw [filterMap_append]
      exact (append_nil _).symm ▸ valid.bounded
  · have valid := patching.valid
    obtain ⟨holds, kept, distinct, bounded⟩ :=
      alloc_spec choice st.patched.sendBuf valid.buffers valid.bounded
    rw [← singleton_append, ← append_assoc] at distinct bounded
    refine patching.add found rfl rfl (fun _ => nofun)
      (valid.patch found rfl rfl apart kept holds ?_ ?_)
    · rw [filterMap_append]
      exact distinct
    · rw [filterMap_append]
      exact bounded

theorem patchAll {due choices work'} (distinct : direct = true → due.Nodup)
    (apart : ∀ m ∈ others ++ work.messages, m.buf = .shared → m.stream ∉ due)
    (patches : ScaleSend.patchAll direct due choices work = some work') :
    Patching direct handed others work' := by
  induction due generalizing choices work with
  | nil =>
    cases patches
    exact patching
  | cons id due ih =>
    obtain ⟨next, first, rest⟩ := bind_eq_some_iff.mp patches
    have notHere (m : Message) (member : m ∈ others ++ work.messages)
        (isShared : m.buf = .shared) : m.stream ≠ id ∧ m.stream ∉ due :=
      ne_and_not_mem_of_not_mem_cons (apart m member isShared)
    refine ih
      (patching.patchOne (fun m member isShared => (notHere m member isShared).1) first)
      (fun isDirect => (nodup_cons.mp (distinct isDirect)).2) ?_ rest
    intro m member isShared
    obtain rfl | ⟨st, found, ⟨isDirect, rfl⟩ | ⟨-, rfl⟩⟩ := patchOne_eq_some first
    · exact (notHere m member isShared).2
    · rw [← append_assoc] at member
      obtain old | isNew := mem_append.mp member
      · exact (notHere m old isShared).2
      · rw [mem_singleton.mp isNew]
        exact (nodup_cons.mp (distinct isDirect)).1
    · rw [← append_assoc] at member
      obtain old | isNew := mem_append.mp member
      · exact (notHere m old isShared).2
      · rw [mem_singleton.mp isNew] at isShared
        cases isShared

end

end Patching

/-! ### Batches -/

/-- Messages of one stream, in the order of their packets. -/
structure Batch (messages : List Message) : Prop where
  one : ∃ id, ∀ m ∈ messages, m.stream = id
  sorted : Ascending messages

theorem batches_flatten (conns : List Nat) (messages : List Message) :
    (batches conns messages).flatten =
      conns.flatMap fun conn => messages.filter fun m => m.stream = conn := by
  induction conns with
  | nil => rfl
  | cons conn conns ih =>
    rw [batches, flatMap_cons, flatten_append, flatMap_cons,
      InOrder.chunks_flatten (by decide)]
    exact congrArg _ ih

theorem batches_ascending (distinct : conns.Nodup) (ascending : Ascending messages) :
    Ascending (batches conns messages).flatten := by
  rw [batches_flatten, Ascending, pairwise_flatMap]
  refine ⟨fun conn _ => ascending.sublist filter_sublist, distinct.imp ?_⟩
  intro conn conn' differ m inFirst r inSecond same
  rw [mem_filter, decide_eq_true_iff] at inFirst inSecond
  exact absurd (inFirst.2.symm.trans (same.trans inSecond.2)) differ

theorem batch_of_mem_batches
    (ascending : Ascending messages) (member : batch ∈ batches conns messages) :
    Batch batch := by
  obtain ⟨conn, -, isChunk⟩ := mem_flatMap.mp member
  have part := InOrder.sublist_of_mem_chunks isChunk
  refine ⟨⟨conn, fun m inBatch => ?_⟩, ascending.sublist (part.trans filter_sublist)⟩
  have selected := part.subset inBatch
  rw [mem_filter, decide_eq_true_iff] at selected
  exact selected.2

/-! ### The engine -/

/-- The batches that workers have taken. -/
def jobs (workers : List (Option (List Message))) : List (List Message) :=
  workers.filterMap id

theorem jobs_set {workers worker before after} (found : workers[worker]? = some before) :
    (before.toList ++ jobs (workers.set worker after)).Perm
      (after.toList ++ jobs workers) := by
  obtain ⟨inRange, isBefore⟩ := List.getElem?_eq_some_iff.mp found
  have toList (job : Option (List Message)) (rest : List (Option (List Message))) :
      jobs (job :: rest) = job.toList ++ jobs rest := by
    cases job <;> rfl
  have old : (jobs workers).Perm (before.toList ++ jobs (workers.eraseIdx worker)) := by
    rw [← toList, ← isBefore]
    exact (getElem_cons_eraseIdx_perm inRange).symm.filterMap _
  have new : (jobs (workers.set worker after)).Perm
      (after.toList ++ jobs (workers.eraseIdx worker)) := by
    rw [← toList]
    exact (set_perm_cons_eraseIdx inRange after).filterMap _
  exact (new.append_left _).trans
    ((perm_append_comm_assoc _ _ _).trans (old.symm.append_left _))

/-- The batches of a stream go from the scheduler through the channel to the workers in the
order of their packets. -/
structure Inv (direct : Bool) (s : State) : Prop where
  valid : Valid s.streams s.memory s.handed
    ((jobs s.workers).flatten ++ (s.queue ++ s.pending).flatten)
  batches : ∀ batch ∈ jobs s.workers ++ (s.queue ++ s.pending), Batch batch
  line : Ascending (s.queue ++ s.pending).flatten
  behind : ∀ m ∈ (jobs s.workers).flatten, ∀ r ∈ (s.queue ++ s.pending).flatten,
    m.stream = r.stream → m.number < r.number
  pooled : direct = false →
    ∀ m ∈ (jobs s.workers).flatten ++ (s.queue ++ s.pending).flatten, m.buf ≠ .shared
  unused : direct = true → s.queue = [] ∧ jobs s.workers = []

/-- When a batch is sent, no earlier packet of its stream is with another worker, and none at
all is in the channel or with a worker when the scheduler sends it.  In direct mode, a tick
comes before any stream is due for two packets. -/
def Orderly (direct : Bool) : Event → State → Prop
  | .tick now _ _ _, s => direct = true → OnTime now s.streams
  | .dispatch, s =>
    direct = false → scaleSendQueueDepth ≤ s.queue.length →
      ∀ batch ∈ s.pending.head?, ∀ m ∈ batch, (s.streams[m.stream]?).any (·.isOpen) = true →
        ∀ r ∈ (jobs s.workers ++ s.queue).flatten, r.stream ≠ m.stream
  | .send worker, s =>
    ∀ job, s.workers[worker]? = some (some job) →
      ∀ m ∈ job, (s.streams[m.stream]?).any (·.isOpen) = true →
        ∀ r ∈ (jobs (s.workers.set worker none)).flatten, r.stream = m.stream →
          m.number < r.number
  | _, _ => True

namespace Inv

variable {direct : Bool} {s : State}

theorem initial (workers : Nat) : Inv direct (.initial workers) := by
  have none : jobs (State.initial workers).workers = [] := by
    rw [jobs, filterMap_eq_nil_iff]
    intro worker member
    exact eq_of_mem_replicate member
  refine ⟨?_, ?_, .nil, ?_, ?_, fun _ => ⟨rfl, none⟩⟩
  · rw [none]
    exact
      { inStep := nofun, content := nofun, inOrder := nofun, known := nofun, numbers := nofun
        buffers := nodup_nil, bounded := nofun }
  · rw [none]
    nofun
  · rw [none]
    nofun
  · rw [none]
    nofun

theorem ofFollows (inv : Inv direct s)
    (follows : Follows s.streams streams) : Inv direct { s with streams := streams } :=
  { inv with valid := inv.valid.follows follows }

theorem register {st} (inv : Inv direct s) (inStep : st.InStep)
    (fresh : st.packetsSent = 0) : Inv direct { s with streams := s.streams ++ [st] } :=
  { inv with valid := inv.valid.register inStep fresh }

theorem tick (inv : Inv direct s) (idle : s.pending = [])
    (onTime : direct = true → OnTime now s.streams)
    (pops : popAll now order s.streams = some popped)
    (patches : patchAll direct popped.2 choices ⟨popped.1, s.memory, []⟩ = some work)
    (distinct : conns.Nodup) (complete : ∀ m ∈ work.messages, m.stream ∈ conns) :
    Inv direct { s with
      streams := work.streams
      memory := work.memory
      pending := ScaleSend.batches conns work.messages } := by
  obtain ⟨valid, batches, line, behind, pooled, unused⟩ := inv
  rw [idle, append_nil] at valid batches line behind pooled
  have noneShared : ∀ m ∈ (jobs s.workers).flatten ++ s.queue.flatten, m.buf ≠ .shared := by
    cases direct with
    | false => exact pooled rfl
    | true =>
      rw [(unused rfl).1, (unused rfl).2]
      nofun
  have start : Patching direct s.handed ((jobs s.workers).flatten ++ s.queue.flatten)
      ⟨popped.1, s.memory, []⟩ :=
    { valid := (append_nil _).symm ▸ valid.follows (popAll_follows pops)
      ascending := .nil
      later := nofun
      pooled := nofun }
  have patched : Patching direct s.handed _ work :=
    start.patchAll (fun isDirect => (popAll_due pops (onTime isDirect)).1) (by
      intro m member isShared
      rw [append_nil] at member
      exact absurd isShared (noneShared m member)) patches
  have regrouped : (ScaleSend.batches conns work.messages).flatten.Perm work.messages := by
    rw [batches_flatten]
    exact InOrder.group_perm _ distinct complete
  refine ⟨?_, ?_, ?_, ?_, ?_, unused⟩
  · refine patched.valid.perm ?_
    rw [flatten_append, append_assoc]
    exact (regrouped.symm.append_left _).append_left _
  · intro batch member
    rw [← append_assoc] at member
    obtain old | isNew := mem_append.mp member
    · exact batches batch old
    · exact batch_of_mem_batches patched.ascending isNew
  · rw [flatten_append]
    refine pairwise_append.mpr
      ⟨line, batches_ascending distinct patched.ascending, fun m queued r isNew => ?_⟩
    exact patched.later m (mem_append_right _ queued) r (regrouped.mem_iff.mp isNew)
  · intro m taken r member
    rw [flatten_append] at member
    obtain queued | isNew := mem_append.mp member
    · exact behind m taken r queued
    · exact patched.later m (mem_append_left _ taken) r (regrouped.mem_iff.mp isNew)
  · intro isQueued m member
    rw [flatten_append, ← append_assoc] at member
    obtain old | isNew := mem_append.mp member
    · exact noneShared m old
    · exact patched.pooled isQueued m (regrouped.mem_iff.mp isNew)

variable {rest : List (List Message)}

theorem enqueue (inv : Inv false s) (isPending : s.pending = batch :: rest) :
    Inv false { s with pending := rest, queue := s.queue ++ [batch] } := by
  have same : s.queue ++ [batch] ++ rest = s.queue ++ s.pending := by
    rw [isPending, append_assoc, singleton_append]
  constructor
  · exact same ▸ inv.valid
  · exact same ▸ inv.batches
  · exact same ▸ inv.line
  · exact same ▸ inv.behind
  · exact same ▸ inv.pooled
  · nofun

section

variable (inv : Inv direct s)

include inv

/-- The scheduler sends a batch itself. -/
theorem sendPending (isPending : s.pending = batch :: rest)
    (inTurn : ∀ m ∈ batch, (s.streams[m.stream]?).any (·.isOpen) = true →
      ∀ r ∈ (jobs s.workers ++ s.queue).flatten, r.stream ≠ m.stream) :
    Inv direct { s with
      pending := rest
      handed := s.handed ++ handOver s.streams s.memory batch
      memory := s.memory.release batch } := by
  obtain ⟨valid, batches, line, behind, pooled, unused⟩ := inv
  rw [isPending] at valid batches line behind pooled
  obtain ⟨⟨id, one⟩, sorted⟩ := batches batch (by simp)
  have fewer : (s.queue ++ rest).Sublist (s.queue ++ batch :: rest) :=
    (sublist_cons_self _ _).append_left _
  have fewerMessages : (s.queue ++ rest).flatten.Sublist (s.queue ++ batch :: rest).flatten := by
    rw [flatten_append, flatten_append, flatten_cons]
    exact (sublist_append_right _ _).append_left _
  have first : ((jobs s.workers).flatten ++ (s.queue ++ batch :: rest).flatten).Perm
      (batch ++ ((jobs s.workers).flatten ++ (s.queue ++ rest).flatten)) := by
    simp only [flatten_append, flatten_cons]
    exact ((perm_append_comm_assoc _ _ _).append_left _).trans
      (perm_append_comm_assoc _ _ _)
  refine ⟨(valid.perm first).sent one sorted fun isOpen m member r inRest same => ?_, ?_, ?_, ?_,
    ?_, unused⟩
  · rw [flatten_append, ← append_assoc, ← flatten_append] at inRest
    obtain earlier | later := mem_append.mp inRest
    · have differ := inTurn m member (one m member ▸ isOpen) r earlier
      exact absurd (same.trans (one m member).symm) differ
    · rw [flatten_append, flatten_cons] at line
      have ordered := (pairwise_append.mp (pairwise_append.mp line).2.1).2.2
      exact ordered m member r later ((one m member).trans same.symm)
  · exact fun other member => batches other ((fewer.append_left _).subset member)
  · exact line.sublist fewerMessages
  · exact fun m taken r member => behind m taken r (fewerMessages.subset member)
  · exact fun isQueued m member => pooled isQueued m
      ((fewerMessages.append_left _).subset member)

theorem take {worker job} (isIdle : s.workers[worker]? = some none)
    (isQueue : s.queue = job :: rest) :
    Inv direct { s with queue := rest, workers := s.workers.set worker (some job) } := by
  obtain ⟨valid, batches, line, behind, pooled, unused⟩ := inv
  rw [isQueue] at valid batches line behind pooled
  have taken : (jobs (s.workers.set worker (some job))).Perm (job :: jobs s.workers) :=
    jobs_set isIdle
  have moved : (jobs (s.workers.set worker (some job)) ++ (rest ++ s.pending)).Perm
      (jobs s.workers ++ (job :: rest ++ s.pending)) :=
    (taken.append_right _).trans perm_middle.symm
  have flattened : ((jobs (s.workers.set worker (some job))).flatten ++
      (rest ++ s.pending).flatten).Perm
        ((jobs s.workers).flatten ++ (job :: rest ++ s.pending).flatten) := by
    rw [← flatten_append, ← flatten_append]
    exact moved.flatten
  rw [cons_append, flatten_cons, Ascending, pairwise_append] at line
  refine ⟨valid.perm flattened.symm, ?_, line.2.1, ?_, ?_, ?_⟩
  · exact fun batch member => batches batch (moved.mem_iff.mp member)
  · intro m isTaken r member
    obtain isJob | old := mem_append.mp (taken.flatten.mem_iff.mp isTaken)
    · exact line.2.2 m isJob r member
    · exact behind m old r (mem_append_right job member)
  · exact fun isQueued m member => pooled isQueued m (flattened.mem_iff.mp member)
  · intro isDirect
    rw [isQueue] at unused
    cases (unused isDirect).1

/-- A worker sends the batch it has taken. -/
theorem send {worker job} (isTaken : s.workers[worker]? = some (some job))
    (inTurn : ∀ m ∈ job, (s.streams[m.stream]?).any (·.isOpen) = true →
      ∀ r ∈ (jobs (s.workers.set worker none)).flatten, r.stream = m.stream →
        m.number < r.number) :
    Inv direct { s with
      handed := s.handed ++ handOver s.streams s.memory job
      memory := s.memory.release job
      workers := s.workers.set worker none } := by
  obtain ⟨valid, batches, line, behind, pooled, unused⟩ := inv
  have taken : (job :: jobs (s.workers.set worker none)).Perm (jobs s.workers) :=
    jobs_set isTaken
  have isJob : job ∈ jobs s.workers := taken.mem_iff.mp mem_cons_self
  have fewer {batch : List Message} (member : batch ∈ jobs (s.workers.set worker none)) :
      batch ∈ jobs s.workers := taken.mem_iff.mp (mem_cons_of_mem _ member)
  obtain ⟨⟨id, one⟩, sorted⟩ := batches job (mem_append_left _ isJob)
  have first : ((jobs s.workers).flatten ++ (s.queue ++ s.pending).flatten).Perm
      (job ++ ((jobs (s.workers.set worker none)).flatten ++
        (s.queue ++ s.pending).flatten)) := by
    rw [← append_assoc]
    exact taken.symm.flatten.append_right _
  refine ⟨(valid.perm first).sent one sorted fun isOpen m member r inRest same => ?_, ?_, line,
    ?_, ?_, ?_⟩
  · obtain other | later := mem_append.mp inRest
    · exact inTurn m member (one m member ▸ isOpen) r other (same.trans (one m member).symm)
    · have isOut : m ∈ (jobs s.workers).flatten := mem_flatten.mpr ⟨job, isJob, member⟩
      exact behind m isOut r later ((one m member).trans same.symm)
  · intro batch member
    refine batches batch ?_
    obtain other | waiting := mem_append.mp member
    · exact mem_append_left _ (fewer other)
    · exact mem_append_right _ waiting
  · intro m member
    obtain ⟨batch, other, inBatch⟩ := mem_flatten.mp member
    exact behind m (mem_flatten.mpr ⟨batch, fewer other, inBatch⟩)
  · exact fun isQueued m member => pooled isQueued m
      (first.mem_iff.mpr (mem_append_right _ member))
  · intro isDirect
    rw [(unused isDirect).2] at isJob
    cases isJob

theorem act (orderly : Orderly direct event s)
    (acts : ScaleSend.act direct event s = some s') : Inv direct s' := by
  cases event with
  | register callID cfg pkt now =>
    obtain ⟨st, registered, rfl⟩ := map_eq_some_iff.mp acts
    obtain ⟨inStep, fresh⟩ := Stream.InStep.of_register registered
    exact inv.register inStep fresh
  | pause callID =>
    cases acts
    exact inv.ofFollows (.map (Stream.kept_pause callID) _)
  | resume callID now =>
    cases acts
    exact inv.ofFollows (.map (Stream.kept_resume callID now) _)
  | unregister callID =>
    cases acts
    exact inv.ofFollows (.map (Stream.kept_unregister callID) _)
  | tick now order choices conns =>
    simp only [ScaleSend.act] at acts
    obtain ⟨idle, acts⟩ := of_guard acts
    obtain ⟨popped, pops, patches⟩ := bind_eq_some_iff.mp acts
    split at patches
    · cases patches
      exact ⟨inv.valid, inv.batches, inv.line, inv.behind, inv.pooled, inv.unused⟩
    · rename_i work patched
      obtain ⟨grouped, ⟨⟩⟩ := of_guard patches
      exact inv.tick idle orderly pops patched grouped.1 grouped.2
  | dispatch =>
    simp only [ScaleSend.act] at acts
    split at acts
    · cases acts
    · rename_i batch rest isPending
      cases direct with
      | true =>
        cases acts
        obtain ⟨emptyQueue, noJobs⟩ := inv.unused rfl
        have sent := inv.sendPending isPending (by
          rw [emptyQueue, noJobs]
          nofun)
        -- nothing is put back, since the buffers are those of the streams
        exact { sent with valid := sent.valid.forget (sublist_append_right _ _) }
      | false =>
        simp only [Bool.false_eq_true, if_false] at acts
        split at acts
        · cases acts
          exact inv.enqueue isPending
        · rename_i full
          cases acts
          refine inv.sendPending isPending (orderly rfl (Nat.le_of_not_lt full) batch ?_)
          rw [isPending]
          rfl
  | take worker =>
    simp only [ScaleSend.act] at acts
    split at acts
    · rename_i isIdle isQueue
      cases acts
      exact inv.take isIdle isQueue
    · cases acts
  | send worker =>
    simp only [ScaleSend.act] at acts
    split at acts
    · rename_i job isTaken
      cases acts
      exact inv.send isTaken (orderly job isTaken)
    · cases acts

theorem continuous : s.Continuous := by
  intro id st found
  rw [inv.valid.inOrder id st found]
  exact continuous_packetAt st.origin _

end

end Inv

/-- In every run whose events are orderly, with any number of workers and in both modes, the
packets handed to the socket of every stream carry consecutive sequence numbers and
timestamps, from the configured ones on. -/
theorem streams_continuous (direct : Bool) (workers : Nat) (events : List Event) (s : State)
    (run : Guarded (step direct) (Orderly direct) (.initial workers) events s) :
    s.Continuous := by
  have inv : Inv direct s := run.invariant (.initial workers) fun event before after orderly
      stepped inv => by
    unfold step at stepped
    obtain ⟨_, stepped⟩ := of_refusal stepped
    exact inv.act orderly stepped
  exact inv.continuous

section Runs

/-- A stream of packets of 20 ms that starts at the sequence number 1. -/
def registerVoice : Event :=
  .register [99] ⟨1, 0, 160, 20000000⟩ [128, 0, 0, 1, 0, 0, 0, 0, 0, 0, 0, 7, 213, 213] 0

/-- A tick that comes 20 ms late puts two packets in one batch, which one worker sends. -/
theorem late_tick_continuous :
    ∃ s, Guarded (step false) (Orderly false) (.initial 1)
        [registerVoice, .tick 20000000 [0, 0] [] [0], .dispatch, .take 0, .send 0] s ∧
      (handedOf s.handed 0).length = 2 ∧ s.Continuous := by
  have run : ∃ s, Guarded (step false) (Orderly false) (.initial 1)
        [registerVoice, .tick 20000000 [0, 0] [] [0], .dispatch, .take 0, .send 0] s ∧
      (handedOf s.handed 0).length = 2 := by
    refine ⟨_, .cons trivial rfl <| .cons nofun rfl <| .cons (fun _ full => ?_) rfl <|
      .cons trivial rfl <| .cons (fun job _ m _ _ r other => ?_) rfl <| .nil _, rfl⟩
    · exact absurd full (by decide)
    · exact absurd other not_mem_nil
  obtain ⟨s, guarded, two⟩ := run
  exact ⟨s, guarded, two, streams_continuous false 1 _ s guarded⟩

/-- In direct mode, the late tick hands the second packet over twice.  In queued mode, a worker
that has taken the second packet may send it before the one that has taken the first. -/
theorem late_tick_repeats_and_workers_overtake :
    (∃ s, Run (step true) (.initial 0)
        [registerVoice, .tick 20000000 [0, 0] [] [0], .dispatch] s ∧ ¬ s.Continuous) ∧
      ∃ s, Run (step false) (.initial 2)
        [registerVoice, .tick 0 [0] [] [0], .dispatch, .tick 20000000 [0] [] [0], .dispatch,
          .take 0, .take 1, .send 1, .send 0] s ∧ ¬ s.Continuous := by
  refine ⟨⟨_, .of_exec rfl, fun continuous => ?_⟩, ⟨_, .of_exec rfl, fun continuous => ?_⟩⟩
  · have first := (continuous 0 _ rfl 0 _ rfl).2.1
    exact absurd first (by decide)
  · have first := (continuous 0 _ rfl 0 _ rfl).2.1
    exact absurd first (by decide)

end Runs

end Gossipper.Media.ScaleSend
