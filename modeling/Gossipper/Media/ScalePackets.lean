/-
Module: Gossipper.Media.ScalePackets
Purpose: What the messages of the scale engine hold that are on their way to the sockets: an
  invariant on streams, buffers and messages, and the changes that keep it.
Trusted boundary: none
Main exports: Origin.packetAt, Stream.InStep, Valid, Follows, Valid.follows, Valid.register
-/
import Gossipper.Lib.Threads
import Gossipper.Media.ScaleSend

namespace Gossipper.Media.ScaleSend

open Go List Option

/-! ### Patched packets -/

theorem patchRTPPacket_of_long (long : 8 ≤ pkt.length) (seq : UInt16) (ts : UInt32) :
    patchRTPPacket pkt seq ts =
      pkt.take 2 ++ (putUint16 seq ++ (putUint32 ts ++ pkt.drop 8)) := by
  rw [patchRTPPacket, if_neg (Nat.not_lt.mpr long)]

section Fields

variable {pkt : Bytes} (long : 8 ≤ pkt.length) (seq : UInt16) (ts : UInt32)
include long

theorem take_two_patchRTPPacket : (patchRTPPacket pkt seq ts).take 2 = pkt.take 2 := by
  rw [patchRTPPacket_of_long long, take_left']
  rw [length_take]
  omega

theorem drop_two_patchRTPPacket :
    (patchRTPPacket pkt seq ts).drop 2 = putUint16 seq ++ (putUint32 ts ++ pkt.drop 8) := by
  rw [patchRTPPacket_of_long long, drop_left']
  rw [length_take]
  omega

theorem drop_four_patchRTPPacket :
    (patchRTPPacket pkt seq ts).drop 4 = putUint32 ts ++ pkt.drop 8 := by
  rw [show 4 = 2 + 2 from rfl, ← drop_drop, drop_two_patchRTPPacket long,
    drop_left' (putUint16_length seq)]

theorem drop_eight_patchRTPPacket : (patchRTPPacket pkt seq ts).drop 8 = pkt.drop 8 := by
  rw [show 8 = 4 + 4 from rfl, ← drop_drop, drop_four_patchRTPPacket long,
    drop_left' (putUint32_length ts)]

end Fields

variable (callID : Bytes) (pkt : Bytes) (st : Stream)

theorem patchRTPPacket_length (seq : UInt16) (ts : UInt32) :
    (patchRTPPacket pkt seq ts).length = pkt.length := by
  unfold patchRTPPacket
  split
  · rfl
  · simp only [length_append, length_take, length_drop, putUint16_length,
      putUint32_length]
    omega

theorem patchRTPPacket_patchRTPPacket (seq seq' : UInt16) (ts ts' : UInt32) :
    patchRTPPacket (patchRTPPacket pkt seq ts) seq' ts' = patchRTPPacket pkt seq' ts' := by
  by_cases long : 8 ≤ pkt.length
  · have stillLong : 8 ≤ (patchRTPPacket pkt seq ts).length := by
      rwa [patchRTPPacket_length]
    rw [patchRTPPacket_of_long stillLong, take_two_patchRTPPacket long,
      drop_eight_patchRTPPacket long, patchRTPPacket_of_long long]
  · have short (q : UInt16) (t : UInt32) : patchRTPPacket pkt q t = pkt := by
      rw [patchRTPPacket, if_pos (Nat.lt_of_not_le long)]
    rw [short, short]

/-- The packet of a stream with a number, counted from zero. -/
def Origin.packetAt (origin : Origin) (n : Nat) : Bytes :=
  patchRTPPacket origin.packet (origin.sequence + UInt16.ofNat n)
    (origin.timestamp + UInt32.ofNat n * origin.samplesPerPkt)

theorem continuous_packetAt (origin : Origin) (n : Nat) :
    Continuous origin ((List.range n).map origin.packetAt) := by
  intro i packet found
  rw [getElem?_map, map_eq_some_iff] at found
  obtain ⟨number, isNumber, rfl⟩ := found
  obtain ⟨inRange, isIndex⟩ := List.getElem?_eq_some_iff.mp isNumber
  rw [getElem_range] at isIndex
  subst isIndex
  have long : 8 ≤ origin.packet.length := Nat.le_trans (by decide) origin.packet_length
  refine ⟨take_two_patchRTPPacket long _ _, ?_, ?_, drop_eight_patchRTPPacket long _ _⟩
  · rw [Origin.packetAt, drop_two_patchRTPPacket long, uint16_put]
  · rw [Origin.packetAt, drop_four_patchRTPPacket long, uint32_put]

/-- The fields of a stream are those for its next packet. -/
structure Stream.InStep (st : Stream) : Prop where
  sequence : st.sequence = st.origin.sequence + UInt16.ofNat st.packetsSent
  timestamp : st.timestamp =
    st.origin.timestamp + UInt32.ofNat st.packetsSent * st.origin.samplesPerPkt
  sendBuf : ∀ seq ts, patchRTPPacket st.sendBuf seq ts = patchRTPPacket st.origin.packet seq ts

namespace Stream.InStep

variable {st : Stream}

theorem patched (inStep : st.InStep) : st.patched.InStep where
  sequence := by
    simp only [Stream.patched, inStep.sequence, UInt16.ofNat_add]
    exact UInt16.add_assoc _ _ _
  timestamp := by
    simp only [Stream.patched, inStep.timestamp, UInt32.ofNat_add, UInt32.add_mul]
    rw [UInt32.add_assoc]
    congr 2
    exact (UInt32.one_mul _).symm
  sendBuf seq ts := by
    simp [Stream.patched, patchRTPPacket_patchRTPPacket, inStep.sendBuf]

theorem of_register {callID pkt cfg now}
    (registered : registerStream callID cfg pkt now = some st) :
    st.InStep ∧ st.packetsSent = 0 := by
  unfold registerStream at registered
  split at registered
  · cases registered
    refine ⟨⟨?_, ?_, fun _ _ => rfl⟩, rfl⟩
    · exact (UInt16.add_zero _).symm
    · change cfg.timestamp = cfg.timestamp + 0 * _
      rw [UInt32.zero_mul, UInt32.add_zero]
  · cases registered

end Stream.InStep

/-! ### The packets on their way -/

/-- The numbers of the messages of a stream. -/
def numbersOf (messages : List Message) (id : Nat) : List Nat :=
  (messages.filter fun m => m.stream = id).map (·.number)

/-- The messages that are on their way hold the packets they were made for, in buffers of
their own, and are for every open socket those that follow on what was handed to it. -/
structure Valid (streams : List Stream) (memory : Memory) (handed : List (Nat × Bytes))
    (messages : List Message) : Prop where
  inStep : ∀ (id : Nat) (st : Stream), streams[id]? = some st → st.InStep
  content : ∀ m ∈ messages, ∃ st, streams[m.stream]? = some st ∧ m.number < st.packetsSent ∧
    contentOf streams memory m = some (st.origin.packetAt m.number)
  inOrder : ∀ (id : Nat) (st : Stream), streams[id]? = some st →
    handedOf handed id = (List.range (handedOf handed id).length).map st.origin.packetAt
  known : ∀ entry ∈ handed, entry.1 < streams.length
  numbers : ∀ (id : Nat) (st : Stream), streams[id]? = some st → st.isOpen = true →
    (handedOf handed id).length ≤ st.packetsSent ∧
    (numbersOf messages id).Perm (List.range' (handedOf handed id).length
      (st.packetsSent - (handedOf handed id).length))
  buffers : (messages.filterMap Message.pooled? ++ memory.free).Nodup
  bounded : ∀ buffer ∈ messages.filterMap Message.pooled? ++ memory.free,
    buffer < memory.buffers.length

theorem handedOf_append (first second : List (Nat × Bytes)) (id : Nat) :
    handedOf (first ++ second) id = handedOf first id ++ handedOf second id := by
  rw [handedOf, filter_append, map_append]
  rfl

variable {id : Nat}

theorem handedOf_eq_nil (other : ∀ entry ∈ handed, entry.1 ≠ id) : handedOf handed id = [] := by
  rw [handedOf, filter_eq_nil_iff.mpr, map_nil]
  intro entry member
  rw [decide_eq_true_iff]
  exact other entry member

section Batch

variable {id : Nat} (packet : Message → Bytes) (batch : List Message)

theorem handedOf_map_self :
    handedOf (batch.map fun m => (id, packet m)) id = batch.map packet := by
  rw [handedOf, filter_eq_self.mpr, List.map_map]
  · rfl
  · intro entry member
    obtain ⟨m, -, rfl⟩ := List.mem_map.mp member
    exact decide_eq_true rfl

theorem handedOf_map_of_ne (isOther : id ≠ other) :
    handedOf (batch.map fun m => (id, packet m)) other = [] := by
  apply handedOf_eq_nil
  intro entry member
  obtain ⟨m, -, rfl⟩ := List.mem_map.mp member
  exact isOther

end Batch

theorem numbersOf_append (first second : List Message) (id : Nat) :
    numbersOf (first ++ second) id = numbersOf first id ++ numbersOf second id := by
  rw [numbersOf, filter_append, map_append]
  rfl

theorem numbersOf_eq_nil (other : ∀ m ∈ messages, m.stream ≠ id) : numbersOf messages id = [] := by
  rw [numbersOf, filter_eq_nil_iff.mpr, map_nil]
  intro m member
  rw [decide_eq_true_iff]
  exact other m member

theorem numbersOf_eq_map (same : ∀ m ∈ messages, m.stream = id) :
    numbersOf messages id = messages.map (·.number) := by
  rw [numbersOf, filter_eq_self.mpr]
  intro m member
  rw [decide_eq_true_iff]
  exact same m member

/-- What the changes of a stream outside the patch loop keep. -/
structure Stream.Kept (st st' : Stream) : Prop where
  origin : st'.origin = st.origin
  sendBuf : st'.sendBuf = st.sendBuf
  sequence : st'.sequence = st.sequence
  timestamp : st'.timestamp = st.timestamp
  packetsSent : st'.packetsSent = st.packetsSent
  isOpen : st'.isOpen = true → st.isOpen = true

theorem Stream.Kept.refl : st.Kept st := ⟨rfl, rfl, rfl, rfl, rfl, id⟩

theorem Stream.Kept.trans {a b c : Stream} (first : a.Kept b) (second : b.Kept c) :
    a.Kept c where
  origin := second.origin.trans first.origin
  sendBuf := second.sendBuf.trans first.sendBuf
  sequence := second.sequence.trans first.sequence
  timestamp := second.timestamp.trans first.timestamp
  packetsSent := second.packetsSent.trans first.packetsSent
  isOpen := first.isOpen ∘ second.isOpen

theorem Stream.Kept.inStep {st st' : Stream} (kept : st.Kept st') (inStep : st.InStep) :
    st'.InStep where
  sequence := by rw [kept.sequence, kept.origin, kept.packetsSent, inStep.sequence]
  timestamp := by rw [kept.timestamp, kept.origin, kept.packetsSent, inStep.timestamp]
  sendBuf := by rw [kept.sendBuf, kept.origin]; exact inStep.sendBuf

theorem Stream.kept_pause : st.Kept (st.pause callID) := by
  unfold pause
  split
  · exact ⟨rfl, rfl, rfl, rfl, rfl, id⟩
  · exact .refl st

theorem Stream.kept_resume (now : Int) (st : Stream) :
    st.Kept (st.resume callID now) := by
  unfold resume
  split
  · exact ⟨rfl, rfl, rfl, rfl, rfl, id⟩
  · exact .refl st

theorem Stream.kept_unregister :
    st.Kept (st.unregister callID) := by
  unfold unregister
  split
  · exact ⟨rfl, rfl, rfl, rfl, rfl, fun isOpen => absurd isOpen Bool.false_ne_true⟩
  · exact .refl st

/-- The same streams, changed outside the patch loop only. -/
def Follows (streams streams' : List Stream) : Prop :=
  ∀ id : Nat, Option.Rel Stream.Kept streams[id]? streams'[id]?

theorem Follows.map {f : Stream → Stream} (kept : ∀ st : Stream, st.Kept (f st))
    (streams : List Stream) : Follows streams (streams.map f) := by
  intro id
  rw [getElem?_map]
  cases streams[id]? with
  | none => exact .none
  | some st => exact .some (kept st)

theorem Follows.refl (streams : List Stream) : Follows streams streams := by
  have mapped := Follows.map Stream.Kept.refl streams
  rwa [List.map_id'] at mapped

theorem Follows.trans {a b d : List Stream} (first : Follows a b) (second : Follows b d) :
    Follows a d := by
  intro id
  have left := first id
  have right := second id
  generalize a[id]? = before at left ⊢
  generalize b[id]? = between at left right
  generalize d[id]? = after at right ⊢
  cases left with
  | none =>
    cases right
    exact .none
  | some kept =>
    cases right with
    | some later => exact .some (kept.trans later)

theorem Follows.set {streams st st'}
    (found : streams[id]? = some st) (kept : st.Kept st') :
    Follows streams (streams.set id st') := by
  intro other
  by_cases same : id = other
  · subst same
    rw [getElem?_set_self (List.getElem?_eq_some_iff.mp found).1, found]
    exact .some kept
  · rw [getElem?_set_ne same]
    exact Follows.refl streams other

variable {streams streams' : List Stream}

theorem Follows.length (follows : Follows streams streams') :
    streams'.length = streams.length := by
  have bound (l l' : List Stream) (none : ∀ id : Nat, l[id]? = none → l'[id]? = none) :
      l'.length ≤ l.length :=
    List.getElem?_eq_none_iff.mp (none l.length (getElem?_eq_none (Nat.le_refl _)))
  refine Nat.le_antisymm (bound _ _ fun id isNone => ?_) (bound _ _ fun id isNone => ?_)
  · have related := follows id
    rw [isNone] at related
    generalize streams'[id]? = other at related
    cases related
    rfl
  · have related := follows id
    rw [isNone] at related
    generalize streams[id]? = other at related
    cases related
    rfl

theorem Follows.before (follows : Follows streams streams')
    {st'} (found : streams'[id]? = some st') :
    ∃ st, streams[id]? = some st ∧ st.Kept st' := by
  have related := follows id
  rw [found] at related
  generalize streams[id]? = other at related
  cases related with
  | some kept => exact ⟨_, rfl, kept⟩

theorem Follows.after (follows : Follows streams streams')
    {st} (found : streams[id]? = some st) :
    ∃ st', streams'[id]? = some st' ∧ st.Kept st' := by
  have related := follows id
  rw [found] at related
  generalize streams'[id]? = other at related
  cases related with
  | some kept => exact ⟨_, rfl, kept⟩

namespace Valid

variable {streams : List Stream} {memory : Memory} {handed : List (Nat × Bytes)}
  {messages : List Message}

section

variable (valid : Valid streams memory handed messages)

include valid

theorem perm (same : messages.Perm messages') : Valid streams memory handed messages' where
  inStep := valid.inStep
  content m member := valid.content m (same.mem_iff.mpr member)
  inOrder := valid.inOrder
  known := valid.known
  numbers id st found isOpen := by
    obtain ⟨bound, outstanding⟩ := valid.numbers id st found isOpen
    exact ⟨bound, (((same.filter _).map _).symm).trans outstanding⟩
  buffers := ((same.filterMap _).append_right _).nodup_iff.mp valid.buffers
  bounded buffer member := valid.bounded buffer
    (((same.filterMap _).append_right _).mem_iff.mpr member)

theorem forget (fewer : free.Sublist memory.free) :
    Valid streams { memory with free := free } handed messages where
  inStep := valid.inStep
  content := valid.content
  inOrder := valid.inOrder
  known := valid.known
  numbers := valid.numbers
  buffers := valid.buffers.sublist (fewer.append_left _)
  bounded buffer member := valid.bounded buffer ((fewer.append_left _).subset member)

theorem follows {streams' : List Stream}
    (follows : Follows streams streams') : Valid streams' memory handed messages where
  inStep id st' found := by
    obtain ⟨st, before, kept⟩ := follows.before found
    exact kept.inStep (valid.inStep id st before)
  content m member := by
    obtain ⟨st, found, below, content⟩ := valid.content m member
    obtain ⟨st', found', kept⟩ := follows.after found
    refine ⟨st', found', ?_, ?_⟩
    · rwa [kept.packetsSent]
    · rw [kept.origin, ← content]
      unfold contentOf
      rw [found, found']
      cases m.buf with
      | shared => exact congrArg some kept.sendBuf
      | pooled buffer => rfl
  inOrder id st' found := by
    obtain ⟨st, before, kept⟩ := follows.before found
    rw [kept.origin]
    exact valid.inOrder id st before
  known entry member := by
    rw [follows.length]
    exact valid.known entry member
  numbers id st' found isOpen := by
    obtain ⟨st, before, kept⟩ := follows.before found
    rw [kept.packetsSent]
    exact valid.numbers id st before (kept.isOpen isOpen)
  buffers := valid.buffers
  bounded := valid.bounded

theorem register {st} (inStep : st.InStep) (fresh : st.packetsSent = 0) :
    Valid (streams ++ [st]) memory handed messages := by
  have noneHanded : handedOf handed streams.length = [] :=
    handedOf_eq_nil fun entry member => Nat.ne_of_lt (valid.known entry member)
  refine
    { inStep := ?_, content := ?_, inOrder := ?_, known := ?_, numbers := ?_
      buffers := valid.buffers, bounded := valid.bounded }
  · intro id st' found
    obtain old | ⟨-, rfl⟩ := Threads.get_start found
    · exact valid.inStep id st' old
    · exact inStep
  · intro m member
    obtain ⟨st', found, below, content⟩ := valid.content m member
    have kept : (streams ++ [st])[m.stream]? = streams[m.stream]? :=
      getElem?_append_left (List.getElem?_eq_some_iff.mp found).1
    refine ⟨st', kept.trans found, below, ?_⟩
    rw [← content]
    unfold contentOf
    rw [kept]
  · intro id st' found
    obtain old | ⟨rfl, -⟩ := Threads.get_start found
    · exact valid.inOrder id st' old
    · rw [noneHanded]
      rfl
  · intro entry member
    rw [length_append]
    exact Nat.lt_add_right _ (valid.known entry member)
  · intro id st' found isOpen
    obtain old | ⟨rfl, rfl⟩ := Threads.get_start found
    · exact valid.numbers id st' old isOpen
    · rw [noneHanded, fresh, numbersOf_eq_nil]
      · exact ⟨Nat.le_refl _, .nil⟩
      · intro m member
        obtain ⟨st', known, -, -⟩ := valid.content m member
        exact Nat.ne_of_lt (List.getElem?_eq_some_iff.mp known).1

/-- A message for the next packet of a stream, in memory that leaves the messages before it as
they are. -/
theorem patch {id st memory' m} (found : streams[id]? = some st)
    (isStream : m.stream = id) (isNumber : m.number = st.packetsSent)
    (apart : ∀ other ∈ messages, other.buf = .shared → other.stream ≠ id)
    (same : ∀ buffer ∈ messages.filterMap Message.pooled?,
      memory'.buffers[buffer]? = memory.buffers[buffer]?)
    (content : contentOf (streams.set id st.patched) memory' m = some st.patched.sendBuf)
    (buffers : ((messages ++ [m]).filterMap Message.pooled? ++ memory'.free).Nodup)
    (bounded : ∀ buffer ∈ (messages ++ [m]).filterMap Message.pooled? ++ memory'.free,
      buffer < memory'.buffers.length) :
    Valid (streams.set id st.patched) memory' handed (messages ++ [m]) := by
  have inRange : id < streams.length := (List.getElem?_eq_some_iff.mp found).1
  have here : (streams.set id st.patched)[id]? = some st.patched :=
    getElem?_set_self inRange
  have inStep := valid.inStep id st found
  refine
    { inStep := ?_, content := ?_, inOrder := ?_, known := ?_, numbers := ?_
      buffers := buffers, bounded := bounded }
  · intro other st' found'
    obtain ⟨-, rfl⟩ | ⟨-, before⟩ := Threads.get_move found'
    · exact inStep.patched
    · exact valid.inStep other st' before
  · intro other member
    obtain old | isNew := mem_append.mp member
    · obtain ⟨st', found', below, holds⟩ := valid.content other old
      have unchanged : contentOf (streams.set id st.patched) memory' other =
          contentOf streams memory other := by
        unfold contentOf
        cases isBuf : other.buf with
        | shared =>
          have elsewhere : id ≠ other.stream := fun isHere => apart other old isBuf isHere.symm
          simp [getElem?_set_ne elsewhere]
        | pooled buffer =>
          refine same buffer (mem_filterMap.mpr ⟨other, old, ?_⟩)
          rw [Message.pooled?, isBuf]
      by_cases isHere : id = other.stream
      · rw [← isHere] at found' ⊢
        cases found.symm.trans found'
        exact ⟨st.patched, here, Nat.lt_succ_of_lt below, unchanged.trans holds⟩
      · refine ⟨st', ?_, below, unchanged.trans holds⟩
        rw [getElem?_set_ne isHere, found']
    · cases mem_singleton.mp isNew
      refine ⟨st.patched, isStream ▸ here, ?_, ?_⟩
      · rw [isNumber]
        exact Nat.lt_succ_self _
      · rw [content, isNumber, Stream.patched, inStep.sendBuf, inStep.sequence,
          inStep.timestamp]
        rfl
  · intro other st' found'
    obtain ⟨isHere, rfl⟩ | ⟨-, before⟩ := Threads.get_move found'
    · rw [isHere]
      exact valid.inOrder id st found
    · exact valid.inOrder other st' before
  · intro entry member
    rw [length_set]
    exact valid.known entry member
  · intro other st' found' isOpen
    obtain ⟨isHere, rfl⟩ | ⟨elsewhere, before⟩ := Threads.get_move found'
    · rw [isHere]
      obtain ⟨bound, outstanding⟩ := valid.numbers id st found isOpen
      refine ⟨Nat.le_succ_of_le bound, ?_⟩
      have new : numbersOf [m] id = [st.packetsSent] := by
        rw [numbersOf_eq_map, map_singleton, isNumber]
        intro other isNew
        rw [mem_singleton.mp isNew, isStream]
      have more : st.patched.packetsSent - (handedOf handed id).length =
          st.packetsSent - (handedOf handed id).length + 1 := Nat.succ_sub bound
      rw [numbersOf_append, new, more, List.range'_1_concat, Nat.add_sub_cancel' bound]
      exact outstanding.append_right _
    · have none : numbersOf [m] other = [] := by
        apply numbersOf_eq_nil
        intro new isNew
        rw [mem_singleton.mp isNew, isStream]
        exact elsewhere.symm
      rw [numbersOf_append, none, append_nil]
      exact valid.numbers other st' before isOpen

end

/-- The buffers of a batch go back to the pool. -/
theorem released (valid : Valid streams memory handed (batch ++ rest)) :
    (rest.filterMap Message.pooled? ++ (memory.release batch).free).Nodup ∧
      ∀ buffer ∈ rest.filterMap Message.pooled? ++ (memory.release batch).free,
        buffer < memory.buffers.length := by
  have exchanged : (rest.filterMap Message.pooled? ++ (memory.release batch).free).Perm
      ((batch ++ rest).filterMap Message.pooled? ++ memory.free) := by
    rw [filterMap_append, append_assoc, Memory.release]
    exact perm_append_comm_assoc _ _ _
  exact ⟨exchanged.nodup_iff.mpr valid.buffers,
    fun buffer member => valid.bounded buffer (exchanged.mem_iff.mp member)⟩

/-- A batch on a closed socket is dropped. -/
theorem dropped {batch rest id}
    (valid : Valid streams memory handed (batch ++ rest))
    (one : ∀ m ∈ batch, m.stream = id)
    (closed : ∀ st : Stream, streams[id]? = some st → st.isOpen = false) :
    Valid streams (memory.release batch) handed rest := by
  refine
    { inStep := valid.inStep, content := ?_, inOrder := valid.inOrder, known := valid.known
      numbers := ?_, buffers := valid.released.1, bounded := valid.released.2 }
  · exact fun m member => valid.content m (mem_append_right _ member)
  · intro other st found isOpen
    have none : numbersOf batch other = [] := by
      apply numbersOf_eq_nil
      intro m member isOther
      rw [← isOther, one m member] at found
      rw [closed st found] at isOpen
      cases isOpen
    have numbers := valid.numbers other st found isOpen
    rwa [numbersOf_append, none, nil_append] at numbers

end Valid

/-- The messages of every stream stand in the order of their packets. -/
def Ascending (messages : List Message) : Prop :=
  messages.Pairwise fun a b => a.stream = b.stream → a.number < b.number

theorem handOver_closed {streams batch}
    (memory : Memory) (one : ∀ m ∈ batch, m.stream = id)
    (closed : (streams[id]?).any (·.isOpen) = false) : handOver streams memory batch = [] := by
  rw [handOver, filterMap_eq_nil_iff]
  intro m member
  rw [one m member, closed]
  rfl

theorem handOver_open {streams memory batch st} (one : ∀ m ∈ batch, m.stream = id)
    (found : streams[id]? = some st) (isOpen : st.isOpen = true)
    (content : ∀ m ∈ batch, contentOf streams memory m = some (st.origin.packetAt m.number)) :
    handOver streams memory batch =
      batch.map fun m => (id, st.origin.packetAt m.number) := by
  rw [handOver, ← filterMap_eq_map]
  refine filterMap_congr fun m member => ?_
  rw [one m member, content m member, found, any_some, if_pos isOpen]
  rfl

namespace Valid

variable {streams : List Stream} {memory : Memory} {handed : List (Nat × Bytes)}
  {batch rest : List Message} {id : Nat}

/-- A batch on an open socket, when no earlier packet of its stream is still on its way. -/
theorem delivered {st} (valid : Valid streams memory handed (batch ++ rest))
    (one : ∀ m ∈ batch, m.stream = id) (sorted : Ascending batch)
    (found : streams[id]? = some st) (isOpen : st.isOpen = true)
    (least : ∀ m ∈ batch, ∀ r ∈ rest, r.stream = id → m.number < r.number) :
    Valid streams (memory.release batch)
      (handed ++ batch.map fun m => (id, st.origin.packetAt m.number)) rest := by
  have released := valid.released
  have ascending : (batch.map (·.number)).Pairwise (· < ·) := by
    refine pairwise_map.mpr (sorted.imp_of_mem fun left right later => later ?_)
    rw [one _ left, one _ right]
  obtain ⟨bound, outstanding⟩ := valid.numbers id st found isOpen
  rw [numbersOf_append, numbersOf_eq_map one] at outstanding
  have length := outstanding.length_eq
  rw [length_append, length_map, length_range'] at length
  obtain ⟨isBlock, left⟩ := InOrder.least_block outstanding ascending (by
    intro a inBatch b inRest
    obtain ⟨m, member, rfl⟩ := List.mem_map.mp inBatch
    obtain ⟨r, later, rfl⟩ := List.mem_map.mp inRest
    rw [mem_filter, decide_eq_true_iff] at later
    exact least m member r later.1 later.2)
  rw [length_map] at isBlock left
  -- what was handed to the socket of the batch, and to the others
  have here : handedOf (handed ++ batch.map fun m => (id, st.origin.packetAt m.number)) id =
      handedOf handed id ++ (batch.map (·.number)).map st.origin.packetAt := by
    rw [handedOf_append, handedOf_map_self, List.map_map]
    rfl
  have elsewhere {other : Nat} (isOther : id ≠ other) :
      handedOf (handed ++ batch.map fun m => (id, st.origin.packetAt m.number)) other =
        handedOf handed other := by
    rw [handedOf_append, handedOf_map_of_ne _ _ isOther, append_nil]
  refine
    { inStep := valid.inStep, content := ?_, inOrder := ?_, known := ?_, numbers := ?_
      buffers := released.1, bounded := released.2 }
  · exact fun m member => valid.content m (mem_append_right _ member)
  · intro other st' found'
    by_cases isHere : id = other
    · subst isHere
      cases found.symm.trans found'
      rw [here, valid.inOrder id st found, isBlock, ← map_append, range_eq_range',
        length_map, length_append, length_range', length_range',
        range_eq_range', ← List.range'_append_1, Nat.zero_add]
    · rw [elsewhere isHere]
      exact valid.inOrder other st' found'
  · intro entry member
    obtain old | isNew := mem_append.mp member
    · exact valid.known entry old
    · obtain ⟨m, -, rfl⟩ := List.mem_map.mp isNew
      exact (List.getElem?_eq_some_iff.mp found).1
  · intro other st' found' isOpen'
    by_cases isHere : id = other
    · subst isHere
      cases found.symm.trans found'
      rw [here, length_append, length_map, length_map]
      exact ⟨by omega, left⟩
    · rw [elsewhere isHere]
      have none : numbersOf batch other = [] := by
        apply numbersOf_eq_nil
        intro m member
        rwa [one m member]
      have numbers := valid.numbers other st' found' isOpen'
      rwa [numbersOf_append, none, nil_append] at numbers

/-- What happens to a batch that is sent and whose buffers are put back. -/
theorem sent (valid : Valid streams memory handed (batch ++ rest))
    (one : ∀ m ∈ batch, m.stream = id) (sorted : Ascending batch)
    (inTurn : (streams[id]?).any (·.isOpen) = true →
      ∀ m ∈ batch, ∀ r ∈ rest, r.stream = id → m.number < r.number) :
    Valid streams (memory.release batch) (handed ++ handOver streams memory batch) rest := by
  cases state : (streams[id]?).any (·.isOpen) with
  | false =>
    rw [handOver_closed memory one state, append_nil]
    refine valid.dropped one fun st found => ?_
    rwa [found, any_some] at state
  | true =>
    obtain ⟨st, found, isOpen⟩ := (Option.any_eq_true _ _).mp state
    rw [handOver_open one found isOpen]
    · exact valid.delivered one sorted found isOpen (inTurn state)
    · intro m member
      obtain ⟨st', found', -, content⟩ := valid.content m (mem_append_left _ member)
      rw [one m member] at found'
      cases found.symm.trans found'
      exact content

end Valid

end Gossipper.Media.ScaleSend
