/-
Module: Gossipper.Media.ScaleSend
Purpose: The packets of the scale engine on their way from a tick of the scheduler to the
  sockets, with their buffers, after `internal/media/scale_engine.go`.
Trusted boundary: `BuildPacket` is given by its result; the heap is described by what
  `container/heap` guarantees, a `Pop` of a stream with the earliest time; a batch that is
  passed to `udpSendBatch` on an open socket counts as handed to it, in its order
Main exports: patchRTPPacket, Stream, Message, Memory, State, Event, step, Continuous
-/
import Gossipper.Go.Bytes
import Gossipper.Lib.InOrder
import Gossipper.Lib.Run

namespace Gossipper.Media.ScaleSend

open Go Transition

/-! ### Streams -/

def scaleSendQueueDepth : Nat := 4096

def scaleMaxBatch : Nat := 512

/-- The length of the buffers that `scalePacketPool` makes. -/
def poolBufferLength : Nat := 2048

/-- `patchRTPPacket`. -/
def patchRTPPacket (pkt : Bytes) (seq : UInt16) (ts : UInt32) : Bytes :=
  if pkt.length < 8 then pkt
  else pkt.take 2 ++ (putUint16 seq ++ (putUint32 ts ++ pkt.drop 8))

/-- The fields of `StreamConfig` that a registration reads; `BuildPacket` reads the others. -/
structure StreamConfig where
  sequence : UInt16
  timestamp : UInt32
  samplesPerPkt : UInt32
  packetDuration : Int

/-- What a stream keeps from its registration. -/
structure Origin where
  callID : Bytes
  packet : Bytes
  sequence : UInt16
  timestamp : UInt32
  samplesPerPkt : UInt32
  interval : Int
  packet_length : 12 ≤ packet.length
  interval_pos : 0 < interval

/-- `scaleStream`.  The socket of a stream is open until its call is unregistered, and so
long the stream is in the heap; `packetsSent` is not cut to its 64 bits. -/
structure Stream where
  origin : Origin
  sendBuf : Bytes
  sequence : UInt16
  timestamp : UInt32
  nextSend : Int
  paused : Bool
  isOpen : Bool
  packetsSent : Nat

/-- `RegisterStream` at the time `now`, with the packet that `BuildPacket` returned. -/
def registerStream (callID : Bytes) (cfg : StreamConfig) (pkt : Bytes) (now : Int) :
    Option Stream :=
  if long : 12 ≤ pkt.length then
    some
      { origin :=
          { callID
            packet := pkt
            sequence := cfg.sequence
            timestamp := cfg.timestamp
            samplesPerPkt := if cfg.samplesPerPkt = 0 then 160 else cfg.samplesPerPkt
            interval := if cfg.packetDuration ≤ 0 then 20000000 else cfg.packetDuration
            packet_length := long
            interval_pos := by split <;> omega }
        sendBuf := pkt
        sequence := cfg.sequence
        timestamp := cfg.timestamp
        nextSend := now
        paused := false
        isOpen := true
        packetsSent := 0 }
  else none

namespace Stream

/-- The stream is one of `byCall[callID]`. -/
def belongs (callID : Bytes) (st : Stream) : Bool :=
  st.isOpen && st.origin.callID == callID

/-- `PauseCall`. -/
def pause (callID : Bytes) (st : Stream) : Stream :=
  if st.belongs callID then { st with paused := true } else st

/-- `ResumeCall`. -/
def resume (callID : Bytes) (now : Int) (st : Stream) : Stream :=
  if st.belongs callID then { st with paused := false, nextSend := now } else st

/-- `UnregisterCall`. -/
def unregister (callID : Bytes) (st : Stream) : Stream :=
  if st.belongs callID then { st with isOpen := false } else st

/-- One round of the patch loop. -/
def patched (st : Stream) : Stream :=
  { st with
    sendBuf := patchRTPPacket st.sendBuf st.sequence st.timestamp
    sequence := st.sequence + 1
    timestamp := st.timestamp + st.origin.samplesPerPkt
    packetsSent := st.packetsSent + 1 }

end Stream

/-! ### Buffers and messages -/

/-- The `Buf` of a message: the `sendBuf` of its stream itself, or a buffer of the pool. -/
inductive Buf where
  | shared
  | pooled (buffer : Nat)
deriving DecidableEq, Repr

/-- `udpSendMsg`.  `number` is not in the code: it says which packet of the stream the message
was made for, counted from zero. -/
structure Message where
  stream : Nat
  number : Nat
  buf : Buf
deriving DecidableEq, Repr

def Message.pooled? (m : Message) : Option Nat :=
  match m.buf with
  | .shared => none
  | .pooled buffer => some buffer

/-- The buffers made so far with what was last copied into them, and those in the pool. -/
structure Memory where
  buffers : List Bytes
  free : List Nat

namespace Memory

/-- `allocScalePacket`, for the buffer at a position of the pool or else a new one. -/
def alloc (memory : Memory) (choice : Nat) (template : Bytes) : Nat × Memory :=
  match memory.free[choice]? with
  | some buffer =>
    (buffer, ⟨memory.buffers.set buffer template, memory.free.eraseIdx choice⟩)
  | none => (memory.buffers.length, { memory with buffers := memory.buffers ++ [template] })

/-- `releaseScaleMsgs`. -/
def release (memory : Memory) (msgs : List Message) : Memory :=
  { memory with free := msgs.filterMap Message.pooled? ++ memory.free }

end Memory

/-- What the buffer of a message holds. -/
def contentOf (streams : List Stream) (memory : Memory) (m : Message) : Option Bytes :=
  match m.buf with
  | .shared => (streams[m.stream]?).map (·.sendBuf)
  | .pooled buffer => memory.buffers[buffer]?

/-- The packets of a batch that reach the socket, which is the same for all of them. -/
def handOver (streams : List Stream) (memory : Memory) (batch : List Message) :
    List (Nat × Bytes) :=
  batch.filterMap fun m =>
    if (streams[m.stream]?).any (·.isOpen) then
      (contentOf streams memory m).map fun packet => (m.stream, packet)
    else none

/-! ### A tick -/

/-- `heap.Pop` and `heap.Push` of a stream that is due and has the earliest time; the result
says whether it is sent. -/
def pop (now : Int) (streams : List Stream) (id : Nat) : Option (List Stream × List Nat) :=
  match streams[id]? with
  | none => none
  | some st =>
    if st.isOpen = true ∧ st.nextSend ≤ now ∧
        ∀ other ∈ streams, other.isOpen = true → st.nextSend ≤ other.nextSend then
      some (streams.set id { st with nextSend := st.nextSend + st.origin.interval },
        if st.paused then [] else [id])
    else none

/-- The loop over the heap, which ends when no stream is due; `order` are the streams that it
takes from the heap. -/
def popAll (now : Int) : List Nat → List Stream → Option (List Stream × List Nat)
  | [], streams =>
    if ∀ st ∈ streams, st.isOpen = true → now < st.nextSend then some (streams, []) else none
  | id :: order, streams =>
    (pop now streams id).bind fun popped =>
    (popAll now order popped.1).map fun rest => (rest.1, popped.2 ++ rest.2)

/-- The streams, the buffers and the messages in the patch loop. -/
structure Work where
  streams : List Stream
  memory : Memory
  messages : List Message

/-- One round of the patch loop; `none` is the panic of a slice expression, since a packet may
be longer than a buffer of the pool. -/
def patchOne (direct : Bool) (id choice : Nat) (work : Work) : Option Work :=
  match work.streams[id]? with
  | none => some work
  | some st =>
    let streams := work.streams.set id st.patched
    if direct then
      some { work with
        streams := streams
        messages := work.messages ++ [⟨id, st.packetsSent, .shared⟩] }
    else if poolBufferLength < st.patched.sendBuf.length then none
    else
      let allocated := work.memory.alloc choice st.patched.sendBuf
      some
        { streams := streams
          memory := allocated.2
          messages := work.messages ++ [⟨id, st.packetsSent, .pooled allocated.1⟩] }

/-- The patch loop; `choices` says which buffers the pool returns. -/
def patchAll (direct : Bool) : List Nat → List Nat → Work → Option Work
  | [], _, work => some work
  | id :: due, choices, work =>
    (patchOne direct id (choices.head?.getD work.memory.free.length) work).bind
      (patchAll direct due choices.tail)

/-- The batches of a tick: the messages of one socket after another, in the order in which
the map `byConn` is visited. -/
def batches (conns : List Nat) (messages : List Message) : List (List Message) :=
  conns.flatMap fun conn =>
    InOrder.chunks scaleMaxBatch (messages.filter fun m => m.stream = conn)

/-! ### The engine -/

/-- The scheduler with the batches that it has not passed on yet, the channel `sendCh`, the
workers with the job they have taken, and every packet that was handed to a socket. -/
structure State where
  streams : List Stream
  memory : Memory
  pending : List (List Message)
  queue : List (List Message)
  workers : List (Option (List Message))
  handed : List (Nat × Bytes)
  panicked : Bool

/-- An engine with a number of workers; in direct mode there are none. -/
def State.initial (workers : Nat) : State where
  streams := []
  memory := ⟨[], []⟩
  pending := []
  queue := []
  workers := List.replicate workers none
  handed := []
  panicked := false

/-- What can happen.  The scheduler passes the batches of a tick on one by one, and the other
goroutines may come in between. -/
inductive Event where
  | register (callID : Bytes) (cfg : StreamConfig) (pkt : Bytes) (now : Int)
  | pause (callID : Bytes)
  | resume (callID : Bytes) (now : Int)
  | unregister (callID : Bytes)
  | tick (now : Int) (order choices conns : List Nat)
  | dispatch
  | take (worker : Nat)
  | send (worker : Nat)

/-- `udpSendBatch`. -/
def State.udpSendBatch (s : State) (batch : List Message) : State :=
  { s with handed := s.handed ++ handOver s.streams s.memory batch }

/-- One event of a running engine; `none` means that it cannot happen. -/
def act (direct : Bool) : Event → State → Option State
  | .register callID cfg pkt now, s =>
    (registerStream callID cfg pkt now).map fun st => { s with streams := s.streams ++ [st] }
  | .pause callID, s => some { s with streams := s.streams.map (.pause callID) }
  | .resume callID now, s => some { s with streams := s.streams.map (.resume callID now) }
  | .unregister callID, s => some { s with streams := s.streams.map (.unregister callID) }
  | .tick now order choices conns, s =>
    if s.pending = [] then
      (popAll now order s.streams).bind fun popped =>
        match patchAll direct popped.2 choices ⟨popped.1, s.memory, []⟩ with
        | none => some { s with panicked := true }
        | some work =>
          if conns.Nodup ∧ ∀ m ∈ work.messages, m.stream ∈ conns then
            some { s with
              streams := work.streams
              memory := work.memory
              pending := batches conns work.messages }
          else none
    else none
  | .dispatch, s =>
    match s.pending with
    | [] => none
    | batch :: rest =>
      let s := { s with pending := rest }
      if direct then some (s.udpSendBatch batch)
      else if s.queue.length < scaleSendQueueDepth then
        some { s with queue := s.queue ++ [batch] }
      else
        -- the channel is full
        let s := s.udpSendBatch batch
        some { s with memory := s.memory.release batch }
  | .take worker, s =>
    match s.workers[worker]?, s.queue with
    | some none, job :: rest =>
      some { s with queue := rest, workers := s.workers.set worker (some job) }
    | _, _ => none
  | .send worker, s =>
    match s.workers[worker]? with
    | some (some job) =>
      let s := s.udpSendBatch job
      some { s with
        memory := s.memory.release job
        workers := s.workers.set worker none }
    | _ => none

/-- One event; a panic ends the process. -/
def step (direct : Bool) (event : Event) (s : State) : Option State :=
  if s.panicked then none else act direct event s

/-! ### The property -/

/-- The packets handed to the socket of a stream. -/
def handedOf (handed : List (Nat × Bytes)) (id : Nat) : List Bytes :=
  (handed.filter fun entry => entry.1 = id).map Prod.snd

/-- Packets with consecutive sequence numbers and timestamps, and otherwise as built. -/
def Continuous (origin : Origin) (packets : List Bytes) : Prop :=
  ∀ i packet, packets[i]? = some packet →
    packet.take 2 = origin.packet.take 2 ∧
    uint16 (packet.drop 2) = origin.sequence + UInt16.ofNat i ∧
    uint32 (packet.drop 4) = origin.timestamp + UInt32.ofNat i * origin.samplesPerPkt ∧
    packet.drop 8 = origin.packet.drop 8

/-- The streams of a state are continuous. -/
def State.Continuous (s : State) : Prop :=
  ∀ id st, s.streams[id]? = some st → ScaleSend.Continuous st.origin (handedOf s.handed id)

end Gossipper.Media.ScaleSend
