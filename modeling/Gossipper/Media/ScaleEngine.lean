/-
Module: Gossipper.Media.ScaleEngine
Purpose: The streams of the scale engine and the operations on those of a call, after
  `internal/media/scale_engine.go`.
Trusted boundary: sockets, the heap with the times of sending and the octet counters are
  left out; which streams are due at a tick is given by the events.
Main exports: ScaleStream, registerStream, unregisterCall, pauseCall, resumeCall
-/
import Gossipper.Go.Bytes

namespace Gossipper.Media

open Go

/-- `scaleStream`.  `registered` says that the stream is in the maps of the engine, and
`due` how often a tick has selected it and not counted it yet. -/
structure ScaleStream where
  callID : Bytes
  paused : Bool
  registered : Bool
  due : Nat
  packetsSent : Nat
deriving DecidableEq, Repr

namespace ScaleStream

/-- The stream is one of `byCall[callID]`. -/
def belongs (callID : Bytes) (st : ScaleStream) : Bool :=
  st.registered && st.callID == callID

def setPaused (callID : Bytes) (paused : Bool) (st : ScaleStream) : ScaleStream :=
  if st.belongs callID then { st with paused := paused } else st

def unregister (callID : Bytes) (st : ScaleStream) : ScaleStream :=
  if st.belongs callID then { st with registered := false } else st

/-- The part of a tick under the lock. -/
def select (st : ScaleStream) : Option ScaleStream :=
  if st.registered && !st.paused then some { st with due := st.due + 1 } else none

/-- The part of a tick behind the lock; the counter is a `uint64`. -/
def transmit (st : ScaleStream) : Option ScaleStream :=
  match st.due with
  | 0 => none
  | due + 1 => some { st with due := due, packetsSent := (st.packetsSent + 1) % 2 ^ 64 }

end ScaleStream

/-- `RegisterStream`. -/
def registerStream (callID : Bytes) (streams : List ScaleStream) : List ScaleStream :=
  streams ++ [{ callID, paused := false, registered := true, due := 0, packetsSent := 0 }]

/-- `PauseCall`. -/
def pauseCall (callID : Bytes) (streams : List ScaleStream) : List ScaleStream :=
  streams.map (.setPaused callID true)

/-- `ResumeCall`. -/
def resumeCall (callID : Bytes) (streams : List ScaleStream) : List ScaleStream :=
  streams.map (.setPaused callID false)

/-- The loop of `UnregisterCall` over the streams; `total.RTPPacketsSent` is a `uint32`. -/
def totalPackets (callID : Bytes) (total : Nat) : List ScaleStream → Nat
  | [] => total
  | st :: rest =>
    totalPackets callID
      (if st.belongs callID then (total + st.packetsSent % 2 ^ 32) % 2 ^ 32 else total) rest

/-- `UnregisterCall`. -/
def unregisterCall (callID : Bytes) (streams : List ScaleStream) : List ScaleStream × Nat :=
  (streams.map (.unregister callID), totalPackets callID 0 streams)

/-- What a stream adds to the total of a call. -/
def ScaleStream.packetsOf (callID : Bytes) (st : ScaleStream) : Nat :=
  if st.belongs callID then st.packetsSent else 0

/-- Below the range of the counters the total is the sum. -/
theorem totalPackets_eq_sum
    (fits : total + (streams.map (ScaleStream.packetsOf callID)).sum < 2 ^ 32) :
    totalPackets callID total streams =
      total + (streams.map (ScaleStream.packetsOf callID)).sum := by
  induction streams generalizing total with
  | nil => rfl
  | cons st rest ih =>
    rw [List.map_cons, List.sum_cons] at fits ⊢
    have here : (if st.belongs callID then (total + st.packetsSent % 2 ^ 32) % 2 ^ 32
        else total) = total + st.packetsOf callID := by
      unfold ScaleStream.packetsOf at fits ⊢
      split at fits
      · rename_i belongs
        rw [if_pos belongs, if_pos belongs]
        omega
      · rename_i foreign
        rw [if_neg foreign, if_neg foreign, Nat.add_zero]
    rw [totalPackets, here, ih (by omega)]
    omega

end Gossipper.Media
