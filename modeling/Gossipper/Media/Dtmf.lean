/-
Module: Gossipper.Media.Dtmf
Purpose: The RTP packets of DTMF digits, after `internal/media/dtmf.go`.
Trusted boundary: a packet is its header fields and its payload; encryption and the socket are
  left out, and so is `strings.TrimSpace`, which takes no digit away
Main exports: buildDTMFPackets, sendDTMF, Conforms, conforms_iff
-/
import Mathlib.Data.List.Basic

namespace Gossipper.Media.Dtmf

def digitToEvent : Char → Option UInt8
  | '0' => some 0 | '1' => some 1 | '2' => some 2 | '3' => some 3 | '4' => some 4
  | '5' => some 5 | '6' => some 6 | '7' => some 7 | '8' => some 8 | '9' => some 9
  | '*' => some 10 | '#' => some 11
  | 'a' | 'A' => some 12 | 'b' | 'B' => some 13 | 'c' | 'C' => some 14 | 'd' | 'D' => some 15
  | _ => none

structure Packet where
  payloadType : UInt8
  sequenceNumber : UInt16
  timestamp : UInt32
  ssrc : UInt32
  marker : Bool
  payload : List UInt8
deriving DecidableEq

/-- The loop of `BuildDTMFPackets` from turn `i` on, with the counters it leaves. -/
def packetsFrom (event payloadType : UInt8) (ssrc : UInt32) (turns i : Nat) (duration : UInt32)
    (sequence : UInt16) (timestamp : UInt32) : List Packet × UInt16 × UInt32 :=
  match turns with
  | 0 => ([], sequence, timestamp)
  | turns + 1 =>
    let duration := duration + 4000
    let eventByte := if i = 2 then event ||| 0x80 else event
    let packet : Packet :=
      { payloadType, sequenceNumber := sequence, timestamp, ssrc, marker := i = 0,
        payload := [eventByte, 0, (duration >>> 8).toUInt8, duration.toUInt8] }
    let (rest, counters) := packetsFrom event payloadType ssrc turns (i + 1) duration
      (sequence + 1) (timestamp + 4000)
    (packet :: rest, counters)

/-- The clock rate is not used. -/
def buildDTMFPackets (digit : Char) (payloadType : UInt8) (ssrc : UInt32) (sequence : UInt16)
    (timestamp : UInt32) : Option (List Packet × UInt16 × UInt32) :=
  (digitToEvent digit).map fun event =>
    packetsFrom event (if payloadType = 0 then 101 else payloadType) ssrc 3 0 0 sequence timestamp

/-- The packets of each digit, up to the first that is not supported. -/
def sendDTMF (ssrc : UInt32) (sequence : UInt16) (timestamp : UInt32) :
    List Char → List (List Packet)
  | [] => []
  | digit :: rest =>
    match buildDTMFPackets digit 101 ssrc sequence timestamp with
    | none => []
    | some (packets, sequence, timestamp) => packets :: sendDTMF ssrc sequence timestamp rest

/-! ### Telephone events -/

namespace Packet

def event (p : Packet) : Option UInt8 :=
  p.payload[0]?

def isEnd (p : Packet) : Bool :=
  p.payload.getD 1 0 &&& 0x80 ≠ 0

def duration (p : Packet) : Nat :=
  (p.payload.getD 2 0).toNat * 256 + (p.payload.getD 3 0).toNat

end Packet

/-- What RFC 2833 asks of the packets of each digit. -/
structure Conforms (digits : List Char) (sent : List (List Packet)) : Prop where
  consecutive : sent.flatten.IsChain fun p q => q.sequenceNumber = p.sequenceNumber + 1
  sameTimestamp : ∀ packets ∈ sent, ∀ p ∈ packets, ∀ q ∈ packets, p.timestamp = q.timestamp
  apart : sent.IsChain fun packets next => ∀ p ∈ packets, ∀ q ∈ next,
    p.duration ≤ (q.timestamp - p.timestamp).toNat
  event : List.Forall₂ (fun digit packets => ∀ p ∈ packets, p.event = digitToEvent digit)
    digits sent
  endBit : ∀ packets ∈ sent, ∀ (i : Nat) p, packets[i]? = some p →
    (p.isEnd = true ↔ i + 1 = packets.length)
  marker : ∀ packets ∈ sent, ∀ (i : Nat) p, packets[i]? = some p → (p.marker = true ↔ i = 0)
  durations : ∀ packets ∈ sent, packets.IsChain fun p q => p.duration < q.duration

theorem conforms_iff (ssrc : UInt32) (sequence : UInt16) (timestamp : UInt32) {digits : List Char}
    (supported : ∀ digit ∈ digits, (digitToEvent digit).isSome) :
    Conforms digits (sendDTMF ssrc sequence timestamp digits) ↔ digits = [] := by
  constructor
  · intro conforms
    cases digits with
    | nil => rfl
    | cons digit rest =>
      obtain ⟨event, isEvent⟩ := Option.isSome_iff_exists.mp (supported digit (by simp))
      -- The end bit is in the first byte of the last packet, not in the second.
      have here : (packetsFrom event 101 ssrc 3 0 0 sequence timestamp).1 ∈
          sendDTMF ssrc sequence timestamp (digit :: rest) := by
        simp [sendDTMF, buildDTMFPackets, isEvent]
      have ends := conforms.endBit _ here 2 _ rfl
      simp [packetsFrom, Packet.isEnd] at ends
  · rintro rfl
    exact ⟨.nil, nofun, .nil, .nil, nofun, nofun, nofun⟩

theorem five_not_conforming :
    Conforms ['5'] (sendDTMF 7 65535 0 ['5']) ↔ ['5'] = [] :=
  conforms_iff 7 65535 0 (List.forall_mem_singleton.mpr (by decide))

/-- The timestamps of one digit differ, and the last packet carries the event `0x81`. -/
theorem one_as_sent :
    (sendDTMF 7 65535 0 ['1']).map (·.map fun p => (p.sequenceNumber, p.timestamp, p.payload)) =
      [[(65535, 0, [1, 0, 15, 160]), (0, 4000, [1, 0, 31, 64]),
        (1, 8000, [0x81, 0, 46, 224])]] := by
  decide

end Gossipper.Media.Dtmf
