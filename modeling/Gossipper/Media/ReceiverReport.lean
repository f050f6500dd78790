/-
Module: Gossipper.Media.ReceiverReport
Purpose: The sequence numbers of a receiver report, after `observeRTPPacket` and
  `buildReceiverReport` of `internal/media/media.go`.
Trusted boundary: what is read off the clock (jitter, the delays) is left out
Main exports: observeRTPPacket, buildReceiverReport, Arrivals, report_counts_missing
-/
import Mathlib.Data.Finset.Card
import Mathlib.Order.Interval.Finset.Nat

namespace Gossipper.Media.ReceiverReport

open List

/-- The `rr` fields of a session. -/
structure Tracking where
  hasFirst : Bool
  ssrc : UInt32
  firstSeq : UInt16
  extHighSeq : UInt32
  received : UInt32
  lost : Int32
deriving DecidableEq

def Tracking.new : Tracking :=
  { hasFirst := false, ssrc := 0, firstSeq := 0, extHighSeq := 0, received := 0, lost := 0 }

/-- The extended highest sequence number after one more packet. -/
def extend (extHighSeq : UInt32) (sequenceNumber : UInt16) : UInt32 :=
  let diff := (sequenceNumber - extHighSeq.toUInt16).toInt16
  if 0 < diff then extHighSeq + diff.toInt32.toUInt32 else extHighSeq

def observeRTPPacket (s : Tracking) (ssrc : UInt32) (sequenceNumber : UInt16) : Tracking :=
  if !s.hasFirst then
    { s with hasFirst := true, ssrc, firstSeq := sequenceNumber,
             extHighSeq := sequenceNumber.toUInt32, received := 1 }
  else if ssrc ≠ s.ssrc then s
  else
    let extHighSeq := extend s.extHighSeq sequenceNumber
    let received := s.received + 1
    let expected := extHighSeq - s.firstSeq.toUInt32 + 1
    let lost := expected.toInt32 - received.toInt32
    { s with extHighSeq, received, lost := if lost < 0 then 0 else lost }

structure ReceptionReport where
  ssrc : UInt32
  totalLost : UInt32
  lastSequenceNumber : UInt32
deriving DecidableEq

def buildReceiverReport (s : Tracking) : Option ReceptionReport :=
  if s.hasFirst then
    some { ssrc := s.ssrc, totalLost := s.lost.toUInt32, lastSequenceNumber := s.extHighSeq }
  else none

/-- The tracking after packets with these unwrapped sequence numbers. -/
def observed (ssrc : UInt32) (arrived : List Nat) : Tracking :=
  arrived.foldl (fun s u => observeRTPPacket s ssrc (.ofNat u)) .new

def highest (first : Nat) (later : List Nat) : Nat :=
  later.foldl max first

/-- The packets behind the first one: each is new, not below the first, near the highest so
far, and within half of the 32-bit numbers. -/
inductive Arrivals (first : Nat) : List Nat → Prop where
  | nil : Arrivals first []
  | snoc {later : List Nat} {u : Nat} : Arrivals first later → u ∉ first :: later → first ≤ u →
      u < highest first later + 2 ^ 15 → highest first later < u + 2 ^ 15 →
      u < first + 2 ^ 31 → Arrivals first (later ++ [u])

variable {first : Nat} {later : List Nat}

theorem highest_snoc (u : Nat) : highest first (later ++ [u]) = max (highest first later) u := by
  simp [highest]

theorem Arrivals.nodup (arrivals : Arrivals first later) : (first :: later).Nodup := by
  induction arrivals with
  | nil => simp
  | snoc _ new _ _ _ _ ih =>
    exact concat_eq_append ▸ ih.concat new

theorem Arrivals.within (arrivals : Arrivals first later) :
    (∀ u ∈ first :: later, first ≤ u ∧ u ≤ highest first later) ∧
      highest first later < first + 2 ^ 31 := by
  induction arrivals with
  | nil => simp [highest]
  | snoc _ _ above _ _ small ih =>
    rw [highest_snoc]
    refine ⟨fun u member => ?_, max_lt ih.2 small⟩
    rw [← cons_append, mem_append, mem_singleton] at member
    rcases member with earlier | rfl
    · exact ⟨(ih.1 u earlier).1, le_max_of_le_left (ih.1 u earlier).2⟩
    · exact ⟨above, le_max_right ..⟩

/-- The numbers of the span that have not arrived. -/
def missing (first : Nat) (later : List Nat) : Finset Nat :=
  Finset.Icc first (highest first later) \ (first :: later).toFinset

theorem Arrivals.card_missing (arrivals : Arrivals first later) :
    (missing first later).card + (later.length + 1) = highest first later - first + 1 := by
  have inSpan : (first :: later).toFinset ⊆ Finset.Icc first (highest first later) := by
    intro u member
    rw [Finset.mem_Icc]
    exact arrivals.within.1 u (mem_toFinset.mp member)
  have all := Finset.card_sdiff_add_card_eq_card inSpan
  rw [toFinset_card_of_nodup arrivals.nodup, Nat.card_Icc] at all
  have above := (arrivals.within.1 first (by simp)).2
  simp only [length_cons] at all
  rw [missing]
  omega

/-- The state of the tracking after the packets that have arrived. -/
structure Tracks (ssrc : UInt32) (first : Nat) (later : List Nat) (s : Tracking) : Prop where
  hasFirst : s.hasFirst = true
  ssrc : s.ssrc = ssrc
  firstSeq : s.firstSeq = .ofNat first
  extHighSeq : s.extHighSeq.toNat = first % 2 ^ 16 + (highest first later - first)
  received : s.received = .ofNat (later.length + 1)
  lost : s.lost.toUInt32.toNat = (missing first later).card

theorem toInt_diff {u high : Nat} (near : u < high + 2 ^ 15) (near' : high < u + 2 ^ 15) :
    (UInt16.ofNat u - UInt16.ofNat high).toInt16.toInt = u - high := by
  have wrapped : (UInt16.ofNat u - UInt16.ofNat high).toInt16.toInt =
      ((UInt16.ofNat u - UInt16.ofNat high).toNat : Int).bmod (2 ^ 16) :=
    BitVec.toInt_eq_toNat_bmod _
  rw [wrapped, UInt16.toNat_sub, UInt16.toNat_ofNat', UInt16.toNat_ofNat', Int.bmod]
  split <;> omega

theorem toNat_of_nonneg {x : Int16} (nonneg : 0 ≤ x.toInt) :
    (x.toInt32.toUInt32.toNat : Int) = x.toInt := by
  have wrapped : x.toInt32.toInt = (x.toInt32.toUInt32.toNat : Int).bmod (2 ^ 32) :=
    BitVec.toInt_eq_toNat_bmod _
  have small := x.toInt32.toUInt32.toNat_lt
  rw [Int16.toInt_toInt32, Int.bmod] at wrapped
  split at wrapped <;> omega

theorem toNat_extend {extHighSeq : UInt32} {high u : Nat}
    (tracked : extHighSeq.toNat = first % 2 ^ 16 + (high - first)) (above : first ≤ high)
    (near : u < high + 2 ^ 15) (near' : high < u + 2 ^ 15) (small : u < first + 2 ^ 31) :
    (extend extHighSeq (.ofNat u)).toNat = first % 2 ^ 16 + (max high u - first) := by
  have low : extHighSeq.toUInt16 = .ofNat high := by
    rw [← UInt16.toNat_inj, UInt32.toNat_toUInt16, UInt16.toNat_ofNat', tracked]
    omega
  have diff := toInt_diff near near'
  simp only [extend, low]
  split <;> rename_i ahead <;> rw [Int16.lt_iff_toInt_lt, diff, Int16.toInt_zero] at ahead
  · have step := toNat_of_nonneg (diff ▸ ahead.le)
    rw [UInt32.toNat_add, tracked]
    omega
  · omega

/-- A loss below half of the 32-bit numbers is never taken for a negative one. -/
theorem toNat_lost {expected received : UInt32} {n : Nat} (small : n < 2 ^ 31)
    (differ : (expected - received).toNat = n) :
    (if expected.toInt32 - received.toInt32 < 0 then (0 : Int32)
      else expected.toInt32 - received.toInt32).toUInt32.toNat = n := by
  rw [← UInt32.toInt32_sub]
  have wrapped : (expected - received).toInt32.toInt =
      ((expected - received).toNat : Int).bmod (2 ^ 32) := BitVec.toInt_eq_toNat_bmod _
  have nonneg : ¬ (expected - received).toInt32 < 0 := by
    rw [Int32.lt_iff_toInt_lt, wrapped, differ, Int32.toInt_zero, Int.bmod]
    split <;> omega
  rw [if_neg nonneg, UInt32.toUInt32_toInt32, differ]

theorem Tracks.observe {ssrc s u} (tracks : Tracks ssrc first later s)
    (near : u < highest first later + 2 ^ 15) (near' : highest first later < u + 2 ^ 15)
    (arrivals : Arrivals first (later ++ [u])) (above : first ≤ highest first later) :
    Tracks ssrc first (later ++ [u]) (observeRTPPacket s ssrc (.ofNat u)) := by
  obtain ⟨hasFirst, isSSRC, firstSeq, extHighSeq, received, -⟩ := tracks
  have counted := arrivals.card_missing
  have small := arrivals.within.2
  rw [highest_snoc] at counted small
  have high := toNat_extend extHighSeq above near near' (by omega)
  rw [observeRTPPacket, if_neg (by simp [hasFirst]), if_neg (by simp [isSSRC])]
  refine ⟨hasFirst, isSSRC, firstSeq, highest_snoc u ▸ high, by simp [received], ?_⟩
  apply toNat_lost
  · omega
  · simp only [UInt32.toNat_sub, UInt32.toNat_add, high, received, firstSeq]
    simp at counted ⊢
    omega

theorem Arrivals.tracks (ssrc : UInt32) (arrivals : Arrivals first later) :
    Tracks ssrc first later (observed ssrc (first :: later)) := by
  induction arrivals with
  | nil =>
    refine ⟨rfl, rfl, rfl, ?_, rfl, ?_⟩
    · simp [observed, observeRTPPacket, Tracking.new, highest]
    · simp [missing, highest]
      rfl
  | snoc before new above near near' small ih =>
    have next := ih.observe near near' (.snoc before new above near near' small)
      (before.within.1 _ (by simp)).2
    rwa [observed, ← cons_append, foldl_append]

/-- After each packet the extended highest sequence number is the first one and the span, and
the reported loss is the number of packets of the span that have not arrived. -/
theorem report_counts_missing (ssrc : UInt32) (arrivals : Arrivals first later) :
    ∃ report, buildReceiverReport (observed ssrc (first :: later)) = some report ∧
      report.lastSequenceNumber.toNat =
        (UInt16.ofNat first).toNat + (highest first later - first) ∧
      report.totalLost.toNat = (missing first later).card := by
  have tracks := arrivals.tracks ssrc
  refine ⟨_, if_pos tracks.hasFirst, ?_, tracks.lost⟩
  rw [UInt16.toNat_ofNat']
  exact tracks.extHighSeq

theorem wrapped_gap_reported :
    ∃ report, buildReceiverReport (observed 7 [65534, 65537]) = some report ∧
      report.lastSequenceNumber.toNat = (UInt16.ofNat 65534).toNat + (65537 - 65534) ∧
      report.totalLost.toNat = (missing 65534 [65537]).card :=
  report_counts_missing 7 (@Arrivals.snoc 65534 [] 65537 .nil (by decide) (by decide)
    (by decide) (by decide) (by decide))

end Gossipper.Media.ReceiverReport
