/-
Module: Gossipper.Go.Lowered
Purpose: Byte positions in a text and in its lower-cased copy.  The copy is in step
  with the text up to the first character whose lower case has another number of
  bytes.  A search for an ASCII word that finds nothing behind that place finds the
  word where the text itself has it, in any ASCII letter case.
Trusted boundary: the case tables, as in `Gossipper.Go.Text`
Main exports: lowerASCII, Segment.inPlace, alignedLength, InStep, hasPrefix_drop_toLower
-/
import Gossipper.Go.Text
import Mathlib.Data.List.Forall2

namespace Gossipper.Go

open List

/-- Lower case of an ASCII letter; other bytes are unchanged. -/
def lowerASCII (b : UInt8) : UInt8 :=
  UInt8.ofNat (asciiLower b.toNat)

theorem asciiLower_small (small : r < 0x80) : (asciiLower r : Nat) < 0x80 := by
  simp only [Rune, asciiLower]
  split <;> omega

variable {b : UInt8}

theorem lowerASCII_high (high : 0x80 ≤ b.toNat) : lowerASCII b = b := by
  have other : asciiLower b.toNat = b.toNat := by
    simp only [Rune, asciiLower]
    exact if_neg (by omega)
  rw [lowerASCII, other, UInt8.ofNat_toNat]

theorem lowerASCII_small_iff : (lowerASCII b).toNat < 0x80 ↔ b.toNat < 0x80 := by
  by_cases high : 0x80 ≤ b.toNat
  · rw [lowerASCII_high high]
  · have small : b.toNat < 0x80 := Nat.not_le.mp high
    have stays := asciiLower_small small
    rw [lowerASCII, UInt8.toNat_ofNat', Nat.mod_eq_of_lt (Nat.lt_trans stays (by decide))]
    exact iff_of_true stays small

theorem encodeRune_asciiLower (small : b.toNat < 0x80) :
    encodeRune (asciiLower b.toNat) = [lowerASCII b] := by
  rw [encodeRune, if_pos (asciiLower_small small), lowerASCII]

/-! ### What an ASCII search sees -/

/-- Two bytes that a search for ASCII text does not tell apart. -/
def Alike (x y : UInt8) : Prop :=
  x = y ∨ 0x80 ≤ x.toNat ∧ 0x80 ≤ y.toNat

theorem hasPrefix_alike (alike : List.Forall₂ Alike s t)
    (small : ∀ b ∈ word, b.toNat < 0x80) : hasPrefix s word = hasPrefix t word := by
  induction alike generalizing word with
  | nil => rfl
  | @cons x y s t same _ ih =>
    cases word with
    | nil => rfl
    | cons w word =>
      rw [forall_mem_cons] at small
      have rest := ih small.2
      simp only [hasPrefix] at rest
      simp only [hasPrefix, isPrefixOf_cons_cons, rest]
      rcases same with rfl | ⟨highX, highY⟩
      · rfl
      · have notX : (w == x) = false := beq_eq_false_iff_ne.mpr (by rintro rfl; omega)
        have notY : (w == y) = false := beq_eq_false_iff_ne.mpr (by rintro rfl; omega)
        rw [notX, notY]

theorem hasPrefix_append_of_le (fits : word.length ≤ s.length) (t : Bytes) :
    hasPrefix (s ++ t) word = hasPrefix s word := by
  rw [Bool.eq_iff_iff, hasPrefix_iff, hasPrefix_iff]
  constructor
  · intro found
    exact prefix_of_prefix_length_le found (prefix_append s t) fits
  · intro found
    exact found.trans (prefix_append s t)

private theorem alike_of_high (sameLength : s.length = t.length)
    (left : ∀ b ∈ s, 0x80 ≤ b.toNat) (right : ∀ b ∈ t, 0x80 ≤ b.toNat) :
    List.Forall₂ Alike s t := by
  induction s generalizing t with
  | nil =>
    rw [eq_nil_of_length_eq_zero sameLength.symm]
    exact .nil
  | cons x s ih =>
    obtain ⟨y, t, rfl⟩ := exists_cons_of_length_eq_add_one sameLength.symm
    rw [forall_mem_cons] at left right
    exact .cons (.inr ⟨left.1, right.1⟩)
      (ih (Nat.succ.inj sameLength) left.2 right.2)

theorem segment_high (member : part ∈ segments s)
    (high : 0x80 ≤ part.rune) : ∀ b ∈ part.bytes, 0x80 ≤ b.toNat := by
  induction s using segments_induction with
  | nil => simp at member
  | cons s nonempty ih =>
    rw [segments_cons nonempty, mem_cons] at member
    rcases member with rfl | later
    · have width := decodeRune_width nonempty
      by_cases wide : 1 < (decodeRune s).2
      · exact decodeRune_bytes_high wide
      · -- One byte: it is either ASCII, and then its own rune, or it is not.
        have one : (decodeRune s).2 = 1 := by omega
        obtain ⟨b, rest, rfl⟩ := exists_cons_of_ne_nil nonempty
        have notSmall : ¬ b.toNat < 0x80 := by
          intro small
          rw [firstSegment, decodeRune_ascii small] at high
          exact absurd small (Nat.not_lt.mpr high)
        simpa [firstSegment, one] using notSmall
    · exact ih later

section Tables

variable [CaseTables]

/-- The lower case of some characters. -/
def loweredOf (parts : List Segment) : Bytes :=
  parts.flatMap fun part => encodeRune (CaseTables.lower part.rune)

theorem toLower_eq (s : Bytes) : toLower s = loweredOf (segments s) := rfl

theorem loweredOf_append (left right : List Segment) :
    loweredOf (left ++ right) = loweredOf left ++ loweredOf right :=
  flatMap_append

theorem toLower_append (boundary : ∀ b ∈ t.head?, b.toNat < 0x80) :
    toLower (s ++ t) = toLower s ++ toLower t := by
  rw [toLower_eq, segments_append boundary, loweredOf_append]
  rfl

open CaseTables

theorem toLower_cons_ascii (small : b.toNat < 0x80) (rest : Bytes) :
    toLower (b :: rest) = lowerASCII b :: toLower rest := by
  rw [toLower_eq, segments_ascii small, loweredOf, flatMap_cons,
    lower_ascii _ small,
    encodeRune_asciiLower small]
  rfl

/-- A character whose lower case takes its place: it has as many bytes, and it is ASCII
exactly when the character is.  The second part is about bytes that are no UTF-8: any
other character that is not ASCII has more than one byte. -/
def Segment.inPlace (part : Segment) : Bool :=
  (encodeRune (CaseTables.lower part.rune)).length == part.bytes.length &&
    (decide (CaseTables.lower part.rune < 0x80) == decide (part.rune < 0x80))

/-- The number of bytes before the first character whose lower case does not take its
place. -/
def alignedLength (s : Bytes) : Nat :=
  (textOf ((segments s).takeWhile Segment.inPlace)).length

open Segment

theorem alike_of_inPlace (member : part ∈ segments s) (inPlace : part.inPlace = true) :
    List.Forall₂ Alike (encodeRune (lower part.rune))
      (part.bytes.map lowerASCII) := by
  simp only [Segment.inPlace, Bool.and_eq_true, beq_iff_eq, decide_eq_decide] at inPlace
  obtain ⟨sameLength, sameKind⟩ := inPlace
  have rune := segment_rune member
  by_cases small : part.rune < 0x80
  · have fits : (UInt8.ofNat part.rune).toNat = part.rune := by
      rw [UInt8.toNat_ofNat', Nat.mod_eq_of_lt (by simp [Rune] at small ⊢; omega)]
    have lowered := encodeRune_asciiLower (b := UInt8.ofNat part.rune) (by rw [fits]; exact small)
    rw [fits] at lowered
    rw [lower_ascii _ small, rune.2 small, lowered]
    exact .cons (.inl rfl) .nil
  · have high : 0x80 ≤ part.rune := Nat.not_lt.mp small
    have bytesHigh := segment_high member high
    have unchanged : part.bytes.map lowerASCII = part.bytes := by
      rw [map_eq_iff]
      intro i
      cases at? : part.bytes[i]? with
      | none => rfl
      | some b => rw [Option.map_some, lowerASCII_high (bytesHigh b (mem_of_getElem? at?))]
    rw [unchanged]
    refine alike_of_high sameLength (fun b inside => ?_) bytesHigh
    by_contra notHigh
    have isSmall : b.toNat < 0x80 := Nat.not_le.mp notHigh
    have isRune := ascii_mem_encodeRune isSmall (lower_le _ rune.1) inside
    exact small (sameKind.mp (by rw [isRune]; exact isSmall))

/-- Characters that are all lowered in place. -/
theorem alike_loweredOf (inside : ∀ part ∈ parts, part ∈ segments s)
    (inPlace : ∀ part ∈ parts, part.inPlace = true) :
    List.Forall₂ Alike (loweredOf parts) ((textOf parts).map lowerASCII) := by
  induction parts with
  | nil => exact .nil
  | cons part rest ih =>
    rw [forall_mem_cons] at inside inPlace
    have first := alike_of_inPlace inside.1 inPlace.1
    rw [textOf_cons, map_append]
    exact rel_append first (ih inside.2 inPlace.2)

theorem alike_takeWhile (s : Bytes) :
    List.Forall₂ Alike (loweredOf ((segments s).takeWhile inPlace))
      ((textOf ((segments s).takeWhile inPlace)).map lowerASCII) :=
  alike_loweredOf (fun _ member => (List.takeWhile_prefix _).subset member)
    fun _ member => mem_takeWhile_imp member

/-! ### Searching the lower-cased copy -/

theorem hasPrefix_toLower (small : ∀ b ∈ word, b.toNat < 0x80)
    (found : hasPrefix (s.map lowerASCII) word = true) : hasPrefix (toLower s) word = true := by
  rw [hasPrefix_iff] at found ⊢
  induction word generalizing s with
  | nil => exact nil_prefix
  | cons w word ih =>
    cases s with
    | nil => simp at found
    | cons b s =>
      rw [map_cons, cons_prefix_cons] at found
      rw [forall_mem_cons] at small
      obtain ⟨rfl, later⟩ := found
      rw [toLower_cons_ascii (lowerASCII_small_iff.mp small.1), cons_prefix_cons]
      exact ⟨rfl, ih small.2 later⟩

/-- A text in front of an ASCII byte is in step to its end, or only as far as it is by
itself; then its lower case is at least as long as that. -/
theorem alignedLength_append (boundary : ∀ b ∈ t.head?, b.toNat < 0x80) :
    alignedLength (s ++ t) = s.length + alignedLength t ∧ (toLower s).length = s.length ∨
      alignedLength (s ++ t) ≤ (toLower s).length := by
  have parts := segments_append (s := s) boundary
  by_cases inPlace : ∀ part ∈ segments s, part.inPlace = true
  · left
    have lengths := (alike_loweredOf (fun _ member => member) inPlace).length_eq
    rw [length_map, textOf_segments, ← toLower_eq] at lengths
    refine ⟨?_, lengths⟩
    rw [alignedLength, parts, takeWhile_append_of_pos inPlace, textOf_append, textOf_segments,
      length_append, ← alignedLength]
  · right
    have stops : ((segments s).takeWhile Segment.inPlace).length ≠ (segments s).length := by
      intro whole
      have all := takeWhile_eq_self_iff.mp
        ((List.takeWhile_prefix Segment.inPlace).eq_of_length whole)
      exact inPlace all
    rw [alignedLength, parts, takeWhile_append, if_neg stops]
    have lengths := (alike_takeWhile s).length_eq
    rw [length_map] at lengths
    rw [← lengths, toLower_eq]
    obtain ⟨rest, whole⟩ := takeWhile_prefix Segment.inPlace (l := segments s)
    conv_rhs => rw [← whole, loweredOf_append, length_append]
    exact Nat.le_add_right _ _

/-- Every place of the word in the lower-cased copy lies in the part that is in step. -/
def InStep (s word : Bytes) : Prop :=
  ∀ i, hasPrefix ((toLower s).drop i) word = true → i + word.length ≤ alignedLength s

variable {s word : Bytes}

/-- Within the part in step the copy has the word exactly where the text has it. -/
private theorem hasPrefix_drop_aligned (small : ∀ b ∈ word, b.toNat < 0x80)
    (within : i + word.length ≤ alignedLength s) :
    hasPrefix ((toLower s).drop i) word = hasPrefix ((s.map lowerASCII).drop i) word := by
  obtain ⟨rest, whole⟩ := takeWhile_prefix inPlace (l := segments s)
  have alike := alike_takeWhile s
  rw [alignedLength] at within
  have lengths := alike.length_eq
  rw [length_map] at lengths
  have text : s = textOf ((segments s).takeWhile inPlace) ++ textOf rest := by
    rw [← textOf_append, whole, textOf_segments]
  have copy : toLower s =
      loweredOf ((segments s).takeWhile inPlace) ++ loweredOf rest := by
    rw [← loweredOf_append, whole, toLower_eq]
  have mapped : s.map lowerASCII =
      (textOf ((segments s).takeWhile inPlace)).map lowerASCII ++
        (textOf rest).map lowerASCII := by
    rw [← map_append, ← text]
  rw [copy, mapped, drop_append_of_le_length (by omega),
    drop_append_of_le_length (by rw [length_map]; omega),
    hasPrefix_append_of_le (by rw [length_drop]; omega),
    hasPrefix_append_of_le (by rw [length_drop, length_map]; omega)]
  exact hasPrefix_alike (forall₂_drop i alike) small

/-- A place of the word in the text is in the part in step, if all its places in the
copy are. -/
theorem InStep.place (inStep : InStep s word) (nonempty : word ≠ []) (whole : s = front ++ back)
    (found : hasPrefix (toLower back) word = true) (boundary : ∀ b ∈ back.head?, b.toNat < 0x80) :
    (toLower front).length = front.length ∧ front.length + word.length ≤ alignedLength s := by
  have positive := length_pos_iff.mpr nonempty
  subst whole
  have place := inStep (toLower front).length (by
    rw [toLower_append boundary, drop_left]
    exact found)
  rcases alignedLength_append (s := front) boundary with ⟨_, sameLength⟩ | short
  · exact ⟨sameLength, by rw [← sameLength]; exact place⟩
  · omega

/-- The copy has the word exactly where the text has it in some ASCII letter case. -/
theorem hasPrefix_drop_toLower (inStep : InStep s word) (nonempty : word ≠ [])
    (small : ∀ b ∈ word, b.toNat < 0x80) (i : Nat) :
    hasPrefix ((toLower s).drop i) word = hasPrefix ((s.map lowerASCII).drop i) word := by
  by_cases within : i + word.length ≤ alignedLength s
  · exact hasPrefix_drop_aligned small within
  · have notCopy : hasPrefix ((toLower s).drop i) word = false :=
      Bool.eq_false_iff.mpr fun found => within (inStep i found)
    have notText : hasPrefix ((s.map lowerASCII).drop i) word = false := by
      rw [Bool.eq_false_iff]
      intro found
      rw [← map_drop] at found
      -- The word starts with an ASCII byte, so the text is cut in front of it.
      have starts : ∃ b rest, s.drop i = b :: rest ∧ b.toNat < 0x80 := by
        obtain ⟨w, tail, rfl⟩ := exists_cons_of_ne_nil nonempty
        cases back : s.drop i with
        | nil => simp [back, hasPrefix] at found
        | cons b rest =>
          rw [back, hasPrefix_iff, map_cons, cons_prefix_cons] at found
          refine ⟨b, rest, rfl, lowerASCII_small_iff.mp ?_⟩
          rw [← found.1]
          exact small w (by simp)
      obtain ⟨b, rest, back, isSmall⟩ := starts
      have inside : i < s.length := by
        by_contra outside
        rw [drop_eq_nil_of_le (Nat.not_lt.mp outside)] at back
        cases back
      have place := inStep.place nonempty (take_append_drop i s).symm
        (hasPrefix_toLower small found) (by simp [back, isSmall])
      rw [length_take, Nat.min_eq_left (Nat.le_of_lt inside)] at place
      exact within place.2
    rw [notCopy, notText]

end Tables

end Gossipper.Go
