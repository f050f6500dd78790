/-
Module: Gossipper.Go.Utf8
Purpose: Encoding and decoding of a rune are inverse to each other, so a text written
  rune by rune is read back rune by rune.
Trusted boundary: none
Main exports: decodeRune_encodeRune, segments_encode, segments_reencode, trimSpace_reencode
-/
import Gossipper.Go.Quote

namespace Gossipper.Go

open List Option

private theorem toNat_byte (fits : n < 0x100) : (UInt8.ofNat n).toNat = n := by
  rw [UInt8.toNat_ofNat', Nat.mod_eq_of_lt (by simpa using fits)]

private theorem byte_eq (same : n = b.toNat) : UInt8.ofNat n = b := by
  rw [same, UInt8.ofNat_toNat]

/-! ### The encodings by width -/

variable {r : Nat}

theorem validRune_iff :
    validRune r = true ↔ r < 0xD800 ∨ (0xDFFF < r ∧ r ≤ 0x10FFFF) := by
  simp only [validRune, maxRune, Bool.or_eq_true, Bool.and_eq_true]
  exact or_congr decide_eq_true_iff (and_congr decide_eq_true_iff decide_eq_true_iff)

theorem encodeRune_one (high : r < 0x80) : encodeRune r = [UInt8.ofNat r] :=
  if_pos high

theorem encodeRune_two (low : 0x80 ≤ r) (high : r < 0x800) :
    encodeRune r = [UInt8.ofNat (0xC0 + r / 0x40), UInt8.ofNat (0x80 + r % 0x40)] := by
  rw [encodeRune, if_neg (Nat.not_lt.mpr low), if_pos high]

theorem encodeRune_three (low : 0x800 ≤ r) (high : r < 0x10000) :
    encodeRune r = [UInt8.ofNat (0xE0 + r / 0x1000), UInt8.ofNat (0x80 + r / 0x40 % 0x40),
      UInt8.ofNat (0x80 + r % 0x40)] := by
  have notOne : 0x80 ≤ r := by omega
  rw [encodeRune, if_neg (Nat.not_lt.mpr notOne), if_neg (Nat.not_lt.mpr low), if_pos high]

theorem encodeRune_four (low : 0x10000 ≤ r) :
    encodeRune r = [UInt8.ofNat (0xF0 + r / 0x40000), UInt8.ofNat (0x80 + r / 0x1000 % 0x40),
      UInt8.ofNat (0x80 + r / 0x40 % 0x40), UInt8.ofNat (0x80 + r % 0x40)] := by
  have notOne : 0x80 ≤ r := by omega
  have notTwo : 0x800 ≤ r := by omega
  rw [encodeRune, if_neg (Nat.not_lt.mpr notOne), if_neg (Nat.not_lt.mpr notTwo),
    if_neg (Nat.not_lt.mpr low)]

/-! ### Encoding what was decoded -/

variable {s : Bytes}

theorem decodeTwo_encodes (decoded : decodeTwo s = some r) :
    validRune r = true ∧ encodeRune r = s.take 2 := by
  match s with
  | [] | [_] => cases decoded
  | b₀ :: b₁ :: rest =>
    simp only [Rune, decodeTwo, isContinuation, ite_none_right_eq_some,
      Option.some.injEq, Bool.and_eq_true, decide_eq_true_eq] at decoded
    obtain ⟨⟨low, high, continues⟩, value⟩ := decoded
    refine ⟨validRune_iff.mpr (by omega), ?_⟩
    rw [encodeRune_two (by omega) (by omega), byte_eq (b := b₀) (by omega),
      byte_eq (b := b₁) (by omega)]
    rfl

theorem decodeThree_encodes (decoded : decodeThree s = some r) :
    validRune r = true ∧ encodeRune r = s.take 3 := by
  match s with
  | [] | [_] | [_, _] => cases decoded
  | b₀ :: b₁ :: b₂ :: rest =>
    simp only [Rune, decodeThree, acceptsSecondOfThree_iff, isContinuation,
      ite_none_right_eq_some, Option.some.injEq, Bool.and_eq_true, decide_eq_true_eq]
      at decoded
    obtain ⟨⟨low, high, second, continues⟩, value⟩ := decoded
    refine ⟨validRune_iff.mpr (by omega), ?_⟩
    rw [encodeRune_three (by omega) (by omega), byte_eq (b := b₀) (by omega),
      byte_eq (b := b₁) (by omega), byte_eq (b := b₂) (by omega)]
    rfl

theorem decodeFour_encodes (decoded : decodeFour s = some r) :
    validRune r = true ∧ encodeRune r = s.take 4 := by
  match s with
  | [] | [_] | [_, _] | [_, _, _] => cases decoded
  | b₀ :: b₁ :: b₂ :: b₃ :: rest =>
    simp only [Rune, decodeFour, acceptsSecondOfFour_iff, isContinuation,
      ite_none_right_eq_some, Option.some.injEq, Bool.and_eq_true, decide_eq_true_eq]
      at decoded
    obtain ⟨⟨low, high, second, third, fourth⟩, value⟩ := decoded
    refine ⟨validRune_iff.mpr (by omega), ?_⟩
    rw [encodeRune_four (by omega), byte_eq (b := b₀) (by omega), byte_eq (b := b₁) (by omega),
      byte_eq (b := b₂) (by omega), byte_eq (b := b₃) (by omega)]
    rfl

/-- What a segment can be: an ASCII character, the encoding of another character, or a
byte that starts no valid sequence. -/
inductive SegmentShape (part : Segment) : Prop where
  | ascii : part.rune < 0x80 → part.bytes = encodeRune part.rune → SegmentShape part
  | wide : 0x80 ≤ part.rune → validRune part.rune = true → part.bytes = encodeRune part.rune →
      1 < part.bytes.length → SegmentShape part
  | invalid (b : UInt8) : part.rune = runeError → part.bytes = [b] → SegmentShape part

theorem firstSegment_shape (nonempty : s ≠ []) : SegmentShape (firstSegment s) := by
  obtain ⟨b, rest, rfl⟩ := exists_cons_of_ne_nil nonempty
  by_cases small : b.toNat < 0x80
  · refine .ascii ?_ ?_
    · simpa [firstSegment, decodeRune_ascii small] using small
    · simp [firstSegment, decodeRune_ascii small, encodeRune, small]
  · have high : 0x80 ≤ b.toNat := by omega
    have range := decodeRune_range high rest
    rcases decodeRune_high high rest with
      ⟨r, two, result⟩ | ⟨r, _, three, result⟩ | ⟨r, _, _, four, result⟩ | ⟨_, _, _, result⟩
    · obtain ⟨valid, encodes⟩ := decodeTwo_encodes two
      have length := (decodeTwo_eq_some two).1
      rw [result] at range
      simp only [firstSegment, result]
      exact .wide range.1 valid encodes.symm (by simp only [length_take]; omega)
    · obtain ⟨valid, encodes⟩ := decodeThree_encodes three
      have length := (decodeThree_eq_some three).1
      rw [result] at range
      simp only [firstSegment, result]
      exact .wide range.1 valid encodes.symm (by simp only [length_take]; omega)
    · obtain ⟨valid, encodes⟩ := decodeFour_encodes four
      have length := (decodeFour_eq_some four).1
      rw [result] at range
      simp only [firstSegment, result]
      exact .wide range.1 valid encodes.symm (by simp only [length_take]; omega)
    · simp only [firstSegment, result]
      exact .invalid b rfl rfl

theorem segment_shape (member : part ∈ segments s) :
    SegmentShape part := by
  induction s using segments_induction with
  | nil => cases member
  | cons s nonempty ih =>
    rw [segments_cons nonempty, mem_cons] at member
    rcases member with rfl | later
    · exact firstSegment_shape nonempty
    · exact ih later

theorem SegmentShape.validRune (shape : SegmentShape part) :
    validRune part.rune = true := by
  cases shape with
  | ascii small _ =>
    simp only [Go.validRune, Bool.or_eq_true, decide_eq_true_eq]
    exact .inl (Nat.lt_trans small (by decide))
  | wide _ valid _ _ => exact valid
  | invalid b isError _ =>
    rw [isError]
    decide

/-! ### Decoding what was encoded -/

theorem decodeTwo_encodeRune (low : 0x80 ≤ r) (high : r < 0x800) (rest : Bytes) :
    decodeTwo (encodeRune r ++ rest) = some r := by
  have first : (UInt8.ofNat (0xC0 + r / 0x40)).toNat = 0xC0 + r / 0x40 := toNat_byte (by omega)
  have second : (UInt8.ofNat (0x80 + r % 0x40)).toNat = 0x80 + r % 0x40 := toNat_byte (by omega)
  rw [encodeRune_two low high]
  simp only [Rune, cons_append, decodeTwo, isContinuation, first, second,
    ite_none_right_eq_some, Option.some.injEq, Bool.and_eq_true, decide_eq_true_eq]
  omega

theorem decodeThree_encodeRune (valid : validRune r = true) (low : 0x800 ≤ r)
    (high : r < 0x10000) (rest : Bytes) : decodeThree (encodeRune r ++ rest) = some r := by
  rw [validRune_iff] at valid
  have first : (UInt8.ofNat (0xE0 + r / 0x1000)).toNat = 0xE0 + r / 0x1000 :=
    toNat_byte (by omega)
  have second : (UInt8.ofNat (0x80 + r / 0x40 % 0x40)).toNat = 0x80 + r / 0x40 % 0x40 :=
    toNat_byte (by omega)
  have third : (UInt8.ofNat (0x80 + r % 0x40)).toNat = 0x80 + r % 0x40 := toNat_byte (by omega)
  rw [encodeRune_three low high]
  simp only [Rune, cons_append, decodeThree, acceptsSecondOfThree_iff, isContinuation, first,
    second, third, ite_none_right_eq_some, Option.some.injEq, Bool.and_eq_true,
    decide_eq_true_eq]
  omega

theorem decodeFour_encodeRune (low : 0x10000 ≤ r) (high : r ≤ 0x10FFFF)
    (rest : Bytes) : decodeFour (encodeRune r ++ rest) = some r := by
  have first : (UInt8.ofNat (0xF0 + r / 0x40000)).toNat = 0xF0 + r / 0x40000 :=
    toNat_byte (by omega)
  have second : (UInt8.ofNat (0x80 + r / 0x1000 % 0x40)).toNat = 0x80 + r / 0x1000 % 0x40 :=
    toNat_byte (by omega)
  have third : (UInt8.ofNat (0x80 + r / 0x40 % 0x40)).toNat = 0x80 + r / 0x40 % 0x40 :=
    toNat_byte (by omega)
  have fourth : (UInt8.ofNat (0x80 + r % 0x40)).toNat = 0x80 + r % 0x40 := toNat_byte (by omega)
  rw [encodeRune_four low]
  simp only [Rune, cons_append, decodeFour, acceptsSecondOfFour_iff, isContinuation, first,
    second, third, fourth, ite_none_right_eq_some, Option.some.injEq, Bool.and_eq_true,
    decide_eq_true_eq]
  omega

theorem decodeRune_encodeRune (valid : validRune r = true) (rest : Bytes) :
    decodeRune (encodeRune r ++ rest) = (r, (encodeRune r).length) := by
  have bounds := validRune_iff.mp valid
  by_cases one : r < 0x80
  · have byte : (UInt8.ofNat r).toNat = r := toNat_byte (by omega)
    rw [encodeRune_one one, singleton_append, decodeRune_ascii (by omega), byte]
    rfl
  by_cases two : r < 0x800
  · have decoded := decodeTwo_encodeRune (by omega) two rest
    rw [encodeRune_two (by omega) two] at decoded ⊢
    have first : (UInt8.ofNat (0xC0 + r / 0x40)).toNat = 0xC0 + r / 0x40 := toNat_byte (by omega)
    simp only [cons_append, nil_append] at decoded ⊢
    rw [decodeRune, if_neg (by omega), decoded]
    rfl
  by_cases three : r < 0x10000
  · have decoded := decodeThree_encodeRune valid (by omega) three rest
    rw [encodeRune_three (by omega) three] at decoded ⊢
    have first : (UInt8.ofNat (0xE0 + r / 0x1000)).toNat = 0xE0 + r / 0x1000 :=
      toNat_byte (by omega)
    simp only [cons_append, nil_append] at decoded ⊢
    have notTwo : decodeTwo (UInt8.ofNat (0xE0 + r / 0x1000) ::
        UInt8.ofNat (0x80 + r / 0x40 % 0x40) :: UInt8.ofNat (0x80 + r % 0x40) :: rest) = none := by
      rw [decodeTwo, if_neg]
      omega
    rw [decodeRune, if_neg (by omega), notTwo, decoded]
    rfl
  · have decoded := decodeFour_encodeRune (r := r) (by omega) (by omega) rest
    rw [encodeRune_four (by omega)] at decoded ⊢
    have first : (UInt8.ofNat (0xF0 + r / 0x40000)).toNat = 0xF0 + r / 0x40000 :=
      toNat_byte (by omega)
    simp only [cons_append, nil_append] at decoded ⊢
    -- The leading bytes of the three widths lie in disjoint ranges.
    have notTwo : decodeTwo (UInt8.ofNat (0xF0 + r / 0x40000) ::
        UInt8.ofNat (0x80 + r / 0x1000 % 0x40) :: UInt8.ofNat (0x80 + r / 0x40 % 0x40) ::
        UInt8.ofNat (0x80 + r % 0x40) :: rest) = none := by
      rw [decodeTwo, if_neg]
      omega
    have notThree : decodeThree (UInt8.ofNat (0xF0 + r / 0x40000) ::
        UInt8.ofNat (0x80 + r / 0x1000 % 0x40) :: UInt8.ofNat (0x80 + r / 0x40 % 0x40) ::
        UInt8.ofNat (0x80 + r % 0x40) :: rest) = none := by
      rw [decodeThree, if_neg]
      omega
    rw [decodeRune, if_neg (by omega), notTwo, notThree, decoded]
    rfl

/-! ### Texts that were written rune by rune -/

theorem encodeRune_ne_nil (r : Rune) : encodeRune r ≠ [] := by
  unfold encodeRune
  repeat' split
  all_goals exact cons_ne_nil _ _

theorem encodeRune_length_le (r : Rune) : (encodeRune r).length ≤ 4 := by
  unfold encodeRune
  repeat' split
  all_goals simp

/-- The segment that a written rune is read back as. -/
def Segment.of (r : Rune) : Segment :=
  { rune := r, bytes := encodeRune r }

theorem segments_encode {runes : List Rune} (valid : ∀ r ∈ runes, validRune r = true) :
    segments (runes.flatMap encodeRune) = runes.map Segment.of := by
  induction runes with
  | nil => rfl
  | cons r runes ih =>
    rw [forall_mem_cons] at valid
    have nonempty : encodeRune r ++ runes.flatMap encodeRune ≠ [] := by
      simp [encodeRune_ne_nil]
    rw [flatMap_cons, segments_cons nonempty, firstSegment,
      decodeRune_encodeRune valid.1, drop_left, take_left,
      ih valid.2]
    rfl

/-- A text that was written rune by rune. -/
def Written (s : Bytes) : Prop :=
  ∃ runes : List Rune, (∀ r ∈ runes, validRune r = true) ∧ s = runes.flatMap encodeRune

theorem Written.append (left : Written s) (right : Written t) :
    Written (s ++ t) := by
  obtain ⟨runes, valid, rfl⟩ := left
  obtain ⟨others, othersValid, rfl⟩ := right
  refine ⟨runes ++ others, ?_, flatMap_append.symm⟩
  rw [forall_mem_append]
  exact ⟨valid, othersValid⟩

theorem Written.rune (valid : validRune r = true) : Written (encodeRune r) :=
  ⟨[r], by simpa using valid, by simp⟩

theorem Written.ascii (small : ∀ b ∈ s, b.toNat < 0x80) : Written s := by
  induction s with
  | nil => exact ⟨[], by simp, rfl⟩
  | cons b rest ih =>
    rw [forall_mem_cons] at small
    have byte : encodeRune b.toNat = [b] := by
      rw [encodeRune_one small.1, UInt8.ofNat_toNat]
    have first : Written [b] := by
      rw [← byte]
      exact .rune (validRune_iff.mpr (by omega))
    exact first.append (ih small.2)

theorem Written.flatMap {α : Type} {f : α → Bytes} {xs : List α}
    (each : ∀ x ∈ xs, Written (f x)) : Written (xs.flatMap f) := by
  induction xs with
  | nil => exact .ascii (by simp)
  | cons x xs ih =>
    rw [forall_mem_cons] at each
    rw [flatMap_cons]
    exact each.1.append (ih each.2)

/-- What is written when the runes of a text are written one by one: an invalid byte
becomes the error rune. -/
def reencode (s : Bytes) : Bytes :=
  (segments s).flatMap fun part => encodeRune part.rune

theorem segments_reencode (s : Bytes) :
    segments (reencode s) = (segments s).map fun part => Segment.of part.rune := by
  have asRunes : reencode s = ((segments s).map Segment.rune).flatMap encodeRune := by
    rw [reencode, flatMap_map]
  rw [asRunes, segments_encode, List.map_map]
  · rfl
  · intro r member
    obtain ⟨part, inside, rfl⟩ := List.mem_map.mp member
    exact (segment_shape inside).validRune

theorem Written.reencode (written : Written s) : reencode s = s := by
  obtain ⟨runes, valid, rfl⟩ := written
  rw [Go.reencode, segments_encode valid, flatMap_map]
  rfl

theorem reencode_append (boundary : ∀ b ∈ t.head?, b.toNat < 0x80) :
    reencode (s ++ t) = reencode s ++ reencode t := by
  rw [reencode, segments_append boundary, flatMap_append]
  rfl

private theorem rdropWhile_map {α β : Type} (p : β → Bool) (f : α → β) (xs : List α) :
    (xs.map f).rdropWhile p = (xs.rdropWhile (p ∘ f)).map f := by
  rw [List.rdropWhile, ← map_reverse, dropWhile_map, ← map_reverse]
  rfl

theorem trimSpace_reencode (s : Bytes) : trimSpace (reencode s) = reencode (trimSpace s) := by
  have sameSpace : Segment.isSpace ∘ (fun part : Segment => Segment.of part.rune) =
      Segment.isSpace := rfl
  rw [trimSpace, segments_reencode, dropWhile_map, rdropWhile_map, sameSpace, reencode,
    trimSpace, segments_of_isInfix (trimmed_isInfix s), textOf, flatMap_map]
  rfl

end Gossipper.Go
