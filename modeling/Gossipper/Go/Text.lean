/-
Module: Gossipper.Go.Text
Purpose: The `strings` functions that read their argument as UTF-8: trimming,
  splitting into fields, case mapping and case folding.  Invalid bytes decode
  to the error rune with width one, as in Go, so every byte sequence has a
  reading.
Trusted boundary: the case tables of non-ASCII letters are a parameter.  They
  change with the Unicode version of the Go release; only their ASCII part is
  fixed here.
Main exports: CaseTables, decodeRune, segments, trimSpace, fields, toLower,
  toUpper, equalFold
-/
import Gossipper.Go.Bytes

namespace Gossipper.Go

open List Option

/-- A Unicode code point. -/
abbrev Rune := Nat

/-- `utf8.RuneError`, what an invalid byte decodes to. -/
def runeError : Rune := 0xFFFD

/-- `unicode.MaxRune`. -/
def maxRune : Rune := 0x10FFFF

/-- Lower case of an ASCII rune; other runes are unchanged. -/
def asciiLower (r : Rune) : Rune :=
  if 0x41 ≤ r ∧ r ≤ 0x5A then r + 0x20 else r

/-- Upper case of an ASCII rune; other runes are unchanged. -/
def asciiUpper (r : Rune) : Rune :=
  if 0x61 ≤ r ∧ r ≤ 0x7A then r - 0x20 else r

/-- The tables of package `unicode` that case mapping reads.  `fold` is the
canonical member of a rune's simple-folding orbit, so two runes are equal under
`unicode.SimpleFold` exactly when it maps them to the same rune.  Case mapping
stays within the code points, and control characters are in no case pair. -/
class CaseTables where
  lower : Rune → Rune
  upper : Rune → Rune
  fold : Rune → Rune
  lower_ascii : ∀ r, r < 0x80 → lower r = asciiLower r
  upper_ascii : ∀ r, r < 0x80 → upper r = asciiUpper r
  fold_ascii : ∀ r, r < 0x80 → fold r = asciiLower r
  lower_le : ∀ r, r ≤ maxRune → lower r ≤ maxRune
  upper_le : ∀ r, r ≤ maxRune → upper r ≤ maxRune
  lower_control : ∀ r, lower r < 0x20 → lower r = r
  upper_control : ∀ r, upper r < 0x20 → upper r = r

/-- Tables that know the ASCII letters only.  They agree with every release of
the real ones on ASCII text. -/
@[reducible] def CaseTables.asciiOnly : CaseTables where
  lower := asciiLower
  upper := asciiUpper
  fold := asciiLower
  lower_ascii _ _ := rfl
  upper_ascii _ _ := rfl
  fold_ascii _ _ := rfl
  lower_le r bound := by
    simp only [Rune, maxRune, asciiLower] at bound ⊢
    split <;> omega
  upper_le r bound := by
    simp only [Rune, maxRune, asciiUpper] at bound ⊢
    split <;> omega
  lower_control r control := by
    simp only [Rune, asciiLower] at control ⊢
    split at control
    · omega
    · rw [if_neg ‹_›]
  upper_control r control := by
    simp only [Rune, asciiUpper] at control ⊢
    split at control
    · omega
    · rw [if_neg ‹_›]

/-- `unicode.IsSpace`. -/
def isSpace (r : Rune) : Bool :=
  (0x09 ≤ r && r ≤ 0x0D) || r == 0x20 || r == 0x85 || r == 0xA0 || r == 0x1680 ||
    (0x2000 ≤ r && r ≤ 0x200A) || r == 0x2028 || r == 0x2029 || r == 0x202F ||
    r == 0x205F || r == 0x3000

/-- A continuation byte of a UTF-8 sequence. -/
def isContinuation (b : UInt8) : Bool :=
  0x80 ≤ b.toNat && b.toNat ≤ 0xBF

/-- The second bytes that may follow the first byte of a three-byte sequence:
no overlong encodings and no surrogates. -/
def acceptsSecondOfThree (first second : UInt8) : Bool :=
  if first = 0xE0 then 0xA0 ≤ second.toNat && second.toNat ≤ 0xBF
  else if first = 0xED then 0x80 ≤ second.toNat && second.toNat ≤ 0x9F
  else isContinuation second

/-- The second bytes that may follow the first byte of a four-byte sequence. -/
def acceptsSecondOfFour (first second : UInt8) : Bool :=
  if first = 0xF0 then 0x90 ≤ second.toNat && second.toNat ≤ 0xBF
  else if first = 0xF4 then 0x80 ≤ second.toNat && second.toNat ≤ 0x8F
  else isContinuation second

/-- A two-byte sequence at the front. -/
def decodeTwo : Bytes → Option Rune
  | b₀ :: b₁ :: _ =>
    if 0xC2 ≤ b₀.toNat ∧ b₀.toNat ≤ 0xDF ∧ isContinuation b₁ then
      some (b₀.toNat % 0x20 * 0x40 + b₁.toNat % 0x40)
    else none
  | _ => none

/-- A three-byte sequence at the front. -/
def decodeThree : Bytes → Option Rune
  | b₀ :: b₁ :: b₂ :: _ =>
    if 0xE0 ≤ b₀.toNat ∧ b₀.toNat ≤ 0xEF ∧ acceptsSecondOfThree b₀ b₁ ∧
        isContinuation b₂ then
      some (b₀.toNat % 0x10 * 0x1000 + b₁.toNat % 0x40 * 0x40 + b₂.toNat % 0x40)
    else none
  | _ => none

/-- A four-byte sequence at the front. -/
def decodeFour : Bytes → Option Rune
  | b₀ :: b₁ :: b₂ :: b₃ :: _ =>
    if 0xF0 ≤ b₀.toNat ∧ b₀.toNat ≤ 0xF4 ∧ acceptsSecondOfFour b₀ b₁ ∧
        isContinuation b₂ ∧ isContinuation b₃ then
      some (b₀.toNat % 8 * 0x40000 + b₁.toNat % 0x40 * 0x1000 +
        b₂.toNat % 0x40 * 0x40 + b₃.toNat % 0x40)
    else none
  | _ => none

/-- `utf8.DecodeRune`: the first rune and its width.  A byte that starts no
valid sequence decodes to the error rune with width one. -/
def decodeRune : Bytes → Rune × Nat
  | [] => (runeError, 0)
  | b :: rest =>
    if b.toNat < 0x80 then (b.toNat, 1)
    else
      match decodeTwo (b :: rest), decodeThree (b :: rest), decodeFour (b :: rest) with
      | some r, _, _ => (r, 2)
      | _, some r, _ => (r, 3)
      | _, _, some r => (r, 4)
      | _, _, _ => (runeError, 1)

/-- `utf8.AppendRune` on a valid code point. -/
def encodeRune (r : Rune) : Bytes :=
  if r < 0x80 then [UInt8.ofNat r]
  else if r < 0x800 then [UInt8.ofNat (0xC0 + r / 0x40), UInt8.ofNat (0x80 + r % 0x40)]
  else if r < 0x10000 then
    [UInt8.ofNat (0xE0 + r / 0x1000), UInt8.ofNat (0x80 + r / 0x40 % 0x40),
      UInt8.ofNat (0x80 + r % 0x40)]
  else
    [UInt8.ofNat (0xF0 + r / 0x40000), UInt8.ofNat (0x80 + r / 0x1000 % 0x40),
      UInt8.ofNat (0x80 + r / 0x40 % 0x40), UInt8.ofNat (0x80 + r % 0x40)]

/-- One iteration of `for _, r := range s`: a rune with the bytes it covers. -/
structure Segment where
  rune : Rune
  bytes : Bytes
deriving DecidableEq, Repr

/-- A segment that trimming removes and that separates fields. -/
def Segment.isSpace (part : Segment) : Bool :=
  Go.isSpace part.rune

/-- The first segment of a non-empty string. -/
def firstSegment (s : Bytes) : Segment :=
  { rune := (decodeRune s).1, bytes := s.take (decodeRune s).2 }

/-- The segments of a string, bounded by `fuel`. -/
def segmentsWithin : Nat → Bytes → List Segment
  | 0, _ => []
  | _ + 1, [] => []
  | fuel + 1, b :: rest =>
    firstSegment (b :: rest) ::
      segmentsWithin fuel ((b :: rest).drop (decodeRune (b :: rest)).2)

/-- A string as `range` visits it. -/
def segments (s : Bytes) : List Segment :=
  segmentsWithin s.length s

/-- The bytes of a list of segments. -/
def textOf (parts : List Segment) : Bytes :=
  parts.flatMap Segment.bytes

/-- `strings.TrimSpace`. -/
def trimSpace (s : Bytes) : Bytes :=
  textOf (((segments s).dropWhile Segment.isSpace).rdropWhile Segment.isSpace)

/-- The scan of `strings.Fields`: `field` is the field being read, in reverse. -/
def fieldsFrom : List Segment → List Segment → List Bytes
  | field, [] => if field = [] then [] else [textOf field.reverse]
  | field, part :: rest =>
    if part.isSpace then
      if field = [] then fieldsFrom [] rest
      else textOf field.reverse :: fieldsFrom [] rest
    else fieldsFrom (part :: field) rest

/-- `strings.Fields`. -/
def fields (s : Bytes) : List Bytes :=
  fieldsFrom [] (segments s)

section Case

variable [CaseTables]

/-- `strings.ToLower`. -/
def toLower (s : Bytes) : Bytes :=
  (segments s).flatMap fun part => encodeRune (CaseTables.lower part.rune)

/-- `strings.ToUpper`. -/
def toUpper (s : Bytes) : Bytes :=
  (segments s).flatMap fun part => encodeRune (CaseTables.upper part.rune)

/-- The runes of a string up to simple case folding. -/
def foldKey (s : Bytes) : List Rune :=
  (segments s).map fun part => CaseTables.fold part.rune

/-- `strings.EqualFold`. -/
def equalFold (s t : Bytes) : Bool :=
  foldKey s == foldKey t

@[simp] theorem equalFold_refl (s : Bytes) : equalFold s s = true := by
  simp [equalFold]

theorem equalFold_iff : equalFold s t = true ↔ foldKey s = foldKey t := by
  simp [equalFold]

end Case

/-! ### Decoding -/

variable {b : UInt8}

theorem decodeRune_ascii (small : b.toNat < 0x80) (rest : Bytes) :
    decodeRune (b :: rest) = (b.toNat, 1) := by
  simp [decodeRune, small]

theorem isContinuation_high (continuation : isContinuation b = true) :
    0x80 ≤ b.toNat := by
  simp only [isContinuation, Bool.and_eq_true, decide_eq_true_eq] at continuation
  exact continuation.1

theorem acceptsSecondOfThree_iff :
    acceptsSecondOfThree first second = true ↔
      0x80 ≤ second.toNat ∧ second.toNat ≤ 0xBF ∧
        (first.toNat = 0xE0 → 0xA0 ≤ second.toNat) ∧
        (first.toNat = 0xED → second.toNat ≤ 0x9F) := by
  simp only [acceptsSecondOfThree, isContinuation, ← UInt8.toNat_inj, UInt8.reduceToNat]
  repeat' split
  all_goals
    simp only [Bool.and_eq_true, decide_eq_true_eq]
    omega

theorem acceptsSecondOfFour_iff :
    acceptsSecondOfFour first second = true ↔
      0x80 ≤ second.toNat ∧ second.toNat ≤ 0xBF ∧
        (first.toNat = 0xF0 → 0x90 ≤ second.toNat) ∧
        (first.toNat = 0xF4 → second.toNat ≤ 0x8F) := by
  simp only [acceptsSecondOfFour, isContinuation, ← UInt8.toNat_inj, UInt8.reduceToNat]
  repeat' split
  all_goals
    simp only [Bool.and_eq_true, decide_eq_true_eq]
    omega

variable {s : Bytes} {r : Rune}

theorem decodeTwo_eq_some (decoded : decodeTwo s = some r) :
    2 ≤ s.length ∧ (∀ b ∈ s.take 2, 0x80 ≤ b.toNat) ∧
      ∀ t, decodeTwo (s.take 2 ++ t) = some r := by
  match s with
  | [] | [_] => simp [decodeTwo] at decoded
  | b₀ :: b₁ :: rest =>
    simp only [decodeTwo, ite_none_right_eq_some] at decoded
    obtain ⟨⟨low, high, continuation⟩, value⟩ := decoded
    have second := isContinuation_high continuation
    refine ⟨by simp, ?_, fun t => ?_⟩
    · simp only [take_succ_cons, take_zero, forall_mem_cons]
      exact ⟨by omega, second, by simp⟩
    · simp [decodeTwo, low, high, continuation, value]

theorem decodeThree_eq_some (decoded : decodeThree s = some r) :
    3 ≤ s.length ∧ (∀ b ∈ s.take 3, 0x80 ≤ b.toNat) ∧
      ∀ t, decodeThree (s.take 3 ++ t) = some r := by
  match s with
  | [] | [_] | [_, _] => simp [decodeThree] at decoded
  | b₀ :: b₁ :: b₂ :: rest =>
    simp only [decodeThree, ite_none_right_eq_some] at decoded
    obtain ⟨⟨low, high, accepted, continuation⟩, value⟩ := decoded
    have second := (acceptsSecondOfThree_iff.mp accepted).1
    have third := isContinuation_high continuation
    refine ⟨by simp, ?_, fun t => ?_⟩
    · simp only [take_succ_cons, take_zero, forall_mem_cons]
      exact ⟨by omega, second, third, by simp⟩
    · simp [decodeThree, low, high, accepted, continuation, value]

theorem decodeFour_eq_some (decoded : decodeFour s = some r) :
    4 ≤ s.length ∧ (∀ b ∈ s.take 4, 0x80 ≤ b.toNat) ∧
      ∀ t, decodeFour (s.take 4 ++ t) = some r := by
  match s with
  | [] | [_] | [_, _] | [_, _, _] => simp [decodeFour] at decoded
  | b₀ :: b₁ :: b₂ :: b₃ :: rest =>
    simp only [decodeFour, ite_none_right_eq_some] at decoded
    obtain ⟨⟨low, high, accepted, third, fourth⟩, value⟩ := decoded
    have second := (acceptsSecondOfFour_iff.mp accepted).1
    refine ⟨by simp, ?_, fun t => ?_⟩
    · simp only [take_succ_cons, take_zero, forall_mem_cons]
      exact ⟨by omega, second, isContinuation_high third, isContinuation_high fourth,
        by simp⟩
    · simp [decodeFour, low, high, accepted, third, fourth, value]

/-- What one decoding step can do on a byte that is not ASCII. -/
theorem decodeRune_high (high : 0x80 ≤ b.toNat) (rest : Bytes) :
    (∃ r, decodeTwo (b :: rest) = some r ∧ decodeRune (b :: rest) = (r, 2)) ∨
    (∃ r, decodeTwo (b :: rest) = none ∧ decodeThree (b :: rest) = some r ∧
      decodeRune (b :: rest) = (r, 3)) ∨
    (∃ r, decodeTwo (b :: rest) = none ∧ decodeThree (b :: rest) = none ∧
      decodeFour (b :: rest) = some r ∧ decodeRune (b :: rest) = (r, 4)) ∨
    (decodeTwo (b :: rest) = none ∧ decodeThree (b :: rest) = none ∧
      decodeFour (b :: rest) = none ∧ decodeRune (b :: rest) = (runeError, 1)) := by
  have notAscii : ¬ b.toNat < 0x80 := by omega
  cases two : decodeTwo (b :: rest) with
  | some r => simp [decodeRune, notAscii, two]
  | none =>
    cases three : decodeThree (b :: rest) with
    | some r => simp [decodeRune, notAscii, two, three]
    | none =>
      cases four : decodeFour (b :: rest) with
      | some r | none => simp [decodeRune, notAscii, two, three, four]

theorem decodeRune_width (nonempty : s ≠ []) :
    1 ≤ (decodeRune s).2 ∧ (decodeRune s).2 ≤ s.length := by
  obtain ⟨b, rest, rfl⟩ := exists_cons_of_ne_nil nonempty
  by_cases small : b.toNat < 0x80
  · simp [decodeRune_ascii small]
  · rcases decodeRune_high (by omega : 0x80 ≤ b.toNat) rest with
      ⟨r, two, result⟩ | ⟨r, _, three, result⟩ | ⟨r, _, _, four, result⟩ | ⟨_, _, _, result⟩
    · exact ⟨by simp [result], by rw [result]; exact (decodeTwo_eq_some two).1⟩
    · exact ⟨by simp [result], by rw [result]; exact (decodeThree_eq_some three).1⟩
    · exact ⟨by simp [result], by rw [result]; exact (decodeFour_eq_some four).1⟩
    · simp [result]

theorem decodeRune_bytes_high (wide : 1 < (decodeRune s).2) :
    ∀ b ∈ s.take (decodeRune s).2, 0x80 ≤ b.toNat := by
  match s with
  | [] => simp [decodeRune] at wide
  | b :: rest =>
    by_cases small : b.toNat < 0x80
    · simp [decodeRune_ascii small] at wide
    · rcases decodeRune_high (by omega : 0x80 ≤ b.toNat) rest with
        ⟨r, two, result⟩ | ⟨r, _, three, result⟩ | ⟨r, _, _, four, result⟩ | ⟨_, _, _, result⟩
      · rw [result]; exact (decodeTwo_eq_some two).2.1
      · rw [result]; exact (decodeThree_eq_some three).2.1
      · rw [result]; exact (decodeFour_eq_some four).2.1
      · simp [result] at wide

private theorem sequence_append {decode : Bytes → Option Rune}
    (spec : ∀ {s r}, decode s = some r →
      n ≤ s.length ∧ (∀ b ∈ s.take n, 0x80 ≤ b.toNat) ∧
        ∀ t, decode (s.take n ++ t) = some r)
    (s t : Bytes) :
    (decode (s ++ t) = none → decode s = none) ∧
      ∀ r, decode (s ++ t) = some r → n ≤ s.length → decode s = some r := by
  constructor
  · intro absent
    cases found : decode s with
    | none => rfl
    | some r =>
      have extended := (spec found).2.2 (s.drop n ++ t)
      rw [← append_assoc, take_append_drop, absent] at extended
      exact extended.symm
  · intro r found fits
    have restricted := (spec found).2.2 (s.drop n)
    rwa [take_append_of_le_length fits, take_append_drop] at restricted

theorem decodeRune_append (nonempty : s ≠ []) (within : (decodeRune (s ++ t)).2 ≤ s.length) :
    decodeRune (s ++ t) = decodeRune s := by
  obtain ⟨b, rest, rfl⟩ := exists_cons_of_ne_nil nonempty
  by_cases small : b.toNat < 0x80
  · rw [cons_append, decodeRune_ascii small, decodeRune_ascii small]
  · have notAscii : ¬ b.toNat < 0x80 := small
    have two := sequence_append decodeTwo_eq_some (b :: rest) t
    have three := sequence_append decodeThree_eq_some (b :: rest) t
    have four := sequence_append decodeFour_eq_some (b :: rest) t
    rw [cons_append] at within two three four ⊢
    rcases decodeRune_high (by omega : 0x80 ≤ b.toNat) (rest ++ t) with
      ⟨r, isTwo, result⟩ | ⟨r, noTwo, isThree, result⟩ |
      ⟨r, noTwo, noThree, isFour, result⟩ | ⟨noTwo, noThree, noFour, result⟩ <;>
      rw [result] at within ⊢
    · simp [decodeRune, notAscii, two.2 r isTwo within]
    · simp [decodeRune, notAscii, two.1 noTwo, three.2 r isThree within]
    · simp [decodeRune, notAscii, two.1 noTwo, three.1 noThree, four.2 r isFour within]
    · simp [decodeRune, notAscii, two.1 noTwo, three.1 noThree, four.1 noFour]

theorem decodeRune_before_ascii (nonempty : s ≠ []) (boundary : ∀ b ∈ t.head?, b.toNat < 0x80) :
    decodeRune (s ++ t) = decodeRune s := by
  apply decodeRune_append nonempty
  by_contra beyond
  match t with
  | [] =>
    have fits := (decodeRune_width (s := s ++ []) (by simpa using nonempty)).2
    simp only [append_nil] at fits beyond
    omega
  | b :: rest =>
    have positive : 1 ≤ s.length := length_pos_of_ne_nil nonempty
    have inside : b ∈ (s ++ b :: rest).take (decodeRune (s ++ b :: rest)).2 := by
      rw [take_append]
      obtain ⟨k, widthEq⟩ : ∃ k, (decodeRune (s ++ b :: rest)).2 - s.length = k + 1 :=
        ⟨_, (Nat.succ_pred_eq_of_pos (by omega)).symm⟩
      simp [widthEq]
    have high := decodeRune_bytes_high (by omega) b inside
    have low := boundary b (by simp)
    omega

theorem firstSegment_append (nonempty : s ≠ []) (within : (decodeRune (s ++ t)).2 ≤ s.length) :
    firstSegment (s ++ t) = firstSegment s := by
  have sameRune := decodeRune_append nonempty within
  rw [sameRune] at within
  simp [firstSegment, sameRune, take_append_of_le_length within]

/-! ### Segments -/

private theorem segmentsWithin_eq (enough : s.length ≤ fuel) :
    segmentsWithin fuel s = segments s := by
  suffices independent : ∀ n m (t : Bytes), t.length ≤ n → t.length ≤ m →
      segmentsWithin n t = segmentsWithin m t from
    independent _ _ s enough (Nat.le_refl _)
  intro n
  induction n with
  | zero =>
    intro m t short _
    cases length_eq_zero_iff.mp (Nat.le_zero.mp short)
    cases m <;> rfl
  | succ n ih =>
    intro m t short long
    match t, m with
    | [], 0 | [], m + 1 => rfl
    | b :: rest, m + 1 =>
      have width := decodeRune_width (s := b :: rest) (by simp)
      have shorter : ((b :: rest).drop (decodeRune (b :: rest)).2).length ≤ rest.length := by
        rw [length_drop, length_cons]
        omega
      simp only [length_cons] at short long
      simp only [segmentsWithin]
      rw [ih m _ (by omega) (by omega)]

@[simp] theorem segments_nil : segments [] = [] := rfl

theorem segments_cons (nonempty : s ≠ []) :
    segments s = firstSegment s :: segments (s.drop (decodeRune s).2) := by
  have width := decodeRune_width nonempty
  obtain ⟨b, rest, rfl⟩ := exists_cons_of_ne_nil nonempty
  conv_lhs => rw [segments, length_cons, segmentsWithin]
  rw [segmentsWithin_eq]
  rw [length_drop, length_cons]
  omega

theorem segments_induction {motive : Bytes → Prop} (nil : motive [])
    (cons : ∀ s, s ≠ [] → motive (s.drop (decodeRune s).2) → motive s) (s : Bytes) :
    motive s := by
  suffices bounded : ∀ n (t : Bytes), t.length ≤ n → motive t from bounded _ s (Nat.le_refl _)
  intro n
  induction n with
  | zero =>
    intro t short
    cases length_eq_zero_iff.mp (Nat.le_zero.mp short)
    exact nil
  | succ n ih =>
    intro t short
    by_cases empty : t = []
    · subst empty
      exact nil
    · have width := decodeRune_width empty
      refine cons t empty (ih _ ?_)
      rw [length_drop]
      omega

theorem segments_ascii (small : b.toNat < 0x80) (rest : Bytes) :
    segments (b :: rest) = { rune := b.toNat, bytes := [b] } :: segments rest := by
  rw [segments_cons (by simp)]
  simp [firstSegment, decodeRune_ascii small]

@[simp] theorem textOf_segments (s : Bytes) : textOf (segments s) = s := by
  induction s using segments_induction with
  | nil => rfl
  | cons s nonempty ih =>
    simp only [textOf] at ih ⊢
    rw [segments_cons nonempty, flatMap_cons, ih]
    exact take_append_drop _ s

@[simp] theorem textOf_nil : textOf [] = [] := rfl

@[simp] theorem textOf_cons (part : Segment) (rest : List Segment) :
    textOf (part :: rest) = part.bytes ++ textOf rest := rfl

@[simp] theorem textOf_append (left right : List Segment) :
    textOf (left ++ right) = textOf left ++ textOf right := by
  simp [textOf]

theorem segments_append (boundary : ∀ b ∈ t.head?, b.toNat < 0x80) :
    segments (s ++ t) = segments s ++ segments t := by
  induction s using segments_induction with
  | nil => simp
  | cons s nonempty ih =>
    have sameRune := decodeRune_before_ascii nonempty boundary
    have width := (decodeRune_width nonempty).2
    have sameSegment := firstSegment_append nonempty (by rwa [sameRune])
    rw [segments_cons (by simp [nonempty]), segments_cons nonempty, sameSegment, sameRune,
      drop_append_of_le_length width, ih, cons_append]

theorem segments_split (parts : segments s = left ++ right) :
    segments (textOf left) = left ∧ segments (textOf right) = right := by
  induction left generalizing s with
  | nil =>
    rw [nil_append] at parts
    rw [← parts]
    simp
  | cons part left ih =>
    have nonempty : s ≠ [] := by
      rintro rfl
      simp at parts
    rw [segments_cons nonempty, cons_append, List.cons.injEq] at parts
    obtain ⟨isFirst, isRest⟩ := parts
    obtain ⟨leftSegments, rightSegments⟩ := ih isRest
    refine ⟨?_, rightSegments⟩
    have width := decodeRune_width nonempty
    -- The text of the left half is a prefix of `s` that holds its first rune.
    have whole : s = textOf (part :: left) ++ textOf right := by
      rw [← textOf_append, cons_append, ← isFirst, ← isRest, ← segments_cons nonempty,
        textOf_segments]
    have partLength : part.bytes.length = (decodeRune s).2 := by
      rw [← isFirst, firstSegment, length_take]
      omega
    have leftNonempty : textOf (part :: left) ≠ [] := by
      rw [← length_pos_iff, textOf_cons, length_append]
      omega
    have within : (decodeRune (textOf (part :: left) ++ textOf right)).2 ≤
        (textOf (part :: left)).length := by
      rw [← whole, textOf_cons, length_append]
      omega
    have sameRune := decodeRune_append leftNonempty within
    have sameSegment := firstSegment_append leftNonempty within
    rw [← whole] at sameRune sameSegment
    rw [segments_cons leftNonempty, ← sameRune, ← sameSegment, isFirst, textOf_cons,
      ← partLength, drop_left, leftSegments]

theorem segments_eq_nil_iff : segments s = [] ↔ s = [] := by
  constructor
  · intro empty
    rw [← textOf_segments s, empty, textOf_nil]
  · rintro rfl
    exact segments_nil

/-! ### Runes and their bytes -/

theorem decodeTwo_range (decoded : decodeTwo s = some r) :
    0x80 ≤ r ∧ r ≤ maxRune := by
  match s with
  | [] | [_] => simp [decodeTwo] at decoded
  | b₀ :: b₁ :: rest =>
    simp only [Rune, decodeTwo, ite_none_right_eq_some, Option.some.injEq] at decoded
    simp only [Rune, maxRune]
    omega

theorem decodeThree_range (decoded : decodeThree s = some r) :
    0x80 ≤ r ∧ r ≤ maxRune := by
  match s with
  | [] | [_] | [_, _] => simp [decodeThree] at decoded
  | b₀ :: b₁ :: b₂ :: rest =>
    simp only [Rune, decodeThree, acceptsSecondOfThree_iff, ite_none_right_eq_some,
      Option.some.injEq] at decoded
    simp only [Rune, maxRune]
    omega

theorem decodeFour_range (decoded : decodeFour s = some r) :
    0x80 ≤ r ∧ r ≤ maxRune := by
  match s with
  | [] | [_] | [_, _] | [_, _, _] => simp [decodeFour] at decoded
  | b₀ :: b₁ :: b₂ :: b₃ :: rest =>
    simp only [Rune, decodeFour, acceptsSecondOfFour_iff, ite_none_right_eq_some,
      Option.some.injEq] at decoded
    simp only [Rune, maxRune]
    omega

theorem decodeRune_range (high : 0x80 ≤ b.toNat) (rest : Bytes) :
    0x80 ≤ (decodeRune (b :: rest)).1 ∧ (decodeRune (b :: rest)).1 ≤ maxRune := by
  rcases decodeRune_high high rest with
    ⟨r, two, result⟩ | ⟨r, _, three, result⟩ | ⟨r, _, _, four, result⟩ | ⟨_, _, _, result⟩ <;>
    rw [result]
  · exact decodeTwo_range two
  · exact decodeThree_range three
  · exact decodeFour_range four
  · decide

variable {part : Segment}

theorem segment_rune (member : part ∈ segments s) :
    part.rune ≤ maxRune ∧ (part.rune < 0x80 → part.bytes = [UInt8.ofNat part.rune]) := by
  induction s using segments_induction with
  | nil => simp at member
  | cons s nonempty ih =>
    rw [segments_cons nonempty, mem_cons] at member
    rcases member with rfl | later
    · obtain ⟨b, rest, rfl⟩ := exists_cons_of_ne_nil nonempty
      by_cases small : b.toNat < 0x80
      · have byte : UInt8.ofNat b.toNat = b := UInt8.ofNat_toNat
        simp only [firstSegment, decodeRune_ascii small, take_succ_cons, take_zero, byte,
          implies_true, and_true]
        simp only [Rune, maxRune]
        omega
      · have range := decodeRune_range (by omega : 0x80 ≤ b.toNat) rest
        refine ⟨range.2, fun ascii => ?_⟩
        exact absurd ascii (Nat.not_lt.mpr range.1)
    · exact ih later

theorem segment_bytes_subset (member : part ∈ segments s) :
    part.bytes ⊆ s := by
  intro b inside
  rw [← textOf_segments s]
  exact mem_flatMap.mpr ⟨part, member, inside⟩

theorem ascii_mem_encodeRune (small : b.toNat < 0x80)
    (bound : r ≤ maxRune) (member : b ∈ encodeRune r) : r = b.toNat := by
  have value : ∀ n, n < 0x100 → b = UInt8.ofNat n → n = b.toNat := by
    intro n fits equal
    rw [equal, UInt8.toNat_ofNat', Nat.mod_eq_of_lt (by simpa using fits)]
  simp only [Rune, maxRune] at bound
  simp only [Rune, encodeRune] at member ⊢
  split at member
  · exact value r (by omega) (mem_singleton.mp member)
  · -- The bytes of a longer encoding are not ASCII.
    exfalso
    split at member
    · simp only [mem_cons, not_mem_nil, or_false] at member
      rcases member with equal | equal <;> have := value _ (by omega) equal <;> omega
    · split at member
      · simp only [mem_cons, not_mem_nil, or_false] at member
        rcases member with equal | equal | equal <;> have := value _ (by omega) equal <;> omega
      · simp only [mem_cons, not_mem_nil, or_false] at member
        rcases member with equal | equal | equal | equal <;>
          have := value _ (by omega) equal <;> omega

theorem lf_mem_encodeRune (bound : r ≤ maxRune) (member : lf ∈ encodeRune r) :
    r = 0x0A :=
  ascii_mem_encodeRune (by decide) bound member

theorem mem_of_segment_rune (member : part ∈ segments s)
    (small : b.toNat < 0x80) (rune : part.rune = b.toNat) : b ∈ s := by
  have bytes := (segment_rune member).2 (by rw [rune]; exact small)
  refine segment_bytes_subset member ?_
  rw [bytes, rune, UInt8.ofNat_toNat]
  exact mem_singleton.mpr rfl

/-- A map on runes brings no line feed into a text. -/
theorem lf_not_mem_map {f : Rune → Rune} (noLF : lf ∉ s)
    (bound : ∀ r, r ≤ maxRune → f r ≤ maxRune) (control : ∀ r, f r < 0x20 → f r = r) :
    lf ∉ (segments s).flatMap fun part => encodeRune (f part.rune) := by
  intro member
  obtain ⟨part, inside, encoded⟩ := mem_flatMap.mp member
  have valid := (segment_rune inside).1
  have mapped := lf_mem_encodeRune (bound _ valid) encoded
  have isLF : part.rune = 0x0A := by rw [← control part.rune (by rw [mapped]; decide), mapped]
  exact noLF (mem_of_segment_rune inside (by decide) isLF)

theorem toLower_noLF [CaseTables] (noLF : lf ∉ s) : lf ∉ toLower s :=
  lf_not_mem_map noLF CaseTables.lower_le CaseTables.lower_control

theorem toUpper_noLF [CaseTables] (noLF : lf ∉ s) : lf ∉ toUpper s :=
  lf_not_mem_map noLF CaseTables.upper_le CaseTables.upper_control

/-! ### Trimming and fields -/

theorem segments_of_isInfix (inside : parts <:+: segments s) :
    segments (textOf parts) = parts := by
  obtain ⟨before, after, whole⟩ := inside
  have prefixed := (segments_split whole.symm).1
  exact (segments_split prefixed).2

theorem trimmed_isInfix (s : Bytes) :
    ((segments s).dropWhile Segment.isSpace).rdropWhile Segment.isSpace <:+: segments s :=
  (List.rdropWhile_prefix _ _).isInfix.trans (dropWhile_suffix _).isInfix

theorem trimSpace_subset (s : Bytes) : trimSpace s ⊆ s := by
  intro b member
  obtain ⟨part, inside, byte⟩ := mem_flatMap.mp member
  exact segment_bytes_subset ((trimmed_isInfix s).subset inside) byte

theorem mem_segments_trimSpace (member : part ∈ segments s)
    (solid : part.isSpace = false) : part ∈ segments (trimSpace s) := by
  have notSpace : ¬ part.isSpace = true := by simp [solid]
  rw [trimSpace, segments_of_isInfix (trimmed_isInfix s)]
  rw [← takeWhile_append_dropWhile (p := Segment.isSpace) (l := segments s),
    mem_append] at member
  rcases member with left | right
  · exact absurd (mem_takeWhile_imp left) notSpace
  · rw [← rdropWhile_append_rtakeWhile (p := Segment.isSpace)
      (l := (segments s).dropWhile Segment.isSpace), mem_append] at right
    rcases right with kept | trailing
    · exact kept
    · exact absurd (mem_rtakeWhile_imp trailing) notSpace

theorem trimSpace_eq_nil_iff :
    trimSpace s = [] ↔ ∀ part ∈ segments s, part.isSpace = true := by
  constructor
  · intro empty part member
    by_contra notSpace
    have kept := mem_segments_trimSpace member (by simpa using notSpace)
    rw [empty, segments_nil] at kept
    cases kept
  · intro allSpace
    rw [trimSpace, ← segments_eq_nil_iff, segments_of_isInfix (trimmed_isInfix s),
      rdropWhile_eq_nil_iff]
    exact fun part member => allSpace part ((dropWhile_suffix _).subset member)

theorem trimSpace_ne_nil (member : b ∈ s) (small : b.toNat < 0x80)
    (solid : isSpace b.toNat = false) : trimSpace s ≠ [] := by
  obtain ⟨before, after, rfl⟩ := append_of_mem member
  rw [Ne, trimSpace_eq_nil_iff, segments_append (by simpa using small), segments_ascii small]
  intro allSpace
  have isSpace := allSpace { rune := b.toNat, bytes := [b] } (by simp)
  simp [Segment.isSpace, solid] at isSpace

theorem trimSpace_eq_self
    (solid : ∀ part ∈ segments s, part.isSpace = false) : trimSpace s = s := by
  have keepsLeft : ((segments s).dropWhile Segment.isSpace) = segments s := by
    cases parts : segments s with
    | nil => rfl
    | cons part rest => simp [solid part (by simp [parts])]
  have keepsRight : ((segments s).rdropWhile Segment.isSpace) = segments s := by
    rw [rdropWhile_eq_self_iff]
    intro nonempty
    simp [solid _ (getLast_mem nonempty)]
  rw [trimSpace, keepsLeft, keepsRight, textOf_segments]

theorem trimSpace_solid
    (solid : ∀ b ∈ s, b.toNat < 0x80 ∧ isSpace b.toNat = false) : trimSpace s = s := by
  apply trimSpace_eq_self
  induction s with
  | nil => simp
  | cons b rest ih =>
    simp only [forall_mem_cons] at solid
    rw [segments_ascii solid.1.1]
    simp only [forall_mem_cons]
    exact ⟨solid.1.2, ih solid.2⟩

theorem trimSpace_cons_space (small : b.toNat < 0x80)
    (space : isSpace b.toNat = true) (s : Bytes) : trimSpace (b :: s) = trimSpace s := by
  simp [trimSpace, segments_ascii small, Segment.isSpace, space]

/-- A text that starts with an ASCII character that is no white space. -/
def SolidStart : Bytes → Prop
  | [] => False
  | b :: _ => b.toNat < 0x80 ∧ isSpace b.toNat = false

instance : (s : Bytes) → Decidable (SolidStart s)
  | [] => inferInstanceAs (Decidable False)
  | b :: _ => inferInstanceAs (Decidable (b.toNat < 0x80 ∧ isSpace b.toNat = false))

theorem SolidStart.append (solid : SolidStart s) (t : Bytes) :
    SolidStart (s ++ t) := by
  cases s with
  | nil => exact solid.elim
  | cons b rest => exact solid

/-- The first segment of such a text is no white space, so trimming starts at the end. -/
theorem SolidStart.segments (solid : SolidStart s) :
    ∃ part rest, Go.segments s = part :: rest ∧ part.isSpace = false := by
  cases s with
  | nil => exact solid.elim
  | cons b rest => exact ⟨_, _, segments_ascii solid.1 rest, solid.2⟩

theorem SolidStart.boundary (solid : SolidStart s) :
    ∀ b ∈ s.head?, b.toNat < 0x80 := by
  cases s with
  | nil => exact solid.elim
  | cons b rest => simpa using solid.1

theorem SolidStart.trimSpace (solid : SolidStart s) :
    trimSpace s = textOf ((Go.segments s).rdropWhile Segment.isSpace) := by
  obtain ⟨part, rest, parts, notSpace⟩ := solid.segments
  rw [Go.trimSpace, parts, dropWhile_cons_of_neg (by simp [notSpace])]

/-- A text that starts solidly is trimmed behind any later solid character only. -/
theorem trimSpace_append_cons (start : SolidStart (s ++ [b]))
    (small : b.toNat < 0x80) (solid : isSpace b.toNat = false) (t : Bytes) :
    trimSpace (s ++ b :: t) =
      s ++ b :: textOf ((segments t).rdropWhile Segment.isSpace) := by
  have startsWhole : SolidStart (s ++ b :: t) := by
    have longer := start.append t
    rwa [append_assoc, singleton_append] at longer
  rw [startsWhole.trimSpace, segments_append (by simpa using small), segments_ascii small,
    rdropWhile_append_cons (by simpa [Segment.isSpace] using solid), textOf_append,
    textOf_segments, textOf_cons, singleton_append]

theorem trimSpace_append (left : SolidStart s) (right : SolidStart t) :
    trimSpace (s ++ t) = s ++ trimSpace t := by
  obtain ⟨part, rest, parts, notSpace⟩ := right.segments
  have keepsFirst := rdropWhile_append_cons notSpace [] rest
  rw [nil_append, nil_append] at keepsFirst
  rw [(left.append t).trimSpace, right.trimSpace, segments_append right.boundary, parts,
    rdropWhile_append_cons notSpace, keepsFirst, textOf_append, textOf_segments]

theorem trimSpace_of_segments
    (parts : segments s = segments t ++ blank) (space : ∀ part ∈ blank, part.isSpace = true) :
    trimSpace s = trimSpace t := by
  have dropped : blank.reverse.dropWhile Segment.isSpace = [] := by
    simpa [dropWhile_eq_nil_iff] using space
  have blankLeft : blank.dropWhile Segment.isSpace = [] := dropWhile_eq_nil_iff.mpr space
  have keepsRight : ∀ solid : List Segment,
      (solid ++ blank).rdropWhile Segment.isSpace = solid.rdropWhile Segment.isSpace := by
    intro solid
    rw [List.rdropWhile, reverse_append, dropWhile_append, dropped]
    rfl
  rw [trimSpace, trimSpace, parts, dropWhile_append]
  split
  · rename_i empty
    rw [blankLeft, List.isEmpty_iff.mp empty]
  · rw [keepsRight]

theorem segments_rdropWhile (s : Bytes) :
    segments (textOf ((segments s).rdropWhile Segment.isSpace)) =
      (segments s).rdropWhile Segment.isSpace :=
  segments_of_isInfix (List.rdropWhile_prefix _ _).isInfix

theorem trimSpace_textOf_rdropWhile (s : Bytes) :
    trimSpace (textOf ((segments s).rdropWhile Segment.isSpace)) = trimSpace s := by
  have parts : segments s = segments (textOf ((segments s).rdropWhile Segment.isSpace)) ++
      (segments s).rtakeWhile Segment.isSpace := by
    rw [segments_rdropWhile, rdropWhile_append_rtakeWhile]
  exact (trimSpace_of_segments parts fun part member => mem_rtakeWhile_imp member).symm

theorem trimSpace_trimSpace (s : Bytes) : trimSpace (trimSpace s) = trimSpace s := by
  have keeps := segments_of_isInfix (trimmed_isInfix s)
  rw [trimSpace, trimSpace, keeps]
  congr 1
  generalize segments s = parts
  have notSpace : ∀ first : Segment,
      first ∈ ((parts.dropWhile Segment.isSpace).rdropWhile Segment.isSpace).head? →
        first.isSpace = false := by
    intro first isFirst
    have stays := head?_dropWhile_not Segment.isSpace parts
    obtain ⟨more, whole⟩ :=
      rdropWhile_prefix Segment.isSpace (parts.dropWhile Segment.isSpace)
    rw [← whole, head?_append, mem_def.mp isFirst] at stays
    simpa using stays
  have left : ((parts.dropWhile Segment.isSpace).rdropWhile Segment.isSpace).dropWhile
      Segment.isSpace = (parts.dropWhile Segment.isSpace).rdropWhile Segment.isSpace := by
    generalize (parts.dropWhile Segment.isSpace).rdropWhile Segment.isSpace = trimmed at notSpace
    cases trimmed with
    | nil => rfl
    | cons first rest =>
      rw [dropWhile_cons_of_neg]
      simp [notSpace first (by simp)]
  rw [left, rdropWhile_idempotent]

theorem trimSpace_append_lineEnd (s : Bytes)
    (isLineEnd : ∀ b ∈ lineEnd, b ∈ crlf) : trimSpace (s ++ lineEnd) = trimSpace s := by
  have lineEndAscii : ∀ b ∈ lineEnd.head?, b.toNat < 0x80 := by
    intro b first
    have := isLineEnd b (mem_of_mem_head? first)
    simp only [mem_cons, not_mem_nil, or_false] at this
    rcases this with rfl | rfl <;> decide
  refine trimSpace_of_segments (segments_append lineEndAscii) ?_
  clear lineEndAscii
  induction lineEnd with
  | nil => simp
  | cons b rest ih =>
    simp only [mem_cons, forall_eq_or_imp, not_mem_nil, or_false] at isLineEnd
    have small : b.toNat < 0x80 := by
      rcases isLineEnd.1 with rfl | rfl <;> decide
    rw [segments_ascii small]
    simp only [mem_cons, forall_eq_or_imp]
    refine ⟨?_, ih (by simpa using isLineEnd.2)⟩
    rcases isLineEnd.1 with rfl | rfl <;> decide

theorem trimSpace_trimRight (s : Bytes) : trimSpace (trimRight s crlf) = trimSpace s := by
  have isLineEnd : ∀ b ∈ s.rtakeWhile (· ∈ crlf), b ∈ crlf := by
    intro b member
    simpa using mem_rtakeWhile_imp member
  rw [← trimSpace_append_lineEnd (trimRight s crlf) isLineEnd, trimRight,
    rdropWhile_append_rtakeWhile]

theorem trimSpace_trimSuffix_cr (s : Bytes) : trimSpace (trimSuffix s [cr]) = trimSpace s := by
  unfold trimSuffix
  split
  · rename_i ends
    obtain ⟨start, rfl⟩ := hasSuffix_iff.mp ends
    rw [trimSpace_append_lineEnd start (by simp)]
    simp
  · rfl

private theorem fieldsFrom_spec
    (solid : ∀ part ∈ field, part.isSpace = false) (member : text ∈ fieldsFrom field rest) :
    ∃ parts, text = textOf parts ∧ parts ≠ [] ∧ parts <:+: field.reverse ++ rest ∧
      ∀ part ∈ parts, part.isSpace = false := by
  induction rest generalizing field with
  | nil =>
    simp only [fieldsFrom] at member
    split at member
    · simp at member
    · simp only [mem_singleton] at member
      exact ⟨field.reverse, member, by simpa using ‹field ≠ []›, by simp, by simpa using solid⟩
  | cons part rest ih =>
    by_cases space : part.isSpace = true
    · simp only [fieldsFrom, space, if_true] at member
      have later : text ∈ fieldsFrom [] rest →
          ∃ parts, text = textOf parts ∧ parts ≠ [] ∧
            parts <:+: field.reverse ++ part :: rest ∧
            ∀ part ∈ parts, part.isSpace = false := by
        intro inRest
        obtain ⟨parts, textEq, nonempty, inside, nonSpace⟩ :=
          @ih [] (by simp) inRest
        refine ⟨parts, textEq, nonempty, inside.trans ?_, nonSpace⟩
        exact ⟨field.reverse ++ [part], [], by simp⟩
      split at member
      · exact later member
      · rw [mem_cons] at member
        rcases member with rfl | inRest
        · exact ⟨field.reverse, rfl, by simpa using ‹field ≠ []›,
            (prefix_append _ _).isInfix, by simpa using solid⟩
        · exact later inRest
    · simp only [fieldsFrom, space] at member
      obtain ⟨parts, textEq, nonempty, inside, nonSpace⟩ :=
        @ih (part :: field) (by simpa [space] using solid) member
      refine ⟨parts, textEq, nonempty, ?_, nonSpace⟩
      simpa using inside

theorem fields_spec (member : text ∈ fields s) :
    text ≠ [] ∧ ∀ part ∈ segments text, part.isSpace = false := by
  obtain ⟨parts, rfl, nonempty, inside, solid⟩ := fieldsFrom_spec (by simp) member
  have own : segments (textOf parts) = parts := segments_of_isInfix (by simpa using inside)
  refine ⟨?_, by rwa [own]⟩
  rwa [Ne, ← segments_eq_nil_iff, own]

theorem segments_ascii_append (small : ∀ b ∈ s, b.toNat < 0x80) (t : Bytes) :
    segments (s ++ t) = s.map (fun b => { rune := b.toNat, bytes := [b] }) ++ segments t := by
  induction s with
  | nil => rfl
  | cons b rest ih =>
    rw [forall_mem_cons] at small
    rw [cons_append, segments_ascii small.1, ih small.2]
    rfl

/-- Lower case of a text with ASCII in front, whatever the tables say elsewhere. -/
theorem toLower_ascii_append [CaseTables] (small : ∀ b ∈ s, b.toNat < 0x80) (t : Bytes) :
    toLower (s ++ t) = (s.flatMap fun b => encodeRune (asciiLower b.toNat)) ++ toLower t := by
  rw [toLower, segments_ascii_append small, flatMap_append, flatMap_map]
  congr 1
  exact flatMap_congr fun b member => by rw [CaseTables.lower_ascii _ (small b member)]

theorem toUpper_of_ascii [CaseTables] (small : ∀ b ∈ s, b.toNat < 0x80) :
    toUpper s = s.flatMap fun b => encodeRune (asciiUpper b.toNat) := by
  have parts := segments_ascii_append small []
  rw [append_nil, segments_nil, append_nil] at parts
  rw [toUpper, parts, flatMap_map]
  exact flatMap_congr fun b member => by rw [CaseTables.upper_ascii _ (small b member)]

theorem foldKey_of_ascii [CaseTables] (small : (s.all (·.toNat < 0x80)) = true) :
    foldKey s = s.map fun b => asciiLower b.toNat := by
  induction s with
  | nil => rfl
  | cons b rest ih =>
    rw [all_cons, Bool.and_eq_true, decide_eq_true_eq] at small
    have restKey := ih small.2
    simp only [foldKey] at restKey ⊢
    rw [segments_ascii small.1, map_cons, map_cons, restKey,
      CaseTables.fold_ascii _ small.1]

end Gossipper.Go
