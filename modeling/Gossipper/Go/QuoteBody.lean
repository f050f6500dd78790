/-
Module: Gossipper.Go.QuoteBody
Purpose: Which texts `%q` writes without an escape, and what a reader that only takes
  the double quotes off gets for the others.
Trusted boundary: none
Main exports: quoteBody_plain, quoteBody_longer, quote_not_mem_quoteBody, quoteBody_written
-/
import Gossipper.Go.Utf8

namespace Gossipper.Go

open List

@[simp] theorem length_hexDigits (width n : Nat) : (hexDigits width n).length = width := by
  induction width with
  | zero => rfl
  | succ width ih => rw [hexDigits, length_cons, ih]

theorem hexDigits_range (member : b ∈ hexDigits width n) :
    b.toNat < 0x80 ∧ b ≠ 0x22 := by
  induction width with
  | zero => cases member
  | succ width ih =>
    rw [hexDigits, mem_cons] at member
    rcases member with rfl | later
    · have digits : ∀ digit < 16, (lowerHex digit).toNat < 0x80 ∧ lowerHex digit ≠ 0x22 := by
        decide
      exact digits _ (Nat.mod_lt _ (by decide))
    · exact ih later

theorem hexEscape_range (range : ∀ b ∈ start, b.toNat < 0x80 ∧ b ≠ 0x22)
    (width n : Nat) : ∀ b ∈ start ++ hexDigits width n, b.toNat < 0x80 ∧ b ≠ 0x22 := by
  intro b member
  rcases mem_append.mp member with inStart | inDigits
  · exact range b inStart
  · exact hexDigits_range inDigits

theorem shortEscape_spec (found : shortEscape r = some text) :
    r < 0x80 ∧ text.length = 2 ∧ ∀ b ∈ text, b.toNat < 0x80 ∧ b ≠ 0x22 := by
  unfold shortEscape at found
  repeat' split at found
  all_goals first
    | (cases found; subst r; decide +kernel)
    | cases found

section Quoting

variable [PrintTable]

/-- What `%q` writes between the double quotes. -/
def quoteBody (s : Bytes) : Bytes :=
  (segments s).flatMap quoteSegment

theorem quote_eq (s : Bytes) : quote s = [0x22] ++ quoteBody s ++ [0x22] := rfl

/-- A character that `%q` writes as it is. -/
def PlainSegment (part : Segment) : Prop :=
  part.bytes = encodeRune part.rune ∧ PrintTable.isPrint part.rune = true ∧
    part.rune ≠ 0x22 ∧ part.rune ≠ 0x5C

instance (part : Segment) : Decidable (PlainSegment part) :=
  inferInstanceAs (Decidable (_ ∧ _ ∧ _ ∧ _))

/-- Printable characters of valid UTF-8 other than the double quote and the backslash. -/
def PlainText (s : Bytes) : Prop :=
  ∀ part ∈ segments s, PlainSegment part

instance (s : Bytes) : Decidable (PlainText s) :=
  inferInstanceAs (Decidable (∀ part ∈ segments s, PlainSegment part))

/-! ### One character -/

/-- What an escape is made of: a backslash, or what the rune is encoded as. -/
theorem escapeRune_spec (r : Rune) :
    (PrintTable.isPrint r = true ∧ r ≠ 0x22 ∧ r ≠ 0x5C ∧ escapeRune r = encodeRune r) ∨
    (¬ (PrintTable.isPrint r = true ∧ r ≠ 0x22 ∧ r ≠ 0x5C) ∧
      (encodeRune r).length < (escapeRune r).length ∧
      ∀ b ∈ escapeRune r, b.toNat < 0x80 ∧ (b = 0x22 → r = 0x22)) := by
  unfold escapeRune
  split
  · rename_i special
    refine .inr ⟨?_, ?_, ?_⟩
    · rintro ⟨-, notQuote, notBackslash⟩
      rcases special with isQuote | isBackslash
      · exact notQuote isQuote
      · exact notBackslash isBackslash
    all_goals rcases special with rfl | rfl <;> decide +kernel
  rename_i notSpecial
  rw [not_or] at notSpecial
  split
  · exact .inl ⟨‹_›, notSpecial.1, notSpecial.2, rfl⟩
  rename_i notPrintable
  refine .inr ⟨fun plain => notPrintable plain.1, ?_⟩
  have short : (encodeRune r).length ≤ 4 := encodeRune_length_le r
  have one : r < 0x80 → (encodeRune r).length = 1 := fun small => by
    rw [encodeRune_one small]
    rfl
  -- A hexadecimal escape is longer than any encoding it stands for.
  have hexadecimal : ∀ {start : Bytes} {width n : Nat}, (encodeRune r).length < 2 + width →
      start.length = 2 → (∀ b ∈ start, b.toNat < 0x80 ∧ b ≠ 0x22) →
      (encodeRune r).length < (start ++ hexDigits width n).length ∧
        ∀ b ∈ start ++ hexDigits width n, b.toNat < 0x80 ∧ (b = 0x22 → r = 0x22) := by
    intro start width n longer two range
    refine ⟨by simpa [two] using longer, fun b member => ?_⟩
    have inRange := hexEscape_range range width n b member
    exact ⟨inRange.1, fun isQuote => absurd isQuote inRange.2⟩
  split
  · rename_i text found
    obtain ⟨small, two, range⟩ := shortEscape_spec found
    refine ⟨by rw [one small, two]; decide, fun b member => ?_⟩
    exact ⟨(range b member).1, fun isQuote => absurd isQuote (range b member).2⟩
  · split
    · rename_i control
      have small : r < 0x80 := by
        rcases control with low | rfl
        · exact Nat.lt_trans low (by decide)
        · decide
      exact hexadecimal (by rw [one small]; decide) (by decide) (by decide +kernel)
    · generalize (if validRune r then r else runeError) = shown
      dsimp only
      split
      · exact hexadecimal (by omega) (by decide) (by decide +kernel)
      · exact hexadecimal (by omega) (by decide) (by decide +kernel)

theorem quoteSegment_eq_escapeRune (valid : part.bytes = encodeRune part.rune) :
    quoteSegment part = escapeRune part.rune := by
  unfold quoteSegment
  split
  · rename_i b single
    rw [if_neg]
    intro isError
    rw [valid, isError] at single
    have length : (encodeRune runeError).length = 1 := by rw [single]; rfl
    exact absurd length (by decide)
  · rfl

/-- What is written for one character, by its kind. -/
theorem quoteSegment_spec (shape : SegmentShape part) :
    (PlainSegment part ∧ quoteSegment part = part.bytes) ∨
    (¬ PlainSegment part ∧ part.bytes.length < (quoteSegment part).length ∧
      ∀ b ∈ quoteSegment part, b.toNat < 0x80 ∧ (b = 0x22 → part.rune = 0x22)) := by
  have ofValid : part.bytes = encodeRune part.rune →
      (PlainSegment part ∧ quoteSegment part = part.bytes) ∨
      (¬ PlainSegment part ∧ part.bytes.length < (quoteSegment part).length ∧
        ∀ b ∈ quoteSegment part, b.toNat < 0x80 ∧ (b = 0x22 → part.rune = 0x22)) := by
    intro valid
    rw [quoteSegment_eq_escapeRune valid]
    rcases escapeRune_spec part.rune with
      ⟨printable, notQuote, notBackslash, same⟩ | ⟨notPlain, longer, range⟩
    · exact .inl ⟨⟨valid, printable, notQuote, notBackslash⟩, by rw [same, valid]⟩
    · exact .inr ⟨fun plain => notPlain plain.2, by rw [valid]; exact longer, range⟩
  cases shape with
  | ascii _ valid | wide _ _ valid _ => exact ofValid valid
  | invalid b isError single =>
    have written : quoteSegment part = ascii "\\x" ++ hexDigits 2 b.toNat := by
      simp [quoteSegment, single, isError]
    rw [written]
    refine .inr ⟨?_, ?_, ?_⟩
    · rintro ⟨valid, -⟩
      rw [single, isError] at valid
      have length : (encodeRune runeError).length = 1 := by rw [← valid]; rfl
      exact absurd length (by decide)
    · rw [single, length_append, length_hexDigits]
      exact (by decide : 1 < (ascii "\\x").length + 2)
    · have start : ∀ b ∈ ascii "\\x", b.toNat < 0x80 ∧ b ≠ 0x22 := by decide +kernel
      intro c member
      have inRange := hexEscape_range start 2 b.toNat c member
      exact ⟨inRange.1, fun isQuote => absurd isQuote inRange.2⟩

/-! ### A text -/

theorem quoteBody_plain (plain : PlainText s) : quoteBody s = s := by
  have same : quoteBody s = textOf (segments s) := by
    refine flatMap_congr fun part member => ?_
    rcases quoteSegment_spec (segment_shape member) with ⟨-, same⟩ | ⟨notPlain, -⟩
    · exact same
    · exact absurd (plain part member) notPlain
  rw [same, textOf_segments]

theorem quoteBody_longer (s : Bytes) :
    s.length ≤ (quoteBody s).length ∧ (s.length = (quoteBody s).length → PlainText s) := by
  suffices parts : ∀ parts : List Segment, (∀ part ∈ parts, SegmentShape part) →
      (textOf parts).length ≤ (parts.flatMap quoteSegment).length ∧
        ((textOf parts).length = (parts.flatMap quoteSegment).length →
          ∀ part ∈ parts, PlainSegment part) by
    have whole := parts (segments s) fun part member => segment_shape member
    rwa [textOf_segments] at whole
  intro parts shapes
  induction parts with
  | nil => simp
  | cons part rest ih =>
    rw [forall_mem_cons] at shapes
    obtain ⟨atLeast, exactly⟩ := ih shapes.2
    simp only [textOf_cons, flatMap_cons, length_append, forall_mem_cons]
    rcases quoteSegment_spec shapes.1 with ⟨plain, same⟩ | ⟨-, longer, -⟩
    · rw [same]
      exact ⟨by omega, fun equal => ⟨plain, exactly (by omega)⟩⟩
    · exact ⟨by omega, fun equal => by omega⟩

/-- Every byte that `%q` writes for a text is ASCII or part of one of its characters; a
double quote comes from a double quote. -/
theorem quote_not_mem_quoteBody (absent : (0x22 : UInt8) ∉ s) :
    (0x22 : UInt8) ∉ quoteBody s := by
  intro member
  obtain ⟨part, inside, written⟩ := mem_flatMap.mp member
  rcases quoteSegment_spec (segment_shape inside) with ⟨-, same⟩ | ⟨-, -, range⟩
  · rw [same] at written
    exact absent (segment_bytes_subset inside written)
  · exact absent (mem_of_segment_rune inside (by decide) ((range _ written).2 rfl))

theorem quoteBody_written (s : Bytes) : Written (quoteBody s) := by
  refine .flatMap fun part member => ?_
  rcases quoteSegment_spec (segment_shape member) with ⟨plain, same⟩ | ⟨-, -, range⟩
  · rw [same, plain.1]
    exact .rune (segment_shape member).validRune
  · exact .ascii fun b written => (range b written).1

end Quoting

section Concrete

attribute [local instance] PrintTable.asciiOnly

example : PlainText (ascii "sip:bob@example.com;user=phone") := by decide +kernel

example : ¬ PlainText (ascii "DOMAIN\\bob") := by decide +kernel

end Concrete

end Gossipper.Go
