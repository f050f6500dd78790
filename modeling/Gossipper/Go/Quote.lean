/-
Module: Gossipper.Go.Quote
Purpose: `strconv.Quote`, the text that `%q` writes for a string.
Trusted boundary: which non-ASCII runes are printable is a parameter.
Main exports: PrintTable, quote, quote_noLF
-/
import Gossipper.Go.Text

namespace Gossipper.Go

/-- The table of `strconv.IsPrint`. -/
class PrintTable where
  isPrint : Rune → Bool
  isPrint_ascii : ∀ r, r < 0x80 → isPrint r = (0x20 ≤ r && r < 0x7F)

/-- A table that prints ASCII only. -/
@[reducible] def PrintTable.asciiOnly : PrintTable where
  isPrint r := 0x20 ≤ r && r < 0x7F
  isPrint_ascii _ _ := rfl

/-- A digit of `"0123456789abcdef"`. -/
def lowerHex (digit : Nat) : UInt8 :=
  if digit < 10 then UInt8.ofNat (0x30 + digit) else UInt8.ofNat (0x57 + digit)

/-- The last `width` hexadecimal digits of a number. -/
def hexDigits : Nat → Nat → Bytes
  | 0, _ => []
  | width + 1, n => lowerHex (n / 16 ^ width % 16) :: hexDigits width n

/-- `utf8.ValidRune`. -/
def validRune (r : Rune) : Bool :=
  r < 0xD800 || (0xDFFF < r && r ≤ maxRune)

/-- The letters of the short escapes. -/
def shortEscape (r : Rune) : Option Bytes :=
  if r = 0x07 then some (ascii "\\a")
  else if r = 0x08 then some (ascii "\\b")
  else if r = 0x0C then some (ascii "\\f")
  else if r = 0x0A then some (ascii "\\n")
  else if r = 0x0D then some (ascii "\\r")
  else if r = 0x09 then some (ascii "\\t")
  else if r = 0x0B then some (ascii "\\v")
  else none

section Quoting

variable [PrintTable]

/-- `appendEscapedRune` with the double quote. -/
def escapeRune (r : Rune) : Bytes :=
  if r = 0x22 ∨ r = 0x5C then [0x5C, UInt8.ofNat r]
  else if PrintTable.isPrint r then encodeRune r
  else
    match shortEscape r with
    | some text => text
    | none =>
      if r < 0x20 ∨ r = 0x7F then ascii "\\x" ++ hexDigits 2 r
      else
        let r := if validRune r then r else runeError
        if r < 0x10000 then ascii "\\u" ++ hexDigits 4 r
        else ascii "\\U" ++ hexDigits 8 r

/-- What is written for one segment: a byte that starts no valid sequence is written
in hexadecimal. -/
def quoteSegment (part : Segment) : Bytes :=
  match part.bytes with
  | [b] => if part.rune = runeError then ascii "\\x" ++ hexDigits 2 b.toNat else escapeRune part.rune
  | _ => escapeRune part.rune

/-- `strconv.Quote`. -/
def quote (s : Bytes) : Bytes :=
  [0x22] ++ (segments s).flatMap quoteSegment ++ [0x22]

end Quoting

/-! ### A quoted string is one line -/

theorem lf_not_mem_hexDigits (width n : Nat) : lf ∉ hexDigits width n := by
  induction width with
  | zero => simp [hexDigits]
  | succ width ih =>
    rw [hexDigits, List.mem_cons, not_or]
    refine ⟨?_, ih⟩
    have digits : ∀ digit < 16, lf ≠ lowerHex digit := by decide
    exact digits _ (Nat.mod_lt _ (by decide))

theorem lf_not_mem_hexEscape (absent : lf ∉ start) (width n : Nat) :
    lf ∉ start ++ hexDigits width n := by
  intro member
  rcases List.mem_append.mp member with inStart | inDigits
  · exact absent inStart
  · exact lf_not_mem_hexDigits width n inDigits

theorem shortEscape_noLF (found : shortEscape r = some text) :
    lf ∉ text := by
  unfold shortEscape at found
  repeat' split at found
  all_goals first
    | (cases found; decide)
    | cases found

section Quoting

variable [PrintTable]

theorem escapeRune_noLF (bound : r ≤ maxRune) : lf ∉ escapeRune r := by
  fun_cases escapeRune r
  case case1 special => rcases special with rfl | rfl <;> decide
  case case2 printable =>
    intro member
    have isLF := lf_mem_encodeRune bound member
    rw [isLF, PrintTable.isPrint_ascii _ (by decide)] at printable
    exact absurd printable (by decide)
  case case3 found => exact shortEscape_noLF found
  all_goals
    apply lf_not_mem_hexEscape
    decide

theorem quoteSegment_noLF (member : part ∈ segments s) :
    lf ∉ quoteSegment part := by
  have valid := (segment_rune member).1
  unfold quoteSegment
  split
  · split
    · apply lf_not_mem_hexEscape
      decide
    · exact escapeRune_noLF valid
  · exact escapeRune_noLF valid

theorem quote_noLF (s : Bytes) : lf ∉ quote s := by
  intro member
  simp only [quote, List.mem_append, List.mem_flatMap, List.mem_singleton] at member
  rcases member with (start | ⟨part, inside, byte⟩) | finish
  · exact absurd start (by decide)
  · exact quoteSegment_noLF inside byte
  · exact absurd finish (by decide)

end Quoting

section Concrete

attribute [local instance] PrintTable.asciiOnly

/-- Quotes, control characters, other runes and invalid bytes. -/
example : quote [0x61, 0x22, 0x0A, 0x01, 0xC3, 0xA9, 0xFF] =
    ascii "\"a\\\"\\n\\x01\\u00e9\\xff\"" := by
  decide +kernel

end Concrete

end Gossipper.Go
