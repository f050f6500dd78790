/-
Module: Gossipper.Go.Number
Purpose: `strconv.Atoi` and `strconv.Itoa` on a platform with 64-bit `int`.
Trusted boundary: none
Main exports: atoi, itoa, addInt, mulInt, decimal_injective, atoi_decimal
-/
import Gossipper.Go.Text

namespace Gossipper.Go

/-- The cause inside a `strconv.NumError`. -/
inductive NumError where
  | errSyntax
  | errRange
deriving DecidableEq, Repr

/-- The value of an ASCII digit. -/
def digitValue (b : UInt8) : Option Nat :=
  if 0x30 ≤ b.toNat ∧ b.toNat ≤ 0x39 then some (b.toNat - 0x30) else none

/-- The digit loop of `strconv.ParseUint` in base ten, from the value `n` of the
digits already read.  Overflow is reported where it happens, before the bytes
behind it are looked at. -/
def parseUint : Nat → Bytes → Nat × Option NumError
  | n, [] => (n, none)
  | n, b :: rest =>
    match digitValue b with
    | none => (0, some .errSyntax)
    | some d =>
      if 2 ^ 64 ≤ n * 10 + d then (2 ^ 64 - 1, some .errRange)
      else parseUint (n * 10 + d) rest

/-- The optional sign of a number and what follows it. -/
def splitSign : Bytes → Bool × Bytes
  | [] => (false, [])
  | b :: rest =>
    if b = 0x2D then (true, rest)
    else if b = 0x2B then (false, rest)
    else (false, b :: rest)

/-- `strconv.Atoi`.  A number outside the range comes back as the nearest `int`
together with the error. -/
def atoi (s : Bytes) : Int × Option NumError :=
  let (negative, digits) := splitSign s
  if digits = [] then (0, some .errSyntax)
  else
    match parseUint 0 digits with
    | (_, some .errSyntax) => (0, some .errSyntax)
    | (n, _) =>
      if negative then
        if 2 ^ 63 < n then (-2 ^ 63, some .errRange) else (-(n : Int), none)
      else if 2 ^ 63 ≤ n then (2 ^ 63 - 1, some .errRange)
      else (n, none)

/-- The decimal digits of a natural number. -/
def decimal (n : Nat) : Bytes :=
  (Nat.toDigits 10 n).map fun c => UInt8.ofNat c.toNat

/-- `strconv.Itoa`. -/
def itoa (n : Int) : Bytes :=
  if n < 0 then 0x2D :: decimal n.natAbs else decimal n.natAbs

/-- `a + b` on `int`. -/
def addInt (a b : Int) : Int :=
  (a + b).bmod (2 ^ 64)

/-- `a * b` on `int`. -/
def mulInt (a b : Int) : Int :=
  (a * b).bmod (2 ^ 64)

theorem itoa_natCast (n : Nat) : itoa n = decimal n := by
  simp [itoa]

variable {n : Nat}

/-! ### Reading back a written number -/

private theorem digitValue_of_isDigit {c : Char} (digit : c.isDigit = true) :
    digitValue (UInt8.ofNat c.toNat) = some (c.toNat - '0'.toNat) ∧
      0x30 ≤ (UInt8.ofNat c.toNat).toNat ∧ (UInt8.ofNat c.toNat).toNat ≤ 0x39 := by
  have bounds : 0x30 ≤ c.toNat ∧ c.toNat ≤ 0x39 := by
    simpa [Char.isDigit, UInt32.le_iff_toNat_le] using digit
  have small : (UInt8.ofNat c.toNat).toNat = c.toNat := by
    simp only [UInt8.toNat_ofNat']
    omega
  have zero : '0'.toNat = 0x30 := rfl
  exact ⟨by simp [digitValue, small, bounds.1, bounds.2, zero], by omega, by omega⟩

theorem decimal_digit {b : UInt8} (member : b ∈ decimal n) :
    0x30 ≤ b.toNat ∧ b.toNat ≤ 0x39 := by
  simp only [decimal, List.mem_map] at member
  obtain ⟨c, isDigit, rfl⟩ := member
  exact (digitValue_of_isDigit (Nat.isDigit_of_mem_toDigits (by decide) (by decide) isDigit)).2

theorem decimal_ne_nil (n : Nat) : decimal n ≠ [] := by
  simp [decimal, Nat.toDigits_ne_nil]

theorem decimal_injective : Function.Injective decimal := by
  intro n m same
  have back (k : Nat) : (decimal k).map (fun b => Char.ofNat b.toNat) = Nat.toDigits 10 k := by
    rw [decimal, List.map_map]
    refine (List.map_congr_left (g := id) fun c member => ?_).trans (List.map_id _)
    have digit := Nat.isDigit_of_mem_toDigits (by decide) (by decide) member
    have bounds : 0x30 ≤ c.toNat ∧ c.toNat ≤ 0x39 := by
      simpa [Char.isDigit, UInt32.le_iff_toNat_le] using digit
    have small : (UInt8.ofNat c.toNat).toNat = c.toNat := by
      simp only [UInt8.toNat_ofNat']
      omega
    rw [Function.comp_apply, small, Char.ofNat_toNat, id_eq]
  have digits : Nat.toDigits 10 n = Nat.toDigits 10 m := by
    rw [← back, same, back]
  rw [← Nat.ofDigitChars_ten_toDigits (n := n), digits, Nat.ofDigitChars_ten_toDigits]

private theorem le_ofDigitChars (chars : List Char) (n : Nat) :
    n ≤ Nat.ofDigitChars 10 chars n := by
  rw [Nat.ofDigitChars_eq_ofDigitChars_zero]
  have scaled := Nat.le_mul_of_pos_left n (Nat.pow_pos (n := chars.length) (by decide : 0 < 10))
  omega

private theorem parseUint_digits {chars : List Char} (digits : ∀ c ∈ chars, c.isDigit = true)
    (fits : Nat.ofDigitChars 10 chars n < 2 ^ 64) :
    parseUint n (chars.map fun c => UInt8.ofNat c.toNat) =
      (Nat.ofDigitChars 10 chars n, none) := by
  induction chars generalizing n with
  | nil => simp [parseUint]
  | cons c rest ih =>
    have value := (digitValue_of_isDigit (digits c (by simp))).1
    rw [Nat.ofDigitChars_cons, Nat.mul_comm] at fits
    have below := le_ofDigitChars rest (n * 10 + (c.toNat - '0'.toNat))
    have noOverflow : ¬ 2 ^ 64 ≤ n * 10 + (c.toNat - '0'.toNat) := by omega
    rw [List.map_cons, parseUint, value]
    simp only [noOverflow, if_false]
    rw [ih (fun d member => digits d (by simp [member])) fits,
      Nat.ofDigitChars_cons, Nat.mul_comm]

theorem atoi_decimal (fits : n < 2 ^ 63) : atoi (decimal n) = ((n : Int), none) := by
  have unsigned : splitSign (decimal n) = (false, decimal n) := by
    cases digits : decimal n with
    | nil => rfl
    | cons b rest =>
      have isDigit := decimal_digit (n := n) (b := b) (by simp [digits])
      have notMinus : b ≠ 0x2D := by rintro rfl; simp at isDigit
      have notPlus : b ≠ 0x2B := by rintro rfl; simp at isDigit
      simp [splitSign, notMinus, notPlus]
  have value : parseUint 0 (decimal n) = (n, none) := by
    rw [decimal, parseUint_digits]
    · rw [Nat.ofDigitChars_ten_toDigits]
    · intro c member
      exact Nat.isDigit_of_mem_toDigits (by decide) (by decide) member
    · rw [Nat.ofDigitChars_ten_toDigits]
      omega
  have inRange : ¬ 2 ^ 63 ≤ n := by omega
  simp only [atoi, unsigned, decimal_ne_nil, if_false, value]
  rw [if_neg Bool.false_ne_true, if_neg inRange]

end Gossipper.Go
