/-
Module: Gossipper.Go.Time
Purpose: Instants and their text in the layout `RFC3339Nano`, and where the order of the
  texts differs from that of the instants.
Trusted boundary: an instant is given by the fields of its date and time in UTC, which
  the standard library computes; two instants are in the order of these fields.
Main exports: Instant, appendInt, appendNano, format_lt_of_not_misordered, format_gt_of_misordered
-/
import Gossipper.Go.Bytes
import Mathlib.Data.List.Lex
import Mathlib.Data.Nat.Log
import Mathlib.Data.Prod.Lex

namespace Gossipper.Go

open List

/-! ### The layout -/

/-- The last `count` decimal digits of a number. -/
def lastDigits : Nat → Nat → Bytes
  | 0, _ => []
  | count + 1, n => lastDigits count (n / 10) ++ [UInt8.ofNat (0x30 + n % 10)]

/-- `appendInt`: decimal, with zeros in front up to a width. -/
def appendInt (x : Int) (width : Nat) : Bytes :=
  (if x < 0 then [0x2D] else []) ++
    lastDigits (max width (Nat.log 10 x.natAbs + 1)) x.natAbs

/-- `appendNano` for the layout `.999999999`: zeros at the end are dropped, and so is a
fraction of nothing but zeros. -/
def appendNano (nanosecond : Nat) : Bytes :=
  if nanosecond = 0 then []
  else trimSuffix (trimRight (0x2E :: appendInt nanosecond 9) (ascii "0")) (ascii ".")

/-- An instant, by its date and time in UTC. -/
structure Instant where
  year : Int
  month : Nat
  day : Nat
  hour : Nat
  minute : Nat
  second : Nat
  nanosecond : Nat
  month_le : month ≤ 12
  day_le : day ≤ 31
  hour_lt : hour < 24
  minute_lt : minute < 60
  second_lt : second < 60
  nanosecond_lt : nanosecond < 10 ^ 9
deriving DecidableEq

namespace Instant

/-- `t.Format(time.RFC3339Nano)` in UTC. -/
def formatRFC3339Nano (t : Instant) : Bytes :=
  appendInt t.year 4 ++ ascii "-" ++ appendInt t.month 2 ++ ascii "-" ++ appendInt t.day 2 ++
    ascii "T" ++ appendInt t.hour 2 ++ ascii ":" ++ appendInt t.minute 2 ++ ascii ":" ++
    appendInt t.second 2 ++ appendNano t.nanosecond ++ ascii "Z"

/-- Month, day and time of day, in whole seconds. -/
def clock (t : Instant) : List Nat := [t.month, t.day, t.hour, t.minute, t.second]

/-- Instants are in the order of their fields. -/
def key (t : Instant) : ℤ ×ₗ List ℕ ×ₗ ℕ := toLex (t.year, toLex (t.clock, t.nanosecond))

theorem key_injective : Function.Injective key := by
  intro s t same
  simp only [key, clock, EmbeddingLike.apply_eq_iff_eq, Prod.mk.injEq, List.cons.injEq,
    and_true] at same
  cases s
  cases t
  simp_all

theorem key_lt_iff {s t : Instant} :
    s.key < t.key ↔ s.year < t.year ∨ s.year = t.year ∧
      (s.clock < t.clock ∨ s.clock = t.clock ∧ s.nanosecond < t.nanosecond) := by
  simp [key, Prod.Lex.toLex_lt_toLex]

end Instant

/-! ### The order of texts -/

/-- A text as the database compares it: byte by byte. -/
def textKey (text : Bytes) : List Nat := text.map UInt8.toNat

@[simp] theorem textKey_append (s t : Bytes) : textKey (s ++ t) = textKey s ++ textKey t :=
  map_append

@[simp] theorem textKey_cons (b : UInt8) (s : Bytes) :
    textKey (b :: s) = b.toNat :: textKey s := rfl

@[simp] theorem textKey_nil : textKey [] = [] := rfl

theorem append_lt_append_left (start : List Nat) :
    start ++ x < start ++ y ↔ x < y := by
  induction start with
  | nil => exact Iff.rfl
  | cons n start ih =>
    rw [cons_append, cons_append, cons_lt_cons_iff, ih]
    simp

/-- Two texts that differ before one of them ends are in the order of any continuations of
theirs. -/
theorem textKey_append_lt_iff (left : ¬ s <+: t) (right : ¬ t <+: s)
    (x y : List Nat) : textKey s ++ x < textKey t ++ y ↔ textKey s < textKey t := by
  induction s generalizing t with
  | nil => exact absurd nil_prefix left
  | cons b s ih =>
    cases t with
    | nil => exact absurd nil_prefix right
    | cons c t =>
      simp only [textKey_cons, cons_append, cons_lt_cons_iff]
      by_cases same : b = c
      · subst same
        rw [ih (fun inside => left (cons_prefix_cons.mpr ⟨rfl, inside⟩))
          (fun inside => right (cons_prefix_cons.mpr ⟨rfl, inside⟩))]
      · have differ : b.toNat ≠ c.toNat := fun equal => same (UInt8.toNat_inj.mp equal)
        simp [differ, false_and, or_false]

/-! ### Numbers of a fixed width -/

theorem toNat_digit (n : Nat) : (UInt8.ofNat (0x30 + n % 10)).toNat = 0x30 + n % 10 := by
  simp only [UInt8.toNat_ofNat']
  omega

/-- Numbers with the same number of digits are in the order of their texts. -/
theorem lastDigits_lt_iff {count m n} (left : m < 10 ^ count) (right : n < 10 ^ count)
    (x y : List Nat) :
    textKey (lastDigits count m) ++ x < textKey (lastDigits count n) ++ y ↔
      m < n ∨ m = n ∧ x < y := by
  induction count generalizing m n x y with
  | zero =>
    have none_ : m = n := by omega
    simp [lastDigits, none_]
  | succ count ih =>
    rw [Nat.pow_succ] at left right
    simp only [lastDigits, textKey_append, textKey_cons, textKey_nil, toNat_digit,
      append_assoc, singleton_append]
    rw [ih (by omega) (by omega), cons_lt_cons_iff]
    constructor
    · rintro (less | ⟨same, less | ⟨digit, rest⟩⟩)
      · left
        omega
      · left
        omega
      · right
        exact ⟨by omega, rest⟩
    · rintro (less | ⟨rfl, rest⟩)
      · omega
      · exact .inr ⟨rfl, .inr ⟨rfl, rest⟩⟩

theorem lastDigits_injective {count m n} (left : m < 10 ^ count) (right : n < 10 ^ count)
    (same : lastDigits count m = lastDigits count n) : m = n := by
  have notLess := fun a b (below : a < 10 ^ count) (below' : b < 10 ^ count)
      (equal : lastDigits count a = lastDigits count b) (less : a < b) => by
    have ordered := (lastDigits_lt_iff below below' [] []).mpr (.inl less)
    rw [equal] at ordered
    exact lt_irrefl _ ordered
  rcases Nat.lt_trichotomy m n with less | equal | greater
  · exact (notLess m n left right same less).elim
  · exact equal
  · exact (notLess n m right left same.symm greater).elim

theorem length_lastDigits (count n : Nat) : (lastDigits count n).length = count := by
  induction count generalizing n with
  | zero => rfl
  | succ count ih =>
    rw [lastDigits, length_append, ih, length_singleton]

theorem digit_of_mem_lastDigits {count n b} (member : b ∈ lastDigits count n) :
    0x30 ≤ b.toNat ∧ b.toNat ≤ 0x39 := by
  induction count generalizing n with
  | zero => cases member
  | succ count ih =>
    rcases mem_append.mp member with front | last
    · exact ih front
    · rw [mem_singleton.mp last, toNat_digit]
      omega

theorem appendInt_eq_lastDigits {n width : Nat} (fits : n < 10 ^ width) (positive : 0 < width) :
    appendInt n width = lastDigits width n := by
  have short : Nat.log 10 n + 1 ≤ width := by
    rcases Nat.eq_zero_or_pos n with rfl | nonzero
    · rw [Nat.log_zero_right]
      exact positive
    · exact (Nat.log_lt_iff_lt_pow (by decide) (by omega)).mpr fits
  rw [appendInt, if_neg (by omega), nil_append, Int.natAbs_natCast, max_eq_left short]

/-! ### Years -/

/-- The year of a text, with the hyphen behind it. -/
def yearText (year : Int) : Bytes := appendInt year 4 ++ ascii "-"

theorem lastDigits_cut {count n count' n' rest rest'}
    (same : lastDigits count n ++ 0x2D :: rest = lastDigits count' n' ++ 0x2D :: rest') :
    lastDigits count n = lastDigits count' n' := by
  have noHyphen : ∀ count n, (0x2D : UInt8) ∉ lastDigits count n := by
    intro count n member
    have digit := (digit_of_mem_lastDigits member).1
    revert digit
    decide
  have parts : cut (lastDigits count n ++ 0x2D :: rest) 0x2D =
      some (lastDigits count n, rest) := cut_append (noHyphen count n)
  rw [same, cut_append (noHyphen count' n')] at parts
  simp only [Option.some.injEq, Prod.mk.injEq] at parts
  exact parts.1.symm

theorem hyphen_append_ne {count n rest rest'} (positive : 0 < count) :
    0x2D :: rest ≠ lastDigits count n ++ rest' := by
  intro same
  have length := length_lastDigits count n
  cases digits : lastDigits count n with
  | nil =>
    rw [digits, length_nil] at length
    omega
  | cons b front =>
    rw [digits, cons_append, List.cons.injEq] at same
    have member : (0x2D : UInt8) ∈ lastDigits count n := by
      rw [digits, same.1]
      exact mem_cons_self
    have digit := (digit_of_mem_lastDigits member).1
    revert digit
    decide

theorem yearText_apart {a b} (differ : a ≠ b) : ¬ yearText a <+: yearText b := by
  rintro ⟨rest, same⟩
  have below : ∀ n : Nat, n < 10 ^ max 4 (Nat.log 10 n + 1) := by
    intro n
    exact (Nat.lt_pow_succ_log_self (by decide) n).trans_le
      (Nat.pow_le_pow_right (by decide) (le_max_right _ _))
  have wide : ∀ n : Nat, 0 < max 4 (Nat.log 10 n + 1) := by
    intro n
    omega
  -- The same digits, and as many of them, are those of one number.
  have sameDigits : lastDigits (max 4 (Nat.log 10 a.natAbs + 1)) a.natAbs =
      lastDigits (max 4 (Nat.log 10 b.natAbs + 1)) b.natAbs → a.natAbs = b.natAbs := by
    intro equal
    have count := congrArg List.length equal
    rw [length_lastDigits, length_lastDigits] at count
    rw [← count] at equal
    refine lastDigits_injective (below _) ?_ equal
    rw [count]
    exact below _
  have hyphen : ascii "-" = [0x2D] := rfl
  simp only [yearText, appendInt, hyphen] at same
  by_cases negative : a < 0 <;> by_cases negative' : b < 0 <;>
    simp only [negative, negative', if_true, if_false, nil_append, append_assoc,
      cons_append, List.cons.injEq, true_and] at same
  · have equal := sameDigits (lastDigits_cut same)
    omega
  · exact hyphen_append_ne (wide _) same
  · exact hyphen_append_ne (wide _) same.symm
  · have equal := sameDigits (lastDigits_cut same)
    omega

/-! ### Month, day and time of day -/

/-- The part of a text between the year and the fraction. -/
def clockText (t : Instant) : Bytes :=
  appendInt t.month 2 ++ ascii "-" ++ appendInt t.day 2 ++ ascii "T" ++ appendInt t.hour 2 ++
    ascii ":" ++ appendInt t.minute 2 ++ ascii ":" ++ appendInt t.second 2

open Instant

theorem Instant.textKey_format (t : Instant) :
    textKey t.formatRFC3339Nano = textKey (yearText t.year) ++
      (textKey (clockText t) ++ textKey (appendNano t.nanosecond ++ ascii "Z")) := by
  simp [formatRFC3339Nano, yearText, clockText, textKey_append, append_assoc]

variable {m n : Nat}

theorem field_lt_iff (left : m < 100) (right : n < 100) (separator : Nat) (x y : List Nat) :
    textKey (appendInt m 2) ++ separator :: x < textKey (appendInt n 2) ++ separator :: y ↔
      m < n ∨ m = n ∧ x < y := by
  rw [appendInt_eq_lastDigits left (by decide), appendInt_eq_lastDigits right (by decide),
    lastDigits_lt_iff left right, cons_lt_cons_iff]
  simp [false_or, true_and]

theorem clockText_lt_iff (s t : Instant) (x y : List Nat) :
    textKey (clockText s) ++ x < textKey (clockText t) ++ y ↔
      s.clock < t.clock ∨ s.clock = t.clock ∧ x < y := by
  have bounds := fun t : Instant => And.intro t.month_le (And.intro t.day_le
    (And.intro t.hour_lt (And.intro t.minute_lt t.second_lt)))
  obtain ⟨month, day, hour, minute, second⟩ := bounds s
  obtain ⟨month', day', hour', minute', second'⟩ := bounds t
  have separators : textKey (ascii "-") = [0x2D] ∧ textKey (ascii "T") = [0x54] ∧
      textKey (ascii ":") = [0x3A] := by decide
  simp only [clockText, textKey_append, separators.1, separators.2.1, separators.2.2,
    append_assoc, cons_append, nil_append]
  rw [field_lt_iff (by omega) (by omega), field_lt_iff (by omega) (by omega),
    field_lt_iff (by omega) (by omega), field_lt_iff (by omega) (by omega),
    appendInt_eq_lastDigits (by omega) (by decide),
    appendInt_eq_lastDigits (by omega) (by decide), lastDigits_lt_iff (by omega) (by omega)]
  simp only [clock, cons_lt_cons_iff, List.cons.injEq, lt_irrefl, and_true, and_false,
    or_false]
  tauto

/-! ### The fraction -/

/-- The digits of a fraction without the zeros at its end. -/
def fraction (nanosecond : Nat) : Bytes := trimRight (lastDigits 9 nanosecond) (ascii "0")

theorem lastDigits_eq_fraction (n : Nat) :
    lastDigits 9 n = fraction n ++ List.replicate (9 - (fraction n).length) 0x30 := by
  have whole := rdropWhile_append_rtakeWhile (p := (· ∈ ascii "0")) (l := lastDigits 9 n)
  have zeros : (lastDigits 9 n).rtakeWhile (· ∈ ascii "0") =
      List.replicate (9 - (fraction n).length) 0x30 := by
    rw [eq_replicate_iff]
    constructor
    · have length := congrArg List.length whole
      rw [length_append, length_lastDigits] at length
      change (fraction n).length + _ = 9 at length
      omega
    · intro b member
      simpa [ascii] using mem_rtakeWhile_imp member
  rw [zeros] at whole
  exact whole.symm

theorem digit_of_mem_fraction {n b} (member : b ∈ fraction n) :
    0x30 ≤ b.toNat ∧ b.toNat ≤ 0x39 :=
  digit_of_mem_lastDigits ((List.rdropWhile_prefix _ _).subset member)

theorem fraction_injective (left : m < 10 ^ 9) (right : n < 10 ^ 9)
    (same : fraction m = fraction n) : m = n := by
  apply lastDigits_injective left right
  rw [lastDigits_eq_fraction, lastDigits_eq_fraction, same]

theorem fraction_zero : fraction 0 = [] := by decide

theorem appendNano_eq {n : Nat} (fits : n < 10 ^ 9) :
    appendNano n = if n = 0 then [] else 0x2E :: fraction n := by
  unfold appendNano
  split
  · rfl
  · rename_i nonzero
    have nonempty : fraction n ≠ [] := by
      intro empty
      exact nonzero (fraction_injective fits (by decide) (empty.trans fraction_zero.symm))
    rw [appendInt_eq_lastDigits fits (by decide)]
    have trimmed : trimRight (0x2E :: lastDigits 9 n) (ascii "0") = 0x2E :: fraction n :=
      trimRight_append_cons (by decide) [] _
    rw [trimmed]
    obtain ⟨front, last, split⟩ := (eq_nil_or_concat' (fraction n)).resolve_left nonempty
    have notDot : last ≠ 0x2E := by
      rintro rfl
      have digit := (digit_of_mem_fraction (n := n) (b := 0x2E) (by rw [split]; simp)).1
      revert digit
      decide
    rw [split]
    exact trimSuffix_append_cons notDot (0x2E :: front) []

theorem not_lt_replicate {count low : Nat} {l : List Nat} (high : ∀ n ∈ l, low ≤ n)
    (long : count ≤ l.length) : ¬ l < List.replicate count low := by
  induction count generalizing l with
  | zero => exact not_lt_nil l
  | succ count ih =>
    cases l with
    | nil => cases long
    | cons n l =>
      rw [replicate_succ, cons_lt_cons_iff]
      rintro (less | ⟨_, rest⟩)
      · exact absurd less (high n mem_cons_self).not_gt
      · exact ih (fun m member => high m (mem_cons_of_mem n member))
          (Nat.le_of_succ_le_succ long) rest

/-- A smaller fraction whose digits do not begin the greater one is before it. -/
theorem fraction_lt (left : m < 10 ^ 9) (right : n < 10 ^ 9) (less : m < n)
    (apart : ¬ fraction m <+: fraction n) :
    ¬ fraction n <+: fraction m ∧ textKey (fraction m) < textKey (fraction n) := by
  have ordered := (lastDigits_lt_iff left right [] []).mpr (.inl less)
  rw [append_nil, append_nil, lastDigits_eq_fraction m, lastDigits_eq_fraction n,
    textKey_append, textKey_append] at ordered
  have notBefore : ¬ fraction n <+: fraction m := by
    rintro ⟨rest, split⟩
    have lengths := congrArg List.length (lastDigits_eq_fraction m)
    rw [length_lastDigits, ← split] at lengths
    simp only [length_append, length_replicate] at lengths
    rw [← split, textKey_append, append_assoc, append_lt_append_left] at ordered
    have zeros : textKey (List.replicate (9 - (fraction n).length) 0x30) =
        List.replicate (9 - (fraction n).length) 0x30 := map_replicate
    rw [zeros] at ordered
    refine not_lt_replicate ?_ ?_ ordered
    · intro digit member
      rw [← textKey_append] at member
      obtain ⟨b, inside, rfl⟩ := mem_map.mp member
      have whole : b ∈ lastDigits 9 m := by
        rw [lastDigits_eq_fraction m, ← split, append_assoc]
        exact mem_append_right _ inside
      exact (digit_of_mem_lastDigits whole).1
    · simp only [textKey, length_append, length_map, length_replicate]
      omega
  exact ⟨notBefore, (textKey_append_lt_iff apart notBefore _ _).mp ordered⟩

/-! ### Texts in another order than their instants -/

/-- Two instants whose texts are the other way round: the text of the later year is before
that of the earlier one; or they are in the same second, and the digits of the earlier
fraction begin those of the later one, so that a digit stands where the earlier text has its
`Z`. -/
def Instant.Misordered (older newer : Instant) : Prop :=
  if older.year = newer.year then
    older.clock = newer.clock ∧ fraction older.nanosecond <+: fraction newer.nanosecond
  else textKey (yearText newer.year) < textKey (yearText older.year)

instance (older newer : Instant) : Decidable (older.Misordered newer) := by
  unfold Instant.Misordered
  infer_instance

section Order

variable {older newer : Instant}

/-- Behind the second, a later fraction is before an earlier one that begins it. -/
theorem fraction_gt (left : m < 10 ^ 9) (right : n < 10 ^ 9) (less : m < n)
    (begins : fraction m <+: fraction n) :
    textKey (appendNano n ++ ascii "Z") < textKey (appendNano m ++ ascii "Z") := by
  obtain ⟨rest, split⟩ := begins
  have nonzero : n ≠ 0 := by omega
  rw [appendNano_eq left, appendNano_eq right, if_neg nonzero]
  by_cases zero : m = 0
  · rw [if_pos zero]
    exact cons_lt_cons_iff.mpr (.inl (by decide))
  · rw [if_neg zero, ← split]
    cases rest with
    | nil =>
      rw [append_nil] at split
      exact absurd (fraction_injective left right split) (Nat.ne_of_lt less)
    | cons digit rest =>
      have member : digit ∈ fraction n := by
        rw [← split]
        simp
      have small := (digit_of_mem_fraction member).2
      simp only [textKey_append, textKey_cons, cons_append, append_assoc]
      refine cons_lt_cons_iff.mpr (.inr ⟨rfl, (append_lt_append_left _).mpr ?_⟩)
      exact cons_lt_cons_iff.mpr (.inl (Nat.lt_of_le_of_lt small (by decide)))

theorem fraction_text_lt (left : m < 10 ^ 9) (right : n < 10 ^ 9) (less : m < n)
    (apart : ¬ fraction m <+: fraction n) :
    textKey (appendNano m ++ ascii "Z") < textKey (appendNano n ++ ascii "Z") := by
  obtain ⟨notBefore, ordered⟩ := fraction_lt left right less apart
  have nonzero : m ≠ 0 := by
    rintro rfl
    rw [fraction_zero] at apart
    exact apart nil_prefix
  rw [appendNano_eq left, appendNano_eq right, if_neg nonzero, if_neg (by omega)]
  simp only [textKey_append, textKey_cons, cons_append]
  refine cons_lt_cons_iff.mpr (.inr ⟨rfl, ?_⟩)
  exact (textKey_append_lt_iff apart notBefore _ _).mpr ordered

theorem format_lt_iff_of_year (differ : older.year ≠ newer.year) :
    textKey older.formatRFC3339Nano < textKey newer.formatRFC3339Nano ↔
      textKey (yearText older.year) < textKey (yearText newer.year) := by
  rw [textKey_format, textKey_format]
  exact textKey_append_lt_iff (yearText_apart differ) (yearText_apart differ.symm) _ _

theorem format_lt_iff_of_same_year (same : older.year = newer.year) :
    textKey older.formatRFC3339Nano < textKey newer.formatRFC3339Nano ↔
      older.clock < newer.clock ∨ older.clock = newer.clock ∧
        textKey (appendNano older.nanosecond ++ ascii "Z") <
          textKey (appendNano newer.nanosecond ++ ascii "Z") := by
  rw [textKey_format, textKey_format, same, append_lt_append_left,
    clockText_lt_iff]

/-- Instants whose texts are not the other way round. -/
theorem format_lt_of_not_misordered (before : older.key < newer.key)
    (ordered : ¬ older.Misordered newer) :
    textKey older.formatRFC3339Nano < textKey newer.formatRFC3339Nano := by
  unfold Instant.Misordered at ordered
  by_cases same : older.year = newer.year
  · rw [if_pos same, not_and] at ordered
    rw [key_lt_iff, same] at before
    rw [format_lt_iff_of_same_year same]
    rcases before with less | ⟨_, less | ⟨second, less⟩⟩
    · exact absurd less (lt_irrefl _)
    · exact .inl less
    · exact .inr ⟨second, fraction_text_lt older.nanosecond_lt newer.nanosecond_lt less
        (ordered second)⟩
  · rw [if_neg same] at ordered
    rw [format_lt_iff_of_year same]
    refine lt_of_le_of_ne (not_lt.mp ordered) ?_
    intro equal
    have texts : yearText older.year = yearText newer.year :=
      map_injective_iff.mpr (fun _ _ => UInt8.toNat_inj.mp) equal
    exact yearText_apart same (texts ▸ prefix_refl _)

theorem format_gt_of_misordered (before : older.key < newer.key)
    (misordered : older.Misordered newer) :
    textKey newer.formatRFC3339Nano < textKey older.formatRFC3339Nano := by
  unfold Instant.Misordered at misordered
  by_cases same : older.year = newer.year
  · rw [if_pos same] at misordered
    obtain ⟨second, begins⟩ := misordered
    rw [key_lt_iff, same, second] at before
    have less : older.nanosecond < newer.nanosecond := by simpa using before
    rw [format_lt_iff_of_same_year same.symm]
    exact .inr ⟨second.symm, fraction_gt older.nanosecond_lt newer.nanosecond_lt less begins⟩
  · rw [if_neg same] at misordered
    exact (format_lt_iff_of_year (Ne.symm same)).mpr misordered

/-- The texts of two instants are in their order exactly when they are not misordered. -/
theorem format_lt_iff (before : older.key < newer.key) :
    textKey older.formatRFC3339Nano < textKey newer.formatRFC3339Nano ↔
      ¬ older.Misordered newer := by
  constructor
  · intro less misordered
    exact lt_asymm less (format_gt_of_misordered before misordered)
  · exact format_lt_of_not_misordered before

theorem format_injective :
    Function.Injective fun t : Instant => textKey t.formatRFC3339Nano := by
  have differ : ∀ s t : Instant, s.key < t.key →
      textKey s.formatRFC3339Nano ≠ textKey t.formatRFC3339Nano := by
    intro s t before
    by_cases misordered : s.Misordered t
    · exact (format_gt_of_misordered before misordered).ne'
    · exact (format_lt_of_not_misordered before misordered).ne
  intro s t same
  apply key_injective
  rcases lt_trichotomy s.key t.key with less | equal | greater
  · exact absurd same (differ s t less)
  · exact equal
  · exact absurd same.symm (differ t s greater)

end Order

end Gossipper.Go
