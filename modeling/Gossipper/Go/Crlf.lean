/-
Module: Gossipper.Go.Crlf
Purpose: Texts whose lines are joined by `"\r\n"`: splitting is the inverse of
  joining, and `"\r\n\r\n"` stands exactly where a line is empty.
Trusted boundary: none
Main exports: split_crlf_append, join_split, split_join, Filled, index_join,
  join_not_hasSuffix
-/
import Gossipper.Go.Bytes

namespace Gossipper.Go

open List Option

/-! ### Joining -/

@[simp] theorem join_singleton (line sep : Bytes) : join [line] sep = line := by
  simp [join]

theorem join_cons_cons (line next : Bytes) (rest : List Bytes) (sep : Bytes) :
    join (line :: next :: rest) sep = line ++ (sep ++ join (next :: rest) sep) := by
  simp [join, List.intercalate]

theorem join_append (leftNonempty : left ≠ []) (rightNonempty : right ≠ []) (sep : Bytes) :
    join (left ++ right) sep = join left sep ++ (sep ++ join right sep) := by
  obtain ⟨first, more, rfl⟩ := exists_cons_of_ne_nil rightNonempty
  induction left with
  | nil => exact absurd rfl leftNonempty
  | cons line rest ih =>
    cases rest with
    | nil => simp [join_cons_cons]
    | cons next others =>
      simp only [cons_append, join_cons_cons, append_assoc]
      rw [← cons_append, ih (by simp)]

variable {lines : List Bytes}

theorem join_append_crlf (nonempty : lines ≠ []) :
    join lines crlf ++ crlf = lines.flatMap (· ++ crlf) := by
  induction lines with
  | nil => exact absurd rfl nonempty
  | cons line rest ih =>
    cases rest with
    | nil => simp
    | cons next others =>
      rw [join_cons_cons, flatMap_cons, ← ih (by simp)]
      simp

theorem mem_join (member : b ∈ join parts sep) :
    (∃ part ∈ parts, b ∈ part) ∨ b ∈ sep := by
  induction parts with
  | nil => simp [join] at member
  | cons part rest ih =>
    cases rest with
    | nil => exact .inl ⟨part, by simp, by simpa using member⟩
    | cons next others =>
      rw [join_cons_cons, mem_append, mem_append] at member
      rcases member with here | between | later
      · exact .inl ⟨part, by simp, here⟩
      · exact .inr between
      · rcases ih later with ⟨found, inRest, inside⟩ | between
        · exact .inl ⟨found, mem_cons_of_mem _ inRest, inside⟩
        · exact .inr between

/-! ### Splitting -/

theorem cr_ne_lf : cr ≠ lf := by decide

private theorem crlf_start :
    crlf <+: b :: c :: rest ↔ b = cr ∧ c = lf := by
  simp only [crlf, cons_prefix_cons, nil_prefix, and_true]
  exact and_congr eq_comm eq_comm

private theorem splitFrom_crlf (field rest : Bytes) :
    splitFrom crlf 0 field (cr :: lf :: rest) = field.reverse :: splitFrom crlf 0 [] rest := by
  rw [splitFrom, if_pos (hasPrefix_iff.mpr (crlf_start.mpr ⟨rfl, rfl⟩))]
  rfl

private theorem splitFrom_byte (field rest : Bytes) (other : ¬ (b = cr ∧ c = lf)) :
    splitFrom crlf 0 field (b :: c :: rest) = splitFrom crlf 0 (b :: field) (c :: rest) := by
  rw [splitFrom, if_neg fun found => other (crlf_start.mp (hasPrefix_iff.mp found))]

private theorem splitFrom_last (field : Bytes) (b : UInt8) :
    splitFrom crlf 0 field [b] = [(b :: field).reverse] := by
  simp [splitFrom, hasPrefix]

private theorem splitFrom_append : ∀ (before field rest : Bytes),
    splitFrom crlf 0 field (before ++ (crlf ++ rest)) =
      splitFrom crlf 0 field before ++ splitFrom crlf 0 [] rest
  | [], field, rest => splitFrom_crlf field rest
  | [b], field, rest => by
    have other : ¬ (b = cr ∧ cr = lf) := fun lineEnd => cr_ne_lf lineEnd.2
    rw [splitFrom_last]
    exact (splitFrom_byte field (lf :: rest) other).trans (splitFrom_crlf _ _)
  | b :: c :: more, field, rest => by
    by_cases lineEnd : b = cr ∧ c = lf
    · obtain ⟨rfl, rfl⟩ := lineEnd
      simp only [cons_append, splitFrom_crlf]
      rw [← splitFrom_append more [] rest]
      rfl
    · simp only [cons_append, splitFrom_byte _ _ lineEnd]
      rw [← splitFrom_append (c :: more) (b :: field) rest]
      rfl

theorem split_crlf_append (before rest : Bytes) :
    split (before ++ (crlf ++ rest)) crlf = split before crlf ++ split rest crlf :=
  splitFrom_append before [] rest

private theorem join_splitFrom : ∀ (s field : Bytes),
    join (splitFrom crlf 0 field s) crlf = field.reverse ++ s
  | [], field => by simp [splitFrom]
  | [b], field => by simp [splitFrom_last]
  | b :: c :: more, field => by
    by_cases lineEnd : b = cr ∧ c = lf
    · obtain ⟨rfl, rfl⟩ := lineEnd
      have nonempty : splitFrom crlf 0 [] more ≠ [] := split_ne_nil more crlf
      rw [splitFrom_crlf, ← singleton_append, join_append (by simp) nonempty,
        join_splitFrom more []]
      simp
    · rw [splitFrom_byte _ _ lineEnd, join_splitFrom (c :: more) (b :: field)]
      simp

theorem join_split (s : Bytes) : join (split s crlf) crlf = s :=
  join_splitFrom s []

private theorem splitFrom_line : ∀ (line field : Bytes), lf ∉ line →
    splitFrom crlf 0 field line = [field.reverse ++ line]
  | [], field, _ => by simp [splitFrom]
  | [b], field, _ => by simp [splitFrom_last]
  | b :: c :: more, field, noLF => by
    simp only [mem_cons, not_or] at noLF
    have other : ¬ (b = cr ∧ c = lf) := fun lineEnd => noLF.2.1 lineEnd.2.symm
    rw [splitFrom_byte _ _ other,
      splitFrom_line (c :: more) (b :: field) (by simpa using noLF.2)]
    simp

theorem split_line (noLF : lf ∉ line) : split line crlf = [line] :=
  splitFrom_line line [] noLF

theorem split_join (nonempty : lines ≠ [])
    (noLF : ∀ line ∈ lines, lf ∉ line) : split (join lines crlf) crlf = lines := by
  induction lines with
  | nil => exact absurd rfl nonempty
  | cons line rest ih =>
    have first := split_line (noLF line (by simp))
    cases rest with
    | nil => rwa [join_singleton]
    | cons next others =>
      rw [join_cons_cons, split_crlf_append, first,
        ih (by simp) fun l member => noLF l (by simp [member])]
      rfl

/-! ### The first empty line

A line without a line feed can hold the first byte of a separator only where a line
feed comes next, so nothing behind it may start with one. -/

variable {s : Bytes}

private theorem index_skip (other : ¬ crlfcrlf <+: b :: s) :
    index (b :: s) crlfcrlf = (index s crlfcrlf).map (· + 1) := by
  rw [index, if_neg fun found => other (hasPrefix_iff.mp found)]

private theorem line_not_crlf (nonempty : line ≠ []) (noLF : lf ∉ line)
    (boundary : s.head? ≠ some lf) : ¬ crlf <+: line ++ s := by
  intro found
  match line, s with
  | [b], [] => exact absurd found.length_le (by simp)
  | [b], c :: rest => exact boundary (by simp [(crlf_start.mp found).2])
  | b :: c :: more, s => exact noLF (by simp [(crlf_start.mp found).2])

theorem index_line (noLF : lf ∉ line) (boundary : s.head? ≠ some lf) :
    index (line ++ s) crlfcrlf = (index s crlfcrlf).map (· + line.length) := by
  induction line with
  | nil => simp
  | cons b rest ih =>
    have restNoLF : lf ∉ rest := fun member => noLF (by simp [member])
    have notHere : ¬ crlfcrlf <+: b :: (rest ++ s) := fun found =>
      line_not_crlf (cons_ne_nil b rest) noLF boundary
        ((prefix_append crlf crlf).trans found)
    rw [cons_append, index_skip notHere, ih restNoLF, Option.map_map]
    congr 1

private theorem index_lineEnd (filled : ¬ crlf <+: s) :
    index (crlf ++ s) crlfcrlf = (index s crlfcrlf).map (· + 2) := by
  have notHere : ¬ crlfcrlf <+: cr :: lf :: s := by
    simpa only [crlfcrlf, cons_prefix_cons, true_and] using filled
  have notNext : ¬ crlfcrlf <+: lf :: s := fun found =>
    cr_ne_lf (cons_prefix_cons.mp found).1
  rw [show crlf ++ s = cr :: lf :: s from rfl, index_skip notHere, index_skip notNext,
    Option.map_map]
  congr 1

/-- Lines that are not empty and hold no line feed. -/
def Filled (lines : List Bytes) : Prop :=
  ∀ line ∈ lines, line ≠ [] ∧ lf ∉ line

theorem Filled.append (l : Filled left) (r : Filled right) :
    Filled (left ++ right) := by
  intro line member
  rcases mem_append.mp member with inLeft | inRight
  · exact l line inLeft
  · exact r line inRight

/-- No separator starts inside joined lines none of which is empty. -/
theorem index_join (nonempty : lines ≠ []) (filled : Filled lines) (boundary : s.head? ≠ some lf) :
    index (join lines crlf ++ s) crlfcrlf =
      (index s crlfcrlf).map (· + (join lines crlf).length) := by
  induction lines with
  | nil => exact absurd rfl nonempty
  | cons line rest ih =>
    have noLF := (filled line (by simp)).2
    cases rest with
    | nil =>
      rw [join_singleton]
      exact index_line noLF boundary
    | cons next others =>
      have filledRest : Filled (next :: others) :=
        fun l member => filled l (by simp [member])
      have restFilled : ¬ crlf <+: join (next :: others) crlf ++ s := by
        obtain ⟨nextNonempty, nextNoLF⟩ := filledRest next (by simp)
        cases others with
        | nil =>
          rw [join_singleton]
          exact line_not_crlf nextNonempty nextNoLF boundary
        | cons third more =>
          rw [join_cons_cons, append_assoc]
          exact line_not_crlf nextNonempty nextNoLF (by simp [cr_ne_lf])
      rw [join_cons_cons, append_assoc, index_line noLF (by simp [cr_ne_lf]),
        append_assoc, index_lineEnd restFilled,
        ih (by simp) filledRest, Option.map_map, Option.map_map]
      congr 1
      funext i
      simp only [Function.comp_apply, length_append, length_cons, length_nil]
      omega

theorem index_separator (s : Bytes) : index (crlfcrlf ++ s) crlfcrlf = some 0 :=
  if_pos (hasPrefix_iff.mpr (prefix_append crlfcrlf s))

theorem hasSuffix_crlf_append (start : Bytes) (long : 2 ≤ s.length) :
    hasSuffix (start ++ s) crlf = hasSuffix s crlf := by
  rw [Bool.eq_iff_iff, hasSuffix_iff, hasSuffix_iff]
  constructor
  · intro ends
    exact suffix_of_suffix_length_le ends (suffix_append start s) long
  · intro ends
    exact ends.trans (suffix_append start s)

theorem not_hasSuffix_line (start : Bytes) (nonempty : line ≠ []) (noLF : lf ∉ line) :
    hasSuffix (start ++ line) crlf = false := by
  rw [← Bool.not_eq_true, hasSuffix_iff]
  intro ends
  have lastByte := ends.getLast (by simp)
  rw [getLast_append_of_ne_nil _ nonempty] at lastByte
  have isLF : line.getLast nonempty = lf := by simpa using lastByte.symm
  exact noLF (isLF ▸ getLast_mem nonempty)

/-- Joined lines end with the last one. -/
theorem join_concat (front : List Bytes) (last : Bytes) :
    ∃ start, join (front ++ [last]) crlf = start ++ last := by
  by_cases alone : front = []
  · exact ⟨[], by simp [alone]⟩
  · exact ⟨join front crlf ++ crlf, by rw [join_append alone (by simp)]; simp⟩

theorem join_not_hasSuffix (nonempty : lines ≠ [])
    (filled : Filled lines) : hasSuffix (join lines crlf) crlf = false := by
  obtain ⟨front, last, rfl⟩ : ∃ front last, lines = front ++ [last] :=
    ⟨_, _, (dropLast_append_getLast nonempty).symm⟩
  obtain ⟨lastNonempty, noLF⟩ := filled last (by simp)
  obtain ⟨start, joined⟩ := join_concat front last
  rw [joined]
  exact not_hasSuffix_line start lastNonempty noLF

end Gossipper.Go
