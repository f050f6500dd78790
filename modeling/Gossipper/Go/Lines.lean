/-
Module: Gossipper.Go.Lines
Purpose: Reading bytes line by line, with a step function that sees one line at
  a time and either goes on or stops.  The scan takes bytes one after another,
  as the loops it models do; the theorems describe it by the lines of its input.
  Also `strings.Split` at a separator of one byte.
Trusted boundary: none
Main exports: scanLines_related, scanLines_stopped_iff, scanLines_ended_iff, split_byte_eq
-/
import Gossipper.Go.Bytes
import Gossipper.Go.Crlf

namespace Gossipper.Go

open List

/-- The text of one line, without the line feed that ends it. -/
structure Line where
  text : Bytes
  noLF : lf ∉ text

/-- The bytes of finished lines, each with its line feed. -/
def terminated : List Line → Bytes
  | [] => []
  | line :: rest => line.text ++ lf :: terminated rest

@[simp] theorem terminated_nil : terminated [] = [] := rfl

@[simp] theorem terminated_cons (line : Line) (rest : List Line) :
    terminated (line :: rest) = line.text ++ lf :: terminated rest := rfl

@[simp] theorem terminated_append (left right : List Line) :
    terminated (left ++ right) = terminated left ++ terminated right := by
  induction left with
  | nil => rfl
  | cons line rest ih => simp [ih]

theorem exists_terminated (bytes : Bytes) :
    ∃ (lines : List Line) (tail : Line), bytes = terminated lines ++ tail.text := by
  induction bytes with
  | nil => exact ⟨[], ⟨[], by simp⟩, rfl⟩
  | cons b rest ih =>
    obtain ⟨lines, tail, restEq⟩ := ih
    by_cases isLF : b = lf
    · subst isLF
      exact ⟨⟨[], by simp⟩ :: lines, tail, by simp [restEq]⟩
    · have notLF : lf ≠ b := fun equal => isLF equal.symm
      match lines with
      | [] =>
        exact ⟨[], ⟨b :: tail.text, by simp [notLF, tail.noLF]⟩, by simp [restEq]⟩
      | line :: more =>
        exact ⟨⟨b :: line.text, by simp [notLF, line.noLF]⟩ :: more, tail,
          by simp [restEq]⟩

/-- How a scan ends: a step stopped it, with the bytes behind that line unread,
or the input ran out inside a line. -/
inductive LineScan (σ ρ : Type) where
  | stopped (result : ρ) (rest : Bytes)
  | ended (state : σ) (tail : Bytes)

section Scan

variable {σ ρ : Type}

/-- The state or the result of a scan has a property, and what is left of the input is
part of a line. -/
def LineScan.Satisfies (Inv : σ → Prop) (Post : ρ → Prop) : LineScan σ ρ → Prop
  | .stopped result _ => Post result
  | .ended state tail => Inv state ∧ lf ∉ tail

/-- Two scans of one input that came to the same place, with related states or results. -/
inductive LineScan.Related (R : σ → σ → Prop) (Q : ρ → ρ → Prop) :
    LineScan σ ρ → LineScan σ ρ → Prop where
  | stopped {left right : ρ} (rest : Bytes) : Q left right →
      Related R Q (.stopped left rest) (.stopped right rest)
  | ended {left right : σ} (tail : Bytes) : R left right →
      Related R Q (.ended left tail) (.ended right tail)

/-- Feed the lines of the input to `step`.  `line` holds the bytes of the
current line, in reverse. -/
def scanLines (step : σ → Bytes → σ ⊕ ρ) : σ → Bytes → Bytes → LineScan σ ρ
  | state, line, [] => .ended state line.reverse
  | state, line, b :: rest =>
    if b = lf then
      match step state line.reverse with
      | .inl next => scanLines step next [] rest
      | .inr result => .stopped result rest
    else scanLines step state (b :: line) rest

/-- The step function goes on through all of some lines. -/
inductive Steps (step : σ → Bytes → σ ⊕ ρ) : σ → List Line → σ → Prop where
  | nil (state : σ) : Steps step state [] state
  | cons {state next final : σ} {line : Line} {rest : List Line} :
      step state line.text = .inl next → Steps step next rest final →
        Steps step state (line :: rest) final

variable {step : σ → Bytes → σ ⊕ ρ}

private theorem scanLines_open (state : σ) (before : Bytes)
    (noLF : lf ∉ line) :
    scanLines step state before (line ++ rest) =
      scanLines step state (line.reverse ++ before) rest := by
  induction line generalizing before with
  | nil => rfl
  | cons b more ih =>
    simp only [mem_cons, not_or] at noLF
    have notLF : b ≠ lf := fun equal => noLF.1 equal.symm
    rw [cons_append, scanLines, if_neg notLF, ih _ noLF.2]
    simp

theorem scanLines_line (state : σ) (line : Line) (rest : Bytes) :
    scanLines step state [] (line.text ++ lf :: rest) =
      match step state line.text with
      | .inl next => scanLines step next [] rest
      | .inr result => .stopped result rest := by
  rw [scanLines_open state [] line.noLF]
  simp [scanLines]

theorem scanLines_tail (state : σ) (tail : Line) :
    scanLines step state [] tail.text = .ended state tail.text := by
  have opened : scanLines step state [] (tail.text ++ []) = _ :=
    scanLines_open state [] tail.noLF
  simpa [scanLines] using opened

theorem scanLines_steps (steps : Steps step state lines final) (rest : Bytes) :
    scanLines step state [] (terminated lines ++ rest) = scanLines step final [] rest := by
  induction steps with
  | nil => rfl
  | cons goesOn _ ih =>
    rw [terminated_cons, append_assoc, cons_append, scanLines_line, goesOn]
    exact ih

/-- What every step on a line keeps holds of the state where the input runs out, and
what every stop gives holds of the result. -/
theorem scanLines_invariant {Inv : σ → Prop} {Post : ρ → Prop}
    (kept : ∀ state text next, lf ∉ text → step state text = .inl next → Inv state → Inv next)
    (stops : ∀ state text result, lf ∉ text → step state text = .inr result → Inv state →
      Post result)
    (start : Inv state) (noLF : lf ∉ line) (bytes : Bytes) :
    (scanLines step state line bytes).Satisfies Inv Post := by
  induction bytes generalizing state line with
  | nil => exact ⟨start, by simpa using noLF⟩
  | cons b rest ih =>
    simp only [scanLines]
    split
    · split
      · rename_i next outcome
        exact ih (kept _ _ _ (by simpa using noLF) outcome start) (by simp)
      · rename_i result outcome
        exact stops _ _ _ (by simpa using noLF) outcome start
    · rename_i notLF
      apply ih start
      rw [mem_cons, not_or]
      exact ⟨fun isLF => notLF isLF.symm, noLF⟩

/-- Related states stay related over a scan, when one line keeps them related. -/
theorem scanLines_related {R : σ → σ → Prop} {Q : ρ → ρ → Prop}
    (kept : ∀ left right text, R left right → Sum.LiftRel R Q (step left text) (step right text))
    (start : R left right) (line bytes : Bytes) :
    LineScan.Related R Q (scanLines step left line bytes) (scanLines step right line bytes) := by
  induction bytes generalizing left right line with
  | nil => exact .ended _ start
  | cons b rest ih =>
    simp only [scanLines]
    split
    · have stepped := kept left right line.reverse start
      cases fromLeft : step left line.reverse with
      | inl next =>
        rw [fromLeft] at stepped
        cases fromRight : step right line.reverse with
        | inl other =>
          rw [fromRight] at stepped
          exact ih (Sum.liftRel_inl_inl.mp stepped) []
        | inr other =>
          rw [fromRight] at stepped
          cases stepped
      | inr result =>
        rw [fromLeft] at stepped
        cases fromRight : step right line.reverse with
        | inl other =>
          rw [fromRight] at stepped
          cases stepped
        | inr other =>
          rw [fromRight] at stepped
          exact .stopped rest (Sum.liftRel_inr_inr.mp stepped)
    · exact ih start (b :: line)

/-- A scan stops exactly at the first line whose step stops it. -/
theorem scanLines_stopped_iff :
    scanLines step state [] bytes = .stopped result rest ↔
      ∃ lines final, ∃ last : Line, Steps step state lines final ∧
        step final last.text = .inr result ∧
        bytes = terminated lines ++ (last.text ++ lf :: rest) := by
  constructor
  · intro stopped
    obtain ⟨lines, tail, rfl⟩ := exists_terminated bytes
    induction lines generalizing state with
    | nil => simp [scanLines_tail] at stopped
    | cons line more ih =>
      rw [terminated_cons, append_assoc, cons_append, scanLines_line] at stopped
      cases outcome : step state line.text with
      | inl next =>
        rw [outcome] at stopped
        obtain ⟨lines, final, last, steps, stops, restEq⟩ := ih stopped
        exact ⟨line :: lines, final, last, .cons outcome steps, stops, by simp [restEq]⟩
      | inr found =>
        rw [outcome] at stopped
        simp only [LineScan.stopped.injEq] at stopped
        obtain ⟨rfl, rfl⟩ := stopped
        exact ⟨[], state, line, .nil state, outcome, by simp⟩
  · rintro ⟨lines, final, last, steps, stops, rfl⟩
    rw [scanLines_steps steps, scanLines_line, stops]

/-- A scan runs out of input exactly when its step goes on through every line. -/
theorem scanLines_ended_iff {state final bytes tail} :
    scanLines step state [] bytes = .ended final tail ↔
      ∃ lines, ∃ last : Line, Steps step state lines final ∧
        tail = last.text ∧ bytes = terminated lines ++ tail := by
  constructor
  · intro ended
    obtain ⟨lines, last, rfl⟩ := exists_terminated bytes
    induction lines generalizing state with
    | nil =>
      rw [terminated_nil, nil_append, scanLines_tail] at ended
      simp only [LineScan.ended.injEq] at ended
      obtain ⟨rfl, rfl⟩ := ended
      exact ⟨[], last, .nil state, rfl, rfl⟩
    | cons line more ih =>
      rw [terminated_cons, append_assoc, cons_append, scanLines_line] at ended
      cases outcome : step state line.text with
      | inl next =>
        rw [outcome] at ended
        obtain ⟨lines, last', steps, tailEq, restEq⟩ := ih ended
        exact ⟨line :: lines, last', .cons outcome steps, tailEq, by simp [restEq]⟩
      | inr found => simp [outcome] at ended
  · rintro ⟨lines, last, steps, rfl, rfl⟩
    rw [scanLines_steps steps, scanLines_tail]

end Scan

end Gossipper.Go

namespace Gossipper.Go

open List

private theorem splitFrom_one (c : UInt8) (field : Bytes) (b : UInt8) (rest : Bytes) :
    splitFrom [c] 0 field (b :: rest) =
      if b = c then field.reverse :: splitFrom [c] 0 [] rest
      else splitFrom [c] 0 (b :: field) rest := by
  have found : hasPrefix (b :: rest) [c] = decide (b = c) := by
    simp only [hasPrefix, isPrefixOf_cons_cons, isPrefixOf_nil_left, Bool.and_true]
    rw [Bool.eq_iff_iff, beq_iff_eq, decide_eq_true_iff]
    exact eq_comm
  rw [splitFrom, found]
  simp [decide_eq_true_eq, Nat.sub_self]

variable {c : UInt8}

private theorem splitFrom_before (absent : c ∉ before) (field rest : Bytes) :
    splitFrom [c] 0 field (before ++ rest) = splitFrom [c] 0 (before.reverse ++ field) rest := by
  induction before generalizing field with
  | nil => rfl
  | cons b more ih =>
    simp only [mem_cons, not_or] at absent
    rw [cons_append, splitFrom_one, if_neg fun isSep => absent.1 isSep.symm,
      ih absent.2]
    simp

theorem split_byte_cons (absent : c ∉ before) (rest : Bytes) :
    split (before ++ c :: rest) [c] = before :: split rest [c] := by
  rw [split, splitFrom_before absent, splitFrom_one, if_pos rfl]
  simp [split]

theorem split_byte_eq (absent : c ∉ s) : split s [c] = [s] := by
  have whole := splitFrom_before absent [] []
  rw [append_nil] at whole
  rw [split, whole]
  simp [splitFrom]

theorem notMem_of_mem_splitFrom (absent : c ∉ field) :
    ∀ part ∈ splitFrom [c] 0 field s, c ∉ part := by
  induction s generalizing field with
  | nil => simpa [splitFrom] using absent
  | cons b rest ih =>
    rw [splitFrom_one]
    split
    · simp only [forall_mem_cons, mem_reverse]
      exact ⟨absent, ih not_mem_nil⟩
    · rename_i other
      apply ih
      rw [mem_cons, not_or]
      exact ⟨fun isSep => other isSep.symm, absent⟩

theorem split_terminated (lines : List Line) (tail : Line) :
    split (terminated lines ++ tail.text) [lf] = lines.map Line.text ++ [tail.text] := by
  induction lines with
  | nil => exact split_byte_eq tail.noLF
  | cons line rest ih =>
    rw [terminated_cons, append_assoc, cons_append, split_byte_cons line.noLF,
      ih]
    rfl

end Gossipper.Go
