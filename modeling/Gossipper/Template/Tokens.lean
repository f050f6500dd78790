/-
Module: Gossipper.Template.Tokens
Purpose: The keys of the tokens that the renderer resolves, line by line, and the same
  keys read off the whole text: a bracket opens a token when it is closed before the
  line ends.
Trusted boundary: none
Main exports: tokenKeys, opensToken, tokenKeys_eq, splitLines_terminated
-/
import Gossipper.Lib.Brackets
import Gossipper.Template.Resolve

namespace Gossipper.Template

open Go Brackets List Option

/-- The keys of the tokens of a template, in the order in which the renderer resolves
them. -/
def tokenKeys (raw : Bytes) : List Bytes :=
  (splitLines raw).flatMap fun line => ((pieces line).filterMap Piece.token?).map tokenKey

/-- A bracket that is closed on its line. -/
def opensToken (text : Bytes) : Bool :=
  text.head? == some openBracket && decide (closeBracket ∈ text.takeWhile (· ≠ lf))

theorem opensToken_cons :
    opensToken (b :: rest) = true ↔
      b = openBracket ∧ closeBracket ∈ rest.takeWhile (· ≠ lf) := by
  constructor
  · intro isOpen
    simp only [opensToken, head?_cons, Bool.and_eq_true, beq_iff_eq, Option.some.injEq,
      decide_eq_true_eq] at isOpen
    obtain ⟨rfl, inside⟩ := isOpen
    refine ⟨rfl, ?_⟩
    rw [takeWhile_cons_of_pos (by decide), mem_cons] at inside
    exact inside.resolve_left (by decide)
  · rintro ⟨rfl, inside⟩
    rw [opensToken, takeWhile_cons_of_pos (by decide)]
    simp only [head?_cons, BEq.rfl, Bool.true_and, decide_eq_true_eq]
    exact mem_cons_of_mem _ inside

theorem opensToken_closes (b : UInt8) (rest : Bytes) (isOpen : opensToken (b :: rest) = true) :
    closeBracket ∈ rest :=
  (List.takeWhile_prefix _).subset (opensToken_cons.mp isOpen).2

/-! ### The lines of a text -/

private theorem splitLinesFrom_terminated (done : List Bytes) (lines : List Line) (tail : Line) :
    scanLines (fun lines line => (.inl (lines ++ [trimSuffix line [cr]]) : List Bytes ⊕ Empty))
        done [] (terminated lines ++ tail.text) =
      .ended (done ++ lines.map fun line => trimSuffix line.text [cr]) tail.text := by
  induction lines generalizing done with
  | nil => simpa using scanLines_tail done tail
  | cons line rest ih =>
    rw [terminated_cons, append_assoc, cons_append, scanLines_line]
    dsimp only
    rw [ih]
    simp

theorem splitLines_terminated (lines : List Line) (tail : Line) :
    splitLines (terminated lines ++ tail.text) =
      (lines.map fun line => trimSuffix line.text [cr]) ++
        if tail.text = [] then [] else [tail.text] := by
  rw [splitLines, splitLinesFrom_terminated]
  dsimp only
  split <;> simp

/-! ### One line -/

theorem tokenKey_bracketed (key : Bytes) :
    tokenKey (openBracket :: (key ++ [closeBracket])) = key := by
  have opened : trimPrefix (openBracket :: (key ++ [closeBracket])) (ascii "[") =
      key ++ [closeBracket] := by
    have starts : hasPrefix (openBracket :: (key ++ [closeBracket])) (ascii "[") = true :=
      hasPrefix_iff.mpr ⟨key ++ [closeBracket], rfl⟩
    rw [trimPrefix, if_pos starts]
    rfl
  rw [tokenKey, opened]
  exact trimSuffix_append key [closeBracket]

private theorem takeWhile_noLF {text : Bytes} (noLF : lf ∉ text) :
    text.takeWhile (· ≠ lf) = text := by
  rw [takeWhile_eq_self_iff]
  intro b member
  simp only [decide_not, Bool.not_eq_true', decide_eq_false_iff_not]
  rintro rfl
  exact noLF member

private theorem opensToken_line {b : UInt8} {rest : Bytes} (noLF : lf ∉ rest) :
    opensToken (b :: rest) = true ↔ b = openBracket ∧ closeBracket ∈ rest := by
  rw [opensToken_cons, takeWhile_noLF noLF]

variable {line : Bytes}

private theorem keysFrom_line (state : Option Bytes) (noLF : lf ∉ line) :
    ((piecesFrom (state.map (· ++ [openBracket])) line).filterMap Piece.token?).map tokenKey =
      keysFrom closeBracket opensToken state line := by
  induction line generalizing state with
  | nil => cases state <;> simp [piecesFrom, keysFrom]
  | cons b rest ih =>
    rw [mem_cons, not_or] at noLF
    cases state with
    | none =>
      by_cases isOpen : b = openBracket ∧ closeBracket ∈ rest
      · rw [map_none, piecesFrom, if_pos isOpen, keysFrom,
          if_pos ((opensToken_line noLF.2).mpr isOpen),
          ← ih (some []) noLF.2, isOpen.1]
        rfl
      · rw [map_none, piecesFrom, if_neg isOpen, keysFrom,
          if_neg fun isToken => isOpen ((opensToken_line noLF.2).mp isToken),
          ← ih none noLF.2]
        rfl
    | some key =>
      rw [map_some, piecesFrom, keysFrom]
      by_cases isClose : b = closeBracket
      · have text : (b :: (key ++ [openBracket])).reverse =
            openBracket :: (key.reverse ++ [closeBracket]) := by
          simp [isClose]
        rw [if_pos isClose, if_pos isClose, ← ih none noLF.2, text]
        simp [Piece.token?, tokenKey_bracketed]
      · rw [if_neg isClose, if_neg isClose,
          ← ih (some (b :: key)) noLF.2]
        rfl

theorem keys_line (noLF : lf ∉ line) :
    ((pieces line).filterMap Piece.token?).map tokenKey = keys closeBracket opensToken line :=
  keysFrom_line none noLF

/-! ### The whole text -/

/-- A token does not look past the end of its line. -/
theorem keys_line_append (noLF : lf ∉ line) (rest : Bytes) :
    keys closeBracket opensToken (line ++ lf :: rest) =
      keys closeBracket opensToken line ++ keys closeBracket opensToken rest := by
  rw [keys_append opensToken_closes]
  · rw [keys_skip (Bool.eq_false_iff.mpr fun isOpen => by cases (opensToken_cons.mp isOpen).1)]
  · intro b more ending
    have moreNoLF : lf ∉ more := fun member => noLF (ending.subset (mem_cons_of_mem b member))
    have line : (more ++ lf :: rest).takeWhile (· ≠ lf) = more := by
      rw [takeWhile_append_of_pos (takeWhile_eq_self_iff.mp (takeWhile_noLF moreNoLF))]
      simp
    rw [Bool.eq_iff_iff, opensToken_line moreNoLF, opensToken_cons, line]

theorem keys_trimSuffix_cr (noLF : lf ∉ line) :
    keys closeBracket opensToken (trimSuffix line [cr]) = keys closeBracket opensToken line := by
  unfold trimSuffix
  split
  · rename_i ends
    obtain ⟨front, rfl⟩ := hasSuffix_iff.mp ends
    rw [length_append, Nat.add_sub_cancel, take_left, keys_append opensToken_closes]
    · rw [keys_skip (by decide), Brackets.keys_nil, append_nil]
    · intro b more ending
      have moreNoLF : lf ∉ more := fun member =>
        noLF (mem_append_left _ (ending.subset (mem_cons_of_mem b member)))
      have endNoLF : lf ∉ more ++ [cr] := by
        simpa using ⟨moreNoLF, by decide⟩
      have notCR : closeBracket ≠ cr := by decide
      rw [Bool.eq_iff_iff, opensToken_line moreNoLF, opensToken_line endNoLF, mem_append,
        mem_singleton, or_iff_left notCR]
  · rfl

theorem tokenKeys_eq (raw : Bytes) : tokenKeys raw = keys closeBracket opensToken raw := by
  obtain ⟨lines, tail, rfl⟩ := exists_terminated raw
  rw [tokenKeys, splitLines_terminated, flatMap_append]
  induction lines with
  | nil =>
    rw [map_nil, flatMap_nil, nil_append, terminated_nil, nil_append]
    split
    · rename_i empty
      rw [empty, flatMap_nil, Brackets.keys_nil]
    · rw [flatMap_singleton, keys_line tail.noLF]
  | cons line rest ih =>
    have noLF : lf ∉ trimSuffix line.text [cr] :=
      fun member => line.noLF (trimSuffix_subset _ _ member)
    rw [map_cons, flatMap_cons, append_assoc, ih, keys_line noLF,
      keys_trimSuffix_cr line.noLF, terminated_cons, append_assoc, cons_append,
      keys_line_append line.noLF]

end Gossipper.Template
