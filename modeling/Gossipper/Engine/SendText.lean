/-
Module: Gossipper.Engine.SendText
Purpose: The text of a send command before and after it is rendered: the parser's
  line ends, the removal of a common indentation and the closing of the header,
  after `internal/scenario/parser.go` and `internal/engine/engine.go`.
Trusted boundary: none
Main exports: Dedented, normalize_dedents
-/
import Mathlib.Data.List.Forall2
import Gossipper.Go.Crlf
import Gossipper.Sip.Message

namespace Gossipper.Engine

open Go Sip List

/-- A space or a tab. -/
def isBlank (b : UInt8) : Bool :=
  b == space || b == tab

/-- `countLeadingSpaceTab`.  Both characters take one byte. -/
def countLeadingSpaceTab (s : Bytes) : Nat :=
  (s.takeWhile isBlank).length

/-- The change of one line in `dedentSIPHeaderLines`. -/
def dedentHeaderLine (min : Nat) (line : Bytes) : Bytes :=
  if trimSpace line = [] then line
  else if min ≤ countLeadingSpaceTab line then line.drop min
  else line

/-- `dedentSIPHeaderLines`: the lines and the number of bytes taken off. -/
def dedentSIPHeaderLines (head : Bytes) : Bytes × Nat :=
  if head = [] then (head, 0)
  else
    let lines := split head crlf
    let first := lines.head?.getD []
    -- A start line at the left margin does not count.
    let skipFirstForMin := trimSpace first ≠ [] ∧ countLeadingSpaceTab first = 0
    let counted := if skipFirstForMin then lines.tail else lines
    match ((counted.filter (trimSpace · ≠ [])).map countLeadingSpaceTab).min? with
    | none | some 0 => (head, 0)
    | some min => (join (lines.map (dedentHeaderLine min)) crlf, min)

/-- The change of one line in `dedentLines`. -/
def dedentLine (n : Nat) (line : Bytes) : Bytes :=
  if trimSpace line = [] then line else line.drop (min n (countLeadingSpaceTab line))

/-- `dedentLines`. -/
def dedentLines (s : Bytes) (n : Nat) : Bytes :=
  if s = [] ∨ n = 0 then s else join ((split s crlf).map (dedentLine n)) crlf

/-- `normalizeSIPScenarioLineIndent`. -/
def normalizeSIPScenarioLineIndent (msg : Bytes) : Bytes :=
  if msg = [] then msg
  else
    match index msg crlfcrlf with
    | none => (dedentSIPHeaderLines msg).1
    | some idx =>
      let (head, minStripped) := dedentSIPHeaderLines (msg.take idx)
      let body := msg.drop (idx + crlfcrlf.length)
      let body := if 0 < minStripped then dedentLines body minStripped else body
      head ++ crlfcrlf ++ body

/-- `ensureMessageTerminator`. -/
def ensureMessageTerminator (msg : Bytes) : Bytes :=
  if hasSuffix msg crlfcrlf then msg
  else
    let hasBody := contains msg crlfcrlf
    if hasSuffix msg crlf then
      if hasBody then msg else msg ++ crlf
    else if hasBody then msg ++ crlf
    else msg ++ crlfcrlf

/-! ### Indentation -/

/-- A line with some of its leading blanks taken off; a blank line is kept as it is. -/
def Dedented (line result : Bytes) : Prop :=
  ∃ blanks, line = blanks ++ result ∧ (∀ b ∈ blanks, isBlank b = true) ∧
    (trimSpace line = [] → blanks = [])

theorem Dedented.refl (line : Bytes) : Dedented line line :=
  ⟨[], by simp⟩

private theorem dedented_drop (solid : trimSpace line ≠ [])
    (within : n ≤ countLeadingSpaceTab line) : Dedented line (line.drop n) := by
  refine ⟨line.take n, (take_append_drop n line).symm, ?_, fun blank => absurd blank solid⟩
  intro b member
  have leading : line.take n <+: line.takeWhile isBlank :=
    prefix_of_prefix_length_le (List.take_prefix n line) (List.takeWhile_prefix _)
      ((length_take_le n line).trans within)
  exact mem_takeWhile_imp (leading.subset member)

theorem dedentHeaderLine_dedents (min : Nat) (line : Bytes) :
    Dedented line (dedentHeaderLine min line) := by
  unfold dedentHeaderLine
  split
  · exact .refl line
  · split
    · exact dedented_drop ‹_› ‹_›
    · exact .refl line

theorem dedentLine_dedents (n : Nat) (line : Bytes) : Dedented line (dedentLine n line) := by
  unfold dedentLine
  split
  · exact .refl line
  · exact dedented_drop ‹_› (Nat.min_le_right _ _)

/-- Line by line, one text is another with leading blanks taken off. -/
def DedentedText (text result : Bytes) : Prop :=
  ∃ lines, List.Forall₂ Dedented (split text crlf) lines ∧ result = join lines crlf

theorem DedentedText.refl (text : Bytes) : DedentedText text text :=
  ⟨split text crlf, forall₂_same.mpr fun line _ => .refl line, (join_split text).symm⟩

theorem DedentedText.of_map {change : Bytes → Bytes}
    (dedents : ∀ line, Dedented line (change line)) :
    DedentedText text (join ((split text crlf).map change) crlf) :=
  ⟨_, forall₂_map_right_iff.mpr (forall₂_same.mpr fun line _ => dedents line), rfl⟩

theorem dedentSIPHeaderLines_dedents (head : Bytes) :
    DedentedText head (dedentSIPHeaderLines head).1 := by
  unfold dedentSIPHeaderLines
  split
  · exact .refl head
  · dsimp only
    split
    · exact .refl head
    · exact .refl head
    · exact .of_map (dedentHeaderLine_dedents _)

theorem dedentLines_dedents (s : Bytes) (n : Nat) : DedentedText s (dedentLines s n) := by
  unfold dedentLines
  split
  · exact .refl s
  · exact .of_map (dedentLine_dedents n)

/-- Two texts around an empty line are changed line by line. -/
theorem DedentedText.append {head body head' body'} (heads : DedentedText head head')
    (bodies : DedentedText body body') :
    DedentedText (head ++ (crlfcrlf ++ body)) (head' ++ (crlfcrlf ++ body')) := by
  obtain ⟨headLines, headDedents, rfl⟩ := heads
  obtain ⟨bodyLines, bodyDedents, rfl⟩ := bodies
  have headNonempty : headLines ≠ [] := by
    rintro rfl
    exact split_ne_nil head crlf (forall₂_nil_right_iff.mp headDedents)
  have bodyNonempty : bodyLines ≠ [] := by
    rintro rfl
    exact split_ne_nil body crlf (forall₂_nil_right_iff.mp bodyDedents)
  refine ⟨headLines ++ ([] :: bodyLines), ?_, ?_⟩
  · have lines : split (head ++ (crlfcrlf ++ body)) crlf =
        split head crlf ++ ([] :: split body crlf) := by
      rw [show head ++ (crlfcrlf ++ body) = head ++ (crlf ++ ([] ++ (crlf ++ body))) from rfl,
        split_crlf_append, split_crlf_append]
      rfl
    rw [lines]
    exact rel_append headDedents (.cons (.refl []) bodyDedents)
  · rw [join_append headNonempty (by simp)]
    obtain ⟨first, more, rfl⟩ := exists_cons_of_ne_nil bodyNonempty
    rw [join_cons_cons]
    rfl

theorem normalize_dedents (msg : Bytes) :
    DedentedText msg (normalizeSIPScenarioLineIndent msg) := by
  unfold normalizeSIPScenarioLineIndent
  split
  · exact .refl msg
  · split
    · exact dedentSIPHeaderLines_dedents msg
    · rename_i idx found
      dsimp only
      rw [append_assoc]
      conv => arg 1; rw [index_eq_some found]
      apply DedentedText.append (dedentSIPHeaderLines_dedents _)
      split
      · exact dedentLines_dedents _ _
      · exact .refl _

private theorem trimSpace_blanks (blank : ∀ b ∈ blanks, isBlank b = true) :
    trimSpace blanks = [] := by
  induction blanks with
  | nil => rfl
  | cons b rest ih =>
    simp only [forall_mem_cons, isBlank, Bool.or_eq_true, beq_iff_eq] at blank
    have small : b.toNat < 0x80 := by
      rcases blank.1 with rfl | rfl <;> decide
    have isSpace : isSpace b.toNat = true := by
      rcases blank.1 with rfl | rfl <;> decide
    rw [trimSpace_cons_space small isSpace]
    exact ih (by simpa [isBlank] using blank.2)

theorem Dedented.eq_nil_iff (dedented : Dedented line result) :
    result = [] ↔ line = [] := by
  obtain ⟨blanks, rfl, blank, kept⟩ := dedented
  constructor
  · rintro rfl
    rw [append_nil] at kept ⊢
    exact kept (trimSpace_blanks blank)
  · intro empty
    exact (append_eq_nil_iff.mp empty).2

theorem Dedented.noLF (dedented : Dedented line result) (noLF : lf ∉ line) : lf ∉ result := by
  obtain ⟨blanks, rfl, _, _⟩ := dedented
  exact fun member => noLF (mem_append_right blanks member)

end Gossipper.Engine
