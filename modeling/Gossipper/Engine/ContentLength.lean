/-
Module: Gossipper.Engine.ContentLength
Purpose: The Content-Length of a message that is sent.  Normalising the template,
  rendering it twice, setting the Digest headers and closing the header agree on the
  body, so the length in the message is the size of what follows its header.
Trusted boundary: none
Main exports: Sized, Sized.readMessage, renderSIPMessage_override, renderSIPMessage_contentLength
-/
import Gossipper.Engine.Auth
import Gossipper.Sip.Framing
import Gossipper.Template.BodyLength

namespace Gossipper.Engine

open Go Sip Template List

/-! ### Normalised templates -/

section Templates

variable {line result : Bytes} {lines results : List Bytes}

theorem Dedented.token_mem (dedented : Dedented line result) (token : Bytes) :
    Piece.token token ∈ pieces result ↔ Piece.token token ∈ pieces line := by
  obtain ⟨blanks, rfl, blank, _⟩ := dedented
  have noBracket : openBracket ∉ blanks := fun member => absurd (blank _ member) (by decide)
  rw [pieces_append noBracket]
  simp

/-- The line of the length keeps its shape. -/
theorem Dedented.length (blanks : ∀ b ∈ indent, b = space ∨ b = tab)
    (dedented : Dedented (lengthTemplate indent) result) :
    ∃ rest, result = lengthTemplate rest ∧ ∀ b ∈ rest, b = space ∨ b = tab := by
  obtain ⟨removed, whole, blank, _⟩ := dedented
  rcases append_eq_append_iff.mp whole with ⟨inName, rfl, name⟩ | ⟨rest, rfl, rfl⟩
  · -- Nothing of the name is removed: it starts with a letter.
    cases inName with
    | nil => exact ⟨[], name.symm, by simp⟩
    | cons b more =>
      have letter : b = 0x43 := (List.cons.inj name).1.symm
      have isBlank := blank b (by simp)
      rw [letter] at isBlank
      exact absurd isBlank (by decide)
  · exact ⟨rest, rfl, fun b member => blanks b (mem_append_right _ member)⟩

private theorem forall₂_append_left {α β : Type} {Rel : α → β → Prop} {left right both} (related : List.Forall₂ Rel (left ++ right) both) :
    ∃ left' right', both = left' ++ right' ∧ List.Forall₂ Rel left left' ∧
      List.Forall₂ Rel right right' := by
  induction left generalizing both with
  | nil => exact ⟨[], both, rfl, .nil, related⟩
  | cons a rest ih =>
    cases related with
    | cons first more =>
      obtain ⟨left', right', rfl, onLeft, onRight⟩ := ih more
      exact ⟨_ :: left', right', rfl, .cons first onLeft, onRight⟩

private theorem forall₂_mem_right {α β : Type} {Rel : α → β → Prop} {left right} (related : List.Forall₂ Rel left right) {b} (member : b ∈ right) :
    ∃ a ∈ left, Rel a b := by
  induction related with
  | nil => simp at member
  | cons first _ ih =>
    rcases mem_cons.mp member with rfl | later
    · exact ⟨_, mem_cons_self, first⟩
    · obtain ⟨a, inLeft, rel⟩ := ih later
      exact ⟨a, mem_cons_of_mem _ inLeft, rel⟩

variable [CaseTables]

theorem lenLines_dedented (template : LenLines lines)
    (dedents : List.Forall₂ Dedented lines results) : Nonempty (LenLines results) := by
  have allNoLF : ∀ result ∈ results, lf ∉ result := by
    intro result member
    obtain ⟨line, inLines, dedented⟩ := forall₂_mem_right dedents member
    exact dedented.noLF (template.noLF line inLines)
  have parts := dedents
  rw [template.eq] at parts
  obtain ⟨before, rest, rfl, onBefore, onRest⟩ := forall₂_append_left parts
  cases onRest with
  | cons onLength onAfter =>
    rename_i lengthResult after
    obtain ⟨indent, rfl, blanks⟩ := onLength.length template.blanks
    refine ⟨before, indent, after, rfl, allNoLF, blanks, ?_, ?_⟩
    · intro empty
      obtain ⟨line, inBefore, dedented⟩ := forall₂_mem_right onBefore empty
      exact template.noEmpty (dedented.eq_nil_iff.mp rfl ▸ inBefore)
    · intro result member token occurs
      have origin : ∃ line ∈ template.before ++ template.after, Dedented line result := by
        rcases mem_append.mp member with inBefore | inAfter
        · obtain ⟨line, inside, dedented⟩ := forall₂_mem_right onBefore inBefore
          exact ⟨line, mem_append_left _ inside, dedented⟩
        · obtain ⟨line, inside, dedented⟩ := forall₂_mem_right onAfter inAfter
          exact ⟨line, mem_append_right _ inside, dedented⟩
      obtain ⟨line, inside, dedented⟩ := origin
      exact template.onlyLen line inside token ((dedented.token_mem token).mp occurs)

theorem safeValues_dedented {env c} (safe : SafeValues env c lines)
    (dedents : List.Forall₂ Dedented lines results) : SafeValues env c results := by
  intro result member token occurs
  obtain ⟨line, inLines, dedented⟩ := forall₂_mem_right dedents member
  exact safe line inLines token ((dedented.token_mem token).mp occurs)

omit [CaseTables] in
theorem dropLastEmpty_subset (lines : List Bytes) : dropLastEmpty lines ⊆ lines := by
  unfold dropLastEmpty
  split
  · exact dropLast_subset lines
  · exact List.Subset.refl lines

omit [CaseTables] in
theorem dropLastEmpty_append (before : List Bytes) (filled : line ≠ []) (after : List Bytes) :
    dropLastEmpty (before ++ line :: after) = before ++ line :: dropLastEmpty after := by
  cases after with
  | nil => simp [dropLastEmpty, filled]
  | cons first more =>
    simp only [dropLastEmpty]
    rw [getLast?_append_of_ne_nil _ (by simp), getLast?_cons_cons]
    split
    · rw [dropLast_append_of_ne_nil (by simp), dropLast_cons_of_ne_nil (by simp)]
    · rfl

theorem lenLines_dropLastEmpty (template : LenLines lines) :
    Nonempty (LenLines (dropLastEmpty lines)) := by
  have filled : lengthTemplate template.indent ≠ [] := by simp [lengthTemplate, ascii]
  refine ⟨template.before, template.indent, Template.dropLastEmpty template.after, ?_, ?_,
    template.blanks, template.noEmpty, ?_⟩
  · rw [← dropLastEmpty_append _ filled, ← template.eq]
  · exact fun line member => template.noLF line (dropLastEmpty_subset lines member)
  · intro line member
    apply template.onlyLen
    rcases mem_append.mp member with inBefore | inAfter
    · exact mem_append_left _ inBefore
    · exact mem_append_right _ (dropLastEmpty_subset _ inAfter)

omit [CaseTables] in
theorem hasLenToken_append (start rest : Bytes) :
    hasLenToken (start ++ (ascii "[len]" ++ rest)) = true := by
  induction start with
  | nil => rfl
  | cons b more ih =>
    rw [cons_append, hasLenToken, ih, Bool.or_true]

omit [CaseTables] in
theorem join_of_mem (member : line ∈ lines) (sep : Bytes) :
    ∃ start rest, join lines sep = start ++ (line ++ rest) := by
  induction lines with
  | nil => simp at member
  | cons first others ih =>
    cases others with
    | nil => exact ⟨[], [], by simpa using (mem_singleton.mp member).symm⟩
    | cons next more =>
      rw [join_cons_cons]
      rcases mem_cons.mp member with rfl | later
      · exact ⟨[], sep ++ join (next :: more) sep, rfl⟩
      · obtain ⟨start, rest, whole⟩ := ih later
        exact ⟨first ++ (sep ++ start), rest, by rw [whole]; simp⟩

/-- The normalised template has the same one `[len]` and the same tokens. -/
theorem lenLines_normalized (template : LenLines (split raw crlf)) :
    Nonempty (LenLines (splitLines (normalizeSIPScenarioLineIndent raw))) ∧
      hasLenToken (normalizeSIPScenarioLineIndent raw) = true ∧
      ∀ {env c}, SafeValues env c (split raw crlf) →
        SafeValues env c (splitLines (normalizeSIPScenarioLineIndent raw)) := by
  obtain ⟨results, dedents, normalized⟩ := normalize_dedents raw
  obtain ⟨dedented⟩ := lenLines_dedented template dedents
  have nonempty : results ≠ [] := ne_nil_of_mem dedented.length_mem
  rw [normalized, splitLines_join nonempty dedented.noLF]
  refine ⟨lenLines_dropLastEmpty dedented, ?_, ?_⟩
  · obtain ⟨start, rest, whole⟩ := join_of_mem dedented.length_mem crlf
    have token : start ++ (lengthTemplate dedented.indent ++ rest) =
        (start ++ (dedented.indent ++ ascii "Content-Length: ")) ++ (ascii "[len]" ++ rest) := by
      simp [lengthTemplate, ascii]
    rw [whole, token]
    exact hasLenToken_append _ _
  · intro env c safe line member
    exact safeValues_dedented safe dedents line (dropLastEmpty_subset results member)

end Templates

/-! ### The end of a message -/

theorem closeBody_ends (lines : List Bytes) : hasSuffix (crlf ++ closeBody lines) crlf = true := by
  unfold closeBody
  split
  · assumption
  · rw [← append_assoc]
    exact hasSuffix_iff.mpr (suffix_append _ _)

/-- Closing an assembled text completes its header and leaves the body alone. -/
theorem ensureMessageTerminator_assemble {header} (nonempty : header ≠ [])
    (filled : Filled header) (behind : Option (List Bytes)) :
    ensureMessageTerminator (assemble (header ++ fromEmptyLine behind)) =
      join header crlf ++ (crlfcrlf ++ bodyOf behind) := by
  have headerOpen := join_not_hasSuffix nonempty filled
  have separators : ∀ {s : Bytes}, s.head? ≠ some lf →
      contains (join header crlf ++ s) crlfcrlf = contains s crlfcrlf := by
    intro s boundary
    rw [Go.contains, index_join nonempty filled boundary, Option.isSome_map, Go.contains]
  rw [assemble_eq nonempty filled]
  unfold ensureMessageTerminator
  dsimp only
  cases behind with
  | none =>
    have notClosed : hasSuffix (join header crlf) crlfcrlf = false := by
      rw [← Bool.not_eq_true, hasSuffix_iff] at headerOpen ⊢
      exact fun ends => headerOpen ((suffix_append crlf crlf).trans ends)
    have noBody := separators (s := []) (by simp)
    rw [assembledEnd, noBody, append_nil, headerOpen, notClosed]
    simp [bodyOf, Go.contains, index]
  | some body =>
    cases body with
    | nil =>
      have notClosed : hasSuffix (join header crlf ++ crlf) crlfcrlf = false := by
        rw [← Bool.not_eq_true, hasSuffix_iff] at headerOpen ⊢
        rintro ⟨start, whole⟩
        have shorter : (start ++ crlf) ++ crlf = join header crlf ++ crlf := by simpa using whole
        exact headerOpen ⟨start, append_cancel_right shorter⟩
      have lineEnd : hasSuffix (join header crlf ++ crlf) crlf = true :=
        hasSuffix_iff.mpr (suffix_append _ _)
      have noBody := separators (s := crlf) (by simp [cr_ne_lf])
      rw [assembledEnd, noBody, notClosed, lineEnd]
      simp [bodyOf, Go.contains, index, hasPrefix]
    | cons line rest =>
      have hasBody := separators (s := crlfcrlf ++ closeBody (line :: rest)) (by simp [cr_ne_lf])
      rw [Go.contains, Go.contains, index_separator, Option.isSome_some] at hasBody
      have lineEnd : hasSuffix (join header crlf ++ (crlfcrlf ++ closeBody (line :: rest)))
          crlf = true := by
        rw [show join header crlf ++ (crlfcrlf ++ closeBody (line :: rest)) =
          (join header crlf ++ crlf) ++ (crlf ++ closeBody (line :: rest)) by simp,
          hasSuffix_crlf_append _ (by simp)]
        exact closeBody_ends _
      rw [assembledEnd, Go.contains, hasBody, lineEnd]
      simp [bodyOf]

/-! ### Messages with the size of their body -/

/-- A message with a header line that gives the size of the body. -/
structure Sized where
  before : List Bytes
  indent : Bytes
  after : List Bytes
  body : Bytes
  blanks : ∀ b ∈ indent, b = space ∨ b = tab
  beforeLines : ∀ line ∈ before, trimSpace line ≠ [] ∧ lf ∉ line
  filled : Filled (before ++ lengthLine indent body.length :: after)

namespace Sized

/-- The header lines. -/
def lines (m : Sized) : List Bytes :=
  m.before ++ lengthLine m.indent m.body.length :: m.after

/-- The text before the empty line. -/
def head (m : Sized) : Bytes :=
  join m.lines crlf

/-- The bytes of the message. -/
def text (m : Sized) : Bytes :=
  m.head ++ (crlfcrlf ++ m.body)

theorem index_text (m : Sized) : index m.text crlfcrlf = some m.head.length := by
  have filled : Filled m.lines := m.filled
  rw [text, head, index_join (by simp [lines]) filled (by simp [cr_ne_lf]), index_separator]
  simp

/-- A start line, then header fields, none behind the length that gives another one. -/
def Readable [CaseTables] (m : Sized) : Prop :=
  m.before ≠ [] ∧ (∀ line ∈ m.before.tail ++ m.after, colon ∈ line) ∧
    ∀ line ∈ m.after, contentLengthText line = none

instance [CaseTables] (m : Sized) : Decidable m.Readable :=
  inferInstanceAs (Decidable (_ ∧ _ ∧ _))

end Sized

/-- A line with its carriage return, as the reader sees it. -/
def crLine (line : Bytes) (noLF : lf ∉ line) : Line where
  text := line ++ [cr]
  noLF := by
    simp only [mem_append, mem_singleton, not_or]
    exact ⟨noLF, cr_ne_lf.symm⟩

theorem chomp_crLine (line : Bytes) (noLF : lf ∉ line) :
    chomp (crLine line noLF).text = trimRight line crlf := by
  rw [chomp_eq, crLine]
  exact rdropWhile_concat_pos _ _ _ (by decide)

theorem terminated_crLines {lines : List Bytes} (noLF : ∀ line ∈ lines, lf ∉ line) :
    terminated (lines.pmap crLine noLF) = lines.flatMap (· ++ crlf) := by
  induction lines with
  | nil => rfl
  | cons line rest ih =>
    rw [pmap_cons, terminated_cons, ih]
    simp [crLine]

section Reading

variable [CaseTables]

theorem contentLengthText_lengthLine (blanks : ∀ b ∈ indent, b = space ∨ b = tab) (n : Nat) :
    contentLengthText (trimRight (lengthLine indent n) crlf) = some (decimal n) := by
  have digits : ∀ b ∈ decimal n, b.toNat < 0x80 ∧ isSpace b.toNat = false ∧ b ∉ crlf := by
    intro b member
    have bounds := decimal_digit member
    have notSpace : ∀ n : Nat, n < 0x3A → 0x30 ≤ n → isSpace n = false := by decide
    refine ⟨by omega, notSpace _ (by omega) bounds.1, ?_⟩
    · intro lineEnd
      simp only [mem_cons, not_mem_nil, or_false] at lineEnd
      rcases lineEnd with rfl | rfl <;> exact absurd bounds.1 (by decide)
  have written : lengthLine indent n =
      (indent ++ ascii "Content-Length") ++ colon :: (space :: decimal n) := by
    simp [lengthLine, itoa_natCast, ascii]
  have untrimmed : trimRight (lengthLine indent n) crlf = lengthLine indent n := by
    rw [lengthLine, itoa_natCast, ← append_assoc]
    exact trimRight_append (decimal_ne_nil n) fun b member => (digits b member).2.2
  have noColon : colon ∉ indent ++ ascii "Content-Length" := by
    rw [mem_append, not_or]
    refine ⟨fun member => ?_, by decide⟩
    rcases blanks colon member with isSpace | isTab
    · exact absurd isSpace (by decide)
    · exact absurd isTab (by decide)
  have name : trimSpace (indent ++ ascii "Content-Length") = ascii "Content-Length" := by
    clear written untrimmed noColon
    induction indent with
    | nil => decide
    | cons b rest ih =>
      simp only [forall_mem_cons] at blanks
      rw [cons_append, trimSpace_cons_space, ih blanks.2]
      · rcases blanks.1 with rfl | rfl <;> decide
      · rcases blanks.1 with rfl | rfl <;> decide
  have value : trimSpace (space :: decimal n) = decimal n := by
    rw [trimSpace_cons_space (by decide) (by decide)]
    exact trimSpace_solid fun b member => ⟨(digits b member).1, (digits b member).2.1⟩
  rw [untrimmed, contentLengthText, written, cut_append noColon]
  simp [name, value]

theorem contentLengthText_trimRight (other : contentLengthText field = none) :
    contentLengthText (trimRight field crlf) = none := by
  unfold contentLengthText at other ⊢
  cases parts : cut (trimRight field crlf) colon with
  | none => rfl
  | some pair =>
    obtain ⟨name, value⟩ := pair
    obtain ⟨trimmed, noColon⟩ := cut_eq_some parts
    obtain ⟨ending, whole⟩ : trimRight field crlf <+: field := rdropWhile_prefix _ _
    rw [trimmed, append_assoc, cons_append] at whole
    rw [← whole, cut_append noColon] at other
    dsimp only at other ⊢
    split at other
    · cases other
    · rename_i notLength
      rw [if_neg notLength]

/-- The declared length is the size of the body. -/
theorem Sized.declaredLength_eq (m : Sized) (fits : m.body.length < 2 ^ 63)
    (others : ∀ line ∈ m.after, contentLengthText line = none) (start : List Bytes) :
    declaredLength 0 ((start ++ lengthLine m.indent m.body.length :: m.after).map
      (trimRight · crlf)) = m.body.length := by
  have noneAfter : (m.after.map (trimRight · crlf)).filterMap contentLengthText = [] := by
    rw [filterMap_eq_nil_iff]
    intro field member
    obtain ⟨line, inAfter, rfl⟩ := mem_map.mp member
    exact contentLengthText_trimRight (others line inAfter)
  have last : (((start ++ lengthLine m.indent m.body.length :: m.after).map
      (trimRight · crlf)).filterMap contentLengthText).getLast? = some (decimal m.body.length) := by
    rw [map_append, map_cons, filterMap_append, filterMap_cons,
      contentLengthText_lengthLine m.blanks]
    simp [noneAfter]
  rw [declaredLength, last]
  simp [atoi_decimal fits]

/-- The header of a readable message, with what follows the message behind it. -/
def Sized.headerSection (m : Sized) (start : Bytes) (rest : List Bytes)
    (before : m.before = start :: rest)
    (colons : ∀ line ∈ rest ++ m.after, colon ∈ line) (more : Bytes) :
    HeaderSection (m.text ++ more) where
  gap := []
  startLine := crLine start (m.beforeLines start (by simp [before])).2
  lines := (rest ++ lengthLine m.indent m.body.length :: m.after).pmap crLine (by
    intro line member
    exact (m.filled line (by rw [before]; exact mem_cons_of_mem _ member)).2)
  emptyLine := crLine [] not_mem_nil
  rest := m.body ++ more
  notBlank := by
    rw [chomp_crLine, Ne, trimSpace_trimRight]
    exact (m.beforeLines start (by simp [before])).1
  colons := by
    intro line member
    obtain ⟨text, inside, rfl⟩ := mem_pmap.mp member
    rw [chomp_crLine]
    apply mem_trimRight _ (by decide)
    simp only [mem_append, mem_cons] at inside colons
    rcases inside with inRest | rfl | inAfter
    · exact colons text (.inl inRest)
    · exact mem_append_right _ (mem_append_left _ (by decide))
    · exact colons text (.inr inAfter)
  empty := by
    rw [chomp_crLine]
    rfl
  whole := by
    have closed : join m.lines crlf ++ crlf = m.lines.flatMap (· ++ crlf) :=
      join_append_crlf (by simp [Sized.lines])
    have header : m.text ++ more = m.lines.flatMap (· ++ crlf) ++ (crlf ++ (m.body ++ more)) := by
      rw [← closed, Sized.text, Sized.head]
      simp
    have allLines : m.lines =
        start :: (rest ++ lengthLine m.indent m.body.length :: m.after) := by
      rw [Sized.lines, before]
      rfl
    rw [header, terminated_crLines, allLines]
    simp [crLine]

/-- `ReadMessage` takes exactly a readable message off the stream. -/
theorem Sized.readMessage_text (m : Sized) (fits : m.body.length ≤ maxAlloc) (readable : m.Readable)
    (ending : ReadError) (more : Bytes) :
    ∃ text, readMessage ending (m.text ++ more) = (parseRead text, more) := by
  obtain ⟨nonempty, colons, others⟩ := readable
  obtain ⟨start, rest, before⟩ := exists_cons_of_ne_nil nonempty
  rw [before, tail_cons] at colons
  have small : m.body.length < 2 ^ 63 := lt_of_le_of_lt fits (by decide)
  obtain ⟨headers, read⟩ := readMessage_section ending (m.headerSection start rest before colons more)
  have length : (m.headerSection start rest before colons more).contentLength = m.body.length := by
    rw [HeaderSection.contentLength, HeaderSection.fields, ← m.declaredLength_eq small others rest]
    simp [Sized.headerSection, map_pmap, chomp_crLine]
  have behind : (m.headerSection start rest before colons more).rest = m.body ++ more := rfl
  have sizeOk : ¬ ((m.body.length : Int) < 0 ∨ (maxAlloc : Int) < m.body.length) := by omega
  have enough : ¬ (m.body ++ more).length < (m.body.length : Int).toNat := by simp
  refine ⟨(m.headerSection start rest before colons more).text ++ m.body, ?_⟩
  rw [read, length, behind]
  simp only [readBody, if_neg sizeOk, if_neg enough]
  simp

end Reading

/-! ### Rendering a message -/

section Rendering

variable [CaseTables] [PrintTable]

variable {env : Environment} {c : Context}

/-- A message is rendered in its context with some keywords set, each to one line. -/
theorem renderSIPMessage_override {provisional final : Passes}
    (rendered : renderSIPMessage e provisional final raw c = .ok msg) :
    ∃ headers, OneLine headers ∧
      renderTerminated final (normalizeSIPScenarioLineIndent raw)
        (c.override e.clockTick e.dynamicID headers) = .ok msg := by
  unfold renderSIPMessage at rendered
  dsimp only at rendered
  split at rendered
  · cases rendered
  · exact ⟨[], by simp [OneLine], rendered⟩
  · split at rendered
    · cases rendered
    · cases rendered
    · split at rendered
      · cases rendered
      · rename_i headers built
        exact ⟨headers, buildAuthHeaders_oneLine (by simp [OneLine]) built, rendered⟩

omit [PrintTable] in
theorem safeValues_override (oneLine : OneLine headers) (safe : SafeValues env c lines) :
    SafeValues env (c.override t d headers) lines := by
  intro line member token occurs rep drop resolved
  rcases resolveTokenStrict_override env c t d oneLine token rep drop resolved with noLF | same
  · exact noLF
  · exact safe line member token occurs rep drop same

omit [PrintTable] in
/-- A text that is rendered and closed has the size of its body in the line of the
length. -/
theorem renderTerminated_sized {env : Passes} {raw msg}
    (template : LenLines (splitLines raw)) (hasLen : hasLenToken raw = true)
    (alike : env.first.Alike env.second) (one : OneSpelling c.lastHeaders)
    (safe : SafeValues env.first c (splitLines raw))
    (safe' : SafeValues env.second c (splitLines raw))
    (rendered : renderTerminated env raw c = .ok msg)
    (fits : msg.length ≤ maxAlloc) : ∃ m : Sized, msg = m.text := by
  unfold renderTerminated at rendered
  split at rendered
  · cases rendered
  · rename_i text renderedText
    cases rendered
    obtain ⟨before, after, beforeLines, afterLines, rfl⟩ :=
      renderMessageStrict_length template hasLen alike one safe safe' renderedText
    have nonempty : ∀ line, headerLines before line after ≠ [] :=
      fun _ => by simp [Template.headerLines]
    rw [headerLines_lines, ensureMessageTerminator_assemble (nonempty _)
      (template.headerLines_filled beforeLines afterLines _)] at fits ⊢
    -- The size fits into an `int`, so adding the offset of `[len]` changes nothing.
    have small : (bodyOf (splitHeader after).2).length < 2 ^ 63 := by
      simp only [length_append] at fits
      exact lt_of_le_of_lt (by omega : _ ≤ maxAlloc) (by decide)
    rw [addInt, Int.add_zero, Int.bmod_eq_of_le (by omega) (by omega)]
    exact ⟨⟨before, template.indent, (splitHeader after).1, bodyOf (splitHeader after).2,
      template.blanks, beforeLines, template.headerLines_filled beforeLines afterLines _⟩, rfl⟩

/-- The Content-Length of a rendered message is the number of bytes behind its first
`"\r\n\r\n"`.  When the rendered header is one that `ReadMessage` accepts, with a start
line, a colon in each field and no other length behind this one, `ReadMessage` takes
exactly the message off a stream.  The template has CRLF line ends, as the parser makes
them, and the message fits into memory, as every Go string does.  Each pass looks at the clock and
visits the header map anew: both read the same files and clock texts of one size, and no two names
of the map differ in case only. -/
theorem renderSIPMessage_contentLength (e : AuthConfig) (provisional final : Passes) (c : Context)
    (raw msg : Bytes) (template : LenLines (split raw crlf))
    (alike : final.first.Alike final.second) (one : OneSpelling c.lastHeaders)
    (safe : ∀ env ∈ [final.first, final.second], SafeValues env c (split raw crlf))
    (rendered : renderSIPMessage e provisional final raw c = .ok msg)
    (fits : msg.length ≤ maxAlloc) :
    (∃ m : Sized, msg = m.text ∧ index msg crlfcrlf = some m.head.length ∧
      msg.drop (m.head.length + crlfcrlf.length) = m.body) ∧
    ∀ m : Sized, msg = m.text → m.Readable → ∀ ending more,
      ∃ text, readMessage ending (msg ++ more) = (parseRead text, more) := by
  obtain ⟨headers, oneLine, renderedText⟩ := renderSIPMessage_override rendered
  obtain ⟨⟨normalized⟩, hasLen, safeLines⟩ := lenLines_normalized template
  constructor
  · have safePass {env} (member : env ∈ [final.first, final.second]) :
        SafeValues env (c.override e.clockTick e.dynamicID headers)
          (splitLines (normalizeSIPScenarioLineIndent raw)) :=
      safeValues_override oneLine (safeLines (safe env member))
    have spelling : OneSpelling (c.override e.clockTick e.dynamicID headers).lastHeaders := one
    obtain ⟨m, rfl⟩ := renderTerminated_sized normalized hasLen alike spelling
      (safePass (by simp)) (safePass (by simp)) renderedText fits
    refine ⟨m, rfl, m.index_text, ?_⟩
    rw [Sized.text, ← append_assoc, ← length_append, drop_left]
  · rintro m rfl readable ending more
    have bodyFits : m.body.length ≤ maxAlloc := by
      simp only [Sized.text, length_append] at fits
      omega
    exact m.readMessage_text bodyFits readable ending more

end Rendering

section Concrete

attribute [local instance] CaseTables.asciiOnly PrintTable.asciiOnly

/-- An engine with a user, and with hashes of one digit. -/
def oneDigit : AuthConfig where
  authUsername := ascii "u"
  authPassword := ascii "p"
  md5Hex _ := ascii "1"
  sha256Hex _ := ascii "2"
  randomHex _ := none
  clockTick := 0
  dynamicID := 0

/-- An indented request with a line that is dropped, a keyword for a Digest header and a
body. -/
def authorizedTemplate : Bytes :=
  ascii "INFO a SIP/2.0\r\n [last_Via]\r\n [authentication]\r\n" ++
    ascii " Content-Length: [len]\r\n\r\n b\r\n"

/-- The context behind a challenge. -/
def challenged : Context :=
  { Context.zero with
    lastMessage :=
      ascii "SIP/2.0 401 No\r\nWWW-Authenticate: Digest realm=r,nonce=n\r\n\r\n" }

/-- The lines of the template. -/
def authorizedLines : LenLines (split authorizedTemplate crlf) where
  before := [ascii "INFO a SIP/2.0", ascii " [last_Via]", ascii " [authentication]"]
  indent := [space]
  after := [[], ascii " b", []]
  eq := by decide +kernel
  noLF := by decide +kernel
  blanks := by simp
  noEmpty := by decide
  onlyLen := by decide +kernel

/-- What it is rendered to. -/
def authorizedMessage : Sized where
  before := [ascii "INFO a SIP/2.0",
    ascii "Authorization: Digest username=\"u\", realm=\"r\", nonce=\"n\", " ++
      ascii "uri=\"a\", response=\"1\", algorithm=MD5"]
  indent := []
  after := []
  body := ascii "b\r\n"
  blanks := by simp
  beforeLines := by decide +kernel
  filled := by
    unfold Filled
    decide +kernel

/-- Two passes without files. -/
def noFilesPasses : Passes := ⟨noFiles, noFiles⟩

theorem authorizedMessage_sized :
    renderSIPMessage oneDigit noFilesPasses noFilesPasses authorizedTemplate challenged =
      .ok authorizedMessage.text ∧
    (∃ m : Sized, authorizedMessage.text = m.text ∧
      index authorizedMessage.text crlfcrlf = some m.head.length ∧
      authorizedMessage.text.drop (m.head.length + crlfcrlf.length) = m.body) ∧
    ∀ ending more,
      ∃ text, readMessage ending (authorizedMessage.text ++ more) = (parseRead text, more) :=
  have rendered : renderSIPMessage oneDigit noFilesPasses noFilesPasses authorizedTemplate
      challenged = .ok authorizedMessage.text := by decide +kernel
  have sized := renderSIPMessage_contentLength oneDigit noFilesPasses noFilesPasses challenged _ _
    authorizedLines
    ⟨rfl, rfl, rfl, .inl rfl, .inl rfl⟩ (@nodup_nil _) (by decide +kernel) rendered
    (by decide +kernel)
  ⟨rendered, sized.1, sized.2 authorizedMessage rfl (by decide +kernel)⟩

/-- A template with a header line that has no colon. -/
def subjectTemplate : Bytes :=
  ascii "INFO a SIP/2.0\r\nSubject\r\nContent-Length: [len]\r\n"

def subjectLines : LenLines (split subjectTemplate crlf) where
  before := [ascii "INFO a SIP/2.0", ascii "Subject"]
  indent := []
  after := [[]]
  eq := by decide +kernel
  noLF := by decide +kernel
  blanks := by simp
  noEmpty := by decide
  onlyLen := by decide +kernel

/-- A template whose body is a header value of the last message. -/
def twinTemplate : Bytes :=
  ascii "INFO a SIP/2.0\r\nContent-Length: [len]\r\n\r\n[last_X-A]\r\n"

/-- Two spellings of the name, and a second pass that visits them the other way round. -/
def twinContext : Context :=
  { Context.zero with
    lastHeaders := [(ascii "X-A", [ascii "a"]), (ascii "x-a", [ascii "bbb"])] }

def twinPasses : Passes where
  first := noFiles
  second := { noFiles with order := ⟨List.reverse, List.reverse_perm⟩ }

/-- `ReadMessage` rejects a header line without a colon and leaves the rest of the message unread.
With two spellings of a name the passes may disagree: 3 bytes are counted and 5 written. -/
theorem subjectMessage_unread :
    (Nonempty (LenLines (split subjectTemplate crlf)) ∧
      SafeValues noFiles Context.zero (split subjectTemplate crlf) ∧
      ∃ msg, renderSIPMessage oneDigit noFilesPasses noFilesPasses subjectTemplate Context.zero =
          .ok msg ∧
        readMessage .eof msg =
          (.fail (.malformedHeader (ascii "Subject")), ascii "Content-Length: 0\r\n\r\n")) ∧
    renderSIPMessage oneDigit twinPasses twinPasses twinTemplate twinContext =
      .ok (ascii "INFO a SIP/2.0\r\nContent-Length: 3\r\n\r\nbbb\r\n") :=
  ⟨⟨⟨subjectLines⟩, by decide +kernel,
    ascii "INFO a SIP/2.0\r\nSubject\r\nContent-Length: 0\r\n\r\n",
    by decide +kernel, by decide +kernel⟩, by decide +kernel⟩

end Concrete

end Gossipper.Engine
