/-
Module: Gossipper.Engine.AuthParams
Purpose: `splitAuthParams` takes a list of parameters apart that was joined with commas:
  a parameter is scanned as a whole when every comma in it is quoted and every quote
  is closed.
Trusted boundary: none
Main exports: scanQuotes, OneParam, OneParam.bare, OneParam.quoted, splitAuthParams_join
-/
import Gossipper.Engine.Auth
import Gossipper.Go.QuoteBody

namespace Gossipper.Engine

open Go Sip List Option

/-- The quoting state of `splitAuthParams` behind some characters, and `none` where one
of them ends the parameter. -/
def scanQuotes : Bool → List Segment → Option Bool
  | quoted, [] => some quoted
  | quoted, part :: rest =>
    if part.rune = doubleQuote.toNat then scanQuotes (!quoted) rest
    else if part.rune = comma.toNat ∧ quoted = false then none
    else scanQuotes quoted rest

/-- A text that `splitAuthParams` keeps in one piece. -/
def OneParam (text : Bytes) : Prop :=
  scanQuotes false (segments text) = some false

instance (text : Bytes) : Decidable (OneParam text) :=
  inferInstanceAs (Decidable (_ = _))

theorem scanQuotes_append (quoted : Bool) (left right : List Segment) :
    scanQuotes quoted (left ++ right) =
      (scanQuotes quoted left).bind fun inside => scanQuotes inside right := by
  induction left generalizing quoted with
  | nil => rfl
  | cons part rest ih =>
    simp only [cons_append, scanQuotes]
    split
    · exact ih (!quoted)
    · split
      · rfl
      · exact ih quoted

/-- Inside quotes only a quote matters. -/
theorem scanQuotes_unquoted (noQuote : ∀ part ∈ parts, part.rune ≠ doubleQuote.toNat)
    (noComma : quoted = true ∨ ∀ part ∈ parts, part.rune ≠ comma.toNat) :
    scanQuotes quoted parts = some quoted := by
  induction parts with
  | nil => rfl
  | cons part rest ih =>
    rw [forall_mem_cons] at noQuote
    have passes : ¬ (part.rune = comma.toNat ∧ quoted = false) := by
      rintro ⟨isComma, notQuoted⟩
      rcases noComma with isQuoted | absent
      · rw [isQuoted] at notQuoted
        cases notQuoted
      · exact absent part mem_cons_self isComma
    rw [scanQuotes, if_neg noQuote.1, if_neg passes]
    refine ih noQuote.2 (noComma.imp_right fun absent => ?_)
    exact fun other member => absent other (mem_cons_of_mem _ member)

variable {text : Bytes}

theorem segment_rune_ne (absent : b ∉ text) (small : b.toNat < 0x80) :
    ∀ part ∈ segments text, part.rune ≠ b.toNat :=
  fun _ member rune => absent (mem_of_segment_rune member small rune)

theorem OneParam.bare (noQuote : doubleQuote ∉ text) (noComma : comma ∉ text) :
    OneParam text :=
  scanQuotes_unquoted (segment_rune_ne noQuote (by decide))
    (.inr (segment_rune_ne noComma (by decide)))

/-- A quoted text is kept, whatever commas it holds. -/
theorem OneParam.quoted (noQuote : doubleQuote ∉ label)
    (noComma : comma ∉ label) (bodyNoQuote : doubleQuote ∉ body) :
    OneParam (label ++ ([doubleQuote] ++ body ++ [doubleQuote])) := by
  have quote : ∀ rest : Bytes, segments (doubleQuote :: rest) =
      { rune := doubleQuote.toNat, bytes := [doubleQuote] } :: segments rest :=
    segments_ascii (by decide)
  have startsAscii : ∀ rest : Bytes, ∀ b ∈ (doubleQuote :: rest).head?, b.toNat < 0x80 := by
    intro rest b first
    cases first
    decide
  have bodyScan : scanQuotes true (segments body) = some true :=
    scanQuotes_unquoted (segment_rune_ne bodyNoQuote (by decide)) (.inl rfl)
  have labelScan : scanQuotes false (segments label) = some false :=
    OneParam.bare noQuote noComma
  rw [OneParam, singleton_append, cons_append,
    segments_append (startsAscii _), quote, segments_append (startsAscii _), quote,
    scanQuotes_append,
    labelScan, bind_some, scanQuotes, if_pos rfl, Bool.not_false, scanQuotes_append,
    bodyScan, bind_some]
  decide

theorem OneParam.trimSpace (kept : OneParam text) (solid : SolidStart text) :
    OneParam (trimSpace text) := by
  have parts : segments text = (segments text).rdropWhile Segment.isSpace ++
      (segments text).rtakeWhile Segment.isSpace :=
    rdropWhile_append_rtakeWhile.symm
  have blankScan : ∀ quoted,
      scanQuotes quoted ((segments text).rtakeWhile Segment.isSpace) = some quoted := by
    intro quoted
    have space : ∀ part ∈ (segments text).rtakeWhile Segment.isSpace,
        part.isSpace = true :=
      fun part member => mem_rtakeWhile_imp member
    refine scanQuotes_unquoted (fun part member isQuote => ?_)
      (.inr fun part member isComma => ?_)
    · have isSpace : Go.isSpace part.rune = true := space part member
      rw [isQuote] at isSpace
      exact absurd isSpace (by decide)
    · have isSpace : Go.isSpace part.rune = true := space part member
      rw [isComma] at isSpace
      exact absurd isSpace (by decide)
  rw [OneParam, parts, scanQuotes_append] at kept
  rw [OneParam, solid.trimSpace, segments_rdropWhile]
  cases scanned : scanQuotes false ((segments text).rdropWhile Segment.isSpace) with
  | none => rw [scanned] at kept; cases kept
  | some quoted => rw [scanned, bind_some, blankScan] at kept; exact kept

/-! ### Splitting -/

/-- What is scanned without an end is added to the current parameter. -/
theorem splitAuthParamsFrom_scan {quoted after parts}
    (scanned : scanQuotes quoted parts = some after) (current : Bytes) (rest : List Segment) :
    splitAuthParamsFrom quoted current (parts ++ rest) =
      splitAuthParamsFrom after (current ++ parts.flatMap fun part => encodeRune part.rune)
        rest := by
  induction parts generalizing quoted current with
  | nil =>
    cases scanned
    simp
  | cons part parts ih =>
    rw [scanQuotes] at scanned
    rw [cons_append, splitAuthParamsFrom, flatMap_cons, ← append_assoc]
    split at scanned
    · rename_i isQuote
      rw [if_pos isQuote]
      exact ih scanned _
    · rename_i notQuote
      split at scanned
      · cases scanned
      · rename_i passes
        rw [if_neg notQuote, if_neg passes]
        exact ih scanned _

/-- The separator of the parameters of a built header. -/
abbrev separator : Bytes := ascii ", "

theorem splitAuthParamsFrom_last {current text} (kept : OneParam text)
    (nonempty : text ≠ []) :
    splitAuthParamsFrom false current (segments text) = [trimSpace (current ++ reencode text)] := by
  have scanned := splitAuthParamsFrom_scan kept current []
  rw [append_nil] at scanned
  have written : reencode text ≠ [] := by
    rw [Ne, ← segments_eq_nil_iff, segments_reencode, map_eq_nil_iff, segments_eq_nil_iff]
    exact nonempty
  rw [scanned, splitAuthParamsFrom, if_neg]
  · rfl
  · simpa [reencode] using fun _ : current = [] => written

theorem splitAuthParamsFrom_next {current text rest} (kept : OneParam text) :
    splitAuthParamsFrom false current (segments (text ++ (separator ++ rest))) =
      trimSpace (current ++ reencode text) ::
        splitAuthParamsFrom false [space] (segments rest) := by
  have boundary : segments (separator ++ rest) =
      { rune := comma.toNat, bytes := [comma] } :: { rune := space.toNat, bytes := [space] } ::
        segments rest := by
    rw [show separator ++ rest = comma :: space :: rest from rfl, segments_ascii (by decide),
      segments_ascii (by decide)]
  rw [segments_append (by simp [separator, ascii]), boundary, splitAuthParamsFrom_scan kept]
  rfl

/-- The parameter that is read back for a text. -/
def readBack (text : Bytes) : Bytes :=
  trimSpace (reencode text)

variable {texts : List Bytes}

theorem join_solidStart (nonempty : texts ≠ [])
    (solid : ∀ text ∈ texts, SolidStart text) : SolidStart (join texts separator) := by
  match texts with
  | [] => exact absurd rfl nonempty
  | [text] =>
    rw [join_singleton]
    exact solid text mem_cons_self
  | text :: next :: rest =>
    rw [join_cons_cons]
    exact (solid text mem_cons_self).append _

/-- The induction goes along the parameters; only the last one is trimmed with the whole
header, and every later one starts behind the blank of its separator. -/
theorem splitAuthParamsFrom_join
    (startsHere : ∀ later, trimSpace (current ++ later) = trimSpace later)
    (kept : ∀ text' ∈ text :: texts, OneParam text')
    (solid : ∀ text' ∈ text :: texts, SolidStart text') :
    splitAuthParamsFrom false current (segments (trimSpace (join (text :: texts) separator))) =
      (text :: texts).map readBack := by
  induction texts generalizing text current with
  | nil =>
    have keptHere := kept text mem_cons_self
    have solidHere := solid text mem_cons_self
    have nonempty : trimSpace text ≠ [] := by
      match text, solidHere with
      | b :: rest, starts => exact trimSpace_ne_nil mem_cons_self starts.1 starts.2
    rw [join_singleton, splitAuthParamsFrom_last (keptHere.trimSpace solidHere) nonempty,
      startsHere, ← trimSpace_reencode, trimSpace_trimSpace]
    rfl
  | cons next rest ih =>
    have solidRest : SolidStart (join (next :: rest) separator) :=
      join_solidStart (by simp) fun other member => solid other (mem_cons_of_mem _ member)
    have trimmed : trimSpace (join (text :: next :: rest) separator) =
        text ++ (separator ++ trimSpace (join (next :: rest) separator)) := by
      rw [join_cons_cons, ← append_assoc,
        trimSpace_append ((solid text mem_cons_self).append _) solidRest, append_assoc]
    have behindBlank : ∀ later, trimSpace ([space] ++ later) = trimSpace later :=
      trimSpace_cons_space (by decide) (by decide)
    rw [trimmed, splitAuthParamsFrom_next (kept text mem_cons_self), startsHere,
      ih behindBlank
        (fun other member => kept other (mem_cons_of_mem _ member))
        (fun other member => solid other (mem_cons_of_mem _ member))]
    rfl

/-- Splitting takes apart what was joined. -/
theorem splitAuthParams_join (nonempty : texts ≠ [])
    (kept : ∀ text ∈ texts, OneParam text) (solid : ∀ text ∈ texts, SolidStart text) :
    splitAuthParams (trimSpace (join texts separator)) = texts.map readBack := by
  obtain ⟨text, rest, rfl⟩ := exists_cons_of_ne_nil nonempty
  exact splitAuthParamsFrom_join (fun _ => rfl) kept solid

end Gossipper.Engine
