/-
Module: Gossipper.Template.BodyLength
Purpose: The two passes of a message with a `[len]` token.  The passes differ in the
  lines that hold the token, and when those stand before the first empty line both
  have the same body, so the length counted in the first is right in the second.
Trusted boundary: none
Main exports: computeBodyLength_assemble, renderLinesStrict_noLF, renderMessageStrict_length
-/
import Mathlib.Data.List.Nodup
import Gossipper.Go.Crlf
import Gossipper.Lib.FirstMatch
import Gossipper.Template.Resolve

namespace Gossipper.Template

open Go Sip List FirstMatch

/-! ### Two readings of the clock and of the header map -/

/-- Texts that may stand for each other without a change of size: the same text, or two of one
length that both have a visible character. -/
def Similar (left right : Bytes) : Prop :=
  left = right ∨ left.length = right.length ∧
    (∃ b ∈ left, 0x21 ≤ b.toNat ∧ b.toNat < 0x7F) ∧ ∃ b ∈ right, 0x21 ≤ b.toNat ∧ b.toNat < 0x7F

namespace Similar

variable {left right : Bytes}

theorem length (similar : Similar left right) : left.length = right.length := by
  rcases similar with rfl | ⟨same, -⟩
  · rfl
  · exact same

theorem append {more others : Bytes} (front : Similar left right) (back : Similar more others) :
    Similar (left ++ more) (right ++ others) := by
  have sizes : (left ++ more).length = (right ++ others).length := by
    rw [length_append, length_append, front.length, back.length]
  rcases front with rfl | ⟨-, ⟨b, inLeft, visible⟩, ⟨d, inRight, visible'⟩⟩
  · rcases back with rfl | ⟨-, ⟨b, inMore, visible⟩, ⟨d, inOthers, visible'⟩⟩
    · exact .inl rfl
    · exact .inr ⟨sizes, ⟨b, mem_append_right _ inMore, visible⟩,
        ⟨d, mem_append_right _ inOthers, visible'⟩⟩
  · exact .inr ⟨sizes, ⟨b, mem_append_left _ inLeft, visible⟩,
      ⟨d, mem_append_left _ inRight, visible'⟩⟩

theorem blank_iff (similar : Similar left right) : trimSpace left = [] ↔ trimSpace right = [] := by
  have solid {text : Bytes} (visible : ∃ b ∈ text, 0x21 ≤ b.toNat ∧ b.toNat < 0x7F) :
      trimSpace text ≠ [] := by
    obtain ⟨b, member, low, high⟩ := visible
    have notSpace : ∀ n : Nat, n < 0x7F → 0x21 ≤ n → isSpace n = false := by decide
    exact trimSpace_ne_nil member (by omega) (notSpace _ high low)
  rcases similar with rfl | ⟨-, visible, visible'⟩
  · rfl
  · exact iff_of_false (solid visible) (solid visible')

end Similar

/-- Two readings of the same files, with clock texts of one size. -/
structure Environment.Alike (left right : Environment) : Prop where
  readFile : left.readFile = right.readFile
  readCSV : left.readCSV = right.readCSV
  parseFloat : left.parseFloat = right.parseFloat
  timestamp : Similar left.timestamp right.timestamp
  date : Similar left.date right.date

section Readings

variable [CaseTables]

/-- No two names of a header map differ in case only. -/
def OneSpelling (headers : Headers) : Prop :=
  (headers.map fun entry => foldKey entry.1).Nodup

/-- With one spelling of each name every order finds the same header. -/
theorem OneSpelling.lookupHeader_eq {headers : Headers} (one : OneSpelling headers)
    (left right : Environment) (name : Bytes) :
    lookupHeader left headers name = lookupHeader right headers name := by
  have unique : AtMostOne (fun entry => equalFold entry.1 name) headers := by
    intro a inA b inB isA isB
    rw [equalFold_iff] at isA isB
    exact inj_on_of_nodup_map one inA inB (isA.trans isB.symm)
  rw [lookupHeader, lookupHeader, unique.find?_perm (left.order.perm headers),
    unique.find?_perm (right.order.perm headers)]

/-- What one token gives in two readings. -/
def SimilarResults (left right : Except TokenError (Bytes × Bool)) : Prop :=
  ∀ v w, left = .ok v → right = .ok w → Similar v.1 w.1 ∧ v.2 = w.2

omit [CaseTables] in
theorem SimilarResults.refl (result : Except TokenError (Bytes × Bool)) :
    SimilarResults result result := by
  rintro v w rfl ⟨⟩
  exact ⟨.inl rfl, rfl⟩

omit [CaseTables] in
theorem SimilarResults.ok (similar : Similar left right) :
    SimilarResults (.ok (left, false)) (.ok (right, false)) := by
  rintro _ _ ⟨⟩ ⟨⟩
  exact ⟨similar, rfl⟩

theorem resolveTokenStrict_similar {left right : Environment} {c : Context}
    (alike : left.Alike right) (one : OneSpelling c.lastHeaders) (token : Bytes) :
    SimilarResults (resolveTokenStrict left c token) (resolveTokenStrict right c token) := by
  have found := one.lookupHeader_eq left right
  obtain ⟨files, records, numbers, timestamp, date⟩ := alike
  have cseq : extractCSeqNumber left c.lastHeaders = extractCSeqNumber right c.lastHeaders := by
    simp only [extractCSeqNumber, found]
  have contact : extractContactURI left c.lastHeaders = extractContactURI right c.lastHeaders := by
    simp only [extractContactURI, found]
  have tag : extractPeerTag left c.lastHeaders = extractPeerTag right c.lastHeaders := by
    simp only [extractPeerTag, found]
  have last (key : Bytes) : resolveLastStrict left c key = resolveLastStrict right c key := by
    simp only [resolveLastStrict, extractLastRequestURI, found]
  have table (value : Bytes) (delta : Int) : Forall₂ (fun l r => l.1 = r.1 ∧
      ((l.1.any fun name => ascii name = value) = true → SimilarResults l.2 r.2))
      (keywordsStrict left c delta) (keywordsStrict right c delta) := by
    unfold keywordsStrict
    rw [cseq, contact, tag]
    repeat' constructor
    all_goals intro _
    all_goals first
      | exact .refl _
      | exact .ok timestamp
      | exact .ok date
  unfold resolveTokenStrict
  dsimp only
  rw [last]
  have file : renderFileToken left (tokenKey token) c.basePath =
      renderFileToken right (tokenKey token) c.basePath := by
    simp only [renderFileToken, files]
  have field : c.field left (tokenKey token) = c.field right (tokenKey token) := by
    simp only [Context.field, renderFieldTokenWithVariables, csvRecordAt, getCachedCSV, files,
      records]
  have fill : renderFillToken left (tokenKey token) c.vars =
      renderFillToken right (tokenKey token) c.vars := by
    simp only [renderFillToken, parseFillLength, numbers]
  rw [file, field, fill]
  repeat' split
  all_goals first
    | exact switch_rel (table _ _) (.refl _)
    | exact .refl _

end Readings

/-! ### The lines of a text with CRLF line ends -/

/-- What stands behind the last line end is no line when it is empty. -/
def dropLastEmpty (lines : List Bytes) : List Bytes :=
  if lines.getLast? = some [] then lines.dropLast else lines

variable {lines : List Bytes}

private theorem splitLinesFrom_join (done : List Bytes)
    (nonempty : lines ≠ []) (noLF : ∀ line ∈ lines, lf ∉ line) :
    scanLines (fun lines line => (.inl (lines ++ [trimSuffix line [cr]]) : List Bytes ⊕ Empty))
        done [] (join lines crlf) =
      .ended (done ++ lines.dropLast) (lines.getLast nonempty) := by
  induction lines generalizing done with
  | nil => exact absurd rfl nonempty
  | cons line rest ih =>
    have lineNoLF := noLF line (by simp)
    cases rest with
    | nil =>
      rw [join_singleton]
      simpa using scanLines_tail done ⟨line, lineNoLF⟩
    | cons next others =>
      have ended : lf ∉ line ++ [cr] := by
        simpa using ⟨lineNoLF, cr_ne_lf.symm⟩
      have whole : join (line :: next :: others) crlf =
          (line ++ [cr]) ++ lf :: join (next :: others) crlf := by
        rw [join_cons_cons]
        simp
      rw [whole, scanLines_line done ⟨line ++ [cr], ended⟩]
      dsimp only
      rw [trimSuffix_append,
        ih _ (by simp) fun l member => noLF l (by simp [member])]
      simp

theorem splitLines_join (nonempty : lines ≠ [])
    (noLF : ∀ line ∈ lines, lf ∉ line) : splitLines (join lines crlf) = dropLastEmpty lines := by
  rw [splitLines, splitLinesFrom_join [] nonempty noLF]
  dsimp only
  rw [dropLastEmpty, getLast?_eq_some_getLast nonempty]
  by_cases empty : lines.getLast nonempty = []
  · simp [empty]
  · rw [if_neg empty, if_neg (by simpa using empty), nil_append,
      dropLast_append_getLast nonempty]

/-! ### Header and body of an assembled text -/

/-- The lines before the first empty one, and those behind it. -/
def splitHeader : List Bytes → List Bytes × Option (List Bytes)
  | [] => ([], none)
  | [] :: rest => ([], some rest)
  | (b :: line) :: rest => ((b :: line) :: (splitHeader rest).1, (splitHeader rest).2)

/-- The empty line and the lines behind it. -/
def fromEmptyLine : Option (List Bytes) → List Bytes
  | none => []
  | some lines => [] :: lines

theorem splitHeader_lines (lines : List Bytes) :
    (splitHeader lines).1 ++ fromEmptyLine (splitHeader lines).2 = lines := by
  fun_induction splitHeader lines with
  | case1 | case2 rest => rfl
  | case3 b line rest ih =>
    rw [cons_append, ih]

theorem splitHeader_filled (noLF : ∀ line ∈ lines, lf ∉ line) :
    Filled (splitHeader lines).1 := by
  fun_induction splitHeader lines with
  | case1 | case2 rest => simp [Filled]
  | case3 b line rest ih =>
    simp only [forall_mem_cons] at noLF
    intro l member
    rcases mem_cons.mp member with rfl | later
    · exact ⟨cons_ne_nil b line, noLF.1⟩
    · exact ih noLF.2 l later

/-- The bytes of body lines, closed with a line end. -/
def closeBody (lines : List Bytes) : Bytes :=
  if hasSuffix (crlf ++ join lines crlf) crlf then join lines crlf else join lines crlf ++ crlf

/-- The body that the lines behind the empty one make. -/
def bodyOf : Option (List Bytes) → Bytes
  | none | some [] => []
  | some (line :: rest) => closeBody (line :: rest)

/-- What an assembled text has behind its header lines.  A header without a body may
still lack its line ends. -/
def assembledEnd : Option (List Bytes) → Bytes
  | none => []
  | some [] => crlf
  | some (line :: rest) => crlfcrlf ++ closeBody (line :: rest)

section Assembled

variable {header : List Bytes} (nonempty : header ≠ []) (filled : Filled header)

include nonempty filled

theorem assemble_eq (behind : Option (List Bytes)) :
    assemble (header ++ fromEmptyLine behind) = join header crlf ++ assembledEnd behind := by
  unfold assemble
  dsimp only
  match behind with
  | none =>
    -- Only header lines: there is no separator, so nothing is added.
    have noSeparator : contains (join header crlf ++ []) crlfcrlf = false := by
      rw [Go.contains, index_join nonempty filled (by simp)]
      rfl
    rw [append_nil] at noSeparator
    simp [fromEmptyLine, assembledEnd, noSeparator]
  | some [] =>
    have noSeparator : contains (join header crlf ++ crlf) crlfcrlf = false := by
      rw [Go.contains, index_join nonempty filled (by simp [cr_ne_lf])]
      rfl
    rw [fromEmptyLine, join_append nonempty (by simp), join_singleton, append_nil,
      noSeparator]
    simp [assembledEnd]
  | some (line :: rest) =>
    have separated : join (header ++ fromEmptyLine (some (line :: rest))) crlf =
        join header crlf ++ (crlfcrlf ++ join (line :: rest) crlf) := by
      rw [fromEmptyLine, join_append nonempty (by simp), join_cons_cons]
      rfl
    have found : contains (join header crlf ++ (crlfcrlf ++ join (line :: rest) crlf))
        crlfcrlf = true := by
      rw [Go.contains, index_join nonempty filled (by simp [cr_ne_lf]), index_separator]
      rfl
    have ends : hasSuffix (join header crlf ++ (crlfcrlf ++ join (line :: rest) crlf)) crlf =
        hasSuffix (crlf ++ join (line :: rest) crlf) crlf := by
      rw [show join header crlf ++ (crlfcrlf ++ join (line :: rest) crlf) =
        (join header crlf ++ crlf) ++ (crlf ++ join (line :: rest) crlf) by simp]
      exact hasSuffix_crlf_append _ (by simp)
    rw [separated, found, ends, assembledEnd, closeBody]
    cases hasSuffix (crlf ++ join (line :: rest) crlf) crlf <;> simp

theorem computeBodyLength_assemble (behind : Option (List Bytes)) :
    computeBodyLength (assemble (header ++ fromEmptyLine behind)) = (bodyOf behind).length := by
  rw [assemble_eq nonempty filled, computeBodyLength]
  match behind with
  | none =>
    rw [assembledEnd, index_join nonempty filled (by simp)]
    rfl
  | some [] =>
    rw [assembledEnd, index_join nonempty filled (by simp [cr_ne_lf])]
    rfl
  | some (line :: rest) =>
    rw [assembledEnd, index_join nonempty filled (by simp [cr_ne_lf]), index_separator]
    simp [bodyOf]

end Assembled

/-! ### The size of a body -/

theorem closeBody_length (nonempty : lines ≠ []) (noLF : ∀ line ∈ lines, lf ∉ line) :
    (closeBody lines).length + (if (lines.map length).getLast? = some 0 then 2 else 0) =
      ((lines.map length).map (· + 2)).sum := by
  have whole : (join lines crlf).length + 2 = ((lines.map length).map (· + 2)).sum := by
    have joined := congrArg length (join_append_crlf nonempty)
    simpa [length_flatMap, Function.comp_def] using joined
  obtain ⟨front, last, rfl⟩ : ∃ front last, lines = front ++ [last] :=
    ⟨_, _, (dropLast_append_getLast nonempty).symm⟩
  obtain ⟨start, joined⟩ := join_concat front last
  unfold closeBody
  by_cases empty : last = []
  · have ends : hasSuffix (crlf ++ join (front ++ [last]) crlf) crlf = true := by
      by_cases alone : front = []
      · rw [alone, empty]
        rfl
      · rw [empty, join_append alone (by simp), join_singleton, append_nil, ← append_assoc,
          hasSuffix_iff]
        exact suffix_append _ _
    rw [if_pos ends]
    simpa [empty] using whole
  · have ends : hasSuffix (crlf ++ join (front ++ [last]) crlf) crlf = false := by
      rw [joined, ← append_assoc]
      exact not_hasSuffix_line _ empty (noLF last (by simp))
    rw [if_neg (ne_true_of_eq_false ends)]
    simpa [empty] using whole

/-- Only the sizes of its lines count for the size of a body. -/
theorem bodyOf_length {behind other : Option (List Bytes)}
    (noLF : ∀ line ∈ fromEmptyLine behind, lf ∉ line)
    (noLF' : ∀ line ∈ fromEmptyLine other, lf ∉ line)
    (sizes : behind.map (map length) = other.map (map length)) :
    (bodyOf behind).length = (bodyOf other).length := by
  match behind, other with
  | none, none => rfl
  | some [], some [] => rfl
  | some (line :: rest), some (line' :: rest') =>
    have size := closeBody_length (by simp) fun l member => noLF l (mem_cons_of_mem _ member)
    have size' := closeBody_length (by simp) fun l member => noLF' l (mem_cons_of_mem _ member)
    rw [Option.some.inj sizes] at size
    simp only [bodyOf]
    omega

theorem map_length_similar (similar : Forall₂ Similar values others) :
    values.map length = others.map length := by
  induction similar with
  | nil => rfl
  | cons first _ ih => rw [map_cons, map_cons, first.length, ih]

theorem splitHeader_similar (similar : Forall₂ Similar values others) :
    (splitHeader values).2.map (map length) = (splitHeader others).2.map (map length) := by
  induction similar with
  | nil => rfl
  | @cons v w _ _ first rest ih =>
    match v, w, first.length with
    | [], [], _ => exact congrArg some (map_length_similar rest)
    | _ :: _, _ :: _, _ => exact ih

/-! ### Rendered lines -/

private theorem byte_mem_piecesFrom
    (member : Piece.byte b ∈ piecesFrom token line) : b ∈ line := by
  fun_induction piecesFrom token line with
  | case1 => simp at member
  | case2 c rest _ ih => exact mem_cons_of_mem c (ih member)
  | case3 c rest _ ih =>
    rcases mem_cons.mp member with same | later
    · cases same
      exact mem_cons_self
    · exact mem_cons_of_mem c (ih later)
  | case4 token rest ih =>
    rcases mem_cons.mp member with same | later
    · cases same
    · exact mem_cons_of_mem _ (ih later)
  | case5 token c rest _ ih =>
    exact mem_cons_of_mem c (ih member)

theorem pieces_append (noBracket : openBracket ∉ start) (rest : Bytes) :
    pieces (start ++ rest) = start.map .byte ++ pieces rest := by
  induction start with
  | nil => rfl
  | cons b more ih =>
    simp only [mem_cons, not_or] at noBracket
    have other : ¬ (b = openBracket ∧ closeBracket ∈ more ++ rest) :=
      fun opens => noBracket.1 opens.1.symm
    rw [cons_append, pieces, piecesFrom, if_neg other]
    exact congrArg (Piece.byte b :: ·) (ih noBracket.2)

section Expansion

variable {resolve : Bytes → Except TokenError (Bytes × Bool)}

theorem expandTokensStrict_noLF (bytes : ∀ b, Piece.byte b ∈ parts → b ≠ lf)
    (values : ∀ token, Piece.token token ∈ parts → ∀ rep drop,
      resolve token = .ok (rep, drop) → lf ∉ rep)
    (expanded : expandTokensStrict resolve parts = .ok value) : lf ∉ value.1 := by
  revert expanded
  fun_induction expandTokensStrict resolve parts generalizing value <;> rintro ⟨⟩
  case case1 => simp
  case case3 b rest text drop restExpanded ih =>
    rw [mem_cons, not_or]
    exact ⟨(bytes b mem_cons_self).symm, ih (fun b member => bytes b (mem_cons_of_mem _ member))
      (fun token member => values token (mem_cons_of_mem _ member)) restExpanded⟩
  case case6 token rest rep drop resolved text restDrop restExpanded ih =>
    rw [mem_append, not_or]
    exact ⟨values token mem_cons_self _ _ resolved,
      ih (fun b member => bytes b (mem_cons_of_mem _ member))
        (fun token member => values token (mem_cons_of_mem _ member)) restExpanded⟩

theorem expandTokensStrict_congr {other : Bytes → Except TokenError (Bytes × Bool)}
    (same : ∀ token, Piece.token token ∈ parts → resolve token = other token) :
    expandTokensStrict resolve parts = expandTokensStrict other parts := by
  induction parts with
  | nil => rfl
  | cons part rest ih =>
    have restSame := ih fun token member =>
      same token (mem_cons_of_mem _ member)
    cases part with
    | byte b => rw [expandTokensStrict, expandTokensStrict, restSame]
    | token token =>
      rw [expandTokensStrict, expandTokensStrict, restSame, same token mem_cons_self]

/-- Copied bytes stand before what the rest of the line expands to. -/
theorem expandTokensStrict_bytes (start : Bytes) (rest : List Piece) :
    expandTokensStrict resolve (start.map .byte ++ rest) =
      (expandTokensStrict resolve rest).map fun value => (start ++ value.1, value.2) := by
  induction start with
  | nil =>
    rw [map_nil, nil_append]
    cases expandTokensStrict resolve rest <;> rfl
  | cons b more ih =>
    rw [map_cons, cons_append, expandTokensStrict, ih]
    cases expandTokensStrict resolve rest <;> rfl

end Expansion

theorem keepLine_eq_some
    (kept : keepLine line value = some v) : v = value.1 ∧ (line ≠ [] → trimSpace v ≠ []) := by
  unfold keepLine at kept
  obtain ⟨_, kept⟩ := of_refusal kept
  obtain ⟨notBlank, ⟨⟩⟩ := of_refusal kept
  exact ⟨rfl, fun filled blank => notBlank ⟨blank, filled⟩⟩

/-- The template line of the body length. -/
def lengthTemplate (indent : Bytes) : Bytes :=
  indent ++ ascii "Content-Length: [len]"

/-- The line that gives the body length. -/
def lengthLine (indent : Bytes) (n : Int) : Bytes :=
  indent ++ (ascii "Content-Length: " ++ itoa n)

theorem lengthLine_notBlank (indent : Bytes) (n : Int) : trimSpace (lengthLine indent n) ≠ [] := by
  have letter : (0x43 : UInt8) ∈ lengthLine indent n :=
    mem_append_right _ (mem_append_left _ (by decide))
  exact trimSpace_ne_nil letter (by decide) (by decide)

section Lines

variable [CaseTables]

/-- The tokens of the lines have values of one line. -/
def SafeValues (env : Environment) (c : Context) (lines : List Bytes) : Prop :=
  ∀ line ∈ lines, ∀ token, Piece.token token ∈ pieces line → ∀ rep drop,
    resolveTokenStrict env c token = .ok (rep, drop) → lf ∉ rep

omit [CaseTables] in
/-- A property of the tokens of a line is checked on its parts. -/
theorem forall_token_iff {P : Bytes → Prop} {parts : List Piece} :
    (∀ piece ∈ parts, ∀ token ∈ piece.token?, P token) ↔
      ∀ token, Piece.token token ∈ parts → P token := by
  constructor
  · intro checked token member
    exact checked _ member token rfl
  · rintro holds (b | text) member token found
    · cases found
    · cases found
      exact holds text member

instance {P : Bytes → Prop} [DecidablePred P] (parts : List Piece) :
    Decidable (∀ token, Piece.token token ∈ parts → P token) :=
  decidable_of_iff _ forall_token_iff

instance (result : Except TokenError (Bytes × Bool)) :
    Decidable (∀ rep drop, result = .ok (rep, drop) → lf ∉ rep) :=
  match result with
  | .error _ => isTrue fun _ _ impossible => by cases impossible
  | .ok (rep, _) =>
    if member : lf ∈ rep then isFalse fun absent => absent rep _ rfl member
    else isTrue fun _ _ same => by
      cases same
      exact member

instance (env : Environment) (c : Context) (lines : List Bytes) :
    Decidable (SafeValues env c lines) :=
  inferInstanceAs (Decidable (∀ line ∈ lines, ∀ token, Piece.token token ∈ pieces line →
    ∀ rep drop, resolveTokenStrict env c token = .ok (rep, drop) → lf ∉ rep))

instance (token : Bytes) : Decidable (IsLen token) :=
  inferInstanceAs (Decidable (_ = _))

variable {env : Environment} {c : Context} {lines values : List Bytes}

/-- What a rendered line comes from. -/
theorem renderLinesStrict_mem (rendered : renderLinesStrict env c lines = .ok values)
    (member : v ∈ values) :
    ∃ line ∈ lines, ∃ value, keepLine line value = some v ∧
      expandTokensStrict (resolveTokenStrict env c) (pieces line) = .ok value := by
  revert rendered
  fun_induction renderLinesStrict env c lines generalizing values <;> rintro ⟨⟩
  case case1 => simp at member
  case case4 line rest kept lineRendered more restRendered ih =>
    revert lineRendered
    fun_cases renderLineStrict env c line <;> rintro ⟨⟩
    rename_i value expanded
    rcases mem_append.mp member with here | later
    · exact ⟨line, mem_cons_self, value, Option.mem_toList.mp here, expanded⟩
    · obtain ⟨found, inRest, origin⟩ := ih later restRendered
      exact ⟨found, mem_cons_of_mem _ inRest, origin⟩

/-- Lines without a line feed keep being lines. -/
theorem renderLinesStrict_noLF (noLF : ∀ line ∈ lines, lf ∉ line) (safe : SafeValues env c lines)
    (rendered : renderLinesStrict env c lines = .ok values) : ∀ v ∈ values, lf ∉ v := by
  intro v member
  obtain ⟨line, inLines, value, kept, expanded⟩ := renderLinesStrict_mem rendered member
  rw [(keepLine_eq_some kept).1]
  refine expandTokensStrict_noLF ?_ (safe line inLines) expanded
  rintro b byte rfl
  exact noLF line inLines (byte_mem_piecesFrom byte)

theorem renderLinesStrict_notBlank (noEmpty : [] ∉ lines)
    (rendered : renderLinesStrict env c lines = .ok values) : ∀ v ∈ values, trimSpace v ≠ [] := by
  intro v member
  obtain ⟨line, inLines, value, kept, _⟩ := renderLinesStrict_mem rendered member
  exact (keepLine_eq_some kept).2 fun empty => noEmpty (empty ▸ inLines)

/-- Lines whose tokens have the same values are rendered alike. -/
theorem renderLinesStrict_congr (same : ∀ line ∈ lines, ∀ token, Piece.token token ∈ pieces line →
      resolveTokenStrict env c token = resolveTokenStrict env c' token) :
    renderLinesStrict env c lines = renderLinesStrict env c' lines := by
  induction lines with
  | nil => rfl
  | cons line rest ih =>
    simp only [forall_mem_cons] at same
    rw [renderLinesStrict, renderLinesStrict, renderLineStrict, renderLineStrict,
      expandTokensStrict_congr same.1, ih same.2]

/-- Lines are rendered one by one. -/
theorem renderLinesStrict_append :
    renderLinesStrict env c (left ++ right) = .ok values ↔
      ∃ before after, renderLinesStrict env c left = .ok before ∧
        renderLinesStrict env c right = .ok after ∧ values = before ++ after := by
  induction left generalizing values with
  | nil => simp [renderLinesStrict]
  | cons line rest ih =>
    rw [cons_append]
    simp only [renderLinesStrict]
    cases renderLineStrict env c line with
    | error error => simp
    | ok value =>
      dsimp only
      constructor
      · intro whole
        split at whole
        · cases whole
        · rename_i all restRendered
          cases whole
          obtain ⟨before, after, leftRendered, rightRendered, rfl⟩ :=
            ih.mp restRendered
          exact ⟨value.toList ++ before, after, by rw [leftRendered], rightRendered, by simp⟩
      · rintro ⟨before, after, leftRendered, rightRendered, rfl⟩
        split at leftRendered
        · cases leftRendered
        · rename_i more restRendered
          cases leftRendered
          rw [ih.mpr ⟨more, after, restRendered, rightRendered, rfl⟩]
          simp

/-- The length is written out in its line, which is never dropped. -/
theorem renderLineStrict_length (noBracket : openBracket ∉ indent) :
    renderLineStrict env c (lengthTemplate indent) =
      .ok (some (lengthLine indent (addInt c.bodyLength 0))) := by
  have parts : pieces (lengthTemplate indent) =
      (indent ++ ascii "Content-Length: ").map .byte ++ [.token (ascii "[len]")] := by
    rw [lengthTemplate, pieces_append noBracket,
      show pieces (ascii "Content-Length: [len]") =
        (ascii "Content-Length: ").map .byte ++ [.token (ascii "[len]")] by decide]
    simp
  have expanded : expandTokensStrict (resolveTokenStrict env c) (pieces (lengthTemplate indent)) =
      .ok (lengthLine indent (addInt c.bodyLength 0), false) := by
    rw [parts, expandTokensStrict_bytes, expandTokensStrict, resolveTokenStrict_len]
    simp [expandTokensStrict, Except.map, lengthLine]
  rw [renderLineStrict, expanded]
  simp [keepLine, lengthLine_notBlank]

/-! ### Two readings of the lines -/

omit [CaseTables] in
theorem expandTokensStrict_similar {resolve other : Bytes → Except TokenError (Bytes × Bool)}
    (similar : ∀ token, SimilarResults (resolve token) (other token)) (parts : List Piece) :
    SimilarResults (expandTokensStrict resolve parts) (expandTokensStrict other parts) := by
  induction parts with
  | nil => exact .refl _
  | cons part rest ih =>
    cases part with
    | byte b =>
      intro v w
      simp only [expandTokensStrict]
      split
      · rintro ⟨⟩
      · rename_i text restText
        split
        · rintro - ⟨⟩
        · rename_i text' restText'
          rintro ⟨⟩ ⟨⟩
          obtain ⟨texts, drops⟩ := ih _ _ restText restText'
          exact ⟨Similar.append (.inl (rfl : [b] = [b])) texts, drops⟩
    | token token =>
      intro v w
      simp only [expandTokensStrict]
      split
      · rintro ⟨⟩
      · rename_i rep drop first
        split
        · rintro ⟨⟩
        · rename_i text dropRest restText
          split
          · rintro - ⟨⟩
          · rename_i rep' drop' first'
            split
            · rintro - ⟨⟩
            · rename_i text' dropRest' restText'
              rintro ⟨⟩ ⟨⟩
              obtain ⟨reps, drops⟩ := similar token _ _ first first'
              obtain ⟨texts, dropsRest⟩ := ih _ _ restText restText'
              simp only at drops dropsRest
              exact ⟨reps.append texts, by rw [drops, dropsRest]⟩

omit [CaseTables] in
theorem keepLine_similar {line : Bytes} {v w : Bytes × Bool} (texts : Similar v.1 w.1)
    (drops : v.2 = w.2) : Forall₂ Similar (keepLine line v).toList (keepLine line w).toList := by
  simp only [keepLine, drops, texts.blank_iff]
  split
  · exact .nil
  · split
    · exact .nil
    · exact .cons texts .nil

theorem renderLinesStrict_similar {left right : Environment}
    (alike : left.Alike right) (one : OneSpelling c.lastHeaders)
    (first : renderLinesStrict left c lines = .ok values)
    (second : renderLinesStrict right c lines = .ok others) : Forall₂ Similar values others := by
  induction lines generalizing values others with
  | nil =>
    cases first
    cases second
    exact .nil
  | cons line rest ih =>
    have similar := expandTokensStrict_similar (resolveTokenStrict_similar alike one) (pieces line)
    revert first second
    simp only [renderLinesStrict, renderLineStrict]
    cases expanded : expandTokensStrict (resolveTokenStrict left c) (pieces line) with
    | error => rintro ⟨⟩
    | ok v =>
      cases expanded' : expandTokensStrict (resolveTokenStrict right c) (pieces line) with
      | error => rintro - ⟨⟩
      | ok w =>
        cases rendered : renderLinesStrict left c rest with
        | error => rintro ⟨⟩
        | ok more =>
          cases rendered' : renderLinesStrict right c rest with
          | error => rintro - ⟨⟩
          | ok more' =>
            rintro ⟨⟩ ⟨⟩
            obtain ⟨texts, drops⟩ := similar v w expanded expanded'
            exact rel_append (keepLine_similar texts drops) (ih rendered rendered')

/-! ### Both passes -/

/-- Template lines with one `[len]`, in the header line of the length, which stands
before the first empty line. -/
structure LenLines (lines : List Bytes) where
  before : List Bytes
  indent : Bytes
  after : List Bytes
  eq : lines = before ++ lengthTemplate indent :: after
  noLF : ∀ line ∈ lines, lf ∉ line
  blanks : ∀ b ∈ indent, b = space ∨ b = tab
  noEmpty : [] ∉ before
  onlyLen : ∀ line ∈ before ++ after, ∀ token, Piece.token token ∈ pieces line → ¬ IsLen token

namespace LenLines

variable {lines : List Bytes}

section

variable (template : LenLines lines)

include template

theorem others_subset : template.before ++ template.after ⊆ lines := by
  intro line member
  rw [template.eq]
  rcases mem_append.mp member with inBefore | inAfter
  · exact mem_append_left _ inBefore
  · exact mem_append_right _ (mem_cons_of_mem _ inAfter)

theorem length_mem : lengthTemplate template.indent ∈ lines := by
  have inside : lengthTemplate template.indent ∈
      template.before ++ lengthTemplate template.indent :: template.after := by simp
  rwa [← template.eq] at inside

theorem indent_absent (other : b ≠ space ∧ b ≠ tab) :
    b ∉ template.indent := by
  intro member
  rcases template.blanks b member with isSpace | isTab
  · exact other.1 isSpace
  · exact other.2 isTab

/-- The lines beside the length do not see the body length. -/
theorem renderLinesStrict_eq (inside : part ⊆ template.before ++ template.after) (n : Int) :
    renderLinesStrict env { c with bodyLength := n } part = renderLinesStrict env c part :=
  renderLinesStrict_congr fun line member token occurs =>
    resolveTokenStrict_bodyLength env c n (template.onlyLen line (inside member) token occurs)

/-- A pass renders the lines beside the length, and the length of its context. -/
theorem renderLinesStrict_iff (n : Int) :
    renderLinesStrict env { c with bodyLength := n } lines = .ok values ↔
      ∃ before after, renderLinesStrict env c template.before = .ok before ∧
        renderLinesStrict env c template.after = .ok after ∧
        values = before ++ lengthLine template.indent (addInt n 0) :: after := by
  have noBracket := template.indent_absent (b := openBracket) (by decide)
  have lengthRendered : renderLinesStrict env { c with bodyLength := n }
      [lengthTemplate template.indent] = .ok [lengthLine template.indent (addInt n 0)] := by
    simp [renderLinesStrict, renderLineStrict_length noBracket]
  conv_lhs => rw [template.eq, ← singleton_append, renderLinesStrict_append]
  simp only [renderLinesStrict_append, lengthRendered,
    template.renderLinesStrict_eq (subset_append_left _ _),
    template.renderLinesStrict_eq (subset_append_right _ _)]
  constructor
  · rintro ⟨before, _, beforeRendered, ⟨_, after, ⟨⟩, afterRendered, rfl⟩, rfl⟩
    exact ⟨before, after, beforeRendered, afterRendered, rfl⟩
  · rintro ⟨before, after, beforeRendered, afterRendered, rfl⟩
    exact ⟨before, _, beforeRendered, ⟨_, after, rfl, afterRendered, rfl⟩, rfl⟩

end

end LenLines

/-- The header lines of a message around the line of the length. -/
def headerLines (before : List Bytes) (line : Bytes) (after : List Bytes) : List Bytes :=
  before ++ line :: (splitHeader after).1

omit [CaseTables] in
theorem headerLines_lines (before : List Bytes) (line : Bytes) (after : List Bytes) :
    before ++ line :: after =
      headerLines before line after ++ fromEmptyLine (splitHeader after).2 := by
  rw [headerLines, append_assoc, cons_append, splitHeader_lines]

omit [CaseTables] in
theorem filled_of_notBlank (notBlank : ∀ v ∈ values, trimSpace v ≠ [] ∧ lf ∉ v) :
    Filled values := by
  intro v member
  refine ⟨?_, (notBlank v member).2⟩
  rintro rfl
  exact (notBlank [] member).1 rfl

theorem LenLines.headerLines_filled (template : LenLines lines) {before after}
    (beforeLines : ∀ v ∈ before, trimSpace v ≠ [] ∧ lf ∉ v) (afterLines : ∀ v ∈ after, lf ∉ v)
    (n : Int) : Filled (headerLines before (lengthLine template.indent n) after) := by
  have lengthNoLF : lf ∉ lengthLine template.indent n := by
    have inIndent := template.indent_absent (b := lf) (by decide)
    have inName : lf ∉ ascii "Content-Length: " := by decide
    simp only [lengthLine, mem_append, not_or]
    exact ⟨inIndent, inName, itoa_noLF n⟩
  apply Filled.append (filled_of_notBlank beforeLines)
  intro line member
  rcases mem_cons.mp member with rfl | later
  · refine ⟨?_, lengthNoLF⟩
    intro empty
    exact lengthLine_notBlank template.indent n (by rw [empty]; rfl)
  · exact splitHeader_filled afterLines line later

/-- The message has its header lines, with the length of its body in the line of the length, when
its passes read the same but for clock texts of one size. -/
theorem renderMessageStrict_length {env : Passes} {raw text} (template : LenLines (splitLines raw))
    (hasLen : hasLenToken raw = true) (alike : env.first.Alike env.second)
    (one : OneSpelling c.lastHeaders) (safe : SafeValues env.first c (splitLines raw))
    (safe' : SafeValues env.second c (splitLines raw))
    (rendered : renderMessageStrict env raw c = .ok text) :
    ∃ before after, (∀ v ∈ before, trimSpace v ≠ [] ∧ lf ∉ v) ∧ (∀ v ∈ after, lf ∉ v) ∧
      text = assemble (before ++ lengthLine template.indent
        (addInt (bodyOf (splitHeader after).2).length 0) :: after) := by
  have noLF : ∀ line ∈ template.before ++ template.after, lf ∉ line :=
    fun line member => template.noLF line (template.others_subset member)
  -- What a pass makes of the lines beside the length.
  have pass {env : Environment} (safe : SafeValues env c (splitLines raw)) {before after}
      (beforeRendered : renderLinesStrict env c template.before = .ok before)
      (afterRendered : renderLinesStrict env c template.after = .ok after) :
      (∀ v ∈ before, trimSpace v ≠ [] ∧ lf ∉ v) ∧ ∀ v ∈ after, lf ∉ v := by
    have safeOthers : SafeValues env c (template.before ++ template.after) :=
      fun line member => safe line (template.others_subset member)
    exact ⟨fun v member => ⟨renderLinesStrict_notBlank template.noEmpty beforeRendered v member,
        renderLinesStrict_noLF (fun line l => noLF line (mem_append_left _ l))
          (fun line l => safeOthers line (mem_append_left _ l)) beforeRendered v member⟩,
      renderLinesStrict_noLF (fun line l => noLF line (mem_append_right _ l))
        (fun line l => safeOthers line (mem_append_right _ l)) afterRendered⟩
  simp only [renderMessageStrict, hasLen, Bool.not_true, Bool.false_eq_true, if_false,
    renderStrict] at rendered
  split at rendered
  · cases rendered
  · rename_i first firstRendered
    split at firstRendered
    · cases firstRendered
    · rename_i firstValues firstLines
      cases firstRendered
      split at rendered
      · cases rendered
      · rename_i values secondLines
        cases rendered
        obtain ⟨before, after, beforeRendered, afterRendered, rfl⟩ :=
          (template.renderLinesStrict_iff c.bodyLength).mp firstLines
        obtain ⟨before', after', beforeRendered', afterRendered', rfl⟩ :=
          (template.renderLinesStrict_iff _).mp secondLines
        obtain ⟨beforeLines, afterLines⟩ := pass safe beforeRendered afterRendered
        obtain ⟨beforeLines', afterLines'⟩ := pass safe' beforeRendered' afterRendered'
        -- The length was counted in the first pass, in a body of the same size.
        have counted := computeBodyLength_assemble (by simp [headerLines])
          (template.headerLines_filled beforeLines afterLines (addInt c.bodyLength 0))
          (splitHeader after).2
        have behind {values : List Bytes} (noLF : ∀ v ∈ values, lf ∉ v) :
            ∀ line ∈ fromEmptyLine (splitHeader values).2, lf ∉ line := fun line member =>
          noLF line (splitHeader_lines values ▸ mem_append_right _ member)
        have sizes := bodyOf_length (behind afterLines) (behind afterLines')
          (splitHeader_similar (renderLinesStrict_similar alike one afterRendered afterRendered'))
        rw [← headerLines_lines, sizes] at counted
        exact ⟨before', after', beforeLines', afterLines', by rw [counted]⟩

end Lines

end Gossipper.Template
