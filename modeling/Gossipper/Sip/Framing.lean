/-
Module: Gossipper.Sip.Framing
Purpose: Reading SIP messages from a buffered stream, after `internal/sip/stream.go`, and
  where `ReadMessage` cuts the stream.  A well-formed message is read back byte for byte
  whatever stands behind it, and the reader returns on exactly the streams whose header
  block declares a length that `make` accepts.
Trusted boundary: a reader is the bytes it still delivers and the error that
  comes behind them.  `make` is taken as the runtime specifies it on a 64-bit
  platform; running out of memory below that bound is not modelled.
Main exports: readMessage, readMessage_frame, readMessages_streamOf, readMessage_returns_iff
-/
import Gossipper.Go.Bytes
import Gossipper.Sip.Message

namespace Gossipper.Sip

open Go

/-- What a reader reports once its bytes are used up: the peer closed the
connection, the read deadline passed, or the connection failed. -/
inductive ReadError where
  | eof
  | timeout
  | broken
deriving DecidableEq, Repr

/-- The errors of `ReadMessage`. -/
inductive StreamError where
  | closedBeforeData
  | closedInStartLine
  | closedInHeaders
  | malformedHeader (line : Bytes)
  | closedInBody (contentLength : Int)
  | read (cause : ReadError)
  | parse (cause : ParseError)
deriving DecidableEq, Repr

/-- The largest length that `make([]byte, n)` accepts. -/
def maxAlloc : Nat := 2 ^ 48

/-- A line as `ReadString` returns it, without the characters of its end. -/
def chomp (line : Bytes) : Bytes :=
  trimRight (line ++ [lf]) crlf

/-- The loop that skips blank lines before the start line. -/
def startStep (_ : Unit) (line : Bytes) : Unit ⊕ Bytes :=
  let startLine := chomp line
  if trimSpace startLine ≠ [] then .inr startLine else .inl ()

/-- What the header loop has built so far. -/
structure HeaderBlock where
  builder : Bytes
  headers : Headers
  contentLength : Int

/-- The error for input that ends inside the start line. -/
def startLineError (ending : ReadError) (line : Bytes) : StreamError :=
  match ending with
  | .eof => if trimSpace line = [] then .closedBeforeData else .closedInStartLine
  | cause => .read cause

/-- The error for input that ends inside the header lines. -/
def headerError : ReadError → StreamError
  | .eof => .closedInHeaders
  | cause => .read cause

/-- The error for input that ends inside the body. -/
def bodyError (contentLength : Int) : ReadError → StreamError
  | .eof => .closedInBody contentLength
  | cause => .read cause

/-- `Parse` of the text that was read. -/
def parseRead (text : Bytes) : Outcome StreamError Message :=
  match parse text with
  | .ok msg => .ok msg
  | .error cause => .fail (.parse cause)

/-- The body of a message behind its header block. -/
def readBody (ending : ReadError) (block : HeaderBlock) (bytes : Bytes) :
    Outcome StreamError Message × Bytes :=
  if block.contentLength < 0 ∨ (maxAlloc : Int) < block.contentLength then (.panics, bytes)
  else
    let size := block.contentLength.toNat
    if bytes.length < size then (.fail (bodyError block.contentLength ending), [])
    else (parseRead (block.builder ++ bytes.take size), bytes.drop size)

section Reader

variable [CaseTables]

/-- One line of the header loop.  The conversion error of a Content-Length is
dropped; the number that comes with it is used. -/
def headerStep (block : HeaderBlock) (text : Bytes) :
    HeaderBlock ⊕ Except StreamError HeaderBlock :=
  let line := chomp text
  let block := { block with builder := block.builder ++ line ++ crlf }
  if line = [] then .inr (.ok block)
  else
    match cut line colon with
    | none => .inr (.error (.malformedHeader line))
    | some (name, value) =>
      .inl
        { block with
          headers := appendHeader block.headers (trimSpace name) (trimSpace value)
          contentLength :=
            if equalFold (trimSpace name) (ascii "Content-Length") then
              (atoi (trimSpace value)).1
            else block.contentLength }

/-- `ReadMessage` on a reader that delivers `bytes` and then `ending`: the
result and the bytes left in the reader. -/
def readMessage (ending : ReadError) (bytes : Bytes) :
    Outcome StreamError Message × Bytes :=
  match scanLines startStep () [] bytes with
  | .ended _ line => (.fail (startLineError ending line), [])
  | .stopped startLine rest =>
    match scanLines headerStep ⟨startLine ++ crlf, [], 0⟩ [] rest with
    | .ended _ _ => (.fail (headerError ending), [])
    | .stopped (.error error) rest => (.fail error, rest)
    | .stopped (.ok block) rest => readBody ending block rest

/-- `ReadMessage` called `n` times on one reader. -/
def readMessages (ending : ReadError) : Nat → Bytes → List (Outcome StreamError Message) × Bytes
  | 0, bytes => ([], bytes)
  | n + 1, bytes =>
    let (first, rest) := readMessage ending bytes
    let (more, left) := readMessages ending n rest
    (first :: more, left)

end Reader

end Gossipper.Sip

namespace Gossipper.Sip

open Go List

/-! ### Lines on the wire -/

/-- A line that holds white space only. -/
structure BlankLine extends Line where
  blank : trimSpace text = []

/-- The text of a line that ends in CRLF: it holds no line feed, and the carriage
return before the line feed is not preceded by another one. -/
structure CrlfLine where
  text : Bytes
  noLF : lf ∉ text
  noCR : text.getLast? ≠ some cr

namespace CrlfLine

/-- The line up to its line feed. -/
def line (l : CrlfLine) : Line where
  text := l.text ++ [cr]
  noLF := by
    simp only [mem_append, mem_singleton, not_or]
    exact ⟨l.noLF, by decide⟩

theorem line_text (l : CrlfLine) : l.line.text = l.text ++ [cr] := rfl

end CrlfLine

theorem chomp_eq (line : Bytes) : chomp line = trimRight line crlf :=
  rdropWhile_concat_pos _ _ _ (by decide)

@[simp] theorem chomp_line (l : CrlfLine) : chomp l.line.text = l.text := by
  have noLineEnd : ∀ nonempty : l.text ≠ [], ¬ (l.text.getLast nonempty) ∈ crlf := by
    intro nonempty member
    have last := getLast?_eq_some_getLast nonempty
    simp only [mem_cons, not_mem_nil, or_false] at member
    rcases member with isCR | isLF
    · exact l.noCR (last.trans (by rw [isCR]))
    · exact l.noLF (isLF ▸ getLast_mem nonempty)
  rw [chomp_eq, CrlfLine.line_text, trimRight, rdropWhile_concat_pos _ _ _ (by decide),
    rdropWhile_eq_self_iff]
  simpa using noLineEnd

theorem terminated_lines (lines : List CrlfLine) :
    terminated (lines.map CrlfLine.line) = lines.flatMap fun l => l.text ++ crlf := by
  induction lines with
  | nil => rfl
  | cons l rest ih => simp [ih, CrlfLine.line_text]

/-! ### The start line -/

theorem startStep_eq_inl {text next} :
    startStep () text = .inl next ↔ trimSpace text = [] := by
  rw [← trimSpace_trimRight, ← chomp_eq]
  by_cases blank : trimSpace (chomp text) = [] <;> simp [startStep, blank]

theorem startStep_blanks (gap : List BlankLine) :
    Steps startStep () (gap.map BlankLine.toLine) () := by
  induction gap with
  | nil => exact .nil ()
  | cons l rest ih => exact .cons (startStep_eq_inl.mpr l.blank) ih

theorem startStep_eq_inr :
    startStep () text = .inr startLine ↔ chomp text = startLine ∧ trimSpace startLine ≠ [] := by
  by_cases blank : trimSpace (chomp text) = []
  · simp only [startStep, blank, ne_eq, not_true, if_false]
    constructor
    · intro impossible
      cases impossible
    · rintro ⟨rfl, notBlank⟩
      exact absurd blank notBlank
  · simp only [startStep, ne_eq, blank, not_false_eq_true, if_true, Sum.inr.injEq]
    constructor
    · rintro rfl
      exact ⟨rfl, blank⟩
    · exact And.left

theorem blankLines_of_steps (steps : Steps startStep start lines final) :
    ∃ gap : List BlankLine, gap.map BlankLine.toLine = lines := by
  induction steps with
  | nil => exact ⟨[], rfl⟩
  | cons goesOn _ ih =>
    obtain ⟨gap, rfl⟩ := ih
    exact ⟨⟨_, startStep_eq_inl.mp goesOn⟩ :: gap, rfl⟩

/-! ### The header block -/

/-- Only the allocation of the body panics. -/
theorem readBody_returns_iff (ending : ReadError) (block : HeaderBlock) (bytes : Bytes) :
    (readBody ending block bytes).1.Returns ↔
      0 ≤ block.contentLength ∧ block.contentLength ≤ maxAlloc := by
  unfold readBody
  split
  · simp only [Outcome.Returns, false_iff]
    omega
  · have inRange : 0 ≤ block.contentLength ∧ block.contentLength ≤ maxAlloc := by omega
    simp only [inRange, and_self, iff_true]
    split
    · trivial
    · simp only [parseRead]
      split <;> trivial

section Headers

variable [CaseTables]

/-- The value of a Content-Length field; other fields have none. -/
def contentLengthText (field : Bytes) : Option Bytes :=
  match cut field colon with
  | none => none
  | some (name, value) =>
    if equalFold (trimSpace name) (ascii "Content-Length") then some (trimSpace value)
    else none

/-- The length a list of header fields declares: the number `Atoi` returns for
the last Content-Length, and `start` when there is none. -/
def declaredLength (start : Int) (fields : List Bytes) : Int :=
  match (fields.filterMap contentLengthText).getLast? with
  | none => start
  | some value => (atoi value).1

theorem declaredLength_cons (start : Int) (field : Bytes) (rest : List Bytes) :
    declaredLength start (field :: rest) =
      declaredLength (match contentLengthText field with
        | none => start
        | some value => (atoi value).1) rest := by
  cases value : contentLengthText field with
  | none => simp [declaredLength, value]
  | some text =>
    simp only [declaredLength, filterMap_cons, value, getLast?_cons]
    cases (rest.filterMap contentLengthText).getLast? <;> rfl

/-- What the header loop can do with one line. -/
theorem headerStep_cases (block : HeaderBlock) (text : Bytes) :
    (chomp text = [] ∧ headerStep block text =
      .inr (.ok { block with builder := block.builder ++ crlf })) ∨
    (chomp text ≠ [] ∧ colon ∉ chomp text ∧
      headerStep block text = .inr (.error (.malformedHeader (chomp text)))) ∨
    (colon ∈ chomp text ∧ ∃ headers, headerStep block text =
      .inl ⟨block.builder ++ chomp text ++ crlf, headers,
        match contentLengthText (chomp text) with
        | none => block.contentLength
        | some value => (atoi value).1⟩) := by
  by_cases empty : chomp text = []
  · exact .inl ⟨empty, by simp [headerStep, empty]⟩
  · cases parts : cut (chomp text) colon with
    | none =>
      have noColon : colon ∉ chomp text := by
        rw [← cut_isSome_iff, parts]
        simp
      exact .inr (.inl ⟨empty, noColon, by simp [headerStep, empty, parts]⟩)
    | some pair =>
      obtain ⟨name, value⟩ := pair
      have hasColon : colon ∈ chomp text := by
        rw [← cut_isSome_iff, parts]
        rfl
      refine .inr (.inr ⟨hasColon, appendHeader block.headers (trimSpace name) (trimSpace value), ?_⟩)
      by_cases isLength : equalFold (trimSpace name) (ascii "Content-Length") = true
      · simp [headerStep, empty, parts, contentLengthText, isLength]
      · simp [headerStep, empty, parts, contentLengthText, isLength]

/-- The header loop copies the fields it goes on through and keeps the last
declared length. -/
theorem headerSteps_result (steps : Steps headerStep block lines final) :
    (∀ l ∈ lines, colon ∈ chomp l.text) ∧
      final.builder = block.builder ++ lines.flatMap (fun l => chomp l.text ++ crlf) ∧
      final.contentLength =
        declaredLength block.contentLength (lines.map fun l => chomp l.text) := by
  induction steps with
  | nil => simp [declaredLength]
  | cons goesOn _ ih =>
    rename_i state next _ line rest _
    rcases headerStep_cases state line.text with
      ⟨_, stops⟩ | ⟨_, _, stops⟩ | ⟨hasColon, headers, continues⟩
    · simp [goesOn] at stops
    · simp [goesOn] at stops
    · rw [goesOn, Sum.inl.injEq] at continues
      subst continues
      obtain ⟨colons, built, length⟩ := ih
      refine ⟨by simpa [hasColon] using colons, ?_, ?_⟩
      · simp [built]
      · rw [length, map_cons, declaredLength_cons]

theorem headerSteps_exist (block : HeaderBlock) (colons : ∀ l ∈ lines, colon ∈ chomp l.text) :
    ∃ final, Steps headerStep block lines final := by
  induction lines generalizing block with
  | nil => exact ⟨block, .nil block⟩
  | cons line rest ih =>
    simp only [mem_cons, forall_eq_or_imp] at colons
    rcases headerStep_cases block line.text with
      ⟨empty, _⟩ | ⟨_, noColon, _⟩ | ⟨_, headers, continues⟩
    · simp [empty] at colons
    · exact absurd colons.1 noColon
    · obtain ⟨final, steps⟩ := ih _ colons.2
      exact ⟨final, .cons continues steps⟩

/-! ### Header sections -/

/-- A stream that holds a complete header block: blank lines, a start line that
is not blank, header lines with a colon, and an empty line. -/
structure HeaderSection (bytes : Bytes) where
  gap : List BlankLine
  startLine : Line
  lines : List Line
  emptyLine : Line
  rest : Bytes
  notBlank : trimSpace (chomp startLine.text) ≠ []
  colons : ∀ l ∈ lines, colon ∈ chomp l.text
  empty : chomp emptyLine.text = []
  whole : bytes = terminated (gap.map BlankLine.toLine) ++
    (startLine.text ++ lf :: (terminated lines ++ (emptyLine.text ++ lf :: rest)))

namespace HeaderSection

variable {bytes : Bytes}

/-- The header fields, without their line ends. -/
def fields (block : HeaderSection bytes) : List Bytes :=
  block.lines.map fun l => chomp l.text

/-- The length that the fields declare. -/
def contentLength (block : HeaderSection bytes) : Int :=
  declaredLength 0 block.fields

/-- The header block with CRLF line ends. -/
def text (block : HeaderSection bytes) : Bytes :=
  chomp block.startLine.text ++ crlf ++ (block.fields.flatMap fun f => f ++ crlf) ++ crlf

end HeaderSection

/-- On a complete header block the reader goes on to the body. -/
theorem readMessage_section (ending : ReadError) (block : HeaderSection bytes) :
    ∃ headers, readMessage ending bytes =
      readBody ending ⟨block.text, headers, block.contentLength⟩ block.rest := by
  have started := startStep_eq_inr.mpr ⟨rfl, block.notBlank⟩
  obtain ⟨final, steps⟩ :=
    headerSteps_exist ⟨chomp block.startLine.text ++ crlf, [], 0⟩ block.colons
  obtain ⟨_, built, length⟩ := headerSteps_result steps
  rcases headerStep_cases final block.emptyLine.text with
    ⟨_, stops⟩ | ⟨notEmpty, _⟩ | ⟨hasColon, _⟩
  · refine ⟨final.headers, ?_⟩
    have builtText : final.builder ++ crlf = block.text := by
      simp [built, HeaderSection.text, HeaderSection.fields, flatMap_map]
    conv_lhs => rw [readMessage, block.whole, scanLines_steps (startStep_blanks block.gap),
      scanLines_line, started]
    simp only [scanLines_steps steps, scanLines_line, stops, builtText, length]
    rfl
  · exact absurd block.empty notEmpty
  · simp [block.empty] at hasColon

/-! ### Well-formed messages -/

/-- A message with CRLF line ends: a start line that is not blank, header fields
with a colon, one Content-Length among them that gives the size of the body, and
any body that fits into a Go slice. -/
structure WireMessage where
  startLine : CrlfLine
  fields : List CrlfLine
  body : Bytes
  lengthText : Bytes
  notBlank : trimSpace startLine.text ≠ []
  colons : ∀ f ∈ fields, colon ∈ f.text
  oneLength : fields.filterMap (fun f => contentLengthText f.text) = [lengthText]
  exactLength : atoi lengthText = ((body.length : Int), none)
  fitsSlice : body.length ≤ maxAlloc

namespace WireMessage

/-- The header block on the wire, up to and with the empty line. -/
def head (m : WireMessage) : Bytes :=
  m.startLine.text ++ crlf ++ (m.fields.flatMap fun f => f.text ++ crlf) ++ crlf

/-- The bytes of the message. -/
def text (m : WireMessage) : Bytes :=
  m.head ++ m.body

/-- The empty line behind the header fields. -/
def emptyLine : CrlfLine where
  text := []
  noLF := by simp
  noCR := by simp

theorem declaredLength_fields (m : WireMessage) :
    declaredLength 0 ((m.fields.map CrlfLine.line).map fun l => chomp l.text) = m.body.length := by
  have chomped : ((m.fields.map CrlfLine.line).map fun l => chomp l.text) =
      m.fields.map CrlfLine.text := by
    simp [Function.comp_def]
  have onlyLength : (m.fields.map CrlfLine.text).filterMap contentLengthText = [m.lengthText] := by
    rw [filterMap_map]
    exact m.oneLength
  simp [chomped, declaredLength, onlyLength, m.exactLength]

end WireMessage

/-- A message on the stream, behind the blank lines before it. -/
structure Frame where
  gap : List BlankLine
  message : WireMessage

/-- The bytes of a frame. -/
def Frame.text (f : Frame) : Bytes :=
  terminated (f.gap.map BlankLine.toLine) ++ f.message.text

/-- The bytes of a list of frames. -/
def streamOf (frames : List Frame) : Bytes :=
  frames.flatMap Frame.text

/-- The header section of a frame. -/
def Frame.headerSection (f : Frame) (rest : Bytes) : HeaderSection (f.text ++ rest) where
  gap := f.gap
  startLine := f.message.startLine.line
  lines := f.message.fields.map CrlfLine.line
  emptyLine := WireMessage.emptyLine.line
  rest := f.message.body ++ rest
  notBlank := by
    rw [chomp_line]
    exact f.message.notBlank
  colons := by
    intro l member
    obtain ⟨field, inFields, rfl⟩ := mem_map.mp member
    rw [chomp_line]
    exact f.message.colons field inFields
  empty := chomp_line _
  whole := by
    simp [Frame.text, WireMessage.text, WireMessage.head, terminated_lines,
      WireMessage.emptyLine, CrlfLine.line_text]

theorem Frame.headerSection_text (f : Frame) (rest : Bytes) :
    (f.headerSection rest).text = f.message.head := by
  simp [HeaderSection.text, HeaderSection.fields, Frame.headerSection, WireMessage.head,
    flatMap_map]

theorem readMessage_frame (ending : ReadError) (f : Frame) (rest : Bytes) :
    readMessage ending (f.text ++ rest) = (parseRead f.message.text, rest) := by
  obtain ⟨headers, read⟩ := readMessage_section ending (f.headerSection rest)
  have length : (f.headerSection rest).contentLength = f.message.body.length :=
    f.message.declaredLength_fields
  have sizeOk : ¬ ((f.message.body.length : Int) < 0 ∨
      (maxAlloc : Int) < f.message.body.length) := by
    have fits := f.message.fitsSlice
    omega
  have behind : (f.headerSection rest).rest = f.message.body ++ rest := rfl
  have enough : ¬ (f.message.body ++ rest).length < (f.message.body.length : Int).toNat := by
    simp
  rw [read, length, f.headerSection_text rest, behind]
  simp only [readBody, if_neg sizeOk, if_neg enough]
  simp [WireMessage.text]

/-- Reading as many messages as the stream has frames returns each frame's
message, in order, and uses up the stream. -/
theorem readMessages_append (ending : ReadError) (frames : List Frame) (rest : Bytes) :
    readMessages ending frames.length (streamOf frames ++ rest) =
      (frames.map fun f => parseRead f.message.text, rest) := by
  induction frames with
  | nil => rfl
  | cons f more ih =>
    have bytesEq : streamOf (f :: more) ++ rest = f.text ++ (streamOf more ++ rest) := by
      simp [streamOf]
    rw [length_cons, readMessages, bytesEq, readMessage_frame]
    simp [ih]

/-- Framing is exact. -/
theorem readMessages_streamOf (ending : ReadError) (frames : List Frame) :
    readMessages ending frames.length (streamOf frames) =
      (frames.map fun f => parseRead f.message.text, []) := by
  simpa using readMessages_append ending frames []

end Headers

section ConcreteFrames

attribute [local instance] CaseTables.asciiOnly

/-- A keep-alive and an `OPTIONS` request whose body looks like a message end. -/
def optionsFrame : Frame where
  gap := [⟨⟨[cr], by decide⟩, by decide⟩]
  message :=
    { startLine := ⟨ascii "OPTIONS sip:a SIP/2.0", by decide, by decide⟩
      fields := [⟨ascii "CONTENT-length : 04", by decide, by decide⟩]
      body := crlfcrlf
      lengthText := ascii "04"
      notBlank := by decide
      colons := by decide
      oneLength := by decide
      exactLength := by decide
      fitsSlice := by decide }

/-- Two such frames are two messages. -/
theorem readMessages_optionsFrame :
    readMessages .eof 2 (optionsFrame.text ++ optionsFrame.text) =
      ([parseRead optionsFrame.message.text, parseRead optionsFrame.message.text], []) := by
  have bytesEq : optionsFrame.text ++ optionsFrame.text =
      streamOf [optionsFrame, optionsFrame] := by simp [streamOf]
  rw [bytesEq]
  exact readMessages_streamOf .eof [optionsFrame, optionsFrame]

end ConcreteFrames

/-! ### When the reader returns -/

section Returns

variable [CaseTables]

/-- Every run of the reader that reaches the body went through a header section. -/
theorem headerSection_of_scan (started : scanLines startStep () [] bytes = .stopped startLine rest)
    (scanned : scanLines headerStep ⟨startLine ++ crlf, [], 0⟩ [] rest =
      .stopped (.ok block) behind) :
    ∃ found : HeaderSection bytes, found.contentLength = block.contentLength := by
  obtain ⟨gapLines, _, first, gapSteps, stops, rfl⟩ := scanLines_stopped_iff.mp started
  obtain ⟨gap, rfl⟩ := blankLines_of_steps gapSteps
  obtain ⟨rfl, notBlank⟩ := startStep_eq_inr.mp stops
  obtain ⟨lines, final, last, steps, finishes, rfl⟩ := scanLines_stopped_iff.mp scanned
  obtain ⟨colons, _, length⟩ := headerSteps_result steps
  rcases headerStep_cases final last.text with
    ⟨empty, finished⟩ | ⟨_, _, malformed⟩ | ⟨_, _, continues⟩
  · rw [finishes, Sum.inr.injEq, Except.ok.injEq] at finished
    subst finished
    exact ⟨⟨gap, first, lines, last, behind, notBlank, colons, empty, rfl⟩, length.symm⟩
  · simp [finishes] at malformed
  · simp [finishes] at continues

/-- The reader returns on exactly the streams without a complete header block
whose declared length is negative or more than `make` accepts. -/
theorem readMessage_returns_iff (ending : ReadError) (bytes : Bytes) :
    (readMessage ending bytes).1.Returns ↔
      ∀ block : HeaderSection bytes,
        0 ≤ block.contentLength ∧ block.contentLength ≤ maxAlloc := by
  constructor
  · intro returns block
    obtain ⟨headers, read⟩ := readMessage_section ending block
    rw [read] at returns
    exact (readBody_returns_iff _ _ _).mp returns
  · intro inRange
    unfold readMessage
    split
    · trivial
    · rename_i startLine rest started
      split
      · trivial
      · trivial
      · rename_i block behind scanned
        obtain ⟨found, sameLength⟩ := headerSection_of_scan started scanned
        rw [readBody_returns_iff, ← sameLength]
        exact inRange found

end Returns

section ConcretePanic

attribute [local instance] CaseTables.asciiOnly

/-- A negative Content-Length reaches `make`. -/
theorem readMessage_negative_length :
    readMessage .eof (ascii "OPTIONS sip:a SIP/2.0\r\nContent-Length: -1\r\n\r\n") =
      (.panics, []) := by
  decide

/-- So does the nearest `int` of a number that overflows. -/
example :
    readMessage .eof (ascii "OPTIONS sip:a SIP/2.0\r\nContent-Length: 99999999999999999999\r\n\r\n")
      = (.panics, []) := by
  decide

end ConcretePanic

end Gossipper.Sip
