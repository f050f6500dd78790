/-
Module: Gossipper.Sip.Message
Purpose: SIP messages, their parser and the header readers built on it, after
  `internal/sip/message.go`.
Trusted boundary: none
Main exports: Message, parseBytes, parse, parseInto, header, normalizeCallID, parseCSeq, viaBranch
-/
import Gossipper.Go.Lines
import Gossipper.Go.Number

namespace Gossipper.Sip

open Go List

/-- `map[string][]string`.  The entries stand in the order in which a `range`
over the map visits them; Go leaves that order open. -/
abbrev Headers := List (Bytes × List Bytes)

/-- `headers[key] = append(headers[key], value)`. -/
def appendHeader : Headers → Bytes → Bytes → Headers
  | [], key, value => [(key, [value])]
  | (other, values) :: rest, key, value =>
    if other = key then (other, values ++ [value]) :: rest
    else (other, values) :: appendHeader rest key value

/-- `headers[key]`. -/
def headerValues (headers : Headers) (key : Bytes) : List Bytes :=
  (headers.lookup key).getD []

/-- `Message`. -/
structure Message where
  startLine : Bytes
  method : Bytes
  requestURI : Bytes
  statusCode : Int
  reason : Bytes
  headers : Headers
  body : Bytes
  raw : Bytes
deriving DecidableEq, Repr

/-- `Message{}`. -/
def Message.zero : Message where
  startLine := []
  method := []
  requestURI := []
  statusCode := 0
  reason := []
  headers := []
  body := []
  raw := []

/-- The errors of the parser, with the text they quote. -/
inductive ParseError where
  | emptyMessage
  | invalidStatusLine (line : Bytes)
  | statusCode (code : Bytes) (cause : NumError)
  | invalidRequestLine (line : Bytes)
  | malformedHeader (line : Bytes)
deriving DecidableEq, Repr

/-- The space and the characters that structure a header. -/
abbrev space : UInt8 := 0x20
abbrev tab : UInt8 := 0x09
abbrev colon : UInt8 := 0x3A
abbrev semicolon : UInt8 := 0x3B

/-- The first line of a message: a status line or a request line. -/
def parseStartLine (text : Bytes) (msg : Message) : Message × Option ParseError :=
  let line := trimSpace text
  if line = [] then (msg, some .emptyMessage)
  else
    let msg := { msg with startLine := line }
    if 8 < line.length ∧ line.take 8 = ascii "SIP/2.0 " then
      match cut (line.drop 8) space with
      | none => (msg, some (.invalidStatusLine line))
      | some (code, reason) =>
        match atoi code with
        | (_, some cause) => (msg, some (.statusCode code cause))
        | (status, none) => ({ msg with statusCode := status, reason := reason }, none)
    else
      match cut line space with
      | none => (msg, some (.invalidRequestLine line))
      | some (method, tail) =>
        match cut tail space with
        | none => (msg, some (.invalidRequestLine line))
        | some (uri, _) => ({ msg with method := method, requestURI := uri }, none)

/-- One line of `parseBytes`.  The state is the line index and the message; the
scan stops at an error and, without one, at the empty line before the body. -/
def parseStep (state : Nat × Message) (text : Bytes) :
    (Nat × Message) ⊕ (Message × Option ParseError) :=
  let line := trimSuffix text [cr]
  match state with
  | (0, msg) =>
    match parseStartLine line msg with
    | (msg, some error) => .inr (msg, some error)
    | (msg, none) => .inl (1, msg)
  | (lineIdx + 1, msg) =>
    if line = [] then .inr (msg, none)
    else
      match cut line colon with
      | none => .inr (msg, some (.malformedHeader line))
      | some (name, value) =>
        .inl (lineIdx + 2,
          { msg with headers := appendHeader msg.headers (trimSpace name) (trimSpace value) })

/-- What `parseBytes` makes of the scan: at the empty line the rest is the body, and
the loop also visits `i == len(raw)`, where the last line ends. -/
def parsedScan : LineScan (Nat × Message) (Message × Option ParseError) →
    Message × Option ParseError
  | .stopped (msg, some error) _ => (msg, some error)
  | .stopped (msg, none) rest =>
    if rest = [] then (msg, none) else ({ msg with body := rest }, none)
  | .ended state tail =>
    match parseStep state tail with
    | .inl (_, msg) => (msg, none)
    | .inr result => result

/-- `parseBytes`.  The message is changed in place, also when the parse fails. -/
def parseBytes (raw : Bytes) (msg : Message) : Message × Option ParseError :=
  parsedScan (scanLines parseStep (0, { msg with raw := raw }) [] raw)

/-- `Parse`. -/
def parse (raw : Bytes) : Except ParseError Message :=
  match parseBytes raw .zero with
  | (_, some error) => .error error
  | (msg, none) => .ok msg

/-- Emptying the lists of a header map keeps its keys. -/
def clearHeaders (headers : Headers) : Headers :=
  headers.map fun entry => (entry.1, [])

/-- `ParseInto`.  The start line of the previous use survives a failed parse. -/
def parseInto (msg : Message) (raw : Bytes) : Message × Option ParseError :=
  parseBytes raw
    { msg with
      headers := clearHeaders msg.headers
      method := []
      requestURI := []
      statusCode := 0
      reason := []
      body := [] }

/-! ### The start line decides what a message is -/

/-- The method and the status of a message. -/
def Message.kind (msg : Message) : Bytes × Int :=
  (msg.method, msg.statusCode)

/-- The first line, as the parser sees it. -/
def firstLine (raw : Bytes) : Bytes :=
  trimSuffix (raw.takeWhile (· ≠ lf)) [cr]

/-- The scan is behind the start line of a message of some kind. -/
def BehindStart (kind : Bytes × Int) (state : Nat × Message) : Prop :=
  0 < state.1 ∧ state.2.kind = kind

variable {text : Bytes} {kind : Bytes × Int}

theorem parseStep_behindStart {state next}
    (goesOn : parseStep state text = .inl next) (behind : BehindStart kind state) :
    BehindStart kind next := by
  revert goesOn
  fun_cases parseStep state text <;> rintro ⟨⟩
  · exact absurd behind.1 (lt_irrefl 0)
  · exact ⟨Nat.succ_pos _, behind.2⟩

theorem parseStep_stops (stops : parseStep state text = .inr result)
    (behind : BehindStart kind state) : result.1.kind = kind := by
  revert stops
  fun_cases parseStep state text <;> rintro ⟨⟩
  case case1 => exact absurd behind.1 (lt_irrefl 0)
  all_goals exact behind.2

open Message

theorem parseStartLine_kind {msg next}
    (fresh : msg.kind = ([], 0)) (parsed : parseStartLine text msg = (next, none)) :
    next.kind = (parseStartLine text .zero).1.kind := by
  simp only [kind, Prod.mk.injEq] at fresh
  simp only [parseStartLine] at parsed ⊢
  by_cases blank : trimSpace text = []
  · rw [if_pos blank] at parsed
    cases parsed
  · rw [if_neg blank] at parsed ⊢
    split at parsed
    · rename_i isStatus
      rw [if_pos isStatus]
      split at parsed
      · cases parsed
      · split at parsed <;> cases parsed
        simp_all [kind, zero]
    · rename_i isRequest
      rw [if_neg isRequest]
      split at parsed
      · cases parsed
      · split at parsed <;> cases parsed
        simp_all [kind, zero]

variable {msg : Message}

theorem parseStep_start {next}
    (fresh : msg.kind = ([], 0)) (goesOn : parseStep (0, msg) text = .inl next) :
    BehindStart (parseStartLine (trimSuffix text [cr]) .zero).1.kind next := by
  simp only [parseStep] at goesOn
  split at goesOn
  · cases goesOn
  · rename_i start parsed
    cases goesOn
    exact ⟨Nat.one_pos, parseStartLine_kind fresh parsed⟩

theorem parseStep_start_stops (stops : parseStep (0, msg) text = .inr result) :
    result.2 ≠ none := by
  simp only [parseStep] at stops
  split at stops <;> cases stops
  simp

theorem firstLine_line (line : Line) (rest : Bytes) :
    firstLine (line.text ++ lf :: rest) = trimSuffix line.text [cr] := by
  rw [firstLine, takeWhile_append_of_pos]
  · simp
  · intro b inText
    simpa using fun isLF : b = lf => line.noLF (isLF ▸ inText)

theorem firstLine_tail (tail : Line) : firstLine tail.text = trimSuffix tail.text [cr] := by
  rw [firstLine, takeWhile_eq_self_iff.mpr]
  intro b inText
  simpa using fun isLF : b = lf => tail.noLF (isLF ▸ inText)

/-- A scan that is behind the start line ends with a message of its kind. -/
theorem parsedScan_kind
    (satisfied : scan.Satisfies (BehindStart kind) fun result => result.1.kind = kind)
    (succeeds : parsedScan scan = (parsed, none)) : parsed.kind = kind := by
  unfold parsedScan at succeeds
  split at succeeds
  · cases succeeds
  · split at succeeds <;> cases succeeds <;> exact satisfied
  · split at succeeds
    · rename_i goesOn
      cases succeeds
      exact (parseStep_behindStart goesOn satisfied.1).2
    · rename_i stops
      rw [succeeds] at stops
      exact parseStep_stops stops satisfied.1

/-- The kind of a parsed message is read from its first line alone. -/
theorem parseBytes_kind {raw msg parsed} (fresh : msg.kind = ([], 0))
    (succeeds : parseBytes raw msg = (parsed, none)) :
    parsed.kind = (parseStartLine (firstLine raw) .zero).1.kind := by
  unfold parseBytes at succeeds
  have freshStart : ({ msg with raw := raw } : Message).kind = ([], 0) := fresh
  generalize ({ msg with raw := raw } : Message) = start at succeeds freshStart
  obtain ⟨lines, tail, rfl⟩ := exists_terminated raw
  cases lines with
  | nil =>
    rw [terminated_nil, nil_append] at succeeds ⊢
    rw [scanLines_tail, parsedScan] at succeeds
    rw [firstLine_tail]
    split at succeeds
    · rename_i goesOn
      cases succeeds
      exact (parseStep_start freshStart goesOn).2
    · rename_i stops
      exact absurd (congrArg Prod.snd succeeds) (parseStep_start_stops stops)
  | cons line more =>
    rw [terminated_cons, append_assoc, cons_append] at succeeds ⊢
    rw [scanLines_line] at succeeds
    rw [firstLine_line]
    cases outcome : parseStep (0, start) line.text with
    | inl next =>
      rw [outcome] at succeeds
      refine parsedScan_kind (scanLines_invariant ?_ ?_ (parseStep_start freshStart outcome)
        (by simp) _) succeeds
      · exact fun _ _ _ _ => parseStep_behindStart
      · exact fun _ _ _ _ => parseStep_stops
    | inr result =>
      rw [outcome] at succeeds
      obtain ⟨msg, _ | error⟩ := result
      · exact absurd rfl (parseStep_start_stops outcome)
      · cases succeeds

/-! ### Header values are single lines -/

/-- Every header value is one line of text. -/
def OneLineHeaders (headers : Headers) : Prop :=
  ∀ entry ∈ headers, ∀ value ∈ entry.2, lf ∉ value

theorem OneLineHeaders.append {headers} (oneLine : OneLineHeaders headers)
    (key : Bytes) {value} (noLF : lf ∉ value) :
    OneLineHeaders (appendHeader headers key value) := by
  induction headers with
  | nil => simpa [OneLineHeaders, appendHeader] using noLF
  | cons entry rest ih =>
    obtain ⟨other, values⟩ := entry
    simp only [OneLineHeaders, forall_mem_cons] at oneLine
    simp only [appendHeader]
    split
    · simp only [OneLineHeaders, forall_mem_cons, mem_append, mem_singleton]
      refine ⟨?_, oneLine.2⟩
      rintro v (old | rfl)
      · exact oneLine.1 v old
      · exact noLF
    · simp only [OneLineHeaders, forall_mem_cons]
      exact ⟨oneLine.1, ih oneLine.2⟩

theorem parseStartLine_headers (text : Bytes) (msg : Message) :
    (parseStartLine text msg).1.headers = msg.headers := by
  simp only [parseStartLine]
  repeat' split
  all_goals rfl

section Headers

variable {P : Headers → Prop}

theorem parseStep_headers
    (kept : ∀ headers key value, lf ∉ value → P headers → P (appendHeader headers key value))
    {state next text} (noLF : lf ∉ text)
    (goesOn : parseStep state text = .inl next) (before : P state.2.headers) :
    P next.2.headers := by
  revert goesOn
  fun_cases parseStep state text <;> rintro ⟨⟩
  case case2 msg _ started =>
    have same := parseStartLine_headers (trimSuffix text [cr]) msg
    rw [started] at same
    exact same ▸ before
  case case5 line _ _ _ name value found =>
    apply kept _ _ _ _ before
    intro member
    have inLine : lf ∈ line := by
      rw [(cut_eq_some found).1]
      exact mem_append_right _ (mem_cons_of_mem _ (trimSpace_subset value member))
    exact noLF (trimSuffix_subset _ _ inLine)

theorem parseStep_stops_headers (stops : parseStep state text = .inr result)
    (before : P state.2.headers) : P result.1.headers := by
  revert stops
  fun_cases parseStep state text <;> rintro ⟨⟩
  case case1 msg _ _ started =>
    have same := parseStartLine_headers (trimSuffix text [cr]) msg
    rw [started] at same
    exact same ▸ before
  all_goals exact before

/-- What an append of a header value keeps holds of the headers after a parse, also after
one that fails. -/
theorem parseBytes_headers
    (kept : ∀ headers key value, lf ∉ value → P headers → P (appendHeader headers key value))
    (raw : Bytes) (before : P msg.headers) :
    P (parseBytes raw msg).1.headers := by
  have scanned : (scanLines parseStep (0, { msg with raw := raw }) [] raw).Satisfies
      (fun state => P state.2.headers) fun result => P result.1.headers := by
    apply scanLines_invariant
    · exact fun _ _ _ => parseStep_headers kept
    · exact fun _ _ _ _ => parseStep_stops_headers
    · exact before
    · simp
  unfold parseBytes
  generalize scanLines parseStep (0, { msg with raw := raw }) [] raw = scan at scanned
  unfold parsedScan
  split
  · exact scanned
  · split <;> exact scanned
  · split
    · rename_i goesOn
      exact parseStep_headers kept scanned.2 goesOn scanned.1
    · rename_i stops
      exact parseStep_stops_headers stops scanned.1

end Headers

theorem parse_oneLine {raw} (parsed : parse raw = .ok msg) :
    OneLineHeaders msg.headers := by
  have oneLine : OneLineHeaders (parseBytes raw .zero).1.headers := by
    apply parseBytes_headers
    · intro headers key value noLF before
      exact before.append key noLF
    · simp [OneLineHeaders, zero]
  unfold parse at parsed
  split at parsed
  · cases parsed
  · rename_i found succeeds
    cases parsed
    rw [succeeds] at oneLine
    exact oneLine

/-- `NormalizeCallID`. -/
def normalizeCallID (value : Bytes) : Bytes :=
  let v := trimSpace value
  if v = [] then v
  else
    match lastIndex v (ascii "///") with
    | some i => v.drop (i + 3)
    | none => v

/-- A letter byte in lower case. -/
def lowerByte (b : UInt8) : UInt8 :=
  if 0x41 ≤ b.toNat ∧ b.toNat ≤ 0x5A then b + 0x20 else b

/-- The scan of `ViaBranch` for the first `;branch=` parameter. -/
def findBranch : Bytes → Option Bytes
  | [] => none
  | b :: rest =>
    if b = semicolon then
      let param := rest.dropWhile fun c => c = space ∨ c = tab
      if (param.take 7).map lowerByte = ascii "branch=" then
        some (trimSpace ((param.drop 7).takeWhile (· ≠ semicolon)))
      else findBranch rest
    else findBranch rest

section Readers

variable [CaseTables]

/-- `Header`. -/
def header (headers : Headers) (name : Bytes) : Option Bytes :=
  headers.findSome? fun entry =>
    if equalFold entry.1 name then entry.2.head? else none

/-- `ParseCSeq`. -/
def parseCSeq (headers : Headers) : Option (Int × Bytes) :=
  match header headers (ascii "CSeq") with
  | none => none
  | some value =>
    match fields (trimSpace value) with
    | first :: second :: rest =>
      match atoi first with
      | (_, some _) => none
      | (num, none) => some (num, (second :: rest).getLast (by simp))
    | _ => none

/-- `ViaBranch`. -/
def viaBranch (headers : Headers) : Option Bytes :=
  match header headers (ascii "Via") with
  | none => none
  | some value => if value = [] then none else findBranch value

/-- `writeHdr` of `BuildResponse`: a header under its own name or an alias. -/
def copiedHeader (headers : Headers) (name : String) (aliases : List String) : Bytes :=
  match (name :: aliases).findSome? fun spelling => header headers (ascii spelling) with
  | some value => ascii name ++ ascii ": " ++ value ++ crlf
  | none => []

/-- `BuildResponse`. -/
def buildResponse (req : Message) (statusCode : Int) (reason : Bytes) : Bytes :=
  let vias := ["Via", "via", "v"].flatMap fun key => headerValues req.headers (ascii key)
  ascii "SIP/2.0 " ++ itoa statusCode ++ ascii " " ++ reason ++ crlf ++
    (vias.flatMap fun value => ascii "Via: " ++ value ++ crlf) ++
    copiedHeader req.headers "From" ["f"] ++
    copiedHeader req.headers "To" ["t"] ++
    copiedHeader req.headers "Call-ID" ["i"] ++
    copiedHeader req.headers "CSeq" [] ++
    ascii "Content-Length: 0" ++ crlf ++ crlf

end Readers

end Gossipper.Sip
