/-
Module: Gossipper.Sip.Reuse
Purpose: Message objects that are used again and again through `ParseInto`, `CopyInto`
  and `PutMessage` of `internal/sip/message.go`.  The object keeps the keys of earlier
  uses with empty lists; a parse into it gives the message that a parse into a new
  object gives.
Trusted boundary: a message object owns its header map and the lists in it, and one
  goroutine uses it at a time.  Go visits a map in any order.
Main exports: IsMap, Object, Use, copyInto, putMessage, reused, parseInto_leaves_no_trace
-/
import Gossipper.Sip.Message
import Mathlib.Data.List.Nodup
import Mathlib.Data.List.Perm.Basic
import Mathlib.Data.Set.Basic

namespace Gossipper.Sip

open Go List Option

/-- A map has one entry for each of its keys. -/
def IsMap (headers : Headers) : Prop :=
  (headers.map Prod.fst).Nodup

/-- `append(headers[key], values...)`. -/
def appendHeaders (headers : Headers) (key : Bytes) (values : List Bytes) : Headers :=
  values.foldl (fun headers value => appendHeader headers key value) headers

/-- `CopyInto`.  An empty list of the source is skipped: appending it changes nothing. -/
def copyInto (dst src : Message) : Message :=
  { src with
    headers := src.headers.foldl (fun headers entry => appendHeaders headers entry.1 entry.2)
      (clearHeaders dst.headers) }

/-- What `PutMessage` leaves of a message. -/
def putMessage (msg : Message) : Message :=
  { Message.zero with headers := clearHeaders msg.headers }

/-- `copyHeaders` of the engine. -/
def copyHeaders (headers : Headers) : Headers :=
  headers.filter fun entry => !entry.2.isEmpty

/-! ### Header maps -/

theorem keys_appendHeader (headers : Headers) (key value : Bytes) :
    (appendHeader headers key value).map Prod.fst =
      if key ∈ headers.map Prod.fst then headers.map Prod.fst
      else headers.map Prod.fst ++ [key] := by
  induction headers with
  | nil => rfl
  | cons entry rest ih =>
    obtain ⟨other, values⟩ := entry
    by_cases same : other = key
    · simp [appendHeader, same]
    · have differs : key ≠ other := fun equal => same equal.symm
      simp only [appendHeader, if_neg same, map_cons, ih, mem_cons,
        differs, false_or]
      split <;> rfl

variable {headers : Headers}

theorem isMap_appendHeader (isMap : IsMap headers) (key value : Bytes) :
    IsMap (appendHeader headers key value) := by
  unfold IsMap
  rw [keys_appendHeader]
  split
  · exact isMap
  · rename_i isNew
    exact nodup_append.mpr
      ⟨isMap, nodup_singleton key, fun other isOld new isKey same =>
        isNew (mem_singleton.mp isKey ▸ same ▸ isOld)⟩

theorem isMap_clearHeaders (isMap : IsMap headers) :
    IsMap (clearHeaders headers) := by
  have keys : (clearHeaders headers).map Prod.fst = headers.map Prod.fst := by
    simp only [clearHeaders, List.map_map]
    rfl
  unfold IsMap
  rw [keys]
  exact isMap

theorem isMap_appendHeaders (isMap : IsMap headers) (key : Bytes)
    (values : List Bytes) : IsMap (appendHeaders headers key values) := by
  induction values generalizing headers with
  | nil => exact isMap
  | cons value rest ih =>
    exact ih (isMap_appendHeader isMap key value)

theorem isMap_copyInto (isMap : IsMap dst.headers) (src : Message) :
    IsMap (copyInto dst src).headers := by
  have folded : ∀ (entries headers : Headers), IsMap headers →
      IsMap (entries.foldl (fun headers entry => appendHeaders headers entry.1 entry.2)
        headers) := by
    intro entries
    induction entries with
    | nil => exact fun _ start => start
    | cons entry rest ih =>
      intro headers start
      exact ih _ (isMap_appendHeaders start entry.1 entry.2)
  exact folded src.headers _ (isMap_clearHeaders isMap)

/-- `headers[key]` after an append. -/
theorem headerValues_appendHeader (headers : Headers) (key value other : Bytes) :
    headerValues (appendHeader headers key value) other =
      if other = key then headerValues headers other ++ [value]
      else headerValues headers other := by
  induction headers with
  | nil =>
    by_cases same : other = key
    · simp [appendHeader, headerValues, same]
    · simp [appendHeader, headerValues, same, lookup_cons, beq_false_of_ne same]
  | cons entry rest ih =>
    obtain ⟨first, values⟩ := entry
    simp only [headerValues] at ih
    by_cases here : first = key
    · subst here
      by_cases same : other = first
      · simp [appendHeader, headerValues, same]
      · simp [appendHeader, headerValues, same, lookup_cons, beq_false_of_ne same]
    · simp only [appendHeader, if_neg here, headerValues, lookup_cons]
      cases asked : other == first with
      | true =>
        have isFirst : other = first := eq_of_beq asked
        have notKey : other ≠ key := fun isKey => here (isFirst.symm.trans isKey)
        simp [notKey]
      | false => exact ih

theorem headerValues_clearHeaders (headers : Headers) (key : Bytes) :
    headerValues (clearHeaders headers) key = [] := by
  induction headers with
  | nil => rfl
  | cons entry rest ih =>
    simp only [headerValues, clearHeaders, map_cons, lookup_cons] at *
    cases key == entry.1 with
    | true => rfl
    | false => exact ih

theorem mem_iff_headerValues (isMap : IsMap headers) (nonempty : values ≠ []) :
    (key, values) ∈ headers ↔ headerValues headers key = values := by
  induction headers with
  | nil =>
    simp only [not_mem_nil, headerValues, lookup_nil, getD_none, false_iff]
    exact fun empty => nonempty empty.symm
  | cons entry rest ih =>
    obtain ⟨first, list⟩ := entry
    obtain ⟨isNew, others⟩ := nodup_cons.mp isMap
    by_cases same : key = first
    · subst same
      have notLater : (key, values) ∉ rest := fun later =>
        isNew (List.mem_map.mpr ⟨_, later, rfl⟩)
      simp only [mem_cons, notLater, or_false, Prod.mk.injEq, true_and, headerValues,
        lookup_cons, beq_self_eq_true, getD_some]
      exact eq_comm
    · have skipped : headerValues ((first, list) :: rest) key = headerValues rest key := by
        simp [headerValues, lookup_cons, beq_false_of_ne same]
      rw [skipped, ← ih others]
      simp [same]

/-- Two maps with the same lists, up to keys with an empty one. -/
structure SameHeaders (left right : Headers) : Prop where
  isMapLeft : IsMap left
  isMapRight : IsMap right
  values : ∀ key, headerValues left key = headerValues right key

namespace SameHeaders

variable {left right : Headers}

theorem symm (same : SameHeaders left right) : SameHeaders right left :=
  ⟨same.isMapRight, same.isMapLeft, fun key => (same.values key).symm⟩

theorem cleared (isMap : IsMap headers) :
    SameHeaders (clearHeaders headers) [] :=
  ⟨isMap_clearHeaders isMap, nodup_nil, headerValues_clearHeaders headers⟩

theorem append (same : SameHeaders left right) (key value : Bytes) :
    SameHeaders (appendHeader left key value) (appendHeader right key value) where
  isMapLeft := isMap_appendHeader same.isMapLeft key value
  isMapRight := isMap_appendHeader same.isMapRight key value
  values := by
    intro other
    rw [headerValues_appendHeader, headerValues_appendHeader, same.values]

theorem mem_iff (same : SameHeaders left right) {key values}
    (nonempty : values ≠ []) : (key, values) ∈ left ↔ (key, values) ∈ right := by
  rw [mem_iff_headerValues same.isMapLeft nonempty, mem_iff_headerValues same.isMapRight nonempty,
    same.values]

theorem copyHeaders_perm (same : SameHeaders left right) :
    (copyHeaders left).Perm (copyHeaders right) := by
  have nodup {headers : Headers} (isMap : IsMap headers) : (copyHeaders headers).Nodup :=
    (List.Nodup.of_map Prod.fst isMap).filter _
  rw [perm_ext_iff_of_nodup (nodup same.isMapLeft) (nodup same.isMapRight)]
  rintro ⟨key, values⟩
  simp only [copyHeaders, mem_filter, Bool.not_eq_true', isEmpty_eq_false_iff]
  constructor
  · rintro ⟨member, nonempty⟩
    exact ⟨(same.mem_iff nonempty).mp member, nonempty⟩
  · rintro ⟨member, nonempty⟩
    exact ⟨(same.mem_iff nonempty).mpr member, nonempty⟩

end SameHeaders

section Readers

variable [CaseTables]

/-- The answers `Header` can give, over the orders in which the map can be visited. -/
def possibleAnswers (headers : Headers) (name : Bytes) : Set (Option Bytes) :=
  { answer | ∃ order : Headers, order.Perm headers ∧ header order name = answer }

theorem header_append_empty (name : Bytes) (allEmpty : ∀ entry ∈ empty, entry.2 = []) :
    header (headers ++ empty) name = header headers name := by
  have nothing : header empty name = none := by
    apply findSome?_eq_none_iff.mpr
    intro entry member
    rw [allEmpty entry member]
    split <;> rfl
  unfold header at nothing ⊢
  rw [findSome?_append, nothing, or_none]

theorem header_copyHeaders (headers : Headers) (name : Bytes) :
    header (copyHeaders headers) name = header headers name := by
  induction headers with
  | nil => rfl
  | cons entry rest ih =>
    obtain ⟨key, values⟩ := entry
    cases values with
    | nil =>
      have skipped : header ((key, []) :: rest) name = header rest name := by
        simp [header]
      rw [skipped]
      exact ih
    | cons value more =>
      have kept : copyHeaders ((key, value :: more) :: rest) =
          (key, value :: more) :: copyHeaders rest := rfl
      rw [kept]
      simp only [header, findSome?_cons] at ih ⊢
      rw [ih]

theorem SameHeaders.possibleAnswers_subset (same : SameHeaders left right) (name : Bytes) :
    possibleAnswers left name ⊆ possibleAnswers right name := by
  rintro answer ⟨order, visits, answered⟩
  -- visit the non-empty lists in the same order, and the empty ones of the right after them
  let empty := right.filter fun entry => !!entry.2.isEmpty
  refine ⟨copyHeaders order ++ empty, ?_, ?_⟩
  · have nonempty : (copyHeaders order).Perm (copyHeaders right) :=
      (visits.filter _).trans same.copyHeaders_perm
    exact (nonempty.append_right empty).trans (filter_append_perm _ right)
  · have allEmpty : ∀ entry ∈ empty, entry.2 = [] := by
      intro entry member
      simpa [empty] using (mem_filter.mp member).2
    rw [header_append_empty name allEmpty, header_copyHeaders]
    exact answered

end Readers

/-! ### Parsing into a used object -/

/-- The messages agree but for the start line, and up to keys with an empty list. -/
structure SameFields (left right : Message) : Prop where
  method : left.method = right.method
  requestURI : left.requestURI = right.requestURI
  statusCode : left.statusCode = right.statusCode
  reason : left.reason = right.reason
  body : left.body = right.body
  raw : left.raw = right.raw
  headers : SameHeaders left.headers right.headers

/-- The messages agree, up to keys with an empty list. -/
structure SameMessage (left right : Message) : Prop extends SameFields left right where
  startLine : left.startLine = right.startLine

/-- Two parses in progress: the start line of the previous use is there until the first
line has been read. -/
structure InStep (left right : Nat × Message) : Prop where
  line : left.1 = right.1
  fields : SameFields left.2 right.2
  startLine : 0 < right.1 → left.2.startLine = right.2.startLine

/-- The results of two parses. -/
def SameResult (left right : Message × Option ParseError) : Prop :=
  left.2 = right.2 ∧ (left.2 = none → SameMessage left.1 right.1)

variable {left right : Message}

theorem sameResult_error (error : ParseError) :
    SameResult (left, some error) (right, some error) :=
  ⟨rfl, fun none => by cases none⟩

theorem parseStartLine_sameResult (text : Bytes) (same : SameFields left right) :
    SameResult (parseStartLine text left) (parseStartLine text right) := by
  simp only [parseStartLine]
  by_cases blank : trimSpace text = []
  · rw [if_pos blank, if_pos blank]
    exact sameResult_error _
  · rw [if_neg blank, if_neg blank]
    by_cases isStatus : 8 < (trimSpace text).length ∧ (trimSpace text).take 8 = ascii "SIP/2.0 "
    · rw [if_pos isStatus, if_pos isStatus]
      cases cut ((trimSpace text).drop 8) space with
      | none => exact sameResult_error _
      | some parts =>
        obtain ⟨code, reason⟩ := parts
        cases number : atoi code with
        | mk status cause =>
          cases cause with
          | some cause =>
            simp only [number]
            exact sameResult_error _
          | none =>
            simp only [number]
            exact ⟨rfl, fun _ =>
              { same with startLine := rfl, statusCode := rfl, reason := rfl }⟩
    · rw [if_neg isStatus, if_neg isStatus]
      cases cut (trimSpace text) space with
      | none => exact sameResult_error _
      | some parts =>
        obtain ⟨method, tail⟩ := parts
        cases uriEnd : cut tail space with
        | none =>
          simp only [uriEnd]
          exact sameResult_error _
        | some parts =>
          simp only [uriEnd]
          exact ⟨rfl, fun _ =>
            { same with startLine := rfl, method := rfl, requestURI := rfl }⟩

theorem parseStep_inStep (left right : Nat × Message) (text : Bytes)
    (inStep : InStep left right) :
    Sum.LiftRel InStep SameResult (parseStep left text) (parseStep right text) := by
  obtain ⟨index, left⟩ := left
  obtain ⟨_, right⟩ := right
  obtain ⟨rfl, fields, startLine⟩ := inStep
  cases index with
  | zero =>
    have result := parseStartLine_sameResult (trimSuffix text [cr]) fields
    simp only [parseStep]
    cases onLeft : parseStartLine (trimSuffix text [cr]) left with
    | mk next error =>
      cases onRight : parseStartLine (trimSuffix text [cr]) right with
      | mk other same =>
        rw [onLeft, onRight] at result
        obtain ⟨rfl, agree⟩ := result
        cases error with
        | some error => exact .inr (sameResult_error error)
        | none =>
          have agreed := agree rfl
          exact .inl ⟨rfl, agreed.toSameFields, fun _ => agreed.startLine⟩
  | succ lineIdx =>
    have started := startLine (Nat.succ_pos lineIdx)
    simp only [parseStep]
    by_cases blank : trimSuffix text [cr] = []
    · rw [if_pos blank, if_pos blank]
      exact .inr ⟨rfl, fun _ => { fields with startLine := started }⟩
    · rw [if_neg blank, if_neg blank]
      cases cut (trimSuffix text [cr]) colon with
      | none => exact .inr (sameResult_error _)
      | some parts =>
        exact .inl ⟨rfl, { fields with headers := fields.headers.append _ _ },
          fun _ => started⟩

theorem parseStep_pos {state next text}
    (goesOn : parseStep state text = .inl next) : 0 < next.1 := by
  revert goesOn
  fun_cases parseStep state text <;> rintro ⟨⟩
  · exact Nat.one_pos
  · exact Nat.succ_pos _

theorem parsedScan_sameResult
    {left right}
    (related : LineScan.Related InStep SameResult left right) :
    SameResult (parsedScan left) (parsedScan right) := by
  cases related with
  | @stopped leftResult rightResult rest same =>
    obtain ⟨left, error⟩ := leftResult
    obtain ⟨right, _⟩ := rightResult
    obtain ⟨rfl, agree⟩ := same
    cases error with
    | some error => exact sameResult_error error
    | none =>
      have agreed := agree rfl
      simp only [parsedScan]
      by_cases empty : rest = []
      · rw [if_pos empty, if_pos empty]
        exact ⟨rfl, fun _ => agreed⟩
      · rw [if_neg empty, if_neg empty]
        exact ⟨rfl, fun _ => { agreed with body := rfl }⟩
  | @ended leftState rightState tail inStep =>
    have last := parseStep_inStep leftState rightState tail inStep
    simp only [parsedScan]
    cases onLeft : parseStep leftState tail with
    | inl next =>
      cases onRight : parseStep rightState tail with
      | inl other =>
        rw [onLeft, onRight] at last
        have inStep := Sum.liftRel_inl_inl.mp last
        have started := inStep.startLine (parseStep_pos onRight)
        exact ⟨rfl, fun _ => { inStep.fields with startLine := started }⟩
      | inr other =>
        rw [onLeft, onRight] at last
        cases last
    | inr result =>
      cases onRight : parseStep rightState tail with
      | inl other =>
        rw [onLeft, onRight] at last
        cases last
      | inr other =>
        rw [onLeft, onRight] at last
        exact Sum.liftRel_inr_inr.mp last

theorem parseInto_sameResult {msg} (isMap : IsMap msg.headers) (raw : Bytes) :
    SameResult (parseInto msg raw) (parseBytes raw .zero) := by
  apply parsedScan_sameResult
  apply scanLines_related parseStep_inStep
  exact {
    line := rfl
    fields := ⟨rfl, rfl, rfl, rfl, rfl, rfl, .cleared isMap⟩
    startLine := fun behind => absurd behind (Nat.lt_irrefl 0) }

/-! ### Histories -/

theorem isMap_parseInto (isMap : IsMap msg.headers) (raw : Bytes) :
    IsMap (parseInto msg raw).1.headers := by
  apply parseBytes_headers
  · intro headers key value _ before
    exact isMap_appendHeader before key value
  · exact isMap_clearHeaders isMap

/-- A message object. -/
abbrev Object : Type := { msg : Message // IsMap msg.headers }

/-- One use of an object; a parse may fail. -/
inductive Use where
  | parseInto (raw : Bytes)
  | copyInto (src : Message)
  | putMessage

def Use.apply (object : Object) : Use → Object
  | .parseInto raw => ⟨(Sip.parseInto object.1 raw).1, isMap_parseInto object.2 raw⟩
  | .copyInto src => ⟨Sip.copyInto object.1 src, isMap_copyInto object.2 src⟩
  | .putMessage => ⟨Sip.putMessage object.1, isMap_clearHeaders object.2⟩

/-- An object after a history of uses. -/
def reused (start : Object) (history : List Use) : Object :=
  history.foldl Use.apply start

/-- What a program can see of two messages is the same. -/
structure Indistinguishable [CaseTables] (left right : Message) : Prop where
  startLine : left.startLine = right.startLine
  method : left.method = right.method
  requestURI : left.requestURI = right.requestURI
  statusCode : left.statusCode = right.statusCode
  reason : left.reason = right.reason
  body : left.body = right.body
  raw : left.raw = right.raw
  lists : ∀ key values, values ≠ [] →
    ((key, values) ∈ left.headers ↔ (key, values) ∈ right.headers)
  header : ∀ name, possibleAnswers left.headers name = possibleAnswers right.headers name
  copyHeaders : (copyHeaders left.headers).Perm (copyHeaders right.headers)

theorem SameMessage.indistinguishable [CaseTables]
    (same : SameMessage left right) : Indistinguishable left right where
  startLine := same.startLine
  method := same.method
  requestURI := same.requestURI
  statusCode := same.statusCode
  reason := same.reason
  body := same.body
  raw := same.raw
  lists := fun _ _ nonempty => same.headers.mem_iff nonempty
  header := fun name => Set.Subset.antisymm (same.headers.possibleAnswers_subset name)
    (same.headers.symm.possibleAnswers_subset name)
  copyHeaders := same.headers.copyHeaders_perm

/-- Whatever an object was used for before, `ParseInto` succeeds on it exactly when `Parse`
does, and gives a message that cannot be told from the one `Parse` gives. -/
theorem parseInto_leaves_no_trace [CaseTables] (start : Object) (history : List Use)
    (raw : Bytes) :
    ((parseInto (reused start history).1 raw).2 = none ↔ ∃ fresh, parse raw = .ok fresh) ∧
      ∀ fresh, parse raw = .ok fresh →
        Indistinguishable (parseInto (reused start history).1 raw).1 fresh := by
  obtain ⟨sameError, agree⟩ := parseInto_sameResult (reused start history).2 raw
  unfold parse
  cases parsed : parseBytes raw .zero with
  | mk msg error =>
    rw [parsed] at sameError agree
    rw [sameError]
    cases error with
    | some error => simp
    | none =>
      have same := (agree sameError).indistinguishable
      constructor
      · exact ⟨fun _ => ⟨msg, rfl⟩, fun _ => rfl⟩
      · intro fresh ok
        cases ok
        exact same

section Concrete

attribute [local instance] CaseTables.asciiOnly

/-- A failed parse of a message with other headers, and a return to the pool. -/
def staleUses : List Use :=
  [.parseInto (ascii "BYE b SIP/2.0\r\nVia: x\r\nVia: y\r\nbad\r\n"), .putMessage,
    .parseInto (ascii "SIP/2.0 1")]

/-- The object keeps the key `Via`, and a new request leaves no trace of it. -/
theorem staleUses_leave_no_trace :
    (reused ⟨.zero, nodup_nil⟩ staleUses).1.headers = [(ascii "Via", [])] ∧
      ∃ fresh, parse (ascii "ACK b SIP/2.0\r\nTo: c\r\n\r\n") = .ok fresh ∧
        Indistinguishable
          (parseInto (reused ⟨.zero, nodup_nil⟩ staleUses).1
            (ascii "ACK b SIP/2.0\r\nTo: c\r\n\r\n")).1 fresh :=
  ⟨by decide, _, rfl, (parseInto_leaves_no_trace _ staleUses _).2 _ rfl⟩

end Concrete

end Gossipper.Sip
