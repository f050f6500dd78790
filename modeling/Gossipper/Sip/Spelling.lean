/-
Module: Gossipper.Sip.Spelling
Purpose: How the spelling of header names (letter case, line by line, and the compact
  forms) decides what `Header`, `ViaBranch`, `ParseCSeq`, the transaction match and
  `ReadMessage` see, after `internal/sip/message.go` and `internal/sip/stream.go`.
Trusted boundary: Go visits a map in any order, a new one for every `range`.
Main exports: HeaderField, SpelledMessage, Spells, Canonical, Respells, Readable, sameHandling_iff
-/
import Gossipper.Sip.Framing
import Gossipper.Sip.Matching
import Gossipper.Sip.Reuse

namespace Gossipper.Sip

open Go List

/-! ### Messages by their header fields -/

/-- A header field on the wire: the text before and behind the first colon of its
line.  A carriage return at the end of the line is part of the value. -/
structure HeaderField where
  name : Bytes
  value : Bytes
  noColon : colon ∉ name
  nameNoLF : lf ∉ name
  valueNoLF : lf ∉ value

namespace HeaderField

/-- The line of the field. -/
def line (field : HeaderField) : Line where
  text := field.name ++ colon :: field.value
  noLF := by
    simp only [mem_append, mem_cons, not_or]
    exact ⟨field.nameNoLF, by decide, field.valueNoLF⟩

/-- The key and the value that the parser takes from the field. -/
def entry (field : HeaderField) : Bytes × Bytes :=
  (trimSpace field.name, trimSpace field.value)

end HeaderField

/-- A SIP message: a start line that parses, header fields, an empty line and a body. -/
structure SpelledMessage where
  start : Line
  fields : List HeaderField
  empty : Line
  body : Bytes
  starts : (parseStartLine (trimSuffix start.text [cr]) .zero).2 = none
  isEmpty : trimSuffix empty.text [cr] = []

namespace SpelledMessage

/-- The bytes of the message. -/
def text (m : SpelledMessage) : Bytes :=
  m.start.text ++ lf ::
    (terminated (m.fields.map HeaderField.line) ++ (m.empty.text ++ lf :: m.body))

/-- The keys and values of the header, in the order of the lines. -/
def entries (m : SpelledMessage) : List (Bytes × Bytes) :=
  m.fields.map HeaderField.entry

end SpelledMessage

/-! ### The header map of a message -/

/-- The header map after some fields. -/
def collect (headers : Headers) (entries : List (Bytes × Bytes)) : Headers :=
  entries.foldl (fun headers entry => appendHeader headers entry.1 entry.2) headers

/-- The map holds the entries: for each key its values in order. -/
structure Holds (headers : Headers) (entries : List (Bytes × Bytes)) : Prop where
  isMap : IsMap headers
  values : ∀ key,
    headerValues headers key = (entries.filter fun entry => entry.1 = key).map Prod.snd

theorem holds_collect (holds : Holds headers before) (entries : List (Bytes × Bytes)) :
    Holds (collect headers entries) (before ++ entries) := by
  induction entries generalizing headers before with
  | nil => simpa [collect] using holds
  | cons entry rest ih =>
    have appended : Holds (appendHeader headers entry.1 entry.2) (before ++ [entry]) := by
      refine ⟨isMap_appendHeader holds.isMap _ _, fun key => ?_⟩
      rw [headerValues_appendHeader, holds.values, filter_append, map_append]
      by_cases same : key = entry.1
      · simp [same]
      · have other : entry.1 ≠ key := fun equal => same equal.symm
        simp [same, other]
    simpa [collect] using ih appended

theorem holds_cleared (isMap : IsMap headers) :
    Holds (clearHeaders headers) [] :=
  ⟨isMap_clearHeaders isMap, fun key => by simp [headerValues_clearHeaders]⟩

theorem lookup_eq_head (entries : List (Bytes × Bytes)) (key : Bytes) :
    ((entries.filter fun entry => entry.1 = key).map Prod.snd).head? = entries.lookup key := by
  induction entries with
  | nil => rfl
  | cons entry rest ih =>
    rw [lookup_cons]
    by_cases same : key = entry.1
    · simp [same]
    · have other : entry.1 ≠ key := fun equal => same equal.symm
      rw [filter_cons_of_neg (by simpa using other), ih,
        beq_false_of_ne same]

theorem mem_of_lookup {entries : List (Bytes × Bytes)} {key value : Bytes}
    (found : entries.lookup key = some value) : (key, value) ∈ entries := by
  rw [← lookup_eq_head, head?_map] at found
  obtain ⟨entry, head, isValue⟩ := Option.map_eq_some_iff.mp found
  have kept := mem_filter.mp (mem_of_mem_head? head)
  have isKey : entry.1 = key := by simpa using kept.2
  rw [← isKey, ← isValue]
  exact kept.1

namespace Holds

variable {headers order : Headers} {entries : List (Bytes × Bytes)}

theorem mem_of_lookup (holds : Holds headers entries) (first : entries.lookup key = some value) :
    ∃ more, (key, value :: more) ∈ headers := by
  rw [← lookup_eq_head, ← holds.values] at first
  obtain ⟨more, list⟩ := head?_eq_some_iff.mp first
  exact ⟨more, (mem_iff_headerValues holds.isMap (by simp)).mpr list⟩

theorem lookup_of_mem (holds : Holds headers entries)
    (member : (key, value :: more) ∈ headers) : entries.lookup key = some value := by
  rw [← lookup_eq_head, ← holds.values,
    (mem_iff_headerValues holds.isMap (by simp)).mp member]
  rfl

variable [CaseTables]

/-- An answer of `Header` is the first value under one spelling of the name. -/
theorem header_some (holds : Holds headers entries) (visits : order.Perm headers)
    (answered : header order name = some value) :
    ∃ key, equalFold key name = true ∧ entries.lookup key = some value := by
  obtain ⟨entry, member, found⟩ := exists_of_findSome?_eq_some answered
  obtain ⟨key, values⟩ := entry
  split at found
  · rename_i folds
    obtain ⟨more, rfl⟩ := head?_eq_some_iff.mp found
    exact ⟨key, folds, holds.lookup_of_mem (visits.mem_iff.mp member)⟩
  · cases found

/-- Every spelling that occurs can be the one that is found. -/
theorem header_choice (holds : Holds headers entries)
    (folds : equalFold key name = true) (first : entries.lookup key = some value) :
    ∃ order : Headers, order.Perm headers ∧ header order name = some value := by
  obtain ⟨more, member⟩ := holds.mem_of_lookup first
  refine ⟨(key, value :: more) :: headers.erase (key, value :: more),
    (perm_cons_erase member).symm, ?_⟩
  simp [header, folds]

/-- `Header` finds nothing exactly when the name occurs in no spelling. -/
theorem header_none (holds : Holds headers entries) (visits : order.Perm headers)
    :
    header order name = none ↔
      ∀ key value, entries.lookup key = some value → equalFold key name = false := by
  constructor
  · intro missing key value first
    obtain ⟨more, member⟩ := holds.mem_of_lookup first
    have skipped := findSome?_eq_none_iff.mp missing _ (visits.mem_iff.mpr member)
    by_contra folds
    simp [folds] at skipped
  · intro absent
    cases answered : header order name with
    | none => rfl
    | some value =>
      obtain ⟨key, folds, first⟩ := holds.header_some visits answered
      simp [absent key value first] at folds

end Holds

/-! ### What the readers see -/

section Readers

variable [CaseTables]

/-- The name of a header is found under each of its spellings with the same reading: the
first field under a spelling in letters of the full name reads like `expected`, and so
does a missing field when there is no such spelling. -/
def FirstReads {γ : Type} (name : Bytes) (read : Option Bytes → γ)
    (entries : List (Bytes × Bytes)) (expected : Option Bytes) : Prop :=
  (∀ key value, entries.lookup key = some value → equalFold key name = true →
    read (some value) = read expected) ∧
  ((∀ key value, entries.lookup key = some value → equalFold key name = false) →
    read none = read expected)

theorem Holds.firstReads_iff {γ : Type}
    (holds : Holds headers entries) (name : Bytes) (read : Option Bytes → γ)
    (expected : Option Bytes) :
    (∀ order : Headers, order.Perm headers → read (header order name) = read expected) ↔
      FirstReads name read entries expected := by
  constructor
  · intro always
    constructor
    · intro key value first folds
      obtain ⟨order, visits, answered⟩ := holds.header_choice folds first
      rw [← answered]
      exact always order visits
    · intro absent
      have missing := (holds.header_none (.refl headers)).mpr absent
      rw [← missing]
      exact always headers (.refl headers)
  · rintro ⟨found, missing⟩ order visits
    cases answered : header order name with
    | none => exact missing ((holds.header_none visits).mp answered)
    | some value =>
      obtain ⟨key, folds, first⟩ := holds.header_some visits answered
      exact found key value first folds

/-- `ViaBranch` on the value that `Header` found. -/
def branchOf : Option Bytes → Option Bytes
  | none => none
  | some value => if value = [] then none else findBranch value

theorem viaBranch_eq (headers : Headers) :
    viaBranch headers = branchOf (header headers (ascii "Via")) := by
  unfold viaBranch branchOf
  cases header headers (ascii "Via") <;> rfl

/-- `ParseCSeq` on the value that `Header` found. -/
def cseqOf : Option Bytes → Option (Int × Bytes)
  | none => none
  | some value =>
    match fields (trimSpace value) with
    | first :: second :: rest =>
      match atoi first with
      | (_, some _) => none
      | (num, none) => some (num, (second :: rest).getLast (cons_ne_nil _ _))
    | _ => none

theorem parseCSeq_eq (headers : Headers) :
    parseCSeq headers = cseqOf (header headers (ascii "CSeq")) := by
  unfold parseCSeq cseqOf
  cases header headers (ascii "CSeq") <;> rfl

/-- The Call-ID by which `dispatch` finds a mailbox. -/
def dispatchCallID (headers : Headers) : Option Bytes :=
  (header headers (ascii "Call-ID")).map normalizeCallID

/-- The number of the last field that `ReadMessage` takes for a Content-Length. -/
def lastLength (entries : List (Bytes × Bytes)) : Int :=
  match (entries.filter fun entry => equalFold entry.1 (ascii "Content-Length")).getLast? with
  | none => 0
  | some entry => (atoi entry.2).1

/-- The length of the body that `ReadMessage` reads behind the header. -/
def streamBodyLength (bytes : Bytes) : Option Int :=
  match scanLines startStep () [] bytes with
  | .ended _ _ => none
  | .stopped startLine rest =>
    match scanLines headerStep ⟨startLine ++ crlf, [], 0⟩ [] rest with
    | .stopped (.ok block) _ => some block.contentLength
    | _ => none

end Readers

/-! ### Reading a message -/

open HeaderField

theorem parseStep_field (field : HeaderField) (i : Nat) (msg : Message) :
    parseStep (i + 1, msg) field.line.text =
      .inl (i + 2,
        { msg with headers := appendHeader msg.headers field.entry.1 field.entry.2 }) := by
  have notEmpty : field.name ++ colon :: trimSuffix field.value [cr] ≠ [] := by simp
  simp only [parseStep, line, trimSuffix_append_cons (by decide : colon ≠ cr),
    if_neg notEmpty, cut_append field.noColon]
  rw [trimSpace_trimSuffix_cr]
  rfl

theorem parseSteps_fields (fields : List HeaderField) (i : Nat) (msg : Message) :
    Steps parseStep (i + 1, msg) (fields.map line)
      (i + 1 + fields.length,
        { msg with headers := collect msg.headers (fields.map entry) }) := by
  induction fields generalizing i msg with
  | nil => exact .nil _
  | cons field rest ih =>
    have later := ih (i + 1)
      { msg with headers := appendHeader msg.headers field.entry.1 field.entry.2 }
    have number : i + 1 + 1 + rest.length = i + 1 + (field :: rest).length := by
      simp only [length_cons]
      omega
    rw [number] at later
    exact .cons (parseStep_field field i msg) later

theorem parseStartLine_error (text : Bytes) (left right : Message) :
    (parseStartLine text left).2 = (parseStartLine text right).2 := by
  simp only [parseStartLine]
  split
  · rfl
  · split
    · split
      · rfl
      · split <;> rfl
    · split
      · rfl
      · split <;> rfl

/-- A message parses, and its map is filled from its fields. -/
theorem parseInto_text (m : SpelledMessage) (pooled : Message) :
    ∃ msg, parseInto pooled m.text = (msg, none) ∧
      msg.headers = collect (clearHeaders pooled.headers) m.entries := by
  unfold parseInto parseBytes
  generalize begin : ({ pooled with
    headers := clearHeaders pooled.headers
    method := []
    requestURI := []
    statusCode := 0
    reason := []
    body := []
    raw := m.text } : Message) = cleared
  have headers : cleared.headers = clearHeaders pooled.headers := by rw [← begin]
  have started : parseStep (0, cleared) m.start.text =
      .inl (1, (parseStartLine (trimSuffix m.start.text [cr]) cleared).1) := by
    have parses := m.starts
    rw [parseStartLine_error _ _ cleared] at parses
    generalize result : parseStartLine (trimSuffix m.start.text [cr]) cleared = started at parses
    obtain ⟨msg, error⟩ := started
    cases parses
    simp [parseStep, result]
  have stops (i : Nat) (msg : Message) : parseStep (i + 1, msg) m.empty.text = .inr (msg, none) := by
    simp [parseStep, m.isEmpty]
  have kept := parseStartLine_headers (trimSuffix m.start.text [cr]) cleared
  have steps := parseSteps_fields m.fields 0
    (parseStartLine (trimSuffix m.start.text [cr]) cleared).1
  have number : 0 + 1 + m.fields.length = m.fields.length + 1 := by omega
  rw [number] at steps
  rw [SpelledMessage.text, scanLines_line, started]
  simp only
  rw [scanLines_steps steps, scanLines_line, stops]
  simp only [parsedScan]
  split
  · exact ⟨_, rfl, by rw [← headers, ← kept]; rfl⟩
  · exact ⟨_, rfl, by rw [← headers, ← kept]; rfl⟩

theorem SpelledMessage.notBlank (m : SpelledMessage) : trimSpace (chomp m.start.text) ≠ [] := by
  intro blank
  rw [chomp_eq, trimSpace_trimRight, ← trimSpace_trimSuffix_cr] at blank
  have parses := m.starts
  simp [parseStartLine, blank] at parses

theorem SpelledMessage.chomp_empty (m : SpelledMessage) : chomp m.empty.text = [] := by
  have nothing := m.isEmpty
  unfold trimSuffix at nothing
  split at nothing
  · rename_i ends
    obtain ⟨start, whole⟩ := hasSuffix_iff.mp ends
    rw [← whole] at nothing ⊢
    have blank : start = [] := by simpa using nothing
    rw [blank]
    rfl
  · rw [nothing]
    rfl

section Stream

variable [CaseTables]

theorem contentLengthText_field (field : HeaderField) :
    contentLengthText (chomp field.line.text) =
      if equalFold field.entry.1 (ascii "Content-Length") then some field.entry.2
      else none := by
  rw [chomp_eq, line, contentLengthText, trimRight_append_cons (by decide)]
  simp only [cut_append field.noColon, trimSpace_trimRight]
  rfl

theorem declaredLength_fields (fields : List HeaderField) :
    declaredLength 0 ((fields.map line).map fun l => chomp l.text) =
      lastLength (fields.map entry) := by
  have texts : ((fields.map line).map fun l => chomp l.text).filterMap
        contentLengthText =
      ((fields.map entry).filter fun entry =>
        equalFold entry.1 (ascii "Content-Length")).map Prod.snd := by
    induction fields with
    | nil => rfl
    | cons field rest ih =>
      simp only [map_cons, filterMap_cons, contentLengthText_field, filter_cons,
        ih]
      cases equalFold field.entry.1 (ascii "Content-Length") <;> rfl
  rw [declaredLength, lastLength, texts, getLast?_map]
  cases ((fields.map entry).filter fun entry =>
    equalFold entry.1 (ascii "Content-Length")).getLast? <;> rfl

theorem streamBodyLength_text (m : SpelledMessage) :
    streamBodyLength m.text = some (lastLength m.entries) := by
  have started := startStep_eq_inr.mpr ⟨rfl, m.notBlank⟩
  have colons : ∀ l ∈ m.fields.map line, colon ∈ chomp l.text := by
    intro l member
    obtain ⟨field, _, rfl⟩ := mem_map.mp member
    rw [chomp_eq, line, trimRight_append_cons (by decide)]
    simp
  obtain ⟨final, steps⟩ := headerSteps_exist ⟨chomp m.start.text ++ crlf, [], 0⟩ colons
  obtain ⟨_, _, length⟩ := headerSteps_result steps
  rcases headerStep_cases final m.empty.text with
    ⟨_, stops⟩ | ⟨notEmpty, _⟩ | ⟨hasColon, _⟩
  · rw [streamBodyLength, SpelledMessage.text, scanLines_line, started]
    simp only [scanLines_steps steps, scanLines_line, stops, length, declaredLength_fields]
    rfl
  · exact absurd m.chomp_empty notEmpty
  · simp [m.chomp_empty] at hasColon

end Stream

/-! ### Respelling -/

/-- The compact forms with the names they stand for. -/
def compactForms : List (Bytes × Bytes) :=
  [(ascii "i", ascii "Call-ID"), (ascii "v", ascii "Via"), (ascii "f", ascii "From"),
    (ascii "t", ascii "To"), (ascii "l", ascii "Content-Length")]

/-- The names with a canonical spelling that matters to the readers. -/
def canonicalNames : List Bytes :=
  ascii "CSeq" :: compactForms.map Prod.snd

section Respelling

variable [CaseTables]

/-- A key is a spelling of a name: in other letter case, or its compact form in any. -/
def Spells (key name : Bytes) : Prop :=
  equalFold key name = true ∨
    ∃ form ∈ compactForms, form.2 = name ∧ equalFold key form.1 = true

/-- A key in canonical spelling: the known names are written one way, and a compact
form is not used. -/
def Canonical (key : Bytes) : Prop :=
  (∀ name ∈ canonicalNames, equalFold key name = true → key = name) ∧
    ∀ form ∈ compactForms, equalFold key form.1 = false

/-- One field in another spelling of its canonical name. -/
structure Respelled (spelled canonical : HeaderField) : Prop where
  value : spelled.value = canonical.value
  spells : Spells spelled.entry.1 canonical.entry.1
  canonical : Canonical canonical.entry.1

/-- A message in another spelling of its header names, line by line. -/
structure Respells (m canonical : SpelledMessage) : Prop where
  start : m.start = canonical.start
  fields : List.Forall₂ Respelled m.fields canonical.fields
  empty : m.empty = canonical.empty
  body : m.body = canonical.body

/-- A message as the code may see it: parsed into some used object, with its header map
visited in some order. -/
def Seen (raw : Bytes) (msg : Message) : Prop :=
  ∃ pooled parsed, IsMap pooled.headers ∧ parseInto pooled raw = (parsed, none) ∧
    ∃ order : Headers, order.Perm parsed.headers ∧ msg = { parsed with headers := order }

/-- Two messages that the code handles alike. -/
structure SameHandling (left right : Bytes) : Prop where
  callID : ∀ a b, Seen left a → Seen right b → dispatchCallID a.headers = dispatchCallID b.headers
  branch : ∀ a b, Seen left a → Seen right b → viaBranch a.headers = viaBranch b.headers
  cseq : ∀ a b, Seen left a → Seen right b → parseCSeq a.headers = parseCSeq b.headers
  transaction : ∀ a b, Seen left a → Seen right b → ∀ circumstances lastSent,
    responseMatchesTransaction circumstances a lastSent =
      responseMatchesTransaction circumstances b lastSent
  cached : ∀ a b, Seen left a → Seen right b → ∀ branch method,
    responseMatchesCached a branch method = responseMatchesCached b branch method
  bodyLength : streamBodyLength left = streamBodyLength right

/-- The spelling lets the readers find the fields.  Under each spelling in letters of the
full name, the first Call-ID, Via or CSeq field reads like the first one of the message,
and the last Content-Length with its full name has the number of the last one. -/
structure Readable (m canonical : SpelledMessage) : Prop where
  callID : FirstReads (ascii "Call-ID") (Option.map normalizeCallID) m.entries
    (canonical.entries.lookup (ascii "Call-ID"))
  via : FirstReads (ascii "Via") branchOf m.entries (canonical.entries.lookup (ascii "Via"))
  cseq : FirstReads (ascii "CSeq") cseqOf m.entries (canonical.entries.lookup (ascii "CSeq"))
  length : lastLength m.entries = lastLength canonical.entries

omit [CaseTables] in
theorem Seen.holds {m : SpelledMessage} {msg : Message} (seen : Seen m.text msg) :
    ∃ headers, Holds headers m.entries ∧ msg.headers.Perm headers := by
  obtain ⟨pooled, parsed, isMap, parses, order, visits, rfl⟩ := seen
  obtain ⟨msg, again, filled⟩ := parseInto_text m pooled
  rw [again] at parses
  cases parses
  have holds := holds_collect (holds_cleared isMap) m.entries
  rw [← filled, nil_append] at holds
  exact ⟨parsed.headers, holds, visits⟩

omit [CaseTables] in
/-- A message can be seen in every order of one map that holds its entries. -/
theorem exists_seen (m : SpelledMessage) :
    ∃ headers, Holds headers m.entries ∧
      ∀ order : Headers, order.Perm headers → ∃ msg, Seen m.text msg ∧ msg.headers = order := by
  obtain ⟨parsed, parses, filled⟩ := parseInto_text m .zero
  have isMap : IsMap Message.zero.headers := nodup_nil
  have holds := holds_collect (holds_cleared isMap) m.entries
  rw [← filled, nil_append] at holds
  refine ⟨parsed.headers, holds, fun order visits => ?_⟩
  exact ⟨_, ⟨.zero, parsed, isMap, parses, order, visits, rfl⟩, rfl⟩

variable {name : Bytes}

/-- In canonical spelling `Header` finds the first field of the name. -/
theorem header_canonical {canonical : SpelledMessage} {headers order : Headers}
    (spelling : ∀ field ∈ canonical.fields, Canonical field.entry.1)
    (holds : Holds headers canonical.entries) (visits : order.Perm headers)
    (known : name ∈ canonicalNames) :
    header order name = canonical.entries.lookup name := by
  cases answered : header order name with
  | none =>
    cases first : canonical.entries.lookup name with
    | none => rfl
    | some value =>
      have absent := (holds.header_none visits).mp answered name value first
      simp at absent
  | some value =>
    obtain ⟨key, folds, first⟩ := holds.header_some visits answered
    obtain ⟨field, inFields, isEntry⟩ := mem_map.mp (mem_of_lookup first)
    have isKey : field.entry.1 = key := congrArg Prod.fst isEntry
    have same := (spelling field inFields).1 name known (isKey ▸ folds)
    rw [← same, isKey, first]

/-- A reading agrees over all orders exactly when the first fields do. -/
theorem sameReading_iff {γ : Type} {m canonical : SpelledMessage}
    (spelling : ∀ field ∈ canonical.fields, Canonical field.entry.1) (name : Bytes)
    (known : name ∈ canonicalNames) (read : Option Bytes → γ) :
    (∀ a b, Seen m.text a → Seen canonical.text b →
      read (header a.headers name) = read (header b.headers name)) ↔
      FirstReads name read m.entries (canonical.entries.lookup name) := by
  constructor
  · intro same
    obtain ⟨headers, holds, seenAs⟩ := exists_seen m
    obtain ⟨canonicalHeaders, canonicalHolds, canonicalSeen⟩ := exists_seen canonical
    obtain ⟨b, seenB, isOrder⟩ := canonicalSeen canonicalHeaders (.refl _)
    refine (holds.firstReads_iff name read _).mp fun order visits => ?_
    obtain ⟨a, seenA, rfl⟩ := seenAs order visits
    rw [same a b seenA seenB, isOrder,
      header_canonical spelling canonicalHolds (.refl _) known]
  · intro agree a b seenA seenB
    obtain ⟨headers, holds, visits⟩ := seenA.holds
    obtain ⟨canonicalHeaders, canonicalHolds, canonicalVisits⟩ := seenB.holds
    rw [header_canonical spelling canonicalHolds canonicalVisits known]
    exact (holds.firstReads_iff name read _).mpr agree a.headers visits

variable {spelled canonical : List HeaderField}

theorem canonical_of_respelled (respelled : List.Forall₂ Respelled spelled canonical) :
    ∀ field ∈ canonical, Canonical field.entry.1 := by
  induction respelled with
  | nil => simp
  | cons first _ ih =>
    rw [forall_mem_cons]
    exact ⟨first.canonical, ih⟩

/-! ### One spelling for each header -/

theorem compactForms_distinct (isForm : form ∈ compactForms)
    (known : name ∈ canonicalNames) : equalFold form.1 name = false := by
  have letters : ∀ form ∈ compactForms, ∀ name ∈ canonicalNames,
      (form.1.all (·.toNat < 0x80)) = true ∧ (name.all (·.toNat < 0x80)) = true ∧
        form.1.map (fun b => asciiLower b.toNat) ≠ name.map (fun b => asciiLower b.toNat) := by
    decide
  obtain ⟨formSmall, nameSmall, differ⟩ := letters form isForm name known
  rw [Bool.eq_false_iff]
  intro folds
  rw [equalFold_iff, foldKey_of_ascii formSmall, foldKey_of_ascii nameSmall] at folds
  exact differ folds

/-- A key that a reader takes for a name spells this name. -/
theorem Respelled.name_of_fold {spelled canonical}
    (respelled : Respelled spelled canonical) (known : name ∈ canonicalNames)
    (folds : equalFold spelled.entry.1 name = true) : canonical.entry.1 = name := by
  rw [equalFold_iff] at folds
  rcases respelled.spells with same | ⟨form, isForm, _, compact⟩
  · rw [equalFold_iff] at same
    exact respelled.canonical.1 name known (equalFold_iff.mpr (same.symm.trans folds))
  · rw [equalFold_iff] at compact
    have distinct := compactForms_distinct isForm known
    rw [equalFold_iff.mpr (compact.symm.trans folds)] at distinct
    cases distinct

/-- The fields with a name all have one spelling, in letters of the full name. -/
def OneSpelling (name : Bytes) (spelled canonical : List HeaderField) : Prop :=
  ∃ spelling, equalFold spelling name = true ∧
    ∀ pair ∈ spelled.zip canonical, pair.2.entry.1 = name → pair.1.entry.1 = spelling

/-- Then the first field under the spelling is the first field of the name. -/
theorem lookup_oneSpelling
    (respelled : List.Forall₂ Respelled spelled canonical) {name spelling}
    (known : name ∈ canonicalNames) (folds : equalFold spelling name = true)
    (one : ∀ pair ∈ spelled.zip canonical, pair.2.entry.1 = name → pair.1.entry.1 = spelling) :
    (spelled.map entry).lookup spelling =
        (canonical.map entry).lookup name ∧
      ∀ key value, (spelled.map entry).lookup key = some value →
        equalFold key name = true → key = spelling := by
  induction respelled with
  | nil => simp
  | @cons field other rest others first _ ih =>
    rw [zip_cons_cons, forall_mem_cons] at one
    obtain ⟨later, keys⟩ := ih one.2
    have isName : field.entry.1 = spelling ↔ other.entry.1 = name :=
      ⟨fun same => first.name_of_fold known (same ▸ folds), one.1⟩
    have sameValue : field.entry.2 = other.entry.2 := by
      simp [entry, first.value]
    constructor
    · rw [map_cons, map_cons, lookup_cons, lookup_cons, later, sameValue]
      by_cases here : other.entry.1 = name
      · simp [here, isName.mpr here]
      · have notHere : spelling ≠ field.entry.1 := fun same => here (isName.mp same.symm)
        have notName : name ≠ other.entry.1 := fun same => here same.symm
        rw [beq_false_of_ne notHere, beq_false_of_ne notName]
    · intro key value found keyFolds
      rw [map_cons, lookup_cons] at found
      split at found
      · rename_i isKey
        rw [beq_iff_eq] at isKey
        rw [isKey]
        exact one.1 (first.name_of_fold known (isKey ▸ keyFolds))
      · exact keys key value found keyFolds

theorem OneSpelling.firstReads {γ : Type} {m canonical}
    (respells : Respells m canonical) (known : name ∈ canonicalNames)
    (one : OneSpelling name m.fields canonical.fields) (read : Option Bytes → γ) :
    FirstReads name read m.entries (canonical.entries.lookup name) := by
  obtain ⟨spelling, folds, spelled⟩ := one
  obtain ⟨same, keys⟩ := lookup_oneSpelling respells.fields known folds spelled
  have same : m.entries.lookup spelling = canonical.entries.lookup name := same
  rw [← same]
  constructor
  · intro key value found keyFolds
    rw [← keys key value found keyFolds, found]
  · intro absent
    cases first : m.entries.lookup spelling with
    | none => rfl
    | some value =>
      rw [absent spelling value first] at folds
      cases folds

theorem lastLength_of_full (respelled : List.Forall₂ Respelled spelled canonical)
    (full : ∀ pair ∈ spelled.zip canonical, pair.2.entry.1 = ascii "Content-Length" →
      equalFold pair.1.entry.1 (ascii "Content-Length") = true) :
    lastLength (spelled.map entry) = lastLength (canonical.map entry) := by
  have values : ((spelled.map entry).filter fun entry =>
        equalFold entry.1 (ascii "Content-Length")).map Prod.snd =
      ((canonical.map entry).filter fun entry =>
        equalFold entry.1 (ascii "Content-Length")).map Prod.snd := by
    induction respelled with
    | nil => rfl
    | @cons field other rest others first _ ih =>
      rw [zip_cons_cons, forall_mem_cons] at full
      have sameFold : equalFold field.entry.1 (ascii "Content-Length") =
          equalFold other.entry.1 (ascii "Content-Length") := by
        rw [Bool.eq_iff_iff]
        constructor
        · intro folds
          rw [first.name_of_fold (by decide) folds]
          simp
        · intro folds
          exact full.1 (first.canonical.1 _ (by decide) folds)
      have sameValue : field.entry.2 = other.entry.2 := by
        simp [entry, first.value]
      simp only [map_cons, filter_cons, sameFold]
      cases equalFold other.entry.1 (ascii "Content-Length") with
      | true => simp [sameValue, ih full.2]
      | false => simpa using ih full.2
  have last := congrArg List.getLast? values
  rw [getLast?_map, getLast?_map] at last
  unfold lastLength
  generalize ((spelled.map entry).filter fun entry =>
    equalFold entry.1 (ascii "Content-Length")).getLast? = left at last
  generalize ((canonical.map entry).filter fun entry =>
    equalFold entry.1 (ascii "Content-Length")).getLast? = right at last
  cases left with
  | none => cases right with
    | none => rfl
    | some entry => cases last
  | some entry => cases right with
    | none => cases last
    | some other =>
      have same : entry.2 = other.2 := Option.some.inj last
      simp [same]

/-- With one full spelling for each header that is read, a message is readable. -/
theorem readable_of_oneSpelling {m canonical} (respells : Respells m canonical)
    (one : ∀ name ∈ [ascii "Call-ID", ascii "Via", ascii "CSeq"],
      OneSpelling name m.fields canonical.fields)
    (full : ∀ pair ∈ m.fields.zip canonical.fields, pair.2.entry.1 = ascii "Content-Length" →
      equalFold pair.1.entry.1 (ascii "Content-Length") = true) :
    Readable m canonical where
  callID := (one _ (by simp)).firstReads respells (by decide) _
  via := (one _ (by simp)).firstReads respells (by decide) _
  cseq := (one _ (by simp)).firstReads respells (by decide) _
  length := lastLength_of_full respells.fields full

/-! ### Every spelling -/

/-- A respelled message is handled like the message with canonical names exactly when the
readers find its fields. -/
theorem sameHandling_iff (m canonical : SpelledMessage) (respells : Respells m canonical) :
    SameHandling m.text canonical.text ↔ Readable m canonical := by
  have spelling := canonical_of_respelled respells.fields
  have callID := sameReading_iff (m := m) spelling (ascii "Call-ID") (by decide)
    (Option.map normalizeCallID)
  have via := sameReading_iff (m := m) spelling (ascii "Via") (by decide) branchOf
  have cseq := sameReading_iff (m := m) spelling (ascii "CSeq") (by decide) cseqOf
  simp only [← viaBranch_eq] at via
  simp only [← parseCSeq_eq] at cseq
  constructor
  · intro same
    refine ⟨callID.mp same.callID, via.mp same.branch, cseq.mp same.cseq, ?_⟩
    simpa [streamBodyLength_text] using same.bodyLength
  · intro readable
    have branches := via.mpr readable.via
    have numbers := cseq.mpr readable.cseq
    exact
      { callID := callID.mpr readable.callID
        branch := branches
        cseq := numbers
        transaction a b seenA seenB circumstances lastSent := by
          simp [responseMatchesTransaction, branches a b seenA seenB, numbers a b seenA seenB]
        cached a b seenA seenB branch method := by
          simp [responseMatchesCached, branches a b seenA seenB, numbers a b seenA seenB]
        bodyLength := by rw [streamBodyLength_text, streamBodyLength_text, readable.length] }

end Respelling

section Examples

attribute [local instance] CaseTables.asciiOnly

/-- A field with a plain name and value, and the end of its line. -/
def plainField (name value : Bytes)
    (plain : colon ∉ name ∧ lf ∉ name ∧ lf ∉ value ++ [cr]) : HeaderField where
  name := name
  value := value ++ [cr]
  noColon := plain.1
  nameNoLF := plain.2.1
  valueNoLF := plain.2.2

/-- A request without a body. -/
def optionsMessage (fields : List HeaderField) : SpelledMessage where
  start := ⟨ascii "OPTIONS sip:a SIP/2.0\r", by decide⟩
  fields := fields
  empty := ⟨[cr], lf_notMem_cr⟩
  body := []
  starts := by decide
  isEmpty := by decide

/-- Header names as they are usually written. -/
def canonicalOptions : SpelledMessage :=
  optionsMessage
    [plainField (ascii "Via") (ascii " SIP/2.0/UDP a;branch=z1") (by decide),
      plainField (ascii "Via") (ascii " SIP/2.0/UDP b;branch=z2") (by decide),
      plainField (ascii "Call-ID") (ascii " x") (by decide),
      plainField (ascii "CSeq") (ascii " 1 OPTIONS") (by decide),
      plainField (ascii "Content-Length") (ascii " 0") (by decide)]

/-- The same message with another letter case in each header. -/
def upperOptions : SpelledMessage :=
  optionsMessage
    [plainField (ascii "VIA") (ascii " SIP/2.0/UDP a;branch=z1") (by decide),
      plainField (ascii "VIA") (ascii " SIP/2.0/UDP b;branch=z2") (by decide),
      plainField (ascii "call-id") (ascii " x") (by decide),
      plainField (ascii "CSEQ") (ascii " 1 OPTIONS") (by decide),
      plainField (ascii "content-length") (ascii " 0") (by decide)]

/-- The same message with a compact Call-ID. -/
def compactOptions : SpelledMessage :=
  optionsMessage
    [plainField (ascii "Via") (ascii " SIP/2.0/UDP a;branch=z1") (by decide),
      plainField (ascii "Via") (ascii " SIP/2.0/UDP b;branch=z2") (by decide),
      plainField (ascii "i") (ascii " x") (by decide),
      plainField (ascii "CSeq") (ascii " 1 OPTIONS") (by decide),
      plainField (ascii "Content-Length") (ascii " 0") (by decide)]

/-- The same message with its second Via in capital letters. -/
def mixedOptions : SpelledMessage :=
  optionsMessage
    [plainField (ascii "Via") (ascii " SIP/2.0/UDP a;branch=z1") (by decide),
      plainField (ascii "VIA") (ascii " SIP/2.0/UDP b;branch=z2") (by decide),
      plainField (ascii "Call-ID") (ascii " x") (by decide),
      plainField (ascii "CSeq") (ascii " 1 OPTIONS") (by decide),
      plainField (ascii "Content-Length") (ascii " 0") (by decide)]

theorem plainField_respelled {name canonical value plain plain'}
    (spells : Spells (trimSpace name) (trimSpace canonical))
    (isCanonical : Canonical (trimSpace canonical)) :
    Respelled (plainField name value plain) (plainField canonical value plain') :=
  ⟨rfl, spells, isCanonical⟩

theorem optionsMessage_respells (fields : List.Forall₂ Respelled spelled canonical) :
    Respells (optionsMessage spelled) (optionsMessage canonical) :=
  ⟨rfl, fields, rfl, rfl⟩

theorem upperOptions_respells : Respells upperOptions canonicalOptions := by
  apply optionsMessage_respells
  refine .cons ?_ (.cons ?_ (.cons ?_ (.cons ?_ (.cons ?_ .nil)))) <;>
    exact plainField_respelled (.inl (by decide)) ⟨by decide, by decide⟩

/-- The message in other letter case is handled like the canonical one. -/
theorem upperOptions_handled :
    Respells upperOptions canonicalOptions ∧
      SameHandling upperOptions.text canonicalOptions.text := by
  refine ⟨upperOptions_respells,
    (sameHandling_iff upperOptions canonicalOptions upperOptions_respells).mpr
      (readable_of_oneSpelling upperOptions_respells ?_ ?_)⟩
  · intro name member
    simp only [mem_cons, not_mem_nil, or_false] at member
    rcases member with rfl | rfl | rfl
    · exact ⟨ascii "call-id", by decide, by decide⟩
    · exact ⟨ascii "VIA", by decide, by decide⟩
    · exact ⟨ascii "CSEQ", by decide, by decide⟩
  · decide

/-- A compact Call-ID is not found, and the topmost of two Via fields in different letter
case is not always the one that is found. -/
theorem respelled_not_handled :
    (Respells compactOptions canonicalOptions ∧
      ¬ SameHandling compactOptions.text canonicalOptions.text) ∧
    (Respells mixedOptions canonicalOptions ∧
      ¬ SameHandling mixedOptions.text canonicalOptions.text) := by
  have compact : Respells compactOptions canonicalOptions := by
    apply optionsMessage_respells
    refine .cons ?_ (.cons ?_ (.cons ?_ (.cons ?_ (.cons ?_ .nil))))
    · exact plainField_respelled (.inl (by decide)) ⟨by decide, by decide⟩
    · exact plainField_respelled (.inl (by decide)) ⟨by decide, by decide⟩
    · exact plainField_respelled (.inr ⟨(ascii "i", ascii "Call-ID"), by decide, by decide,
        by decide⟩) ⟨by decide, by decide⟩
    · exact plainField_respelled (.inl (by decide)) ⟨by decide, by decide⟩
    · exact plainField_respelled (.inl (by decide)) ⟨by decide, by decide⟩
  have mixed : Respells mixedOptions canonicalOptions := by
    apply optionsMessage_respells
    refine .cons ?_ (.cons ?_ (.cons ?_ (.cons ?_ (.cons ?_ .nil)))) <;>
      exact plainField_respelled (.inl (by decide)) ⟨by decide, by decide⟩
  have spelling := canonical_of_respelled mixed.fields
  refine ⟨⟨compact, fun same => ?_⟩, ⟨mixed, fun same => ?_⟩⟩
  · have read := (sameReading_iff spelling (ascii "Call-ID") (by decide)
      (Option.map normalizeCallID)).mp same.callID
    have absent : ∀ entry ∈ compactOptions.entries,
        equalFold entry.1 (ascii "Call-ID") = false := by decide
    have missing := read.2 fun key value found =>
      absent (key, value) (mem_of_lookup found)
    exact absurd missing (by decide)
  · have branches := same.branch
    simp only [viaBranch_eq] at branches
    have read := (sameReading_iff spelling (ascii "Via") (by decide) branchOf).mp branches
    have found := read.1 (ascii "VIA") (ascii "SIP/2.0/UDP b;branch=z2") (by decide) (by decide)
    exact absurd found (by decide)

end Examples

end Gossipper.Sip
