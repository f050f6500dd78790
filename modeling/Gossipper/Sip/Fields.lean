/-
Module: Gossipper.Sip.Fields
Purpose: The header fields of a message in the order of its lines, which the header map of
  `internal/sip/message.go` forgets, and what the map of a parsed message knows of them.
Trusted boundary: none
Main exports: parseInto_holds, parse_holds, headerEntries_text, exists_spelled, parse_startLine
-/
import Gossipper.Go.Lines
import Gossipper.Sip.Spelling

namespace Gossipper.Sip

open Go List

/-- The lines between the start line and the first empty line. -/
def headerLines (raw : Bytes) : List Bytes :=
  (((split raw [lf]).map fun line => trimSuffix line [cr]).drop 1).takeWhile (· ≠ [])

/-- The name and the value of a header line. -/
def fieldEntry (line : Bytes) : Option (Bytes × Bytes) :=
  (cut line colon).map fun field => (trimSpace field.1, trimSpace field.2)

/-- The header fields of a message, in the order of the lines. -/
def headerEntries (raw : Bytes) : List (Bytes × Bytes) :=
  (headerLines raw).filterMap fieldEntry

variable {raw : Bytes} {entry : Bytes × Bytes}

theorem headerEntries_value
    (member : entry ∈ headerEntries raw) : trimSpace entry.2 = entry.2 ∧ lf ∉ entry.2 := by
  obtain ⟨line, isLine, field⟩ := mem_filterMap.mp member
  obtain ⟨⟨name, value⟩, found, rfl⟩ := Option.map_eq_some_iff.mp field
  have dropped := mem_of_mem_drop (takeWhile_subset _ isLine)
  obtain ⟨whole, isPart, rfl⟩ := mem_map.mp dropped
  refine ⟨trimSpace_trimSpace value, ?_⟩
  intro inValue
  have inLine : lf ∈ trimSuffix whole [cr] := by
    rw [(cut_eq_some found).1]
    exact mem_append_right _ (mem_cons_of_mem _ (trimSpace_subset value inValue))
  exact notMem_of_mem_splitFrom not_mem_nil _ isPart (trimSuffix_subset _ _ inLine)

/-- The fields of lines up to the first empty one. -/
def entriesOf (lines : List Bytes) : List (Bytes × Bytes) :=
  ((lines.map fun line => trimSuffix line [cr]).takeWhile (· ≠ [])).filterMap fieldEntry

theorem entriesOf_empty (empty : trimSuffix line [cr] = []) (rest : List Bytes) :
    entriesOf (line :: rest) = [] := by
  simp [entriesOf, empty]

theorem entriesOf_field
    (filled : trimSuffix line [cr] ≠ []) (field : fieldEntry (trimSuffix line [cr]) = some entry)
    (rest : List Bytes) : entriesOf (line :: rest) = entry :: entriesOf rest := by
  simp [entriesOf, filled, field]

variable {entries : List (Bytes × Bytes)}

theorem Holds.append (holds : Holds headers entries) (entry : Bytes × Bytes) :
    Holds (appendHeader headers entry.1 entry.2) (entries ++ [entry]) :=
  holds_collect holds [entry]

theorem Holds.exists_values (holds : Holds headers entries) (member : entry ∈ entries) :
    ∃ values, (entry.1, values) ∈ headers := by
  have found : ((entries.filter fun other => other.1 = entry.1).map Prod.snd) ≠ [] := by
    simp only [ne_eq, map_eq_nil_iff, filter_eq_nil_iff, not_forall]
    exact ⟨entry, member, by simp⟩
  rw [← holds.values] at found
  exact ⟨_, (mem_iff_headerValues holds.isMap found).mpr rfl⟩

/-- One header line: the empty line, or a field that the map takes up. -/
theorem parseStep_line (i : Nat) (msg : Message) (text : Bytes) :
    (trimSuffix text [cr] = [] ∧ parseStep (i + 1, msg) text = .inr (msg, none)) ∨
    (∃ error, parseStep (i + 1, msg) text = .inr (msg, some error)) ∨
    (trimSuffix text [cr] ≠ [] ∧ ∃ entry, fieldEntry (trimSuffix text [cr]) = some entry ∧
      parseStep (i + 1, msg) text =
        .inl (i + 2, { msg with headers := appendHeader msg.headers entry.1 entry.2 })) := by
  simp only [parseStep]
  by_cases empty : trimSuffix text [cr] = []
  · exact .inl ⟨empty, by rw [if_pos empty]⟩
  · rw [if_neg empty]
    cases found : cut (trimSuffix text [cr]) colon with
    | none => exact .inr (.inl ⟨_, rfl⟩)
    | some field => exact .inr (.inr ⟨empty, _, by rw [fieldEntry, found]; rfl, rfl⟩)

/-- The map behind the header lines of a scan that succeeds. -/
theorem parsedScan_holds {lines : List Line} {tail : Line} {i : Nat} {msg final : Message}
    {before : List (Bytes × Bytes)} (holds : Holds msg.headers before)
    (succeeds : parsedScan (scanLines parseStep (i + 1, msg) [] (terminated lines ++ tail.text)) =
      (final, none)) :
    Holds final.headers (before ++ entriesOf (lines.map Line.text ++ [tail.text])) := by
  induction lines generalizing i msg before with
  | nil =>
    rw [terminated_nil, nil_append, scanLines_tail, parsedScan] at succeeds
    rcases parseStep_line i msg tail.text with
      ⟨empty, stops⟩ | ⟨error, fails⟩ | ⟨filled, entry, field, goesOn⟩
    · rw [stops] at succeeds
      cases succeeds
      simpa [entriesOf_empty empty] using holds
    · rw [fails] at succeeds
      cases succeeds
    · rw [goesOn] at succeeds
      cases succeeds
      rw [map_nil, nil_append, entriesOf_field filled field]
      exact holds.append entry
  | cons line rest ih =>
    rw [terminated_cons, append_assoc, cons_append, scanLines_line] at succeeds
    rcases parseStep_line i msg line.text with
      ⟨empty, stops⟩ | ⟨error, fails⟩ | ⟨filled, entry, field, goesOn⟩
    · rw [stops] at succeeds
      simp only [parsedScan] at succeeds
      rw [map_cons, cons_append, entriesOf_empty empty, append_nil]
      split at succeeds <;> cases succeeds <;> exact holds
    · rw [fails] at succeeds
      cases succeeds
    · rw [goesOn] at succeeds
      rw [map_cons, cons_append, entriesOf_field filled field, append_cons]
      exact ih (holds.append entry) succeeds

variable {msg : Message}

theorem parseStep_start_headers {text next}
    (goesOn : parseStep (0, msg) text = .inl next) :
    next.1 = 1 ∧ next.2.headers = msg.headers := by
  simp only [parseStep] at goesOn
  split at goesOn
  · cases goesOn
  · rename_i started parsed
    cases goesOn
    have same := parseStartLine_headers (trimSuffix text [cr]) msg
    rw [parsed] at same
    exact ⟨rfl, same⟩

/-- The map of a message that was parsed into an object holds the fields of the message. -/
theorem parseBytes_holds {msg final : Message} (start : Holds msg.headers [])
    (succeeds : parseBytes raw msg = (final, none)) : Holds final.headers (headerEntries raw) := by
  unfold parseBytes at succeeds
  obtain ⟨lines, tail, rfl⟩ := exists_terminated raw
  have entries : headerEntries (terminated lines ++ tail.text) =
      entriesOf ((lines.map Line.text ++ [tail.text]).drop 1) := by
    rw [headerEntries, headerLines, split_terminated, entriesOf, map_drop]
  rw [entries]
  cases lines with
  | nil =>
    rw [terminated_nil, nil_append, scanLines_tail, parsedScan] at succeeds
    split at succeeds
    · rename_i goesOn
      cases succeeds
      rw [(parseStep_start_headers goesOn).2]
      exact start
    · rename_i stops
      exact absurd (congrArg Prod.snd succeeds) (parseStep_start_stops stops)
  | cons line rest =>
    rw [terminated_cons, append_assoc, cons_append, scanLines_line] at succeeds
    cases outcome : parseStep (0, { msg with raw := _ }) line.text with
    | inl next =>
      rw [outcome] at succeeds
      obtain ⟨one, same⟩ := parseStep_start_headers outcome
      obtain ⟨i, started⟩ := next
      cases one
      have holds : Holds started.headers [] := by
        rw [same]
        exact start
      exact parsedScan_holds holds succeeds
    | inr result =>
      rw [outcome] at succeeds
      obtain ⟨started, _ | error⟩ := result
      · exact absurd rfl (parseStep_start_stops outcome)
      · cases succeeds

theorem parse_holds (parsed : parse raw = .ok msg) :
    Holds msg.headers (headerEntries raw) := by
  unfold parse at parsed
  split at parsed
  · cases parsed
  · rename_i found succeeds
    cases parsed
    have start : Holds Message.zero.headers [] := ⟨nodup_nil, fun _ => rfl⟩
    exact parseBytes_holds start succeeds

theorem Holds.perm
    (holds : Holds headers entries) (visits : order.Perm headers) : Holds order entries := by
  have isMap : IsMap order := (visits.map Prod.fst).nodup_iff.mpr holds.isMap
  refine ⟨isMap, ?_⟩
  intro key
  rw [← holds.values]
  by_cases nonempty : headerValues headers key = []
  · rw [nonempty]
    by_contra found
    have member := visits.mem_iff.mp ((mem_iff_headerValues isMap found).mpr rfl)
    exact found ((mem_iff_headerValues holds.isMap found).mp member ▸ nonempty)
  · have member := visits.mem_iff.mpr ((mem_iff_headerValues holds.isMap nonempty).mpr rfl)
    exact (mem_iff_headerValues isMap nonempty).mp member

/-! ### Written messages -/

open HeaderField

theorem headerEntries_text (m : SpelledMessage) : headerEntries m.text = m.entries := by
  obtain ⟨lines, tail, body⟩ := exists_terminated m.body
  have text : m.text = terminated (m.start :: (m.fields.map line ++ m.empty :: lines)) ++
      tail.text := by
    simp [SpelledMessage.text, body]
  have fields (rest : List Bytes) : entriesOf ((m.fields.map line).map Line.text ++
      m.empty.text :: rest) = m.entries := by
    rw [SpelledMessage.entries]
    induction m.fields with
    | nil => exact entriesOf_empty m.isEmpty rest
    | cons field others ih =>
      have line : trimSuffix field.line.text [cr] =
          field.name ++ colon :: trimSuffix field.value [cr] := by
        rw [line, trimSuffix_append_cons (by decide : colon ≠ cr)]
      have entry : fieldEntry (trimSuffix field.line.text [cr]) = some field.entry := by
        rw [line, fieldEntry, cut_append field.noColon, Option.map_some,
          trimSpace_trimSuffix_cr]
        rfl
      have filled : trimSuffix field.line.text [cr] ≠ [] := by
        rw [line]
        simp
      simp only [map_cons, cons_append]
      rw [entriesOf_field filled entry, ih]
  have split_ : headerEntries m.text =
      entriesOf ((m.fields.map line).map Line.text ++
        m.empty.text :: (lines.map Line.text ++ [tail.text])) := by
    rw [headerEntries, headerLines, text, split_terminated, entriesOf]
    simp
  rw [split_, fields]

/-- A field as it is written. -/
def fieldText (entry : Bytes × Bytes) : Bytes :=
  entry.1 ++ ascii ": " ++ entry.2 ++ crlf

/-- What a field needs to be read back. -/
structure Writable (entry : Bytes × Bytes) : Prop where
  noColon : colon ∉ entry.1
  nameNoLF : lf ∉ entry.1
  valueNoLF : lf ∉ entry.2
  name : trimSpace entry.1 = entry.1
  value : trimSpace entry.2 = entry.2

/-- A start line and writable fields make a message. -/
theorem exists_spelled (noLF : lf ∉ start)
    (starts : (parseStartLine start .zero).2 = none) (writable : ∀ entry ∈ entries, Writable entry) :
    ∃ m : SpelledMessage, m.text = start ++ crlf ++ entries.flatMap fieldText ++ crlf ∧
      m.entries = entries ∧ trimSuffix m.start.text [cr] = start := by
  have fields : ∃ fields : List HeaderField,
      terminated (fields.map HeaderField.line) = entries.flatMap fieldText ∧
        fields.map HeaderField.entry = entries := by
    induction entries with
    | nil => exact ⟨[], rfl, rfl⟩
    | cons entry rest ih =>
      rw [forall_mem_cons] at writable
      obtain ⟨others, text, same⟩ := ih writable.2
      obtain ⟨noColon, nameNoLF, valueNoLF, name, value⟩ := writable.1
      refine ⟨⟨entry.1, space :: entry.2 ++ [cr], noColon, nameNoLF, ?_⟩ :: others, ?_, ?_⟩
      · simp only [cons_append, mem_cons, mem_append, not_or]
        exact ⟨by decide, valueNoLF, by decide, not_mem_nil⟩
      · rw [map_cons, terminated_cons, text, flatMap_cons]
        simp [HeaderField.line, fieldText, show ascii ": " = [colon, space] from rfl]
      · rw [map_cons, same, HeaderField.entry]
        have trimmed : trimSpace (space :: entry.2 ++ [cr]) = entry.2 := by
          rw [← trimSpace_trimSuffix_cr, trimSuffix_append,
            trimSpace_cons_space (by decide) (by decide), value]
        simp only [name, trimmed]
  obtain ⟨fields, text, same⟩ := fields
  have startLine : trimSuffix (start ++ [cr]) [cr] = start := trimSuffix_append start [cr]
  have oneLine : lf ∉ start ++ [cr] := by
    rw [mem_append, not_or]
    exact ⟨noLF, lf_notMem_cr⟩
  refine ⟨⟨⟨start ++ [cr], oneLine⟩, fields, ⟨[cr], by decide⟩, [], ?_, by decide⟩, ?_,
    same, startLine⟩
  · rw [startLine]
    exact starts
  · simp [SpelledMessage.text, text]

theorem parseStep_start_parses {text next}
    (goesOn : parseStep (0, msg) text = .inl next) :
    (parseStartLine (trimSuffix text [cr]) .zero).2 = none := by
  simp only [parseStep] at goesOn
  split at goesOn
  · cases goesOn
  · rename_i started parsed
    rw [parseStartLine_error _ .zero msg, parsed]

theorem parse_startLine (parsed : parse raw = .ok msg) :
    (parseStartLine (firstLine raw) .zero).2 = none := by
  have succeeds : (parseBytes raw .zero).2 = none := by
    unfold parse at parsed
    split at parsed
    · cases parsed
    · rename_i found succeeds
      rw [succeeds]
  unfold parseBytes at succeeds
  generalize ({ Message.zero with raw := raw } : Message) = start at succeeds
  obtain ⟨lines, tail, rfl⟩ := exists_terminated raw
  cases lines with
  | nil =>
    rw [terminated_nil, nil_append] at succeeds ⊢
    rw [scanLines_tail, parsedScan] at succeeds
    rw [firstLine_tail]
    split at succeeds
    · rename_i goesOn
      exact parseStep_start_parses goesOn
    · rename_i stops
      exact absurd succeeds (parseStep_start_stops stops)
  | cons line more =>
    rw [terminated_cons, append_assoc, cons_append] at succeeds ⊢
    rw [scanLines_line] at succeeds
    rw [firstLine_line]
    cases outcome : parseStep (0, start) line.text with
    | inl next => exact parseStep_start_parses outcome
    | inr result =>
      rw [outcome] at succeeds
      obtain ⟨started, _ | error⟩ := result
      · exact absurd rfl (parseStep_start_stops outcome)
      · cases succeeds

end Gossipper.Sip
