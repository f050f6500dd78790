/-
Module: Gossipper.Eventlog.Text
Purpose: The lines of the writer sink, after `internal/eventlog/sink.go` and
  `internal/eventlog/event.go`.
Trusted boundary: the writer does not fail; what packages `time` and `strconv` write for a
  time, a duration or a number has no line feed
Main exports: formatValue, formatText, write, write_oneLine_iff
-/
import Gossipper.Go.Crlf
import Gossipper.Go.Map
import Gossipper.Go.Quote
import Mathlib.Data.List.Sort

namespace Gossipper.Eventlog

open Go List

/-- A time, a duration or a number as the standard library writes it. -/
abbrev Plain := { text : Bytes // lf ∉ text }

/-- The cases of `formatValue`; `other` has the text that `toString` returns. -/
inductive Value where
  | nil
  | string (s : Bytes)
  | bool (b : Bool)
  | plain (text : Plain)
  | error (message : Bytes)
  | other (text : Bytes)

abbrev Attrs := Map Bytes Value

structure LogEvent where
  time : Plain
  level : Int
  kind : Bytes
  msg : Bytes
  attrs : Attrs

def levelString (level : Int) : Bytes :=
  if level = 0 then ascii "debug"
  else if level = 2 then ascii "warn"
  else if level = 3 then ascii "error"
  else ascii "info"

variable [PrintTable]

def formatValue : Value → Bytes
  | .nil => []
  | .string s => if s.any (· ∈ ascii " \t\"") then quote s else s
  | .bool b => if b then ascii "true" else ascii "false"
  | .plain text => text
  | .error message => quote message
  | .other text => quote text

def formatAttrs (attrs : Attrs) : Bytes :=
  join ((attrs.entries.insertionSort fun a b => a.1 ≤ b.1).map fun entry =>
    entry.1 ++ 0x3D :: formatValue entry.2) (ascii " ")

def quoteIfNeeded (msg : Bytes) : Bytes :=
  if msg.any (· ∈ ascii " \t\"\n") then quote msg else msg

def formatText (ev : LogEvent) : Bytes :=
  let kind := if ev.kind = [] then ascii "event" else ev.kind
  let out := ev.time.1 ++ ascii " " ++ levelString ev.level ++ ascii " " ++ kind
  let out := if ev.msg ≠ [] then out ++ ascii " " ++ quoteIfNeeded ev.msg else out
  let attrs := formatAttrs ev.attrs
  if attrs ≠ [] then out ++ ascii " " ++ attrs else out

def withResource (ev : LogEvent) (resource : Attrs) : LogEvent :=
  if resource.entries = [] then ev
  else { ev with attrs := ((∅ : Attrs).assignFrom resource).assignFrom ev.attrs }

/-- What `writerSink.Write` writes for one event. -/
def write (resource : Attrs) (ev : LogEvent) : Bytes :=
  formatText (withResource ev resource) ++ [lf]

/-- A string value without line feed, or one that is quoted. -/
def Safe : Value → Prop
  | .string s => lf ∈ s → ∃ b ∈ s, b ∈ ascii " \t\""
  | _ => True

theorem formatValue_noLF_iff (value : Value) : lf ∉ formatValue value ↔ Safe value := by
  cases value with
  | nil => simp [formatValue, Safe]
  | string s =>
    simp only [formatValue, Safe, any_eq_true, decide_eq_true_eq]
    split
    · rename_i quoted
      exact iff_of_true (quote_noLF s) fun _ => quoted
    · rename_i bare
      exact (imp_iff_not bare).symm
  | bool b => cases b <;> simp [formatValue, Safe, ascii] <;> decide
  | plain text => exact iff_of_true text.2 trivial
  | error text | other text => exact iff_of_true (quote_noLF text) trivial

omit [PrintTable] in
theorem notMem_join {parts sep} (absent : lf ∉ sep) :
    lf ∉ join parts sep ↔ ∀ part ∈ parts, lf ∉ part := by
  induction parts with
  | nil => simp [join]
  | cons part rest ih =>
    cases rest with
    | nil => simp
    | cons next others => rw [join_cons_cons, forall_mem_cons, ← ih]; simp [absent]

theorem formatAttrs_noLF_iff (attrs : Attrs) :
    lf ∉ formatAttrs attrs ↔
      ∀ key value, attrs.lookup key = some value → lf ∉ key ∧ Safe value := by
  have entry (e : Sigma fun _ : Bytes => Value) :
      lf ∉ e.1 ++ 0x3D :: formatValue e.2 ↔ lf ∉ e.1 ∧ Safe e.2 := by
    have equals : lf ≠ 0x3D := by decide
    rw [← formatValue_noLF_iff, mem_append, mem_cons, not_or, not_or, and_iff_right equals]
  rw [formatAttrs, notMem_join (by decide), forall_mem_map]
  simp only [entry, mem_insertionSort, Sigma.forall, ← AList.mem_lookup_iff, Option.mem_def]

theorem formatText_noLF_iff (ev : LogEvent) :
    lf ∉ formatText ev ↔ lf ∉ ev.kind ∧ lf ∉ formatAttrs ev.attrs := by
  have level : lf ∉ levelString ev.level := by
    unfold levelString
    split_ifs <;> decide
  have kind : lf ∉ (if ev.kind = [] then ascii "event" else ev.kind) ↔ lf ∉ ev.kind := by
    split
    · rename_i empty
      rw [empty]
      decide
    · rfl
  have msg : lf ∉ quoteIfNeeded ev.msg := by
    unfold quoteIfNeeded
    split
    · exact quote_noLF _
    · rename_i bare
      intro member
      exact bare (any_eq_true.mpr ⟨lf, member, by decide⟩)
  have space : lf ∉ ascii " " := by decide
  have time := ev.time.2
  simp only [formatText]
  split_ifs <;> simp_all

/-- The text of an event is one line exactly when its kind and the names of its attributes
have no line feed and no text value has one without a blank, a tab or a quotation mark. -/
theorem write_oneLine_iff (resource : Attrs) (ev : LogEvent) :
    ((write resource ev).count lf = 1 ∧ (write resource ev).getLast? = some lf) ↔
      lf ∉ ev.kind ∧ ∀ key value, (ev.attrs.lookup key).or (resource.lookup key) = some value →
        lf ∉ key ∧ Safe value := by
  have merged (key) : (withResource ev resource).attrs.lookup key =
      (ev.attrs.lookup key).or (resource.lookup key) := by
    unfold withResource
    split
    · rename_i empty
      rw [AList.lookup, AList.lookup, empty, dlookup_nil, Option.or_none]
    · rw [Map.lookup_assignFrom, Map.lookup_assignFrom, AList.lookup_empty, Option.or_none]
  have kind : (withResource ev resource).kind = ev.kind := by
    unfold withResource
    split <;> rfl
  simp only [← merged]
  rw [← formatAttrs_noLF_iff, ← kind, ← formatText_noLF_iff, write]
  simp [count_append, count_eq_zero]

omit [PrintTable] in
/-- A text attribute with a line feed and without a blank begins a second line. -/
theorem attribute_forges_line :
    (@write .asciiOnly ∅
      { time := ⟨[], by decide⟩, level := 1, kind := ascii "auth", msg := []
        attrs := AList.singleton (ascii "user") (.string (ascii "a\nforged")) }).count lf = 2 := by
  decide

end Gossipper.Eventlog
