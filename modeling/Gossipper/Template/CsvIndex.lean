/-
Module: Gossipper.Template.CsvIndex
Purpose: The lookup of a line by the first cell of a CSV file, with and without the index that
  `GenerateCSVIndex` writes, and the line that `[field0 file=F line=n]` reads, after
  `internal/template/render.go`.
Trusted boundary: as for Template.Context; an index file is given by the map that
  `json.Unmarshal` makes of it, which has the keys with each invalid byte replaced.
Main exports: Files, lookupCSVLine, generateCSVIndex, indexed_lookup_iff
-/
import Mathlib.Data.List.Sort
import Gossipper.Go.Map
import Gossipper.Go.Utf8
import Gossipper.Template.Injection

namespace Gossipper.Template

open Go List Option

/-- The files, and the index files among them by their path. -/
structure Files where
  env : Environment
  index : Bytes → Option (Map Bytes Nat)

/-- `buildCSVIndexPath`. -/
def buildCSVIndexPath (csvPath : Bytes) (field : Int) : Bytes :=
  csvPath ++ ascii ".gossipper.idx." ++ itoa field ++ ascii ".json"

/-- The records of a file as a new reader reads them, which takes a comma. -/
def Files.records (files : Files) (path : Bytes) : Option (List (List Bytes)) :=
  (files.env.readFile path).bind (files.env.readCSV 0x2C)

/-! ### The two ways to a line -/

/-- The index of the first record that starts with the key. -/
def firstLine (records : List (List Bytes)) (key : Bytes) : Option Nat :=
  records.findIdx? fun record => record.head? = some key

/-- `LookupCSVLine`, with `none` for an error and `some none` for line 0, not found. -/
def lookupCSVLine (files : Files) (basePath name key : Bytes) : Option (Option Nat) :=
  let path := resolvePath basePath name
  match files.index (buildCSVIndexPath path 0) with
  | some lines => some (lines.lookup key)
  | none => (files.records path).map fun records => (firstLine records key).map (· + 1)

/-- The loop of `GenerateCSVIndex`. -/
def indexStep (field : Nat) (lines : Map Bytes Nat) (entry : List Bytes × Nat) : Map Bytes Nat :=
  match entry.1[field]? with
  | none => lines
  | some cell =>
    let key := trimSpace cell
    if key = [] ∨ (lines.lookup key).isSome then lines else lines.insert key (entry.2 + 1)

/-- `index.Lines`. -/
def indexLines (field : Nat) (records : List (List Bytes)) : Map Bytes Nat :=
  records.zipIdx.foldl (indexStep field) ∅

/-- The lines of an index as they are read back from its file: `json.Marshal` sorts the keys, and
a key that comes twice replaces the first. -/
def readBack (lines : Map Bytes Nat) : Map Bytes Nat :=
  (lines.entries.insertionSort fun a b => a.1 ≤ b.1).foldl
    (fun read entry => read.insert (reencode entry.1) entry.2) ∅

/-- `GenerateCSVIndex`, with `none` for an error: the files after it, the path of the index and
the number of its keys. -/
def generateCSVIndex (files : Files) (basePath name : Bytes) (field : Int) :
    Option (Files × Bytes × Nat) :=
  if field < 0 then none
  else
    let path := resolvePath basePath name
    (files.records path).map fun records =>
      let lines := indexLines field.toNat records
      let indexPath := buildCSVIndexPath path field
      ({ files with index := Function.update files.index indexPath (some (readBack lines)) },
        indexPath, lines.entries.length)

/-! ### What an index holds -/

variable (lines : Map Bytes Nat) (records : List (List Bytes)) (key : Bytes)

theorem lookup_indexStep (record : List Bytes) (k : Nat) (key : Bytes) :
    (indexStep 0 lines (record, k)).lookup key =
      (lines.lookup key).or
        (if key ≠ [] ∧ record.head?.map trimSpace = some key then some (k + 1) else none) := by
  cases record with
  | nil => simp [indexStep]
  | cons cell rest =>
    simp only [indexStep, getElem?_cons_zero, head?_cons, map_some,
      Option.some.injEq]
    split
    · rename_i known
      split
      · rename_i here
        obtain ⟨nonempty, rfl⟩ := here
        obtain ⟨line, found⟩ := isSome_iff_exists.mp (known.resolve_left nonempty)
        rw [found, some_or]
      · rw [or_none]
    · rename_i fresh
      rw [not_or, not_isSome_iff_eq_none] at fresh
      rw [Map.lookup_insert_eq]
      by_cases same : key = trimSpace cell
      · subst same
        rw [if_pos rfl, fresh.2, if_pos ⟨fresh.1, rfl⟩, none_or]
      · rw [if_neg same, if_neg fun here => same here.2.symm, or_none]

/-- A key has the line of the first cell that is the key when it is trimmed. -/
theorem lookup_indexLines :
    (indexLines 0 records).lookup key =
      (records.findIdx? fun record => key ≠ [] ∧ record.head?.map trimSpace = some key).map
        (· + 1) := by
  -- the fold from record `k` on
  have spec : ∀ k (lines : Map Bytes Nat),
      ((records.zipIdx k).foldl (indexStep 0) lines).lookup key =
        (lines.lookup key).or ((records.findIdx? fun record =>
          key ≠ [] ∧ record.head?.map trimSpace = some key).map (· + (k + 1))) := by
    induction records with
    | nil => simp
    | cons record rest ih =>
      intro k lines
      rw [zipIdx_cons, foldl_cons, ih, lookup_indexStep, Option.or_assoc,
        findIdx?_cons]
      congr 1
      split
      · rename_i here
        simp [here]
      · rename_i other
        simp only [other, decide_false, Bool.false_eq_true, if_false, none_or,
          Option.map_map]
        congr 1
        funext i
        simp only [Function.comp_apply]
        omega
  exact spec 0 ∅

theorem lookup_readBack :
    (readBack lines).lookup key =
      (((lines.entries.insertionSort fun a b => a.1 ≤ b.1).filter fun entry =>
        reencode entry.1 = key).getLast?).map Sigma.snd := by
  unfold readBack
  induction lines.entries.insertionSort fun a b => a.1 ≤ b.1 using List.reverseRecOn with
  | nil => rfl
  | append_singleton before entry ih =>
    rw [foldl_append, foldl_cons, foldl_nil, Map.lookup_insert_eq, ih,
      filter_append, filter_singleton]
    by_cases same : key = reencode entry.1
    · simp [same]
    · simp [same, Ne.symm same]

theorem written_of_readBack {lines key line}
    (found : (readBack lines).lookup key = some line) :
    ∃ written, reencode written = key ∧ lines.lookup written = some line := by
  rw [lookup_readBack] at found
  obtain ⟨entry, isLast, rfl⟩ := map_eq_some_iff.mp found
  obtain ⟨member, spelled⟩ := mem_filter.mp (mem_of_getLast? isLast)
  refine ⟨entry.1, of_decide_eq_true spelled, AList.mem_lookup_iff.mpr ?_⟩
  exact (perm_insertionSort _ _).mem_iff.mp member

theorem readBack_of_written {lines written line}
    (found : lines.lookup written = some line) :
    ∃ other, (readBack lines).lookup (reencode written) = some other := by
  have member : ⟨written, line⟩ ∈ (lines.entries.insertionSort fun a b => a.1 ≤ b.1).filter
      fun entry => reencode entry.1 = reencode written := by
    rw [mem_filter, (perm_insertionSort _ _).mem_iff]
    exact ⟨AList.mem_lookup_iff.mp found, decide_eq_true rfl⟩
  rw [lookup_readBack, getLast?_eq_some_getLast (ne_nil_of_mem member)]
  exact ⟨_, rfl⟩

/-! ### With and without the index -/

theorem firstLine_eq_some {records key i}
    (found : firstLine records key = some i) :
    ∃ record, records[i]? = some record ∧ record.head? = some key := by
  obtain ⟨inside, here, -⟩ := findIdx?_eq_some_iff_getElem.mp found
  exact ⟨_, getElem?_eq_getElem inside, of_decide_eq_true here⟩

theorem findIdx?_congr {α : Type} {p q : α → Bool} {xs : List α} (same : ∀ x ∈ xs, p x = q x) :
    xs.findIdx? p = xs.findIdx? q := by
  induction xs with
  | nil => rfl
  | cons x xs ih =>
    rw [forall_mem_cons] at same
    rw [findIdx?_cons, findIdx?_cons, same.1, ih same.2]

/-- The index gives the same lines as the scan exactly when each first cell is the key that the
index reads back for it. -/
theorem readBack_eq_iff :
    (∀ key, (readBack (indexLines 0 records)).lookup key = (firstLine records key).map (· + 1)) ↔
      ∀ record ∈ records, ∀ cell ∈ record.head?,
        cell ≠ [] ∧ reencode (trimSpace cell) = cell := by
  constructor
  · intro same record member cell isFirst
    obtain ⟨i, first⟩ : ∃ i, firstLine records cell = some i := by
      rw [← isSome_iff_exists, firstLine, findIdx?_isSome, List.any_eq_true]
      exact ⟨record, member, decide_eq_true isFirst⟩
    have indexed := same cell
    rw [first] at indexed
    obtain ⟨written, spelled, line⟩ := written_of_readBack indexed
    rw [lookup_indexLines] at line
    obtain ⟨j, found, sameLine⟩ := map_eq_some_iff.mp line
    obtain rfl : j = i := Nat.succ_injective sameLine
    obtain ⟨inside, trimmed, -⟩ := findIdx?_eq_some_iff_getElem.mp found
    obtain ⟨nonempty, ofCell⟩ := of_decide_eq_true trimmed
    obtain ⟨here, atLine, starts⟩ := firstLine_eq_some first
    rw [getElem?_eq_getElem inside, Option.some.injEq] at atLine
    rw [atLine, starts, map_some, Option.some.injEq] at ofCell
    subst ofCell
    exact ⟨fun empty => nonempty (by rw [empty]; rfl), spelled⟩
  · intro kept key
    -- a first cell is the key exactly when its trimmed text is that of the key
    have sameLine : ∀ record ∈ records, record.head? = some key →
        (indexLines 0 records).lookup (trimSpace key) = (firstLine records key).map (· + 1) := by
      intro record member isFirst
      obtain ⟨nonempty, back⟩ := kept record member key isFirst
      rw [lookup_indexLines, firstLine, findIdx?_congr]
      intro other inside
      rw [decide_eq_decide]
      constructor
      · rintro ⟨-, trimmed⟩
        obtain ⟨cell, starts, same⟩ := map_eq_some_iff.mp trimmed
        rw [starts, ← (kept other inside cell starts).2, same, back]
      · intro starts
        refine ⟨fun empty => nonempty ?_, by rw [starts, map_some]⟩
        rw [← back, empty]
        rfl
    cases found : (readBack (indexLines 0 records)).lookup key with
    | some line =>
      obtain ⟨written, spelled, atLine⟩ := written_of_readBack found
      have isLine := atLine
      rw [lookup_indexLines] at isLine
      obtain ⟨i, indexed, -⟩ := map_eq_some_iff.mp isLine
      obtain ⟨inside, trimmed, -⟩ := findIdx?_eq_some_iff_getElem.mp indexed
      obtain ⟨cell, starts, rfl⟩ := map_eq_some_iff.mp (of_decide_eq_true trimmed).2
      have member := getElem_mem inside
      rw [(kept _ member cell starts).2] at spelled
      subst spelled
      rw [← sameLine _ member starts, atLine]
    | none =>
      cases first : firstLine records key with
      | none => rfl
      | some i =>
        obtain ⟨record, here, starts⟩ := firstLine_eq_some first
        have member := mem_of_getElem? here
        have written := sameLine record member starts
        rw [first] at written
        obtain ⟨line, read⟩ := readBack_of_written written
        rw [(kept record member key starts).2, found] at read
        cases read

/-- A file that is not changed after its index was made gives the same answers with the index
and without it exactly when no first cell is empty, has blanks around it or invalid bytes. -/
theorem indexed_lookup_iff {files after : Files} {basePath name indexPath : Bytes} {count : Nat}
    {records : List (List Bytes)}
    (generated : generateCSVIndex files basePath name 0 = some (after, indexPath, count))
    (read : files.records (resolvePath basePath name) = some records) :
    (∀ key, lookupCSVLine after basePath name key =
      lookupCSVLine { after with index := fun _ => none } basePath name key) ↔
      ∀ record ∈ records, ∀ cell ∈ record.head?,
        cell ≠ [] ∧ reencode (trimSpace cell) = cell := by
  rw [← readBack_eq_iff]
  simp only [generateCSVIndex, lt_self_iff_false, if_false, read, map_some,
    Option.some.injEq, Prod.mk.injEq] at generated
  obtain ⟨rfl, -, -⟩ := generated
  have unchanged : Files.records { files with index := fun _ => none }
      (resolvePath basePath name) = some records := read
  simp [lookupCSVLine, unchanged]

section Fixed

attribute [local instance] CaseTables.asciiOnly

/-- A file with a cell in each of two lines. -/
def twoCells : Files := ⟨plainFiles [(ascii "u", ascii "a\nb\n")], fun _ => none⟩

theorem second_line_indexed :
    ∃ after path count, generateCSVIndex twoCells [] (ascii "u") 0 = some (after, path, count) ∧
      lookupCSVLine after [] (ascii "u") (ascii "b") =
        lookupCSVLine { after with index := fun _ => none } [] (ascii "u") (ascii "b") := by
  have read : twoCells.records (ascii "u") = some [[ascii "a"], [ascii "b"]] := by decide
  refine ⟨_, _, _, rfl, ?_⟩
  exact (@indexed_lookup_iff twoCells _ [] (ascii "u") _ _ _ rfl read).mpr (by decide) (ascii "b")

/-- The index has the cell without its blank. -/
theorem blank_cell_not_indexed :
    ∃ after path count,
      generateCSVIndex ⟨plainFiles [(ascii "u", ascii "a \n")], fun _ => none⟩ [] (ascii "u") 0 =
        some (after, path, count) ∧
      lookupCSVLine after [] (ascii "u") (ascii "a ") = some none ∧
      lookupCSVLine { after with index := fun _ => none } [] (ascii "u") (ascii "a ") =
        some (some 1) :=
  ⟨_, _, _, rfl, by decide, by decide⟩

end Fixed

end Gossipper.Template
