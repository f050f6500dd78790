/-
Module: Gossipper.Template.Injection
Purpose: The rows of an injection file as the calls see them: which row a call reads when it
  names no line, and what the replace and insert actions of a call do to its later reads.
Trusted boundary: as for Template.Context; a file does not change while the calls run.
Main exports: rowAt, dataRows, calls_cycle_iff, applyCSVMutation, run, edited,
  mutations_seen_iff
-/
import Gossipper.Template.Context

namespace Gossipper.Template

open Go List Option

/-- The records of a text without quotes, as `encoding/csv` reads them. -/
def plainCSV (comma : UInt8) (text : Bytes) : List (List Bytes) :=
  ((split text [lf]).filter (· ≠ [])).map fun line => split line [comma]

/-- An environment with files that have no quotes. -/
def plainFiles (files : List (Bytes × Bytes)) : Environment :=
  { noFiles with
    readFile := fun path => files.lookup path
    readCSV := fun comma text => some (plainCSV comma text) }

/-! ### The row that is read -/

section Rows

variable [CaseTables] {env : Environment}

/-- The index of the row that `csvRecordAt` reads, and the row as the file has it. -/
def rowAt (env : Environment) (path : Bytes) (lineNumber : Int) (physicalLine : Bool) :
    Option (Nat × List Bytes) :=
  if lineNumber ≤ 0 then none
  else
    (getCachedCSV env path).bind fun file =>
      let rows := file.1.length - file.2
      let idx :=
        if physicalLine then lineNumber.toNat - 1
        else file.2 + (lineNumber.toNat - 1) % rows
      if !physicalLine ∧ rows = 0 then none else (file.1[idx]?).map fun record => (idx, record)

theorem csvRecordAt_eq (basePath name : Bytes) (lineNumber : Int) (overrides : Overrides)
    (physicalLine : Bool) :
    csvRecordAt env basePath name lineNumber overrides physicalLine =
      (rowAt env (resolvePath basePath name) lineNumber physicalLine).map fun row =>
        applyCSVFieldOverrides (resolvePath basePath name) (row.1 + 1 : Nat) row.2 overrides := by
  unfold csvRecordAt rowAt
  split
  · rfl
  · dsimp only
    cases getCachedCSV env (resolvePath basePath name) with
    | none => rfl
    | some file =>
      dsimp only [bind_some]
      rw [apply_ite (Option.map _), Option.map_map]
      rfl

theorem rowAt_physical
    (found : rowAt env path lineNumber true = some row) : lineNumber = (row.1 + 1 : Nat) := by
  unfold rowAt at found
  obtain ⟨_, found⟩ := of_refusal found
  obtain ⟨file, -, inFile⟩ := bind_eq_some_iff.mp found
  simp only [Bool.not_true, Bool.false_eq_true, false_and, if_false, if_true,
    map_eq_some_iff] at inFile
  obtain ⟨record, -, rfl⟩ := inFile
  omega

theorem rowAt_index (found : rowAt env path lineNumber physicalLine = some row) :
    ∃ file, getCachedCSV env path = some file ∧ file.1[row.1]? = some row.2 := by
  unfold rowAt at found
  obtain ⟨_, found⟩ := of_refusal found
  obtain ⟨file, cached, inFile⟩ := bind_eq_some_iff.mp found
  dsimp only at inFile
  obtain ⟨_, inFile⟩ := of_refusal inFile
  obtain ⟨record, here, rfl⟩ := map_eq_some_iff.mp inFile
  exact ⟨file, cached, here⟩

/-! ### Data rows -/

/-- The data rows of an injection file: the records that are neither blank nor comments,
without the distribution header that comes first. -/
def dataRows (records : List (List Bytes)) : List (List Bytes) :=
  match records.filter fun record => !isIgnorableInfCSVRow record with
  | [] => []
  | first :: rest => if isSIPpDistributionHeaderRecord first then rest else first :: rest

/-- A blank or a comment in front moves the start by one. -/
theorem findInfDataRecordsStart_cons (rest : List (List Bytes))
    (ignored : isIgnorableInfCSVRow record = true) :
    findInfDataRecordsStart (record :: rest) = findInfDataRecordsStart rest + 1 := by
  simp only [findInfDataRecordsStart, takeWhile_cons, ignored, if_true, length_cons,
    getElem?_cons_succ]
  cases rest[(rest.takeWhile isIgnorableInfCSVRow).length]? with
  | none => rfl
  | some first =>
    dsimp only
    split <;> rfl

/-- The code starts behind the blanks and comments in front and behind the header. -/
theorem dataRows_eq (records : List (List Bytes)) :
    dataRows records =
      (records.drop (findInfDataRecordsStart records)).filter fun record =>
        !isIgnorableInfCSVRow record := by
  induction records with
  | nil => rfl
  | cons record rest ih =>
    cases ignored : isIgnorableInfCSVRow record with
    | true =>
      rw [findInfDataRecordsStart_cons rest ignored, drop_succ_cons, ← ih]
      simp [dataRows, ignored]
    | false =>
      -- the first row that is neither blank nor a comment may be the header
      simp only [dataRows, findInfDataRecordsStart, filter_cons, takeWhile_cons, ignored,
        Bool.not_false, if_true, Bool.false_eq_true, if_false, length_nil,
        getElem?_cons_zero]
      split
      · rfl
      · simp [ignored]

/-- The row that call number `n` reads when it names no line, as the claim of a cycle has it. -/
def dataRow (records : List (List Bytes)) (n : Nat) : Option (List Bytes) :=
  (dataRows records)[(n - 1) % (dataRows records).length]?

theorem csvRecordAt_call {basePath name : Bytes} {records : List (List Bytes)} {start n : Nat}
    (cached : getCachedCSV env (resolvePath basePath name) = some (records, start))
    (positive : 0 < n) :
    csvRecordAt env basePath name n [] false =
      (records.drop start)[(n - 1) % (records.drop start).length]? := by
  have notLow : ¬ (n : Int) ≤ 0 := by omega
  simp only [csvRecordAt, notLow, if_false, cached, Bool.not_false, true_and, Int.toNat_natCast,
    Bool.false_eq_true, length_drop, getElem?_drop]
  split
  · rename_i empty
    rw [getElem?_eq_none (by omega)]
  · exact congrFun Option.map_id _

/-- The calls go round the data rows exactly when no blank record and no comment stands
behind the first data row. -/
theorem calls_cycle_iff {basePath name : Bytes} {records : List (List Bytes)} {start : Nat}
    (cached : getCachedCSV env (resolvePath basePath name) = some (records, start)) :
    (∀ n : Nat, 0 < n → csvRecordAt env basePath name n [] false = dataRow records n) ↔
      ∀ record ∈ records.drop (findInfDataRecordsStart records),
        isIgnorableInfCSVRow record = false := by
  have started : start = findInfDataRecordsStart records := by
    unfold getCachedCSV at cached
    simp only [bind_eq_some_iff, map_eq_some_iff, Prod.mk.injEq] at cached
    obtain ⟨_, -, _, -, rfl, rfl⟩ := cached
    rfl
  subst started
  constructor
  · intro cycle record member
    obtain ⟨i, inside, rfl⟩ := getElem_of_mem member
    have read := cycle (i + 1) (by omega)
    rw [csvRecordAt_call cached (by omega), Nat.add_sub_cancel, Nat.mod_eq_of_lt inside,
      getElem?_eq_getElem inside] at read
    have row := mem_of_getElem? read.symm
    rw [dataRows_eq] at row
    simpa using (mem_filter.mp row).2
  · intro solid n positive
    have all : dataRows records = records.drop (findInfDataRecordsStart records) := by
      rw [dataRows_eq, filter_eq_self]
      intro record member
      simp [solid record member]
    rw [csvRecordAt_call cached positive, dataRow, all]

end Rows

section Fixed

attribute [local instance] CaseTables.asciiOnly

theorem two_rows_cycle :
    csvRecordAt (plainFiles [(ascii "u", ascii "#\nUSER\nal\nbo\n")]) [] (ascii "u") 3 [] false =
      dataRow [[ascii "#"], [ascii "USER"], [ascii "al"], [ascii "bo"]] 3 :=
  (calls_cycle_iff (by decide : getCachedCSV _ (ascii "u") = some (_, 2))).mpr (by decide) 3
    (by decide)

/-- The second call reads the comment that stands between two rows. -/
theorem comment_read_as_row :
    csvRecordAt (plainFiles [(ascii "u", ascii "USER\nal\n#\nbo\n")]) [] (ascii "u") 2 [] false =
        some [ascii "#"] ∧
      dataRow [[ascii "USER"], [ascii "al"], [ascii "#"], [ascii "bo"]] 2 = some [ascii "bo"] := by
  decide

end Fixed

/-! ### Mutations -/

section Maps

variable {κ ν : Type} [BEq κ] [LawfulBEq κ]

/-- `m[key] = value` for a map that is a list of its entries. -/
def assign (key : κ) (value : ν) (m : List (κ × ν)) : List (κ × ν) :=
  m.filter (fun entry => entry.1 != key) ++ [(key, value)]

theorem lookup_filter_ne (differs : asked ≠ key) (m : List (κ × ν)) :
    (m.filter fun entry => entry.1 != key).lookup asked = m.lookup asked := by
  induction m with
  | nil => rfl
  | cons entry m ih =>
    obtain ⟨own, value⟩ := entry
    by_cases same : own = key
    · simp [same, lookup_cons, beq_false_of_ne differs, ih]
    · rw [filter_cons_of_pos (by simpa using same), lookup_cons, lookup_cons, ih]

theorem lookup_filter_self (key : κ) (m : List (κ × ν)) :
    (m.filter fun entry => entry.1 != key).lookup key = none := by
  rw [lookup_eq_none_iff]
  intro entry member
  simpa [bne_comm] using (mem_filter.mp member).2

theorem lookup_assign (key : κ) (value : ν) (m : List (κ × ν)) :
    (assign key value m).lookup key = some value := by
  rw [assign, lookup_append, lookup_filter_self, none_or, lookup_cons_self]

theorem lookup_assign_ne (differs : asked ≠ key) (value : ν)
    (m : List (κ × ν)) : (assign key value m).lookup asked = m.lookup asked := by
  rw [assign, lookup_append, lookup_filter_ne differs, lookup_cons,
    beq_false_of_ne differs, lookup_nil, or_none]

/-- A visit of the whole map in any order ends with the same entry of a key. -/
theorem reverse_lookup_assign [DecidableEq κ] (key asked : κ) (value : ν) (m : List (κ × ν)) :
    (assign key value m).reverse.lookup asked =
      if asked = key then some value else m.reverse.lookup asked := by
  rw [assign, reverse_append, reverse_singleton, singleton_append,
    ← filter_reverse]
  split
  · rename_i same
    rw [same, lookup_cons_self]
  · rename_i differs
    rw [lookup_cons, beq_false_of_ne differs, lookup_filter_ne differs]

end Maps

/-- `storeCSVFieldOverride`; a nil map is `none`. -/
def storeCSVFieldOverride (fileKey : Bytes) (lineNumber field : Int) (value : Bytes) :
    Option Overrides → Option Overrides :=
  Option.map fun overrides =>
    let byFile := (overrides.lookup fileKey).getD []
    let byLine := (byFile.lookup lineNumber).getD []
    assign fileKey (assign lineNumber (assign field value byLine) byFile) overrides

/-- What the overrides put in place of a cell. -/
def cellOverride (overrides : Overrides) (path : Bytes) (line field : Int) : Option Bytes :=
  (((overrides.lookup path).bind (List.lookup line)).getD []).reverse.lookup field

/-- An assignment changes its own cell only. -/
theorem cellOverride_store {overrides after fileKey value lineNumber field}
    (stored : storeCSVFieldOverride fileKey lineNumber field value (some overrides) = some after)
    (path : Bytes) (line asked : Int) :
    cellOverride after path line asked =
      if path = fileKey ∧ line = lineNumber ∧ asked = field then some value
      else cellOverride overrides path line asked := by
  obtain rfl := Option.some.inj stored
  unfold cellOverride
  by_cases samePath : path = fileKey
  · subst samePath
    rw [lookup_assign, bind_some]
    by_cases sameLine : line = lineNumber
    · subst sameLine
      rw [lookup_assign, getD_some, reverse_lookup_assign]
      cases overrides.lookup path <;> simp
    · rw [lookup_assign_ne sameLine, if_neg fun same => sameLine same.2.1]
      cases overrides.lookup path <;> rfl
  · rw [lookup_assign_ne samePath, if_neg fun same => samePath same.1]

/-- The fields of a record are replaced one by one. -/
theorem applyCSVFieldOverrides_eq (path : Bytes) (line : Int) (record : List Bytes)
    (overrides : Overrides) :
    applyCSVFieldOverrides path line record overrides =
      record.mapIdx fun field value => (cellOverride overrides path line field).getD value := by
  unfold applyCSVFieldOverrides cellOverride
  generalize ((overrides.lookup path).bind (List.lookup line)).getD [] = byLine
  induction byLine using List.reverseRecOn with
  | nil =>
    apply ext_getElem?
    intro i
    rw [getElem?_mapIdx]
    exact (congrFun Option.map_id _).symm
  | append_singleton before entry ih =>
    obtain ⟨field, value⟩ := entry
    rw [foldl_append, ih, reverse_append, reverse_singleton,
      singleton_append, foldl_cons, foldl_nil]
    apply ext_getElem?
    intro i
    rw [getElem?_mapIdx, lookup_cons]
    by_cases same : (i : Int) = field
    · subst same
      rw [if_neg (by omega), Int.toNat_natCast, getElem?_set_self', getElem?_mapIdx,
        beq_self_eq_true]
      cases record[i]? <;> rfl
    · have other : ((i : Int) == field) = false := by simpa using same
      split
      · rw [getElem?_mapIdx, other]
      · rw [getElem?_set_ne (by omega), getElem?_mapIdx, other]

/-- The arguments of `ApplyCSVMutation` that a replace or an insert action gives. -/
structure Mutation where
  name : Bytes
  line : Int
  field : Int
  mode : Bytes
  text : Bytes
  position : Bytes

/-- Who runs an action: the init section or a call. -/
inductive Caller where
  | init
  | call (id : Nat)
deriving DecidableEq

/-- The overrides of every caller. -/
abbrev Stores := Caller → Option Overrides

/-- `runInit` makes a context without a map, and every call makes one of its own. -/
def Stores.initial : Stores
  | .init => none
  | .call _ => some []

section Mutations

variable [CaseTables]

/-- The value that a mutation makes of a cell, with `none` for an unknown mode or position. -/
def Mutation.value (m : Mutation) (current : Bytes) : Option Bytes :=
  let mode := toLower (trimSpace m.mode)
  let position := toLower (trimSpace m.position)
  if mode = ascii "replace" then some m.text
  else if mode = ascii "insert" then
    if position ∈ [[], ascii "suffix", ascii "append"] then some (current ++ m.text)
    else if position ∈ [ascii "prefix", ascii "prepend"] then some (m.text ++ current)
    else none
  else none

/-- `ApplyCSVMutation`, with `none` for an error. -/
def applyCSVMutation (env : Environment) (basePath : Bytes) (m : Mutation)
    (overrides : Option Overrides) : Option (Option Overrides) :=
  if trimSpace m.name = [] ∨ m.line ≤ 0 ∨ m.field < 0 then none
  else
    (csvRecordAt env basePath m.name m.line (overrides.getD []) true).bind fun record =>
      (record[m.field.toNat]?).bind fun current =>
        (m.value current).map fun value =>
          storeCSVFieldOverride (resolvePath basePath m.name) m.line m.field value overrides

/-- One action of a caller. -/
def mutate (env : Environment) (basePath : Bytes) (stores : Stores)
    (action : Caller × Mutation) : Option Stores :=
  (applyCSVMutation env basePath action.2 (stores action.1)).map
    (Function.update stores action.1)

/-- The action is one of the caller on the cell. -/
def Reaches (basePath : Bytes) (caller : Caller) (path : Bytes) (line : Int) (field : Nat)
    (action : Caller × Mutation) : Prop :=
  action.1 = caller ∧ resolvePath basePath action.2.name = path ∧ action.2.line = line ∧
    action.2.field = (field : Int)

instance Reaches.decidable (basePath : Bytes) (caller : Caller) (path : Bytes) (line : Int)
    (field : Nat) (action : Caller × Mutation) :
    Decidable (Reaches basePath caller path line field action) :=
  inferInstanceAs (Decidable (_ ∧ _))

/-- A value after the mutations of a cell, one after the other. -/
def edited (basePath : Bytes) (actions : List (Caller × Mutation)) (caller : Caller)
    (path : Bytes) (line : Int) (field : Nat) (value : Bytes) : Bytes :=
  (actions.filter (Reaches basePath caller path line field ·)).foldl
    (fun value action => (action.2.value value).getD value) value

/-- The record that a caller with a map has to read. -/
def editedRecord (env : Environment) (basePath : Bytes) (actions : List (Caller × Mutation))
    (caller : Caller) (path : Bytes) (lineNumber : Int) (physicalLine : Bool) :
    Option (List Bytes) :=
  (rowAt env path lineNumber physicalLine).map fun row =>
    row.2.mapIdx fun field value =>
      edited basePath actions caller path (row.1 + 1 : Nat) field value

variable {env : Environment} {basePath : Bytes}

/-- What a caller with a map has stored for the cells of the files. -/
def Shows (env : Environment) (basePath : Bytes) (actions : List (Caller × Mutation))
    (caller : Caller) (overrides : Overrides) : Prop :=
  ∀ path file (i : Nat) record (field : Nat) value, getCachedCSV env path = some file →
    file.1[i]? = some record → record[field]? = some value →
    (cellOverride overrides path (i + 1 : Nat) field).getD value =
      edited basePath actions caller path (i + 1 : Nat) field value

theorem edited_append (actions : List (Caller × Mutation)) (action : Caller × Mutation)
    (caller : Caller) (path : Bytes) (line : Int) (field : Nat) (value : Bytes) :
    edited basePath (actions ++ [action]) caller path line field value =
      if Reaches basePath caller path line field action then
        (action.2.value (edited basePath actions caller path line field value)).getD
          (edited basePath actions caller path line field value)
      else edited basePath actions caller path line field value := by
  unfold edited
  rw [filter_append, foldl_append, filter_singleton]
  split <;> simp_all

/-- A mutation that succeeds stores the next value of its cell. -/
theorem Shows.store {actions caller m overrides after}
    (shows : Shows env basePath actions caller overrides)
    (applied : applyCSVMutation env basePath m (some overrides) = some after) :
    ∃ stored, after = some stored ∧
      Shows env basePath (actions ++ [(caller, m)]) caller stored := by
  unfold applyCSVMutation at applied
  split at applied
  · cases applied
  rename_i inRange
  simp only [bind_eq_some_iff, map_eq_some_iff, getD_some, csvRecordAt_eq]
    at applied
  obtain ⟨_, ⟨row, found, rfl⟩, current, here, value, valued, rfl⟩ := applied
  refine ⟨_, rfl, ?_⟩
  intro path file i record field old cached inFile inRecord
  have earlier := shows path file i record field old cached inFile inRecord
  rw [cellOverride_store rfl, edited_append]
  by_cases reached : Reaches basePath caller path (i + 1 : Nat) field (caller, m)
  · obtain ⟨-, rfl, atLine, atField⟩ := reached
    have sameRow : row = (i, record) := by
      obtain ⟨other, again, inOther⟩ := rowAt_index found
      obtain rfl := Option.some.inj (cached.symm.trans again)
      have index : i = row.1 := by
        have line := rowAt_physical found
        dsimp only at atLine
        omega
      subst index
      obtain rfl := Option.some.inj (inFile.symm.trans inOther)
      rfl
    subst sameRow
    rw [applyCSVFieldOverrides_eq, getElem?_mapIdx, atField, Int.toNat_natCast, inRecord,
      map_some, earlier] at here
    rw [Option.some.inj here, valued, if_pos ⟨rfl, atLine.symm, atField.symm⟩, if_pos]
    · rfl
    · exact ⟨rfl, rfl, atLine, atField⟩
  · rw [if_neg reached, if_neg, earlier]
    intro same
    exact reached ⟨rfl, same.1.symm, same.2.1.symm, same.2.2.symm⟩

/-- The init section has no map, and a call's map shows its own mutations. -/
def Kept (env : Environment) (basePath : Bytes) (actions : List (Caller × Mutation))
    (stores : Stores) : Prop :=
  stores .init = none ∧
    ∀ id, ∃ overrides, stores (.call id) = some overrides ∧
      Shows env basePath actions (.call id) overrides

/-- One action keeps this up. -/
theorem Kept.mutate {actions stores after action} (kept : Kept env basePath actions stores)
    (stepped : mutate env basePath stores action = some after) :
    Kept env basePath (actions ++ [action]) after := by
  obtain ⟨caller, m⟩ := action
  obtain ⟨stored, applied, rfl⟩ := map_eq_some_iff.mp stepped
  dsimp only at applied
  refine ⟨?_, ?_⟩
  · cases caller with
    | call id => exact kept.1
    | init =>
      rw [kept.1] at applied
      unfold applyCSVMutation at applied
      obtain ⟨_, applied⟩ := of_refusal applied
      simp only [bind_eq_some_iff, map_eq_some_iff] at applied
      obtain ⟨_, -, _, -, _, -, rfl⟩ := applied
      exact Function.update_self ..
  · intro id
    obtain ⟨overrides, own, shows⟩ := kept.2 id
    by_cases same : Caller.call id = caller
    · subst same
      rw [own] at applied
      obtain ⟨stored, rfl, shown⟩ := shows.store applied
      exact ⟨stored, Function.update_self .., shown⟩
    · refine ⟨overrides, (Function.update_of_ne same ..).trans own, ?_⟩
      intro path file i record field value cached inFile inRecord
      rw [edited_append, if_neg fun reached => same reached.1.symm]
      exact shows path file i record field value cached inFile inRecord

theorem kept_run {actions stores}
    (ran : actions.foldlM (Template.mutate env basePath) Stores.initial = some stores) :
    Kept env basePath actions stores := by
  induction actions using List.reverseRecOn generalizing stores with
  | nil =>
    obtain rfl := Option.some.inj ran
    exact ⟨rfl, fun id => ⟨[], rfl, fun _ _ _ _ _ _ _ _ _ => rfl⟩⟩
  | append_singleton before action ih =>
    rw [foldlM_append] at ran
    obtain ⟨between, first, stepped⟩ := bind_eq_some_iff.mp ran
    simp only [foldlM_cons, foldlM_nil, bind_pure] at stepped
    exact (ih first).mutate stepped

/-- A caller reads exactly its own mutations when it is a call.  The init section reads the
file, which is right as long as its mutations change nothing. -/
theorem mutations_seen_iff {actions : List (Caller × Mutation)} {stores : Stores}
    (ran : actions.foldlM (Template.mutate env basePath) Stores.initial = some stores)
    (caller : Caller) :
    (∀ base name lineNumber physicalLine,
      csvRecordAt env base name lineNumber ((stores caller).getD []) physicalLine =
        editedRecord env basePath actions caller (resolvePath base name) lineNumber
          physicalLine) ↔
      caller ≠ .init ∨
        ∀ base name lineNumber physicalLine,
          editedRecord env basePath actions .init (resolvePath base name) lineNumber
            physicalLine = (rowAt env (resolvePath base name) lineNumber physicalLine).map
              Prod.snd := by
  have kept := kept_run ran
  cases caller with
  | init =>
    have file : ∀ base name lineNumber physicalLine,
        csvRecordAt env base name lineNumber ((stores .init).getD []) physicalLine =
          (rowAt env (resolvePath base name) lineNumber physicalLine).map Prod.snd := by
      intro base name lineNumber physicalLine
      rw [kept.1, csvRecordAt_eq]
      rfl
    simp only [file, ne_eq, not_true_eq_false, false_or]
    exact forall₄_congr fun _ _ _ _ => eq_comm
  | call id =>
    obtain ⟨overrides, own, shows⟩ := kept.2 id
    refine iff_of_true ?_ (Or.inl nofun)
    intro base name lineNumber physicalLine
    rw [own, getD_some, csvRecordAt_eq, editedRecord]
    cases found : rowAt env (resolvePath base name) lineNumber physicalLine with
    | none => rfl
    | some row =>
      obtain ⟨file, cached, inFile⟩ := rowAt_index found
      rw [map_some, map_some, applyCSVFieldOverrides_eq, Option.some.injEq,
        mapIdx_eq_mapIdx_iff]
      intro field inside
      exact shows _ file row.1 row.2 field _ cached inFile (getElem?_eq_getElem inside)

end Mutations

section FixedMutations

attribute [local instance] CaseTables.asciiOnly

/-- A file with one cell. -/
def oneCell : Environment := plainFiles [(ascii "u", ascii "a\n")]

/-- Its cell gets a new value. -/
def replaced : Mutation where
  name := ascii "u"
  line := 1
  field := 0
  mode := ascii "replace"
  text := ascii "b"
  position := []

theorem replaced_seen :
    ∃ stores, [(Caller.call 1, replaced)].foldlM (mutate oneCell []) .initial = some stores ∧
      csvRecordAt oneCell [] (ascii "u") 1 ((stores (.call 1)).getD []) false =
        editedRecord oneCell [] [(.call 1, replaced)] (.call 1) (ascii "u") 1 false :=
  ⟨_, rfl, (mutations_seen_iff rfl (.call 1)).mpr (.inl nofun) [] (ascii "u") 1 false⟩

/-- The init section replaces the cell and reads the old value. -/
theorem replaced_in_init_lost :
    ∃ stores, [(Caller.init, replaced)].foldlM (mutate oneCell []) .initial = some stores ∧
      csvRecordAt oneCell [] (ascii "u") 1 ((stores .init).getD []) true = some [ascii "a"] ∧
      editedRecord oneCell [] [(.init, replaced)] .init (ascii "u") 1 true =
        some [ascii "b"] :=
  ⟨_, rfl, by decide, by decide⟩

end FixedMutations

end Gossipper.Template
