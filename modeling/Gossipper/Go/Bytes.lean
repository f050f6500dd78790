/-
Module: Gossipper.Go.Bytes
Purpose: Go byte strings and the `strings` functions that search, cut and join them; the
  names of files, after `path/filepath` where the separator is the slash; fixed-width
  integers in network byte order, after `encoding/binary`; and the result of a call that
  returns an `error` or panics.  Nothing here depends on the character encoding; the
  functions that read UTF-8 are in `Gossipper.Go.Text`.
Trusted boundary: none
Main exports: Bytes, cut, index, split, join, cut_append, Outcome, joinPath, uint16_put, slice
-/
import Mathlib.Logic.Basic
import Mathlib.Algebra.GroupWithZero.Nat
import Mathlib.Algebra.Ring.Int.Defs
import Mathlib.Data.List.DropRight
import Mathlib.Data.List.Infix

namespace Gossipper

variable {α : Type*} {p : Prop} [Decidable p] {o : Option α} {a : α}

theorem of_guard (found : (if p then o else none) = some a) : p ∧ o = some a :=
  Option.ite_none_right_eq_some.mp found

theorem of_refusal (found : (if p then none else o) = some a) : ¬ p ∧ o = some a :=
  Option.ite_none_left_eq_some.mp found

end Gossipper

namespace Gossipper.Go

open List Option

/-- A Go `string` or `[]byte`: a finite sequence of arbitrary bytes. -/
abbrev Bytes := List UInt8

instance instLawfulBEqBytes : LawfulBEq Bytes := inferInstance

/-- A string literal of the source.  Every literal is plain ASCII. -/
def ascii (text : String) : Bytes :=
  text.toList.map fun c => UInt8.ofNat c.toNat

/-- Carriage return. -/
abbrev cr : UInt8 := 0x0D

/-- Line feed. -/
abbrev lf : UInt8 := 0x0A

theorem lf_notMem_cr : lf ∉ [cr] := by decide

/-- The line end `"\r\n"`. -/
abbrev crlf : Bytes := [cr, lf]

/-- The header/body separator `"\r\n\r\n"`. -/
abbrev crlfcrlf : Bytes := [cr, lf, cr, lf]

/-- `strings.HasPrefix`. -/
def hasPrefix (s start : Bytes) : Bool :=
  start.isPrefixOf s

/-- `strings.HasSuffix`. -/
def hasSuffix (s ending : Bytes) : Bool :=
  ending.isSuffixOf s

/-- `strings.TrimPrefix`. -/
def trimPrefix (s start : Bytes) : Bytes :=
  if hasPrefix s start then s.drop start.length else s

/-- `strings.TrimSuffix`. -/
def trimSuffix (s ending : Bytes) : Bytes :=
  if hasSuffix s ending then s.take (s.length - ending.length) else s

/-- `strings.IndexByte`, with `none` for `-1`. -/
def indexByte (s : Bytes) (c : UInt8) : Option Nat :=
  s.idxOf? c

/-- `strings.Cut` at a one-byte separator, with `none` for "not found". -/
def cut : Bytes → UInt8 → Option (Bytes × Bytes)
  | [], _ => none
  | b :: rest, sep =>
    if b = sep then some ([], rest)
    else (cut rest sep).map fun parts => (b :: parts.1, parts.2)

/-- `strings.Index`, with `none` for `-1`. -/
def index : Bytes → Bytes → Option Nat
  | [], sep => if sep = [] then some 0 else none
  | b :: rest, sep =>
    if hasPrefix (b :: rest) sep then some 0
    else (index rest sep).map (· + 1)

/-- `strings.LastIndex`, with `none` for `-1`. -/
def lastIndex : Bytes → Bytes → Option Nat
  | [], sep => if sep = [] then some 0 else none
  | b :: rest, sep =>
    match lastIndex rest sep with
    | some i => some (i + 1)
    | none => if hasPrefix (b :: rest) sep then some 0 else none

/-- `strings.Contains`. -/
def contains (s sep : Bytes) : Bool :=
  (index s sep).isSome

/-- The scan of `strings.Split`: `skip` bytes of a separator that was just
found are still to be passed over. -/
def splitFrom (sep : Bytes) : Nat → Bytes → Bytes → List Bytes
  | _, field, [] => [field.reverse]
  | skip + 1, field, _ :: rest => splitFrom sep skip field rest
  | 0, field, b :: rest =>
    if hasPrefix (b :: rest) sep then
      field.reverse :: splitFrom sep (sep.length - 1) [] rest
    else splitFrom sep 0 (b :: field) rest

/-- `strings.Split` at a non-empty separator. -/
def split (s sep : Bytes) : List Bytes :=
  splitFrom sep 0 [] s

/-- `strings.Join`. -/
def join (parts : List Bytes) (sep : Bytes) : Bytes :=
  List.intercalate sep parts

/-- `strings.ReplaceAll` with a non-empty pattern. -/
def replaceAll (s old new : Bytes) : Bytes :=
  join (split s old) new

/-- `strings.TrimRight` with an ASCII cutset. -/
def trimRight (s cutset : Bytes) : Bytes :=
  s.rdropWhile (· ∈ cutset)

/-- `strings.Trim` with an ASCII cutset. -/
def trim (s cutset : Bytes) : Bytes :=
  trimRight (s.dropWhile (· ∈ cutset)) cutset

theorem hasPrefix_iff : hasPrefix s start = true ↔ start <+: s :=
  isPrefixOf_iff_prefix

theorem hasSuffix_iff : hasSuffix s ending = true ↔ ending <:+ s :=
  isSuffixOf_iff_suffix

theorem hasPrefix_nil (nonempty : start ≠ []) : hasPrefix [] start = false := by
  rw [Bool.eq_false_iff, Ne, hasPrefix_iff, prefix_nil]
  exact nonempty

variable {s sep : Bytes}

theorem index_eq_some (found : index s sep = some i) :
    s = s.take i ++ (sep ++ s.drop (i + sep.length)) := by
  induction s generalizing i with
  | nil =>
    simp only [index, ite_none_right_eq_some, Option.some.injEq] at found
    simp [found.1]
  | cons b rest ih =>
    simp only [index] at found
    split at found
    · rename_i here
      cases found
      obtain ⟨tail, whole⟩ := hasPrefix_iff.mp here
      simp [← whole]
    · obtain ⟨j, later, rfl⟩ := map_eq_some_iff.mp found
      rw [take_succ_cons, Nat.add_right_comm, drop_succ_cons, cons_append,
        ← ih later]

theorem index_eq_some_iff (nonempty : sep ≠ []) :
    index s sep = some i ↔
      hasPrefix (s.drop i) sep = true ∧ ∀ j < i, hasPrefix (s.drop j) sep = false := by
  induction s generalizing i with
  | nil =>
    simp [index, nonempty, hasPrefix_nil nonempty]
  | cons b rest ih =>
    by_cases here : hasPrefix (b :: rest) sep = true
    · rw [index, if_pos here, Option.some.injEq]
      constructor
      · rintro rfl
        exact ⟨here, fun j before => absurd before (Nat.not_lt_zero j)⟩
      · rintro ⟨-, first⟩
        by_contra later
        have := first 0 (by omega)
        rw [drop_zero, here] at this
        cases this
    · rw [index, if_neg here]
      cases i with
      | zero => simp [here]
      | succ i =>
        rw [map_eq_some_iff]
        simp only [Nat.add_right_cancel_iff, exists_eq_right, drop_succ_cons,
          ih]
        refine and_congr_right fun _ => ⟨fun before j less => ?_, fun before j less => ?_⟩
        · cases j with
          | zero => exact Bool.eq_false_iff.mpr here
          | succ j => exact before j (by omega)
        · exact before (j + 1) (by omega)

theorem index_eq_none_iff (nonempty : sep ≠ []) :
    index s sep = none ↔ ∀ i, hasPrefix (s.drop i) sep = false := by
  induction s with
  | nil =>
    simp [index, nonempty, hasPrefix_nil nonempty]
  | cons b rest ih =>
    rw [index]
    split
    · rename_i here
      simp only [reduceCtorEq, false_iff, not_forall]
      exact ⟨0, by simp [here]⟩
    · rename_i notHere
      rw [map_eq_none_iff, ih]
      constructor
      · intro nowhere i
        cases i with
        | zero => exact Bool.eq_false_iff.mpr notHere
        | succ i => exact nowhere i
      · intro nowhere i
        exact nowhere (i + 1)

theorem index_congr (nonempty : sep ≠ [])
    (same : ∀ i, hasPrefix (s.drop i) sep = hasPrefix (t.drop i) sep) :
    index s sep = index t sep := by
  cases found : index t sep with
  | none =>
    rw [index_eq_none_iff nonempty] at found ⊢
    intro i
    rw [same, found]
  | some i =>
    rw [index_eq_some_iff nonempty] at found ⊢
    simp only [same]
    exact found

variable {b : UInt8}

theorem hasPrefix_append_cons (absent : b ∉ start) :
    hasPrefix (s ++ b :: t) start = hasPrefix s start := by
  rw [Bool.eq_iff_iff, hasPrefix_iff, hasPrefix_iff]
  constructor
  · intro found
    refine prefix_of_prefix_length_le found (prefix_append s _) ?_
    by_contra longer
    have front : s ++ [b] <+: s ++ b :: t := ⟨t, by simp⟩
    have reaches : s ++ [b] <+: start := prefix_of_prefix_length_le front found
      (by rw [length_append, length_singleton]; omega)
    exact absent (reaches.subset (by simp))
  · intro found
    exact found.trans (prefix_append s _)

private theorem splitFrom_ne_nil (sep : Bytes) (skip : Nat) (field s : Bytes) :
    splitFrom sep skip field s ≠ [] := by
  induction s generalizing skip field with
  | nil => simp [splitFrom]
  | cons b rest ih =>
    cases skip with
    | zero =>
      simp only [splitFrom]
      split
      · simp
      · exact ih 0 (b :: field)
    | succ skip => exact ih skip field

theorem split_ne_nil (s sep : Bytes) : split s sep ≠ [] :=
  splitFrom_ne_nil sep 0 [] s

/-! ### Trimming -/

theorem trimSuffix_append (s ending : Bytes) : trimSuffix (s ++ ending) ending = s := by
  have ends : hasSuffix (s ++ ending) ending = true :=
    hasSuffix_iff.mpr (suffix_append _ _)
  simp [trimSuffix, ends]

theorem trimSuffix_subset (s ending : Bytes) : trimSuffix s ending ⊆ s := by
  unfold trimSuffix
  split
  · exact take_subset _ s
  · exact List.Subset.refl s

theorem trim_subset (s cutset : Bytes) : trim s cutset ⊆ s :=
  List.Subset.trans (List.rdropWhile_prefix _ _).subset (dropWhile_suffix _).subset

theorem mem_trimRight (member : b ∈ s) (kept : b ∉ cutset) :
    b ∈ trimRight s cutset := by
  rw [← rdropWhile_append_rtakeWhile (p := (· ∈ cutset)) (l := s), mem_append] at member
  rcases member with inside | trimmed
  · exact inside
  · exact absurd (by simpa using mem_rtakeWhile_imp trimmed) kept

theorem trimRight_append (nonempty : t ≠ []) (kept : ∀ b ∈ t, b ∉ cutset) :
    trimRight (s ++ t) cutset = s ++ t := by
  rw [trimRight, rdropWhile_eq_self_iff]
  intro _
  rw [getLast_append_of_ne_nil _ nonempty]
  simpa using kept _ (getLast_mem nonempty)

/-- Dropping from the end stops at the latest at a member that is kept. -/
theorem rdropWhile_append_cons {α : Type} {p : α → Bool} {part}
    (kept : p part = false) (left right : List α) :
    (left ++ part :: right).rdropWhile p = left ++ part :: right.rdropWhile p := by
  rw [List.rdropWhile, List.rdropWhile, reverse_append, reverse_cons,
    append_assoc, dropWhile_append]
  split
  · rename_i empty
    rw [List.isEmpty_iff.mp empty, singleton_append,
      dropWhile_cons_of_neg (by simp [kept])]
    simp
  · simp

theorem trimRight_append_cons {cutset} (kept : b ∉ cutset) (s t : Bytes) :
    trimRight (s ++ b :: t) cutset = s ++ b :: trimRight t cutset :=
  rdropWhile_append_cons (by simpa using kept) s t

theorem trimSuffix_append_cons (differs : b ≠ last) (s t : Bytes) :
    trimSuffix (s ++ b :: t) [last] = s ++ b :: trimSuffix t [last] := by
  rcases eq_nil_or_concat' t with rfl | ⟨start, final, rfl⟩
  · have noEnd : hasSuffix (s ++ [b]) [last] = false := by
      rw [Bool.eq_false_iff]
      intro ends
      obtain ⟨before, equal⟩ := hasSuffix_iff.mp ends
      exact differs (singleton_inj.mp (append_inj' equal rfl).2).symm
    rw [trimSuffix, noEnd]
    rfl
  · rw [← cons_append, ← append_assoc]
    by_cases same : final = last
    · rw [same, trimSuffix_append, trimSuffix_append]
    · have noEnd : ∀ before : Bytes, hasSuffix (before ++ [final]) [last] = false := by
        intro before
        rw [Bool.eq_false_iff]
        intro ends
        obtain ⟨earlier, equal⟩ := hasSuffix_iff.mp ends
        exact same (singleton_inj.mp (append_inj' equal rfl).2).symm
      rw [trimSuffix, trimSuffix, noEnd, noEnd]
      simp

/-! ### Cutting -/

theorem indexByte_append (absent : c ∉ front) (rest : Bytes) :
    indexByte (front ++ c :: rest) c = some front.length := by
  rw [indexByte, idxOf?_eq_some_iff]
  refine ⟨by simp, by simp, fun j before => ?_⟩
  rw [getElem_append_left before]
  exact fun same => absent (same ▸ getElem_mem before)

theorem indexByte_eq_none_iff : indexByte s c = none ↔ c ∉ s := by
  rw [indexByte, idxOf?_eq_none_iff]

theorem cut_eq_some {s before after sep}
    (found : cut s sep = some (before, after)) :
    s = before ++ sep :: after ∧ sep ∉ before := by
  induction s generalizing before with
  | nil => simp [cut] at found
  | cons b rest ih =>
    by_cases same : b = sep
    · simp only [cut, same, if_true, Option.some.injEq, Prod.mk.injEq] at found
      obtain ⟨rfl, rfl⟩ := found
      simp [same]
    · simp only [cut, same, if_false, map_eq_some_iff] at found
      obtain ⟨⟨inner, tail⟩, innerFound, equality⟩ := found
      simp only [Prod.mk.injEq] at equality
      obtain ⟨rfl, rfl⟩ := equality
      obtain ⟨restEq, absent⟩ := ih innerFound
      refine ⟨by rw [restEq]; rfl, ?_⟩
      simp only [mem_cons, not_or]
      exact ⟨fun equal => same equal.symm, absent⟩

theorem cut_append {before after sep} (absent : sep ∉ before) :
    cut (before ++ sep :: after) sep = some (before, after) := by
  induction before with
  | nil => simp [cut]
  | cons b rest ih =>
    simp only [mem_cons, not_or] at absent
    have different : b ≠ sep := fun equal => absent.1 equal.symm
    simp [cut, different, ih absent.2]

theorem cut_isSome_iff {s sep} :
    (cut s sep).isSome ↔ sep ∈ s := by
  induction s with
  | nil => simp [cut]
  | cons b rest ih =>
    by_cases same : b = sep
    · simp [cut, same]
    · have different : sep ≠ b := fun equal => same equal.symm
      simp [cut, same, different, ih]

end Gossipper.Go

namespace Gossipper.Go

/-- How a call ends: with a value and a nil error, with an error, or in a
run-time panic. -/
inductive Outcome (ε α : Type) where
  | ok (value : α)
  | fail (error : ε)
  | panics
deriving DecidableEq, Repr

namespace Outcome

variable {ε α : Type}

/-- The call returned. -/
def Returns : Outcome ε α → Prop
  | .panics => False
  | _ => True

instance : DecidablePred (Returns (ε := ε) (α := α)) := fun outcome =>
  match outcome with
  | .ok _ => isTrue trivial
  | .fail _ => isTrue trivial
  | .panics => isFalse id

end Outcome

/-! ### Code that returns at the first error -/

section Except

variable {ε α β σ : Type}

theorem bind_ok {next : α → Except ε β} (ended : action >>= next = .ok value) :
    ∃ item, action = .ok item ∧ next item = .ok value := by
  cases action with
  | error error => cases ended
  | ok item => exact ⟨item, rfl, ended⟩

/-- A loop that got through: what its body keeps, with the items seen so far, holds
for all items. -/
theorem foldlM_invariant (Inv : List α → σ → Prop) {body : σ → α → Except ε σ}
    (kept : ∀ seen state item after, body state item = .ok after → Inv seen state →
      Inv (seen ++ [item]) after)
    (ended : items.foldlM body state = .ok final) (start : Inv [] state) : Inv items final := by
  suffices fromSeen : ∀ seen, Inv seen state → Inv (seen ++ items) final from
    fromSeen [] start
  clear start
  induction items generalizing state with
  | nil =>
    cases ended
    simp
  | cons item rest ih =>
    rw [List.foldlM_cons] at ended
    obtain ⟨after, passed, ended⟩ := bind_ok ended
    intro seen before
    simpa using ih ended _ (kept seen state item after passed before)

end Except

/-- The separator of path elements. -/
abbrev slash : UInt8 := 0x2F

/-- `filepath.IsAbs`. -/
def isAbs (path : Bytes) : Bool :=
  hasPrefix path [slash]

/-- The elements that `filepath.Clean` keeps; `kept` holds them in reverse. -/
def cleanElements (rooted : Bool) : List Bytes → List Bytes → List Bytes
  | kept, [] => kept.reverse
  | kept, element :: rest =>
    if element = [] ∨ element = ascii "." then cleanElements rooted kept rest
    else if element = ascii ".." then
      match kept with
      | last :: before =>
        if last = ascii ".." then cleanElements rooted (element :: kept) rest
        else cleanElements rooted before rest
      | [] => if rooted then cleanElements rooted [] rest else cleanElements rooted [element] rest
    else cleanElements rooted (element :: kept) rest

/-- `filepath.Clean`. -/
def clean (path : Bytes) : Bytes :=
  let rooted := isAbs path
  let elements := cleanElements rooted [] (split path [slash])
  if rooted then slash :: join elements [slash]
  else if elements = [] then ascii "."
  else join elements [slash]

/-- `filepath.Join` of a directory and a name. -/
def joinPath (dir name : Bytes) : Bytes :=
  if dir ≠ [] then clean (dir ++ slash :: name)
  else if name ≠ [] then clean name
  else []

/-- `filepath.Dir`. -/
def dirName (path : Bytes) : Bytes :=
  clean (path.rdropWhile (· ≠ slash))

example : joinPath (ascii "a//b/../c") (ascii "./d") = ascii "a/c/d" := by decide

example : joinPath (ascii "/../x") (ascii "../../y") = ascii "/y" := by decide

end Gossipper.Go

namespace Gossipper.Go

open List

/-- `binary.BigEndian.PutUint16`. -/
def putUint16 (v : UInt16) : Bytes :=
  [UInt8.ofNat (v.toNat / 0x100), UInt8.ofNat v.toNat]

/-- `binary.BigEndian.PutUint32`. -/
def putUint32 (v : UInt32) : Bytes :=
  [UInt8.ofNat (v.toNat / 0x1000000), UInt8.ofNat (v.toNat / 0x10000),
    UInt8.ofNat (v.toNat / 0x100), UInt8.ofNat v.toNat]

/-- `binary.BigEndian.Uint16` of two bytes or more. -/
def uint16 : Bytes → UInt16
  | a :: b :: _ => UInt16.ofNat (a.toNat * 0x100 + b.toNat)
  | _ => 0

/-- `binary.BigEndian.Uint32` of four bytes or more. -/
def uint32 : Bytes → UInt32
  | a :: b :: c :: d :: _ =>
    UInt32.ofNat (a.toNat * 0x1000000 + b.toNat * 0x10000 + c.toNat * 0x100 + d.toNat)
  | _ => 0

@[simp] theorem putUint16_length (v : UInt16) : (putUint16 v).length = 2 := rfl

@[simp] theorem putUint32_length (v : UInt32) : (putUint32 v).length = 4 := rfl

theorem uint16_put (v : UInt16) (rest : Bytes) : uint16 (putUint16 v ++ rest) = v := by
  have bound := v.toNat_lt
  rw [← UInt16.toNat_inj]
  simp only [putUint16, cons_append, nil_append, uint16, UInt16.toNat_ofNat',
    UInt8.toNat_ofNat']
  omega

@[simp] theorem uint16_putUint16 (v : UInt16) : uint16 (putUint16 v) = v := by
  have read := uint16_put v []
  rwa [append_nil] at read

theorem uint32_put (v : UInt32) (rest : Bytes) : uint32 (putUint32 v ++ rest) = v := by
  have bound := v.toNat_lt
  rw [← UInt32.toNat_inj]
  simp only [putUint32, cons_append, nil_append, uint32, UInt32.toNat_ofNat',
    UInt8.toNat_ofNat']
  omega

@[simp] theorem uint32_putUint32 (v : UInt32) : uint32 (putUint32 v) = v := by
  have read := uint32_put v []
  rwa [append_nil] at read

theorem put_uint16 (a b : UInt8) : putUint16 (uint16 [a, b]) = [a, b] := by
  have high := a.toNat_lt
  have low := b.toNat_lt
  have value : (uint16 [a, b]).toNat = a.toNat * 0x100 + b.toNat := by
    rw [uint16, UInt16.toNat_ofNat', Nat.mod_eq_of_lt (by omega)]
  have first : UInt8.ofNat ((uint16 [a, b]).toNat / 0x100) = a := by
    rw [← UInt8.toNat_inj, UInt8.toNat_ofNat', value]
    omega
  have second : UInt8.ofNat (uint16 [a, b]).toNat = b := by
    rw [← UInt8.toNat_inj, UInt8.toNat_ofNat', value]
    omega
  rw [putUint16, first, second]

/-- The slice expression `s[low:high]`, with `none` for a panic. -/
def slice (s : Bytes) (low high : Nat) : Option Bytes :=
  if low ≤ high ∧ high ≤ s.length then some ((s.drop low).take (high - low)) else none

theorem slice_middle (front middle back : Bytes) :
    slice (front ++ (middle ++ back)) front.length (front.length + middle.length) =
      some middle := by
  rw [slice, if_pos (by simp), drop_left, Nat.add_sub_cancel_left, take_left]

end Gossipper.Go
