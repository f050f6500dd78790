/-
Module: Gossipper.Go.Json
Purpose: JSON documents, and what `json.Unmarshal` and `json.Marshal` make of them: maps of raw
  values, slices, scalars, and the members of a struct, which are found by their name in any
  letter case.
Trusted boundary: The syntax of the text is not here; a document is given by its tree, with
  its texts as `json.Unmarshal` returns them.  A member that comes twice replaces the first one.
Main exports: Json, Json.Object, Json.asMap, Json.ofMap, Json.lookup_asMap_ofMap, Json.ofMap_congr
-/
import Mathlib.Data.List.Sort
import Gossipper.Go.Map
import Gossipper.Go.Number

namespace Gossipper.Go

open List

/-- A JSON document.  A number is its literal, and members stand in the order of the text. -/
inductive Json where
  | null
  | bool (value : Bool)
  | number (literal : Bytes)
  | string (text : Bytes)
  | array (items : List Json)
  | object (members : List (Bytes × Json))
deriving Inhabited

namespace Json

/-- `map[string]json.RawMessage`. -/
abbrev Object := Map Bytes Json

/-! ### Reading -/

/-- The map that the members of an object make. -/
def mapOf (members : List (Bytes × Json)) : Object :=
  members.foldl (fun m member => m.insert member.1 member.2) ∅

/-- `json.Unmarshal` into a nil `map[string]json.RawMessage`, with `none` for an error. -/
def asMap : Json → Option Object
  | .null => some ∅
  | .object members => some (mapOf members)
  | _ => none

/-- `json.Unmarshal` into a nil `[]json.RawMessage`. -/
def asArray : Json → Option (List Json)
  | .null => some []
  | .array items => some items
  | _ => none

/-- `json.Unmarshal` into an empty `string`. -/
def asString : Json → Option Bytes
  | .null => some []
  | .string text => some text
  | _ => none

def asBool : Json → Option Bool
  | .null => some false
  | .bool value => some value
  | _ => none

/-- `json.Unmarshal` into an `int`. -/
def asInt : Json → Option Int
  | .null => some 0
  | .number literal =>
    match atoi literal with
    | (n, none) => some n
    | (_, some _) => none
  | _ => none

/-- `json.Unmarshal` into a `uint32`. -/
def asUint32 : Json → Option UInt32
  | .null => some 0
  | .number literal =>
    match parseUint 0 literal with
    | (n, none) => if n < 2 ^ 32 then some (UInt32.ofNat n) else none
    | (_, some _) => none
  | _ => none

/-- `json.Unmarshal` into a `[]string`. -/
def asStrings : Json → Option (List Bytes)
  | .null => some []
  | .array items => items.mapM asString
  | _ => none

section Struct

variable {α : Type}

/-- `json.Unmarshal` into a pointer. -/
def asPointer (decode : Json → Option α) : Json → Option (Option α)
  | .null => some none
  | json => (decode json).map some

/-- `json.Unmarshal` into a struct, by what it does with the members. -/
def asStruct (decode : List (Bytes × Json) → Option α) : Json → Option α
  | .null => decode []
  | .object members => decode members
  | _ => none

/-- The field of a struct with a name: all members of this name in any letter case have to
have its type, and the last one is stored. -/
def field [CaseTables] (members : List (Bytes × Json)) (name : String) (zero : α)
    (decode : Json → Option α) : Option α :=
  (members.filter fun member => equalFold member.1 (ascii name)).foldlM
    (fun _ member => decode member.2) zero

/-- A field that is a pointer. -/
def pointer [CaseTables] (members : List (Bytes × Json)) (name : String)
    (decode : Json → Option α) : Option (Option α) :=
  field members name none (asPointer decode)

end Struct

/-! ### Writing -/

/-- The entries of a map in the order of their keys. -/
def sortedEntries (m : Object) : List (Sigma fun _ : Bytes => Json) :=
  m.entries.insertionSort fun a b => a.1 ≤ b.1

/-- `json.Marshal` of a `map[string]json.RawMessage`. -/
def ofMap (m : Object) : Json :=
  .object ((sortedEntries m).map fun entry => (entry.1, entry.2))

theorem sortedEntries_perm (m : Object) : (sortedEntries m).Perm m.entries :=
  perm_insertionSort _ _

theorem lookup_mapOf_sorted (m : Object) (asked : Bytes) :
    (mapOf ((sortedEntries m).map fun entry => (entry.1, entry.2))).lookup asked =
      m.lookup asked := by
  have distinct : (sortedEntries m).NodupKeys :=
    (perm_nodupKeys (sortedEntries_perm m)).mpr m.nodupKeys
  rw [mapOf, foldl_map, Map.lookup_foldl_insert distinct, AList.lookup_empty, Option.or_none,
    perm_dlookup asked distinct (sortedEntries_perm m)]
  rfl

theorem ofMap_congr (same : ∀ asked, m.lookup asked = other.lookup asked) :
    ofMap m = ofMap other := by
  have total : Std.Total fun a b : Sigma fun _ : Bytes => Json => a.1 ≤ b.1 :=
    ⟨fun a b => List.le_total a.1 b.1⟩
  have trans : IsTrans (Sigma fun _ : Bytes => Json) fun a b => a.1 ≤ b.1 :=
    ⟨fun _ _ _ => List.le_trans⟩
  have perm : m.entries.Perm other.entries := by
    apply lookup_ext m.nodupKeys other.nodupKeys
    intro key value
    have equal : m.entries.dlookup key = other.entries.dlookup key := same key
    rw [equal]
  have sorted : (sortedEntries m).Perm (sortedEntries other) :=
    (sortedEntries_perm m).trans (perm.trans (sortedEntries_perm other).symm)
  -- two entries with one key are the same entry
  have antisymm (a b : Sigma fun _ : Bytes => Json) (inFirst : a ∈ sortedEntries m)
      (inSecond : b ∈ sortedEntries other) (below : a.1 ≤ b.1) (above : b.1 ≤ a.1) : a = b := by
    have key : a.1 = b.1 := List.le_antisymm below above
    have inMap := (sortedEntries_perm m).mem_iff.mp inFirst
    have inMap' := perm.mem_iff.mpr ((sortedEntries_perm other).mem_iff.mp inSecond)
    exact m.nodupKeys.eq_of_fst_eq inMap inMap' key
  have equal : sortedEntries m = sortedEntries other :=
    sorted.eq_of_pairwise antisymm (pairwise_insertionSort _ _)
      (pairwise_insertionSort _ _)
  rw [ofMap, ofMap, equal]

end Json

end Gossipper.Go
