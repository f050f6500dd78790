/-
Module: Gossipper.Sip.ResponseCopy
Purpose: Which header fields of a request `BuildResponse` of `internal/sip/message.go` copies,
  seen by a reader of the response: the Via values in order, From, To, Call-ID and CSeq.
Trusted boundary: Go visits a map in any order.
Main exports: Routing, routing, buildResponse_eq, statusLine_parses, response_copies_iff
-/
import Gossipper.Sip.Fields

namespace Gossipper.Sip

open Go List Option

section Names

variable [CaseTables]

/-- The values of the fields with one of some names, in any letter case. -/
def valuesOf (names : List String) (entries : List (Bytes × Bytes)) : List Bytes :=
  (entries.filter fun entry => names.any fun name => equalFold entry.1 (ascii name)).map Prod.snd

end Names

/-- What a response repeats of its request. -/
structure Routing where
  vias : List Bytes
  sender : Option Bytes
  recipient : Option Bytes
  callID : Option Bytes
  cseq : Option Bytes
deriving DecidableEq

/-- The routing headers among the fields of a message; each name but CSeq has a compact form. -/
def routing [CaseTables] (entries : List (Bytes × Bytes)) : Routing where
  vias := valuesOf ["Via", "v"] entries
  sender := (valuesOf ["From", "f"] entries).head?
  recipient := (valuesOf ["To", "t"] entries).head?
  callID := (valuesOf ["Call-ID", "i"] entries).head?
  cseq := (valuesOf ["CSeq"] entries).head?

/-! ### The fields of a response -/

section Response

variable [CaseTables]

/-- The Via values that `BuildResponse` finds under its three spellings. -/
def copiedVias (headers : Headers) : List Bytes :=
  ["Via", "via", "v"].flatMap fun key => headerValues headers (ascii key)

/-- The value that `writeHdr` finds. -/
def copiedValue (headers : Headers) (names : List String) : Option Bytes :=
  names.findSome? fun name => header headers (ascii name)

/-- The fields of a response by their names. -/
def responseGroups (headers : Headers) : List (String × List Bytes) :=
  [("Via", copiedVias headers),
    ("From", (copiedValue headers ["From", "f"]).toList),
    ("To", (copiedValue headers ["To", "t"]).toList),
    ("Call-ID", (copiedValue headers ["Call-ID", "i"]).toList),
    ("CSeq", (copiedValue headers ["CSeq"]).toList),
    ("Content-Length", [ascii "0"])]

/-- The fields of a response, in order. -/
def responseFields (headers : Headers) : List (Bytes × Bytes) :=
  (responseGroups headers).flatMap fun group => group.2.map fun value => (ascii group.1, value)

/-- The status line of a response. -/
def statusLine (statusCode : Int) (reason : Bytes) : Bytes :=
  ascii "SIP/2.0 " ++ itoa statusCode ++ ascii " " ++ reason

theorem copiedHeader_eq (headers : Headers) (name : String) (aliases : List String) :
    copiedHeader headers name aliases =
      ((copiedValue headers (name :: aliases)).toList.map fun value => (ascii name, value)).flatMap
        fieldText := by
  rw [copiedHeader, copiedValue]
  cases (name :: aliases).findSome? fun spelling => header headers (ascii spelling) with
  | none => rfl
  | some value => simp [fieldText]

theorem buildResponse_eq (req : Message) (statusCode : Int) (reason : Bytes) :
    buildResponse req statusCode reason =
      statusLine statusCode reason ++ crlf ++ (responseFields req.headers).flatMap fieldText ++
        crlf := by
  have vias : (copiedVias req.headers).flatMap (fun value => ascii "Via: " ++ value ++ crlf) =
      ((copiedVias req.headers).map fun value => (ascii "Via", value)).flatMap fieldText := by
    rw [flatMap_map]
    rfl
  have length : fieldText (ascii "Content-Length", ascii "0") =
      ascii "Content-Length: 0" ++ crlf := by decide
  have parts : buildResponse req statusCode reason =
      statusLine statusCode reason ++ crlf ++
        ((copiedVias req.headers).flatMap fun value => ascii "Via: " ++ value ++ crlf) ++
        copiedHeader req.headers "From" ["f"] ++ copiedHeader req.headers "To" ["t"] ++
        copiedHeader req.headers "Call-ID" ["i"] ++ copiedHeader req.headers "CSeq" [] ++
        ascii "Content-Length: 0" ++ crlf ++ crlf := rfl
  rw [parts, vias]
  simp [copiedHeader_eq, responseFields, responseGroups, flatMap_cons, flatMap_nil, flatMap_append,
    map_cons, map_nil, append_nil, append_assoc, length]

end Response

/-! ### The status line -/

variable {n : Nat}

theorem decimal_solid : ∀ b ∈ decimal n, b.toNat < 0x80 ∧ isSpace b.toNat = false := by
  intro b member
  obtain ⟨low, high⟩ := decimal_digit member
  have digits : ∀ k : Nat, k < 10 → isSpace (0x30 + k) = false := by decide
  have isDigit := digits (b.toNat - 0x30) (by omega)
  rw [Nat.add_sub_cancel' low] at isDigit
  exact ⟨by omega, isDigit⟩

variable {reason : Bytes}

theorem trimSpace_statusLine_blank (blank : trimSpace reason = []) :
    trimSpace (statusLine n reason) = ascii "SIP/2.0 " ++ decimal n := by
  have line : statusLine n reason = (ascii "SIP/2.0 " ++ decimal n) ++ space :: reason := by
    simp [statusLine, itoa_natCast, show ascii " " = [space] from rfl]
  have start : SolidStart (decimal n) := by
    cases digits : decimal n with
    | nil => exact decimal_ne_nil n digits
    | cons b rest => exact decimal_solid b (by rw [digits]; exact mem_cons_self ..)
  have parts : segments (statusLine n reason) =
      segments (ascii "SIP/2.0 " ++ decimal n) ++ segments (space :: reason) := by
    rw [line, segments_append (by simpa using (by decide : space.toNat < 0x80))]
  rw [trimSpace_of_segments parts, trimSpace_append (by decide) start, trimSpace_solid decimal_solid]
  rw [segments_ascii (by decide), forall_mem_cons]
  exact ⟨by decide, trimSpace_eq_nil_iff.mp blank⟩

theorem trimSpace_statusLine_filled (filled : trimSpace reason ≠ []) :
    ∃ rest, trimSpace (statusLine n reason) =
      ascii "SIP/2.0 " ++ (decimal n ++ space :: rest) := by
  have line : statusLine n reason = (ascii "SIP/2.0 " ++ decimal n ++ [space]) ++ reason := by
    simp [statusLine, itoa_natCast, show ascii " " = [space] from rfl]
  have small : ∀ b ∈ ascii "SIP/2.0 " ++ decimal n ++ [space], b.toNat < 0x80 := by
    intro b member
    rw [mem_append, mem_append] at member
    rcases member with (inStart | digit) | isSpace
    · revert b
      decide +kernel
    · exact (decimal_solid b digit).1
    · rw [mem_singleton.mp isSpace]
      decide
  rw [Ne, trimSpace_eq_nil_iff, not_forall] at filled
  obtain ⟨part, solid⟩ := filled
  obtain ⟨member, notSpace⟩ := Classical.not_imp.mp solid
  obtain ⟨before, after, split_⟩ := append_of_mem member
  have start : SolidStart (statusLine n reason) := by
    rw [line]
    exact ⟨by decide, by decide⟩
  refine ⟨textOf (before ++ part :: after.rdropWhile Segment.isSpace), ?_⟩
  rw [start.trimSpace, line, segments_ascii_append small, split_, ← append_assoc,
    rdropWhile_append_cons (Bool.eq_false_iff.mpr notSpace), append_assoc, textOf_append]
  have front : textOf ((ascii "SIP/2.0 " ++ decimal n ++ [space]).map
      fun b => { rune := b.toNat, bytes := [b] }) = ascii "SIP/2.0 " ++ decimal n ++ [space] := by
    rw [textOf, flatMap_map]
    exact flatMap_singleton' _
  rw [front]
  simp

theorem space_notMem_decimal : space ∉ decimal n := by
  intro member
  have digit := decimal_digit member
  exact absurd digit.1 (by decide)

theorem statusLine_blank_fails (blank : trimSpace reason = []) :
    (parseStartLine (statusLine n reason) .zero).2 ≠ none := by
  have uncut : cut (decimal n) space = none := by
    rw [← not_isSome_iff_eq_none, cut_isSome_iff]
    exact space_notMem_decimal
  have digits := length_pos_iff.mpr (decimal_ne_nil n)
  have long : 8 < (ascii "SIP/2.0 " ++ decimal n).length := by
    rw [length_append]
    exact Nat.lt_add_of_pos_right digits
  have head : (ascii "SIP/2.0 " ++ decimal n).take 8 = ascii "SIP/2.0 " := rfl
  have tail : (ascii "SIP/2.0 " ++ decimal n).drop 8 = decimal n := rfl
  simp only [parseStartLine, trimSpace_statusLine_blank blank]
  rw [if_neg (by simp [ascii]), if_pos ⟨long, head⟩, tail, uncut]
  simp

theorem statusLine_parses (fits : n < 2 ^ 63) (filled : trimSpace reason ≠ []) :
    (parseStartLine (statusLine n reason) .zero).2 = none ∧
      (parseStartLine (statusLine n reason) .zero).1.statusCode = n := by
  obtain ⟨rest, trimmed⟩ := trimSpace_statusLine_filled (n := n) filled
  have long : 8 < (ascii "SIP/2.0 " ++ (decimal n ++ space :: rest)).length := by
    rw [length_append]
    refine Nat.lt_add_of_pos_right ?_
    rw [length_append, length_cons]
    omega
  have head : (ascii "SIP/2.0 " ++ (decimal n ++ space :: rest)).take 8 = ascii "SIP/2.0 " := rfl
  have tail : (ascii "SIP/2.0 " ++ (decimal n ++ space :: rest)).drop 8 =
      decimal n ++ space :: rest := rfl
  simp only [parseStartLine, trimmed]
  rw [if_neg (by simp [ascii]), if_pos ⟨long, head⟩, tail, cut_append space_notMem_decimal]
  simp only [atoi_decimal fits]
  exact ⟨trivial, trivial⟩

/-! ### The copied fields -/

/-- The group of the only name that is chosen. -/
theorem filter_group {groups : List (String × List Bytes)} {p : String → Bool} {name : String}
    {values : List Bytes} (member : (name, values) ∈ groups)
    (chosen : (groups.map Prod.fst).filter p = [name]) :
    (groups.filter fun group => p group.1) = [(name, values)] := by
  rw [List.filter_map] at chosen
  obtain ⟨group, one, isName⟩ := map_eq_singleton_iff.mp chosen
  have holds : p name = true := by
    have inside : name ∈ (groups.map Prod.fst).filter p := by
      rw [List.filter_map, chosen]
      exact mem_singleton.mpr rfl
    exact (mem_filter.mp inside).2
  have same : (name, values) ∈ groups.filter (p ∘ Prod.fst) := mem_filter.mpr ⟨member, holds⟩
  rw [one] at same
  rw [mem_singleton.mp same]
  exact one

theorem copiedVias_eq (holds : Holds headers entries) :
    copiedVias headers = ["Via", "via", "v"].flatMap fun key =>
      (entries.filter fun entry => entry.1 = ascii key).map Prod.snd := by
  simp [copiedVias, holds.values]

theorem mem_of_copiedVias (holds : Holds order entries) (member : value ∈ copiedVias order) :
    ∃ key, (key, value) ∈ entries := by
  rw [copiedVias_eq holds] at member
  obtain ⟨spelling, _, inside⟩ := mem_flatMap.mp member
  obtain ⟨entry, kept, rfl⟩ := List.mem_map.mp inside
  exact ⟨entry.1, mem_of_mem_filter kept⟩

section Copies

variable [CaseTables]

/-- The values found under a list of names are always `expected`: every spelling of the first name
that occurs has it first, and if none occurs the same holds of the names behind. -/
def CopiesFirst (entries : List (Bytes × Bytes)) (expected : Option Bytes) : List String → Prop
  | [] => expected = none
  | name :: rest =>
    (∀ key value, entries.lookup key = some value → equalFold key (ascii name) = true →
      expected = some value) ∧
    ((∀ key value, entries.lookup key = some value → equalFold key (ascii name) = false) →
      CopiesFirst entries expected rest)

variable {entries : List (Bytes × Bytes)}

theorem copiedValue_iff
    (holds : Holds headers entries) (expected : Option Bytes) (names : List String) :
    (∀ order : Headers, order.Perm headers → copiedValue order names = expected) ↔
      CopiesFirst entries expected names := by
  induction names with
  | nil =>
    simp only [copiedValue, findSome?_nil, CopiesFirst]
    exact ⟨fun always => (always headers (.refl _)).symm, fun isNone _ _ => isNone.symm⟩
  | cons name rest ih =>
    have found {order : Headers} {value : Bytes} (answered : header order (ascii name) = some value) :
        copiedValue order (name :: rest) = some value := by
      rw [copiedValue, findSome?_cons, answered]
    have skipped {order : Headers} (missing : header order (ascii name) = none) :
        copiedValue order (name :: rest) = copiedValue order rest := by
      rw [copiedValue, findSome?_cons, missing]
      rfl
    constructor
    · intro always
      refine ⟨?_, ?_⟩
      · intro key value first folds
        obtain ⟨order, visits, answered⟩ := holds.header_choice folds first
        rw [← always order visits, found answered]
      · intro absent
        refine ih.mp ?_
        intro order visits
        rw [← skipped ((holds.header_none visits).mpr absent)]
        exact always order visits
    · rintro ⟨present, others⟩ order visits
      cases answered : header order (ascii name) with
      | some value =>
        obtain ⟨key, folds, first⟩ := holds.header_some visits answered
        rw [found answered, present key value first folds]
      | none =>
        have absent := (holds.header_none visits).mp answered
        rw [skipped answered]
        exact ih.mpr (others absent) order visits

/-- The condition from a test of each field. -/
theorem copiesFirst_cons
    (each : ∀ entry ∈ entries, equalFold entry.1 (ascii name) = true → expected = some entry.2)
    (others : (∃ entry ∈ entries, equalFold entry.1 (ascii name) = true) ∨
      CopiesFirst entries expected rest) :
    CopiesFirst entries expected (name :: rest) := by
  refine ⟨?_, ?_⟩
  · intro key value first folds
    exact each (key, value) (mem_of_lookup first) folds
  · intro absent
    rcases others with ⟨entry, member, folds⟩ | behind
    · cases first : entries.lookup entry.1 with
      | none => exact absurd rfl (bne_iff_ne.mp (lookup_eq_none_iff.mp first entry member))
      | some value => exact absurd folds (by simp [absent entry.1 value first])
    · exact behind

/-- Two names in ASCII are the same up to letter case. -/
def sameName (name other : String) : Bool :=
  (ascii name).map (fun b => asciiLower b.toNat) == (ascii other).map fun b => asciiLower b.toNat

theorem valuesOf_groups (names : List String) (groups : List (String × List Bytes))
    (small : ∀ name ∈ names, (ascii name).all (·.toNat < 0x80) = true)
    (groupSmall : ∀ group ∈ groups, (ascii group.1).all (·.toNat < 0x80) = true) :
    valuesOf names (groups.flatMap fun group => group.2.map fun value => (ascii group.1, value)) =
      (groups.filter fun group => names.any fun name => sameName group.1 name).flatMap Prod.snd := by
  induction groups with
  | nil => rfl
  | cons group rest ih =>
    rw [forall_mem_cons] at groupSmall
    have others := ih groupSmall.2
    have matched : (names.any fun name => equalFold (ascii group.1) (ascii name)) =
        names.any fun name => sameName group.1 name := by
      rw [Bool.eq_iff_iff, List.any_eq_true, List.any_eq_true]
      refine exists_congr fun name => and_congr_right fun member => ?_
      rw [equalFold, foldKey_of_ascii groupSmall.1, foldKey_of_ascii (small name member), sameName]
    rw [valuesOf] at others ⊢
    rw [flatMap_cons, filter_append, map_append, others, List.filter_map,
      filter_cons, List.map_map]
    have constant : ((fun entry : Bytes × Bytes => names.any fun name =>
        equalFold entry.1 (ascii name)) ∘ fun value : Bytes => (ascii group.1, value)) =
        fun _ => names.any fun name => sameName group.1 name := by
      funext value
      exact matched
    rw [constant]
    cases names.any fun name => sameName group.1 name with
    | true => simp [Function.comp_def]
    | false => simp

/-- What a reader of a response finds. -/
theorem routing_responseFields (headers : Headers) :
    routing (responseFields headers) =
      { vias := copiedVias headers
        sender := copiedValue headers ["From", "f"]
        recipient := copiedValue headers ["To", "t"]
        callID := copiedValue headers ["Call-ID", "i"]
        cseq := copiedValue headers ["CSeq"] } := by
  have found (names : List String) (name : String) (values : List Bytes)
      (small : ∀ name ∈ names, (ascii name).all (·.toNat < 0x80) = true)
      (member : (name, values) ∈ responseGroups headers)
      (chosen : ["Via", "From", "To", "Call-ID", "CSeq", "Content-Length"].filter (fun other =>
        names.any fun name => sameName other name) = [name]) :
      valuesOf names (responseFields headers) = values := by
    have groupSmall : ∀ other ∈ responseGroups headers,
        (ascii other.1).all (·.toNat < 0x80) = true := by
      simp only [responseGroups, forall_mem_cons]
      decide +revert
    rw [responseFields, valuesOf_groups names _ small groupSmall, filter_group member chosen,
      flatMap_singleton]
  rw [routing,
    found ["Via", "v"] "Via" (copiedVias headers) (by decide) (by simp [responseGroups]) (by decide),
    found ["From", "f"] "From" (copiedValue headers ["From", "f"]).toList (by decide)
      (by simp [responseGroups]) (by decide),
    found ["To", "t"] "To" (copiedValue headers ["To", "t"]).toList (by decide)
      (by simp [responseGroups]) (by decide),
    found ["Call-ID", "i"] "Call-ID" (copiedValue headers ["Call-ID", "i"]).toList (by decide)
      (by simp [responseGroups]) (by decide),
    found ["CSeq"] "CSeq" (copiedValue headers ["CSeq"]).toList (by decide)
      (by simp [responseGroups]) (by decide)]
  simp [head?_toList]

/-! ### Requests whose routing headers are copied -/

/-- `BuildResponse` finds every Via value, in the order of the fields. -/
def CopiesVias (entries : List (Bytes × Bytes)) : Prop :=
  (["Via", "via", "v"].flatMap fun key =>
    (entries.filter fun entry => entry.1 = ascii key).map Prod.snd) = valuesOf ["Via", "v"] entries

theorem mem_of_copiedValue (holds : Holds order entries)
    (member : value ∈ (copiedValue order names).toList) : ∃ key, (key, value) ∈ entries := by
  obtain ⟨name, _, answered⟩ := exists_of_findSome?_eq_some (mem_toList.mp member)
  obtain ⟨key, _, first⟩ := holds.header_some (.refl order) answered
  exact ⟨key, mem_of_lookup first⟩

theorem responseFields_writable
    (holds : Holds order (headerEntries raw)) : ∀ entry ∈ responseFields order, Writable entry := by
  have writable (name : String) (value : Bytes)
      (noColon : colon ∉ ascii name ∧ lf ∉ ascii name ∧ trimSpace (ascii name) = ascii name)
      (good : trimSpace value = value ∧ lf ∉ value) : Writable (ascii name, value) :=
    ⟨noColon.1, noColon.2.1, good.2, noColon.2.2, good.1⟩
  have copied {value : Bytes} (known : ∃ key, (key, value) ∈ headerEntries raw) :
      trimSpace value = value ∧ lf ∉ value := by
    obtain ⟨key, member⟩ := known
    exact headerEntries_value member
  have zero : trimSpace (ascii "0") = ascii "0" ∧ lf ∉ ascii "0" := by decide
  intro entry member
  simp only [responseFields, responseGroups, flatMap_cons, flatMap_nil, append_nil,
    mem_append, List.mem_map, mem_singleton] at member
  rcases member with ⟨value, inside, rfl⟩ | ⟨value, inside, rfl⟩ | ⟨value, inside, rfl⟩ |
    ⟨value, inside, rfl⟩ | ⟨value, inside, rfl⟩ | ⟨value, rfl, rfl⟩
  · exact writable "Via" value (by decide) (copied (mem_of_copiedVias holds inside))
  · exact writable "From" value (by decide) (copied (mem_of_copiedValue holds inside))
  · exact writable "To" value (by decide) (copied (mem_of_copiedValue holds inside))
  · exact writable "Call-ID" value (by decide) (copied (mem_of_copiedValue holds inside))
  · exact writable "CSeq" value (by decide) (copied (mem_of_copiedValue holds inside))
  · exact writable "Content-Length" _ (by decide) zero

/-- A response with a reason is read back. -/
theorem response_read {raw : Bytes} {req : Message} (holds : Holds req.headers (headerEntries raw))
    {n : Nat} (fits : n < 2 ^ 63) {reason : Bytes} (oneLine : lf ∉ statusLine n reason)
    (filled : trimSpace reason ≠ []) :
    ∃ resp, parse (buildResponse req n reason) = .ok resp ∧ resp.statusCode = n ∧
      headerEntries (buildResponse req n reason) = responseFields req.headers := by
  obtain ⟨starts, status⟩ := statusLine_parses fits filled
  obtain ⟨m, text, entries, start⟩ :=
    exists_spelled oneLine starts (responseFields_writable holds)
  obtain ⟨resp, succeeds, -⟩ := parseInto_text m .zero
  have parsed : parseBytes m.text .zero = (resp, none) := succeeds
  have kind := parseBytes_kind rfl parsed
  rw [SpelledMessage.text, firstLine_line, start] at kind
  rw [buildResponse_eq, ← text]
  refine ⟨resp, ?_, ?_, ?_⟩
  · rw [parse, parsed]
  · exact (congrArg Prod.snd kind).trans status
  · rw [headerEntries_text, entries]

/-- A response without a reason is not. -/
theorem response_blank {req resp : Message} {n : Nat} {reason : Bytes}
    (oneLine : lf ∉ statusLine n reason) (blank : trimSpace reason = [])
    (parsed : parse (buildResponse req n reason) = .ok resp) : False := by
  have starts := parse_startLine parsed
  have line : lf ∉ statusLine n reason ++ [cr] := by
    rw [mem_append, not_or]
    exact ⟨oneLine, lf_notMem_cr⟩
  have text : buildResponse req n reason = statusLine n reason ++ [cr] ++
      lf :: ((responseFields req.headers).flatMap fieldText ++ crlf) := by
    rw [buildResponse_eq]
    simp
  have first : firstLine (buildResponse req n reason) = statusLine n reason := by
    rw [text, firstLine_line ⟨_, line⟩, trimSuffix_append]
  rw [first] at starts
  exact statusLine_blank_fails blank starts

/-- The copies are right in every order of the map exactly when each header is. -/
theorem routing_copied_iff {headers : Headers} (holds : Holds headers entries) :
    (∀ order : Headers, order.Perm headers → routing (responseFields order) = routing entries) ↔
      CopiesVias entries ∧ CopiesFirst entries (routing entries).sender ["From", "f"] ∧
        CopiesFirst entries (routing entries).recipient ["To", "t"] ∧
        CopiesFirst entries (routing entries).callID ["Call-ID", "i"] ∧
        CopiesFirst entries (routing entries).cseq ["CSeq"] := by
  have vias : CopiesVias entries ↔
      ∀ order : Headers, order.Perm headers → copiedVias order = (routing entries).vias := by
    constructor
    · intro copies order visits
      exact (copiedVias_eq (holds.perm visits)).trans copies
    · intro always
      exact (copiedVias_eq holds).symm.trans (always headers (.refl headers))
  rw [vias, ← copiedValue_iff holds, ← copiedValue_iff holds, ← copiedValue_iff holds,
    ← copiedValue_iff holds]
  constructor
  · intro always
    have components (order : Headers) (visits : order.Perm headers) :=
      (routing_responseFields order).symm.trans (always order visits)
    refine ⟨?_, ?_, ?_, ?_, ?_⟩ <;> intro order visits <;> rw [← components order visits]
  · rintro ⟨copiesVias, sender, recipient, callID, cseq⟩ order visits
    rw [routing_responseFields, copiesVias order visits, sender order visits,
      recipient order visits, callID order visits, cseq order visits]

/-- The response to a message that parses has its code and repeats its routing headers, whatever
order the header map is visited in, exactly when the reason is not blank, the Via fields stand in
the order `Via`, `via`, `v` and in no other spelling, and From, To, Call-ID and CSeq are found
under each spelling that may be visited first as they stand first in the message. -/
theorem response_copies_iff {raw : Bytes} {req : Message} {statusCode : Int} {reason : Bytes}
    (parsed : parse raw = .ok req) (threeDigits : 100 ≤ statusCode ∧ statusCode ≤ 999)
    (oneLine : lf ∉ reason) :
    (∀ order : Headers, order.Perm req.headers →
      ∃ resp, parse (buildResponse { req with headers := order } statusCode reason) = .ok resp ∧
        resp.statusCode = statusCode ∧
        routing (headerEntries (buildResponse { req with headers := order } statusCode reason)) =
          routing (headerEntries raw)) ↔
      trimSpace reason ≠ [] ∧ CopiesVias (headerEntries raw) ∧
        CopiesFirst (headerEntries raw) (routing (headerEntries raw)).sender ["From", "f"] ∧
        CopiesFirst (headerEntries raw) (routing (headerEntries raw)).recipient ["To", "t"] ∧
        CopiesFirst (headerEntries raw) (routing (headerEntries raw)).callID ["Call-ID", "i"] ∧
        CopiesFirst (headerEntries raw) (routing (headerEntries raw)).cseq ["CSeq"] := by
  obtain ⟨n, rfl⟩ := Int.eq_ofNat_of_zero_le (Int.le_trans (by decide) threeDigits.1)
  have fits : n < 2 ^ 63 := by omega
  have line : lf ∉ statusLine n reason := by
    simp only [statusLine, itoa_natCast, mem_append, not_or]
    refine ⟨⟨⟨by decide, ?_⟩, by decide⟩, oneLine⟩
    intro member
    exact absurd (decimal_digit member).1 (by decide)
  have holds := parse_holds parsed
  rw [← routing_copied_iff holds]
  constructor
  · intro always
    have filled : trimSpace reason ≠ [] := by
      intro blank
      obtain ⟨resp, read, -⟩ := always req.headers (.refl _)
      exact response_blank line blank read
    refine ⟨filled, ?_⟩
    intro order visits
    obtain ⟨-, -, -, same⟩ := always order visits
    have atOrder : Holds ({ req with headers := order } : Message).headers (headerEntries raw) :=
      holds.perm visits
    obtain ⟨-, -, -, entries⟩ := response_read atOrder fits line filled
    rw [← same, entries]
  · rintro ⟨filled, copies⟩ order visits
    have atOrder : Holds ({ req with headers := order } : Message).headers (headerEntries raw) :=
      holds.perm visits
    obtain ⟨resp, read, status, entries⟩ := response_read atOrder fits line filled
    exact ⟨resp, read, status, by rw [entries]; exact copies order visits⟩

end Copies

section Examples

attribute [local instance] CaseTables.asciiOnly

/-- A BYE with two Via fields, the upper one under a name of our choice. -/
def byeRequest (via : String) : Bytes :=
  ascii "BYE sip:b SIP/2.0\r\n" ++ ascii via ++ ascii ": SIP/2.0/UDP p\r\n" ++
    ascii "Via: SIP/2.0/UDP a\r\nf: <sip:a>;tag=1\r\nTo: <sip:b>\r\n" ++
    ascii "Call-ID: x\r\nCSeq: 2 BYE\r\n\r\n"

/-- The fields of the request. -/
def byeEntries : List (Bytes × Bytes) :=
  [(ascii "Via", ascii "SIP/2.0/UDP p"), (ascii "Via", ascii "SIP/2.0/UDP a"),
    (ascii "f", ascii "<sip:a>;tag=1"), (ascii "To", ascii "<sip:b>"),
    (ascii "Call-ID", ascii "x"), (ascii "CSeq", ascii "2 BYE")]

theorem bye_copied :
    ∃ req, parse (byeRequest "Via") = .ok req ∧
      ∀ order : Headers, order.Perm req.headers →
        ∃ resp, parse (buildResponse { req with headers := order } 200 (ascii "OK")) = .ok resp ∧
          resp.statusCode = 200 ∧
          routing (headerEntries (buildResponse { req with headers := order } 200 (ascii "OK"))) =
            routing (headerEntries (byeRequest "Via")) := by
  have succeeds : (parseBytes (byeRequest "Via") .zero).2 = none := by decide +kernel
  have parsed : parse (byeRequest "Via") = .ok (parseBytes (byeRequest "Via") .zero).1 := by
    rw [parse, show parseBytes (byeRequest "Via") .zero = (_, none) from Prod.ext rfl succeeds]
  have entries : headerEntries (byeRequest "Via") = byeEntries := by decide +kernel
  refine ⟨_, parsed, (response_copies_iff parsed (by decide) (by decide)).mpr ?_⟩
  rw [entries]
  refine ⟨by decide +kernel, ?_, ?_, ?_, ?_, ?_⟩
  · rw [CopiesVias]
    decide +kernel
  · exact copiesFirst_cons (by decide +kernel) (.inr (copiesFirst_cons (by decide +kernel)
      (.inl (by decide +kernel))))
  · exact copiesFirst_cons (by decide +kernel) (.inl (by decide +kernel))
  · exact copiesFirst_cons (by decide +kernel) (.inl (by decide +kernel))
  · exact copiesFirst_cons (by decide +kernel) (.inl (by decide +kernel))

/-- A Via in capital letters is missing in the response. -/
theorem capital_via_lost :
    (routing (headerEntries (byeRequest "VIA"))).vias =
        [ascii "SIP/2.0/UDP p", ascii "SIP/2.0/UDP a"] ∧
      (parse (byeRequest "VIA")).toOption.map (fun req =>
          (routing (headerEntries (buildResponse req 200 (ascii "OK")))).vias) =
        some [ascii "SIP/2.0/UDP a"] := by
  decide +kernel

end Examples

end Gossipper.Sip
