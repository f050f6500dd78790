/-
Module: Gossipper.Engine.RouteSet
Purpose: The Route headers that a call builds from the Record-Route headers of a message
  (`rrs`), after `buildRouteHeaders` in `internal/engine/engine.go`, and the route set that a
  reader of the two kinds of headers finds in them.
Trusted boundary: Go visits a map in any order.
Main exports: elements, buildRouteHeaders, recordRoutes, readRoutes, routes_reversed_iff
-/
import Gossipper.Engine.CommandBus
import Gossipper.Sip.Fields

namespace Gossipper.Engine.RouteSet

open Go Sip CommandBus List Option

/-! ### Lists in a header value -/

/-- Where a reader of a comma-separated list stands: outside, in a quoted string, behind a
backslash there, or between angle brackets. -/
inductive Place where
  | outside
  | quoted
  | escaped
  | bracketed
deriving DecidableEq, Repr

/-- The place behind a byte that does not separate. -/
def Place.next : Place → UInt8 → Place
  | .outside, b => if b = 0x22 then .quoted else if b = 0x3C then .bracketed else .outside
  | .quoted, b => if b = 0x5C then .escaped else if b = 0x22 then .outside else .quoted
  | .escaped, _ => .quoted
  | .bracketed, b => if b = 0x3E then .outside else .bracketed

/-- A comma outside of quotes and brackets separates. -/
def separates (place : Place) (b : UInt8) : Bool :=
  place = .outside && b = 0x2C

/-- The parts of a list. -/
def parts : Place → Bytes → Bytes → List Bytes
  | _, part, [] => [part.reverse]
  | place, part, b :: rest =>
    if separates place b then part.reverse :: parts .outside [] rest
    else parts (place.next b) (b :: part) rest

/-- The entries of a list in a header value. -/
def elements (value : Bytes) : List Bytes :=
  ((parts .outside [] value).map trimSpace).filter (· ≠ [])

/-! ### Reversing blocks -/

variable {α β : Type} {xs : List α}

theorem flatMap_inj {f g : α → List β} (same : ∀ x, (f x).length = (g x).length)
    (equal : xs.flatMap f = xs.flatMap g) : ∀ x ∈ xs, f x = g x := by
  induction xs with
  | nil => simp
  | cons x rest ih =>
    rw [flatMap_cons, flatMap_cons] at equal
    obtain ⟨first, others⟩ := append_inj equal (same x)
    exact forall_mem_cons.mpr ⟨first, ih others⟩

theorem flatMap_filter {f : α → List β} {p : α → Bool}
    (empty : ∀ x ∈ xs, p x = false → f x = []) : (xs.filter p).flatMap f = xs.flatMap f := by
  induction xs with
  | nil => rfl
  | cons x rest ih =>
    rw [forall_mem_cons] at empty
    cases chosen : p x with
    | true => rw [filter_cons_of_pos chosen, flatMap_cons, flatMap_cons,
        ih empty.2]
    | false => rw [filter_cons_of_neg (by simp [chosen]), flatMap_cons,
        empty.1 chosen, nil_append, ih empty.2]

theorem empty_of_length {f : α → List β} {p : α → Bool}
    (short : (xs.flatMap f).length ≤ ((xs.filter p).flatMap f).length) :
    ∀ x ∈ xs, p x = false → f x = [] := by
  have total : ((xs.filter p).flatMap f).length +
      ((xs.filter fun x => !p x).flatMap f).length = (xs.flatMap f).length := by
    rw [← length_append, ← flatMap_append]
    exact ((filter_append_perm p xs).flatMap_right f).length_eq
  have none_ : (xs.filter fun x => !p x).flatMap f = [] := length_eq_zero_iff.mp (by omega)
  intro x member notChosen
  exact flatMap_eq_nil_iff.mp none_ x (mem_filter.mpr ⟨member, by simp [notChosen]⟩)

/-- The chosen blocks in reverse order are the reverse of all blocks exactly when the others
are empty and each chosen one is its own reverse. -/
theorem reverse_blocks_iff (f : α → List β) (p : α → Bool) (xs : List α) :
    (xs.filter p).reverse.flatMap f = (xs.flatMap f).reverse ↔
      ∀ x ∈ xs, if p x then f x = (f x).reverse else f x = [] := by
  have reversed (ys : List α) :
      (ys.flatMap f).reverse = ys.reverse.flatMap fun x => (f x).reverse := by
    rw [reverse_flatMap]
    rfl
  constructor
  · intro equal
    have empty : ∀ x ∈ xs, p x = false → f x = [] := by
      apply empty_of_length
      have lengths := congrArg List.length equal
      rw [length_reverse] at lengths
      rw [← lengths]
      exact Nat.le_of_eq ((reverse_perm _).flatMap_right f).length_eq
    rw [← flatMap_filter empty, reversed] at equal
    have own := flatMap_inj (fun x => by rw [length_reverse]) equal
    intro x member
    cases chosen : p x with
    | true => exact own x (mem_reverse.mpr (mem_filter.mpr ⟨member, chosen⟩))
    | false => exact empty x member chosen
  · intro blocks
    have empty : ∀ x ∈ xs, p x = false → f x = [] := by
      intro x member notChosen
      simpa [notChosen] using blocks x member
    rw [← flatMap_filter empty, reversed]
    apply flatMap_congr
    intro x member
    obtain ⟨inside, chosen⟩ := mem_filter.mp (mem_reverse.mp member)
    simpa [chosen] using blocks x inside

/-! ### Route headers -/

/-- A line of `buildRouteHeaders`. -/
def routeLine (value : Bytes) : Option Bytes :=
  let value := trimSpace value
  if value = [] then none else some (ascii "Route: " ++ value)

/-- The lines of `buildRouteHeaders`. -/
def routeLines (values : List Bytes) : List Bytes :=
  values.reverse.filterMap routeLine

theorem routeLine_eq (trimmed : trimSpace value = value) :
    routeLine value = if value = [] then none else some (ascii "Route: " ++ value) := by
  rw [routeLine, trimmed]

/-- The Route entries of a header line. -/
def lineRoutes (line : Bytes) : List Bytes :=
  match fieldEntry line with
  | some (name, value) => if name = ascii "Route" then elements value else []
  | none => []

/-- The Route entries of header lines, in order. -/
def readRoutes (text : Bytes) : List Bytes :=
  (split text crlf).flatMap lineRoutes

theorem lineRoutes_route (trimmed : trimSpace value = value) :
    lineRoutes (ascii "Route: " ++ value) = elements value := by
  have line : ascii "Route: " ++ value = ascii "Route" ++ colon :: space :: value := rfl
  have name : trimSpace (ascii "Route") = ascii "Route" := trimSpace_solid (by decide +kernel)
  rw [lineRoutes, fieldEntry, line, cut_append (by decide), map_some]
  simp only [name, if_true]
  rw [trimSpace_cons_space (by decide) (by decide), trimmed]

theorem readRoutes_join (noLF : ∀ line ∈ lines, lf ∉ line) :
    readRoutes (join lines crlf) = lines.flatMap lineRoutes := by
  cases lines with
  | nil => decide
  | cons line rest => rw [readRoutes, split_join (cons_ne_nil line rest) noLF]

/-- What a reader finds in the lines of `buildRouteHeaders`. -/
theorem readRoutes_routeLines (trimmed : ∀ value ∈ values, trimSpace value = value)
    (noLF : ∀ value ∈ values, lf ∉ value) :
    readRoutes (join (routeLines values) crlf) = values.reverse.flatMap elements := by
  have lines : ∀ line ∈ routeLines values, lf ∉ line := by
    intro line member
    obtain ⟨value, isValue, made⟩ := mem_filterMap.mp member
    have inside := mem_reverse.mp isValue
    rw [routeLine_eq (trimmed value inside)] at made
    split at made
    · cases made
    · cases made
      rw [mem_append, not_or]
      exact ⟨by decide, noLF value inside⟩
  rw [readRoutes_join lines, routeLines]
  have inReverse : ∀ value ∈ values.reverse, trimSpace value = value := fun value member =>
    trimmed value (mem_reverse.mp member)
  generalize values.reverse = ordered at inReverse
  induction ordered with
  | nil => rfl
  | cons value rest ih =>
    rw [forall_mem_cons] at inReverse
    have others := ih inReverse.2
    by_cases blank : value = []
    · have skipped : routeLine value = none := by rw [routeLine_eq inReverse.1, if_pos blank]
      rw [filterMap_cons_none skipped, others, blank]
      rfl
    · have made : routeLine value = some (ascii "Route: " ++ value) := by
        rw [routeLine_eq inReverse.1, if_neg blank]
      rw [filterMap_cons_some made, flatMap_cons, flatMap_cons,
        lineRoutes_route inReverse.1, others]

theorem headerValues_of_mem {headers} (isMap : IsMap headers) {key values} (member : (key, values) ∈ headers) :
    headerValues headers key = values := by
  by_cases nonempty : values = []
  · by_contra other
    rw [nonempty] at member other
    have found := (mem_iff_headerValues isMap other).mpr rfl
    have same := inj_on_of_nodup_map isMap member found rfl
    exact other (congrArg Prod.snd same).symm
  · exact (mem_iff_headerValues isMap nonempty).mp member

theorem exists_order (member : entry ∈ headers) :
    ∃ order : MapOrder, order.arrange headers = entry :: headers.erase entry := by
  refine ⟨⟨fun map => if map = headers then entry :: headers.erase entry else map, ?_⟩, if_pos rfl⟩
  intro map
  split
  · rename_i isHeaders
    rw [isHeaders]
    exact (perm_cons_erase member).symm
  · exact .refl map

section Routes

variable [CaseTables]

/-- `buildRouteHeaders`. -/
def buildRouteHeaders (order : MapOrder) (headers : Headers) : Bytes :=
  match lookupHeaderCI order headers (ascii "Record-Route") with
  | none => []
  | some values => if values = [] then [] else join (routeLines values) crlf

/-- A Record-Route field. -/
def isRecordRoute (entry : Bytes × Bytes) : Bool :=
  equalFold entry.1 (ascii "Record-Route")

/-- The Record-Route entries of a message, in order. -/
def recordRoutes (raw : Bytes) : List Bytes :=
  ((headerEntries raw).filter isRecordRoute).flatMap fun entry => elements entry.2

/-- The Route entries, when the values under one spelling are found. -/
theorem readRoutes_found {raw headers}
    (holds : Holds headers (headerEntries raw)) {order key values} (member : (key, values) ∈ headers)
    (folds : equalFold key (ascii "Record-Route") = true)
    (found : lookupHeaderCI order headers (ascii "Record-Route") = some values) :
    readRoutes (buildRouteHeaders order headers) =
      (((headerEntries raw).filter isRecordRoute).filter fun entry => entry.1 = key).reverse.flatMap
        fun entry => elements entry.2 := by
  have chosen : ((headerEntries raw).filter isRecordRoute).filter (fun entry => entry.1 = key) =
      (headerEntries raw).filter fun entry => entry.1 = key := by
    rw [List.filter_filter]
    apply filter_congr
    intro entry _
    by_cases here : entry.1 = key
    · simp [isRecordRoute, here, folds]
    · simp [here]
  have list : values = ((headerEntries raw).filter fun entry => entry.1 = key).map Prod.snd := by
    rw [← holds.values, headerValues_of_mem holds.isMap member]
  have good : ∀ value ∈ values, trimSpace value = value ∧ lf ∉ value := by
    intro value isValue
    rw [list] at isValue
    obtain ⟨entry, inside, rfl⟩ := List.mem_map.mp isValue
    exact headerEntries_value (mem_of_mem_filter inside)
  have read := readRoutes_routeLines (fun value inside => (good value inside).1)
    fun value inside => (good value inside).2
  have text : buildRouteHeaders order headers = join (routeLines values) crlf := by
    simp only [buildRouteHeaders, found]
    split
    · rename_i empty
      rw [empty]
      rfl
    · rfl
  rw [text, read, chosen, list, ← map_reverse, flatMap_map]

/-- Whatever order the header map is visited in, the Route entries are the Record-Route entries in
reverse order exactly when, for every spelling of Record-Route in the map, the lines under it hold
lists that are their own reverse, and the lines under other spellings hold nothing. -/
theorem routes_reversed_iff {raw : Bytes} {pooled msg : Message} (isMap : IsMap pooled.headers)
    (parsed : parseInto pooled raw = (msg, none)) :
    (∀ order : MapOrder, readRoutes (buildRouteHeaders order msg.headers) =
        (recordRoutes raw).reverse) ↔
      ∀ key ∈ msg.headers.map Prod.fst, equalFold key (ascii "Record-Route") = true →
        ∀ entry ∈ headerEntries raw, isRecordRoute entry = true →
          if entry.1 = key then elements entry.2 = (elements entry.2).reverse
          else elements entry.2 = [] := by
  have holds := parseBytes_holds (holds_cleared isMap) parsed
  have blocks (key : Bytes) := reverse_blocks_iff (fun entry : Bytes × Bytes => elements entry.2)
    (fun entry => entry.1 = key) ((headerEntries raw).filter isRecordRoute)
  constructor
  · intro always key inMap folds entry inside isRoute
    obtain ⟨⟨_, values⟩, member, rfl⟩ := List.mem_map.mp inMap
    obtain ⟨order, first⟩ := exists_order member
    have found : lookupHeaderCI order msg.headers (ascii "Record-Route") = some values := by
      rw [lookupHeaderCI, first, find?_cons_of_pos (p := fun entry : Bytes × List Bytes =>
        equalFold entry.1 (ascii "Record-Route")) folds, map_some]
    have reversed := always order
    rw [readRoutes_found holds member folds found, recordRoutes, blocks] at reversed
    simpa using reversed entry (mem_filter.mpr ⟨inside, isRoute⟩)
  · intro lines order
    cases found : lookupHeaderCI order msg.headers (ascii "Record-Route") with
    | none =>
      have absent : (headerEntries raw).filter isRecordRoute = [] := by
        rw [filter_eq_nil_iff]
        intro entry inside isRoute
        obtain ⟨values, member⟩ := holds.exists_values inside
        have visited := (order.perm msg.headers).mem_iff.mpr member
        exact find?_eq_none.mp (map_eq_none_iff.mp found) _ visited isRoute
      rw [buildRouteHeaders, found, recordRoutes, absent]
      decide
    | some values =>
      obtain ⟨⟨key, _⟩, first, rfl⟩ := map_eq_some_iff.mp found
      have folds := find?_some first
      have member := (order.perm msg.headers).mem_iff.mp (mem_of_find?_eq_some first)
      rw [readRoutes_found holds member folds found, recordRoutes, blocks]
      intro entry inside
      obtain ⟨inRaw, isRoute⟩ := mem_filter.mp inside
      simpa using lines key (List.mem_map.mpr ⟨_, member, rfl⟩) folds entry inRaw isRoute

end Routes

section Examples

attribute [local instance] CaseTables.asciiOnly

/-- A response with the Record-Route lines of a text. -/
def answer (recordRoutes : String) : Bytes :=
  ascii "SIP/2.0 200 OK\r\n" ++ ascii recordRoutes ++ ascii "\r\n\r\n"

/-- Two proxies, each on a line of its own. -/
def onTwoLines : Bytes :=
  answer "Record-Route: <sip:p2;lr>\r\nRecord-Route: <sip:p1;lr>"

/-- The same two proxies on one line. -/
def onOneLine : Bytes :=
  answer "Record-Route: <sip:p2;lr>, <sip:p1;lr>"

theorem twoLines_reversed :
    ∃ msg, parseInto .zero onTwoLines = (msg, none) ∧
      ∀ order : MapOrder, readRoutes (buildRouteHeaders order msg.headers) =
        (recordRoutes onTwoLines).reverse := by
  have isMap : IsMap Message.zero.headers := nodup_nil
  have parsed : (parseInto .zero onTwoLines).2 = none := by decide +kernel
  refine ⟨(parseInto .zero onTwoLines).1, Prod.ext rfl parsed, ?_⟩
  refine (routes_reversed_iff isMap (Prod.ext rfl parsed)).mpr ?_
  decide +kernel

/-- The entries of one line keep their order. -/
theorem oneLine_not_reversed :
    (parseInto .zero onOneLine).2 = none ∧
      recordRoutes onOneLine = [ascii "<sip:p2;lr>", ascii "<sip:p1;lr>"] ∧
      readRoutes (buildRouteHeaders .insertion (parseInto .zero onOneLine).1.headers) =
        [ascii "<sip:p2;lr>", ascii "<sip:p1;lr>"] := by
  decide +kernel

end Examples

end Gossipper.Engine.RouteSet
