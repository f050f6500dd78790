/-
Module: Gossipper.Media.Sdp
Purpose: The endpoint that is read from the sections of an SDP body, after
  `internal/media/sdp.go`.
Trusted boundary: bodies without candidates and bundles, for which the two corrections behind
  the loop of `ParseMediaEndpoint` change nothing
Main exports: parseMediaEndpoint, sectionsOf, sectionEndpoint, endpoint_of_section_iff
-/
import Gossipper.Go.Number

namespace Gossipper.Media.Sdp

open Go List

variable [CaseTables]

def sdpLines (body : Bytes) : List Bytes :=
  (split (replaceAll body crlf [lf]) [lf]).map trimSpace

/-- The address of a `c=` line. -/
def connection (line : Bytes) : Option Bytes :=
  if hasPrefix line (ascii "c=") then (fields (trimPrefix line (ascii "c=")))[2]? else none

/-- The port of an `m=` line of the media type. -/
def mediaPort (mediaPrefix line : Bytes) : Option Int :=
  if hasPrefix line (ascii "c=") then none
  else if hasPrefix (toLower line) mediaPrefix then
    (fields line)[1]?.bind fun word =>
      match atoi word with
      | (port, none) => some port
      | (_, some _) => none
  else none

/-- One line in the loop of `ParseMediaEndpoint`. -/
def endpointLine (mediaPrefix : Bytes) (found : Bytes × Int) (line : Bytes) : Bytes × Int :=
  ((connection line).getD found.1, (mediaPort mediaPrefix line).getD found.2)

inductive EndpointError where
  | noMediaType
  | notFound (mediaType : Bytes)
deriving DecidableEq

def mediaPrefixOf (mediaType : Bytes) : Bytes :=
  ascii "m=" ++ toLower (trimSpace mediaType) ++ ascii " "

/-- The checks around the loop, and the loop's result. -/
def endpointOf (mediaType : Bytes) (found : Bytes × Int) : Except EndpointError (Bytes × Int) :=
  if mediaPrefixOf mediaType = ascii "m= " then .error .noMediaType
  else if found.1 = [] ∨ found.2 ≤ 0 then .error (.notFound (toLower (trimSpace mediaType)))
  else .ok found

/-- `ParseMediaEndpoint`, for the text of the SDP. -/
def parseMediaEndpoint (body fallbackIP mediaType : Bytes) : Except EndpointError (Bytes × Int) :=
  endpointOf mediaType
    ((sdpLines body).foldl (endpointLine (mediaPrefixOf mediaType)) (fallbackIP, 0))

/-! ### Sections -/

/-- The parts of a body: the session, the sections before the first one of the media type,
that one, and the sections behind it. -/
structure Sections where
  session : List Bytes
  before : List Bytes
  own : List Bytes
  behind : List Bytes

def other (start line : Bytes) : Bool := !hasPrefix (toLower line) start

def sectionsOf (mediaPrefix : Bytes) (lines : List Bytes) : Sections :=
  let sections := lines.dropWhile (other (ascii "m="))
  let found := sections.dropWhile (other mediaPrefix)
  { session := lines.takeWhile (other (ascii "m="))
    before := sections.takeWhile (other mediaPrefix)
    own := found.take 1 ++ (found.drop 1).takeWhile (other (ascii "m="))
    behind := (found.drop 1).dropWhile (other (ascii "m=")) }

/-- The last of the addresses of some lines. -/
def address (lines : List Bytes) : Option Bytes := (lines.filterMap connection).getLast?

def port (mediaPrefix : Bytes) (lines : List Bytes) : Option Int :=
  (lines.filterMap (mediaPort mediaPrefix)).getLast?

/-- What the section says: its own address or that of the session, and its own port. -/
def Sections.endpoint (s : Sections) (mediaPrefix fallbackIP : Bytes) : Bytes × Int :=
  (((address s.own).or (address s.session)).getD fallbackIP, (port mediaPrefix s.own).getD 0)

/-- The last address of a later section, or of an earlier one if the section has none. -/
def Sections.foreign (s : Sections) : Option Bytes :=
  (address s.behind).or (if (address s.own).isNone then address s.before else none)

theorem foldl_endpointLine (mediaPrefix : Bytes) (lines : List Bytes) (found : Bytes × Int) :
    lines.foldl (endpointLine mediaPrefix) found =
      ((address lines).getD found.1, (port mediaPrefix lines).getD found.2) := by
  induction lines generalizing found with
  | nil => rfl
  | cons line rest ih =>
    rw [foldl_cons, ih]
    simp only [address, port, endpointLine, filterMap_cons]
    cases connection line <;> cases mediaPort mediaPrefix line <;> simp [getLast?_cons]

omit [CaseTables] in
theorem address_append (left right : List Bytes) :
    address (left ++ right) = (address right).or (address left) := by
  simp [address, getLast?_append]

theorem port_append (mediaPrefix : Bytes) (left right : List Bytes) :
    port mediaPrefix (left ++ right) = (port mediaPrefix right).or (port mediaPrefix left) := by
  simp [port, getLast?_append]

theorem port_other {mediaPrefix lines} (others : ∀ line ∈ lines, other mediaPrefix line = true) :
    port mediaPrefix lines = none := by
  have nothing : lines.filterMap (mediaPort mediaPrefix) = [] := by
    rw [filterMap_eq_nil_iff]
    intro line member
    have noPrefix := others line member
    simp only [other, Bool.not_eq_true'] at noPrefix
    simp [mediaPort, noPrefix]
  rw [port, nothing, getLast?_nil]

theorem foldl_sections (mediaType : Bytes) (lines : List Bytes) (fallbackIP : Bytes) :
    let s := sectionsOf (mediaPrefixOf mediaType) lines
    let said := s.endpoint (mediaPrefixOf mediaType) fallbackIP
    lines.foldl (endpointLine (mediaPrefixOf mediaType)) (fallbackIP, 0) =
      (s.foreign.getD said.1, (port (mediaPrefixOf mediaType) s.behind).getD said.2) := by
  intro s said
  have whole : lines = s.session ++ (s.before ++ (s.own ++ s.behind)) := by
    simp only [s, sectionsOf, append_assoc, takeWhile_append_dropWhile, take_append_drop]
  have session : port (mediaPrefixOf mediaType) s.session = none := by
    apply port_other
    intro line member
    have notMedia := mem_takeWhile_imp member
    rw [other, Bool.not_eq_true', Bool.eq_false_iff, Ne, hasPrefix_iff] at notMedia ⊢
    exact fun isMedia => notMedia (((prefix_append _ _).trans (prefix_append _ _)).trans isMedia)
  have before : port (mediaPrefixOf mediaType) s.before = none :=
    port_other fun line member => mem_takeWhile_imp member
  rw [foldl_endpointLine, whole]
  simp only [address_append, port_append, session, before, Option.or_none, said,
    Sections.endpoint, Sections.foreign]
  cases address s.behind <;> cases address s.own <;> cases address s.before <;>
    cases port (mediaPrefixOf mediaType) s.behind <;> simp

/-- The endpoint is the one of the first section of the media type exactly when no other
section gives another address or port in its place. -/
theorem endpoint_of_section_iff (body fallbackIP mediaType : Bytes) :
    let s := sectionsOf (mediaPrefixOf mediaType) (sdpLines body)
    let said := s.endpoint (mediaPrefixOf mediaType) fallbackIP
    let found := (s.foreign.getD said.1, (port (mediaPrefixOf mediaType) s.behind).getD said.2)
    parseMediaEndpoint body fallbackIP mediaType = endpointOf mediaType said ↔
      mediaPrefixOf mediaType = ascii "m= " ∨ found = said ∨
        (found.1 = [] ∨ found.2 ≤ 0) ∧ (said.1 = [] ∨ said.2 ≤ 0) := by
  intro s said found
  rw [parseMediaEndpoint, foldl_sections]
  change endpointOf mediaType found = endpointOf mediaType said ↔ _
  generalize found = found, said = said
  unfold endpointOf
  split_ifs <;> grind

omit [CaseTables] in
/-- The address of a later section is taken for the audio. -/
theorem video_address_taken :
    @parseMediaEndpoint .asciiOnly
        (ascii "m=audio 40 RTP/AVP 0\nc=IN IP4 1\nm=video 50 RTP/AVP 9\nc=IN IP4 2") [] (ascii "audio")
      = .ok (ascii "2", 40) := by
  decide +kernel

end Gossipper.Media.Sdp
