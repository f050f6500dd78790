/-
Module: Gossipper.Api.Identity
Purpose: Which token a request is verified, authorised and audited by, after
  `internal/settingsauth/auth.go`, `internal/api/v2/auth.go` and `internal/api/v2/server.go`.
Trusted boundary: `parseJWT` is a parameter; claims hold whole numbers; authentication is on
Main exports: ValidRequest, roleFromRequest, claimsFromRequest, oneIdentity_iff
-/
import Gossipper.Api.Admins

namespace Gossipper

open Go List Settingsauth

variable [CaseTables]

/-- What is read of a request: the `Authorization` header and the query parameter `token`. -/
structure Credentials where
  authorization : Bytes
  token : Bytes

/-- The claims of a verified token. -/
structure TokenClaims extends Api.Claims where
  sub : Bytes

namespace Settingsauth

def hasScheme (h : Bytes) : Bool := hasPrefix (toLower h) (ascii "bearer ")

def bearerFromRequest (r : Credentials) : Bytes :=
  let h := trimSpace r.authorization
  if hasScheme h then trimSpace (h.drop 7) else trimSpace r.token

def ValidRequest (parseJWT : Bytes → Option TokenClaims) (r : Credentials) : Bool :=
  bearerFromRequest r ≠ [] && (parseJWT (bearerFromRequest r)).isSome

end Settingsauth

namespace Api

def spelled (h : Bytes) : Bool := hasPrefix h (ascii "Bearer ") || hasPrefix h (ascii "bearer ")

def bearerFromRequest (r : Credentials) : Bytes :=
  if spelled r.authorization then r.authorization.drop 7 else r.token

section

variable (parseJWT : Bytes → Option TokenClaims) (users : Users) (r : Credentials)

/-- `ParseToken` of the token that a handler finds, if it finds one. -/
def parsed : Option TokenClaims :=
  if bearerFromRequest r = [] then none else parseJWT (trimSpace (bearerFromRequest r))

def roleFromRequest : Option Bytes :=
  (parsed parseJWT r).map fun mc => roleFromClaims mc.toClaims users

def identity (mc : TokenClaims) : Option Int × Bytes :=
  (if mc.uid = 0 then none else some mc.uid, mc.sub)

def claimsFromRequest : Option Int × Bytes :=
  ((parsed parseJWT r).map identity).getD (none, [])

end

/-- A request that passes authentication is authorised and audited by the claims of the
token that was verified. -/
def OneIdentity (users : Users) (r : Credentials) : Prop :=
  ∀ parseJWT, ValidRequest parseJWT r = true →
    ∃ mc, parseJWT (Settingsauth.bearerFromRequest r) = some mc ∧
      roleFromRequest parseJWT users r = some (roleFromClaims mc.toClaims users) ∧
      claimsFromRequest parseJWT r = identity mc

/-- The two extractors take the token from the same place, or find the same one. -/
def SamePlace (r : Credentials) : Prop :=
  if hasScheme (trimSpace r.authorization) then
    spelled r.authorization ∨
      trimSpace ((trimSpace r.authorization).drop 7) ∈ [[], trimSpace r.token]
  else spelled r.authorization = false ∨ trimSpace r.token = []

theorem hasScheme_word {word} (known : word = ascii "Bearer" ∨ word = ascii "bearer") (t : Bytes) :
    hasScheme (word ++ t) = hasPrefix (toLower t) (ascii " ") := by
  rw [hasScheme]
  rcases known with rfl | rfl
  all_goals
    rw [toLower_ascii_append (by decide +kernel), Bool.eq_iff_iff, hasPrefix_iff, hasPrefix_iff]
    exact prefix_append_right_inj (ascii "bearer")

/-- Trimming takes the scheme away if nothing follows it, and nothing else. -/
theorem trimmed_spelled {h} (isSpelled : spelled h = true) :
    if hasScheme (trimSpace h) then
      trimSpace ((trimSpace h).drop 7) = trimSpace (h.drop 7)
    else trimSpace (h.drop 7) = [] := by
  obtain ⟨word, known, rest, rfl⟩ : ∃ word, (word = ascii "Bearer" ∨ word = ascii "bearer") ∧
      ∃ rest, word ++ 0x20 :: rest = h := by
    rw [spelled, Bool.or_eq_true, hasPrefix_iff, hasPrefix_iff] at isSpelled
    rcases isSpelled with ⟨rest, rfl⟩ | ⟨rest, rfl⟩
    · exact ⟨_, .inl rfl, rest, rfl⟩
    · exact ⟨_, .inr rfl, rest, rfl⟩
  have trimmed : trimSpace (word ++ 0x20 :: rest) =
      word ++ textOf ((segments (0x20 :: rest)).rdropWhile Segment.isSpace) := by
    rcases known with rfl | rfl
    · exact @trimSpace_append_cons 0x72 (ascii "Beare") (by decide) (by decide) (by decide) _
    · exact @trimSpace_append_cons 0x72 (ascii "beare") (by decide) (by decide) (by decide) _
  have behind (t : Bytes) : (word ++ 0x20 :: t).drop 7 = t := by
    rw [append_cons, drop_left' (by rcases known with rfl | rfl <;> rfl)]
  let blank : Segment := ⟨0x20, [0x20]⟩
  have parts : segments (0x20 :: rest) = blank :: segments rest := segments_ascii (by decide) rest
  rw [trimmed, hasScheme_word known, behind, parts]
  by_cases allSpace : ∀ part ∈ segments rest, part.isSpace = true
  · rw [rdropWhile_eq_nil_iff.mpr (forall_mem_cons.mpr ⟨rfl, allSpace⟩)]
    exact trimSpace_eq_nil_iff.mpr allSpace
  · push Not at allSpace
    obtain ⟨part, member, solid⟩ := allSpace
    rw [Ne, Bool.not_eq_true] at solid
    obtain ⟨left, right, split⟩ := append_of_mem member
    have kept : (blank :: segments rest).rdropWhile Segment.isSpace =
        blank :: (segments rest).rdropWhile Segment.isSpace := by
      rw [split, ← cons_append, rdropWhile_append_cons solid, rdropWhile_append_cons solid,
        cons_append]
    have isScheme (t : Bytes) : hasPrefix (toLower ([0x20] ++ t)) (ascii " ") = true := by
      rw [toLower_ascii_append (by decide +kernel), hasPrefix_iff]
      exact prefix_append _ _
    rw [kept, textOf_cons, isScheme, if_pos rfl, singleton_append, behind,
      trimSpace_textOf_rdropWhile]

theorem samePlace_iff (r : Credentials) :
    SamePlace r ↔ Settingsauth.bearerFromRequest r ∈ [[], trimSpace (bearerFromRequest r)] := by
  rw [SamePlace, Settingsauth.bearerFromRequest, bearerFromRequest]
  cases isSpelled : spelled r.authorization with
  | false => cases hasScheme (trimSpace r.authorization) <;> simp
  | true =>
    have trimmed := trimmed_spelled isSpelled
    cases scheme : hasScheme (trimSpace r.authorization) <;>
      simp_all

/-- A request has one identity exactly if both sides find its token in the same place. -/
theorem oneIdentity_iff (users : Users) (r : Credentials) :
    OneIdentity users r ↔ SamePlace r := by
  rw [samePlace_iff, mem_cons, mem_singleton]
  constructor
  · intro one
    by_contra! differ
    -- only the token that is verified has claims
    obtain ⟨mc, -, role, -⟩ := one
      (fun token => if token = Settingsauth.bearerFromRequest r then some ⟨{}, []⟩ else none)
      (by simp [ValidRequest, differ.1])
    simp [roleFromRequest, parsed, differ.2.symm] at role
  · rintro same parseJWT valid
    simp only [ValidRequest, Bool.and_eq_true, decide_eq_true_eq] at valid
    obtain ⟨mc, accepted⟩ := Option.isSome_iff_exists.mp valid.2
    have token := same.resolve_left valid.1
    have given : bearerFromRequest r ≠ [] := fun empty => valid.1 (by rw [token, empty]; rfl)
    have found : parsed parseJWT r = some mc := by
      rw [parsed, if_neg given, ← token, accepted]
    exact ⟨mc, accepted, by simp [roleFromRequest, found], by simp [claimsFromRequest, found]⟩

end Api

end Gossipper
