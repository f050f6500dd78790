/-
Module: Gossipper.Engine.VerifyAuth
Purpose: The check of a Digest header, after `verifyAuthHeader` and
  `parseDigestAuthorization` of `internal/engine/auth.go`, and what it reads in a header
  that `buildDigestAuthHeader` wrote.
Trusted boundary: the hash functions are parameters.
Main exports: DigestAuthorization, parseDigestAuthorization, parseDigestAuthorization_credentials
-/
import Gossipper.Engine.AuthParams

namespace Gossipper.Engine

open Go Sip List
open Template (switch equals)

/-- `digestAuthorization`. -/
structure DigestAuthorization where
  username : Bytes
  realm : Bytes
  nonce : Bytes
  uri : Bytes
  response : Bytes
  algorithm : Bytes
  qop : Bytes
  nc : Bytes
  cnonce : Bytes
  opaqueData : Bytes
deriving DecidableEq, Repr

/-- `digestAuthorization{}`. -/
def DigestAuthorization.zero : DigestAuthorization where
  username := []
  realm := []
  nonce := []
  uri := []
  response := []
  algorithm := []
  qop := []
  nc := []
  cnonce := []
  opaqueData := []

/-- The errors of `verifyAuthHeader`, with the text they quote. -/
inductive VerifyError where
  | parse (cause : ParseError)
  | notDigest
  | invalidHeader
  | unsupportedAlgorithm (algorithm : Bytes)
  | unsupportedQop (qop : Bytes)
deriving DecidableEq, Repr

/-- The `switch` of `parseDigestAuthorization`. -/
def authorizationField (out : DigestAuthorization) (key value : Bytes) : DigestAuthorization :=
  switch key
    [ (["username"], { out with username := value }),
      (["realm"], { out with realm := value }),
      (["nonce"], { out with nonce := value }),
      (["uri"], { out with uri := value }),
      (["response"], { out with response := value }),
      (["algorithm"], { out with algorithm := value }),
      (["qop"], { out with qop := value }),
      (["nc"], { out with nc := value }),
      (["cnonce"], { out with cnonce := value }),
      (["opaque"], { out with opaqueData := value }) ] out

section Verify

variable [CaseTables]

/-- One parameter of a Digest header; a later value replaces an earlier one. -/
def authorizationParam (out : DigestAuthorization) (param : Bytes) : DigestAuthorization :=
  match cut param equals with
  | none => out
  | some (key, rawValue) =>
    authorizationField out (toLower (trimSpace key)) (trim (trimSpace rawValue) [doubleQuote])

/-- `parseDigestAuthorization`. -/
def parseDigestAuthorization (value : Bytes) : Except VerifyError DigestAuthorization :=
  let value := trimSpace value
  if !hasPrefix (toLower value) (ascii "digest ") then .error .notDigest
  else
    let params := splitAuthParams (trimSpace (value.drop (ascii "Digest ").length))
    let out := params.foldl authorizationParam .zero
    if out.realm = [] ∨ out.nonce = [] ∨ out.uri = [] ∨ out.response = [] ∨ out.username = [] then
      .error .invalidHeader
    else .ok out

/-- The header that `verifyAuthHeader` reads. -/
def authorizationHeader (order : MapOrder) (headers : Headers) : Option Bytes :=
  match header (order.arrange headers) (ascii "Authorization") with
  | some value => some value
  | none => header (order.arrange headers) (ascii "Proxy-Authorization")

/-- The check of a parsed Digest header. -/
def verifyAuthorization (e : AuthConfig) (auth : DigestAuthorization)
    (method username password : Bytes) : Except VerifyError Bool :=
  if auth.username ≠ username then .ok false
  else
    let algorithm := if auth.algorithm = [] then ascii "MD5" else auth.algorithm
    let hash (parts : List Bytes) := digestHex e algorithm (join parts [colon])
    let ha1 := hash [username, auth.realm, password]
    if ha1 = [] then .error (.unsupportedAlgorithm algorithm)
    else
      let ha2 := hash [method, auth.uri]
      if auth.qop = [] then .ok (equalFold (hash [ha1, auth.nonce, ha2]) auth.response)
      else if !equalFold auth.qop (ascii "auth") then .error (.unsupportedQop auth.qop)
      else
        .ok (equalFold (hash [ha1, auth.nonce, auth.nc, auth.cnonce, auth.qop, ha2])
          auth.response)

/-- `verifyAuthHeader`. -/
def verifyAuthHeader (e : AuthConfig) (order : MapOrder) (raw username password : Bytes) :
    Except VerifyError Bool :=
  match parse raw with
  | .error cause => .error (.parse cause)
  | .ok msg =>
    match authorizationHeader order msg.headers with
    | none => .ok false
    | some headerValue =>
      match parseDigestAuthorization headerValue with
      | .error error => .error error
      | .ok auth => verifyAuthorization e auth msg.method username password

end Verify

/-! ### What is read back for one value -/

/-- The value that is read for a text behind the equals sign. -/
def unquoted (value : Bytes) : Bytes :=
  trim (trimSpace (reencode value)) [doubleQuote]

theorem trim_eq_self (absent : b ∉ s) : trim s [b] = s := by
  have keepsLeft : s.dropWhile (· ∈ [b]) = s := by
    cases s with
    | nil => rfl
    | cons c rest =>
      rw [dropWhile_cons_of_neg]
      simpa using fun same : c = b => absent (by simp [same])
  rw [trim, keepsLeft, trimRight, rdropWhile_eq_self_iff]
  intro nonempty isLast
  have same : s.getLast nonempty = b := by simpa using isLast
  exact absent (same ▸ getLast_mem nonempty)

theorem trim_quoted (absent : b ∉ s) : trim ([b] ++ s ++ [b]) [b] = s := by
  have inner := trim_eq_self absent
  have left : ([b] ++ s ++ [b]).dropWhile (· ∈ [b]) = (s ++ [b]).dropWhile (· ∈ [b]) := by
    rw [append_assoc, singleton_append, dropWhile_cons_of_pos (by simp)]
  rw [trim, left]
  cases s with
  | nil => simp [trimRight]
  | cons c rest =>
    have notQuote : c ≠ b := fun same => absent (by simp [same])
    rw [trim, dropWhile_cons_of_neg (by simpa using notQuote)] at inner
    rw [cons_append, dropWhile_cons_of_neg (by simpa using notQuote),
      ← cons_append, trimRight, rdropWhile_concat_pos _ _ _ (by simp)]
    exact inner

section Values

variable [PrintTable]

theorem unquoted_quote (absent : doubleQuote ∉ s) :
    unquoted (quote s) = quoteBody s := by
  have written : Written (quote s) := by
    have mark : Written [doubleQuote] := .ascii (by decide +kernel)
    exact (mark.append (quoteBody_written s)).append mark
  have trimmed : trimSpace (quote s) = quote s := by
    exact trimSpace_append_cons (s := [doubleQuote] ++ quoteBody s) ⟨by decide, by decide⟩
      (by decide) (by decide) []
  rw [unquoted, written.reencode, trimmed, quote_eq]
  exact trim_quoted (quote_not_mem_quoteBody absent)

end Values

theorem unquoted_bare (absent : doubleQuote ∉ value) :
    unquoted value = reencode (trimSpace value) := by
  rw [unquoted, trimSpace_reencode, trim_eq_self]
  intro member
  obtain ⟨part, inside, encoded⟩ := mem_flatMap.mp member
  have rune := ascii_mem_encodeRune (by decide) (segment_rune inside).1 encoded
  exact absent (trimSpace_subset value (mem_of_segment_rune inside (by decide) rune))

/-! ### What is read back for a parameter -/

/-- The names of parameters are lower-case letters. -/
def LowerLabel (label : Bytes) : Prop :=
  label ≠ [] ∧ ∀ b ∈ label, 0x61 ≤ b.toNat ∧ b.toNat ≤ 0x7A

instance (label : Bytes) : Decidable (LowerLabel label) :=
  @instDecidableAnd _ _ inferInstance (List.decidableBAll _ label)

/-- A parameter as it is written. -/
def paramText (credential : Bytes × Bytes) : Bytes :=
  credential.1 ++ equals :: credential.2

section Labels

variable {label : Bytes} (lower : LowerLabel label)

include lower

theorem LowerLabel.small : ∀ b ∈ label, b.toNat < 0x80 := by
  intro b member
  have range := lower.2 b member
  omega

theorem LowerLabel.solid : ∀ b ∈ label, b.toNat < 0x80 ∧ isSpace b.toNat = false := by
  intro b member
  have range := lower.2 b member
  have letters : ∀ n : Nat, n < 0x7B → 0x61 ≤ n → isSpace n = false := by decide
  exact ⟨by omega, letters b.toNat (by omega) range.1⟩

theorem LowerLabel.not_mem (other : b.toNat < 0x61) : b ∉ label := by
  intro member
  have range := lower.2 b member
  omega

theorem LowerLabel.solidStart (value : Bytes) : SolidStart (label ++ value) := by
  obtain ⟨b, rest, rfl⟩ := exists_cons_of_ne_nil lower.1
  exact lower.solid b mem_cons_self

theorem LowerLabel.toLower [CaseTables] : Go.toLower label = label := by
  have lowered := toLower_ascii_append lower.small []
  rw [append_nil] at lowered
  have same : (label.flatMap fun b => encodeRune (asciiLower b.toNat)) = label := by
    calc (label.flatMap fun b => encodeRune (asciiLower b.toNat))
        = label.flatMap fun b => [b] := by
          refine flatMap_congr fun b member => ?_
          have range := lower.2 b member
          have notUpper : ¬ b.toNat ≤ 0x5A := by omega
          have kept : asciiLower b.toNat = b.toNat := if_neg fun upper => notUpper upper.2
          rw [kept, encodeRune_one (by omega), UInt8.ofNat_toNat]
      _ = label := flatMap_singleton' label
  rw [lowered, same]
  exact append_nil label

/-- A parameter is read under its name with its value unquoted. -/
theorem authorizationParam_paramText [CaseTables] (out : DigestAuthorization) (value : Bytes) :
    authorizationParam out (readBack (paramText (label, value))) =
      authorizationField out label (unquoted value) := by
  have written : reencode (paramText (label, value)) = label ++ equals :: reencode value := by
    have label_eq : reencode label = label := (Written.ascii lower.small).reencode
    rw [paramText, reencode_append (by simp; decide), label_eq, reencode,
      segments_ascii (by decide)]
    rfl
  have readAs : readBack (paramText (label, value)) =
      label ++ equals :: textOf ((segments (reencode value)).rdropWhile Segment.isSpace) := by
    rw [readBack, written]
    exact trimSpace_append_cons (lower.solidStart _) (by decide) (by decide) _
  rw [authorizationParam, readAs, cut_append (lower.not_mem (by decide))]
  dsimp only
  rw [trimSpace_solid lower.solid, lower.toLower, trimSpace_textOf_rdropWhile]
  rfl

end Labels

/-! ### What is read back for a header -/

section Credentials

variable [PrintTable]

/-- The parameters of a built header behind the user name. -/
def laterCredentials (uri response : Bytes) (params : DigestChallenge)
    (algorithm qop nc cnonce : Bytes) : List (Bytes × Bytes) :=
  [ (ascii "realm", quote params.realm),
    (ascii "nonce", quote params.nonce),
    (ascii "uri", quote uri),
    (ascii "response", quote response),
    (ascii "algorithm", algorithm) ] ++
  (if params.opaqueData ≠ [] then [(ascii "opaque", quote params.opaqueData)] else []) ++
  (if qop ≠ [] then
    [(ascii "qop", qop), (ascii "nc", nc), (ascii "cnonce", quote cnonce)]
  else [])

/-- The parameters of a built header, with their names. -/
def credentials (username uri response : Bytes) (params : DigestChallenge)
    (algorithm qop nc cnonce : Bytes) : List (Bytes × Bytes) :=
  (ascii "username", quote username) ::
    laterCredentials uri response params algorithm qop nc cnonce

/-- The scheme in front of the parameters. -/
abbrev digestScheme : Bytes := ascii "Digest "

variable (headerName username uri response : Bytes) (params : DigestChallenge)
  (algorithm qop nc cnonce : Bytes)

theorem digestParts_eq :
    digestParts headerName username uri response params algorithm qop nc cnonce =
      (headerName ++ ascii ": Digest username=" ++ quote username) ::
        (laterCredentials uri response params algorithm qop nc cnonce).map paramText := by
  rw [digestParts, laterCredentials, map_append, map_append,
    apply_ite (List.map paramText), apply_ite (List.map paramText)]
  rfl

/-- A built header is its name and the parameters joined. -/
theorem join_digestParts :
    join (digestParts headerName username uri response params algorithm qop nc cnonce)
        (ascii ", ") =
      headerName ++ colon :: ([space] ++ (digestScheme ++
        join ((credentials username uri response params algorithm qop nc cnonce).map paramText)
          separator)) := by
  obtain ⟨next, more, later⟩ : ∃ next more,
      (laterCredentials uri response params algorithm qop nc cnonce).map paramText =
        next :: more :=
    ⟨_, _, rfl⟩
  rw [digestParts_eq, credentials, map_cons, later, join_cons_cons, join_cons_cons]
  simp only [paramText, append_assoc]
  rfl

/-- No value of a header ends its parameter too early: the quoted ones hold no quote of
their own, and the others hold neither a quote nor a comma. -/
structure Splittable (username uri response : Bytes) (params : DigestChallenge)
    (algorithm qop nc cnonce : Bytes) : Prop where
  username : doubleQuote ∉ username
  uri : doubleQuote ∉ uri
  response : doubleQuote ∉ response
  realm : doubleQuote ∉ params.realm
  nonce : doubleQuote ∉ params.nonce
  opaqueData : doubleQuote ∉ params.opaqueData
  cnonce : doubleQuote ∉ cnonce
  algorithm : doubleQuote ∉ algorithm ∧ comma ∉ algorithm
  qop : doubleQuote ∉ qop ∧ comma ∉ qop
  nc : doubleQuote ∉ nc ∧ comma ∉ nc

variable {username uri response : Bytes} {params : DigestChallenge}
  {algorithm qop nc cnonce : Bytes}

/-- A parameter that is split off whole, under a name that is kept. -/
def Separable (credential : Bytes × Bytes) : Prop :=
  LowerLabel credential.1 ∧ OneParam (paramText credential)

theorem separable_quoted (lower : LowerLabel label)
    (absent : doubleQuote ∉ value) : Separable (label, quote value) := by
  have noQuote : doubleQuote ∉ label ++ [equals] := by
    rw [mem_append, not_or]
    exact ⟨lower.not_mem (by decide), by decide⟩
  have noComma : comma ∉ label ++ [equals] := by
    rw [mem_append, not_or]
    exact ⟨lower.not_mem (by decide), by decide⟩
  have kept := OneParam.quoted noQuote noComma (quote_not_mem_quoteBody absent)
  rw [append_assoc] at kept
  exact ⟨lower, kept⟩

omit [PrintTable] in
theorem separable_bare (lower : LowerLabel label)
    (absent : doubleQuote ∉ value ∧ comma ∉ value) : Separable (label, value) := by
  refine ⟨lower, .bare ?_ ?_⟩ <;> rw [paramText, mem_append, mem_cons, not_or, not_or]
  · exact ⟨lower.not_mem (by decide), by decide, absent.1⟩
  · exact ⟨lower.not_mem (by decide), by decide, absent.2⟩

theorem Splittable.separable
    (splittable : Splittable username uri response params algorithm qop nc cnonce) :
    ∀ credential ∈ credentials username uri response params algorithm qop nc cnonce,
      Separable credential := by
  rw [credentials, laterCredentials, forall_mem_cons, forall_mem_append,
    forall_mem_append]
  refine ⟨separable_quoted (by decide) splittable.username, ⟨?_, ?_⟩, ?_⟩
  · simp only [forall_mem_cons]
    exact ⟨separable_quoted (by decide) splittable.realm,
      separable_quoted (by decide) splittable.nonce, separable_quoted (by decide) splittable.uri,
      separable_quoted (by decide) splittable.response,
      separable_bare (by decide) splittable.algorithm, by simp⟩
  · split
    · rw [forall_mem_singleton]
      exact separable_quoted (by decide) splittable.opaqueData
    · simp
  · split
    · simp only [forall_mem_cons]
      exact ⟨separable_bare (by decide) splittable.qop, separable_bare (by decide) splittable.nc,
        separable_quoted (by decide) splittable.cnonce, by simp⟩
    · simp

variable [CaseTables]

omit [PrintTable] in
/-- Parameters that were joined are read one by one. -/
theorem foldl_authorizationParam {pairs : List (Bytes × Bytes)}
    (lower : ∀ pair ∈ pairs, LowerLabel pair.1) (out : DigestAuthorization) :
    ((pairs.map paramText).map readBack).foldl authorizationParam out =
      pairs.foldl (fun out pair => authorizationField out pair.1 (unquoted pair.2)) out := by
  induction pairs generalizing out with
  | nil => rfl
  | cons pair rest ih =>
    rw [forall_mem_cons] at lower
    rw [map_cons, map_cons, foldl_cons, foldl_cons,
      authorizationParam_paramText lower.1]
    exact ih lower.2 _

/-- What is read in a built header: every quoted value with its escapes. -/
def readCredentials (username uri response : Bytes) (params : DigestChallenge)
    (algorithm qop nc cnonce : Bytes) : DigestAuthorization where
  username := quoteBody username
  realm := quoteBody params.realm
  nonce := quoteBody params.nonce
  uri := quoteBody uri
  response := quoteBody response
  algorithm := reencode (trimSpace algorithm)
  qop := if qop ≠ [] then reencode (trimSpace qop) else []
  nc := if qop ≠ [] then reencode (trimSpace nc) else []
  cnonce := if qop ≠ [] then quoteBody cnonce else []
  opaqueData := quoteBody params.opaqueData

omit [CaseTables] in
theorem foldl_credentials
    (splittable : Splittable username uri response params algorithm qop nc cnonce) :
    (credentials username uri response params algorithm qop nc cnonce).foldl
        (fun out pair => authorizationField out pair.1 (unquoted pair.2)) .zero =
      readCredentials username uri response params algorithm qop nc cnonce := by
  rw [credentials, laterCredentials, foldl_cons, foldl_append, foldl_append]
  simp only [foldl_cons, foldl_nil, unquoted_quote splittable.username,
    unquoted_quote splittable.realm, unquoted_quote splittable.nonce,
    unquoted_quote splittable.uri, unquoted_quote splittable.response,
    unquoted_bare splittable.algorithm.1]
  by_cases hasOpaque : params.opaqueData = [] <;> by_cases hasQop : qop = []
  all_goals
    simp only [hasOpaque, hasQop, ne_eq, not_true, not_false_iff, if_true, if_false,
      foldl_cons, foldl_nil, readCredentials, unquoted_quote splittable.opaqueData,
      unquoted_bare splittable.qop.1, unquoted_bare splittable.nc.1,
      unquoted_quote splittable.cnonce]
    rfl

/-- The parse of the value that `sip.Parse` stores for a built header. -/
theorem parseDigestAuthorization_credentials
    (splittable : Splittable username uri response params algorithm qop nc cnonce)
    (usernameGiven : username ≠ []) (responseGiven : response ≠ [])
    (realmGiven : params.realm ≠ []) (nonceGiven : params.nonce ≠ []) :
    parseDigestAuthorization (trimSpace ([space] ++ (digestScheme ++
        join ((credentials username uri response params algorithm qop nc cnonce).map paramText)
          separator))) =
      if uri = [] then .error .invalidHeader
      else .ok (readCredentials username uri response params algorithm qop nc cnonce) := by
  have kept : ∀ text ∈ (credentials username uri response params algorithm qop nc cnonce).map
      paramText, OneParam text := by
    intro text member
    obtain ⟨pair, inside, rfl⟩ := mem_map.mp member
    exact (splittable.separable pair inside).2
  have solid : ∀ text ∈ (credentials username uri response params algorithm qop nc cnonce).map
      paramText, SolidStart text := by
    intro text member
    obtain ⟨pair, inside, rfl⟩ := mem_map.mp member
    exact (splittable.separable pair inside).1.solidStart _
  have nonempty : (credentials username uri response params algorithm qop nc cnonce).map
      paramText ≠ [] := cons_ne_nil _ _
  have trimmed : trimSpace ([space] ++ (digestScheme ++ join ((credentials username uri response
      params algorithm qop nc cnonce).map paramText) separator)) =
      digestScheme ++ trimSpace (join ((credentials username uri response params algorithm qop nc
        cnonce).map paramText) separator) := by
    rw [singleton_append, trimSpace_cons_space (by decide) (by decide)]
    exact trimSpace_append (by decide) (join_solidStart nonempty solid)
  have isDigest : ∀ rest, hasPrefix (toLower (digestScheme ++ rest)) (ascii "digest ") = true := by
    intro rest
    rw [toLower_ascii_append (by decide +kernel), hasPrefix_iff]
    have lowered : (digestScheme.flatMap fun b => encodeRune (asciiLower b.toNat)) =
        ascii "digest " := by decide
    rw [lowered]
    exact prefix_append _ _
  have bodyGiven : ∀ {s : Bytes}, s ≠ [] → quoteBody s ≠ [] := by
    intro s given empty
    have longer := (quoteBody_longer s).1
    rw [empty, length_nil, Nat.le_zero, length_eq_zero_iff] at longer
    exact given longer
  unfold parseDigestAuthorization
  dsimp only
  rw [trimSpace_trimSpace, trimmed, isDigest, Bool.not_true, if_neg Bool.false_ne_true,
    drop_left' rfl, trimSpace_trimSpace, splitAuthParams_join nonempty kept solid,
    foldl_authorizationParam fun pair inside => (splittable.separable pair inside).1,
    foldl_credentials splittable]
  by_cases noUri : uri = []
  · rw [if_pos noUri, if_pos]
    rw [noUri]
    exact .inr (.inr (.inl rfl))
  · rw [if_neg noUri, if_neg]
    simp only [readCredentials, not_or]
    exact ⟨bodyGiven realmGiven, bodyGiven nonceGiven, bodyGiven noUri, bodyGiven responseGiven,
      bodyGiven usernameGiven⟩

end Credentials

end Gossipper.Engine
