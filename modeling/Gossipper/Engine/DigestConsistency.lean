/-
Module: Gossipper.Engine.DigestConsistency
Purpose: Which Digest headers of `buildDigestAuthHeader` are accepted by
  `verifyAuthHeader`.  The builder writes its values with `%q`; the check takes the
  quotes off and leaves the escapes in.
Trusted boundary: the hash functions are arbitrary functions into hexadecimal text.
Main exports: buildDigestAuthHeader_eq_ok_iff, verifyAuthHeader_built, digest_consistent_iff
-/
import Gossipper.Engine.VerifyAuth

namespace Gossipper.Engine

open Go Sip List
open Template (switch)

/-! ### Hexadecimal text -/

/-- What `hex.EncodeToString` writes for at least one byte. -/
def IsHex (s : Bytes) : Prop :=
  s ≠ [] ∧ ∀ b ∈ s, b ∈ ascii "0123456789abcdef"

instance (s : Bytes) : Decidable (IsHex s) :=
  @instDecidableAnd _ _ inferInstance (List.decidableBAll _ s)

/-- The hash functions return hexadecimal text. -/
structure HexDigests (e : AuthConfig) : Prop where
  md5Hex : ∀ value, IsHex (e.md5Hex value)
  sha256Hex : ∀ value, IsHex (e.sha256Hex value)

variable {s : Bytes}

theorem plainText_ascii [PrintTable]
    (plain : ∀ b ∈ s, 0x20 ≤ b.toNat ∧ b.toNat < 0x7F ∧ b.toNat ≠ 0x22 ∧ b.toNat ≠ 0x5C) :
    PlainText s := by
  have small : ∀ b ∈ s, b.toNat < 0x80 := by
    intro b member
    have range := plain b member
    omega
  have parts := segments_ascii_append small []
  rw [append_nil, segments_nil, append_nil] at parts
  intro part member
  rw [parts] at member
  obtain ⟨b, inside, rfl⟩ := mem_map.mp member
  obtain ⟨low, high, notQuote, notBackslash⟩ := plain b inside
  refine ⟨?_, ?_, notQuote, notBackslash⟩
  · rw [encodeRune_one (small b inside), UInt8.ofNat_toNat]
  · rw [PrintTable.isPrint_ascii _ (small b inside), Bool.and_eq_true]
    exact ⟨decide_eq_true low, decide_eq_true high⟩

theorem IsHex.plain [PrintTable] (hex : IsHex s) : PlainText s := by
  have digits : ∀ b ∈ ascii "0123456789abcdef",
      0x20 ≤ b.toNat ∧ b.toNat < 0x7F ∧ b.toNat ≠ 0x22 ∧ b.toNat ≠ 0x5C := by
    decide +kernel
  exact plainText_ascii fun b member => digits b (hex.2 b member)

theorem quote_not_mem_plain [PrintTable] (plain : PlainText s) : doubleQuote ∉ s := by
  intro member
  rw [← textOf_segments s] at member
  obtain ⟨part, inside, byte⟩ := mem_flatMap.mp member
  obtain ⟨valid, -, notQuote, -⟩ := plain part inside
  rw [valid] at byte
  exact notQuote (ascii_mem_encodeRune (by decide) (segment_rune inside).1 byte)

/-! ### The algorithm -/

section Algorithm

variable [CaseTables]

/-- The names that `digestHex` knows. -/
def Supported (algorithm : Bytes) : Prop :=
  toUpper (trimSpace algorithm) ∈ [[], ascii "MD5", ascii "SHA-256"]

variable {e : AuthConfig}

theorem supported_of_digestHex {algorithm value}
    (known : digestHex e algorithm value ≠ []) : Supported algorithm := by
  unfold digestHex switch at known
  simp only [any_cons, any_nil, Bool.or_false, Bool.or_eq_true, decide_eq_true_eq]
    at known
  split at known
  · rename_i isMd5
    rcases isMd5 with isEmpty | isName
    · rw [Supported, ← isEmpty]
      decide
    · rw [Supported, ← isName]
      decide
  · unfold switch at known
    simp only [any_cons, any_nil, Bool.or_false, decide_eq_true_eq] at known
    split at known
    · rename_i isSha
      rw [Supported, ← isSha]
      decide
    · exact absurd rfl known

variable {algorithm : Bytes}

/-- A known name stands for one of the two hashes. -/
theorem Supported.digestHex_cases (supported : Supported algorithm) (e : AuthConfig) :
    (∀ value, digestHex e algorithm value = e.md5Hex value) ∨
      (∀ value, digestHex e algorithm value = e.sha256Hex value) := by
  simp only [Supported, mem_cons, not_mem_nil, or_false] at supported
  unfold digestHex
  rcases supported with isEmpty | isMd5 | isSha
  · rw [isEmpty]
    exact .inl fun _ => rfl
  · rw [isMd5]
    exact .inl fun _ => rfl
  · rw [isSha]
    exact .inr fun _ => rfl

theorem Supported.isHex (supported : Supported algorithm)
    (hex : HexDigests e) (value : Bytes) : IsHex (digestHex e algorithm value) := by
  rcases supported.digestHex_cases e with isMd5 | isSha
  · rw [isMd5]
    exact hex.md5Hex value
  · rw [isSha]
    exact hex.sha256Hex value

/-- A character without case stays in the name of the algorithm. -/
theorem mem_toUpper_trimSpace (member : b ∈ s) (small : b.toNat < 0x80)
    (solid : isSpace b.toNat = false) (caseless : asciiUpper b.toNat = b.toNat) :
    b ∈ toUpper (trimSpace s) := by
  have inside : { rune := b.toNat, bytes := [b] } ∈ segments s := by
    obtain ⟨before, after, rfl⟩ := append_of_mem member
    rw [segments_append (by simpa using small), segments_ascii small]
    exact mem_append_right _ mem_cons_self
  refine mem_flatMap.mpr ⟨_, mem_segments_trimSpace inside solid, ?_⟩
  rw [CaseTables.upper_ascii _ small, caseless, encodeRune_one small, UInt8.ofNat_toNat]
  exact mem_singleton.mpr rfl

theorem Supported.bare (supported : Supported algorithm) :
    doubleQuote ∉ algorithm ∧ comma ∉ algorithm := by
  have names : ∀ name ∈ [[], ascii "MD5", ascii "SHA-256"], doubleQuote ∉ name ∧ comma ∉ name := by
    decide
  obtain ⟨noQuote, noComma⟩ := names _ supported
  refine ⟨fun member => noQuote ?_, fun member => noComma ?_⟩
  · exact mem_toUpper_trimSpace member (by decide) (by decide) (by decide)
  · exact mem_toUpper_trimSpace member (by decide) (by decide) (by decide)

/-- The algorithm that is read back names the same hash. -/
theorem digestHex_readBack (e : AuthConfig) (algorithm value : Bytes) :
    digestHex e (if reencode (trimSpace algorithm) = [] then ascii "MD5"
      else reencode (trimSpace algorithm)) value = digestHex e algorithm value := by
  split
  · rename_i empty
    -- A blank name is the default of the check and the default of `digestHex`.
    have blank : trimSpace algorithm = [] := by
      rw [← segments_eq_nil_iff, segments_reencode, map_eq_nil_iff] at empty
      exact segments_eq_nil_iff.mp empty
    have default : toUpper (trimSpace (ascii "MD5")) = ascii "MD5" := by
      rw [trimSpace_solid (by decide +kernel), toUpper_of_ascii (by decide +kernel)]
      decide
    rw [digestHex, digestHex, default, blank]
    rfl
  · have upper (s : Bytes) : toUpper (reencode s) = toUpper s := by
      rw [toUpper, segments_reencode, flatMap_map]
      rfl
    rw [digestHex, digestHex, trimSpace_reencode, upper, trimSpace_trimSpace]

end Algorithm

/-! ### The two sides as one computation -/

/-- The response over the values that one side reads. -/
def digestResponse (hash : List Bytes → Bytes)
    (username realm nonce uri method password qop nc cnonce : Bytes) : Bytes :=
  let ha1 := hash [username, realm, password]
  let ha2 := hash [method, uri]
  if qop = [] then hash [ha1, nonce, ha2] else hash [ha1, nonce, nc, cnonce, qop, ha2]

variable (hash : List Bytes → Bytes) (username realm nonce uri method password nc cnonce : Bytes)

theorem digestResponse_without :
    digestResponse hash username realm nonce uri method password [] nc cnonce =
      hash [hash [username, realm, password], nonce, hash [method, uri]] := by
  unfold digestResponse
  exact if_pos rfl

theorem digestResponse_auth :
    digestResponse hash username realm nonce uri method password (ascii "auth") nc cnonce =
      hash [hash [username, realm, password], nonce, nc, cnonce, ascii "auth",
        hash [method, uri]] := by
  have isAuth : ascii "auth" ≠ [] := by decide
  unfold digestResponse
  exact if_neg isAuth

/-- The hash of joined texts. -/
def digestOf [CaseTables] (e : AuthConfig) (algorithm : Bytes) (parts : List Bytes) : Bytes :=
  digestHex e algorithm (join parts [colon])

/-- The algorithm of a challenge, with its default. -/
def DigestChallenge.algorithmName (params : DigestChallenge) : Bytes :=
  if params.algorithm = [] then ascii "MD5" else params.algorithm

/-- What is drawn for the quality of protection: a count and a client nonce, or nothing. -/
inductive Drawn (draw : Option Bytes) : Bytes → Bytes → Bytes → Prop where
  | without : Drawn draw [] [] []
  | auth (cnonce : Bytes) : draw = some cnonce →
      Drawn draw (ascii "auth") (ascii "00000001") cnonce

section Build

variable [CaseTables]

theorem chooseQop_cases {offered qop} (chosen : chooseQop offered = some qop) :
    qop = [] ∨ qop = ascii "auth" := by
  unfold chooseQop at chosen
  split at chosen
  · exact .inl (Option.some.inj chosen).symm
  · split at chosen
    · exact .inr (Option.some.inj chosen).symm
    · cases chosen

variable [PrintTable]

variable {draw : Option Bytes} {e : AuthConfig}

/-- What a built header is made of. -/
theorem buildDigestAuthHeader_eq_ok_iff
    {headerName challenge method uri username password authHeader} :
    buildDigestAuthHeader e draw headerName challenge method uri username password =
        .ok authHeader ↔
      ∃ params qop nc cnonce, parseDigestChallenge challenge = some params ∧
        params.realm ≠ [] ∧ params.nonce ≠ [] ∧ chooseQop params.qop = some qop ∧
        digestOf e params.algorithmName [username, params.realm, password] ≠ [] ∧
        Drawn draw qop nc cnonce ∧
        authHeader = join (digestParts headerName username uri
          (digestResponse (digestOf e params.algorithmName) username params.realm params.nonce uri
            method password qop nc cnonce)
          params params.algorithmName qop nc cnonce) (ascii ", ") := by
  unfold buildDigestAuthHeader
  constructor
  · intro built
    split at built
    · cases built
    rename_i params parsed
    split at built
    · cases built
    rename_i complete
    rw [not_or] at complete
    have named : (if params.algorithm = [] then ascii "MD5" else params.algorithm) =
        params.algorithmName := rfl
    dsimp only at built
    rw [named] at built
    split at built
    · cases built
    rename_i qop chosen
    split at built
    · cases built
    rename_i known
    split at built
    · rename_i noQop
      subst noQop
      refine ⟨params, [], [], [], parsed, complete.1, complete.2, chosen, known, .without, ?_⟩
      rw [digestResponse_without]
      exact (Except.ok.inj built).symm
    · rename_i hasQop
      have isAuth := (chooseQop_cases chosen).resolve_left hasQop
      subst isAuth
      split at built
      · cases built
      · rename_i cnonce
        refine ⟨params, ascii "auth", ascii "00000001", cnonce, parsed, complete.1, complete.2,
          chosen, known, .auth cnonce rfl, ?_⟩
        rw [digestResponse_auth]
        exact (Except.ok.inj built).symm
  · rintro ⟨params, qop, nc, cnonce, parsed, realmGiven, nonceGiven, chosen, known, drawn, rfl⟩
    have complete : ¬ (params.realm = [] ∨ params.nonce = []) :=
      not_or.mpr ⟨realmGiven, nonceGiven⟩
    simp only [parsed, if_neg complete, chosen]
    refine (if_neg known).trans ?_
    cases drawn with
    | without =>
      rw [if_pos rfl, digestResponse_without]
      rfl
    | auth cnonce drew =>
      rw [if_neg (by decide), drew, digestResponse_auth]
      rfl

/-! ### What the check computes for a built header -/

/-- The values of a header hold no double quote. -/
structure QuoteFree (params : DigestChallenge) (uri username : Bytes) : Prop where
  username : doubleQuote ∉ username
  uri : doubleQuote ∉ uri
  realm : doubleQuote ∉ params.realm
  nonce : doubleQuote ∉ params.nonce
  opaqueData : doubleQuote ∉ params.opaqueData

/-- The values that enter the response are written without an escape, and no quote of the
opaque value disturbs the others. -/
structure Unescaped (params : DigestChallenge) (uri username : Bytes) : Prop where
  uriGiven : uri ≠ []
  username : PlainText username
  uri : PlainText uri
  realm : PlainText params.realm
  nonce : PlainText params.nonce
  opaqueData : doubleQuote ∉ params.opaqueData

variable {params : DigestChallenge}

omit [CaseTables] in
theorem Unescaped.quoteFree {uri username}
    (unescaped : Unescaped params uri username) : QuoteFree params uri username where
  username := quote_not_mem_plain unescaped.username
  uri := quote_not_mem_plain unescaped.uri
  realm := quote_not_mem_plain unescaped.realm
  nonce := quote_not_mem_plain unescaped.nonce
  opaqueData := unescaped.opaqueData

omit [CaseTables] [PrintTable] in
theorem Drawn.bare {qop nc cnonce} (drawn : Drawn draw qop nc cnonce) :
    (doubleQuote ∉ qop ∧ comma ∉ qop) ∧ doubleQuote ∉ nc ∧ comma ∉ nc := by
  cases drawn with
  | without | auth cnonce drew => decide

omit [CaseTables] in
theorem Drawn.plain {qop nc cnonce}
    (drawn : Drawn draw qop nc cnonce) (hex : ∀ cnonce ∈ draw, IsHex cnonce) :
    PlainText cnonce := by
  cases drawn with
  | without => exact plainText_ascii (by simp)
  | auth cnonce drew => exact (hex cnonce drew).plain

variable {algorithm : Bytes}

omit [PrintTable] in
theorem digestResponse_isHex (supported : Supported algorithm)
    (hex : HexDigests e) (username realm nonce uri method password qop nc cnonce : Bytes) :
    IsHex (digestResponse (digestOf e algorithm) username realm nonce uri method password qop nc
      cnonce) := by
  unfold digestResponse
  dsimp only
  split
  · exact supported.isHex hex _
  · exact supported.isHex hex _

/-- The check of what was read in a built header: the response is computed again, from the
escaped values. -/
theorem verifyAuthorization_readCredentials {username uri response algorithm qop nc cnonce}
    (supported : Supported algorithm) (hex : HexDigests e) (drawn : Drawn draw qop nc cnonce)
    (drawHex : ∀ cnonce ∈ draw, IsHex cnonce) (method password : Bytes) :
    verifyAuthorization e
        (readCredentials username uri response params algorithm qop nc cnonce)
        method username password =
      if quoteBody username ≠ username then .ok false
      else .ok (equalFold
        (digestResponse (digestOf e algorithm) username (quoteBody params.realm)
          (quoteBody params.nonce) (quoteBody uri) method password qop nc cnonce)
        (quoteBody response)) := by
  have sameHash : ∀ parts, digestHex e
      (if (readCredentials username uri response params algorithm qop nc cnonce).algorithm = []
        then ascii "MD5"
        else (readCredentials username uri response params algorithm qop nc cnonce).algorithm)
      (join parts [colon]) = digestOf e algorithm parts :=
    fun parts => digestHex_readBack e algorithm (join parts [colon])
  have known : digestOf e algorithm [username, quoteBody params.realm, password] ≠ [] :=
    (supported.isHex hex _).1
  have cnonceBody := quoteBody_plain (drawn.plain drawHex)
  unfold verifyAuthorization
  simp only [sameHash]
  by_cases same : quoteBody username = username
  · rw [if_neg (not_not.mpr same)]
    refine (if_neg (not_not.mpr same)).trans ((if_neg known).trans ?_)
    cases drawn with
    | without =>
      rw [digestResponse_without]
      rfl
    | auth cnonce drew =>
      have qopRead : reencode (trimSpace (ascii "auth")) = ascii "auth" := by decide
      have ncRead : reencode (trimSpace (ascii "00000001")) = ascii "00000001" := by decide
      have isAuth : ascii "auth" ≠ [] := by decide
      simp [readCredentials, qopRead, ncRead, cnonceBody, if_pos isAuth, if_neg isAuth,
        equalFold_refl, digestResponse_auth, Bool.not_true, Bool.false_eq_true]
  · rw [if_pos same]
    exact if_pos same

/-! ### Requests that carry a header -/

/-- A request that was parsed has the method, and the header is one of its headers. -/
structure Carries (raw method authHeader : Bytes) (msg : Message) : Prop where
  parsed : parse raw = .ok msg
  method : msg.method = method
  header : ∃ name value, cut authHeader colon = some (name, value) ∧
    ∃ entry ∈ msg.headers, entry.1 = trimSpace name ∧ trimSpace value ∈ entry.2

/-- The header is the one that the check looks at: the first under `Authorization`, or
without any of that name the first under `Proxy-Authorization`. -/
def Foremost (order : MapOrder) (headers : Headers) (authHeader : Bytes) : Prop :=
  ∃ name value, cut authHeader colon = some (name, value) ∧
    authorizationHeader order headers = some (trimSpace value)

/-- The names of the headers that carry credentials. -/
def authHeaderNames : List Bytes :=
  [ascii "Authorization", ascii "Proxy-Authorization"]

/-- Whatever the hash functions, the draw, the method and the password are, a request with
the built header is accepted. -/
def Consistent (headerName challenge uri username : Bytes) : Prop :=
  ∀ (e : AuthConfig) (draw : Option Bytes) (order : MapOrder)
    (method password authHeader raw : Bytes) (msg : Message),
    HexDigests e → (∀ cnonce ∈ draw, IsHex cnonce) →
    buildDigestAuthHeader e draw headerName challenge method uri username password =
      .ok authHeader →
    Carries raw method authHeader msg → Foremost order msg.headers authHeader →
    verifyAuthHeader e order raw username password = .ok true

omit [CaseTables] [PrintTable] in
theorem colon_not_mem_name {headerName} (name : headerName ∈ authHeaderNames) :
    colon ∉ headerName := by
  have names : ∀ headerName ∈ authHeaderNames, colon ∉ headerName := by decide
  exact names headerName name

/-- The result of the check for a request with a built header. -/
theorem verifyAuthHeader_built {order headerName method uri username password qop nc cnonce authHeader raw msg} (name : headerName ∈ authHeaderNames)
    (realmGiven : params.realm ≠ []) (nonceGiven : params.nonce ≠ [])
    (usernameGiven : username ≠ []) (supported : Supported params.algorithmName) (hex : HexDigests e)
    (drawn : Drawn draw qop nc cnonce) (drawHex : ∀ cnonce ∈ draw, IsHex cnonce)
    (quoteFree : QuoteFree params uri username)
    (built : authHeader = join (digestParts headerName username uri
      (digestResponse (digestOf e params.algorithmName) username params.realm params.nonce uri
        method password qop nc cnonce)
      params params.algorithmName qop nc cnonce) (ascii ", "))
    (carries : Carries raw method authHeader msg)
    (foremost : Foremost order msg.headers authHeader) :
    verifyAuthHeader e order raw username password =
      if uri = [] then .error .invalidHeader
      else if quoteBody username ≠ username then .ok false
      else .ok (equalFold
        (digestResponse (digestOf e params.algorithmName) username (quoteBody params.realm)
          (quoteBody params.nonce) (quoteBody uri) method password qop nc cnonce)
        (digestResponse (digestOf e params.algorithmName) username params.realm params.nonce uri
          method password qop nc cnonce)) := by
  have responseHex := digestResponse_isHex supported hex username params.realm params.nonce uri
    method password qop nc cnonce
  have splittable : Splittable username uri
      (digestResponse (digestOf e params.algorithmName) username params.realm params.nonce uri
        method password qop nc cnonce) params params.algorithmName qop nc cnonce :=
    { username := quoteFree.username
      uri := quoteFree.uri
      response := quote_not_mem_plain responseHex.plain
      realm := quoteFree.realm
      nonce := quoteFree.nonce
      opaqueData := quoteFree.opaqueData
      cnonce := quote_not_mem_plain (drawn.plain drawHex)
      algorithm := supported.bare
      qop := drawn.bare.1
      nc := drawn.bare.2 }
  obtain ⟨foundName, value, split, found⟩ := foremost
  rw [built, join_digestParts, cut_append (colon_not_mem_name name), Option.some.injEq,
    Prod.mk.injEq] at split
  rw [verifyAuthHeader, carries.parsed]
  dsimp only
  rw [found, ← split.2]
  dsimp only
  rw [parseDigestAuthorization_credentials splittable usernameGiven responseHex.1 realmGiven
    nonceGiven, carries.method]
  by_cases noUri : uri = []
  · rw [if_pos noUri, if_pos noUri]
  · rw [if_neg noUri, if_neg noUri]
    dsimp only
    rw [verifyAuthorization_readCredentials supported hex drawn drawHex,
      quoteBody_plain responseHex.plain]

/-- Without escapes the check computes the response of the builder. -/
theorem consistent_of_unescaped {headerName challenge uri username}
    (name : headerName ∈ authHeaderNames)
    (parsed : parseDigestChallenge challenge = some params) (usernameGiven : username ≠ [])
    (unescaped : Unescaped params uri username) :
    Consistent headerName challenge uri username := by
  intro e draw order method password authHeader raw msg hex drawHex built carries foremost
  obtain ⟨params', qop, nc, cnonce, parsed', realmGiven, nonceGiven, chosen, known, drawn,
    isBuilt⟩ := buildDigestAuthHeader_eq_ok_iff.mp built
  rw [parsed, Option.some.injEq] at parsed'
  subst parsed'
  rw [verifyAuthHeader_built name realmGiven nonceGiven usernameGiven
    (supported_of_digestHex known) hex drawn drawHex unescaped.quoteFree isBuilt carries foremost,
    if_neg unescaped.uriGiven, quoteBody_plain unescaped.username, quoteBody_plain unescaped.realm,
    quoteBody_plain unescaped.nonce, quoteBody_plain unescaped.uri, if_neg (by simp),
    equalFold_refl]

/-! ### Every escape is noticed

Over a hash that only shows the length of its argument, an escape anywhere makes the
response of the check longer than the one in the header. -/

/-- A hash that shows the length of its argument. -/
def lengthHash (value : Bytes) : Bytes :=
  List.replicate (value.length + 1) 0x30

/-- The configuration with this hash. -/
def lengthConfig : AuthConfig where
  authUsername := []
  authPassword := []
  md5Hex := lengthHash
  sha256Hex := lengthHash
  randomHex _ := none
  clockTick := 0
  dynamicID := 0

omit [CaseTables] [PrintTable] in
theorem lengthHash_isHex (value : Bytes) : IsHex (lengthHash value) := by
  refine ⟨by simp [lengthHash], fun b member => ?_⟩
  rw [eq_of_mem_replicate member]
  decide

omit [CaseTables] [PrintTable] in
theorem lengthConfig_hex : HexDigests lengthConfig :=
  ⟨lengthHash_isHex, lengthHash_isHex⟩

omit [PrintTable] in
theorem length_digestOf (supported : Supported algorithm) (parts : List Bytes) :
    (digestOf lengthConfig algorithm parts).length = (join parts [colon]).length + 1 := by
  rcases supported.digestHex_cases lengthConfig with isMd5 | isSha
  · rw [digestOf, isMd5]
    exact length_replicate
  · rw [digestOf, isSha]
    exact length_replicate

omit [PrintTable] in
/-- The length of a response is the length of its values and a constant. -/
theorem length_digestResponse (supported : Supported algorithm)
    (username method password qop nc cnonce : Bytes) :
    ∃ rest, ∀ realm nonce uri : Bytes,
      (digestResponse (digestOf lengthConfig algorithm) username realm nonce uri method password qop
        nc cnonce).length = realm.length + nonce.length + uri.length + rest := by
  by_cases noQop : qop = []
  · refine ⟨username.length + password.length + method.length + 8, fun realm nonce uri => ?_⟩
    rw [digestResponse, if_pos noQop]
    simp only [length_digestOf supported, join_cons_cons, join_singleton, length_append,
      length_singleton]
    omega
  · refine ⟨username.length + password.length + method.length + nc.length + cnonce.length +
      qop.length + 11, fun realm nonce uri => ?_⟩
    rw [digestResponse, if_neg noQop]
    simp only [length_digestOf supported, join_cons_cons, join_singleton, length_append,
      length_singleton]
    omega

omit [PrintTable] in
theorem length_eq_of_equalFold {s t} (left : IsHex s) (right : IsHex t)
    (same : equalFold s t = true) : s.length = t.length := by
  have small : ∀ b ∈ ascii "0123456789abcdef", b.toNat < 0x80 := by decide +kernel
  have folds : ∀ {u : Bytes}, IsHex u → (foldKey u).length = u.length := by
    intro u hex
    have allSmall : (u.all (·.toNat < 0x80)) = true := by
      rw [all_eq_true]
      exact fun b member => decide_eq_true (small b (hex.2 b member))
    rw [foldKey_of_ascii allSmall, length_map]
  rw [← folds left, ← folds right, equalFold_iff.mp same]

/-- A request with one header. -/
def requestWith (authHeader : Bytes) : Bytes :=
  ascii "REGISTER sip:x SIP/2.0\r" ++ lf :: (authHeader ++ [cr] ++ lf :: [cr, lf])

omit [CaseTables] [PrintTable] in
theorem parse_requestWith (noColon : colon ∉ name) (noLF : lf ∉ name ++ colon :: value) :
    ∃ msg, parse (requestWith (name ++ colon :: value)) = .ok msg ∧
      msg.method = ascii "REGISTER" ∧
      msg.headers = [(trimSpace name, [trimSpace value])] := by
  generalize rawEq : requestWith (name ++ colon :: value) = raw
  let start : Line := ⟨ascii "REGISTER sip:x SIP/2.0\r", by decide⟩
  let field : Line := ⟨name ++ colon :: value ++ [cr], by
    rw [mem_append, not_or]
    exact ⟨noLF, by decide⟩⟩
  let blank : Line := ⟨[cr], by decide⟩
  let named : Message := { Message.zero with
    raw := raw
    startLine := ascii "REGISTER sip:x SIP/2.0"
    method := ascii "REGISTER"
    requestURI := ascii "sip:x" }
  let full : Message := { named with headers := [(trimSpace name, [trimSpace value])] }
  have starts : parseStep (0, { Message.zero with raw := raw }) start.text = .inl (1, named) := by
    have line : trimSuffix start.text [cr] = ascii "REGISTER sip:x SIP/2.0" := by decide
    have trimmed : trimSpace (ascii "REGISTER sip:x SIP/2.0") = ascii "REGISTER sip:x SIP/2.0" := by
      decide +kernel
    rw [parseStep, line]
    dsimp only
    rw [parseStartLine, trimmed]
    rfl
  have continues : parseStep (1, named) field.text = .inl (2, full) := by
    have line : trimSuffix field.text [cr] = name ++ colon :: value := trimSuffix_append _ _
    rw [parseStep, line, if_neg (by simp), cut_append noColon]
    rfl
  have stops : parseStep (2, full) blank.text = .inr (full, none) := rfl
  have scanned : scanLines parseStep (0, { Message.zero with raw := raw }) [] raw =
      .stopped (full, none) [] := by
    refine scanLines_stopped_iff.mpr
      ⟨[start, field], (2, full), blank, .cons starts (.cons continues (.nil _)), stops, ?_⟩
    rw [← rawEq]
    simp [requestWith, start, field, blank]
  refine ⟨full, ?_, rfl, rfl⟩
  rw [parse, parseBytes, scanned]
  rfl

omit [PrintTable] in
theorem authorizationHeader_single (name : headerName ∈ authHeaderNames) :
    authorizationHeader .insertion [(headerName, [value])] = some value := by
  simp only [authHeaderNames, mem_cons, not_mem_nil, or_false] at name
  rcases name with rfl | rfl
  · simp [authorizationHeader, header, MapOrder.insertion]
  · have other : equalFold (ascii "Proxy-Authorization") (ascii "Authorization") = false := by
      rw [equalFold, foldKey_of_ascii (by decide), foldKey_of_ascii (by decide)]
      decide
    simp [authorizationHeader, header, MapOrder.insertion, other]

omit [PrintTable] in
theorem requestWith_carries {headerName value} (name : headerName ∈ authHeaderNames)
    (noLF : lf ∉ headerName ++ colon :: value) :
    ∃ msg, Carries (requestWith (headerName ++ colon :: value)) (ascii "REGISTER")
        (headerName ++ colon :: value) msg ∧
      Foremost .insertion msg.headers (headerName ++ colon :: value) := by
  have noColon := colon_not_mem_name name
  have trimmed : trimSpace headerName = headerName := by
    have names : ∀ headerName ∈ authHeaderNames, trimSpace headerName = headerName := by
      decide +kernel
    exact names headerName name
  obtain ⟨msg, parsed, method, headers⟩ := parse_requestWith noColon noLF
  have entry : (trimSpace headerName, [trimSpace value]) ∈ msg.headers := by
    rw [headers]
    exact mem_cons_self
  refine ⟨msg, ⟨parsed, method, headerName, value, cut_append noColon, _, entry, rfl,
    mem_cons_self⟩, headerName, value, cut_append noColon, ?_⟩
  rw [headers, trimmed]
  exact authorizationHeader_single name

/-- A challenge that some call of the builder accepts. -/
def AcceptedChallenge (challenge : Bytes) : Prop :=
  ∃ (e : AuthConfig) (draw : Option Bytes)
    (headerName method uri username password authHeader : Bytes),
    buildDigestAuthHeader e draw headerName challenge method uri username password =
      .ok authHeader

/-- An accepted challenge is answered over every hash. -/
theorem AcceptedChallenge.spec {challenge} (accepted : AcceptedChallenge challenge)
    (parsed : parseDigestChallenge challenge = some params) :
    params.realm ≠ [] ∧ params.nonce ≠ [] ∧ Supported params.algorithmName ∧
      ∃ qop nc cnonce, chooseQop params.qop = some qop ∧
        Drawn (some (ascii "0")) qop nc cnonce := by
  obtain ⟨e, draw, headerName, method, uri, username, password, authHeader, built⟩ := accepted
  obtain ⟨params', qop, nc, cnonce, parsed', realmGiven, nonceGiven, chosen, known, -, -⟩ :=
    buildDigestAuthHeader_eq_ok_iff.mp built
  rw [parsed, Option.some.injEq] at parsed'
  subst parsed'
  refine ⟨realmGiven, nonceGiven, supported_of_digestHex known, ?_⟩
  rcases chooseQop_cases chosen with rfl | rfl
  · exact ⟨[], [], [], chosen, .without⟩
  · exact ⟨_, _, ascii "0", chosen, .auth _ rfl⟩

/-- A header with an escape is rejected over the hash that shows lengths. -/
theorem unescaped_of_consistent {headerName challenge uri username}
    (name : headerName ∈ authHeaderNames) (parsed : parseDigestChallenge challenge = some params)
    (accepted : AcceptedChallenge challenge) (oneLine : lf ∉ challenge)
    (usernameGiven : username ≠ []) (quoteFree : QuoteFree params uri username)
    (consistent : Consistent headerName challenge uri username) :
    Unescaped params uri username := by
  obtain ⟨realmGiven, nonceGiven, supported, qop, nc, cnonce, chosen, drawn⟩ :=
    accepted.spec parsed
  have drawHex : ∀ cnonce ∈ some (ascii "0"), IsHex cnonce := by decide
  have built : buildDigestAuthHeader lengthConfig (some (ascii "0")) headerName challenge
      (ascii "REGISTER") uri username [] = .ok _ :=
    buildDigestAuthHeader_eq_ok_iff.mpr ⟨params, qop, nc, cnonce, parsed, realmGiven, nonceGiven,
      chosen, (supported.isHex lengthConfig_hex _).1, drawn, rfl⟩
  have nameNoLF : lf ∉ headerName := by
    have names : ∀ headerName ∈ authHeaderNames, lf ∉ headerName := by decide
    exact names headerName name
  have noLF := (buildDigestAuthHeader_oneLine nameNoLF oneLine built).1
  rw [join_digestParts] at built noLF
  obtain ⟨msg, carries, foremost⟩ := requestWith_carries name noLF
  have accepts := consistent lengthConfig (some (ascii "0")) .insertion (ascii "REGISTER") []
    _ _ msg lengthConfig_hex drawHex built carries foremost
  rw [verifyAuthHeader_built name realmGiven nonceGiven usernameGiven supported lengthConfig_hex
    drawn drawHex quoteFree (join_digestParts _ _ _ _ _ _ _ _ _).symm carries foremost] at accepts
  split at accepts
  · cases accepts
  rename_i uriGiven
  split at accepts
  · cases accepts
  rename_i sameUsername
  -- The two responses fold alike, so they are equally long, and no value can have grown.
  have sameLength := length_eq_of_equalFold
    (digestResponse_isHex supported lengthConfig_hex _ _ _ _ _ _ _ _ _)
    (digestResponse_isHex supported lengthConfig_hex _ _ _ _ _ _ _ _ _) (Except.ok.inj accepts)
  obtain ⟨rest, lengths⟩ :=
    length_digestResponse supported username (ascii "REGISTER") [] qop nc cnonce
  rw [lengths, lengths] at sameLength
  have realmGrows := quoteBody_longer params.realm
  have nonceGrows := quoteBody_longer params.nonce
  have uriGrows := quoteBody_longer uri
  exact
    { uriGiven := uriGiven
      username := (quoteBody_longer username).2 (by rw [not_not.mp sameUsername])
      uri := uriGrows.2 (by omega)
      realm := realmGrows.2 (by omega)
      nonce := nonceGrows.2 (by omega)
      opaqueData := quoteFree.opaqueData }

/-- A built header is accepted when its values are written without escapes, and of the
headers without a double quote in their values only those are accepted over every hash. -/
theorem digest_consistent_iff (headerName challenge uri username : Bytes)
    (params : DigestChallenge) (name : headerName ∈ authHeaderNames)
    (parsed : parseDigestChallenge challenge = some params)
    (accepted : AcceptedChallenge challenge) (usernameGiven : username ≠ []) :
    (Unescaped params uri username → Consistent headerName challenge uri username) ∧
    (lf ∉ challenge → QuoteFree params uri username →
      Consistent headerName challenge uri username → Unescaped params uri username) :=
  ⟨consistent_of_unescaped name parsed usernameGiven,
    fun oneLine => unescaped_of_consistent name parsed accepted oneLine usernameGiven⟩

end Build

section Concrete

attribute [local instance] CaseTables.asciiOnly PrintTable.asciiOnly

/-- A challenge, and what is read in it. -/
def plainChallenge : Bytes :=
  ascii "Digest realm=\"R\", nonce=\"N\""

def plainParams : DigestChallenge where
  realm := ascii "R"
  nonce := ascii "N"
  opaqueData := []
  algorithm := []
  qop := []

theorem bob_consistent :
    AcceptedChallenge plainChallenge ∧ Unescaped plainParams (ascii "sip:x") (ascii "bob") ∧
      Consistent (ascii "Authorization") plainChallenge (ascii "sip:x") (ascii "bob") := by
  have parsed : parseDigestChallenge plainChallenge = some plainParams := by decide +kernel
  have accepted : AcceptedChallenge plainChallenge := by
    exact ⟨lengthConfig, none, [], [], [], [], [], _,
      buildDigestAuthHeader_eq_ok_iff.mpr ⟨plainParams, [], [], [], parsed, by decide, by decide,
        by decide, by decide +kernel, .without, rfl⟩⟩
  have unescaped : Unescaped plainParams (ascii "sip:x") (ascii "bob") :=
    { uriGiven := by decide
      username := by decide +kernel
      uri := by decide +kernel
      realm := by decide +kernel
      nonce := by decide +kernel
      opaqueData := by decide }
  exact ⟨accepted, unescaped, (digest_consistent_iff (ascii "Authorization") plainChallenge
    (ascii "sip:x") (ascii "bob") plainParams (by decide) parsed accepted (by decide)).1 unescaped⟩

/-- The header that is built for the user `a\b`: the backslash is doubled. -/
def backslashHeader : Bytes :=
  ascii "Authorization" ++ colon :: ascii (" Digest username=\"a\\\\b\", realm=\"R\", " ++
    "nonce=\"N\", uri=\"sip:x\", response=\"000000000000000000000000000\", " ++
    "algorithm=MD5")

/-- The user is not recognised by the name that was given to both sides. -/
theorem backslash_username_rejected :
    buildDigestAuthHeader lengthConfig none (ascii "Authorization") plainChallenge
        (ascii "REGISTER") (ascii "sip:x") (ascii "a\\b") (ascii "p") = .ok backslashHeader ∧
      (∃ msg, Carries (requestWith backslashHeader) (ascii "REGISTER") backslashHeader msg ∧
        Foremost .insertion msg.headers backslashHeader) ∧
      verifyAuthHeader lengthConfig .insertion (requestWith backslashHeader) (ascii "a\\b")
        (ascii "p") = .ok false := by
  refine ⟨?_, requestWith_carries (by decide) (by decide +kernel), ?_⟩
  · decide +kernel
  · decide +kernel

end Concrete

end Gossipper.Engine
