/-
Module: Gossipper.Engine.Auth
Purpose: Rendering a message that is to be sent, with the Digest header of its
  `[authentication]` keywords, after `internal/engine/auth.go`.
Trusted boundary: the hash functions and the random source are parameters.
Main exports: AuthConfig, extractAuthKeywordOptions, buildAuthHeader, buildAuthHeaders_oneLine
-/
import Gossipper.Engine.SendText
import Gossipper.Go.Bytes
import Gossipper.Go.Quote
import Gossipper.Template.Resolve

namespace Gossipper.Engine

open Go Sip List
open Template (Context Environment Passes Values TokenError switch parseKeyParams param
  renderMessageStrict closeBracket equals OneLine switch_cases)

/-- What a render takes from the engine.  `randomHex n` is the client nonce drawn for
the `n`-th keyword of the message, with `none` for a failed read. -/
structure AuthConfig where
  authUsername : Bytes
  authPassword : Bytes
  md5Hex : Bytes → Bytes
  sha256Hex : Bytes → Bytes
  randomHex : Nat → Option Bytes
  clockTick : Int
  dynamicID : Int

/-- The errors of `renderSIPMessage`, with the text they quote. -/
inductive RenderError where
  | token (error : TokenError)
  | noChallenge
  | challengeParse (cause : ParseError)
  | notChallenge (statusCode : Int)
  | missingChallenge (name : Bytes)
  | outgoingParse (cause : ParseError)
  | notRequest
  | notDigest
  | incompleteChallenge
  | unsupportedQop (qop : Bytes)
  | unsupportedAlgorithm (algorithm : Bytes)
  | randomRead
deriving DecidableEq, Repr

/-- The comma and the double quote. -/
abbrev comma : UInt8 := 0x2C
abbrev doubleQuote : UInt8 := 0x22

/-! ### The keywords of a template -/

/-- `authKeywordOptions`. -/
structure AuthKeywordOptions where
  tokenKey : Bytes
  username : Bytes
  password : Bytes
deriving DecidableEq, Repr

section Keywords

variable [CaseTables]

/-- `containsFoldCI`. -/
def containsFoldCI (s substr : Bytes) : Bool :=
  (List.range (s.length + 1 - substr.length)).any fun i =>
    equalFold ((s.drop i).take substr.length) substr

/-- `parseAuthKeywordParams`. -/
def parseAuthKeywordParams (tokenKey : Bytes) : Values :=
  parseKeyParams (trimSpace (trimPrefix tokenKey (ascii "authentication")))

/-- The loop of `extractAuthKeywordOptions`.  It searches the lower-cased text and
slices the original at the same index, so `none` is a slice out of range: the two texts
need not have the same length.  A round takes at least one byte off `raw`. -/
def authOptionsFrom : Nat → Bytes → Bytes → Option (List AuthKeywordOptions)
  | 0, _, _ => some []
  | fuel + 1, s, raw =>
    match index s (ascii "[authentication") with
    | none => some []
    | some start =>
      if raw.length < start + 1 then none
      else
        match indexByte (raw.drop (start + 1)) closeBracket with
        | none => some []
        | some n =>
          let tokenKey := trimSpace ((raw.drop (start + 1)).take n)
          let params := parseAuthKeywordParams tokenKey
          let past := n + start + 2
          if s.length < past then none
          else
            (authOptionsFrom fuel (s.drop past) (raw.drop past)).map fun options =>
              ⟨tokenKey, param params "username", param params "password"⟩ :: options

/-- `extractAuthKeywordOptions`, with `none` for a panic. -/
def extractAuthKeywordOptions (raw : Bytes) : Option (List AuthKeywordOptions) :=
  if !containsFoldCI raw (ascii "[authentication") then some []
  else authOptionsFrom (raw.length + 1) (toLower raw) raw

end Keywords

/-- `resolveAuthKeywordUsername` and `resolveAuthKeywordPassword`. -/
def resolveAuthKeyword (value fallback : Bytes) : Bytes :=
  if trimSpace value ≠ [] then value else fallback

/-! ### The Digest header -/

/-- `digestChallenge`. -/
structure DigestChallenge where
  realm : Bytes
  nonce : Bytes
  opaqueData : Bytes
  algorithm : Bytes
  qop : Bytes
deriving DecidableEq, Repr

/-- `digestChallenge{}`. -/
def DigestChallenge.zero : DigestChallenge where
  realm := []
  nonce := []
  opaqueData := []
  algorithm := []
  qop := []

/-- The loop of `splitAuthParams`. -/
def splitAuthParamsFrom : Bool → Bytes → List Segment → List Bytes
  | _, current, [] => if current = [] then [] else [trimSpace current]
  | quoted, current, part :: rest =>
    if part.rune = doubleQuote.toNat then
      splitAuthParamsFrom (!quoted) (current ++ encodeRune part.rune) rest
    else if part.rune = comma.toNat ∧ quoted = false then
      trimSpace current :: splitAuthParamsFrom quoted [] rest
    else splitAuthParamsFrom quoted (current ++ encodeRune part.rune) rest

/-- `splitAuthParams`. -/
def splitAuthParams (value : Bytes) : List Bytes :=
  splitAuthParamsFrom false [] (segments value)

section Digest

variable [CaseTables]

/-- One parameter of a challenge; a later value replaces an earlier one. -/
def challengeParam (out : DigestChallenge) (param : Bytes) : DigestChallenge :=
  match cut param equals with
  | none => out
  | some (key, rawValue) =>
    let value := trim (trimSpace rawValue) [doubleQuote]
    switch (toLower (trimSpace key))
      [ (["realm"], { out with realm := value }),
        (["nonce"], { out with nonce := value }),
        (["opaque"], { out with opaqueData := value }),
        (["algorithm"], { out with algorithm := value }),
        (["qop"], { out with qop := value }) ] out

/-- `parseDigestChallenge`, with `none` for its error. -/
def parseDigestChallenge (value : Bytes) : Option DigestChallenge :=
  let value := trimSpace value
  if !hasPrefix (toLower value) (ascii "digest ") then none
  else
    some ((splitAuthParams (trimSpace (value.drop (ascii "Digest ").length))).foldl
      challengeParam .zero)

/-- `digestHex`. -/
def digestHex (e : AuthConfig) (algorithm value : Bytes) : Bytes :=
  switch (toUpper (trimSpace algorithm))
    [ (["", "MD5"], e.md5Hex value),
      (["SHA-256"], e.sha256Hex value) ] []

/-- The quality of protection that is used: none, or `auth` when the challenge
offers it; `none` when it offers others only. -/
def chooseQop (offered : Bytes) : Option Bytes :=
  if offered = [] then some []
  else if (split offered [comma]).any fun option => equalFold (trimSpace option) (ascii "auth") then
    some (ascii "auth")
  else none

/-- The parts of a Digest header, from the values computed for it. -/
def digestParts [PrintTable] (headerName username uri response : Bytes)
    (params : DigestChallenge) (algorithm qop nc cnonce : Bytes) : List Bytes :=
  [ headerName ++ ascii ": Digest username=" ++ quote username,
    ascii "realm=" ++ quote params.realm,
    ascii "nonce=" ++ quote params.nonce,
    ascii "uri=" ++ quote uri,
    ascii "response=" ++ quote response,
    ascii "algorithm=" ++ algorithm ] ++
  (if params.opaqueData ≠ [] then [ascii "opaque=" ++ quote params.opaqueData] else []) ++
  (if qop ≠ [] then
    [ascii "qop=" ++ qop, ascii "nc=" ++ nc, ascii "cnonce=" ++ quote cnonce]
  else [])

/-- `buildDigestAuthHeader`; `draw` is the result of `randomHex(8)`.  The body of the
request is not used. -/
def buildDigestAuthHeader [PrintTable] (e : AuthConfig) (draw : Option Bytes)
    (headerName challenge method uri username password : Bytes) : Except RenderError Bytes :=
  match parseDigestChallenge challenge with
  | none => .error .notDigest
  | some params =>
    if params.realm = [] ∨ params.nonce = [] then .error .incompleteChallenge
    else
      let algorithm := if params.algorithm = [] then ascii "MD5" else params.algorithm
      match chooseQop params.qop with
      | none => .error (.unsupportedQop params.qop)
      | some qop =>
        let hash (parts : List Bytes) := digestHex e algorithm (join parts [colon])
        let ha1 := hash [username, params.realm, password]
        if ha1 = [] then .error (.unsupportedAlgorithm algorithm)
        else
          let ha2 := hash [method, uri]
          if qop = [] then
            let response := hash [ha1, params.nonce, ha2]
            .ok (join (digestParts headerName username uri response params algorithm qop [] [])
              (ascii ", "))
          else
            let nc := ascii "00000001"
            match draw with
            | none => .error .randomRead
            | some cnonce =>
              let response := hash [ha1, params.nonce, nc, cnonce, qop, ha2]
              .ok (join (digestParts headerName username uri response params algorithm qop nc
                cnonce) (ascii ", "))

/-- `buildAuthHeader`, without the event it logs. -/
def buildAuthHeader [PrintTable] (e : AuthConfig) (env : Environment) (draw : Option Bytes)
    (outgoing : Bytes) (c : Context) (option : AuthKeywordOptions) : Except RenderError Bytes :=
  if c.lastMessage = [] then .error .noChallenge
  else
    match parse c.lastMessage with
    | .error cause => .error (.challengeParse cause)
    | .ok challengeMsg =>
      if challengeMsg.statusCode = 401 ∨ challengeMsg.statusCode = 407 then
        let headerName :=
          if challengeMsg.statusCode = 401 then ascii "Authorization"
          else ascii "Proxy-Authorization"
        let challengeName :=
          if challengeMsg.statusCode = 401 then ascii "WWW-Authenticate"
          else ascii "Proxy-Authenticate"
        match header (env.order.arrange challengeMsg.headers) challengeName with
        | none => .error (.missingChallenge challengeName)
        | some challenge =>
          match parse outgoing with
          | .error cause => .error (.outgoingParse cause)
          | .ok outgoingMsg =>
            if outgoingMsg.method = [] ∨ outgoingMsg.requestURI = [] then
              .error .notRequest
            else
              buildDigestAuthHeader e draw headerName challenge outgoingMsg.method
                outgoingMsg.requestURI
                (resolveAuthKeyword option.username e.authUsername)
                (resolveAuthKeyword option.password e.authPassword)
      else .error (.notChallenge challengeMsg.statusCode)

/-! ### Rendering -/

/-- `authPlaceholder`. -/
def authPlaceholder : Bytes :=
  ascii "Authorization: pending"

/-- The headers of the keywords, each with the key it is stored under; the last one
comes first.  The first error wins. -/
def buildAuthHeaders [PrintTable] (e : AuthConfig) (env : Environment) (outgoing : Bytes)
    (c : Context) : Nat → List AuthKeywordOptions → Values → Except RenderError Values
  | _, [], built => .ok built
  | n, option :: rest, built =>
    match buildAuthHeader e env (e.randomHex n) outgoing c option with
    | .error error => .error error
    | .ok authHeader =>
      buildAuthHeaders e env outgoing c (n + 1) rest ((option.tokenKey, authHeader) :: built)

/-- `RenderMessageStrict` and the terminator. -/
def renderTerminated (env : Passes) (raw : Bytes) (c : Context) :
    Outcome RenderError Bytes :=
  match renderMessageStrict env raw c with
  | .error error => .fail (.token error)
  | .ok rendered => .ok (ensureMessageTerminator rendered)

/-- `renderSIPMessage`, with what its provisional and its final render read; the challenge is read
in between.  The cache of normalised templates holds what is computed here. -/
def renderSIPMessage [PrintTable] (e : AuthConfig) (provisional final : Passes) (raw : Bytes)
    (c : Context) : Outcome RenderError Bytes :=
  let raw := normalizeSIPScenarioLineIndent raw
  let c := { c with clockTick := e.clockTick, dynamicID := e.dynamicID }
  match extractAuthKeywordOptions raw with
  | none => .panics
  | some [] => renderTerminated final raw c
  | some (option :: others) =>
    let options := option :: others
    let pending := options.map fun option => (option.tokenKey, authPlaceholder)
    match renderTerminated provisional raw
        { c with extraKeywords := pending ++ c.extraKeywords } with
    | .panics => .panics
    | .fail error => .fail error
    | .ok outgoing =>
      match buildAuthHeaders e provisional.second outgoing c 0 options [] with
      | .error error => .fail error
      | .ok headers =>
        renderTerminated final raw { c with extraKeywords := headers ++ c.extraKeywords }

end Digest

/-! ### A Digest header is one line

All its values are quoted but the algorithm, which is copied from the challenge, and a
challenge is the value of a parsed header. -/

theorem splitAuthParamsFrom_noLF
    (noLF : lf ∉ current) (runes : ∀ part ∈ parts, lf ∉ encodeRune part.rune) :
    ∀ param ∈ splitAuthParamsFrom quoted current parts, lf ∉ param := by
  induction parts generalizing quoted current with
  | nil =>
    simp only [splitAuthParamsFrom]
    split
    · simp
    · simpa using fun member => noLF (trimSpace_subset current member)
  | cons part rest ih =>
    simp only [forall_mem_cons] at runes
    have longer : lf ∉ current ++ encodeRune part.rune := by
      rw [mem_append, not_or]
      exact ⟨noLF, runes.1⟩
    simp only [splitAuthParamsFrom]
    split
    · exact ih longer runes.2
    · split
      · simp only [forall_mem_cons]
        exact ⟨fun member => noLF (trimSpace_subset current member),
          ih (by simp) runes.2⟩
      · exact ih longer runes.2

theorem splitAuthParams_noLF (noLF : lf ∉ value) :
    ∀ param ∈ splitAuthParams value, lf ∉ param := by
  apply splitAuthParamsFrom_noLF (by simp)
  intro part inside member
  have isLF := lf_mem_encodeRune (segment_rune inside).1 member
  exact noLF (mem_of_segment_rune inside (by decide) isLF)

section OneLine

variable [CaseTables]

theorem challengeParam_noLF {out param} (noLF : lf ∉ out.algorithm)
    (paramNoLF : lf ∉ param) : lf ∉ (challengeParam out param).algorithm := by
  unfold challengeParam
  split
  · exact noLF
  · rename_i key rawValue found
    have valueNoLF : lf ∉ trim (trimSpace rawValue) [doubleQuote] := by
      intro member
      have inValue := trimSpace_subset rawValue (trim_subset _ _ member)
      rw [(cut_eq_some found).1] at paramNoLF
      exact paramNoLF (mem_append_right _ (mem_cons_of_mem _ inValue))
    dsimp only
    rcases switch_cases (toLower (trimSpace key)) _ out with same | ⟨entry, member, result⟩
    · rw [same]
      exact noLF
    · rw [result]
      simp only [mem_cons, not_mem_nil, or_false] at member
      rcases member with rfl | rfl | rfl | rfl | rfl
      all_goals first
        | exact noLF
        | exact valueNoLF

theorem challengeParams_noLF {texts : List Bytes} {out : DigestChallenge}
    (noLF : lf ∉ out.algorithm) (textsNoLF : ∀ text ∈ texts, lf ∉ text) :
    lf ∉ (texts.foldl challengeParam out).algorithm := by
  induction texts generalizing out with
  | nil => exact noLF
  | cons text rest ih =>
    simp only [forall_mem_cons] at textsNoLF
    exact ih (challengeParam_noLF noLF textsNoLF.1) textsNoLF.2

theorem parseDigestChallenge_noLF {value : Bytes} {params : DigestChallenge} (noLF : lf ∉ value)
    (parsed : parseDigestChallenge value = some params) : lf ∉ params.algorithm := by
  unfold parseDigestChallenge at parsed
  dsimp only at parsed
  obtain ⟨_, parsed⟩ := of_refusal parsed
  rw [← Option.some.inj parsed]
  apply challengeParams_noLF (by simp [DigestChallenge.zero])
  apply splitAuthParams_noLF
  exact fun member =>
    noLF (trimSpace_subset value (drop_subset _ _ (trimSpace_subset _ member)))

theorem chooseQop_noLF (chosen : chooseQop offered = some qop) :
    lf ∉ qop := by
  unfold chooseQop at chosen
  repeat' split at chosen
  all_goals first
    | (cases chosen; decide)
    | cases chosen

variable [PrintTable] (username uri response cnonce : Bytes) (params : DigestChallenge)

omit [CaseTables] in
theorem digestParts_noLF
    (nameNoLF : lf ∉ headerName) (algorithmNoLF : lf ∉ algorithm) (qopNoLF : lf ∉ qop)
    (ncNoLF : lf ∉ nc) :
    ∀ part ∈ digestParts headerName username uri response params algorithm qop nc cnonce,
      lf ∉ part := by
  have labelled : ∀ {label text : Bytes}, lf ∉ label → lf ∉ text → lf ∉ label ++ text := by
    intro label text labelNoLF textNoLF
    rw [mem_append, not_or]
    exact ⟨labelNoLF, textNoLF⟩
  rw [digestParts, forall_mem_append, forall_mem_append]
  refine ⟨⟨?_, ?_⟩, ?_⟩
  · simp only [forall_mem_cons]
    exact ⟨labelled (labelled nameNoLF (by decide)) (quote_noLF _),
      labelled (by decide) (quote_noLF _), labelled (by decide) (quote_noLF _),
      labelled (by decide) (quote_noLF _), labelled (by decide) (quote_noLF _),
      labelled (by decide) algorithmNoLF, by simp⟩
  · split
    · rw [forall_mem_singleton]
      exact labelled (by decide) (quote_noLF _)
    · simp
  · split
    · simp only [forall_mem_cons]
      exact ⟨labelled (by decide) qopNoLF, labelled (by decide) ncNoLF,
        labelled (by decide) (quote_noLF _), by simp⟩
    · simp

omit [CaseTables] in
/-- The joined parts of a Digest header are one line that is not blank. -/
theorem digestParts_oneLine
    (nameNoLF : lf ∉ headerName) (algorithmNoLF : lf ∉ algorithm) (qopNoLF : lf ∉ qop)
    (ncNoLF : lf ∉ nc) :
    lf ∉ join (digestParts headerName username uri response params algorithm qop nc cnonce)
        (ascii ", ") ∧
      trimSpace (join (digestParts headerName username uri response params algorithm qop nc cnonce)
        (ascii ", ")) ≠ [] := by
  constructor
  · intro member
    rcases mem_join member with ⟨part, inParts, inside⟩ | between
    · exact digestParts_noLF username uri response cnonce params nameNoLF algorithmNoLF qopNoLF
        ncNoLF part inParts inside
    · exact absurd between (by decide)
  · have hasColon : colon ∈ join (digestParts headerName username uri response params algorithm qop
        nc cnonce) (ascii ", ") := by
      rw [digestParts, append_assoc, cons_append, cons_append, join_cons_cons]
      refine mem_append_left _ (mem_append_left _ (mem_append_right _ ?_))
      decide
    exact trimSpace_ne_nil hasColon (by decide) (by decide)

variable {e : AuthConfig}

/-- A Digest header is one line. -/
theorem buildDigestAuthHeader_oneLine {draw headerName challenge method uri username password authHeader}
    (nameNoLF : lf ∉ headerName) (challengeNoLF : lf ∉ challenge)
    (built : buildDigestAuthHeader e draw headerName challenge method uri username password =
      .ok authHeader) :
    lf ∉ authHeader ∧ trimSpace authHeader ≠ [] := by
  have algorithmNoLF {params} (parsed : parseDigestChallenge challenge = some params) :
      lf ∉ if params.algorithm = [] then ascii "MD5" else params.algorithm := by
    split
    · decide
    · exact parseDigestChallenge_noLF challengeNoLF parsed
  revert built
  fun_cases buildDigestAuthHeader e draw headerName challenge method uri username password <;>
    rintro ⟨⟩
  case case5 parsed _ _ _ _ _ _ _ chosen =>
    exact digestParts_oneLine _ _ _ _ _ nameNoLF (algorithmNoLF parsed) (chooseQop_noLF chosen)
      (by simp)
  case case7 parsed _ _ _ chosen _ _ _ _ _ _ _ _ =>
    exact digestParts_oneLine _ _ _ _ _ nameNoLF (algorithmNoLF parsed) (chooseQop_noLF chosen)
      (by decide)

omit [PrintTable] in
theorem header_mem {headers name value}
    (found : header headers name = some value) : ∃ entry ∈ headers, value ∈ entry.2 := by
  obtain ⟨entry, member, value_eq⟩ := exists_of_findSome?_eq_some found
  obtain ⟨_, value_eq⟩ := of_guard value_eq
  exact ⟨entry, member, mem_of_mem_head? value_eq⟩

theorem buildAuthHeader_oneLine {env draw outgoing authHeader c option}
    (built : buildAuthHeader e env draw outgoing c option = .ok authHeader) :
    lf ∉ authHeader ∧ trimSpace authHeader ≠ [] := by
  revert built
  fun_cases buildAuthHeader e env draw outgoing c option
  case case6 parsed _ headerName _ _ found _ _ _ =>
    intro built
    obtain ⟨entry, member, inside⟩ := header_mem found
    have challengeNoLF :=
      parse_oneLine parsed entry ((env.order.perm _).subset member) _ inside
    refine buildDigestAuthHeader_oneLine ?_ challengeNoLF built
    simp only [headerName]
    split <;> decide
  all_goals rintro ⟨⟩

/-- The keywords that are set for a message are single lines. -/
theorem buildAuthHeaders_oneLine {env outgoing c n options before headers}
    (oneLine : OneLine before)
    (built : buildAuthHeaders e env outgoing c n options before = .ok headers) :
    OneLine headers := by
  induction options generalizing n before with
  | nil =>
    cases built
    exact oneLine
  | cons option rest ih =>
    simp only [buildAuthHeaders] at built
    split at built
    · cases built
    · rename_i authHeader headerBuilt
      refine @ih _ ((option.tokenKey, authHeader) :: before) ?_ built
      simp only [OneLine, forall_mem_cons]
      exact ⟨buildAuthHeader_oneLine headerBuilt, oneLine⟩

end OneLine

end Gossipper.Engine
