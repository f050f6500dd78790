/-
Module: Gossipper.Template.Resolve
Purpose: The two resolvers of a token, as two separate tables: `resolveToken` leaves
  out what it does not know, `resolveTokenStrict` reports it; what a changed context changes
  in a token; and rendering a template with its lines, the tokens in a line and the two
  passes of a message with a `[len]` token, after `internal/template/render.go`.
Trusted boundary: none
Main exports: resolveTokenStrict, resolveTokenStrict_override, expandTokensStrict, renderLineStrict
-/
import Mathlib.Data.List.Forall2
import Gossipper.Template.Context

namespace Gossipper.Template

open Go Sip

/-- A `switch` on a string: the first case that lists it, or the default. -/
def switch {α : Type} (value : Bytes) : List (List String × α) → α → α
  | [], otherwise => otherwise
  | (names, result) :: rest, otherwise =>
    if names.any fun name => ascii name = value then result else switch value rest otherwise

/-- A switch gives the result of one of its cases. -/
theorem switch_cases {α : Type} (value : Bytes) (cases : List (List String × α)) (otherwise : α) :
    switch value cases otherwise = otherwise ∨
      ∃ entry ∈ cases, switch value cases otherwise = entry.2 := by
  induction cases with
  | nil => exact .inl rfl
  | cons first rest ih =>
    simp only [switch]
    split
    · exact .inr ⟨first, List.mem_cons_self, rfl⟩
    · rcases ih with default | ⟨entry, member, result⟩
      · exact .inl default
      · exact .inr ⟨entry, List.mem_cons_of_mem _ member, result⟩

/-- Switches over the same names are related when the results of every case that lists
the value are. -/
theorem switch_rel {α β : Type} {Rel : α → β → Prop} {value left right otherLeft otherRight}
    (cases : List.Forall₂ (fun l r => l.1 = r.1 ∧
      ((l.1.any fun name => ascii name = value) = true → Rel l.2 r.2)) left right)
    (others : Rel otherLeft otherRight) :
    Rel (switch value left otherLeft) (switch value right otherRight) := by
  induction cases with
  | nil => exact others
  | cons first _ ih =>
    obtain ⟨sameNames, results⟩ := first
    simp only [switch, ← sameNames]
    split
    · exact results ‹_›
    · exact ih

/-- The errors of the strict resolver, with the token they quote. -/
inductive TokenError where
  | unresolvedFile (token : Bytes)
  | unresolvedField (token : Bytes)
  | unresolvedFill (token : Bytes)
  | unsupportedKeyword (token : Bytes)
deriving DecidableEq, Repr

/-- The key between the brackets of a token. -/
def tokenKey (token : Bytes) : Bytes :=
  trimSuffix (trimPrefix token (ascii "[")) (ascii "]")

/-- An extra keyword that is set and not blank. -/
def Context.keyword (c : Context) (name : String) : Option Bytes :=
  (c.extraKeywords.lookup (ascii name)).filter fun v => trimSpace v ≠ []

section Resolvers

variable [CaseTables]

/-- `renderFieldTokenWithVariables` with the arguments of the context. -/
def Context.field (env : Environment) (c : Context) (key : Bytes) : Option Bytes :=
  renderFieldTokenWithVariables env key c.basePath c.callNumber c.vars c.csvFieldOverrides
    c.injectionFile

/-! ### The lenient resolver

A result is a replacement, whether it is to be written, and whether the line is
dropped. -/

/-- The `last_` keywords of `resolveToken`. -/
def resolveLast (env : Environment) (c : Context) (key : Bytes) : Bytes × Bool × Bool :=
  let header := trimPrefix key (ascii "last_")
  if equalFold header (ascii "message") then (c.lastMessage, true, false)
  else if equalFold header (ascii "Request_URI") then
    (extractLastRequestURI env c.lastMessage c.lastHeaders, true, false)
  else
    let includeName := hasSuffix header [colon]
    let header := trimSuffix header [colon]
    match lookupHeader env c.lastHeaders header with
    | none => ([], false, true)
    | some values => (renderLastHeader header values includeName, true, false)

/-- The cases of `resolveToken`. -/
def keywords (env : Environment) (c : Context) (delta : Int) :
    List (List String × (Bytes × Bool × Bool)) :=
  [ (["service"], (c.service, true, false)),
    (["server_ip"],
      if c.serverIP ≠ [] then (c.serverIP, true, false) else (c.localIP, true, false)),
    (["remote_host"], (c.remoteHost, true, false)),
    (["remote_ip"], (c.remoteIP, true, false)),
    (["remote_port"], (itoa (addInt c.remotePort delta), true, false)),
    (["local_ip"], (c.localIP, true, false)),
    (["local_ip_type"], (c.localIPType, true, false)),
    (["local_port"], (itoa (addInt c.localPort delta), true, false)),
    (["transport"], (toUpper (transportName c.transport), true, false)),
    (["sip_transport"], (toUpper (transportName c.transport), true, false)),
    (["contact_transport"],
      match c.keyword "contact_transport" with
      | some v => (toUpper v, true, false)
      | none => (toUpper (transportName c.transport), true, false)),
    (["media_transport"],
      match c.keyword "media_transport" with
      | some v => (toLower v, true, false)
      | none => (toLower (transportName c.transport), true, false)),
    (["media_ip"], (c.mediaIP, true, false)),
    (["media_ip_type"], (c.mediaIPType, true, false)),
    (["media_port", "rtpstream_audio_port", "auto_media_port"],
      (itoa (addInt c.mediaPort delta), true, false)),
    (["ice_ufrag"], (c.iceUfrag, true, false)),
    (["ice_pwd"], (c.icePwd, true, false)),
    (["rtpstream_video_port"], (itoa (addInt (addInt c.mediaPort 2) delta), true, false)),
    (["call_id"], (c.callID, true, false)),
    (["cseq"], (itoa (addInt c.cseq delta), true, false)),
    (["call_number"], (itoa c.callNumber, true, false)),
    (["msg_index"], (itoa c.messageIndex, true, false)),
    (["pid"], (itoa c.pid, true, false)),
    (["users"], (itoa c.users, true, false)),
    (["userid"], (itoa c.userID, true, false)),
    (["tdmmap"], (ascii "0.0.0/0", true, false)),
    (["branch"],
      if delta = 0 then (c.branchBase, true, false)
      else (c.branchBase ++ ascii "-" ++ itoa delta, true, false)),
    (["len"], (itoa (addInt c.bodyLength delta), true, false)),
    (["last_message"], (c.lastMessage, true, false)),
    (["timestamp"], (env.timestamp, true, false)),
    (["date"], (env.date, true, false)),
    (["sipp_version"],
      if trimSpace c.sippVersion = [] then (ascii "Gossipper", true, false)
      else (c.sippVersion, true, false)),
    (["clock_tick"], (itoa (addInt c.clockTick delta), true, false)),
    (["dynamic_id"], (itoa (addInt c.dynamicID delta), true, false)),
    (["last_cseq_number"], (extractCSeqNumber env c.lastHeaders, true, false)),
    (["next_url"], (extractContactURI env c.lastHeaders, true, false)),
    (["peer_tag_param"],
      if extractPeerTag env c.lastHeaders = [] then ([], true, false)
      else (ascii ";tag=" ++ extractPeerTag env c.lastHeaders, true, false)),
    (["dtmf_digits"], ((c.vars.lookup (ascii "dtmf_digits")).getD [], true, false)) ]

/-- The default case of `resolveToken`. -/
def resolveOther (c : Context) (key base : Bytes) : Bytes × Bool × Bool :=
  if hasPrefix base [dollar] then
    match c.vars.lookup (trimPrefix base [dollar]) with
    | some v => (v, true, false)
    | none => ([], false, false)
  else
    match c.extraKeywords.lookup key with
    | some v => (v, true, false)
    | none => ([], false, false)

/-- `resolveToken`. -/
def resolveToken (env : Environment) (c : Context) (token : Bytes) : Bytes × Bool × Bool :=
  let key := tokenKey token
  if hasPrefix (toLower key) (ascii "file ") then
    match renderFileToken env key c.basePath with
    | some value => (value, true, false)
    | none => ([], false, false)
  else
    match c.field env key with
    | some value => (value, true, false)
    | none =>
      match renderFillToken env key c.vars with
      | some value => (value, true, false)
      | none =>
        if hasPrefix (toLower key) (ascii "last_") then resolveLast env c key
        else
          let (base, delta) := parseArithmetic key
          switch (toLower base) (keywords env c delta) (resolveOther c key base)

/-! ### The strict resolver

A result is a replacement and whether the line is dropped, or an error. -/

/-- The `last_` keywords of `resolveTokenStrict`. -/
def resolveLastStrict (env : Environment) (c : Context) (key : Bytes) :
    Except TokenError (Bytes × Bool) :=
  let header := trimPrefix key (ascii "last_")
  if equalFold header (ascii "message") then .ok (c.lastMessage, false)
  else if equalFold header (ascii "Request_URI") then
    .ok (extractLastRequestURI env c.lastMessage c.lastHeaders, false)
  else
    let includeName := hasSuffix header [colon]
    let header := trimSuffix header [colon]
    match lookupHeader env c.lastHeaders header with
    | none => .ok ([], true)
    | some values => .ok (renderLastHeader header values includeName, false)

/-- The cases of `resolveTokenStrict`. -/
def keywordsStrict (env : Environment) (c : Context) (delta : Int) :
    List (List String × Except TokenError (Bytes × Bool)) :=
  [ (["service"], .ok (c.service, false)),
    (["server_ip"], if c.serverIP ≠ [] then .ok (c.serverIP, false) else .ok (c.localIP, false)),
    (["remote_host"], .ok (c.remoteHost, false)),
    (["remote_ip"], .ok (c.remoteIP, false)),
    (["remote_port"], .ok (itoa (addInt c.remotePort delta), false)),
    (["local_ip"], .ok (c.localIP, false)),
    (["local_ip_type"], .ok (c.localIPType, false)),
    (["local_port"], .ok (itoa (addInt c.localPort delta), false)),
    (["transport"], .ok (toUpper (transportName c.transport), false)),
    (["sip_transport"], .ok (toUpper (transportName c.transport), false)),
    (["contact_transport"],
      match c.keyword "contact_transport" with
      | some v => .ok (toUpper v, false)
      | none => .ok (toUpper (transportName c.transport), false)),
    (["media_transport"],
      match c.keyword "media_transport" with
      | some v => .ok (toLower v, false)
      | none => .ok (toLower (transportName c.transport), false)),
    (["media_ip"], .ok (c.mediaIP, false)),
    (["media_ip_type"], .ok (c.mediaIPType, false)),
    (["media_port", "rtpstream_audio_port", "auto_media_port"],
      .ok (itoa (addInt c.mediaPort delta), false)),
    (["ice_ufrag"], .ok (c.iceUfrag, false)),
    (["ice_pwd"], .ok (c.icePwd, false)),
    (["rtpstream_video_port"], .ok (itoa (addInt (addInt c.mediaPort 2) delta), false)),
    (["call_id"], .ok (c.callID, false)),
    (["cseq"], .ok (itoa (addInt c.cseq delta), false)),
    (["call_number"], .ok (itoa c.callNumber, false)),
    (["msg_index"], .ok (itoa c.messageIndex, false)),
    (["pid"], .ok (itoa c.pid, false)),
    (["users"], .ok (itoa c.users, false)),
    (["userid"], .ok (itoa c.userID, false)),
    (["tdmmap"], .ok (ascii "0.0.0/0", false)),
    (["branch"],
      if delta = 0 then .ok (c.branchBase, false)
      else .ok (c.branchBase ++ ascii "-" ++ itoa delta, false)),
    (["len"], .ok (itoa (addInt c.bodyLength delta), false)),
    (["last_message"], .ok (c.lastMessage, false)),
    (["timestamp"], .ok (env.timestamp, false)),
    (["date"], .ok (env.date, false)),
    (["sipp_version"],
      if trimSpace c.sippVersion = [] then .ok (ascii "Gossipper", false)
      else .ok (c.sippVersion, false)),
    (["clock_tick"], .ok (itoa (addInt c.clockTick delta), false)),
    (["dynamic_id"], .ok (itoa (addInt c.dynamicID delta), false)),
    (["last_cseq_number"], .ok (extractCSeqNumber env c.lastHeaders, false)),
    (["next_url"], .ok (extractContactURI env c.lastHeaders, false)),
    (["peer_tag_param"],
      if extractPeerTag env c.lastHeaders = [] then .ok ([], false)
      else .ok (ascii ";tag=" ++ extractPeerTag env c.lastHeaders, false)),
    (["dtmf_digits"], .ok ((c.vars.lookup (ascii "dtmf_digits")).getD [], false)) ]

/-- The default case of `resolveTokenStrict`. -/
def resolveOtherStrict (c : Context) (token key base : Bytes) :
    Except TokenError (Bytes × Bool) :=
  if hasPrefix base [dollar] then
    .ok ((c.vars.lookup (trimPrefix base [dollar])).getD [], false)
  else
    match c.extraKeywords.lookup key with
    | some v => .ok (v, false)
    | none => .error (.unsupportedKeyword token)

/-- `resolveTokenStrict`. -/
def resolveTokenStrict (env : Environment) (c : Context) (token : Bytes) :
    Except TokenError (Bytes × Bool) :=
  let key := tokenKey token
  let lower := toLower key
  if hasPrefix lower (ascii "file ") then
    match renderFileToken env key c.basePath with
    | some value => .ok (value, false)
    | none => .error (.unresolvedFile token)
  else if hasPrefix lower (ascii "field") then
    match c.field env key with
    | some value => .ok (value, false)
    | none => .error (.unresolvedField token)
  else if hasPrefix lower (ascii "fill") then
    match renderFillToken env key c.vars with
    | some value => .ok (value, false)
    | none => .error (.unresolvedFill token)
  else if hasPrefix lower (ascii "last_") then resolveLastStrict env c key
  else
    let (base, delta) := parseArithmetic key
    switch (toLower base) (keywordsStrict env c delta) (resolveOtherStrict c token key base)

end Resolvers

theorem itoa_noLF (n : Int) : lf ∉ itoa n := by
  have digits : lf ∉ decimal n.natAbs := fun member => absurd (decimal_digit member).1 (by decide)
  unfold itoa
  split
  · rw [List.mem_cons, not_or]
    exact ⟨by decide, digits⟩
  · exact digits

section Tokens

variable [CaseTables] (env : Environment) (c : Context) (n : Int) (t d : Int)

/-! ### The body length -/

/-- The token is `[len]`, with or without an offset and in any case. -/
def IsLen (token : Bytes) : Prop :=
  toLower (parseArithmetic (tokenKey token)).1 = ascii "len"

theorem resolveTokenStrict_bodyLength {token} (other : ¬ IsLen token) :
    resolveTokenStrict env { c with bodyLength := n } token = resolveTokenStrict env c token := by
  unfold resolveTokenStrict
  dsimp only
  have table : switch (toLower (parseArithmetic (tokenKey token)).1)
      (keywordsStrict env { c with bodyLength := n } (parseArithmetic (tokenKey token)).2)
      (resolveOtherStrict { c with bodyLength := n } token (tokenKey token)
        (parseArithmetic (tokenKey token)).1) =
      switch (toLower (parseArithmetic (tokenKey token)).1)
        (keywordsStrict env c (parseArithmetic (tokenKey token)).2)
        (resolveOtherStrict c token (tokenKey token) (parseArithmetic (tokenKey token)).1) := by
    refine switch_rel ?_ rfl
    unfold keywordsStrict
    repeat' constructor
    all_goals intro listed
    all_goals first
      | rfl
      | exact absurd (by simpa using listed) (Ne.symm other)
  rw [table]
  rfl

theorem resolveTokenStrict_len :
    resolveTokenStrict env c (ascii "[len]") = .ok (itoa (addInt c.bodyLength 0), false) := by
  have key : tokenKey (ascii "[len]") = ascii "len" := by decide
  have lower : toLower (ascii "len") = ascii "len" := by
    simp [toLower, ascii, segments_ascii, CaseTables.lower_ascii]
    decide
  have arithmetic : parseArithmetic (ascii "len") = (ascii "len", 0) := by decide
  unfold resolveTokenStrict
  dsimp only
  rw [key, lower, arithmetic]
  dsimp only
  rw [lower]
  rfl

/-! ### Keywords that are set for a message -/

/-- A changed result is one line of text, or it was there before. -/
def Harmless (changed original : Except TokenError (Bytes × Bool)) : Prop :=
  ∀ rep drop, changed = .ok (rep, drop) → lf ∉ rep ∨ original = .ok (rep, drop)

omit [CaseTables] in
theorem Harmless.refl (result : Except TokenError (Bytes × Bool)) : Harmless result result :=
  fun _ _ same => .inr same

omit [CaseTables] in
theorem Harmless.ok (noLF : lf ∉ value) : Harmless (.ok (value, drop)) original := by
  rintro _ _ ⟨⟩
  exact .inl noLF

/-- The context of a message: the clock, the identifier and the keywords set for it. -/
def Context.override (c : Context) (clockTick dynamicID : Int) (headers : Values) : Context :=
  { c with
    clockTick := clockTick
    dynamicID := dynamicID
    extraKeywords := headers ++ c.extraKeywords }

/-- Every value is one line of text that is not blank. -/
def OneLine (headers : Values) : Prop :=
  ∀ entry ∈ headers, lf ∉ entry.2 ∧ trimSpace entry.2 ≠ []

variable {headers : Values}

omit [CaseTables] in
/-- A keyword is one of those that were set, or it is looked up as before. -/
theorem OneLine.lookup (oneLine : OneLine headers) (others : Values) (key : Bytes) :
    (∃ v, (headers ++ others).lookup key = some v ∧ lf ∉ v ∧ trimSpace v ≠ []) ∨
      (headers ++ others).lookup key = others.lookup key := by
  induction headers with
  | nil => exact .inr rfl
  | cons entry rest ih =>
    obtain ⟨name, value⟩ := entry
    simp only [OneLine, List.forall_mem_cons] at oneLine
    by_cases same : key = name
    · subst same
      exact .inl ⟨value, by simp, oneLine.1⟩
    · have skips : ((name, value) :: rest ++ others).lookup key =
          (rest ++ others).lookup key := by
        rw [List.cons_append, List.lookup_cons, beq_false_of_ne same]
      rw [skips]
      exact ih oneLine.2

omit [CaseTables] in
theorem OneLine.keyword (oneLine : OneLine headers) (c : Context) (t d : Int) (name : String) :
    (∃ v, (c.override t d headers).keyword name = some v ∧ lf ∉ v) ∨
      (c.override t d headers).keyword name = c.keyword name := by
  simp only [Context.keyword, Context.override]
  rcases oneLine.lookup c.extraKeywords (ascii name) with ⟨v, found, noLF, notBlank⟩ | same
  · exact .inl ⟨v, by simp [found, notBlank], noLF⟩
  · exact .inr (by rw [same])

omit [CaseTables] in
theorem resolveOtherStrict_override (oneLine : OneLine headers) (token key base : Bytes) :
    Harmless (resolveOtherStrict (c.override t d headers) token key base)
      (resolveOtherStrict c token key base) := by
  unfold resolveOtherStrict
  split
  · exact .refl _
  · simp only [Context.override]
    rcases oneLine.lookup c.extraKeywords key with ⟨v, found, noLF, _⟩ | same
    · rw [found]
      exact .ok noLF
    · rw [same]
      exact .refl _

/-- Table entries with the same names and harmless results. -/
abbrev HarmlessEntry (value : Bytes)
    (changed original : List String × Except TokenError (Bytes × Bool)) : Prop :=
  changed.1 = original.1 ∧
    ((changed.1.any fun name => ascii name = value) = true → Harmless changed.2 original.2)

theorem keywordsStrict_override (oneLine : OneLine headers) (value : Bytes) (delta : Int) :
    List.Forall₂ (HarmlessEntry value) (keywordsStrict env (c.override t d headers) delta)
      (keywordsStrict env c delta) := by
  have contact := oneLine.keyword c t d "contact_transport"
  have media := oneLine.keyword c t d "media_transport"
  unfold keywordsStrict
  generalize (c.override t d headers).keyword "contact_transport" = changedContact at contact ⊢
  generalize (c.override t d headers).keyword "media_transport" = changedMedia at media ⊢
  dsimp only [Context.override]
  repeat' constructor
  all_goals intro _
  all_goals first
    | exact .refl _
    | exact .ok (itoa_noLF _)
    | rcases contact with ⟨v, rfl, noLF⟩ | rfl
      · exact .ok (toUpper_noLF noLF)
      · exact .refl _
    | rcases media with ⟨v, rfl, noLF⟩ | rfl
      · exact .ok (toLower_noLF noLF)
      · exact .refl _

/-- A message's own keywords bring no line feed into a token. -/
theorem resolveTokenStrict_override (oneLine : OneLine headers) (token : Bytes) :
    Harmless (resolveTokenStrict env (c.override t d headers) token)
      (resolveTokenStrict env c token) := by
  unfold resolveTokenStrict
  dsimp only
  split
  · exact .refl _
  · split
    · exact .refl _
    · split
      · exact .refl _
      · split
        · exact .refl _
        · exact switch_rel (keywordsStrict_override env c t d oneLine _ _)
            (resolveOtherStrict_override c t d oneLine _ _ _)

end Tokens

/-! ### Rendering -/

/-- `splitLinesTo`: a line ends at a line feed, with the carriage return before it;
what stands behind the last line end is a line when it is not empty. -/
def splitLines (value : Bytes) : List Bytes :=
  let step (lines : List Bytes) (line : Bytes) : List Bytes ⊕ Empty :=
    .inl (lines ++ [trimSuffix line [cr]])
  match scanLines step [] [] value with
  | .ended lines tail => if tail = [] then lines else lines ++ [tail]

/-- The bracket that opens a token, and the one that closes it. -/
abbrev openBracket : UInt8 := 0x5B
abbrev closeBracket : UInt8 := 0x5D

/-- A part of a line: a byte that is copied, or a token with its brackets. -/
inductive Piece where
  | byte (b : UInt8)
  | token (text : Bytes)
deriving DecidableEq, Repr

/-- The token, if the part is one. -/
def Piece.token? : Piece → Option Bytes
  | .byte _ => none
  | .token text => some text

/-- The scan of a line.  The first argument is the token that is being read, in
reverse; a bracket that is never closed is an ordinary byte. -/
def piecesFrom : Option Bytes → Bytes → List Piece
  | _, [] => []
  | none, b :: rest =>
    if b = openBracket ∧ closeBracket ∈ rest then piecesFrom (some [b]) rest
    else .byte b :: piecesFrom none rest
  | some token, b :: rest =>
    if b = closeBracket then .token (b :: token).reverse :: piecesFrom none rest
    else piecesFrom (some (b :: token)) rest

/-- The parts of a line, as `expandTokens` and `expandTokensStrict` find them. -/
def pieces (line : Bytes) : List Piece :=
  piecesFrom none line

/-- `expandTokens`: the text of the line and whether it is dropped. -/
def expandTokens (resolve : Bytes → Bytes × Bool × Bool) : List Piece → Bytes × Bool
  | [] => ([], false)
  | .byte b :: rest =>
    let (text, dropLine) := expandTokens resolve rest
    (b :: text, dropLine)
  | .token token :: rest =>
    let (rep, ok, drop) := resolve token
    let (text, dropLine) := expandTokens resolve rest
    ((if ok then rep else []) ++ text, drop || dropLine)

/-- `expandTokensStrict`: the first error wins. -/
def expandTokensStrict (resolve : Bytes → Except TokenError (Bytes × Bool)) :
    List Piece → Except TokenError (Bytes × Bool)
  | [] => .ok ([], false)
  | .byte b :: rest =>
    match expandTokensStrict resolve rest with
    | .error error => .error error
    | .ok (text, dropLine) => .ok (b :: text, dropLine)
  | .token token :: rest =>
    match resolve token with
    | .error error => .error error
    | .ok (rep, drop) =>
      match expandTokensStrict resolve rest with
      | .error error => .error error
      | .ok (text, dropLine) => .ok (rep ++ text, drop || dropLine)

/-- The fate of an expanded line: a line that was not empty and has become blank is
left out, and so is one that is dropped. -/
def keepLine (line : Bytes) (value : Bytes × Bool) : Option Bytes :=
  if value.2 then none
  else if trimSpace value.1 = [] ∧ line ≠ [] then none
  else some value.1

/-- The text of the lines that are kept.  A text with a body ends with a line end, so
that the body length counts it. -/
def assemble (values : List Bytes) : Bytes :=
  let result := join values crlf
  if contains result crlfcrlf ∧ !hasSuffix result crlf then result ++ crlf else result

/-- `hasLenToken`. -/
def hasLenToken : Bytes → Bool
  | [] => false
  | b :: rest =>
    b == openBracket && (rest.take 3).map Sip.lowerByte == ascii "len" || hasLenToken rest

/-- `computeBodyLength`. -/
def computeBodyLength (msg : Bytes) : Nat :=
  match index msg crlfcrlf with
  | none => 0
  | some i => (msg.drop (i + crlfcrlf.length)).length

section Rendering

variable [CaseTables]

/-- `renderLine`, with `none` for a line that is not kept. -/
def renderLine (env : Environment) (c : Context) (line : Bytes) : Option Bytes :=
  keepLine line (expandTokens (resolveToken env c) (pieces line))

/-- `renderLineStrict`. -/
def renderLineStrict (env : Environment) (c : Context) (line : Bytes) :
    Except TokenError (Option Bytes) :=
  match expandTokensStrict (resolveTokenStrict env c) (pieces line) with
  | .error error => .error error
  | .ok value => .ok (keepLine line value)

/-- `Render`. -/
def render (env : Environment) (c : Context) (raw : Bytes) : Bytes :=
  assemble ((splitLines raw).filterMap (renderLine env c))

/-- The loop of `RenderStrict`. -/
def renderLinesStrict (env : Environment) (c : Context) :
    List Bytes → Except TokenError (List Bytes)
  | [] => .ok []
  | line :: rest =>
    match renderLineStrict env c line with
    | .error error => .error error
    | .ok value =>
      match renderLinesStrict env c rest with
      | .error error => .error error
      | .ok values => .ok (value.toList ++ values)

/-- `RenderStrict`. -/
def renderStrict (env : Environment) (c : Context) (raw : Bytes) : Except TokenError Bytes :=
  match renderLinesStrict env c (splitLines raw) with
  | .error error => .error error
  | .ok values => .ok (assemble values)

/-- What the two passes of a message read: each looks at the clock and visits the header map
anew. -/
structure Passes where
  first : Environment
  second : Environment

/-- `RenderMessage`. -/
def renderMessage (env : Passes) (raw : Bytes) (c : Context) : Bytes :=
  if !hasLenToken raw then render env.first c raw
  else
    let first := render env.first c raw
    render env.second { c with bodyLength := computeBodyLength first } raw

/-- `RenderMessageStrict`. -/
def renderMessageStrict (env : Passes) (raw : Bytes) (c : Context) : Except TokenError Bytes :=
  if !hasLenToken raw then renderStrict env.first c raw
  else
    match renderStrict env.first c raw with
    | .error error => .error error
    | .ok first => renderStrict env.second { c with bodyLength := computeBodyLength first } raw

end Rendering

end Gossipper.Template
