/-
Module: Gossipper.Sip.Matching
Purpose: Which received message satisfies a `<recv>` filter, and which response
  belongs to the last sent request, after `internal/sip/message.go`.  Each test
  exists twice: once on the bytes of the last sent message and once on values
  extracted from it.
Trusted boundary: none
Main exports: Reparse, matchRecvCached_eq, responseMatchesTransaction_eq, responseMatchesCached_eq
-/
import Gossipper.Sip.Message

namespace Gossipper.Sip

open Go

/-- An order in which `range` visits maps. -/
structure MapOrder where
  arrange : Headers → Headers
  perm : ∀ headers, (arrange headers).Perm headers

/-- The order in which the entries were added. -/
def MapOrder.insertion : MapOrder where
  arrange := id
  perm := fun _ => .refl _

/-- What a `ParseInto` on a pooled message depends on besides its bytes: the
message the pool hands out, and the order of the header map it fills. -/
structure Reparse where
  pooled : Message
  order : MapOrder

/-- A parse into a message that the pool has just made. -/
def Reparse.fresh : Reparse := ⟨.zero, .insertion⟩

/-- The headers of a message that is parsed into a pooled message, with its
status and method. -/
def Reparse.parse (circumstances : Reparse) (raw : Bytes) : Option Message :=
  match parseInto circumstances.pooled raw with
  | (_, some _) => none
  | (msg, none) => some { msg with headers := circumstances.order.arrange msg.headers }

/-- Neither the pooled message nor the order of the headers decides whether a message
is a request, and of which method. -/
theorem Reparse.parse_kind {circumstances : Reparse} {raw : Bytes} {msg : Message}
    (parsed : circumstances.parse raw = some msg) :
    msg.kind = (parseStartLine (firstLine raw) .zero).1.kind := by
  unfold Reparse.parse at parsed
  split at parsed
  · cases parsed
  · rename_i found succeeds
    cases parsed
    unfold parseInto at succeeds
    have kind : found.kind = _ := parseBytes_kind rfl succeeds
    exact kind

/-- `parseRecvResponseFilter`. -/
def parseRecvResponseFilter (response : Bytes) : Option Int :=
  match fields (trimSpace response) with
  | [] => none
  | first :: _ =>
    match atoi first with
    | (_, some _) => none
    | (n, none) => some n

section Matching

variable [CaseTables]

/-- `MatchRecv`. -/
def matchRecv (circumstances : Reparse) (msg : Message) (request response lastSent : Bytes) :
    Bool :=
  if request ≠ [] then equalFold msg.method request
  else if response = [] then false
  else if parseRecvResponseFilter response ≠ some msg.statusCode then false
  else if lastSent = [] then true
  else
    match circumstances.parse lastSent with
    | none => true
    | some req =>
      if req.statusCode ≠ 0 ∨ req.method = [] then true
      else
        match parseCSeq req.headers, parseCSeq msg.headers with
        | some (reqNum, reqMeth), some (respNum, respMeth) =>
          reqNum == respNum && equalFold (trimSpace reqMeth) (trimSpace respMeth)
        | _, _ => true

/-- `MatchRecvCached`. -/
def matchRecvCached (msg : Message) (request response : Bytes) (cseqNum : Int)
    (cseqMethod : Bytes) : Bool :=
  if request ≠ [] then equalFold msg.method request
  else if response = [] then false
  else if parseRecvResponseFilter response ≠ some msg.statusCode then false
  else if cseqMethod = [] then true
  else
    match parseCSeq msg.headers with
    | none => true
    | some (respNum, respMeth) =>
      cseqNum == respNum && equalFold cseqMethod (trimSpace respMeth)

/-- `ResponseMatchesTransaction`. -/
def responseMatchesTransaction (circumstances : Reparse) (msg : Message) (lastSent : Bytes) :
    Bool :=
  if lastSent = [] then true
  else
    match circumstances.parse lastSent with
    | none => true
    | some req =>
      if req.statusCode ≠ 0 ∨ req.method = [] then true
      else
        match viaBranch req.headers, viaBranch msg.headers with
        | some reqBranch, some respBranch =>
          if !equalFold reqBranch respBranch then false
          else
            match parseCSeq req.headers, parseCSeq msg.headers with
            | some (_, reqMeth), some (_, respMeth) =>
              equalFold (trimSpace reqMeth) (trimSpace respMeth)
            | _, _ => true
        | _, _ => true

/-- `ResponseMatchesCached`. -/
def responseMatchesCached (msg : Message) (branch method : Bytes) : Bool :=
  if branch = [] then true
  else
    match viaBranch msg.headers with
    | none => true
    | some respBranch =>
      if !equalFold branch respBranch then false
      else if method = [] then true
      else
        match parseCSeq msg.headers with
        | none => true
        | some (_, respMeth) => equalFold method (trimSpace respMeth)

/-! ### What a test compares with

Both versions of a test compare the message with at most one CSeq and one
branch; they differ in where these come from. -/

/-- The CSeq that a received message has to carry, if any. -/
abbrev CSeqKey := Option (Int × Bytes)

/-- A message carries the CSeq of the key, or there is nothing to compare. -/
def CSeqKey.accepts (key : CSeqKey) (headers : Headers) : Bool :=
  match key, parseCSeq headers with
  | some (num, method), some (respNum, respMeth) =>
    num == respNum && equalFold method (trimSpace respMeth)
  | _, _ => true

/-- Two keys accept the same messages. -/
def CSeqKey.Agrees : CSeqKey → CSeqKey → Prop
  | none, none => True
  | some (num, method), some (num', method') => num = num' ∧ foldKey method = foldKey method'
  | _, _ => False

/-- The branch that a response has to carry, if any. -/
abbrev BranchKey := Option Bytes

/-- Two branches accept the same responses. -/
def BranchKey.Agrees : BranchKey → BranchKey → Prop
  | none, none => True
  | some branch, some branch' => foldKey branch = foldKey branch'
  | _, _ => False

/-- A response carries the branch and the CSeq method of a transaction, or there
is nothing to compare. -/
def transactionAccepts (branch : BranchKey) (cseq : CSeqKey) (headers : Headers) : Bool :=
  match branch, viaBranch headers with
  | some branch, some respBranch =>
    if !equalFold branch respBranch then false
    else
      match cseq, parseCSeq headers with
      | some (_, method), some (_, respMeth) => equalFold method (trimSpace respMeth)
      | _, _ => true
  | _, _ => true

/-- The status and request part of a `<recv>` filter, before the CSeq test. -/
def filterAccepts (msg : Message) (request response : Bytes) (sameCSeq : Bool) : Bool :=
  if request ≠ [] then equalFold msg.method request
  else if response = [] then false
  else if parseRecvResponseFilter response ≠ some msg.statusCode then false
  else sameCSeq

/-- The last sent message, when it is a request. -/
def Reparse.request (circumstances : Reparse) (lastSent : Bytes) : Option Message :=
  match circumstances.parse lastSent with
  | none => none
  | some req => if req.statusCode ≠ 0 ∨ req.method = [] then none else some req

/-- The CSeq of the last sent request. -/
def Reparse.cseq (circumstances : Reparse) (lastSent : Bytes) : CSeqKey :=
  (circumstances.request lastSent).bind fun req =>
    (parseCSeq req.headers).map fun cseq => (cseq.1, trimSpace cseq.2)

/-- The Via branch of the last sent request. -/
def Reparse.branch (circumstances : Reparse) (lastSent : Bytes) : BranchKey :=
  (circumstances.request lastSent).bind fun req => viaBranch req.headers

/-- A cached CSeq; the executor keeps an empty method until it has one. -/
def cachedCSeqKey (cseqNum : Int) (cseqMethod : Bytes) : CSeqKey :=
  if cseqMethod = [] then none else some (cseqNum, cseqMethod)

/-- A cached branch. -/
def cachedBranchKey (branch : Bytes) : BranchKey :=
  if branch = [] then none else some branch

omit [CaseTables] in
theorem Reparse.parse_nil (circumstances : Reparse) : circumstances.parse [] = none := by
  rfl

open CSeqKey

theorem matchRecv_eq (circumstances : Reparse) (msg : Message)
    (request response lastSent : Bytes) :
    matchRecv circumstances msg request response lastSent =
      filterAccepts msg request response ((circumstances.cseq lastSent).accepts msg.headers) := by
  by_cases empty : lastSent = []
  · subst empty
    simp [matchRecv, filterAccepts, Reparse.cseq, Reparse.request, Reparse.parse_nil,
      accepts]
  · simp only [matchRecv, filterAccepts, empty, if_false, Reparse.cseq, Reparse.request]
    cases circumstances.parse lastSent with
    | none => simp [accepts]
    | some req =>
      by_cases notRequest : req.statusCode ≠ 0 ∨ req.method = []
      · simp [notRequest, accepts]
      · cases sent : parseCSeq req.headers <;> cases received : parseCSeq msg.headers <;>
          simp [notRequest, accepts, sent, received]

theorem matchRecvCached_eq (msg : Message) (request response : Bytes) (cseqNum : Int)
    (cseqMethod : Bytes) :
    matchRecvCached msg request response cseqNum cseqMethod =
      filterAccepts msg request response
        ((cachedCSeqKey cseqNum cseqMethod).accepts msg.headers) := by
  by_cases empty : cseqMethod = []
  · simp [matchRecvCached, filterAccepts, cachedCSeqKey, empty, accepts]
  · cases received : parseCSeq msg.headers <;>
      simp [matchRecvCached, filterAccepts, cachedCSeqKey, empty, accepts, received]

theorem responseMatchesTransaction_eq (circumstances : Reparse) (msg : Message)
    (lastSent : Bytes) :
    responseMatchesTransaction circumstances msg lastSent =
      transactionAccepts (circumstances.branch lastSent) (circumstances.cseq lastSent)
        msg.headers := by
  by_cases empty : lastSent = []
  · subst empty
    simp [responseMatchesTransaction, Reparse.branch, Reparse.request, Reparse.parse_nil,
      transactionAccepts]
  · simp only [responseMatchesTransaction, empty, if_false, Reparse.cseq, Reparse.branch,
      Reparse.request]
    cases circumstances.parse lastSent with
    | none => simp [transactionAccepts]
    | some req =>
      by_cases notRequest : req.statusCode ≠ 0 ∨ req.method = []
      · simp [notRequest, transactionAccepts]
      · cases sentBranch : viaBranch req.headers <;>
          cases receivedBranch : viaBranch msg.headers <;>
          cases sent : parseCSeq req.headers <;> cases received : parseCSeq msg.headers <;>
          simp [notRequest, transactionAccepts, sentBranch, receivedBranch, sent, received]

theorem responseMatchesCached_eq (msg : Message) (branch method : Bytes) (cseqNum : Int) :
    responseMatchesCached msg branch method =
      transactionAccepts (cachedBranchKey branch) (cachedCSeqKey cseqNum method)
        msg.headers := by
  by_cases noBranch : branch = []
  · simp [responseMatchesCached, cachedBranchKey, noBranch, transactionAccepts]
  · by_cases noMethod : method = [] <;>
      cases receivedBranch : viaBranch msg.headers <;>
      cases received : parseCSeq msg.headers <;>
      simp [responseMatchesCached, cachedBranchKey, cachedCSeqKey, noBranch, noMethod,
        transactionAccepts, receivedBranch, received]

/-! ### Keys that accept the same messages -/

variable {headers : Headers}

theorem parseCSeq_trimmed (parsed : parseCSeq headers = some (num, method)) :
    trimSpace method = method ∧ method ≠ [] := by
  revert parsed
  fun_cases parseCSeq headers <;> rintro ⟨⟩
  rename_i value _ first second rest split _
  have isField := List.mem_cons_of_mem first (List.getLast_mem (List.cons_ne_nil second rest))
  rw [← split] at isField
  exact ⟨trimSpace_eq_self (fields_spec isField).2, (fields_spec isField).1⟩

/-- A key that stands in the headers of some message. -/
def CSeqKey.Occurs (key : CSeqKey) : Prop :=
  ∀ cseq ∈ key, ∃ headers, parseCSeq headers = some cseq

def BranchKey.Occurs (key : BranchKey) : Prop :=
  ∀ branch ∈ key, ∃ headers, viaBranch headers = some branch

theorem header_single (name value : Bytes) : header [(name, [value])] name = some value := by
  simp [header]

@[simp] theorem CSeqKey.accepts_none (headers : Headers) :
    accepts none headers = true := rfl

theorem CSeqKey.accepts_own (own : parseCSeq headers = some (num, method)) (key : CSeqKey) :
    key.accepts headers = true ↔
      ∀ cseq ∈ key, cseq.1 = num ∧ foldKey cseq.2 = foldKey method := by
  cases key with
  | none => simp
  | some cseq => simp [accepts, own, (parseCSeq_trimmed own).1, equalFold_iff]

theorem CSeqKey.exists_rejected (cseq : Int × Bytes) :
    ∃ headers, ¬ accepts (some cseq) headers = true := by
  have zero : parseCSeq [(ascii "CSeq", [ascii "0 A"])] = some (0, ascii "A") := by
    rw [parseCSeq, header_single]
    decide
  have one : parseCSeq [(ascii "CSeq", [ascii "1 A"])] = some (1, ascii "A") := by
    rw [parseCSeq, header_single]
    decide
  by_cases isZero : cseq.1 = 0
  · exact ⟨_, by rw [accepts_own one]; simp [isZero]⟩
  · exact ⟨_, by rw [accepts_own zero]; simp [isZero]⟩

/-- Two keys accept the same messages exactly when they are equal up to the case
of the method. -/
theorem CSeqKey.accepts_eq_iff {left right : CSeqKey} (rightOccurs : right.Occurs) :
    (∀ headers, left.accepts headers = right.accepts headers) ↔ left.Agrees right := by
  match left, right with
  | none, none => simp [CSeqKey.Agrees]
  | some cseq, none =>
    obtain ⟨headers, rejected⟩ := exists_rejected cseq
    simp only [CSeqKey.Agrees, iff_false]
    exact fun same => rejected (same headers)
  | none, some cseq =>
    obtain ⟨headers, rejected⟩ := exists_rejected cseq
    simp only [CSeqKey.Agrees, iff_false]
    exact fun same => rejected (same headers).symm
  | some (num, method), some (num', method') =>
    constructor
    · intro same
      obtain ⟨headers, own⟩ := rightOccurs _ rfl
      have accepted : accepts (some (num, method)) headers = true := by
        rw [same, accepts_own own]
        simp
      exact (accepts_own own _).mp accepted _ rfl
    · rintro ⟨rfl, sameMethod⟩ headers
      cases received : parseCSeq headers <;>
        simp [accepts, received, equalFold, sameMethod]

@[simp] theorem transactionAccepts_none (cseq : CSeqKey) (headers : Headers) :
    transactionAccepts none cseq headers = true := rfl

theorem BranchKey.exists_alone (found : viaBranch headers = some branch) :
    ∃ alone, viaBranch alone = some branch ∧ parseCSeq alone = none := by
  unfold viaBranch at found
  split at found
  · cases found
  · rename_i value _
    refine ⟨[(ascii "Via", [value])], ?_, ?_⟩
    · rw [viaBranch, header_single]
      exact found
    · have otherName : equalFold (ascii "Via") (ascii "CSeq") = false := by
        rw [equalFold, foldKey_of_ascii (by decide), foldKey_of_ascii (by decide)]
        decide
      simp [parseCSeq, header, otherName]

/-- On a response with a branch and no CSeq, only the branch counts. -/
theorem transactionAccepts_alone
    (own : viaBranch headers = some branch) (noCSeq : parseCSeq headers = none)
    (key : BranchKey) (cseq : CSeqKey) :
    transactionAccepts key cseq headers = true ↔
      ∀ wanted ∈ key, foldKey wanted = foldKey branch := by
  cases key with
  | none => simp
  | some wanted => cases cseq <;> simp [transactionAccepts, own, noCSeq, equalFold_iff]

theorem BranchKey.exists_rejected (wanted : Bytes) (cseq : CSeqKey) :
    ∃ headers, ¬ transactionAccepts (some wanted) cseq headers = true := by
  have isX : viaBranch [(ascii "Via", [ascii ";branch=x"])] = some (ascii "x") := by
    rw [viaBranch, header_single]
    decide
  have isY : viaBranch [(ascii "Via", [ascii ";branch=y"])] = some (ascii "y") := by
    rw [viaBranch, header_single]
    decide
  obtain ⟨aloneX, ownX, noCSeqX⟩ := BranchKey.exists_alone isX
  obtain ⟨aloneY, ownY, noCSeqY⟩ := BranchKey.exists_alone isY
  have different : foldKey (ascii "x") ≠ foldKey (ascii "y") := by
    rw [foldKey_of_ascii (by decide), foldKey_of_ascii (by decide)]
    decide
  by_cases sameAsX : foldKey wanted = foldKey (ascii "x")
  · refine ⟨aloneY, ?_⟩
    rw [transactionAccepts_alone ownY noCSeqY]
    simpa [sameAsX] using different
  · refine ⟨aloneX, ?_⟩
    rw [transactionAccepts_alone ownX noCSeqX]
    simpa using sameAsX

/-- With agreeing CSeq keys, two transactions accept the same responses exactly
when their branches are equal up to case. -/
theorem transactionAccepts_eq_iff (rightOccurs : right.Occurs) (sameCSeq : cseq.Agrees cseq') :
    (∀ headers, transactionAccepts left cseq headers = transactionAccepts right cseq' headers) ↔
      left.Agrees right := by
  match left, right with
  | none, none => simp [BranchKey.Agrees]
  | some branch, none =>
    obtain ⟨headers, rejected⟩ := BranchKey.exists_rejected branch cseq
    simp only [BranchKey.Agrees, iff_false]
    exact fun same => rejected (same headers)
  | none, some branch =>
    obtain ⟨headers, rejected⟩ := BranchKey.exists_rejected branch cseq'
    simp only [BranchKey.Agrees, iff_false]
    exact fun same => rejected (same headers).symm
  | some branch, some branch' =>
    constructor
    · intro same
      obtain ⟨found, inHeaders⟩ := rightOccurs _ rfl
      obtain ⟨headers, own, noCSeq⟩ := BranchKey.exists_alone inHeaders
      have accepted : transactionAccepts (some branch) cseq headers = true := by
        rw [same, transactionAccepts_alone own noCSeq]
        simp
      exact (transactionAccepts_alone own noCSeq _ _).mp accepted _ rfl
    · intro sameBranch headers
      simp only [BranchKey.Agrees] at sameBranch
      match cseq, cseq' with
      | none, none =>
        cases receivedBranch : viaBranch headers <;>
          simp [transactionAccepts, receivedBranch, equalFold, sameBranch]
      | some (num, method), some (num', method') =>
        simp only [CSeqKey.Agrees] at sameCSeq
        cases receivedBranch : viaBranch headers <;> cases received : parseCSeq headers <;>
          simp [transactionAccepts, receivedBranch, received, equalFold, sameBranch,
            sameCSeq.2]

end Matching

end Gossipper.Sip
