/-
Module: Gossipper.Engine.LastSent
Purpose: What the executor of a call remembers of the messages it has sent,
  after the `CommandSend` case of `executeCall` in `internal/engine/engine.go`,
  and when the values it caches stand for the last sent message.
Trusted boundary: none
Main exports: Sent, LastSent, LastSent.record, afterSends, lastCSeq, lastBranch,
  cachedMatching_iff
-/
import Gossipper.Sip.Matching

namespace Gossipper.Engine

open Go Sip Option

/-- A message that was sent, with the circumstances of the parse behind it. -/
structure Sent where
  payload : Bytes
  parsing : Reparse

/-- The variables of `executeCall` that a send sets. -/
structure LastSent where
  payload : Bytes
  branch : Bytes
  method : Bytes
  cseqNum : Int
  inviteStarted : Bool
  inviteBranch : Bytes
  inviteACK : Bytes
deriving DecidableEq, Repr

/-- The variables at the start of a call. -/
def LastSent.initial : LastSent where
  payload := []
  branch := []
  method := []
  cseqNum := 0
  inviteStarted := false
  inviteBranch := []
  inviteACK := []

variable (last : LastSent) (now : Reparse) (history : List Sent) (method : Bytes) (sent : Sent)
  (lastSent : Bytes)

section Record

variable [CaseTables]

/-- The CSeq found in a sent message, with its method trimmed. -/
def Sent.cseq (sent : Sent) : CSeqKey :=
  (sent.parsing.parse sent.payload).bind fun parsed =>
    (parseCSeq parsed.headers).map fun cseq => (cseq.1, trimSpace cseq.2)

/-- The Via branch found in a sent message. -/
def Sent.branch (sent : Sent) : Option Bytes :=
  (sent.parsing.parse sent.payload).bind fun parsed => viaBranch parsed.headers

/-- `lastSentBranch` keeps its value when the message has no branch. -/
def LastSent.cacheBranch (last : LastSent) (branch : Option Bytes) : LastSent :=
  { last with branch := branch.getD last.branch }

/-- `lastSentMethod` and `lastSentCSeqNum` keep their values when the message has
no CSeq. -/
def LastSent.cacheCSeq (last : LastSent) (cseq : Option (Int × Bytes)) : LastSent :=
  { last with
    method := (cseq.map fun cseq => trimSpace cseq.2).getD last.method
    cseqNum := (cseq.map Prod.fst).getD last.cseqNum }

/-- The bookkeeping for INVITE and ACK requests. -/
def LastSent.noteInvite (last : LastSent) (method : Bytes) : LastSent :=
  if equalFold method (ascii "INVITE") then
    { last with inviteStarted := true, inviteBranch := last.branch }
  else if equalFold method (ascii "ACK") ∧ last.inviteBranch ≠ [] then
    { last with inviteACK := last.payload }
  else last

/-- The updates behind a successful send. -/
def LastSent.record (last : LastSent) (sent : Sent) : LastSent :=
  let last : LastSent := { last with payload := sent.payload }
  match sent.parsing.parse sent.payload with
  | none => last
  | some parsed =>
    ((last.cacheBranch (viaBranch parsed.headers)).cacheCSeq
      (parseCSeq parsed.headers)).noteInvite parsed.method

/-- The variables after a history of sends. -/
def afterSends (history : List Sent) : LastSent :=
  history.foldl LastSent.record .initial

/-- The CSeq of the most recent message that has one. -/
def lastCSeq (history : List Sent) : CSeqKey :=
  history.reverse.findSome? Sent.cseq

/-- The branch of the most recent message that has one; an empty branch counts
as none. -/
def lastBranch (history : List Sent) : BranchKey :=
  (history.reverse.findSome? Sent.branch).filter (· ≠ [])

/-- The bytes of the last message. -/
def lastPayload (history : List Sent) : Bytes :=
  (history.getLast?.map Sent.payload).getD []

/-! ### What a send leaves in the cache -/

open LastSent

@[simp] theorem noteInvite_branch :
    (last.noteInvite method).branch = last.branch := by
  unfold noteInvite
  repeat' split
  all_goals rfl

@[simp] theorem noteInvite_method :
    (last.noteInvite method).method = last.method := by
  unfold noteInvite
  repeat' split
  all_goals rfl

@[simp] theorem noteInvite_cseqNum :
    (last.noteInvite method).cseqNum = last.cseqNum := by
  unfold noteInvite
  repeat' split
  all_goals rfl

@[simp] theorem record_branch :
    (last.record sent).branch = sent.branch.getD last.branch := by
  unfold record Sent.branch
  cases sent.parsing.parse sent.payload with
  | none => rfl
  | some parsed => simp [cacheBranch, cacheCSeq]

@[simp] theorem record_cseqNum :
    (last.record sent).cseqNum = (sent.cseq.map Prod.fst).getD last.cseqNum := by
  unfold record Sent.cseq
  cases sent.parsing.parse sent.payload with
  | none => rfl
  | some parsed => simp [cacheBranch, cacheCSeq, Function.comp_def]

@[simp] theorem record_method :
    (last.record sent).method = (sent.cseq.map Prod.snd).getD last.method := by
  unfold record Sent.cseq
  cases sent.parsing.parse sent.payload with
  | none => rfl
  | some parsed => simp [cacheBranch, cacheCSeq, Function.comp_def]

/-- A send stores an ACK or leaves the stored one. -/
theorem record_inviteACK :
    (last.record sent).inviteACK = last.inviteACK ∨
      ∃ parsed, sent.parsing.parse sent.payload = some parsed ∧
        equalFold parsed.method (ascii "ACK") = true ∧
        (last.record sent).inviteACK = sent.payload := by
  unfold record
  cases sent.parsing.parse sent.payload with
  | none => exact .inl rfl
  | some parsed =>
    simp only [noteInvite]
    split
    · exact .inl rfl
    · split
      · rename_i isACK
        exact .inr ⟨parsed, rfl, isACK.1, rfl⟩
      · exact .inl rfl

theorem afterSends_concat :
    afterSends (history ++ [sent]) = (afterSends history).record sent := by
  simp [afterSends]

theorem cseq_method_ne_nil {sent : Sent} {cseq : Int × Bytes} (found : sent.cseq = some cseq) :
    cseq.2 ≠ [] := by
  obtain ⟨parsed, _, inHeaders⟩ := bind_eq_some_iff.mp found
  obtain ⟨⟨num, method⟩, parsedCSeq, rfl⟩ := map_eq_some_iff.mp inHeaders
  rw [(parseCSeq_trimmed parsedCSeq).1]
  exact (parseCSeq_trimmed parsedCSeq).2

theorem afterSends_cseq :
    cachedCSeqKey (afterSends history).cseqNum (afterSends history).method = lastCSeq history := by
  induction history using List.reverseRecOn with
  | nil => rfl
  | append_singleton history sent ih =>
    cases found : sent.cseq with
    | none =>
      simp only [afterSends_concat, record_cseqNum, record_method, found, map_none,
        getD_none, ih]
      simp [lastCSeq, found]
    | some cseq =>
      simp [afterSends_concat, found, cachedCSeqKey, cseq_method_ne_nil found, lastCSeq]

theorem afterSends_branch :
    cachedBranchKey (afterSends history).branch = lastBranch history := by
  induction history using List.reverseRecOn with
  | nil => rfl
  | append_singleton history sent ih =>
    cases found : sent.branch with
    | none =>
      simp only [afterSends_concat, record_branch, found, getD_none,
        ih]
      simp [lastBranch, found]
    | some branch =>
      by_cases empty : branch = [] <;>
        simp [afterSends_concat, found, cachedBranchKey, lastBranch, empty, Option.filter]

/-! ### Cached against uncached matching -/

theorem reparse_cseq_occurs : (now.cseq lastSent).Occurs := by
  intro cseq found
  obtain ⟨req, _, inHeaders⟩ := bind_eq_some_iff.mp found
  obtain ⟨⟨num, method⟩, parsed, rfl⟩ := map_eq_some_iff.mp inHeaders
  exact ⟨req.headers, by rw [parsed, (parseCSeq_trimmed parsed).1]⟩

theorem reparse_branch_occurs :
    (now.branch lastSent).Occurs := by
  intro branch found
  obtain ⟨req, _, inHeaders⟩ := bind_eq_some_iff.mp found
  exact ⟨req.headers, inHeaders⟩

/-- A response with any headers reaches the CSeq test. -/
private theorem filterAccepts_ok (headers : Headers) (sameCSeq : Bool) :
    filterAccepts { Message.zero with statusCode := 200, headers := headers } [] (ascii "200")
      sameCSeq = sameCSeq := by
  have isCode : parseRecvResponseFilter (ascii "200") = some 200 := by decide
  have notEmpty : ascii "200" ≠ [] := by decide
  simp [filterAccepts, isCode, notEmpty]

/-- The cached tests equal the tests on the bytes of the last sent message, on
every received message and filter, exactly when the most recent CSeq and the most
recent branch of the history are those of the last message and that message is a
request, or there are none on either side. -/
theorem cachedMatching_iff (history : List Sent) (now : Reparse) :
    (∀ (msg : Message) (request response : Bytes),
      matchRecvCached msg request response (afterSends history).cseqNum
          (afterSends history).method =
        matchRecv now msg request response (lastPayload history) ∧
      responseMatchesCached msg (afterSends history).branch (afterSends history).method =
        responseMatchesTransaction now msg (lastPayload history)) ↔
      (lastCSeq history).Agrees (now.cseq (lastPayload history)) ∧
        (lastBranch history).Agrees (now.branch (lastPayload history)) := by
  simp only [matchRecvCached_eq, matchRecv_eq, responseMatchesTransaction_eq,
    responseMatchesCached_eq _ _ _ (afterSends history).cseqNum, afterSends_cseq,
    afterSends_branch]
  constructor
  · intro same
    have sameCSeq : (lastCSeq history).Agrees (now.cseq (lastPayload history)) := by
      rw [← CSeqKey.accepts_eq_iff (reparse_cseq_occurs now _)]
      intro headers
      have tested := (same { Message.zero with statusCode := 200, headers := headers } []
        (ascii "200")).1
      rwa [filterAccepts_ok, filterAccepts_ok] at tested
    refine ⟨sameCSeq, ?_⟩
    rw [← transactionAccepts_eq_iff (reparse_branch_occurs now _) sameCSeq]
    intro headers
    exact (same { Message.zero with headers := headers } [] []).2
  · rintro ⟨sameCSeq, sameBranch⟩ msg request response
    rw [(CSeqKey.accepts_eq_iff (reparse_cseq_occurs now _)).mpr sameCSeq]
    exact ⟨rfl, (transactionAccepts_eq_iff (reparse_branch_occurs now _) sameCSeq).mpr
      sameBranch msg.headers⟩

end Record

section Concrete

attribute [local instance] CaseTables.asciiOnly

/-- A call that has just answered a BYE. -/
def byeAnswered : List Sent :=
  [⟨ascii "SIP/2.0 200 OK\r\nCSeq: 2 BYE\r\n\r\n", .fresh⟩]

/-- The 200 for an INVITE. -/
def inviteOk : Message :=
  { Message.zero with statusCode := 200, headers := [(ascii "CSeq", [ascii "1 INVITE"])] }

/-- The response satisfies the test on the bytes of the answer, which is not a
request, and fails the test on the CSeq cached from it. -/
theorem cachedMatching_after_response :
    matchRecvCached inviteOk [] (ascii "200") (afterSends byeAnswered).cseqNum
        (afterSends byeAnswered).method = false ∧
      matchRecv .fresh inviteOk [] (ascii "200") (lastPayload byeAnswered) = true := by
  decide

end Concrete

end Gossipper.Engine
