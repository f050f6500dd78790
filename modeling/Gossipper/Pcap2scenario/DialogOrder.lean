/-
Module: Gossipper.Pcap2scenario.DialogOrder
Purpose: The captures for which the dialog does not depend on the order of the packets.
Trusted boundary: none beyond Gossipper.Pcap2scenario.Dialog
Main exports: OrderFree, buildDialog_perm_iff
-/
import Gossipper.Pcap2scenario.Dialog

namespace Gossipper.Pcap2scenario

open Go Sip FirstMatch List Option

section Loop

variable [CaseTables] {callID : Bytes} {n : Int} {dlg : Dialog} {m : RawSIPPacket}

/-! ### Acknowledgements -/

/-- Neither acknowledgement has been taken. -/
def Dialog.Unacknowledged (dlg : Dialog) : Prop :=
  dlg.ack = none ∧ dlg.authACK = none

open RawSIPPacket

/-- What an acknowledgement can do. -/
theorem collect_ack (n : Int) (dlg : Dialog)
    (isACK : inCall callID (·.hasMethod "ACK") m = true) :
    (collect callID n dlg m = { dlg with authACK := some m } ∧ dlg.authChallengeCode ≠ 0) ∨
    (collect callID n dlg m = { dlg with ack := some m } ∧ dlg.ok.isSome) ∨
    (collect callID n dlg m = dlg ∧ ¬ (dlg.ok.isSome ∧ dlg.ack.isNone)) := by
  obtain ⟨isCall, hasACK⟩ := inCall_eq_true.mp isACK
  have outcome := collect_outcome callID n dlg m
  generalize collect callID n dlg m = after at outcome
  cases outcome with
  | foreign otherCall => exact absurd isCall otherCall
  | challenge _ challenges _ =>
    rw [isChallenge_of_hasMethod hasACK (by decide)] at challenges
    cases challenges
  | authACK _ _ challenged _ => exact .inl ⟨rfl, challenged⟩
  | authINVITE _ isInvite _ _ =>
    rw [hasMethod_of_hasMethod hasACK (by decide)] at isInvite
    cases isInvite
  | ok _ isOK _ =>
    rw [isOKTo_of_hasMethod hasACK (by decide)] at isOK
    cases isOK
  | ack _ _ answered _ => exact .inr (.inl ⟨rfl, answered⟩)
  | bye _ isBYE _ =>
    rw [hasMethod_of_hasMethod hasACK (by decide)] at isBYE
    cases isBYE
  | byeOK _ isByeOK _ _ =>
    rw [isOKTo_of_hasMethod hasACK (by decide)] at isByeOK
    cases isByeOK
  | passed _ _ _ noACK _ _ => exact .inr (.inr ⟨rfl, fun taken => noACK ⟨hasACK, taken⟩⟩)

/-- Acknowledgements before everything else are dropped. -/
theorem foldl_acks_first {acks : List RawSIPPacket}
    (all : ∀ m ∈ acks, inCall callID (·.hasMethod "ACK") m = true) (unanswered : dlg.ok = none)
    (unchallenged : dlg.authChallengeCode = 0) : acks.foldl (collect callID n) dlg = dlg := by
  induction acks with
  | nil => rfl
  | cons m rest ih =>
    have dropped : collect callID n dlg m = dlg := by
      rcases collect_ack n dlg (all m mem_cons_self) with
        ⟨-, challenged⟩ | ⟨-, answered⟩ | ⟨same, -⟩
      · exact absurd unchallenged challenged
      · rw [unanswered] at answered
        cases answered
      · exact same
    rw [foldl_cons, dropped]
    exact ih fun m' member => all m' (mem_cons_of_mem _ member)

/-- Other messages take no acknowledgement. -/
theorem unacknowledged_foldl {l : List RawSIPPacket}
    (others : ∀ m ∈ l, inCall callID (·.hasMethod "ACK") m = false)
    (isOpen : dlg.Unacknowledged) : (l.foldl (collect callID n) dlg).Unacknowledged := by
  induction l generalizing dlg with
  | nil => exact isOpen
  | cons m rest ih =>
    rw [foldl_cons]
    refine ih (fun m' member => others m' (mem_cons_of_mem _ member)) ?_
    have other := others m mem_cons_self
    have outcome := collect_outcome callID n dlg m
    generalize collect callID n dlg m = after at outcome
    cases outcome with
    | authACK isCall isACK _ _ | ack isCall isACK _ _ =>
      rw [inCall_eq_true.mpr ⟨isCall, isACK⟩] at other
      cases other
    | _ => exact isOpen

theorem acknowledged_foldl (l : List RawSIPPacket) (taken : ¬ dlg.Unacknowledged) :
    ¬ (l.foldl (collect callID n) dlg).Unacknowledged := by
  induction l generalizing dlg with
  | nil => exact taken
  | cons m rest ih =>
    rw [foldl_cons]
    apply ih
    have outcome := collect_outcome callID n dlg m
    generalize collect callID n dlg m = after at outcome
    cases outcome with
    | authACK _ _ _ _ | ack _ _ _ _ => simp [Dialog.Unacknowledged]
    | _ => exact taken

/-- An acknowledgement after the answer is taken. -/
theorem acknowledged_of_answered (isACK : inCall callID (·.hasMethod "ACK") m = true)
    (answered : dlg.ok.isSome) (rest : List RawSIPPacket) :
    ¬ ((m :: rest).foldl (collect callID n) dlg).Unacknowledged := by
  rw [foldl_cons]
  apply acknowledged_foldl
  rcases collect_ack n dlg isACK with ⟨same, -⟩ | ⟨same, -⟩ | ⟨same, taken⟩
  · simp [same, Dialog.Unacknowledged]
  · simp [same, Dialog.Unacknowledged]
  · intro isOpen
    rw [same] at isOpen
    exact taken ⟨answered, by simp [isOpen.1]⟩

/-! ### Messages that are taken once -/

/-- The 200 response to the BYE that is not the answer to the INVITE. -/
def isByeOKOnly (m : RawSIPPacket) : Bool :=
  m.isOKTo "BYE" && !m.isOKTo "INVITE"

/-- The dialog with a challenge, an answer, a BYE and its response. -/
def Dialog.assembled (start : Dialog) (challenge ok bye byeOK : Option RawSIPPacket) : Dialog :=
  { (match ok with
      | none => start
      | some m => start.withOK m) with
    authChallengeCode := (challenge.map (·.message.statusCode)).getD 0
    authChallenge := challenge
    bye
    byeOK }

section Assembled

variable {start : Dialog} {challenge ok bye byeOK : Option RawSIPPacket}

theorem assembled_ok (unanswered : start.ok = none) :
    (start.assembled challenge ok bye byeOK).ok = ok := by
  cases ok with
  | none => exact unanswered
  | some m => rfl

theorem assembled_unchallenged (real : ∀ c ∈ challenge, c.message.statusCode ≠ 0)
    (isZero : (start.assembled challenge ok bye byeOK).authChallengeCode = 0) :
    challenge = none := by
  cases challenge with
  | none => rfl
  | some c => exact absurd isZero (real c rfl)

/-- One message, if no acknowledgement and no second INVITE is among the messages. -/
theorem collect_assembled (unanswered : start.ok = none)
    (real : ∀ c ∈ challenge, c.message.statusCode ≠ 0)
    (noACK : inCall callID (·.hasMethod "ACK") m = false)
    (noINVITE : inCall callID (·.hasMethod "INVITE") m = true → m.cseqNum ≤ n)
    (first : inCall callID (·.isOKTo "INVITE") m = true → ok = none) :
    collect callID n (start.assembled challenge ok bye byeOK) m =
      start.assembled
        (challenge.or (if inCall callID (·.isChallenge n) m then some m else none))
        (ok.or (if inCall callID (·.isOKTo "INVITE") m then some m else none))
        (bye.or (if inCall callID (·.hasMethod "BYE") m then some m else none))
        (byeOK.or (if inCall callID isByeOKOnly m then some m else none)) := by
  -- the kinds of messages exclude each other
  have kept {p : RawSIPPacket → Bool} {taken : Option RawSIPPacket} (fails : p m = false) :
      taken.or (if inCall callID p m then some m else none) = taken := by
    rw [inCall_eq_false fails, if_neg Bool.false_ne_true, or_none]
  -- an answer is the first one, so it is always taken
  have answers (isCall : m.callID = callID)
      (notOK : ¬ (m.isOKTo "INVITE" = true ∧
        (start.assembled challenge ok bye byeOK).ok.isNone)) : m.isOKTo "INVITE" = false := by
    by_contra isOK
    rw [Bool.not_eq_false] at isOK
    refine notOK ⟨isOK, ?_⟩
    rw [assembled_ok unanswered, first (inCall_eq_true.mpr ⟨isCall, isOK⟩)]
    rfl
  have outcome := collect_outcome callID n (start.assembled challenge ok bye byeOK) m
  generalize collect callID n (start.assembled challenge ok bye byeOK) m = after at outcome
  cases outcome with
  | foreign otherCall =>
    have none {p : RawSIPPacket → Bool} : inCall callID p m = false := by simp [inCall, otherCall]
    simp [none, Bool.false_eq_true, or_none]
  | challenge isCall challenges isFirst =>
    have notOK := isOKTo_of_isChallenge challenges
    have unchallenged := assembled_unchallenged real isFirst
    rw [or_of_first (inCall_eq_true.mpr ⟨isCall, challenges⟩) (by simp [unchallenged]),
      kept (notOK _), kept (hasMethod_of_isChallenge challenges (by decide)),
      kept (by simp [isByeOKOnly, notOK])]
    cases ok <;> rfl
  | authACK isCall isACK _ _ | ack isCall isACK _ _ =>
    rw [inCall_eq_true.mpr ⟨isCall, isACK⟩] at noACK
    cases noACK
  | authINVITE isCall isInvite later _ =>
    have bound := noINVITE (inCall_eq_true.mpr ⟨isCall, isInvite⟩)
    omega
  | ok isCall isOK isFirst =>
    have isAnswer : inCall callID (·.isOKTo "INVITE") m = true :=
      inCall_eq_true.mpr ⟨isCall, isOK⟩
    obtain rfl := first isAnswer
    rw [kept (isChallenge_of_isOKTo isOK n), or_of_first isAnswer rfl,
      kept (hasMethod_of_isOKTo isOK (by decide)),
      kept (by simp [isByeOKOnly, isOK])]
    rfl
  | bye isCall isBYE isFirst =>
    have notOK := isOKTo_of_hasMethod isBYE (by decide)
    have untaken : bye.isNone := isFirst
    rw [kept (isChallenge_of_hasMethod isBYE (by decide) n), kept (notOK _),
      or_of_first (inCall_eq_true.mpr ⟨isCall, isBYE⟩) untaken,
      kept (by simp [isByeOKOnly, notOK])]
    cases ok <;> rfl
  | byeOK isCall isByeOK notOK isFirst =>
    have notAnswer := answers isCall notOK
    have untaken : byeOK.isNone := isFirst
    rw [kept (isChallenge_of_isOKTo isByeOK n), kept notAnswer,
      kept (hasMethod_of_isOKTo isByeOK (by decide)),
      or_of_first (inCall_eq_true.mpr ⟨isCall, by simp [isByeOKOnly, isByeOK, notAnswer]⟩)
        untaken]
    cases ok <;> rfl
  | passed isCall noChallenge notOK _ noBYE noByeOK =>
    have takenBYE (isBYE : inCall callID (·.hasMethod "BYE") m = true) : bye.isSome := by
      have notFirst : ¬ bye.isNone :=
        fun isFirst => noBYE ⟨(inCall_eq_true.mp isBYE).2, isFirst⟩
      simpa [isSome_iff_ne_none] using notFirst
    have takenByeOK (isByeOK : inCall callID isByeOKOnly m = true) : byeOK.isSome := by
      have isOK := (inCall_eq_true.mp isByeOK).2
      simp only [isByeOKOnly, Bool.and_eq_true] at isOK
      have notFirst : ¬ byeOK.isNone := fun isFirst => noByeOK ⟨isOK.1, isFirst⟩
      simpa [isSome_iff_ne_none] using notFirst
    have takenChallenge (challenges : inCall callID (·.isChallenge n) m = true) :
        challenge.isSome := by
      rw [isSome_iff_ne_none]
      rintro rfl
      refine noChallenge ⟨(inCall_eq_true.mp challenges).2, ?_⟩
      cases ok <;> rfl
    rw [or_of_taken takenChallenge, kept (answers isCall notOK), or_of_taken takenBYE,
      or_of_taken takenByeOK]

/-- The messages are taken at most once, so that their order does not matter. -/
structure Quiet (callID : Bytes) (n : Int) (l : List RawSIPPacket) : Prop where
  nodup : l.Nodup
  noACK : ∀ m ∈ l, inCall callID (·.hasMethod "ACK") m = false
  noINVITE : ∀ m ∈ l, inCall callID (·.hasMethod "INVITE") m = true → m.cseqNum ≤ n
  oneOK : AtMostOne (inCall callID (·.isOKTo "INVITE")) l

theorem foldl_assembled (unanswered : start.ok = none) (quiet : Quiet callID n l) :
    l.foldl (collect callID n) (start.assembled none none none none) =
      start.assembled (l.find? (inCall callID (·.isChallenge n)))
        (l.find? (inCall callID (·.isOKTo "INVITE")))
        (l.find? (inCall callID (·.hasMethod "BYE")))
        (l.find? (inCall callID isByeOKOnly)) := by
  induction l using List.reverseRecOn with
  | nil => rfl
  | append_singleton done m ih =>
    have inside : done ⊆ done ++ [m] := subset_append_left done [m]
    have isLast : m ∈ done ++ [m] := mem_append_right done (mem_singleton_self m)
    obtain ⟨nodupDone, -, apart⟩ := nodup_append.mp quiet.nodup
    have before := ih
      { nodup := nodupDone
        noACK := fun m' member => quiet.noACK m' (inside member)
        noINVITE := fun m' member => quiet.noINVITE m' (inside member)
        oneOK := quiet.oneOK.subset inside }
    rw [foldl_append, foldl_cons, foldl_nil, before]
    simp only [find?_append, find?_singleton]
    apply collect_assembled unanswered
    · intro c found
      have challenges := (inCall_eq_true.mp (find?_some found)).2
      simp only [isChallenge, decide_eq_true_eq] at challenges
      omega
    · exact quiet.noACK m isLast
    · exact quiet.noINVITE m isLast
    · intro isOK
      rw [find?_eq_none]
      intro other member isOther
      have same := quiet.oneOK other (inside member) m isLast isOther isOK
      exact apart other member m (mem_singleton_self m) same

end Assembled

end Loop

/-! ### The order of the packets -/

section Order

variable [CaseTables]

/-- All calls have the same Call-ID, and there is none or it has no answer. -/
def Unanswered (messages : List RawSIPPacket) : Prop :=
  ∃ callID, (∀ m ∈ messages, m.hasMethod "INVITE" = true → m.callID = callID) ∧
    (callID = [] ∨ ∀ m ∈ messages, inCall callID (·.isOKTo "INVITE") m = false)

/-- There is one INVITE, no acknowledgement, and at most one of every other message that the
dialog takes. -/
structure Lone (messages : List RawSIPPacket) (invite : RawSIPPacket) : Prop where
  isThere : invite ∈ messages
  isInvite : invite.hasMethod "INVITE" = true
  only : ∀ m ∈ messages, m.hasMethod "INVITE" = true → m = invite
  noACK : ∀ m ∈ messages, inCall invite.callID (·.hasMethod "ACK") m = false
  ok : AtMostOne (inCall invite.callID (·.isOKTo "INVITE")) messages
  challenge : AtMostOne (inCall invite.callID (·.isChallenge invite.cseqNum)) messages
  bye : AtMostOne (inCall invite.callID (·.hasMethod "BYE")) messages
  byeOK : AtMostOne (inCall invite.callID isByeOKOnly) messages

/-- The captures whose order does not matter. -/
def OrderFree (messages : List RawSIPPacket) : Prop :=
  Unanswered messages ∨ ∃ invite, Lone messages invite

variable {messages other : List RawSIPPacket} {invite : RawSIPPacket}

/-- What a capture with a first INVITE gives. -/
theorem buildDialog_cases (found : messages.find? (·.hasMethod "INVITE") = some invite) :
    (invite.callID = [] ∧ buildDialog messages = .error .noCallID) ∨
    (invite.callID ≠ [] ∧
      messages.find? (inCall invite.callID (·.isOKTo "INVITE")) = none ∧
      buildDialog messages = .error (.noOK invite.callID)) ∨
    ∃ dlg, invite.callID ≠ [] ∧
      dlg = messages.foldl (collect invite.callID invite.cseqNum) (.start invite) ∧
      dlg.ok = messages.find? (inCall invite.callID (·.isOKTo "INVITE")) ∧ dlg.ok.isSome ∧
      buildDialog messages = .ok { dlg with callDuration := dlg.duration } := by
  simp only [buildDialog, found]
  by_cases noCallID : invite.callID = []
  · exact .inl ⟨noCallID, if_pos noCallID⟩
  · rw [if_neg noCallID]
    have isOK := ok_foldl invite.callID invite.cseqNum (.start invite) messages
    rw [start_ok, none_or] at isOK
    split
    · rename_i isNone
      rw [isOK, isNone_iff_eq_none] at isNone
      exact .inr (.inl ⟨noCallID, isNone, rfl⟩)
    · rename_i isSome
      refine .inr (.inr ⟨_, noCallID, rfl, isOK, ?_, rfl⟩)
      simpa [isSome_iff_ne_none] using isSome

omit [CaseTables] in
theorem hasInvite_perm (perm : other.Perm messages) :
    (other.find? (·.hasMethod "INVITE")).isSome =
      (messages.find? (·.hasMethod "INVITE")).isSome := by
  rw [Bool.eq_iff_iff, find?_isSome, find?_isSome]
  constructor
  · rintro ⟨m, member, isInvite⟩
    exact ⟨m, perm.subset member, isInvite⟩
  · rintro ⟨m, member, isInvite⟩
    exact ⟨m, perm.symm.subset member, isInvite⟩

/-- Without an answer the result is the error for the common Call-ID. -/
theorem buildDialog_unanswered
    (same : ∀ m ∈ messages, m.hasMethod "INVITE" = true → m.callID = callID)
    (none : callID = [] ∨ ∀ m ∈ messages, inCall callID (·.isOKTo "INVITE") m = false) :
    buildDialog messages =
      if (messages.find? (·.hasMethod "INVITE")).isSome then
        .error (if callID = [] then .noCallID else .noOK callID)
      else .error .noInvite := by
  cases found : messages.find? (·.hasMethod "INVITE") with
  | none => simp [buildDialog, found, isSome_none, Bool.false_eq_true]
  | some invite =>
    have isInvite := find?_some found
    have isCall := same invite (mem_of_find?_eq_some found) isInvite
    rw [isSome_some, if_pos rfl]
    rcases buildDialog_cases found with ⟨isEmpty, result⟩ | ⟨nonempty, -, result⟩ |
        ⟨dlg, nonempty, -, isOK, answered, -⟩
    · rw [result, if_pos (isCall.symm.trans isEmpty)]
    · rw [result, if_neg (isCall ▸ nonempty), isCall]
    · -- there is no answer
      rw [isOK, find?_isSome, isCall] at answered
      obtain ⟨m, member, isAnswer⟩ := answered
      rcases none with isEmpty | none
      · exact absurd (isCall.trans isEmpty) nonempty
      · rw [none m member] at isAnswer
        cases isAnswer

namespace Lone

theorem perm (lone : Lone messages invite) (perm : other.Perm messages) : Lone other invite where
  isThere := perm.symm.subset lone.isThere
  isInvite := lone.isInvite
  only m member := lone.only m (perm.subset member)
  noACK m member := lone.noACK m (perm.subset member)
  ok := lone.ok.subset perm.subset
  challenge := lone.challenge.subset perm.subset
  bye := lone.bye.subset perm.subset
  byeOK := lone.byeOK.subset perm.subset

theorem find?_invite (lone : Lone messages invite) :
    messages.find? (·.hasMethod "INVITE") = some invite := by
  have unique : AtMostOne (fun m : RawSIPPacket => m.hasMethod "INVITE") messages := by
    intro a member b member' isInvite isInvite'
    exact (lone.only a member isInvite).trans (lone.only b member' isInvite').symm
  exact unique.find?_eq lone.isThere lone.isInvite

end Lone

/-- The loop over one call without acknowledgements, from its first matches. -/
theorem foldl_start (nodup : messages.Nodup)
    (only : ∀ m ∈ messages, m.hasMethod "INVITE" = true → m = invite)
    (noACK : ∀ m ∈ messages, inCall invite.callID (·.hasMethod "ACK") m = false)
    (ok : AtMostOne (inCall invite.callID (·.isOKTo "INVITE")) messages) :
    messages.foldl (collect invite.callID invite.cseqNum) (.start invite) =
      (Dialog.start invite).assembled
        (messages.find? (inCall invite.callID (·.isChallenge invite.cseqNum)))
        (messages.find? (inCall invite.callID (·.isOKTo "INVITE")))
        (messages.find? (inCall invite.callID (·.hasMethod "BYE")))
        (messages.find? (inCall invite.callID isByeOKOnly)) := by
  apply foldl_assembled (start_ok invite) ⟨nodup, noACK, ?_, ok⟩
  intro m member isSecond
  obtain rfl := only m member (inCall_eq_true.mp isSecond).2
  exact Int.le_refl _

theorem Lone.buildDialog_perm (lone : Lone messages invite) (nodup : messages.Nodup)
    (perm : other.Perm messages) : buildDialog other = buildDialog messages := by
  have lone' := lone.perm perm
  have loop := foldl_start nodup lone.only lone.noACK lone.ok
  have loop' := foldl_start (perm.nodup_iff.mpr nodup) lone'.only lone'.noACK lone'.ok
  rw [lone.challenge.find?_perm perm, lone.ok.find?_perm perm, lone.bye.find?_perm perm,
    lone.byeOK.find?_perm perm, ← loop] at loop'
  simp [buildDialog, lone.find?_invite, lone'.find?_invite, loop']

theorem OrderFree.buildDialog_perm (free : OrderFree messages) (nodup : messages.Nodup)
    (perm : other.Perm messages) : buildDialog other = buildDialog messages := by
  rcases free with ⟨callID, same, none⟩ | ⟨invite, lone⟩
  · rw [buildDialog_unanswered same none, ← hasInvite_perm perm]
    apply buildDialog_unanswered
    · exact fun m member => same m (perm.subset member)
    · exact none.imp_right fun none m member => none m (perm.subset member)
  · exact lone.buildDialog_perm nodup perm

/-! ### Captures with the same result in every order -/

/-- The result is the same in every order. -/
def SameInEveryOrder (messages : List RawSIPPacket) : Prop :=
  ∀ other : List RawSIPPacket, other.Perm messages → buildDialog other = buildDialog messages

omit [CaseTables] in
/-- Every INVITE can be the first one. -/
theorem exists_first (member : m ∈ messages) (isInvite : m.hasMethod "INVITE" = true) :
    ∃ other : List RawSIPPacket, other.Perm messages ∧
      other.find? (·.hasMethod "INVITE") = some m := by
  obtain ⟨rest, perm⟩ := exists_perm_cons member
  exact ⟨m :: rest, perm, find?_cons_of_pos isInvite⟩

/-- All INVITEs without a Call-ID, or with one that has no answer, give the same error. -/
theorem unanswered_of_error (same : SameInEveryOrder messages)
    (isError : buildDialog messages = .error error) : Unanswered messages := by
  have errors {other : List RawSIPPacket} (perm : other.Perm messages) :
      buildDialog other = .error error := (same other perm).trans isError
  cases found : messages.find? (·.hasMethod "INVITE") with
  | none =>
    refine ⟨[], ?_, .inl rfl⟩
    intro m member isInvite
    exact absurd isInvite (find?_eq_none.mp found m member)
  | some invite =>
    rcases buildDialog_cases found with ⟨isEmpty, result⟩ | ⟨nonempty, unanswered, result⟩ |
        ⟨_, -, -, -, -, result⟩
    · obtain rfl := Except.error.inj (isError.symm.trans result)
      refine ⟨[], ?_, .inl rfl⟩
      intro m member isInvite
      obtain ⟨other, perm, first⟩ := exists_first member isInvite
      rcases buildDialog_cases first with ⟨isEmpty', -⟩ | ⟨-, -, result'⟩ |
          ⟨_, -, -, -, -, result'⟩
      · exact isEmpty'
      · cases (errors perm).symm.trans result'
      · cases (errors perm).symm.trans result'
    · obtain rfl := Except.error.inj (isError.symm.trans result)
      refine ⟨invite.callID, ?_, .inr ?_⟩
      · intro m member isInvite
        obtain ⟨other, perm, first⟩ := exists_first member isInvite
        rcases buildDialog_cases first with ⟨-, result'⟩ | ⟨-, -, result'⟩ |
            ⟨_, -, -, -, -, result'⟩
        · cases (errors perm).symm.trans result'
        · have sameError := Except.error.inj ((errors perm).symm.trans result')
          exact (DialogError.noOK.inj sameError).symm
        · cases (errors perm).symm.trans result'
      · intro m member
        simpa using find?_eq_none.mp unanswered m member
    · cases isError.symm.trans result

section Dialogs

variable {dlg : Dialog}

/-- With a dialog as the result there is only one INVITE. -/
theorem only_of_same (same : SameInEveryOrder messages) (built : buildDialog messages = .ok dlg)
    (found : messages.find? (·.hasMethod "INVITE") = some invite)
    (member : m ∈ messages) (isInvite : m.hasMethod "INVITE" = true) : m = invite := by
  have names {l : List RawSIPPacket} {first : RawSIPPacket} (perm : l.Perm messages)
      (isFirst : l.find? (·.hasMethod "INVITE") = some first) : dlg.invite = first := by
    rcases buildDialog_cases isFirst with ⟨-, result⟩ | ⟨-, -, result⟩ | ⟨_, -, rfl, -, -, result⟩
    · cases ((same l perm).trans built).symm.trans result
    · cases ((same l perm).trans built).symm.trans result
    · obtain rfl := Except.ok.inj (((same l perm).trans built).symm.trans result)
      exact invite_foldl _ _ _ _
  obtain ⟨other, perm, first⟩ := exists_first member isInvite
  exact (names perm first).symm.trans (names (.refl _) found)

/-- A capture that gives a dialog in every order, by its only INVITE. -/
structure Steady (messages : List RawSIPPacket) (invite : RawSIPPacket) (dlg : Dialog) : Prop where
  nodup : messages.Nodup
  only : ∀ m ∈ messages, m.hasMethod "INVITE" = true → m = invite
  answered : ∃ m ∈ messages, inCall invite.callID (·.isOKTo "INVITE") m = true
  loop : ∀ other : List RawSIPPacket, other.Perm messages → ∃ duration,
    dlg = { other.foldl (collect invite.callID invite.cseqNum) (.start invite) with
      callDuration := duration }

theorem steady_of_same (nodup : messages.Nodup) (same : SameInEveryOrder messages)
    (built : buildDialog messages = .ok dlg)
    (found : messages.find? (·.hasMethod "INVITE") = some invite) :
    Steady messages invite dlg := by
  have only (m : RawSIPPacket) (member : m ∈ messages) (isInvite : m.hasMethod "INVITE" = true) :
      m = invite := only_of_same same built found member isInvite
  refine ⟨nodup, only, ?_, ?_⟩
  · rcases buildDialog_cases found with ⟨-, result⟩ | ⟨-, -, result⟩ | ⟨_, -, -, isOK, isSome, -⟩
    · cases built.symm.trans result
    · cases built.symm.trans result
    · rwa [isOK, find?_isSome] at isSome
  · intro other perm
    have isFirst : other.find? (·.hasMethod "INVITE") = some invite := by
      obtain ⟨first, isFirst⟩ : ∃ first, other.find? (·.hasMethod "INVITE") = some first := by
        rw [← isSome_iff_exists, hasInvite_perm perm, found]
        rfl
      have isInvite := find?_some isFirst
      rw [isFirst, only first (perm.subset (mem_of_find?_eq_some isFirst)) isInvite]
    rcases buildDialog_cases isFirst with ⟨-, result⟩ | ⟨-, -, result⟩ | ⟨_, -, rfl, -, -, result⟩
    · cases ((same other perm).trans built).symm.trans result
    · cases ((same other perm).trans built).symm.trans result
    · exact ⟨_, Except.ok.inj (((same other perm).trans built).symm.trans result)⟩

namespace Steady

section

variable (steady : Steady messages invite dlg)

include steady

/-- What the dialog takes as the first match is the only match. -/
theorem atMostOne {p : RawSIPPacket → Bool} (take : Dialog → Option RawSIPPacket)
    (unchanged : ∀ (d : Dialog) (duration : Int), take { d with callDuration := duration } = take d)
    (takes : ∀ other : List RawSIPPacket, other.Perm messages →
      take (other.foldl (collect invite.callID invite.cseqNum) (.start invite)) = other.find? p) :
    AtMostOne p messages := by
  rw [← find?_perm_iff]
  have isTaken (other : List RawSIPPacket) (perm : other.Perm messages) :
      other.find? p = take dlg := by
    obtain ⟨duration, isLoop⟩ := steady.loop other perm
    rw [isLoop, unchanged, takes other perm]
  intro other perm
  rw [isTaken other perm, isTaken messages (.refl _)]

theorem ok :
    AtMostOne (inCall invite.callID (·.isOKTo "INVITE")) messages := by
  apply steady.atMostOne Dialog.ok (fun _ _ => rfl)
  intro other _
  rw [ok_foldl, start_ok, none_or]

theorem noACK (m : RawSIPPacket) (member : m ∈ messages) :
    inCall invite.callID (·.hasMethod "ACK") m = false := by
  by_contra isACK
  rw [Bool.not_eq_false] at isACK
  let acks := messages.filter (inCall invite.callID (·.hasMethod "ACK"))
  let others := messages.filter (fun m => !inCall invite.callID (·.hasMethod "ACK") m)
  have acksFirst : (acks ++ others).Perm messages := filter_append_perm _ _
  have allACKs (m : RawSIPPacket) (isThere : m ∈ acks) :
      inCall invite.callID (·.hasMethod "ACK") m = true := (mem_filter.mp isThere).2
  have noACKs (m : RawSIPPacket) (isThere : m ∈ others) :
      inCall invite.callID (·.hasMethod "ACK") m = false := by
    simpa using (mem_filter.mp isThere).2
  obtain ⟨duration, isLoop⟩ := steady.loop _ acksFirst
  obtain ⟨duration', isLoop'⟩ := steady.loop _ (perm_append_comm.trans acksFirst)
  have dropped : dlg.Unacknowledged := by
    rw [isLoop, foldl_append, foldl_acks_first allACKs rfl rfl]
    exact unacknowledged_foldl noACKs ⟨rfl, rfl⟩
  have answered :
      (others.foldl (collect invite.callID invite.cseqNum) (.start invite)).ok.isSome := by
    obtain ⟨answer, isThere, isOK⟩ := steady.answered
    have notACK : inCall invite.callID (·.hasMethod "ACK") answer = false :=
      inCall_eq_false (RawSIPPacket.hasMethod_of_isOKTo (inCall_eq_true.mp isOK).2 (by decide))
    rw [ok_foldl, start_ok, none_or, find?_isSome]
    exact ⟨answer, mem_filter.mpr ⟨isThere, by simp [notACK]⟩, isOK⟩
  have isThere : m ∈ acks := mem_filter.mpr ⟨member, isACK⟩
  obtain ⟨first, rest, isCons⟩ := exists_cons_of_ne_nil (ne_nil_of_mem isThere)
  rw [isLoop', foldl_append, isCons] at dropped
  exact acknowledged_of_answered (allACKs first (isCons ▸ mem_cons_self)) answered rest dropped

theorem lone (isThere : invite ∈ messages)
    (isInvite : invite.hasMethod "INVITE" = true) : Lone messages invite := by
  have assembled {other : List RawSIPPacket} (perm : other.Perm messages) :=
    foldl_start (perm.nodup_iff.mpr steady.nodup)
      (fun m member => steady.only m (perm.subset member))
      (fun m member => steady.noACK m (perm.subset member)) (steady.ok.subset perm.subset)
  refine ⟨isThere, isInvite, steady.only, steady.noACK, steady.ok, ?_, ?_, ?_⟩
  · apply steady.atMostOne Dialog.authChallenge (fun _ _ => rfl)
    intro other perm
    rw [assembled perm]
    rfl
  · apply steady.atMostOne Dialog.bye (fun _ _ => rfl)
    intro other perm
    rw [assembled perm]
    rfl
  · apply steady.atMostOne Dialog.byeOK (fun _ _ => rfl)
    intro other perm
    rw [assembled perm]
    rfl

end

end Steady

end Dialogs

theorem orderFree_of_same (nodup : messages.Nodup) (same : SameInEveryOrder messages) :
    OrderFree messages := by
  cases built : buildDialog messages with
  | error error => exact .inl (unanswered_of_error same built)
  | ok dlg =>
    cases found : messages.find? (·.hasMethod "INVITE") with
    | none =>
      simp only [buildDialog, found] at built
      cases built
    | some invite =>
      have isInvite := find?_some found
      exact .inr ⟨invite, (steady_of_same nodup same built found).lone
        (mem_of_find?_eq_some found) isInvite⟩

/-- For packets with different timestamps the result of `BuildDialog` is the same in every order
exactly if no call has an answer, or there is one INVITE, no ACK in its call and at most one of
every other message that the dialog takes. -/
theorem buildDialog_perm_iff
    (distinct : messages.Pairwise fun a b => a.timestamp ≠ b.timestamp) :
    (∀ other : List RawSIPPacket, other.Perm messages →
      buildDialog other = buildDialog messages) ↔ OrderFree messages := by
  have nodup : messages.Nodup :=
    distinct.imp fun different same => different (congrArg RawSIPPacket.timestamp same)
  exact ⟨orderFree_of_same nodup, fun free other perm => free.buildDialog_perm nodup perm⟩

end Order

section Concrete

attribute [local instance] CaseTables.asciiOnly

def callHeaders (cseq : String) : Headers :=
  [(ascii "Call-ID", [ascii "call"]), (ascii "CSeq", [ascii cseq])]

def requestAt (timestamp : Int) (method cseq : String) : RawSIPPacket where
  index := 0
  timestamp := timestamp
  srcIP := ascii "10.0.0.1"
  srcPort := 5060
  dstIP := ascii "10.0.0.2"
  dstPort := 5060
  message := { Message.zero with method := ascii method, headers := callHeaders cseq }
  oneKind := .inr rfl

def responseAt (timestamp : Int) (statusCode : Int) (cseq : String) : RawSIPPacket where
  index := 0
  timestamp := timestamp
  srcIP := ascii "10.0.0.2"
  srcPort := 5060
  dstIP := ascii "10.0.0.1"
  dstPort := 5060
  message := { Message.zero with statusCode := statusCode, headers := callHeaders cseq }
  oneKind := .inl rfl

/-- A call with its answer and its end, but without the acknowledgement. -/
def withoutACK : List RawSIPPacket :=
  [requestAt 1 "INVITE" "1 INVITE", responseAt 2 200 "1 INVITE", requestAt 3 "BYE" "2 BYE",
    responseAt 4 200 "2 BYE"]

theorem withoutACK_any_order :
    withoutACK.Pairwise (fun a b => a.timestamp ≠ b.timestamp) ∧
      ∀ other : List RawSIPPacket, other.Perm withoutACK →
        buildDialog other = buildDialog withoutACK := by
  have distinct : withoutACK.Pairwise fun a b => a.timestamp ≠ b.timestamp := by
    unfold withoutACK
    decide
  refine ⟨distinct, (buildDialog_perm_iff distinct).mpr (.inr
    ⟨requestAt 1 "INVITE" "1 INVITE", mem_cons_self, by decide, ?_, by decide +kernel,
      .of_filter (by decide +kernel), .of_filter (by decide +kernel),
      .of_filter (by decide +kernel), .of_filter (by decide +kernel)⟩)⟩
  have one : AtMostOne (fun m : RawSIPPacket => m.hasMethod "INVITE") withoutACK :=
    .of_filter (by decide)
  intro m member isInvite
  exact one m member _ mem_cons_self isInvite (by decide)

def ackLast : List RawSIPPacket :=
  [requestAt 1 "INVITE" "1 INVITE", responseAt 2 200 "1 INVITE", requestAt 3 "ACK" "1 ACK"]

def ackBeforeOK : List RawSIPPacket :=
  [requestAt 1 "INVITE" "1 INVITE", requestAt 3 "ACK" "1 ACK", responseAt 2 200 "1 INVITE"]

/-- The time of the acknowledgement in the dialog of a capture. -/
def ackTime (messages : List RawSIPPacket) : Option (Option Int) :=
  (buildDialog messages).toOption.map fun dlg => dlg.ack.map (·.timestamp)

/-- An acknowledgement that is listed before the answer is lost. -/
theorem ack_lost_before_answer :
    ackLast.Pairwise (fun a b => a.timestamp ≠ b.timestamp) ∧ ackBeforeOK.Perm ackLast ∧
      ackTime ackLast = some (some 3) ∧ ackTime ackBeforeOK = some none ∧
      buildDialog ackBeforeOK ≠ buildDialog ackLast := by
  have acknowledged : ackTime ackLast = some (some 3) := by decide +kernel
  have lost : ackTime ackBeforeOK = some none := by decide +kernel
  refine ⟨?_, (List.Perm.swap _ _ _).cons _, acknowledged, lost, ?_⟩
  · unfold ackLast
    decide
  · intro same
    rw [ackTime, same] at lost
    cases acknowledged.symm.trans lost

end Concrete

end Gossipper.Pcap2scenario
