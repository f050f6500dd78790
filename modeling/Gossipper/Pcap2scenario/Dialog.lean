/-
Module: Gossipper.Pcap2scenario.Dialog
Purpose: The dialog that is found in a capture, after `internal/pcap2scenario/dialog.go`, and
  what one packet can change in it.
Trusted boundary: A packet that the dialog does not have is `none` where the code has the zero
  packet.  A message has its headers in one order, in which `sip.Header` always visits them.
Main exports: RawSIPPacket, Dialog, collect, buildDialog, collect_outcome, ok_foldl
-/
import Gossipper.Lib.FirstMatch
import Gossipper.Sip.Message

namespace Gossipper.Pcap2scenario

open Go Sip FirstMatch List Option

/-! ### Packets and dialogs -/

/-- `RawSIPPacket`, with its time in nanoseconds after the zero time.  A message is a request or
a response. -/
structure RawSIPPacket where
  index : Int
  timestamp : Int
  srcIP : Bytes
  srcPort : Int
  dstIP : Bytes
  dstPort : Int
  message : Message
  oneKind : message.method = [] ∨ message.statusCode = 0

/-- `Dialog`. -/
structure Dialog where
  callID : Bytes
  callerIP : Bytes
  callerSIPPort : Int
  calleeIP : Bytes
  calleeSIPPort : Int
  callerRTPIP : Bytes := []
  callerRTPPort : Int := 0
  calleeRTPIP : Bytes := []
  calleeRTPPort : Int := 0
  invite : RawSIPPacket
  ok : Option RawSIPPacket := none
  ack : Option RawSIPPacket := none
  bye : Option RawSIPPacket := none
  byeOK : Option RawSIPPacket := none
  authChallengeCode : Int := 0
  authChallenge : Option RawSIPPacket := none
  authACK : Option RawSIPPacket := none
  authINVITE : Option RawSIPPacket := none
  callDuration : Int := 0

/-- The errors of `BuildDialog`. -/
inductive DialogError where
  | noInvite
  | noCallID
  | noOK (callID : Bytes)
deriving DecidableEq, Repr

section Build

variable [CaseTables]

/-- `parseCSeqNum`. -/
def parseCSeqNum (headers : Headers) : Int :=
  match fields ((header headers (ascii "CSeq")).getD []) with
  | [] => 0
  | first :: _ =>
    match atoi first with
    | (n, none) => n
    | (_, some _) => 0

/-- One line of `parseSDP`. -/
def sdpLine (found : Bytes × Int) (text : Bytes) : Bytes × Int :=
  let line := trimSpace text
  let ip :=
    if hasPrefix line (ascii "c=") then
      ((fields (trimPrefix line (ascii "c=")))[2]?).getD found.1
    else found.1
  let port :=
    if hasPrefix (toLower line) (ascii "m=audio ") then
      match (fields line)[1]? with
      | none => found.2
      | some word =>
        match atoi word with
        | (p, none) => p
        | (_, some _) => found.2
    else found.2
  (ip, port)

/-- `parseSDP`. -/
def parseSDP (body : Bytes) : Bytes × Int :=
  (split (replaceAll body crlf [lf]) [lf]).foldl sdpLine ([], 0)

namespace RawSIPPacket

/-- The value of a header, or the empty text. -/
def headerText (m : RawSIPPacket) (name : String) : Bytes :=
  (header m.message.headers (ascii name)).getD []

def callID (m : RawSIPPacket) : Bytes :=
  m.headerText "Call-ID"

def cseqNum (m : RawSIPPacket) : Int :=
  parseCSeqNum m.message.headers

def hasMethod (m : RawSIPPacket) (method : String) : Bool :=
  m.message.method = ascii method

/-- The CSeq header names the method. -/
def cseqNames (m : RawSIPPacket) (method : String) : Bool :=
  contains (toUpper (m.headerText "CSeq")) (ascii method)

/-- A 401 or 407 response to the INVITE with this number. -/
def isChallenge (m : RawSIPPacket) (inviteCSeqNum : Int) : Bool :=
  (m.message.statusCode = 401 ∨ m.message.statusCode = 407) ∧ m.cseqNames "INVITE" ∧
    m.cseqNum = inviteCSeqNum

/-- A 200 response to a request with the method. -/
def isOKTo (m : RawSIPPacket) (method : String) : Bool :=
  m.message.statusCode = 200 ∧ m.cseqNames method

end RawSIPPacket

namespace Dialog

/-- The dialog of an INVITE, before the other messages are collected. -/
def start (invite : RawSIPPacket) : Dialog :=
  let sdp := parseSDP invite.message.body
  { callID := invite.callID
    callerIP := invite.srcIP
    callerSIPPort := invite.srcPort
    calleeIP := invite.dstIP
    calleeSIPPort := invite.dstPort
    callerRTPIP :=
      if invite.message.body = [] then [] else if sdp.1 ≠ [] then sdp.1 else invite.srcIP
    callerRTPPort := if invite.message.body = [] then 0 else sdp.2
    invite }

/-- The second INVITE, with the caller's media address if it gives one. -/
def withAuthINVITE (dlg : Dialog) (m : RawSIPPacket) : Dialog :=
  let sdp := parseSDP m.message.body
  { dlg with
    authINVITE := some m
    callerRTPPort := if m.message.body ≠ [] ∧ 0 < sdp.2 then sdp.2 else dlg.callerRTPPort
    callerRTPIP :=
      if m.message.body ≠ [] ∧ 0 < sdp.2 ∧ sdp.1 ≠ [] then sdp.1 else dlg.callerRTPIP }

/-- The answer, with the callee's media address. -/
def withOK (dlg : Dialog) (m : RawSIPPacket) : Dialog :=
  let sdp := parseSDP m.message.body
  { dlg with
    ok := some m
    calleeRTPPort := if m.message.body = [] then dlg.calleeRTPPort else sdp.2
    calleeRTPIP :=
      if m.message.body = [] then dlg.calleeRTPIP else if sdp.1 ≠ [] then sdp.1 else m.srcIP }

end Dialog

/-- One message in the loop of `BuildDialog`. -/
def collect (callID : Bytes) (inviteCSeqNum : Int) (dlg : Dialog) (m : RawSIPPacket) : Dialog :=
  if m.callID ≠ callID then dlg
  else if m.isChallenge inviteCSeqNum ∧ dlg.authChallengeCode = 0 then
    { dlg with authChallengeCode := m.message.statusCode, authChallenge := some m }
  else if m.hasMethod "ACK" ∧ m.cseqNum = inviteCSeqNum ∧ dlg.authChallengeCode ≠ 0 ∧
      dlg.authACK.isNone then
    { dlg with authACK := some m }
  else if m.hasMethod "INVITE" ∧ inviteCSeqNum < m.cseqNum ∧ dlg.authINVITE.isNone then
    dlg.withAuthINVITE m
  else if m.isOKTo "INVITE" ∧ dlg.ok.isNone then dlg.withOK m
  else if m.hasMethod "ACK" ∧ dlg.ok.isSome ∧ dlg.ack.isNone then { dlg with ack := some m }
  else if m.hasMethod "BYE" ∧ dlg.bye.isNone then { dlg with bye := some m }
  else if m.isOKTo "BYE" ∧ dlg.byeOK.isNone then { dlg with byeOK := some m }
  else dlg

/-- `Time.Sub`, which stops at the bounds of a `Duration`. -/
def timeSub (t u : Int) : Int :=
  max (-2 ^ 63) (min (t - u) (2 ^ 63 - 1))

/-- The time from the answer to the BYE, or five seconds. -/
def Dialog.duration (dlg : Dialog) : Int :=
  match dlg.bye, dlg.ok with
  | some bye, some ok =>
    let d := timeSub bye.timestamp ok.timestamp
    if ok.timestamp ≠ 0 ∧ bye.timestamp ≠ 0 ∧ 0 < d then d else 5000000000
  | _, _ => 5000000000

/-- `BuildDialog`. -/
def buildDialog (messages : List RawSIPPacket) : Except DialogError Dialog :=
  match messages.find? (·.hasMethod "INVITE") with
  | none => .error .noInvite
  | some invite =>
    if invite.callID = [] then .error .noCallID
    else
      let dlg := messages.foldl (collect invite.callID invite.cseqNum) (.start invite)
      if dlg.ok.isNone then .error (.noOK invite.callID)
      else .ok { dlg with callDuration := dlg.duration }

end Build

/-! ### One message -/

namespace RawSIPPacket

variable {m : RawSIPPacket}

variable {method : String}

theorem statusCode_of_hasMethod (isRequest : m.hasMethod method = true)
    (nonempty : ascii method ≠ []) : m.message.statusCode = 0 := by
  rcases m.oneKind with noMethod | noStatus
  · simp only [hasMethod, decide_eq_true_eq] at isRequest
    exact absurd (isRequest.symm.trans noMethod) nonempty
  · exact noStatus

theorem hasMethod_of_hasMethod (isRequest : m.hasMethod method = true)
    (different : ascii method ≠ ascii other) : m.hasMethod other = false := by
  simp only [hasMethod, decide_eq_true_eq] at isRequest
  simp [hasMethod, isRequest, different, decide_false]

variable [CaseTables]

theorem isOKTo_of_hasMethod (isRequest : m.hasMethod method = true)
    (nonempty : ascii method ≠ []) (other : String) : m.isOKTo other = false := by
  simp [isOKTo, statusCode_of_hasMethod isRequest nonempty]

theorem isChallenge_of_hasMethod (isRequest : m.hasMethod method = true)
    (nonempty : ascii method ≠ []) (n : Int) : m.isChallenge n = false := by
  simp [isChallenge, statusCode_of_hasMethod isRequest nonempty]

theorem hasMethod_of_isOKTo (isOK : m.isOKTo method = true)
    (nonempty : ascii other ≠ []) : m.hasMethod other = false := by
  by_contra isRequest
  rw [Bool.not_eq_false] at isRequest
  rw [isOKTo_of_hasMethod isRequest nonempty] at isOK
  cases isOK

variable {n : Int}

theorem hasMethod_of_isChallenge (challenges : m.isChallenge n = true)
    (nonempty : ascii other ≠ []) : m.hasMethod other = false := by
  by_contra isRequest
  rw [Bool.not_eq_false] at isRequest
  rw [isChallenge_of_hasMethod isRequest nonempty] at challenges
  cases challenges

theorem isOKTo_of_isChallenge (challenges : m.isChallenge n = true) (other : String) :
    m.isOKTo other = false := by
  simp only [isChallenge, decide_eq_true_eq] at challenges
  simp only [isOKTo, decide_eq_false_iff_not]
  omega

theorem isChallenge_of_isOKTo (isOK : m.isOKTo method = true) (n : Int) :
    m.isChallenge n = false := by
  by_contra challenges
  rw [Bool.not_eq_false] at challenges
  rw [isOKTo_of_isChallenge challenges] at isOK
  cases isOK

end RawSIPPacket

section Loop

variable [CaseTables] {callID : Bytes} {n : Int} {dlg : Dialog} {m : RawSIPPacket}

/-- What one message of the capture can do. -/
inductive Outcome (callID : Bytes) (n : Int) (dlg : Dialog) (m : RawSIPPacket) : Dialog → Prop where
  | foreign (otherCall : m.callID ≠ callID) : Outcome callID n dlg m dlg
  | challenge (inCall : m.callID = callID) (challenges : m.isChallenge n = true)
      (first : dlg.authChallengeCode = 0) :
      Outcome callID n dlg m
        { dlg with authChallengeCode := m.message.statusCode, authChallenge := some m }
  | authACK (inCall : m.callID = callID) (isACK : m.hasMethod "ACK" = true)
      (challenged : dlg.authChallengeCode ≠ 0) (first : dlg.authACK.isNone) :
      Outcome callID n dlg m { dlg with authACK := some m }
  | authINVITE (inCall : m.callID = callID) (isInvite : m.hasMethod "INVITE" = true)
      (later : n < m.cseqNum) (first : dlg.authINVITE.isNone) :
      Outcome callID n dlg m (dlg.withAuthINVITE m)
  | ok (inCall : m.callID = callID) (isOK : m.isOKTo "INVITE" = true) (first : dlg.ok.isNone) :
      Outcome callID n dlg m (dlg.withOK m)
  | ack (inCall : m.callID = callID) (isACK : m.hasMethod "ACK" = true)
      (answered : dlg.ok.isSome) (first : dlg.ack.isNone) :
      Outcome callID n dlg m { dlg with ack := some m }
  | bye (inCall : m.callID = callID) (isBYE : m.hasMethod "BYE" = true)
      (first : dlg.bye.isNone) : Outcome callID n dlg m { dlg with bye := some m }
  | byeOK (inCall : m.callID = callID) (isByeOK : m.isOKTo "BYE" = true)
      (notOK : ¬ (m.isOKTo "INVITE" = true ∧ dlg.ok.isNone)) (first : dlg.byeOK.isNone) :
      Outcome callID n dlg m { dlg with byeOK := some m }
  | passed (inCall : m.callID = callID)
      (noChallenge : ¬ (m.isChallenge n = true ∧ dlg.authChallengeCode = 0))
      (noOK : ¬ (m.isOKTo "INVITE" = true ∧ dlg.ok.isNone))
      (noACK : ¬ (m.hasMethod "ACK" = true ∧ dlg.ok.isSome ∧ dlg.ack.isNone))
      (noBYE : ¬ (m.hasMethod "BYE" = true ∧ dlg.bye.isNone))
      (noByeOK : ¬ (m.isOKTo "BYE" = true ∧ dlg.byeOK.isNone)) :
      Outcome callID n dlg m dlg

theorem collect_outcome (callID : Bytes) (n : Int) (dlg : Dialog) (m : RawSIPPacket) :
    Outcome callID n dlg m (collect callID n dlg m) := by
  by_cases inCall : m.callID = callID
  · fun_cases collect callID n dlg m
    case case1 otherCall => exact absurd inCall otherCall
    case case2 holds => exact .challenge inCall holds.1 holds.2
    case case3 holds => exact .authACK inCall holds.1 holds.2.2.1 holds.2.2.2
    case case4 holds => exact .authINVITE inCall holds.1 holds.2.1 holds.2.2
    case case5 holds => exact .ok inCall holds.1 holds.2
    case case6 holds => exact .ack inCall holds.1 holds.2.1 holds.2.2
    case case7 holds => exact .bye inCall holds.1 holds.2
    case case8 noOK _ _ holds => exact .byeOK inCall holds.1 noOK holds.2
    case case9 noChallenge _ _ noOK noACK noBYE noByeOK =>
      exact .passed inCall noChallenge noOK noACK noBYE noByeOK
  · rw [collect, if_pos inCall]
    exact .foreign inCall

/-- A message of the call that meets a predicate. -/
def inCall (callID : Bytes) (p : RawSIPPacket → Bool) (m : RawSIPPacket) : Bool :=
  m.callID = callID && p m

theorem inCall_eq_true {p : RawSIPPacket → Bool} :
    inCall callID p m = true ↔ m.callID = callID ∧ p m = true := by
  simp [inCall]

theorem inCall_eq_false {p : RawSIPPacket → Bool} (fails : p m = false) :
    inCall callID p m = false := by
  simp [inCall, fails]

theorem start_ok (invite : RawSIPPacket) : (Dialog.start invite).ok = none :=
  rfl

open RawSIPPacket

theorem ok_collect (callID : Bytes) (n : Int) (dlg : Dialog) (m : RawSIPPacket) :
    (collect callID n dlg m).ok =
      dlg.ok.or (if inCall callID (·.isOKTo "INVITE") m then some m else none) := by
  -- messages of the other kinds
  have kept (noOK : m.isOKTo "INVITE" = false) :
      dlg.ok = dlg.ok.or (if inCall callID (·.isOKTo "INVITE") m then some m else none) := by
    rw [inCall_eq_false noOK, if_neg Bool.false_ne_true, or_none]
  have outcome := collect_outcome callID n dlg m
  generalize collect callID n dlg m = after at outcome
  cases outcome with
  | foreign otherCall =>
    exact (or_of_taken fun isOK => absurd (inCall_eq_true.mp isOK).1 otherCall).symm
  | challenge _ challenges _ => exact kept (isOKTo_of_isChallenge challenges _)
  | authACK _ isACK _ _ | ack _ isACK _ _ => exact kept (isOKTo_of_hasMethod isACK (by decide) _)
  | authINVITE _ isInvite _ _ =>
    exact kept (isOKTo_of_hasMethod isInvite (by decide) _)
  | ok isCall isOK first => exact (or_of_first (inCall_eq_true.mpr ⟨isCall, isOK⟩) first).symm
  | bye _ isBYE _ => exact kept (isOKTo_of_hasMethod isBYE (by decide) _)
  | byeOK _ _ notOK _ | passed _ _ notOK _ _ _ =>
    refine (or_of_taken fun isOK => ?_).symm
    simpa [(inCall_eq_true.mp isOK).2, isSome_iff_ne_none] using notOK

/-- The loop takes the first answer to an INVITE. -/
theorem ok_foldl (callID : Bytes) (n : Int) (dlg : Dialog) (l : List RawSIPPacket) :
    (l.foldl (collect callID n) dlg).ok =
      dlg.ok.or (l.find? (inCall callID (·.isOKTo "INVITE"))) := by
  induction l generalizing dlg with
  | nil => rw [foldl_nil, find?_nil, or_none]
  | cons m rest ih =>
    rw [foldl_cons, ih, ok_collect, Option.or_assoc, find?_cons]
    cases inCall callID (·.isOKTo "INVITE") m <;> rfl

theorem invite_foldl (callID : Bytes) (n : Int) (dlg : Dialog) (l : List RawSIPPacket) :
    (l.foldl (collect callID n) dlg).invite = dlg.invite := by
  induction l generalizing dlg with
  | nil => rfl
  | cons m rest ih =>
    rw [foldl_cons, ih]
    have outcome := collect_outcome callID n dlg m
    generalize collect callID n dlg m = after at outcome
    cases outcome <;> rfl

end Loop

end Gossipper.Pcap2scenario
