/-
Module: Gossipper.Engine.AutoAck
Purpose: The ACK that a call sends by itself for a retransmitted 200 of an INVITE, over whole
  runs, after the bookkeeping behind a send and the stash callback of `executeCall` in
  `internal/engine/engine.go`.
Trusted boundary: none beyond that of the model of a call
Main exports: Answers, Acknowledged, Newest, Stored, AcksRight, AckMeets,
  acks_right_of_guarded
-/
import Gossipper.Engine.Retransmit

namespace Gossipper.Engine

open Go Sip List

/-! ### The INVITE and ACK requests of a history -/

variable (last : LastSent) (sent : Sent)

section Requests

variable [CaseTables]

/-- A sent message parses as a request of the method. -/
def Sent.hasMethod (sent : Sent) (method : Bytes) : Bool :=
  match sent.parsing.parse sent.payload with
  | none => false
  | some parsed => equalFold parsed.method method

def Sent.isInvite (sent : Sent) : Bool :=
  sent.hasMethod (ascii "INVITE")

def Sent.isACK (sent : Sent) : Bool :=
  sent.hasMethod (ascii "ACK")

/-- The CSeq number of a sent message. -/
def Sent.number (sent : Sent) : Option Int :=
  sent.cseq.map Prod.fst

theorem Sent.isACK_not_invite {sent : Sent} (isACK : sent.isACK = true) :
    sent.isInvite = false := by
  unfold Sent.isACK Sent.hasMethod at isACK
  unfold Sent.isInvite Sent.hasMethod
  cases parsed : sent.parsing.parse sent.payload with
  | none => rfl
  | some msg =>
    simp only [parsed] at isACK ⊢
    rw [Bool.eq_false_iff]
    exact Call.ack_not_invite isACK

theorem Sent.isACK_ne_nil {sent : Sent} (isACK : sent.isACK = true) : sent.payload ≠ [] := by
  intro empty
  simp [Sent.isACK, Sent.hasMethod, empty, Reparse.parse_nil] at isACK

theorem record_inviteBranch :
    (last.record sent).inviteBranch =
      if sent.isInvite then sent.branch.getD last.branch else last.inviteBranch := by
  unfold LastSent.record Sent.isInvite Sent.hasMethod Sent.branch
  cases sent.parsing.parse sent.payload with
  | none => rfl
  | some parsed =>
    simp only [LastSent.noteInvite, Option.bind_some]
    split
    · rfl
    · split <;> rfl

theorem record_storedACK :
    (last.record sent).inviteACK =
      if sent.isACK ∧ last.inviteBranch ≠ [] then sent.payload else last.inviteACK := by
  by_cases isACK : sent.isACK = true
  · have notInvite := Sent.isACK_not_invite isACK
    unfold Sent.isInvite Sent.hasMethod at notInvite
    simp only [isACK, true_and]
    unfold Sent.isACK Sent.hasMethod at isACK
    unfold LastSent.record
    cases parsed : sent.parsing.parse sent.payload with
    | none => simp [parsed] at isACK
    | some msg =>
      simp only [parsed] at isACK notInvite
      simp only [LastSent.noteInvite, notInvite, isACK, Bool.false_eq_true, if_false, true_and]
      split <;> simp_all [LastSent.cacheBranch, LastSent.cacheCSeq]
  · rw [if_neg (fun both => isACK both.1)]
    unfold Sent.isACK Sent.hasMethod at isACK
    unfold LastSent.record
    cases parsed : sent.parsing.parse sent.payload with
    | none => rfl
    | some msg =>
      simp only [parsed] at isACK
      simp only [LastSent.noteInvite, isACK]
      split <;> rfl

/-! ### What the variables hold behind a history -/

/-- Behind the newest INVITE its branch is stored. -/
theorem inviteBranch_of_newest {before after invite branch}
    (isInvite : invite.isInvite = true) (found : invite.branch = some branch)
    (newest : ∀ later ∈ after, later.isInvite = false) :
    (afterSends (before ++ invite :: after)).inviteBranch = branch := by
  induction after using List.reverseRecOn with
  | nil =>
    rw [afterSends_concat, record_inviteBranch, if_pos isInvite, found, Option.getD_some]
  | append_singleton after sent ih =>
    rw [forall_mem_append, forall_mem_singleton] at newest
    rw [← cons_append, ← append_assoc, afterSends_concat, record_inviteBranch, newest.2]
    exact ih newest.1

/-- An ACK that is stored stays until another one is. -/
theorem inviteACK_of_last {before after ack} (isACK : ack.isACK = true)
    (known : (afterSends before).inviteBranch ≠ [])
    (last : ∀ later ∈ after, later.isACK = false) :
    (afterSends (before ++ ack :: after)).inviteACK = ack.payload := by
  induction after using List.reverseRecOn with
  | nil => rw [afterSends_concat, record_storedACK, if_pos ⟨isACK, known⟩]
  | append_singleton after sent ih =>
    rw [forall_mem_append, forall_mem_singleton] at last
    rw [← cons_append, ← append_assoc, afterSends_concat, record_storedACK,
      if_neg (by simp [last.2])]
    exact ih last.1

/-- Once an ACK is stored, some ACK is. -/
theorem inviteACK_ne_nil {before : List Sent} {ack : Sent} (isACK : ack.isACK = true)
    (known : (afterSends before).inviteBranch ≠ []) (after : List Sent) :
    (afterSends (before ++ ack :: after)).inviteACK ≠ [] := by
  induction after using List.reverseRecOn with
  | nil =>
    rw [afterSends_concat, record_storedACK, if_pos ⟨isACK, known⟩]
    exact Sent.isACK_ne_nil isACK
  | append_singleton after sent ih =>
    rw [← cons_append, ← append_assoc, afterSends_concat, record_storedACK]
    split
    · rename_i another
      exact Sent.isACK_ne_nil another.1
    · exact ih

end Requests

namespace Call

open Scenario Transition

section Acks

variable [CaseTables]

/-! ### The property -/

/-- The message is a 200 response to the INVITE: it has its branch and its CSeq. -/
structure Answers (msg : Message) (invite : Sent) : Prop where
  status : msg.statusCode = 200
  isInvite : invite.isInvite = true
  branch : ∃ branch, branch ≠ [] ∧ invite.branch = some branch ∧
    viaBranch msg.headers = some branch
  cseq : ∃ cseq, invite.cseq = some cseq ∧
    (parseCSeq msg.headers).map (fun found => (found.1, trimSpace found.2)) = some cseq

/-- Behind the INVITE at a position of the history, an ACK with its CSeq number was sent. -/
def Acknowledged (history : List Sent) (position : Nat) (invite : Sent) : Prop :=
  ∃ ack ∈ history.drop (position + 1), ack.isACK = true ∧ ack.number = invite.number

/-- No INVITE was sent behind the position. -/
def Newest (history : List Sent) (position : Nat) : Prop :=
  ∀ later ∈ history.drop (position + 1), later.isInvite = false

/-- The last ACK that was sent when an INVITE was known. -/
def Stored (history : List Sent) (ack : Sent) : Prop :=
  ∃ before after, history = before ++ ack :: after ∧ ack.isACK = true ∧
    (afterSends before).inviteBranch ≠ [] ∧ ∀ later ∈ after, later.isACK = false

/-- The command, the message that its wait deals with, and whether the message has just
arrived. -/
def reading (script : Script) (event : Event) (s : State) : Option (Command × Message × Bool) :=
  match s.phase, event, script.commands[s.index]? with
  | .waiting _ _, .poll net _ _ _, some cmd =>
    match nextSource cmd s, net with
    | .pending item _, _ => some (cmd, item.msg, false)
    | .network, .message msg => some (cmd, msg, true)
    | _, _ => none
  | _, _, _ => none

/-- A step deals with the responses to INVITEs as it should: a 200 that arrives for an
acknowledged INVITE makes the call send the stored ACK once and nothing else, and an ACK
that is sent for a 200 is one that was sent before, with the CSeq number of the INVITE. -/
def AcksRight (script : Script) (event : Event) (s : State) : Prop :=
  ∀ t cmd msg arrived, step script event s = some t →
    reading script event s = some (cmd, msg, arrived) →
    ∀ position invite, s.history[position]? = some invite → Answers msg invite →
      (arrived = true → Acknowledged s.history position invite →
        t.log = s.log ++ [⟨.ack, s.history.length, s.last.inviteACK⟩]) ∧
      ∀ more, t.log = s.log ++ more → ∀ entry ∈ more, entry.cause = .ack →
        ∃ ack ∈ s.history, ack.isACK = true ∧ ack.payload = entry.payload ∧
          ack.number = invite.number

/-! ### The condition -/

/-- The 200 has the branch stored for the last INVITE, and an ACK is stored. -/
def ackDue (s : State) (msg : Message) : Bool :=
  s.last.inviteACK != [] && s.last.inviteBranch != [] &&
    (viaBranch msg.headers).any (equalFold · s.last.inviteBranch)

/-- Nobody else takes the message: the command does not accept it, and it is no response to
the last sent message. -/
def leftOver (cmd : Command) (s : State) (msg : Message) : Bool :=
  !matchesNow cmd s msg && !matchesTxn s msg

/-- A 200 for an acknowledged INVITE arrives before another INVITE is sent, and nobody else
takes it; and where a 200 would be answered with the stored ACK, that ACK was sent for the
INVITE. -/
def AckMeets (script : Script) (event : Event) (s : State) : Prop :=
  ∀ cmd msg arrived, reading script event s = some (cmd, msg, arrived) →
    ∀ position invite, s.history[position]? = some invite → Answers msg invite →
      (arrived = true → Acknowledged s.history position invite →
        Newest s.history position ∧ leftOver cmd s msg = true) ∧
      (leftOver cmd s msg = true → ackDue s msg = true →
        ∃ ack, Stored s.history ack ∧ ack.number = invite.number)

/-! ### What a step sends for a 200 -/

variable {s : State}

theorem resendAck_log (isOk : msg.statusCode = 200) :
    (resendAck s msg).log =
      s.log ++ if ackDue s msg then [⟨.ack, s.history.length, s.last.inviteACK⟩] else [] := by
  unfold resendAck ackDue
  by_cases stored : s.last.inviteACK ≠ [] ∧ s.last.inviteBranch ≠ []
  · rw [if_pos ⟨isOk, stored⟩]
    cases found : viaBranch msg.headers with
    | none => simp
    | some branch =>
      cases same : equalFold branch s.last.inviteBranch <;> simp [stored, same, State.pass]
  · rw [if_neg (fun both => stored both.2)]
    simp only [ne_eq, not_and_or, not_not] at stored
    obtain none | none := stored <;> simp [none]

omit [CaseTables] in
theorem proceed_log (cmd : Command) (s : State) (after : After) (taken : Bool) :
    (proceed cmd s after taken).log = s.log := by
  cases after <;> rfl

variable {cmd : Command}

/-- The stash callback answers a 200 that belongs to an earlier transaction. -/
theorem stash_log (script : Script) (s : State) (isOk : item.msg.statusCode = 200)
    (mandatory : fromPending = true → cmd.optional = false) :
    (stash script cmd s item fromPending).1.log =
      s.log ++ if !matchesTxn s item.msg && ackDue s item.msg then
        [⟨.ack, s.history.length, s.last.inviteACK⟩] else [] := by
  have noBye : unawaitedBye cmd item.msg = false := by
    simp [unawaitedBye, isOk]
  have resent := resendAck_log (s := s) isOk
  unfold stash
  simp only [noBye, Bool.false_eq_true, if_false, isOk]
  cases sameTxn : matchesTxn s item.msg with
  | false =>
    cases fromPending with
    | true => simp [mandatory rfl, resent]
    | false => simp [State.free, resent]
  | true =>
    cases fromPending with
    | true =>
      simp only [if_true, mandatory rfl, Bool.false_eq_true, if_false]
      split
      · rename_i impossible
        exact absurd impossible.2 (by simp)
      · split <;> simp
    | false =>
      simp only [Bool.false_eq_true, if_false]
      split
      · rename_i impossible
        exact absurd impossible.2 (by simp)
      · split
        · rename_i impossible
          exact absurd impossible.2.1 (by decide)
        · split
          · simp
          · split <;> simp

variable {script : Script}

/-- A pending message that an optional recv is offered matches it, so that the stash callback
never puts a 200 back. -/
theorem onMessage_log {item fromPending retrans finalResponseSeen after taken}
    (isOk : item.msg.statusCode = 200)
    (offered : fromPending = true → cmd.optional = true → matchesNow cmd s item.msg = true) :
    (onMessage script cmd s item fromPending retrans finalResponseSeen after taken).log =
      s.log ++ if leftOver cmd s item.msg && ackDue s item.msg then
        [⟨.ack, s.history.length, s.last.inviteACK⟩] else [] := by
  unfold onMessage leftOver
  cases accepted : matchesNow cmd s item.msg with
  | true => simp [accept, proceed_log]
  | false =>
    have mandatory : fromPending = true → cmd.optional = false := by
      intro isPending
      rw [Bool.eq_false_iff]
      intro optional
      rw [offered isPending optional] at accepted
      cases accepted
    have stashed := stash_log script s isOk mandatory
    simp only [Bool.false_eq_true, if_false, Bool.not_false, Bool.true_and]
    split
    · rename_i after error result
      rw [result] at stashed
      rw [log_waitFailed]
      exact stashed
    · rename_i after result
      rw [result] at stashed
      split
      · rw [log_waitFailed]
        exact stashed
      · cases fromPending <;> exact stashed

/-- What a step that deals with a 200 sends. -/
theorem step_log {event s t msg arrived} (stepped : step script event s = some t)
    (reads : reading script event s = some (cmd, msg, arrived)) (isOk : msg.statusCode = 200) :
    t.log = s.log ++ if leftOver cmd s msg && ackDue s msg then
      [⟨.ack, s.history.length, s.last.inviteACK⟩] else [] := by
  cases step_stepped stepped with
  | complete waiting | skip waiting | wait waiting | expire waiting => simp [reading, waiting] at reads
  | send result taken ready | other after taken ready => simp [reading, ready] at reads
  | poll net sendOk after taken waiting atCommand =>
    simp only [reading, waiting, atCommand] at reads
    unfold poll
    split at reads
    · rename_i item rest source
      cases reads
      rw [source]
      exact onMessage_log isOk fun _ optional => (nextSource_pending source).2.1 optional
    · rename_i source
      cases reads
      rw [source]
      exact onMessage_log isOk fun impossible => by cases impossible
    · cases reads

/-! ### The run -/

theorem acksRight_of_meets {event} (cached : Cached s)
    (meets : AckMeets script event s) : AcksRight script event s := by
  intro t cmd msg arrived stepped reads position invite isAt answers
  obtain ⟨whenArrived, whenDue⟩ := meets cmd msg arrived reads position invite isAt answers
  have log := step_log stepped reads answers.status
  constructor
  · rintro isArrived acknowledged
    obtain ⟨newest, isLeftOver⟩ := whenArrived isArrived acknowledged
    obtain ⟨branch, nonempty, found, carried⟩ := answers.branch
    have split : s.history = s.history.take position ++
        invite :: s.history.drop (position + 1) := by
      obtain ⟨inside, atPosition⟩ := List.getElem?_eq_some_iff.mp isAt
      rw [← atPosition, ← drop_eq_getElem_cons inside, take_append_drop]
    have stored : s.last.inviteBranch = branch := by
      rw [cached, split]
      exact inviteBranch_of_newest answers.isInvite found newest
    have ackStored : s.last.inviteACK ≠ [] := by
      obtain ⟨ack, member, isACK, -⟩ := acknowledged
      obtain ⟨between, behind, parts⟩ := append_of_mem member
      have known :
          (afterSends (s.history.take position ++ invite :: between)).inviteBranch ≠ [] := by
        rw [inviteBranch_of_newest answers.isInvite found]
        · exact nonempty
        · intro later isBetween
          exact newest later (parts ▸ mem_append_left _ isBetween)
      have kept := inviteACK_ne_nil isACK known behind
      rw [cached, split, parts]
      simpa using kept
    have due : ackDue s msg = true := by
      simp [ackDue, stored, ackStored, carried, nonempty]
    rw [log, isLeftOver, due]
    rfl
  · intro more appended entry member isAck
    rw [log, append_cancel_left_eq] at appended
    subst appended
    split at member
    · rename_i resent
      rw [Bool.and_eq_true] at resent
      obtain ⟨ack, ⟨before, after, split, isACK, known, last⟩, number⟩ :=
        whenDue resent.1 resent.2
      rw [mem_singleton.mp member]
      refine ⟨ack, by rw [split]; simp, isACK, ?_, number⟩
      rw [cached, split, inviteACK_of_last isACK known last]
    · cases member

/-- In every run of a call whose steps all meet the condition, every step deals with the
responses to INVITEs as it should. -/
theorem acks_right_of_guarded {script : Script} {events : List Event} {final : State}
    (guarded : Guarded (step script) (AckMeets script) .initial events final) :
    Guarded (step script) (AcksRight script) .initial events final := by
  apply guarded.imp_of_invariant Cached rfl
  · intro event before after _ stepped cached
    exact cached_step cached (step_stepped stepped)
  · intro event before _ _ cached meets
    exact acksRight_of_meets cached meets

end Acks

/-! ### Calls with one and two INVITEs -/

section Concrete

attribute [local instance] CaseTables.asciiOnly

/-- A command that waits for a request. -/
def recvRequest (method : String) : Command :=
  { recvResponse "" false with filter := ⟨ascii method, [], none⟩ }

/-- A call that sends an INVITE and its ACK and waits for a BYE. -/
def answeredCall : Script where
  commands := [sendEvery 0, recvResponse "200" false, sendEvery 0,
    recvRequest "BYE"]
  unexpMain := none
  udp := true

/-- The same call, with a second INVITE behind the first ACK. -/
def reinvitedCall : Script where
  commands := [sendEvery 0, recvResponse "200" false, sendEvery 0, sendEvery 0,
    recvResponse "200" false]
  unexpMain := none
  udp := true

def firstACK : Sent :=
  ⟨ascii "ACK sip:a SIP/2.0\r\nVia: b;branch=y\r\nCSeq: 1 ACK\r\n\r\n", .fresh⟩

def secondInvite : Sent :=
  ⟨ascii "INVITE sip:a SIP/2.0\r\nVia: b;branch=z\r\nCSeq: 2 INVITE\r\n\r\n", .fresh⟩

def firstOk : Message :=
  incoming "SIP/2.0 200 OK\r\nVia: b;branch=x\r\nCSeq: 1 INVITE\r\n\r\n"

/-- The 200 is accepted, the ACK is sent, and the 200 arrives again. -/
def okTwice : List Event :=
  [.send (.sent invite) false, .wait, .poll (.message firstOk) true .next false,
    .send (.sent firstACK) false, .wait, .poll (.message firstOk) true .next false]

/-- The same with a second INVITE before the 200 arrives again. -/
def okBehindInvite : List Event :=
  [.send (.sent invite) false, .wait, .poll (.message firstOk) true .next false,
    .send (.sent firstACK) false, .send (.sent secondInvite) false, .wait]

theorem answeredCall_acks_right :
    ∃ final, Guarded (step answeredCall) (AcksRight answeredCall) .initial okTwice final ∧
      final.log.map (·.cause) = [.command, .command, .ack] := by
  have quiet {event : Event} {s : State} (nothing : reading answeredCall event s = none) :
      AckMeets answeredCall event s := by
    intro cmd msg arrived reads
    rw [nothing] at reads
    cases reads
  refine ⟨_, acks_right_of_guarded (.cons (quiet rfl) rfl <| .cons (quiet rfl) rfl <| .cons ?first
    rfl <| .cons (quiet rfl) rfl <| .cons (quiet rfl) rfl <| .cons ?second rfl <| .nil _),
    by decide⟩
  case first =>
    -- nothing is acknowledged yet, and the recv accepts the 200
    intro cmd msg arrived reads
    obtain ⟨rfl, rfl, rfl⟩ : recvResponse "200" false = cmd ∧ firstOk = msg ∧ true = arrived := by
      simpa using Option.some.inj reads
    intro position sent isAt answers
    constructor
    · rintro - ⟨ack, member, -⟩
      change ack ∈ [invite].drop (position + 1) at member
      simp at member
    · intro isLeftOver
      exact absurd isLeftOver (by decide)
  case second =>
    intro cmd msg arrived reads
    obtain ⟨rfl, rfl, rfl⟩ : recvRequest "BYE" = cmd ∧ firstOk = msg ∧ true = arrived := by
      simpa using Option.some.inj reads
    intro position sent isAt answers
    change [invite, firstACK][position]? = some sent at isAt
    obtain rfl | rfl | ⟨later, rfl⟩ :
        position = 0 ∨ position = 1 ∨ ∃ later, position = later + 2 := by
      obtain _ | _ | later := position
      · exact .inl rfl
      · exact .inr (.inl rfl)
      · exact .inr (.inr ⟨later, rfl⟩)
    · cases isAt
      refine ⟨fun _ _ => ⟨?_, by decide⟩, fun _ _ => ⟨firstACK, ?_, by decide⟩⟩
      · intro later member
        change later ∈ [firstACK] at member
        rw [mem_singleton.mp member]
        decide
      · exact ⟨[invite], [], rfl, by decide, by decide, by simp⟩
    · cases isAt
      exact absurd answers.isInvite (by decide)
    · cases isAt

/-- The 200 of the first INVITE arrives again while the call waits for the answer to the
second one: no ACK is sent. -/
theorem late_ok_unanswered :
    ∃ s, Run (step reinvitedCall) .initial okBehindInvite s ∧
      Answers firstOk invite ∧ s.history[0]? = some invite ∧
      Acknowledged s.history 0 invite ∧
      reading reinvitedCall (.poll (.message firstOk) true .next false) s =
        some (recvResponse "200" false, firstOk, true) ∧
      (step reinvitedCall (.poll (.message firstOk) true .next false) s).map (·.log) =
        some s.log ∧
      ¬ AcksRight reinvitedCall (.poll (.message firstOk) true .next false) s := by
  have answers : Answers firstOk invite :=
    ⟨by decide, by decide, ⟨ascii "x", by decide, by decide, by decide⟩,
      ⟨(1, ascii "INVITE"), by decide, by decide⟩⟩
  refine ⟨_, Run.of_exec rfl, answers, rfl,
    ⟨firstACK, mem_cons_self, by decide, by decide⟩, rfl,
    by decide, ?_⟩
  intro right
  have sent := (right _ _ _ _ rfl rfl 0 invite rfl answers).1 rfl
    ⟨firstACK, mem_cons_self, by decide, by decide⟩
  exact absurd (congrArg List.length sent) (by decide)

end Concrete

end Call

end Gossipper.Engine
