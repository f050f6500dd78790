/-
Module: Gossipper.Engine.Retransmit
Purpose: When the executor stops retransmitting a request: what arms the
  retransmission, what disarms it, and the runs in which an INVITE is not sent
  again once a response to it was taken from the network.
Trusted boundary: none
Main exports: Armed, nextMessage, stopsRetransmission, Silent, silent_step,
  invite_not_retransmitted
-/
import Gossipper.Engine.Pending

namespace Gossipper.Engine.Call

open Go Sip Scenario Transition List

/-! ### What a wait retransmits with -/

/-- Inside a wait, the interval is that of the last send command. -/
def Armed (script : Script) (s : State) : Prop :=
  ∀ retrans finalResponseSeen, s.phase = .waiting retrans finalResponseSeen →
    retrans = if script.udp then s.lastRetrans else 0

variable (script : Script) (cmd : Command) (s : State) (item : Received) (fromPending : Bool)
  (error : WaitError) (msg : Message) (history : List Sent) (retrans : Int)
  (finalResponseSeen : Bool) (after : After) (taken : Bool)

theorem not_waiting_goto (index : Nat) (retrans : Int) (finalResponseSeen : Bool) :
    (s.goto index).phase ≠ .waiting retrans finalResponseSeen := by
  simp [State.goto]

theorem not_waiting_finish (result : Result) (retrans : Int)
    (finalResponseSeen : Bool) : (s.finish result).phase ≠ .waiting retrans finalResponseSeen := by
  simp [State.finish]

theorem not_waiting_proceed (retrans : Int) (finalResponseSeen : Bool) :
    (proceed cmd s after taken).phase ≠ .waiting retrans finalResponseSeen := by
  cases after
  · exact not_waiting_goto _ _ _ _
  · exact not_waiting_goto _ _ _ _
  · exact not_waiting_finish _ _ _ _
  · exact not_waiting_finish _ _ _ _

theorem not_waiting_waitFailed :
    (waitFailed script cmd s error).phase ≠ .waiting retrans finalResponseSeen := by
  unfold waitFailed
  split
  · exact not_waiting_goto _ _ _ _
  · split
    · exact not_waiting_goto _ _ _ _
    · exact not_waiting_finish _ _ _ _

@[simp] theorem lastRetrans_proceed :
    (proceed cmd s after taken).lastRetrans = s.lastRetrans := by
  cases after <;> rfl

@[simp] theorem lastRetrans_waitFailed : (waitFailed script cmd s error).lastRetrans = s.lastRetrans := by
  unfold waitFailed
  repeat' split
  all_goals rfl

section Retransmission

variable [CaseTables]

@[simp] theorem lastRetrans_resendAck :
    (resendAck s msg).lastRetrans = s.lastRetrans := by
  unfold resendAck
  repeat' split
  all_goals rfl

@[simp] theorem lastRetrans_stash :
    (stash script cmd s item fromPending).1.lastRetrans = s.lastRetrans := by
  unfold stash
  dsimp only
  repeat' split
  all_goals first
    | rfl
    | exact lastRetrans_resendAck s item.msg

/-- A message leaves the interval of the last send command as it is, unless the
match disarms it. -/
theorem lastRetrans_onMessage :
    (onMessage script cmd s item fromPending retrans finalResponseSeen after taken).lastRetrans =
      if matchesNow cmd s item.msg = true ∧ cmd.filter.recvResp ≠ [] ∧ 0 < s.lastRetrans then 0
      else s.lastRetrans := by
  have stashed := lastRetrans_stash script cmd s item fromPending
  unfold onMessage
  split
  · rename_i isMatch
    simp [accept, isMatch]
  · rename_i noMatch
    rw [if_neg fun matched => noMatch matched.1]
    split
    · rename_i result
      rw [result] at stashed
      rw [lastRetrans_waitFailed]
      exact stashed
    · rename_i result
      rw [result] at stashed
      split
      · rw [lastRetrans_waitFailed]
        exact stashed
      · cases fromPending <;> exact stashed

variable {script : Script} {item : Received} {s : State} {cmd : Command} {finalResponseSeen : Bool}
    {fromPending : Bool} {retrans : Int} {after : After}

/-- Only the loop itself goes on waiting, with the same interval. -/
theorem waiting_onMessage {taken retrans' finalResponseSeen'}
    (waiting : (onMessage script cmd s item fromPending retrans finalResponseSeen after
      taken).phase = .waiting retrans' finalResponseSeen') :
    retrans' = retrans ∧ matchesNow cmd s item.msg = false := by
  unfold onMessage at waiting
  split at waiting
  · exact absurd waiting (not_waiting_proceed _ _ _ _ _ _)
  · rename_i noMatch
    split at waiting
    · exact absurd waiting (not_waiting_waitFailed _ _ _ _ _ _)
    · split at waiting
      · exact absurd waiting (not_waiting_waitFailed _ _ _ _ _ _)
      · cases waiting
        exact ⟨rfl, by simpa using noMatch⟩

theorem armed_poll (armed : Armed script s) (cmd : Command)
    (waiting : s.phase = .waiting retrans finalResponseSeen) (net : Net) (sendOk : Bool)
    (after : After) (taken : Bool) :
    Armed script (poll script cmd s net sendOk retrans finalResponseSeen after taken) := by
  have failed : ∀ (s : State) (error : WaitError), Armed script (waitFailed script cmd s error) :=
    fun s error _ _ isWaiting => absurd isWaiting (not_waiting_waitFailed _ _ _ _ _ _)
  have again : ∀ (u : State) (item : Received) (fromPending : Bool),
      u.lastRetrans = s.lastRetrans → Armed script
        (onMessage script cmd u item fromPending retrans finalResponseSeen after taken) := by
    intro u item fromPending same retrans' finalResponseSeen' isWaiting
    obtain ⟨rfl, noMatch⟩ := waiting_onMessage isWaiting
    have kept : (onMessage script cmd u item fromPending retrans' finalResponseSeen after
        taken).lastRetrans = s.lastRetrans := by
      rw [lastRetrans_onMessage, if_neg, same]
      simp [noMatch]
    rw [kept]
    exact armed _ _ waiting
  unfold poll
  split
  · exact again _ _ _ rfl
  · exact failed _ _
  · split
    · exact again _ _ _ rfl
    · unfold onDeadline
      split
      · dsimp only
        split
        · exact armed
        · exact failed _ _
      · exact failed _ _
    · exact failed _ _
    · exact failed _ _

variable {event : Event}

theorem armed_step {s t} (armed : Armed script s)
    (stepped : Stepped script s event t) : Armed script t := by
  cases stepped with
  | complete => exact fun _ _ isWaiting => absurd isWaiting (not_waiting_finish _ _ _ _)
  | skip => exact fun _ _ isWaiting => absurd isWaiting (not_waiting_goto _ _ _ _)
  | send result taken =>
    intro _ _ isWaiting
    cases result with
    | renderFailed | sendFailed payload => exact absurd isWaiting (not_waiting_finish _ _ _ _)
    | sent sent => exact absurd isWaiting (not_waiting_goto _ _ _ _)
  | wait =>
    intro _ _ isWaiting
    cases isWaiting
    rfl
  | other after taken =>
    exact fun _ _ isWaiting => absurd isWaiting (not_waiting_proceed _ _ _ _ _ _)
  | expire => exact fun _ _ isWaiting => absurd isWaiting (not_waiting_waitFailed _ _ _ _ _ _)
  | poll net sendOk after taken waiting => exact armed_poll armed _ waiting net sendOk after taken

/-! ### What a step sends -/

/-- The wait loop is about to retransmit: the interval is set, no final response
was seen, and the next message would come from the network. -/
def Retransmits (script : Script) (s : State) : Prop :=
  ∃ cmd retrans, s.phase = .waiting retrans false ∧ 0 < retrans ∧
    script.commands[s.index]? = some cmd ∧ nextSource cmd s = .network

/-- Whatever is passed to `send` comes from a send command, is a reply, or is the last
sent message once more. -/
def Emits (script : Script) (s : State) (entry : SendEntry) : Prop :=
  entry.cause = .command ∨ Reply s.last entry ∨
    entry = ⟨.retransmit, s.history.length, s.last.payload⟩ ∧ Retransmits script s

/-- The state sends only what it may. -/
def Sends (script : Script) (s t : State) : Prop :=
  ∃ more, t.log = s.log ++ more ∧ ∀ entry ∈ more, Emits script s entry

theorem Sends.of_eq (same : t.log = s.log) : Sends script s t :=
  ⟨[], by simp [same], by simp⟩

theorem Continues.replies {s t} (continues : Continues s t) :
    ∃ more, t.log = s.log ++ more ∧ ∀ entry ∈ more, Reply s.last entry := by
  obtain grows | ⟨u, result, grows, rfl⟩ := continues
  · exact grows.log
  · exact grows.log

theorem Sends.of_replies
    (replies : ∃ more, t.log = s.log ++ more ∧ ∀ entry ∈ more, Reply s.last entry) :
    Sends script s t := by
  obtain ⟨more, log, isReply⟩ := replies
  exact ⟨more, log, fun entry isNew => .inr (.inl (isReply entry isNew))⟩

omit [CaseTables] in
@[simp] theorem log_waitFailed (script : Script) (cmd : Command) (s : State)
    (error : WaitError) : (waitFailed script cmd s error).log = s.log := by
  unfold waitFailed
  repeat' split
  all_goals rfl

theorem sends_onDeadline (waiting : s.phase = .waiting retrans finalResponseSeen)
    (atCommand : script.commands[s.index]? = some cmd)
    (fromNetwork : nextSource cmd s = .network) (late sendOk : Bool) :
    Sends script s (onDeadline script cmd s late sendOk retrans finalResponseSeen) := by
  unfold onDeadline
  split
  · rename_i due
    have isDue : Emits script s ⟨.retransmit, s.history.length, s.last.payload⟩ :=
      .inr (.inr ⟨rfl, cmd, retrans, by rw [waiting, due.2.1], due.1, atCommand, fromNetwork⟩)
    dsimp only
    split
    · exact ⟨_, rfl, by simpa using isDue⟩
    · exact ⟨_, log_waitFailed _ _ _ _, by simpa using isDue⟩
  · exact .of_eq (log_waitFailed _ _ _ _)

open Grows

theorem sends_step (stepped : Stepped script s event t) : Sends script s t := by
  cases stepped with
  | complete | skip | wait => exact .of_eq rfl
  | send result taken =>
    cases result with
    | renderFailed => exact .of_eq rfl
    | sendFailed payload | sent sent => exact ⟨_, rfl, by simp [Emits]⟩
  | other after taken => exact .of_replies ((refl s).proceed _ after taken).replies
  | expire => exact .of_eq (log_waitFailed _ _ _ _)
  | @poll cmd retrans finalResponseSeen net sendOk after taken waiting atCommand =>
    unfold poll
    split
    · rename_i item rest _
      exact .of_replies (onMessage_continues script cmd { s with pending := rest } item true
        retrans finalResponseSeen after taken).replies
    · exact .of_eq (log_waitFailed _ _ _ _)
    · rename_i fromNetwork
      split
      · exact .of_replies (onMessage_continues script cmd { s with nextId := s.nextId + 1 } _
          false retrans finalResponseSeen after taken).replies
      · exact sends_onDeadline waiting atCommand fromNetwork _ sendOk
      · exact .of_eq (log_waitFailed _ _ _ _)
      · exact .of_eq (log_waitFailed _ _ _ _)

/-! ### The condition and its invariant -/

/-- The message that the wait loop handles next. -/
def nextMessage (cmd : Command) (s : State) (net : Net) : Option Message :=
  match nextSource cmd s, net with
  | .pending item _, _ => some item.msg
  | .network, .message msg => some msg
  | _, _ => none

/-- A step deals with a response of the current transaction in a way that stops the
retransmission: a recv for a response matches it, or it is a final response that
no recv matches and no `_unexp.main` takes. -/
def stopsRetransmission (script : Script) (event : Event) (s : State) : Bool :=
  match event, script.commands[s.index]? with
  | .poll net _ _ _, some cmd =>
    (nextMessage cmd s net).all fun msg =>
      if 0 < s.lastRetrans ∧ 0 < msg.statusCode ∧ matchesTxn s msg = true then
        if matchesNow cmd s msg then cmd.filter.recvResp ≠ []
        else 200 ≤ msg.statusCode ∧ script.unexpMain = none
      else true
  | _, _ => true

/-- Why the message number `n` is not sent again: a later message was sent, the
call is over, the interval is off, or a final response waits in the pending list. -/
inductive Silent (script : Script) (n : Nat) (item : Received) (s : State) : Prop where
  | later : n < s.history.length → Silent script n item s
  | ended {result : Result} : s.phase = .ended result → Silent script n item s
  | off : n = s.history.length → s.lastRetrans ≤ 0 → Silent script n item s
  | waits : n = s.history.length → item ∈ s.pending → 200 ≤ item.msg.statusCode →
      matchesTxn s item.msg = true → script.unexpMain = none → Silent script n item s

theorem nextSource_of_pending (isPending : item ∈ s.pending) (final : 200 ≤ item.msg.statusCode) :
    nextSource cmd s ≠ .network := by
  unfold nextSource
  split
  · split
    · simp
    · have isAny : (s.pending.any fun item => 200 ≤ item.msg.statusCode) = true :=
        any_eq_true.mpr ⟨item, isPending, by simpa using final⟩
      simp [isAny]
  · split
    · simp
    · rename_i isEmpty
      rw [isEmpty] at isPending
      cases isPending

variable {n : Nat}

theorem Silent.not_retransmits (silent : Silent script n item s) (armed : Armed script s)
    (retransmits : Retransmits script s) : n < s.history.length := by
  obtain ⟨cmd, retrans, waiting, positive, atCommand, fromNetwork⟩ := retransmits
  cases silent with
  | later isLater => exact isLater
  | ended isEnded =>
    rw [isEnded] at waiting
    cases waiting
  | off _ isOff =>
    have interval := armed _ _ waiting
    split at interval <;> omega
  | waits _ isPending final => exact absurd fromNetwork (nextSource_of_pending isPending final)

/-- What does not touch the message and the interval keeps the silence. -/
theorem Silent.of_continues {s t}
    (silent : Silent script n item s) (running : ∀ result, s.phase ≠ .ended result)
    (continues : Continues s t) (lastRetrans : s.lastRetrans ≤ 0 → t.lastRetrans ≤ 0) :
    Silent script n item t := by
  obtain grows | ⟨u, result, grows, rfl⟩ := continues
  · cases silent with
    | later isLater => exact .later (grows.history ▸ isLater)
    | ended isEnded => exact absurd isEnded (running _)
    | off isLast isOff => exact .off (grows.history ▸ isLast) (lastRetrans isOff)
    | waits isLast isPending final ofTxn noLabel =>
      exact .waits (grows.history ▸ isLast) (grows.pending isPending) final
        ((matchesTxn_congr grows.last item.msg).trans ofTxn) noLabel
  · exact .ended rfl

theorem Silent.renumbered (silent : Silent script n item s) (nextId : Nat) (log : List SendEntry) :
    Silent script n item { s with nextId := nextId, log := log } := by
  cases silent with
  | later isLater => exact .later isLater
  | ended isEnded => exact .ended isEnded
  | off isLast isOff => exact .off isLast isOff
  | waits isLast isPending final ofTxn noLabel =>
    exact .waits isLast isPending final ofTxn noLabel

/-- A matched response switches the interval off. -/
theorem lastRetrans_matched (isMatch : matchesNow cmd s item.msg = true)
    (named : 0 < s.lastRetrans → cmd.filter.recvResp ≠ []) (fromPending : Bool) (retrans : Int)
    (finalResponseSeen : Bool) (after : After) (taken : Bool) :
    (onMessage script cmd s item fromPending retrans finalResponseSeen after taken).lastRetrans ≤
      0 := by
  rw [lastRetrans_onMessage]
  split
  · exact Int.le_refl 0
  · rename_i unchanged
    by_contra positive
    exact unchanged ⟨isMatch, named (by omega), by omega⟩

theorem lastRetrans_onMessage_le
    (isOff : s.lastRetrans ≤ 0) (fromPending : Bool) (retrans : Int) (finalResponseSeen : Bool)
    (after : After) (taken : Bool) :
    (onMessage script cmd s item fromPending retrans finalResponseSeen after taken).lastRetrans ≤
      0 := by
  rw [lastRetrans_onMessage]
  split
  · exact Int.le_refl 0
  · exact isOff

/-- The condition for one message. -/
def StopsAt (script : Script) (cmd : Command) (s : State) (msg : Message) : Prop :=
  0 < s.lastRetrans →
    if matchesNow cmd s msg then cmd.filter.recvResp ≠ []
    else 200 ≤ msg.statusCode ∧ script.unexpMain = none

theorem stopsAt_of_stops {net sendOk taken msg}
    (atCommand : script.commands[s.index]? = some cmd)
    (stops : stopsRetransmission script (.poll net sendOk after taken) s = true)
    (isNext : nextMessage cmd s net = some msg) (response : 0 < msg.statusCode)
    (ofTxn : matchesTxn s msg = true) : StopsAt script cmd s msg := by
  intro isOn
  simpa [stopsRetransmission, atCommand, isNext, isOn, response, ofTxn] using stops

/-- A final response that does not match waits in the pending list or ends the call. -/
theorem silent_unmatched (final : 200 ≤ item.msg.statusCode) (noLabel : script.unexpMain = none)
    (ofTxn : matchesTxn s item.msg = true) (noMatch : matchesNow cmd s item.msg = false)
    (chosen : fromPending = true → cmd.optional = true → matchesNow cmd s item.msg = true)
    (retrans : Int) (finalResponseSeen : Bool) (after : After) (taken : Bool) :
    Silent script s.history.length item
      (onMessage script cmd s item fromPending retrans finalResponseSeen after taken) := by
  have notBye : unawaitedBye cmd item.msg = false := by
    have : item.msg.statusCode ≠ 0 := by omega
    simp [unawaitedBye, this]
  have notProvisional : ¬ item.msg.statusCode < 200 := by omega
  cases optional : cmd.optional with
  | true =>
    have fromNetwork : fromPending = false := by
      by_contra isPending
      rw [chosen (by simpa using isPending) optional] at noMatch
      cases noMatch
    have deferred : onMessage script cmd s item fromPending retrans finalResponseSeen after
        taken = { s with pending := s.pending ++ [item] }.goto (s.index + 1) := by
      simp [onMessage, noMatch, stash, notBye, ofTxn, fromNetwork, notProvisional, noLabel,
        optional, waitFailed]
    rw [deferred]
    exact .waits rfl (mem_append_right _ (mem_singleton_self item)) final ofTxn noLabel
  | false =>
    have aborted : stash script cmd s item fromPending =
        (s, some (unexpectedFinal cmd item.msg)) := by
      cases fromPending <;>
        simp [stash, notBye, ofTxn, notProvisional, noLabel, optional, final]
    have ends : onMessage script cmd s item fromPending retrans finalResponseSeen after taken =
        (s.free item).finish (.failed (.wait (unexpectedFinal cmd item.msg))) := by
      simp [onMessage, noMatch, aborted, waitFailed, noLabel, optional]
    rw [ends]
    exact .ended rfl

/-- A response that is dealt with under the condition silences the call. -/
theorem silent_onMessage (s : State) (item : Received) (ofTxn : matchesTxn s item.msg = true)
    (chosen : fromPending = true → cmd.optional = true → matchesNow cmd s item.msg = true)
    (stops : StopsAt script cmd s item.msg) (retrans : Int) (finalResponseSeen : Bool)
    (after : After) (taken : Bool) :
    Silent script s.history.length item
      (onMessage script cmd s item fromPending retrans finalResponseSeen after taken) := by
  have continues := onMessage_continues script cmd s item fromPending retrans finalResponseSeen
    after taken
  by_cases isOn : 0 < s.lastRetrans
  · have dealt := stops isOn
    cases isMatch : matchesNow cmd s item.msg with
    | true =>
      rw [if_pos isMatch] at dealt
      exact .off (by rw [continues.history])
        (lastRetrans_matched isMatch (fun _ => dealt) _ _ _ _ _)
    | false =>
      rw [if_neg (by simp [isMatch])] at dealt
      exact silent_unmatched dealt.1 dealt.2 ofTxn isMatch chosen retrans finalResponseSeen
        after taken
  · exact .off (by rw [continues.history]) (lastRetrans_onMessage_le (by omega) _ _ _ _ _)

theorem silent_onDeadline
    (silent : Silent script n item s) (running : ∀ result, s.phase ≠ .ended result)
    (cmd : Command) (late sendOk : Bool) (retrans : Int) (finalResponseSeen : Bool) :
    Silent script n item (onDeadline script cmd s late sendOk retrans finalResponseSeen) := by
  have passed : Silent script n item (s.pass .retransmit s.last.payload) :=
    silent.renumbered s.nextId _
  unfold onDeadline
  split
  · dsimp only
    split
    · exact passed
    · exact passed.of_continues running ((refl _).waitFailed script cmd _)
        (by simp [State.pass])
  · exact silent.of_continues running ((refl s).waitFailed script cmd _) (by simp)

/-- A step under the condition keeps the silence. -/
theorem silent_step {s t}
    (stops : stopsRetransmission script event s = true) (stepped : Stepped script s event t)
    (silent : Silent script n item s) : Silent script n item t := by
  cases stepped with
  | complete => exact .ended rfl
  | skip ready =>
    exact silent.of_continues (by simp [ready]) (.inl ((refl s).goto _)) id
  | send result taken ready =>
    cases result with
    | renderFailed | sendFailed payload => exact .ended rfl
    | sent sent =>
      apply Silent.later
      simp only [sendMessage, State.goto, State.pass, length_append, length_singleton]
      cases silent with
      | later isLater | off isLast | waits isLast => omega
      | ended isEnded => simp [ready] at isEnded
  | wait ready =>
    exact silent.of_continues (by simp [ready]) (.inl ((refl s).await _)) id
  | other after taken ready =>
    exact silent.of_continues (by simp [ready]) ((refl s).proceed _ after taken) (by simp)
  | expire waiting =>
    exact silent.of_continues (by simp [waiting]) ((refl s).waitFailed script _ _) (by simp)
  | @poll cmd retrans finalResponseSeen net sendOk after taken waiting atCommand =>
    have running : ∀ result, s.phase ≠ .ended result := by simp [waiting]
    have failed := fun error => silent.of_continues running
      ((refl s).waitFailed script cmd error) (by simp)
    unfold poll
    split
    · rename_i other rest source
      obtain ⟨⟨front, back, split, rest_eq⟩, chosen, _⟩ := nextSource_pending source
      have elsewhere : Silent script n item { s with pending := rest } → Silent script n item
          (onMessage script cmd { s with pending := rest } other true retrans
            finalResponseSeen after taken) :=
        fun silent => silent.of_continues running (onMessage_continues _ _ _ _ _ _ _ _ _)
          fun isOff => lastRetrans_onMessage_le isOff _ _ _ _ _
      cases silent with
      | later isLater => exact elsewhere (.later isLater)
      | ended isEnded => exact absurd isEnded (running _)
      | off isLast isOff => exact elsewhere (.off isLast isOff)
      | waits isLast isPending final ofTxn noLabel =>
        by_cases same : item = other
        · subst same
          subst isLast
          have isNext : nextMessage cmd s net = some item.msg := by
            simp [nextMessage, source]
          have stopsHere := stopsAt_of_stops atCommand stops isNext (by omega) ofTxn
          exact silent_onMessage { s with pending := rest } item ofTxn (fun _ => chosen)
            stopsHere retrans finalResponseSeen after taken
        · refine elsewhere (.waits isLast ?_ final ofTxn noLabel)
          rw [split] at isPending
          simp only [rest_eq]
          simpa [same] using isPending
    · exact failed _
    · split
      · exact (silent.renumbered (s.nextId + 1) s.log).of_continues running
          (onMessage_continues _ _ _ _ _ _ _ _ _)
          fun isOff => lastRetrans_onMessage_le isOff _ _ _ _ _
      · exact silent_onDeadline silent running cmd _ sendOk retrans finalResponseSeen
      · exact failed _
      · exact failed _

/-! ### The bytes of an INVITE -/

/-- The stored ACK is one of the sent messages, and an ACK. -/
theorem inviteACK_sent :
    (afterSends history).inviteACK = [] ∨
      ∃ sent ∈ history, ∃ parsed, sent.parsing.parse sent.payload = some parsed ∧
        equalFold parsed.method (ascii "ACK") = true ∧
        (afterSends history).inviteACK = sent.payload := by
  induction history using List.reverseRecOn with
  | nil => exact .inl rfl
  | append_singleton history sent ih =>
    rw [afterSends_concat]
    obtain kept | ⟨parsed, isParsed, isACK, stored⟩ := record_inviteACK (afterSends history) sent
    · rw [kept]
      obtain isEmpty | ⟨earlier, isEarlier, found⟩ := ih
      · exact .inl isEmpty
      · exact .inr ⟨earlier, mem_append_left _ isEarlier, found⟩
    · exact .inr ⟨sent, by simp, parsed, isParsed, isACK, stored⟩

/-- Bytes that parse as an INVITE. -/
def IsInvite (payload : Bytes) : Prop :=
  ∃ (circumstances : Reparse) (req : Message), circumstances.request payload = some req ∧
    equalFold req.method (ascii "INVITE") = true

variable {payload : Bytes}

open Reparse

/-- An INVITE has no status, and its method is INVITE up to case. -/
theorem IsInvite.kind (isInvite : IsInvite payload) :
    (parseStartLine (firstLine payload) .zero).1.kind.2 = 0 ∧
      equalFold (parseStartLine (firstLine payload) .zero).1.kind.1 (ascii "INVITE") = true := by
  obtain ⟨circumstances, req, isRequest, method⟩ := isInvite
  unfold request at isRequest
  split at isRequest
  · cases isRequest
  · rename_i found parsed
    split at isRequest
    · cases isRequest
    · rename_i request
      cases isRequest
      rw [← parse_kind parsed]
      exact ⟨by simpa [Message.kind] using fun isResponse => request (.inl isResponse), method⟩

theorem IsInvite.ne_nil (isInvite : IsInvite payload) : payload ≠ [] := by
  rintro rfl
  obtain ⟨circumstances, req, isRequest, _⟩ := isInvite
  simp [request, parse_nil] at isRequest

theorem buildResponse_not_invite :
    ¬ IsInvite (buildResponse msg 200 (ascii "OK")) := by
  intro isInvite
  let statusLine : Line := ⟨ascii "SIP/2.0 200 OK\r", by decide⟩
  obtain ⟨rest, text⟩ : ∃ rest,
      buildResponse msg 200 (ascii "OK") = statusLine.text ++ lf :: rest := by
    have code : itoa 200 = ascii "200" := by decide
    rw [buildResponse, code]
    simp only [append_assoc]
    exact ⟨_, rfl⟩
  have first : firstLine (buildResponse msg 200 (ascii "OK")) = ascii "SIP/2.0 200 OK" := by
    rw [text, firstLine_line]
    exact trimSuffix_append (ascii "SIP/2.0 200 OK") [cr]
  have status := isInvite.kind.1
  rw [first] at status
  exact absurd status (by decide)

theorem ack_not_invite (isACK : equalFold method (ascii "ACK") = true) :
    ¬ equalFold method (ascii "INVITE") = true := by
  intro isInvite
  rw [equalFold_iff] at isACK isInvite
  have same : foldKey (ascii "ACK") = foldKey (ascii "INVITE") := isACK.symm.trans isInvite
  rw [foldKey_of_ascii (by decide), foldKey_of_ascii (by decide)] at same
  exact absurd same (by decide)

theorem inviteACK_not_invite :
    ¬ IsInvite (afterSends history).inviteACK := by
  intro isInvite
  obtain isEmpty | ⟨sent, _, parsed, isParsed, isACK, stored⟩ := inviteACK_sent history
  · exact isInvite.ne_nil isEmpty
  · have method := isInvite.kind.2
    rw [stored, ← parse_kind isParsed] at method
    exact ack_not_invite isACK method

/-- The INVITE bytes behind a point of the log are sent by a later send command or
for a later message. -/
def OnlyLater (n : Nat) (payload : Bytes) (entry : SendEntry) : Prop :=
  entry.payload = payload →
    entry.cause = .command ∨ entry.cause = .retransmit ∧ n < entry.txn

theorem Reply.not_invite {entry} (reply : Reply s.last entry)
    (cached : Cached s) : ¬ IsInvite entry.payload := by
  obtain ⟨_, isACK⟩ | ⟨_, msg, isAnswer⟩ := reply
  · rw [isACK, cached]
    exact inviteACK_not_invite s.history
  · rw [isAnswer]
    exact buildResponse_not_invite msg

theorem Emits.onlyLater (emits : Emits script s entry)
    (isInvite : IsInvite payload) (silent : Silent script n item s) (armed : Armed script s)
    (cached : Cached s) : OnlyLater n payload entry := by
  rintro rfl
  obtain isCommand | reply | ⟨rfl, retransmits⟩ := emits
  · exact .inl isCommand
  · exact absurd isInvite (reply.not_invite cached)
  · exact .inr ⟨rfl, silent.not_retransmits armed retransmits⟩

/-- What holds from the response on. -/
structure Stopped (script : Script) (n : Nat) (item : Received) (payload : Bytes)
    (before : List SendEntry) (s : State) : Prop where
  silent : Silent script n item s
  armed : Armed script s
  cached : Cached s
  log : ∃ more, s.log = before ++ more ∧ ∀ entry ∈ more, OnlyLater n payload entry

theorem stopped_step (isInvite : IsInvite payload)
    (stops : stopsRetransmission script event s = true) (stepped : Stepped script s event t)
    (stopped : Stopped script n item payload before s) :
    Stopped script n item payload before t := by
  obtain ⟨earlier, log, onlyLater⟩ := stopped.log
  obtain ⟨more, added, emits⟩ := sends_step stepped
  refine ⟨silent_step stops stepped stopped.silent, armed_step stopped.armed stepped,
    cached_step stopped.cached stepped, earlier ++ more, by rw [added, log, append_assoc], ?_⟩
  intro entry isNew
  obtain isEarlier | isAdded := mem_append.mp isNew
  · exact onlyLater entry isEarlier
  · exact (emits entry isAdded).onlyLater isInvite stopped.silent stopped.armed stopped.cached

/-- The step that takes the response from the network. -/
theorem stopped_received {s t msg sendOk taken} (armed : Armed script s) (cached : Cached s) (isInvite : IsInvite payload)
    (atCommand : script.commands[s.index]? = some cmd)
    (fromNetwork : nextSource cmd s = .network) (response : 0 < msg.statusCode)
    (ofTxn : matchesTxn s msg = true)
    (stops : stopsRetransmission script (.poll (.message msg) sendOk after taken) s = true)
    (stepped : Stepped script s (.poll (.message msg) sendOk after taken) t) :
    Stopped script s.history.length ⟨s.nextId, msg⟩ payload s.log t := by
  have armedAfter := armed_step armed stepped
  have cachedAfter := cached_step cached stepped
  cases stepped with
  | @poll cmd' retrans finalResponseSeen _ _ _ _ waiting atCommand' =>
    obtain rfl : cmd = cmd' := Option.some.inj (atCommand.symm.trans atCommand')
    simp only [poll, fromNetwork] at armedAfter cachedAfter ⊢
    refine ⟨?_, armedAfter, cachedAfter, ?_⟩
    · have isNext : nextMessage cmd s (.message msg) = some msg := by
        simp [nextMessage, fromNetwork]
      have stopsHere := stopsAt_of_stops atCommand stops isNext response ofTxn
      exact silent_onMessage { s with nextId := s.nextId + 1 } ⟨s.nextId, msg⟩ ofTxn (by simp)
        stopsHere retrans finalResponseSeen after taken
    · obtain ⟨more, log, replies⟩ := (onMessage_continues script cmd
        { s with nextId := s.nextId + 1 } ⟨s.nextId, msg⟩ false retrans finalResponseSeen after
        taken).replies
      refine ⟨more, log, fun entry isNew isPayload => ?_⟩
      have notInvite := Reply.not_invite (s := s) (replies entry isNew) cached
      exact absurd (isPayload ▸ isInvite) notInvite

/-- Once a response to the INVITE was taken from the network, no run whose steps meet
the condition passes the bytes of the INVITE to `send` again, other than for a
later message of the scenario. -/
theorem invite_not_retransmitted {script : Script} {events more : List Event} {s u : State}
    {cmd : Command} {earlier : List Sent} {sent : Sent} {req msg : Message}
    {sendOk taken : Bool} {after : After} (run : Run (step script) .initial events s)
    (history : s.history = earlier ++ [sent])
    (isRequest : sent.parsing.request sent.payload = some req)
    (isInvite : equalFold req.method (ascii "INVITE") = true)
    (atCommand : script.commands[s.index]? = some cmd)
    (fromNetwork : nextSource cmd s = .network) (response : 0 < msg.statusCode)
    (belongs : sameTransaction req msg = true)
    (continued : Guarded (step script)
      (fun event state => stopsRetransmission script event state = true) s
      (.poll (.message msg) sendOk after taken :: more) u) :
    ∀ entry ∈ u.log.drop s.log.length, entry.payload = sent.payload →
      entry.cause = .command ∨ entry.cause = .retransmit ∧ s.history.length < entry.txn := by
  have armed : Armed script s :=
    run.invariant (fun _ _ isWaiting => by cases isWaiting) fun _ _ _ stepped armed =>
      armed_step armed (step_stepped stepped)
  have cached : Cached s := run.invariant rfl fun _ _ _ stepped cached =>
    cached_step cached (step_stepped stepped)
  have ofTxn := matchesTxn_of_sameTransaction cached history isRequest belongs
  have bytes : IsInvite sent.payload := ⟨sent.parsing, req, isRequest, isInvite⟩
  cases continued with
  | @cons _ t _ _ _ stops stepped rest =>
    have stopped : Stopped script s.history.length ⟨s.nextId, msg⟩ sent.payload s.log t :=
      stopped_received armed cached bytes atCommand fromNetwork response ofTxn stops
        (step_stepped stepped)
    have final := rest.invariant stopped fun _ _ _ stops stepped stopped =>
      stopped_step bytes stops (step_stepped stepped) stopped
    obtain ⟨later, log, onlyLater⟩ := final.log
    rw [log, drop_left]
    exact onlyLater

end Retransmission

section Concrete

attribute [local instance] CaseTables.asciiOnly

/-- A 180 that the recv for it matches, with a resend timeout behind it. -/
def recvRinging : Script where
  commands := [sendEvery 500, recvResponse "180" false, recvResponse "200" false]
  unexpMain := none
  udp := true

def awaitingRinging : State :=
  (exec (step recvRinging) [.send (.sent invite) false, .wait] .initial).getD .initial

/-- The response is matched, and the wait for the 200 runs into its end. -/
def ringingThenSilence : List Event :=
  [.poll (.message ringing) true .next false, .wait, .poll (.deadline false) true .next false]

def afterSilence : State :=
  (exec (restrict (step recvRinging) (stopsRetransmission recvRinging)) ringingThenSilence
    awaitingRinging).getD awaitingRinging

/-- The INVITE is not sent again behind the matched 180. -/
theorem ringing_silences :
    Guarded (step recvRinging)
        (fun event state => stopsRetransmission recvRinging event state = true) awaitingRinging
        ringingThenSilence afterSilence ∧
      ∀ entry ∈ afterSilence.log.drop awaitingRinging.log.length,
        entry.payload = invite.payload → entry.cause = .command ∨
          entry.cause = .retransmit ∧ awaitingRinging.history.length < entry.txn := by
  have continued : Guarded (step recvRinging)
      (fun event state => stopsRetransmission recvRinging event state = true) awaitingRinging
      ringingThenSilence afterSilence := Guarded.of_isSome (by decide +kernel)
  have history : awaitingRinging.history = [] ++ [invite] := rfl
  exact ⟨continued, invite_not_retransmitted (Run.of_isSome (by decide)) history rfl (by decide)
    rfl rfl (by decide) (by decide) continued⟩

/-- A recv that waits for the 200 only. -/
def recvOk : Script where
  commands := [sendEvery 500, recvResponse "200" false]
  unexpMain := none
  udp := true

/-- The INVITE is sent, a 180 arrives, and nothing else does. -/
def ringingIgnored : List Event :=
  [.send (.sent invite) false, .wait, .poll (.message ringing) true .next false,
    .poll (.deadline false) true .next false]

/-- The wait for the 200 discards the 180 of the INVITE and sends the INVITE again. -/
theorem invite_sent_after_ringing :
    0 < ringing.statusCode ∧
      (lastRequest [invite]).any (sameTransaction · ringing) = true ∧
      (exec (step recvOk) ringingIgnored .initial).map State.log =
        some [⟨.command, 1, invite.payload⟩, ⟨.retransmit, 1, invite.payload⟩] := by
  decide +kernel

end Concrete

end Gossipper.Engine.Call
