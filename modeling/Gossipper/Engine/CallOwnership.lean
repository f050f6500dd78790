/-
Module: Gossipper.Engine.CallOwnership
Purpose: What a step of the executor can do, and where a message of the call is:
  at every moment a message that was received is pending, matched or returned to
  the pool, in exactly one of these places and once.
Trusted boundary: none
Main exports: Stepped, step_stepped, ids, Owned, owned_step, cached_step
-/
import Gossipper.Engine.Call

namespace Gossipper.Engine.Call

open Go Sip Scenario Transition List

section Steps

variable [CaseTables]

/-- The steps of the executor, with what they require. -/
inductive Stepped (script : Script) (s : State) : Event → State → Prop where
  | complete : s.phase = .ready → Stepped script s .complete (s.finish .success)
  | skip : s.phase = .ready → Stepped script s .skip (s.goto (s.index + 1))
  | send {cmd : Command} (result : SendResult) (taken : Bool) :
      s.phase = .ready →
        Stepped script s (.send result taken) (sendMessage cmd s result taken)
  | wait : s.phase = .ready →
      Stepped script s .wait
        { s with phase := .waiting (if script.udp then s.lastRetrans else 0) false }
  | other {cmd : Command} (after : After) (taken : Bool) :
      s.phase = .ready → Stepped script s (.other after taken) (proceed cmd s after taken)
  | expire {cmd : Command} {retrans : Int} {finalResponseSeen : Bool} :
      s.phase = .waiting retrans finalResponseSeen →
        Stepped script s .expire (waitFailed script cmd s .deadline)
  | poll {cmd : Command} {retrans : Int} {finalResponseSeen : Bool} (net : Net)
      (sendOk : Bool) (after : After) (taken : Bool) :
      s.phase = .waiting retrans finalResponseSeen →
        script.commands[s.index]? = some cmd →
        Stepped script s (.poll net sendOk after taken)
          (poll script cmd s net sendOk retrans finalResponseSeen after taken)

theorem step_stepped {script event s t}
    (stepped : step script event s = some t) : Stepped script s event t := by
  revert stepped
  fun_cases step script event s <;> rintro ⟨⟩
  case case2 _ ready => exact .complete ready
  case case5 ready _ => exact .skip ready
  case case6 ready _ _ _ => exact .send _ _ ready
  case case7 ready _ => exact .wait ready
  case case10 ready _ _ _ _ => exact .other _ _ ready
  case case12 _ waiting => exact .expire waiting
  case case13 atCommand waiting _ _ _ _ => exact .poll _ _ _ _ waiting atCommand

end Steps

/-! ### Where a message is -/

/-- The numbers of the messages that are pending, matched, or back in the pool. -/
def ids (s : State) : List Nat :=
  s.pending.map Received.id ++ s.held.map Received.id ++ s.freed

variable (script : Script) (cmd : Command) (s : State) (item : Received) (fromPending : Bool)
  (after : After) (taken : Bool) (error : WaitError) (x : Nat)

@[simp] theorem ids_pass (cause : SendCause) (payload : Bytes) :
    ids (s.pass cause payload) = ids s := rfl

@[simp] theorem ids_goto (index : Nat) : ids (s.goto index) = ids s := rfl

@[simp] theorem ids_route (routed : List Nat) :
    ids { s with routed := routed } = ids s := rfl

@[simp] theorem ids_await (phase : Phase) :
    ids { s with phase := phase } = ids s := rfl

theorem count_ids_free :
    (ids (s.free item)).count x = (ids s).count x + [item.id].count x := by
  simp only [ids, State.free, count_append]
  omega

theorem count_ids_finish (result : Result) (x : Nat) :
    (ids (s.finish result)).count x = (ids s).count x := by
  simp only [ids, State.finish, map_nil, nil_append, map_reverse,
    count_append, count_reverse]
  omega

theorem count_ids_hold (lastRetrans : Int) (x : Nat) :
    (ids { s with held := s.held ++ [item], lastRetrans := lastRetrans }).count x =
      (ids s).count x + [item.id].count x := by
  simp only [ids, map_append, map_cons, map_nil, count_append]
  omega

theorem count_ids_defer :
    (ids { s with pending := s.pending ++ [item] }).count x =
      (ids s).count x + [item.id].count x := by
  simp only [ids, map_append, map_cons, map_nil, count_append]
  omega

theorem count_ids_proceed :
    (ids (proceed cmd s after taken)).count x = (ids s).count x := by
  cases after <;> simp [proceed, count_ids_finish]

theorem count_ids_waitFailed : (ids (waitFailed script cmd s error)).count x = (ids s).count x := by
  unfold waitFailed
  split
  · rfl
  · split
    · rfl
    · exact count_ids_finish s _ x

@[simp] theorem routed_proceed :
    (proceed cmd s after taken).routed = s.routed := by
  cases after <;> rfl

@[simp] theorem routed_waitFailed : (waitFailed script cmd s error).routed = s.routed := by
  unfold waitFailed
  repeat' split
  all_goals rfl

/-- Every message that was received is in one place, once, and only received
messages were routed. -/
structure Owned (s : State) : Prop where
  once : ∀ x, (ids s).count x = if x < s.nextId then 1 else 0
  routed : ∀ x ∈ s.routed, x < s.nextId

theorem Owned.initial : Owned .initial :=
  ⟨fun _ => rfl, fun _ inNil => absurd inNil (not_mem_nil)⟩

theorem Owned.of_count {s t} (owned : Owned s) (nextId : t.nextId = s.nextId)
    (count : ∀ x, (ids t).count x = (ids s).count x) (routed : t.routed ⊆ s.routed) :
    Owned t := by
  refine ⟨fun x => ?_, fun x isRouted => ?_⟩
  · rw [count, owned.once, nextId]
  · rw [nextId]
    exact owned.routed x (routed isRouted)

/-- So does a new message, under the next number. -/
theorem Owned.of_received {s t} (owned : Owned s) (nextId : t.nextId = s.nextId + 1)
    (count : ∀ x, (ids t).count x = (ids s).count x + [s.nextId].count x)
    (routed : t.routed ⊆ s.routed ++ [s.nextId]) : Owned t := by
  refine ⟨fun x => ?_, fun x isRouted => ?_⟩
  · rw [count, owned.once, nextId, count_singleton]
    by_cases isNew : s.nextId = x
    · simp [isNew]
    · have : x < s.nextId + 1 ↔ x < s.nextId := by omega
      simp [isNew, this]
  · obtain before | isNew := mem_append.mp (routed isRouted)
    · have := owned.routed x before
      omega
    · rw [mem_singleton] at isNew
      omega

theorem owned_finish {s} (owned : Owned s) (result : Result) :
    Owned (s.finish result) :=
  owned.of_count rfl (count_ids_finish s result) fun _ => id

theorem Owned.mem_lt {s} (owned : Owned s) {x} (isIn : x ∈ ids s) :
    x < s.nextId := by
  by_contra above
  have none := owned.once x
  rw [if_neg above, count_eq_zero] at none
  exact none isIn

section Ownership

variable [CaseTables]

@[simp] theorem ids_resendAck (msg : Message) : ids (resendAck s msg) = ids s := by
  unfold resendAck
  repeat' split
  all_goals rfl

/-- The stash callback keeps a message of the network unless it reports an error,
and leaves one that a mandatory recv took from the pending list to its caller. -/
theorem count_ids_stash (mandatory : fromPending = true → cmd.optional = false) (x : Nat) :
    (ids (stash script cmd s item fromPending).1).count x =
      (ids s).count x +
        if fromPending = true ∨ (stash script cmd s item fromPending).2.isSome then 0
        else [item.id].count x := by
  cases fromPending with
  | true =>
    simp only [stash, mandatory rfl]
    repeat' split
    all_goals simp_all
  | false =>
    simp only [stash]
    repeat' split
    all_goals simp_all [count_ids_free, count_ids_defer]

theorem count_ids_onMessage (retrans : Int) (finalResponseSeen : Bool) (after : After)
    (taken : Bool)
    (chosen : fromPending = true → cmd.optional = true → matchesNow cmd s item.msg = true)
    (x : Nat) :
    (ids (onMessage script cmd s item fromPending retrans finalResponseSeen after taken)).count x =
      (ids s).count x + [item.id].count x := by
  unfold onMessage
  split
  · rw [accept, count_ids_proceed, count_ids_hold]
  · rename_i noMatch
    have mandatory : fromPending = true → cmd.optional = false := by
      intro isPending
      by_contra optional
      exact noMatch (chosen isPending (by simpa using optional))
    have counted := count_ids_stash script cmd s item fromPending mandatory x
    split
    · rename_i stashed error result
      rw [result] at counted
      rw [count_ids_waitFailed, count_ids_free]
      simpa using counted
    · rename_i stashed result
      rw [result] at counted
      split
      · rename_i optional
        rw [count_ids_waitFailed]
        cases fromPending with
        | true => simp [mandatory rfl] at optional
        | false => simpa using counted
      · cases fromPending with
        | true =>
          rw [if_pos rfl]
          simpa [count_ids_free] using counted
        | false => simpa using counted

/-- The source of a message: a pending message is one of the list, a matching one
when the command is optional, and the rest of the list stays. -/
theorem nextSource_pending {cmd s item rest} (source : nextSource cmd s = .pending item rest) :
    (∃ front back, s.pending = front ++ item :: back ∧ rest = front ++ back) ∧
      (cmd.optional = true → matchesNow cmd s item.msg = true) ∧
      (cmd.optional = false → s.pending = item :: rest) := by
  revert source
  fun_cases nextSource cmd s <;> rintro ⟨⟩
  case case1 optional found =>
    obtain ⟨matched, front, back, split, others⟩ := find?_eq_some_iff_append.mp found
    refine ⟨⟨front, back, split, ?_⟩, fun _ => matched, by simp [optional]⟩
    rw [split, eraseP_append_right _ (by simpa using others)]
    simp [matched]
  case case4 mandatory split =>
    exact ⟨⟨[], rest, split, rfl⟩, fun optional => absurd optional mandatory, fun _ => split⟩

theorem count_ids_taken {cmd s item rest}
    (source : nextSource cmd s = .pending item rest) (x : Nat) :
    (ids { s with pending := rest }).count x + [item.id].count x = (ids s).count x := by
  obtain ⟨⟨front, back, split, rfl⟩, _, _⟩ := nextSource_pending source
  simp only [ids, split, map_append, map_cons, count_append, count_cons,
    count_nil]
  omega

/-! ### What stays -/

/-- A reply that the executor sends by itself: the stored ACK, or a 200 for a BYE. -/
def Reply (last : LastSent) (entry : SendEntry) : Prop :=
  entry.cause = .ack ∧ entry.payload = last.inviteACK ∨
    entry.cause = .byeReply ∧ ∃ msg, entry.payload = buildResponse msg 200 (ascii "OK")

/-- Nothing that the call knows or keeps is lost, and only replies are sent. -/
structure Grows (s t : State) : Prop where
  last : t.last = s.last
  history : t.history = s.history
  nextId : t.nextId = s.nextId
  pending : s.pending ⊆ t.pending
  held : s.held ⊆ t.held
  routed : s.routed ⊆ t.routed
  log : ∃ more, t.log = s.log ++ more ∧ ∀ entry ∈ more, Reply s.last entry

/-- The same, up to leaving the call at the end. -/
def Continues (s t : State) : Prop :=
  Grows s t ∨ ∃ u result, Grows s u ∧ t = u.finish result

theorem Grows.refl : Grows s s :=
  ⟨rfl, rfl, rfl, fun _ => id, fun _ => id, fun _ => id, [], by simp, by simp⟩

variable {s t : State}

theorem Grows.free (grows : Grows s t) (item : Received) :
    Grows s (t.free item) :=
  ⟨grows.last, grows.history, grows.nextId, grows.pending, grows.held, grows.routed, grows.log⟩

theorem Grows.goto (grows : Grows s t) (index : Nat) : Grows s (t.goto index) :=
  ⟨grows.last, grows.history, grows.nextId, grows.pending, grows.held, grows.routed, grows.log⟩

theorem Grows.await (grows : Grows s t) (phase : Phase) :
    Grows s { t with phase := phase } :=
  ⟨grows.last, grows.history, grows.nextId, grows.pending, grows.held, grows.routed, grows.log⟩

open Grows

theorem Grows.defer (s : State) (item : Received) :
    Grows s { s with pending := s.pending ++ [item] } :=
  { refl s with pending := subset_append_left _ _ }

theorem Grows.route (s : State) (item : Received) :
    Grows s { s with routed := s.routed ++ [item.id] } :=
  { refl s with routed := subset_append_left _ _ }

theorem Grows.hold (s : State) (item : Received) (lastRetrans : Int) :
    Grows s { s with held := s.held ++ [item], lastRetrans := lastRetrans } :=
  ⟨rfl, rfl, rfl, fun _ => id, subset_append_left _ _, fun _ => id, (refl s).log⟩

theorem Grows.pass {s cause payload}
    (reply : Reply s.last ⟨cause, s.history.length, payload⟩) :
    Grows s (s.pass cause payload) :=
  { refl s with log := ⟨_, rfl, by simpa using reply⟩ }

theorem Grows.proceed (grows : Grows s t) (cmd : Command) (after : After)
    (taken : Bool) : Continues s (proceed cmd t after taken) := by
  cases after with
  | next => exact .inl (grows.goto _)
  | jump index => exact .inl (grows.goto index)
  | stop | fail => exact .inr ⟨t, _, grows, rfl⟩

theorem Grows.waitFailed (grows : Grows s t) (script : Script) (cmd : Command)
    (error : WaitError) : Continues s (waitFailed script cmd t error) := by
  unfold Call.waitFailed
  split
  · exact .inl (grows.goto _)
  · split
    · exact .inl (grows.goto _)
    · exact .inr ⟨t, _, grows, rfl⟩

theorem resendAck_grows (s : State) (msg : Message) : Grows s (resendAck s msg) := by
  fun_cases resendAck s msg
  case case1 => exact .pass (.inl ⟨rfl, rfl⟩)
  all_goals exact .refl s

theorem stash_grows (s : State) (item : Received)
    (fromPending : Bool) : Grows s (stash script cmd s item fromPending).1 := by
  have replied : Grows s (s.pass .byeReply (buildResponse item.msg 200 (ascii "OK"))) :=
    .pass (.inr ⟨rfl, item.msg, rfl⟩)
  fun_cases stash script cmd s item fromPending
  case case1 =>
    cases fromPending with
    | true => exact replied
    | false => exact replied.free item
  case case2 | case10 => exact .defer s item
  case case3 => exact resendAck_grows s item.msg
  case case6 => exact (resendAck_grows s item.msg).free item
  case case7 => exact (refl s).free item
  case case8 => exact .route s item
  all_goals exact .refl s

theorem onMessage_continues (s : State) (item : Received)
    (fromPending : Bool) (retrans : Int) (finalResponseSeen : Bool) (after : After) (taken : Bool) :
    Continues s
      (onMessage script cmd s item fromPending retrans finalResponseSeen after taken) := by
  have stashed := stash_grows script cmd s item fromPending
  unfold onMessage
  split
  · exact (hold s item _).proceed cmd after taken
  · split
    · rename_i result
      rw [result] at stashed
      exact (stashed.free item).waitFailed script cmd _
    · rename_i result
      rw [result] at stashed
      split
      · exact stashed.waitFailed script cmd _
      · cases fromPending with
        | true => exact .inl ((stashed.free item).await _)
        | false => exact .inl (stashed.await _)

theorem Continues.last (continues : Continues s t) : t.last = s.last := by
  obtain grows | ⟨u, result, grows, rfl⟩ := continues
  · exact grows.last
  · exact grows.last

theorem Continues.history (continues : Continues s t) :
    t.history = s.history := by
  obtain grows | ⟨u, result, grows, rfl⟩ := continues
  · exact grows.history
  · exact grows.history

theorem Continues.nextId (continues : Continues s t) : t.nextId = s.nextId := by
  obtain grows | ⟨u, result, grows, rfl⟩ := continues
  · exact grows.nextId
  · exact grows.nextId

/-! ### One owner -/

@[simp] theorem pending_resendAck (s : State) (msg : Message) :
    (resendAck s msg).pending = s.pending := by
  unfold resendAck
  repeat' split
  all_goals rfl

@[simp] theorem held_resendAck (s : State) (msg : Message) :
    (resendAck s msg).held = s.held := by
  unfold resendAck
  repeat' split
  all_goals rfl

@[simp] theorem routed_resendAck (s : State) (msg : Message) :
    (resendAck s msg).routed = s.routed := by
  unfold resendAck
  repeat' split
  all_goals rfl

theorem routed_stash (s : State) (item : Received) (fromPending : Bool) :
    (stash script cmd s item fromPending).1.routed ⊆ s.routed ++ [item.id] := by
  have same : s.routed ⊆ s.routed ++ [item.id] := subset_append_left _ _
  unfold stash
  dsimp only
  repeat' split
  all_goals first
    | exact same
    | exact fun _ => id
    | simp [State.free]

theorem routed_onMessage (s : State) (item : Received)
    (fromPending : Bool) (retrans : Int) (finalResponseSeen : Bool) (after : After) (taken : Bool) :
    (onMessage script cmd s item fromPending retrans finalResponseSeen after taken).routed ⊆
      s.routed ++ [item.id] := by
  have stashed := routed_stash script cmd s item fromPending
  unfold onMessage
  split
  · rw [accept, routed_proceed]
    exact subset_append_left _ _
  · split
    · rename_i result
      rw [result] at stashed
      rw [routed_waitFailed]
      exact stashed
    · rename_i result
      rw [result] at stashed
      split
      · rw [routed_waitFailed]
        exact stashed
      · cases fromPending <;> exact stashed

theorem owned_onDeadline {s} (owned : Owned s) (script : Script) (cmd : Command)
    (late sendOk : Bool) (retrans : Int) (finalResponseSeen : Bool) :
    Owned (onDeadline script cmd s late sendOk retrans finalResponseSeen) := by
  have passed : Owned (s.pass .retransmit s.last.payload) :=
    owned.of_count rfl (fun _ => rfl) fun _ => id
  unfold onDeadline
  split
  · dsimp only
    split
    · exact passed
    · exact passed.of_count ((refl _).waitFailed script cmd _).nextId
        (count_ids_waitFailed script cmd _ _) (by simp)
  · exact owned.of_count ((refl s).waitFailed script cmd _).nextId
      (count_ids_waitFailed script cmd s _) (by simp)

theorem owned_waitFailed {s} (owned : Owned s) (script : Script) (cmd : Command)
    (error : WaitError) : Owned (waitFailed script cmd s error) :=
  owned.of_count ((refl s).waitFailed script cmd error).nextId
    (count_ids_waitFailed script cmd s error) (by simp)

theorem owned_poll {s} (owned : Owned s) (script : Script) (cmd : Command) (net : Net)
    (sendOk : Bool) (retrans : Int) (finalResponseSeen : Bool) (after : After) (taken : Bool) :
    Owned (poll script cmd s net sendOk retrans finalResponseSeen after taken) := by
  unfold poll
  split
  · rename_i item rest source
    have continues := onMessage_continues script cmd { s with pending := rest } item true
      retrans finalResponseSeen after taken
    have wasPending : item.id ∈ ids s := by
      rw [← count_pos_iff, ← count_ids_taken source]
      simp
    refine ⟨fun x => ?_, fun x isRouted => ?_⟩
    · rw [count_ids_onMessage script cmd { s with pending := rest } item true retrans
        finalResponseSeen after taken
        (fun _ => (nextSource_pending source).2.1), count_ids_taken source, continues.nextId]
      exact owned.once x
    · rw [continues.nextId]
      obtain before | isItem := mem_append.mp (routed_onMessage _ _ _ _ _ _ _ _ _ isRouted)
      · exact owned.routed x before
      · rw [mem_singleton.mp isItem]
        exact owned.mem_lt wasPending
  · exact owned_waitFailed owned script cmd _
  · split
    · rename_i msg
      exact owned.of_received
        (onMessage_continues script cmd { s with nextId := s.nextId + 1 } _ false _ _ _ _).nextId
        (count_ids_onMessage script cmd { s with nextId := s.nextId + 1 } ⟨s.nextId, msg⟩ false _
          _ _ _ (by simp))
        (routed_onMessage _ _ _ _ _ _ _ _ _)
    · exact owned_onDeadline owned script cmd _ sendOk retrans finalResponseSeen
    · exact owned_waitFailed owned script cmd _
    · exact owned_waitFailed owned script cmd _

theorem owned_proceed {s} (owned : Owned s) (cmd : Command) (after : After)
    (taken : Bool) : Owned (proceed cmd s after taken) :=
  owned.of_count ((refl s).proceed cmd after taken).nextId
    (count_ids_proceed cmd s after taken) (by simp)

theorem owned_sendMessage {s} (owned : Owned s) (cmd : Command) (result : SendResult)
    (taken : Bool) : Owned (sendMessage cmd s result taken) := by
  cases result with
  | renderFailed => exact owned_finish owned _
  | sendFailed payload =>
    exact owned_finish (owned.of_count (t := s.pass .command payload) rfl (fun _ => rfl)
      fun _ => id) _
  | sent sent => exact owned.of_count rfl (fun _ => rfl) fun _ => id

variable {script : Script}

theorem owned_step {event} (owned : Owned s)
    (stepped : Stepped script s event t) : Owned t := by
  cases stepped with
  | complete => exact owned_finish owned _
  | skip | wait => exact owned.of_count rfl (fun _ => rfl) fun _ => id
  | send result taken => exact owned_sendMessage owned _ result taken
  | other after taken => exact owned_proceed owned _ after taken
  | expire => exact owned_waitFailed owned script _ _
  | poll net sendOk after taken => exact owned_poll owned script _ net sendOk _ _ after taken

/-! ### The cache belongs to the history -/

theorem onDeadline_kept (script : Script) (cmd : Command) (s : State) (late sendOk : Bool)
    (retrans : Int) (finalResponseSeen : Bool) :
    (onDeadline script cmd s late sendOk retrans finalResponseSeen).last = s.last ∧
      (onDeadline script cmd s late sendOk retrans finalResponseSeen).history = s.history := by
  have passed := (refl (s.pass .retransmit s.last.payload)).waitFailed script cmd .transport
  have expired := (refl s).waitFailed script cmd .deadline
  unfold onDeadline
  split
  · dsimp only
    split
    · exact ⟨rfl, rfl⟩
    · exact ⟨passed.last, passed.history⟩
  · exact ⟨expired.last, expired.history⟩

/-- The wait loop sends nothing that counts as the last sent message. -/
theorem poll_kept (script : Script) (cmd : Command) (s : State) (net : Net) (sendOk : Bool)
    (retrans : Int) (finalResponseSeen : Bool) (after : After) (taken : Bool) :
    (poll script cmd s net sendOk retrans finalResponseSeen after taken).last = s.last ∧
      (poll script cmd s net sendOk retrans finalResponseSeen after taken).history =
        s.history := by
  have failed := fun error => (refl s).waitFailed script cmd error
  unfold poll
  split
  · rename_i item rest _
    have continues := onMessage_continues script cmd { s with pending := rest } item true
      retrans finalResponseSeen after taken
    exact ⟨continues.last, continues.history⟩
  · exact ⟨(failed _).last, (failed _).history⟩
  · split
    · rename_i msg
      have continues := onMessage_continues script cmd { s with nextId := s.nextId + 1 }
        ⟨s.nextId, msg⟩ false retrans finalResponseSeen after taken
      exact ⟨continues.last, continues.history⟩
    · exact onDeadline_kept script cmd s _ sendOk retrans finalResponseSeen
    · exact ⟨(failed _).last, (failed _).history⟩
    · exact ⟨(failed _).last, (failed _).history⟩

/-- The cached values of a call are those of the messages it has sent. -/
def Cached (s : State) : Prop :=
  s.last = afterSends s.history

theorem cached_step (cached : Cached s) (stepped : Stepped script s event t) : Cached t := by
  have kept : ∀ t : State, t.last = s.last ∧ t.history = s.history → Cached t := by
    rintro t ⟨last, history⟩
    rw [Cached, last, history]
    exact cached
  cases stepped with
  | complete | skip | wait => exact cached
  | send result taken =>
    cases result with
    | renderFailed | sendFailed payload => exact cached
    | sent sent =>
      show s.last.record sent = afterSends (s.history ++ [sent])
      rw [afterSends_concat, ← cached]
  | @other cmd after taken _ =>
    have continues := (refl s).proceed cmd after taken
    exact kept _ ⟨continues.last, continues.history⟩
  | @expire cmd _ _ _ =>
    have continues := (refl s).waitFailed script cmd .deadline
    exact kept _ ⟨continues.last, continues.history⟩
  | poll net sendOk after taken =>
    exact kept _ (poll_kept script _ s net sendOk _ _ after taken)

end Ownership

end Gossipper.Engine.Call
