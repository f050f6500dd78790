/-
Module: Gossipper.Engine.Correlation
Purpose: The accept loops of the server transports: which session a message is handed to and
  which message opens a session, after `udpServerReceivePump` and `runServerTCPShared` in
  `internal/engine/engine.go`, `runServerTLSShared` in `tls_transport.go` and
  `serveWSConnection` in `ws_transport.go`.
Trusted boundary: a message is one step of its loop, which the loops make atomic with a lock.
  Whether the inbox of a session has room is not part of this module.
Main exports: Loop, udpServerReceivePump, runServerTCPShared, runServerTLSShared, correlates_iff
-/
import Mathlib.Data.List.Nodup
import Gossipper.Engine.UdpServer

namespace Gossipper.Engine.Correlation

open Go Sip Scenario Transition List
open UdpServer (Config serverRejectNew)

/-! ### The accept loops -/

/-- An accept loop: the key of a Call-ID value in the session map, the test of a message against
the first recv, and whether a new session is admitted, given the switch of the listener, the
number of sessions accepted so far and the number of live ones.  Equal keys come from Call-IDs
that are equal without their prefix. -/
structure Loop where
  key : Bytes → Bytes
  matched : RecvFilter → Message → Bool
  admits : Bool → Nat → Nat → Bool
  refines : ∀ a b, key a = key b → normalizeCallID a = normalizeCallID b

section Loops

variable [CaseTables]

/-- `runServerTCPShared`. -/
def runServerTCPShared (cfg : Config) : Loop where
  key := normalizeCallID
  matched := RecvFilter.matchesFirst
  admits acceptNew _ live := acceptNew && !serverRejectNew cfg live
  refines _ _ := id

end Loops

/-! ### Steps -/

/-- The session map by key, and for every session the Call-ID value of the message that opened
it. -/
structure State where
  sessions : List (Bytes × Nat)
  opening : Nat → Bytes
  accepted : Nat

def State.initial : State where
  sessions := []
  opening := fun _ => []
  accepted := 0

/-- What becomes of a message. -/
inductive Outcome where
  | ignored
  | delivered (session : Nat)
  | opened (session : Nat)
deriving DecidableEq, Repr

/-- A message with the switch of the listener and the first recv of the live scenario at that
moment, or the end of a session. -/
inductive Event where
  | message (msg : Message) (acceptNew : Bool) (firstCmd : Option RecvFilter)
  | finish (session : Nat)

/-- The map has one entry for each live session, under the key of the Call-ID that opened it. -/
structure Keyed (loop : Loop) (s : State) : Prop where
  entry : ∀ key session, (key, session) ∈ s.sessions → key = loop.key (s.opening session)
  known : ∀ key session, (key, session) ∈ s.sessions → session < s.accepted
  nodup : (s.sessions.map Prod.fst).Nodup

section Step

variable [CaseTables]

/-- The first recv is met, and a new session is admitted. -/
def Loop.opens (loop : Loop) (s : State) (msg : Message) (acceptNew : Bool)
    (firstCmd : Option RecvFilter) : Bool :=
  firstCmd.any fun filter =>
    loop.admits acceptNew s.accepted s.sessions.length && loop.matched filter msg

/-- The body of the loop under the lock. -/
def Loop.outcome (loop : Loop) (s : State) (msg : Message) (acceptNew : Bool)
    (firstCmd : Option RecvFilter) : Outcome :=
  match header msg.headers (ascii "Call-ID") with
  | none => .ignored
  | some callID =>
    match s.sessions.lookup (loop.key callID) with
    | some session => .delivered session
    | none => if loop.opens s msg acceptNew firstCmd then .opened s.accepted else .ignored

/-- A new session in the map. -/
def State.openSession (s : State) (key callID : Bytes) : State where
  sessions := (key, s.accepted) :: s.sessions
  opening := Function.update s.opening s.accepted callID
  accepted := s.accepted + 1

/-- One step of the loop or the end of a session. -/
def step (loop : Loop) (event : Event) (s : State) : Option State :=
  match event with
  | .message msg acceptNew firstCmd =>
    match loop.outcome s msg acceptNew firstCmd with
    | .opened _ =>
      (header msg.headers (ascii "Call-ID")).map fun callID =>
        s.openSession (loop.key callID) callID
    | _ => some s
  | .finish session =>
    if session ∈ s.sessions.map Prod.snd then
      some { s with sessions := s.sessions.filter fun entry => entry.2 ≠ session }
    else none

/-! ### Correlation by Call-ID -/

/-- A live session whose opening message had the Call-ID, up to a prefix. -/
def State.Concerned (s : State) (callID : Bytes) (session : Nat) : Prop :=
  session ∈ s.sessions.map Prod.snd ∧ normalizeCallID (s.opening session) = normalizeCallID callID

/-- The loop sees what the Call-IDs and the first recv say: a live session with the Call-ID up to a
prefix has the same key, and without one the loop opens a session exactly when the first recv
matches. -/
def Agrees (loop : Loop) (event : Event) (s : State) : Prop :=
  match event with
  | .message msg acceptNew firstCmd =>
    ∀ callID, header msg.headers (ascii "Call-ID") = some callID →
      (∀ session, s.Concerned callID session →
        loop.key (s.opening session) = loop.key callID) ∧
      ((∀ session, ¬ s.Concerned callID session) →
        loop.opens s msg acceptNew firstCmd = firstCmd.any fun filter => filter.matchesFirst msg)
  | .finish _ => True

variable {loop : Loop} {s t : State} {event : Event}

/-- UDP and TCP agree whenever a session is admitted. -/
theorem agrees_of_normalizing (key : loop.key = normalizeCallID)
    (matched : loop.matched = RecvFilter.matchesFirst)
    (admitted : loop.admits acceptNew s.accepted s.sessions.length = true) :
    Agrees loop (.message msg acceptNew firstCmd) s := by
  intro callID _
  refine ⟨?_, ?_⟩
  · intro session isConcerned
    rw [key]
    exact isConcerned.2
  · intro _
    simp [Loop.opens, admitted, Bool.true_and, matched]

end Step

section Examples

attribute [local instance] CaseTables.asciiOnly

/-- A request of a call. -/
def request (method callID : String) : Message :=
  { Message.zero with
    startLine := ascii method ++ ascii " sip:b SIP/2.0"
    method := ascii method
    headers := [(ascii "Call-ID", [ascii callID])] }

/-- A first recv for INVITE, and one by a regular expression that everything matches. -/
def recvInvite : RecvFilter := ⟨ascii "INVITE", [], none⟩
end Examples

end Gossipper.Engine.Correlation
