/-
Module: Gossipper.Scenario.Model
Purpose: The commands of a scenario as the executor reads them, after
  `internal/scenario/model.go`.
Trusted boundary: a compiled regular expression is a predicate on start lines.
Main exports: CommandType, RecvFilter, Command
-/
import Gossipper.Sip.Matching

namespace Gossipper.Scenario

open Go Sip

/-- `CommandType`. -/
inductive CommandType where
  | send
  | recv
  | sendCmd
  | recvCmd
  | pause
  | nop
  | label
  | timewait
deriving DecidableEq, Repr

/-- What a `<recv>` waits for.  `recvReqRegex` is `RecvReqRegex` when
`RegexpMatch` is set and the pattern is not nil. -/
structure RecvFilter where
  recvReq : Bytes
  recvResp : Bytes
  recvReqRegex : Option (Bytes → Bool)

/-- A command of a scenario.  A next label whose jump depends on a variable or on
chance is `conditional`. -/
structure Command where
  type : CommandType
  filter : RecvFilter
  optional : Bool
  retrans : Int
  condExec : Bytes
  nextIndex : Option Nat
  conditional : Bool

section Filter

variable [CaseTables]

/-- The test of a received message against the filter, given the cached CSeq of
the last sent message. -/
def RecvFilter.matchesCached (filter : RecvFilter) (msg : Message) (cseqNum : Int)
    (cseqMethod : Bytes) : Bool :=
  match filter.recvReqRegex with
  | some regex => regex msg.startLine
  | none => matchRecvCached msg filter.recvReq filter.recvResp cseqNum cseqMethod

/-- The test of the first message of a server call; there is no last sent message. -/
def RecvFilter.matchesFirst (filter : RecvFilter) (msg : Message) : Bool :=
  match filter.recvReqRegex with
  | some regex => regex msg.startLine
  | none => matchRecv .fresh msg filter.recvReq filter.recvResp []

end Filter

end Gossipper.Scenario
