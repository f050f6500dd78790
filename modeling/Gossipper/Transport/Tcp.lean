/-
Module: Gossipper.Transport.Tcp
Purpose: Receiving SIP messages from one TCP connection with timeouts, after
  `DialogTCP.Receive` and `TCPConnReader.Read` of `internal/transport/tcp.go`.
  `QueueStep` is what a receiver is for: it takes whole messages off a queue.
  The byte-level receiver does that on every run whose calls never time out
  inside a message.
Trusted boundary: a call sees some number of bytes of the stream before its read
  deadline; the peer keeps the connection open.
Main exports: Call, receive, receiveAll, QueueStep, receive_refines, receiveAll_prefix_of_stream
-/
import Gossipper.Sip.Framing

namespace Gossipper.Transport

open Go Sip List

/-- The value of `ctx.Err()` on a context that is done. -/
inductive ContextError where
  | deadlineExceeded
  | canceled
deriving DecidableEq, Repr

/-- One call of `Receive`: how many of the unread bytes have arrived by its read
deadline, and `ctx.Err()` at that moment.  The deadline is set by a goroutine of
the call, or by one left over from an earlier call; in the second case the
context of this call need not be done. -/
structure Call where
  arrived : Nat
  ctxErr : Option ContextError

/-- The errors of `Receive`. -/
inductive ReceiveError where
  | context (cause : ContextError)
  | stream (cause : StreamError)
deriving DecidableEq, Repr

section Receive

variable [CaseTables]

/-- `DialogTCP.Receive` and `TCPConnReader.Read`: the result and the bytes of the
stream that are still unread.  A read timeout returns `ctx.Err()`, so without an
error in the context it returns the empty message. -/
def receive (call : Call) (unread : Bytes) : Outcome ReceiveError Message × Bytes :=
  let (result, left) := readMessage .timeout (unread.take call.arrived)
  let unread := left ++ unread.drop call.arrived
  match result with
  | .ok msg => (.ok msg, unread)
  | .fail (.read .timeout) =>
    match call.ctxErr with
    | some cause => (.fail (.context cause), unread)
    | none => (.ok .zero, unread)
  | .fail cause => (.fail (.stream cause), unread)
  | .panics => (.panics, unread)

/-- Calls made one after another on one connection. -/
def receiveAll : List Call → Bytes → List (Outcome ReceiveError Message) × Bytes
  | [], unread => ([], unread)
  | call :: calls, unread =>
    let (result, left) := receive call unread
    let (results, left) := receiveAll calls left
    (result :: results, left)

/-- The call ended by its timeout. -/
def timedOut : Outcome ReceiveError Message → Bool
  | .fail (.context _) => true
  | _ => false

/-- The results of the calls that did not end by timeout. -/
def completed (results : List (Outcome ReceiveError Message)) :
    List (Outcome ReceiveError Message) :=
  results.filter fun result => !timedOut result

/-- The result of a call that reads a whole message. -/
def delivered (m : WireMessage) : Outcome ReceiveError Message :=
  match parse m.text with
  | .ok msg => .ok msg
  | .error cause => .fail (.stream (.parse cause))

/-! ### The queue of messages -/

/-- A receiver as its callers see it.  A call takes the first message when all of
it has arrived; a call that sees only finished blank lines before the first
message, or an empty queue, times out and leaves the messages alone. -/
inductive QueueStep : List Frame → Call → Except ContextError WireMessage → List Frame → Prop where
  | take {f : Frame} {rest : List Frame} {call : Call} :
      f.text.length ≤ call.arrived → QueueStep (f :: rest) call (.ok f.message) rest
  | wait {seen unseen : List BlankLine} {m : WireMessage} {rest : List Frame} {call : Call}
      {cause : ContextError} :
      call.arrived = (terminated (seen.map BlankLine.toLine)).length →
        call.ctxErr = some cause →
        QueueStep (⟨seen ++ unseen, m⟩ :: rest) call (.error cause) (⟨unseen, m⟩ :: rest)
  | idle {call : Call} {cause : ContextError} :
      call.ctxErr = some cause → QueueStep [] call (.error cause) []

/-- The result of the call that a queue step stands for. -/
def queueResult : Except ContextError WireMessage → Outcome ReceiveError Message
  | .ok m => delivered m
  | .error cause => .fail (.context cause)

/-- A run of queue steps, with the messages it takes. -/
inductive QueueRun : List Frame → List Call → List WireMessage → List Frame → Prop where
  | nil (frames : List Frame) : QueueRun frames [] [] frames
  | cons {frames next final : List Frame} {call : Call} {calls : List Call}
      {taken : Except ContextError WireMessage} {more : List WireMessage} :
      QueueStep frames call taken next → QueueRun next calls more final →
        QueueRun frames (call :: calls) (taken.toOption.toList ++ more) final

/-! ### The receiver refines the queue -/

theorem readMessage_gap (gap : List BlankLine) :
    readMessage .timeout (terminated (gap.map BlankLine.toLine)) =
      (.fail (.read .timeout), []) := by
  have skipped : scanLines startStep () [] (terminated (gap.map BlankLine.toLine)) =
      .ended () [] :=
    scanLines_ended_iff.mpr ⟨_, ⟨[], by simp⟩, startStep_blanks gap, rfl, by simp⟩
  simp [readMessage, skipped, startLineError]

variable {call : Call}

theorem receive_frame (f : Frame) (rest : Bytes) (whole : f.text.length ≤ call.arrived) :
    receive call (f.text ++ rest) = (delivered f.message, rest) := by
  have arrived : (f.text ++ rest).take call.arrived =
      f.text ++ rest.take (call.arrived - f.text.length) := by
    rw [take_append, take_of_length_le whole]
  have behind : (f.text ++ rest).drop call.arrived =
      rest.drop (call.arrived - f.text.length) := by
    rw [drop_append, drop_eq_nil_of_le whole, nil_append]
  simp only [receive, arrived, behind, readMessage_frame, parseRead, delivered,
    take_append_drop]
  cases parse f.message.text <;> rfl

theorem receive_refines {frames next taken} (step : QueueStep frames call taken next) :
    receive call (streamOf frames) = (queueResult taken, streamOf next) := by
  cases step with
  | take whole =>
    rename_i f
    simp only [streamOf, flatMap_cons]
    exact receive_frame f _ whole
  | wait seenAll done =>
    rename_i seen unseen m rest _
    have bytesEq : streamOf (⟨seen ++ unseen, m⟩ :: rest) =
        terminated (seen.map BlankLine.toLine) ++ streamOf (⟨unseen, m⟩ :: rest) := by
      simp [streamOf, Frame.text]
    simp [bytesEq, receive, seenAll, readMessage_gap, done, queueResult]
  | idle done =>
    have nothing := readMessage_gap []
    simp only [map_nil, terminated_nil] at nothing
    simp [receive, streamOf, nothing, queueResult, done]

theorem queueRun_messages (run : QueueRun frames calls taken final) :
    frames.map Frame.message = taken ++ final.map Frame.message := by
  induction run with
  | nil => rfl
  | cons step _ ih =>
    rw [append_assoc, ← ih]
    cases step <;> simp [Except.toOption]

theorem completed_cons (taken : Except ContextError WireMessage)
    (results : List (Outcome ReceiveError Message)) :
    completed (queueResult taken :: results) =
      taken.toOption.toList.map delivered ++ completed results := by
  cases taken with
  | ok m =>
    have inTime : timedOut (delivered m) = false := by
      unfold delivered
      split <;> rfl
    simp [completed, queueResult, inTime, Except.toOption]
  | error cause => simp [completed, queueResult, timedOut, Except.toOption]

/-- The calls of a run return the messages it takes, and the unread bytes are
those of the frames left. -/
theorem receiveAll_refines (run : QueueRun frames calls taken final) :
    completed (receiveAll calls (streamOf frames)).1 = taken.map delivered ∧
      (receiveAll calls (streamOf frames)).2 = streamOf final := by
  induction run with
  | nil => simp [receiveAll, completed]
  | cons step _ ih =>
    obtain ⟨results, left⟩ := ih
    simp only [receiveAll, receive_refines step, completed_cons, results, left]
    simp

/-- When every call sees the whole next message or times out between messages,
the completed calls return the first messages of the stream, in order, and the
rest of the messages are still unread. -/
theorem receiveAll_prefix_of_stream {frames final : List Frame} {calls : List Call}
    {taken : List WireMessage} (run : QueueRun frames calls taken final) :
    completed (receiveAll calls (streamOf frames)).1 =
        (frames.take taken.length).map (fun f => delivered f.message) ∧
      (receiveAll calls (streamOf frames)).2 = streamOf final ∧
      final.map Frame.message = (frames.drop taken.length).map Frame.message := by
  obtain ⟨results, left⟩ := receiveAll_refines run
  have messages := queueRun_messages run
  have first : (frames.take taken.length).map Frame.message = taken := by
    rw [map_take, messages, take_left]
  have behind : (frames.drop taken.length).map Frame.message = final.map Frame.message := by
    rw [map_drop, messages, drop_left]
  refine ⟨?_, left, behind.symm⟩
  calc completed (receiveAll calls (streamOf frames)).1
      = taken.map delivered := results
    _ = ((frames.take taken.length).map Frame.message).map delivered := by rw [first]
    _ = (frames.take taken.length).map (fun f => delivered f.message) := by
        rw [map_map]
        rfl

end Receive

/-! ### Concrete runs -/

section Concrete

attribute [local instance] CaseTables.asciiOnly

/-- A call that times out on the keep-alive before the message, and one that
then sees the message. -/
theorem receiveAll_after_keepAlive :
    completed (receiveAll [⟨2, some .deadlineExceeded⟩, ⟨100, none⟩] (streamOf [optionsFrame])).1 =
      [delivered optionsFrame.message] := by
  have waits : QueueStep [optionsFrame] ⟨2, some .deadlineExceeded⟩ (.error .deadlineExceeded)
      [⟨[], optionsFrame.message⟩] :=
    @QueueStep.wait _ optionsFrame.gap [] _ _ _ _ rfl rfl
  have takes : QueueStep [⟨[], optionsFrame.message⟩] ⟨100, none⟩ (.ok optionsFrame.message) [] :=
    .take (by decide)
  exact (receiveAll_prefix_of_stream (.cons waits (.cons takes (.nil [])))).1

/-- A call that times out after four bytes of the start line: they are gone, and
the next call returns a message that was never sent. -/
theorem receive_timeout_misframes :
    (completed (receiveAll [⟨6, some .deadlineExceeded⟩, ⟨100, none⟩]
        (streamOf [optionsFrame])).1).map
      (fun | .ok msg => msg.method | _ => []) = [ascii "ONS"] ∧
    (match delivered optionsFrame.message with | .ok msg => msg.method | _ => []) =
      ascii "OPTIONS" := by
  decide

end Concrete

end Gossipper.Transport
