/-
Module: Gossipper.Media.Accounting
Purpose: How the packets of all calls get to the collector: the session of each call,
  the streams of the scale engine, and `AddMediaStats` at the end of a call, after
  `internal/engine/engine.go`, `engine_scale.go`, `actions_exec.go` and
  `internal/stats/stats.go`.
Trusted boundary: as for the session and the scale engine; an increment of a counter is
  one step, and so is `scaleMedia` with the call on the engine that follows it.  Calls
  over WebRTC, whose packets a bridge counts, are left out.
Main exports: Call, System, Event, step, packets, lostBy, held_step, reported_iff_nothing_lost
-/
import Gossipper.Lib.Run
import Gossipper.Lib.Threads
import Gossipper.Media.ScaleEngine
import Gossipper.Media.Session
import Mathlib.Algebra.Order.BigOperators.Group.List
import Mathlib.Algebra.Order.Group.Nat

namespace Gossipper.Media.Accounting

open Go Transition List Option

/-! ### Calls and the collector -/

/-- What `rtp_stream` does in scale mode; `succeeds` is the outcome of `RegisterStream` but
for a missing engine. -/
inductive ScaleAction where
  | start (succeeds : Bool)
  | pause
  | resume
  | stop
deriving DecidableEq, Repr

/-- The actions that scale mode sends to the engine; the others go to the session. -/
def scaleAction : Action → Option ScaleAction
  | .start .stream outcome => some (.start (outcome == .started))
  | .pause => some .pause
  | .resume => some .resume
  | .stop => some .stop
  | _ => none

/-- A call: the identifier that `executeCall` got, `renderCtx.CallID`, and the session. -/
structure Call where
  callID : Bytes
  renderID : Bytes
  media : State
deriving DecidableEq, Repr

/-- The deferred function of `executeCall` has passed its `AddMediaStats`. -/
def reported : Thread → Bool
  | .finishing | .closing _ .ends | .ended => true
  | _ => false

/-- The calls, the streams of the scale engine, whether `scaleMedia` finds the engine,
and `media.RTPPacketsSent` of the collector. -/
structure System where
  calls : List Call
  streams : List ScaleStream
  engine : Bool
  collector : Nat
deriving DecidableEq, Repr

/-- Before the first call; in scale mode the engine runs. -/
def System.init (mediaScale : Bool) (calls : List (Bytes × List Action)) : System where
  calls := calls.map fun (callID, script) =>
    { callID, renderID := callID, media := .init script }
  streams := []
  engine := mediaScale
  collector := 0

/-- A step of a call or of one of its loops; `recvCmd` adopts an identifier; a tick selects
a stream and counts it; `stopScaleEngine` takes the engine away and stops it. -/
inductive Event where
  | call (i : Nat) (event : Media.Event)
  | adopt (i : Nat) (callID : Bytes)
  | select (n : Nat)
  | transmit (n : Nat)
  | detach
  | halt
deriving DecidableEq, Repr

/-- `AddMediaStats`; the counter is a `uint32`. -/
def System.addMediaStats (s : System) (packets : Nat) : System :=
  { s with collector := (s.collector + packets) % 2 ^ 32 }

/-- The session of a call has made a step. -/
def System.setMedia (s : System) (i : Nat) (call : Call) (media : State) : System :=
  { s with calls := s.calls.set i { call with media := media } }

/-- The actions that are left to the call; an error leaves none. -/
def System.goOn (s : System) (i : Nat) (call : Call) (rest : List Action) : System :=
  s.setMedia i call { call.media with script := rest }

/-- An operation on the streams, if the engine is there. -/
def System.onStreams (s : System) (f : List ScaleStream → List ScaleStream) : System :=
  { s with streams := if s.engine then f s.streams else s.streams }

/-- An `rtp_stream` action in scale mode. -/
def System.perform (s : System) (i : Nat) (call : Call) (rest : List Action) :
    ScaleAction → System
  | .start succeeds =>
    if succeeds && s.engine then
      (s.goOn i call rest).onStreams (registerStream call.renderID)
    else s.goOn i call []
  | .pause => (s.goOn i call rest).onStreams (pauseCall call.renderID)
  | .resume => (s.goOn i call rest).onStreams (resumeCall call.renderID)
  -- The counters that UnregisterCall returns are dropped here.
  | .stop => (s.goOn i call rest).onStreams fun streams =>
    (unregisterCall call.renderID streams).1

/-- The accounting at the end of a call: in scale mode the engine is asked, otherwise the
session. -/
def System.report (mediaScale : Bool) (s : System) (call : Call) : System :=
  if mediaScale then
    if s.engine then
      let (streams, total) := unregisterCall call.callID s.streams
      { s with streams := streams }.addMediaStats total
    else s.addMediaStats 0
  else s.addMediaStats call.media.session.sent

/-- The next action of a call, when it is one for the engine. -/
def Call.scaleNext (mediaScale : Bool) (call : Call) : Option (ScaleAction × List Action) :=
  match call.media.thread, call.media.script with
  | .idle, action :: rest =>
    if mediaScale then (scaleAction action).map (·, rest) else none
  | _, _ => none

/-- One step of a call. -/
def callStep (mediaScale : Bool) (s : System) (i : Nat) (call : Call) (event : Media.Event) :
    Option System :=
  match event with
  | .begin =>
    match call.scaleNext mediaScale with
    | some (action, rest) => some (s.perform i call rest action)
    | none => (Media.step .begin call.media).map (s.setMedia i call)
  | .endCall =>
    (Media.step .endCall call.media).map fun media =>
      (s.setMedia i call media).report mediaScale call
  | event => (Media.step event call.media).map (s.setMedia i call)

/-- One step; `none` when the event cannot happen. -/
def step (mediaScale : Bool) (event : Event) (s : System) : Option System :=
  match event with
  | .call i event => s.calls[i]?.bind fun call => callStep mediaScale s i call event
  | .adopt i callID =>
    s.calls[i]?.bind fun call =>
      if call.media.thread = .idle then
        some { s with calls := s.calls.set i { call with renderID := callID } }
      else none
  | .select n =>
    (s.streams[n]?.bind ScaleStream.select).map fun st =>
      { s with streams := s.streams.set n st }
  | .transmit n =>
    (s.streams[n]?.bind ScaleStream.transmit).map fun st =>
      { s with streams := s.streams.set n st }
  | .detach => if s.engine then some { s with engine := false } else none
  | .halt =>
    -- Stop waits for the tick that is under way.
    if !s.engine && s.streams.all (·.due == 0) then
      some { s with streams := s.streams.map fun st => { st with registered := false } }
    else none

/-- Every call has passed its deferred function. -/
def System.Finished (s : System) : Prop :=
  ∀ call ∈ s.calls, call.media.thread = .ended

instance (s : System) : Decidable s.Finished :=
  inferInstanceAs (Decidable (∀ call ∈ s.calls, call.media.thread = .ended))

/-! ### What is counted, what is owed and what is lost -/

/-- The event of a session that counts a packet as sent. -/
def counts : Media.Event → Bool
  | .count _ | .countDtmf => true
  | _ => false

/-- The packets that an event counts as sent. -/
def counted : Event → Nat
  | .call _ event => if counts event then 1 else 0
  | .transmit _ => 1
  | _ => 0

/-- The packets that the streams of the calls count as sent. -/
def packets (events : List Event) : Nat :=
  gained counted events

/-- A call with this identifier will still ask the engine. -/
def System.awaits (s : System) (callID : Bytes) : Bool :=
  s.calls.any fun call => call.callID == callID && !reported call.media.thread

/-- The counter of the session that the end of the call will report. -/
def Call.owed (mediaScale : Bool) (call : Call) : Nat :=
  if mediaScale || reported call.media.thread then 0 else call.media.session.sent

/-- The end of a call will report the counter of the stream. -/
def reportable (mediaScale engine : Bool) (awaits : Bytes → Bool) (st : ScaleStream) : Bool :=
  mediaScale && engine && st.registered && awaits st.callID

/-- The counter of the stream that the end of a call will report. -/
def streamOwed (mediaScale engine : Bool) (awaits : Bytes → Bool) (st : ScaleStream) : Nat :=
  if reportable mediaScale engine awaits st then st.packetsSent else 0

def System.callsOwe (mediaScale : Bool) (s : System) : Nat :=
  (s.calls.map (Call.owed mediaScale)).sum

def System.streamsOwe (mediaScale : Bool) (s : System) : Nat :=
  (s.streams.map (streamOwed mediaScale s.engine s.awaits)).sum

/-- What the collector has and what is still to come to it. -/
def System.held (mediaScale : Bool) (s : System) : Nat :=
  s.collector + s.callsOwe mediaScale + s.streamsOwe mediaScale

/-- The step sets the counters of the session to zero: a start that succeeds, or one that
fails on its SRTP contexts. -/
def resets (event : Media.Event) (media : State) : Bool :=
  match event, media.thread with
  | .proceed, .opening _ .started | .proceed, .opening _ .srtpFailed => true
  | _, _ => false

/-- The counted packets that a step of a call keeps from the collector: those of the
streams that `rtp_stream stop` unregisters in scale mode; a packet of a session that will
not be asked; those before a reset. -/
def lostByCall (mediaScale : Bool) (s : System) (call : Call) (event : Media.Event) : Nat :=
  if event = .begin ∧ (call.scaleNext mediaScale).map Prod.fst = some .stop then
    (s.streams.map fun st => if st.callID == call.renderID
      then streamOwed mediaScale s.engine s.awaits st else 0).sum
  else if counts event then
    if mediaScale || reported call.media.thread then 1 else 0
  else if resets event call.media then call.owed mediaScale
  else 0

/-- The counted packets that a step keeps from the collector; behind the lock a tick also
counts for a stream that nobody will ask for, and without the engine nobody will. -/
def lostBy (mediaScale : Bool) (event : Event) (s : System) : Nat :=
  match event with
  | .call i event => (s.calls[i]?.map fun call => lostByCall mediaScale s call event).getD 0
  | .transmit n =>
    (s.streams[n]?.map fun st =>
      if reportable mediaScale s.engine s.awaits st then 0 else 1).getD 0
  | .detach => s.streamsOwe mediaScale
  | _ => 0

/-! ### Steps that change no sum -/

variable {mediaScale : Bool} {s : System} {i : Nat} {call : Call}

variable {new : Call}

section

variable (found : s.calls[i]? = some call)

include found

theorem awaits_set_at (id : Bytes) (same : (new.callID == id && !reported new.media.thread) =
      (call.callID == id && !reported call.media.thread)) :
    { s with calls := s.calls.set i new }.awaits id = s.awaits id := by
  have mapped := Threads.map_same
    (fun call : Call => call.callID == id && !reported call.media.thread) found same
  have any : ∀ calls : List Call,
      (calls.any fun call => call.callID == id && !reported call.media.thread) =
        (calls.map fun call => call.callID == id && !reported call.media.thread).any
          fun asks => asks := by
    intro calls
    rw [List.any_map]
    rfl
  simp [System.awaits, any, mapped]

theorem awaits_set (callID : new.callID = call.callID)
    (isOver : reported new.media.thread = reported call.media.thread) :
    { s with calls := s.calls.set i new }.awaits = s.awaits := by
  funext id
  apply awaits_set_at found
  rw [callID, isOver]

/-- A call that owes what it owed before and has not passed its end leaves all sums. -/
theorem held_set (callID : new.callID = call.callID)
    (isOver : reported new.media.thread = reported call.media.thread) :
    { s with calls := s.calls.set i new }.held mediaScale + call.owed mediaScale =
      s.held mediaScale + new.owed mediaScale := by
  have moved := Threads.sum_move (Call.owed mediaScale) new found
  simp only [System.held, System.callsOwe, System.streamsOwe, awaits_set found callID isOver]
  omega

theorem goOn_held (rest : List Action) :
    (s.goOn i call rest).held mediaScale = s.held mediaScale := by
  have moved : (s.goOn i call rest).held mediaScale + call.owed mediaScale =
      s.held mediaScale + call.owed mediaScale := held_set found rfl rfl
  exact Nat.add_right_cancel moved

end

theorem sum_split {part rest whole : ScaleStream → Nat}
    (each : ∀ st, part st + rest st = whole st) (streams : List ScaleStream) :
    (streams.map part).sum + (streams.map rest).sum = (streams.map whole).sum := by
  rw [← sum_map_add]
  exact congrArg (fun f => (streams.map f).sum) (funext each)

variable (awaits : Bytes → Bool) (f : ScaleStream → ScaleStream) (callID : Bytes)
  (rest : ScaleStream → Nat) (st : ScaleStream)

/-- The streams change; what each of them owes is split into what it still owes and a
rest. -/
theorem streamsOwe_map (each : ∀ st, streamOwed mediaScale s.engine s.awaits (f st) + rest st =
      streamOwed mediaScale s.engine s.awaits st) :
    { s with streams := s.streams.map f }.streamsOwe mediaScale + (s.streams.map rest).sum =
      s.streamsOwe mediaScale := by
  unfold System.streamsOwe
  rw [List.map_map]
  exact sum_split each s.streams

/-- A stream that is unregistered owes nothing any more. -/
theorem streamOwed_unregister (engine : Bool) (awaits : Bytes → Bool) (callID : Bytes)
    (st : ScaleStream) :
    streamOwed mediaScale engine awaits (st.unregister callID) +
        (if st.callID == callID then streamOwed mediaScale engine awaits st else 0) =
      streamOwed mediaScale engine awaits st := by
  unfold ScaleStream.unregister ScaleStream.belongs
  cases registered : st.registered with
  | false => simp [streamOwed, reportable, registered]
  | true => cases same : st.callID == callID <;> simp [streamOwed, reportable]

/-! ### What a step of a session does to its counter -/

variable {event : Media.Event}

theorem media_sent {media after} (stepped : Media.step event media = some after) :
    after.session.sent =
      if counts event then (media.session.sent + 1) % 2 ^ 32
      else if resets event media then 0 else media.session.sent := by
  cases step_stepped stepped with
  | @begin action rest _ _ =>
    cases action with
    | start kind outcome | dtmf outcome => cases outcome <;> rfl
    | pause =>
      simp only [State.beginNext, State.beginAction, Session.pause, counts, resets]
      split <;> rfl
    | resume =>
      simp only [State.beginNext, State.beginAction, Session.resume, counts, resets]
      split <;> rfl
    | _ => rfl
  | @close taken next closing =>
    cases next <;> simp [State.close, State.continueWith, counts, resets, closing]
  | @opens echoMode outcome opening =>
    cases outcome <;>
      simp [State.openStream, Session.publish, Session.publishFailed, counts, resets, opening]
  | spawn isSpawning => simp [State.spawn, counts, resets, isSpawning]
  | endSending sending => simp [State.endSending, counts, resets, sending]
  | stop finishing => simp [State.enterStop, Session.stop, counts, resets, finishing]
  | endCall | finish | loopStop | loopClose | count | countDtmf => rfl

theorem media_reported {media after}
    (stepped : Media.step event media = some after) (goesOn : event ≠ .endCall) :
    reported after.thread = reported media.thread := by
  cases step_stepped stepped with
  | @begin action rest idle _ =>
    rw [idle]
    cases action with
    | start kind outcome | dtmf outcome => cases outcome <;> first | rfl | exact congrArg reported idle
    | pause | resume => exact congrArg reported idle
    | stop | echo => rfl
  | @close taken next closing =>
    rw [closing]
    cases next <;> rfl
  | @opens echoMode outcome opening =>
    rw [opening]
    cases outcome <;> rfl
  | spawn isSpawning => rw [isSpawning]; rfl
  | endSending sending => rw [sending]; rfl
  | stop finishing => rw [finishing]; rfl
  | endCall => exact absurd rfl goesOn
  | finish | loopStop | loopClose | count | countDtmf => rfl

/-! ### What a step does -/

/-- Every step, with the condition under which it happens. -/
inductive Stepped (mediaScale : Bool) (s : System) : Event → System → Prop where
  | perform {i : Nat} {call : Call} {action : ScaleAction} {rest : List Action} :
      s.calls[i]? = some call → call.scaleNext mediaScale = some (action, rest) →
      Stepped mediaScale s (.call i .begin) (s.perform i call rest action)
  | media {i : Nat} {call : Call} {event : Media.Event} {media : State} :
      s.calls[i]? = some call → event ≠ .endCall →
      (event = .begin → call.scaleNext mediaScale = none) →
      Media.step event call.media = some media →
      Stepped mediaScale s (.call i event) (s.setMedia i call media)
  | endCall {i : Nat} {call : Call} {media : State} : s.calls[i]? = some call →
      Media.step .endCall call.media = some media →
      Stepped mediaScale s (.call i .endCall) ((s.setMedia i call media).report mediaScale call)
  | adopt {i : Nat} {call : Call} {callID : Bytes} : s.calls[i]? = some call →
      Stepped mediaScale s (.adopt i callID)
        { s with calls := s.calls.set i { call with renderID := callID } }
  | select {n : Nat} {st after : ScaleStream} : s.streams[n]? = some st →
      st.select = some after →
      Stepped mediaScale s (.select n) { s with streams := s.streams.set n after }
  | transmit {n : Nat} {st after : ScaleStream} : s.streams[n]? = some st →
      st.transmit = some after →
      Stepped mediaScale s (.transmit n) { s with streams := s.streams.set n after }
  | detach : s.engine = true → Stepped mediaScale s .detach { s with engine := false }
  | halt : s.engine = false →
      Stepped mediaScale s .halt
        { s with streams := s.streams.map fun st => { st with registered := false } }

variable {after : System}

theorem callStep_stepped
    (found : s.calls[i]? = some call) (stepped : callStep mediaScale s i call event = some after) :
    Stepped mediaScale s (.call i event) after := by
  unfold callStep at stepped
  split at stepped
  · split at stepped
    · rename_i action rest next
      cases stepped
      exact .perform found next
    · rename_i next
      obtain ⟨media, moved, rfl⟩ := map_eq_some_iff.mp stepped
      exact .media found nofun (fun _ => next) moved
  · obtain ⟨media, moved, rfl⟩ := map_eq_some_iff.mp stepped
    exact .endCall found moved
  · rename_i notBegin notEnd
    obtain ⟨media, moved, rfl⟩ := map_eq_some_iff.mp stepped
    exact .media found notEnd (fun isBegin => absurd isBegin notBegin) moved

theorem step_stepped {event}
    (stepped : step mediaScale event s = some after) : Stepped mediaScale s event after := by
  cases event with
  | call i event =>
    obtain ⟨call, found, moved⟩ := bind_eq_some_iff.mp stepped
    exact callStep_stepped found moved
  | adopt i callID =>
    obtain ⟨call, found, moved⟩ := bind_eq_some_iff.mp stepped
    rw [ite_none_right_eq_some] at moved
    cases moved.2
    exact .adopt found
  | select n =>
    obtain ⟨after, selected, rfl⟩ := map_eq_some_iff.mp stepped
    obtain ⟨st, found, selected⟩ := bind_eq_some_iff.mp selected
    exact .select found selected
  | transmit n =>
    obtain ⟨after, transmitted, rfl⟩ := map_eq_some_iff.mp stepped
    obtain ⟨st, found, transmitted⟩ := bind_eq_some_iff.mp transmitted
    exact .transmit found transmitted
  | detach =>
    simp only [step, ite_none_right_eq_some, Option.some.injEq] at stepped
    obtain ⟨runs, rfl⟩ := stepped
    exact .detach runs
  | halt =>
    simp only [step, ite_none_right_eq_some, Option.some.injEq, Bool.and_eq_true,
      Bool.not_eq_true'] at stepped
    obtain ⟨⟨gone, _⟩, rfl⟩ := stepped
    exact .halt gone

/-! ### Conservation -/

theorem sum_map_zero (streams : List ScaleStream) : (streams.map fun _ => 0).sum = 0 := by
  simp

theorem streamOwed_no_engine :
    streamOwed mediaScale false awaits st = 0 := by
  simp [streamOwed, reportable]

theorem streamsOwe_eq_zero (unasked : (mediaScale && s.engine) = false) :
    s.streamsOwe mediaScale = 0 := by
  have nothing : streamOwed mediaScale s.engine s.awaits = fun _ => 0 := by
    funext st
    simp [streamOwed, reportable, unasked]
  rw [System.streamsOwe, nothing, sum_map_zero]

/-- An operation on each stream loses what its streams do not owe any more. -/
theorem held_onStreams (each : ∀ st, streamOwed mediaScale s.engine s.awaits (f st) + rest st =
      streamOwed mediaScale s.engine s.awaits st) :
    (s.onStreams (List.map f)).held mediaScale + (s.streams.map rest).sum =
      s.held mediaScale := by
  cases engine : s.engine with
  | true =>
    have applied : s.onStreams (List.map f) = { s with streams := s.streams.map f } := by
      simp [System.onStreams, engine]
    have split := streamsOwe_map f rest each
    rw [applied]
    simp only [System.held, System.callsOwe] at split ⊢
    omega
  | false =>
    have streams : (if s.engine then s.streams.map f else s.streams) = s.streams := by
      rw [engine]
      rfl
    have nothing : rest = fun _ => 0 := by
      funext st
      have here := each st
      rw [engine, streamOwed_no_engine, streamOwed_no_engine] at here
      omega
    rw [System.onStreams, streams, nothing, sum_map_zero, Nat.add_zero]

theorem held_setPaused (paused : Bool) :
    (s.onStreams (List.map (.setPaused callID paused))).held mediaScale = s.held mediaScale := by
  have kept := @held_onStreams mediaScale s (ScaleStream.setPaused callID paused) (fun _ => 0)
    fun st => by
      unfold ScaleStream.setPaused
      split <;> rfl
  rwa [sum_map_zero, Nat.add_zero] at kept

theorem held_register :
    (s.onStreams (registerStream callID)).held mediaScale = s.held mediaScale := by
  unfold System.onStreams
  split
  · simp only [System.held, System.callsOwe, System.streamsOwe, registerStream, map_append,
      sum_append, map_cons, map_nil, sum_cons, sum_nil, streamOwed,
      ite_self, Nat.add_zero]
    rfl
  · rfl

/-- The actions of scale mode lose what `stop` unregisters. -/
theorem held_perform {action rest}
    (found : s.calls[i]? = some call)
    (next : call.scaleNext mediaScale = some (action, rest)) :
    (s.perform i call rest action).held mediaScale +
        lostByCall mediaScale s call .begin = s.held mediaScale := by
  have awaits : (s.goOn i call rest).awaits = s.awaits := awaits_set found rfl rfl
  have nothing : action ≠ .stop → lostByCall mediaScale s call .begin = 0 := by
    intro different
    simp [lostByCall, next, different, counts, resets]
  cases action with
  | start succeeds =>
    rw [nothing nofun, Nat.add_zero]
    simp only [System.perform]
    split
    · rw [held_register, goOn_held found]
    · rw [goOn_held found]
  | pause =>
    rw [nothing nofun, Nat.add_zero, ← goOn_held found rest]
    exact held_setPaused call.renderID true
  | resume =>
    rw [nothing nofun, Nat.add_zero, ← goOn_held found rest]
    exact held_setPaused call.renderID false
  | stop =>
    rw [← goOn_held found rest]
    have lostHere : lostByCall mediaScale s call .begin =
        (s.streams.map fun st => if st.callID == call.renderID
          then streamOwed mediaScale s.engine s.awaits st else 0).sum := by
      simp [lostByCall, next, map_some, and_self]
    rw [lostHere, ← awaits]
    exact held_onStreams (.unregister call.renderID) _ fun st =>
      streamOwed_unregister _ _ call.renderID st

variable {media : State}

/-- A step of a session that goes on. -/
theorem held_media (found : s.calls[i]? = some call)
    (goesOn : event ≠ .endCall) (plain : event = .begin → call.scaleNext mediaScale = none)
    (stepped : Media.step event call.media = some media)
    (fits : s.held mediaScale + counted (.call i event) < 2 ^ 32) :
    (s.setMedia i call media).held mediaScale + lostByCall mediaScale s call event =
      s.held mediaScale + counted (.call i event) := by
  have isOver := media_reported stepped goesOn
  have sent := media_sent stepped
  have moved : (s.setMedia i call media).held mediaScale + call.owed mediaScale =
      s.held mediaScale + ({ call with media := media } : Call).owed mediaScale :=
    held_set found rfl isOver
  have part : call.owed mediaScale ≤ s.held mediaScale := by
    have share : call.owed mediaScale ≤ s.callsOwe mediaScale :=
      le_sum_of_mem (List.mem_map_of_mem (mem_of_getElem? found))
    simp only [System.held]
    omega
  have notStop : ¬ (event = .begin ∧ (call.scaleNext mediaScale).map Prod.fst = some .stop) := by
    rintro ⟨isBegin, isStop⟩
    rw [plain isBegin] at isStop
    cases isStop
  simp only [lostByCall, if_neg notStop, counted] at fits ⊢
  simp only [Call.owed, isOver, sent] at moved part ⊢
  cases asked : (mediaScale || reported call.media.thread) with
  | true =>
    simp only [asked, if_true, Nat.add_zero] at moved ⊢
    cases counting : counts event with
    | true => simp [moved]
    | false => simp [Bool.false_eq_true, ite_self, moved]
  | false =>
    simp only [asked, Bool.false_eq_true, if_false] at moved part ⊢
    cases counting : counts event with
    | true =>
      simp only [counting, if_true] at moved fits ⊢
      omega
    | false =>
      simp only [counting, Bool.false_eq_true, if_false] at moved ⊢
      split at moved
      · rename_i resetting
        rw [if_pos resetting]
        omega
      · rename_i keeping
        rw [if_neg keeping]
        omega

/-- What a stream owes before the end of a call goes to the report of the call, or it owes
it to another call. -/
theorem streamOwed_endCall (found : s.calls[i]? = some call)
    (goesOn : reported call.media.thread = false) (st : ScaleStream) :
    streamOwed true true (s.setMedia i call media).awaits (st.unregister call.callID) +
        st.packetsOf call.callID =
      streamOwed true true s.awaits st := by
  have self : s.awaits call.callID = true :=
    List.any_eq_true.mpr ⟨call, mem_of_getElem? found, by simp [goesOn]⟩
  unfold ScaleStream.unregister ScaleStream.packetsOf ScaleStream.belongs
  cases registered : st.registered with
  | false => simp [streamOwed, reportable, registered]
  | true =>
    cases same : st.callID == call.callID with
    | true =>
      have equal : st.callID = call.callID := by simpa using same
      simp [streamOwed, reportable, registered, equal, self]
    | false =>
      have different : (call.callID == st.callID) = false := by
        rw [beq_eq_false_iff_ne] at same ⊢
        exact Ne.symm same
      have other : (s.setMedia i call media).awaits st.callID = s.awaits st.callID :=
        awaits_set_at found st.callID (by simp [different])
      simp [streamOwed, reportable, registered, other]

theorem endCall_reported {media after}
    (stepped : Media.step .endCall media = some after) :
    reported media.thread = false ∧ reported after.thread = true := by
  cases Media.step_stepped stepped with
  | endCall idle =>
    rw [idle]
    exact ⟨rfl, rfl⟩

theorem callsOwe_endCall (mediaScale : Bool) (found : s.calls[i]? = some call)
    (isOver : reported media.thread = true) :
    (s.setMedia i call media).callsOwe mediaScale + call.owed mediaScale =
      s.callsOwe mediaScale := by
  have moved : (s.setMedia i call media).callsOwe mediaScale + call.owed mediaScale =
      s.callsOwe mediaScale + ({ call with media := media } : Call).owed mediaScale :=
    Threads.sum_move (Call.owed mediaScale) _ found
  have paid : ({ call with media := media } : Call).owed mediaScale = 0 := by
    simp [Call.owed, isOver]
  rwa [paid, Nat.add_zero] at moved

/-- The end of a call in scale mode: the streams under its identifier are asked. -/
theorem streamsOwe_endCall (media : State) (found : s.calls[i]? = some call)
    (goesOn : reported call.media.thread = false) (engine : s.engine = true) :
    ((s.setMedia i call media).report true call).streamsOwe true +
        (s.streams.map (ScaleStream.packetsOf call.callID)).sum = s.streamsOwe true := by
  have after : ((s.setMedia i call media).report true call).streamsOwe true =
      ((s.streams.map (.unregister call.callID)).map
        (streamOwed true true (s.setMedia i call media).awaits)).sum := by
    have runs : (s.setMedia i call media).engine = true := engine
    simp only [System.report, runs, if_true]
    simp only [System.streamsOwe, System.addMediaStats]
    rw [← engine]
    rfl
  rw [after, List.map_map, System.streamsOwe, engine]
  exact sum_split (streamOwed_endCall found goesOn) s.streams

/-- The end of a call brings what the call owes, and the streams under its identifier
owe, to the collector. -/
theorem held_endCall (found : s.calls[i]? = some call)
    (stepped : Media.step .endCall call.media = some media) (fits : s.held mediaScale < 2 ^ 32) :
    ((s.setMedia i call media).report mediaScale call).held mediaScale =
      s.held mediaScale := by
  obtain ⟨goesOn, isOver⟩ := endCall_reported stepped
  cases mediaScale with
  | false =>
    have owed : call.owed false = call.media.session.sent := by
      simp [Call.owed, goesOn]
    have paid := callsOwe_endCall false found isOver
    have before : s.streamsOwe false = 0 := streamsOwe_eq_zero rfl
    have after : ((s.setMedia i call media).report false call).streamsOwe false = 0 :=
      streamsOwe_eq_zero rfl
    have calls : ((s.setMedia i call media).report false call).callsOwe false =
        (s.setMedia i call media).callsOwe false := rfl
    have collector : ((s.setMedia i call media).report false call).collector =
        (s.collector + call.media.session.sent) % 2 ^ 32 := rfl
    simp only [System.held, before, after, calls, collector] at fits ⊢
    omega
  | true =>
    have paid : (s.setMedia i call media).callsOwe true + 0 = s.callsOwe true :=
      callsOwe_endCall true found isOver
    cases engine : s.engine with
    | false =>
      have same : (s.setMedia i call media).report true call =
          (s.setMedia i call media).addMediaStats 0 := by
        simp [System.report, System.setMedia, engine, Bool.false_eq_true]
      have before : s.streamsOwe true = 0 := streamsOwe_eq_zero engine
      have after : ((s.setMedia i call media).addMediaStats 0).streamsOwe true = 0 :=
        streamsOwe_eq_zero engine
      have calls : ((s.setMedia i call media).addMediaStats 0).callsOwe true =
          (s.setMedia i call media).callsOwe true := rfl
      have collector : ((s.setMedia i call media).addMediaStats 0).collector =
          (s.collector + 0) % 2 ^ 32 := rfl
      rw [same]
      simp only [System.held, before, after, calls, collector] at fits ⊢
      omega
    | true =>
      have streams := streamsOwe_endCall media found goesOn engine
      have runs : (s.setMedia i call media).engine = true := engine
      have calls : ((s.setMedia i call media).report true call).callsOwe true =
          (s.setMedia i call media).callsOwe true := by
        simp only [System.report, runs, if_true]
        rfl
      have collector : ((s.setMedia i call media).report true call).collector =
          (s.collector + totalPackets call.callID 0 s.streams) % 2 ^ 32 := by
        simp only [System.report, runs, if_true]
        rfl
      have total : totalPackets call.callID 0 s.streams =
          0 + (s.streams.map (ScaleStream.packetsOf call.callID)).sum := by
        apply totalPackets_eq_sum
        simp only [System.held] at fits
        omega
      simp only [System.held, calls, collector, total] at fits ⊢
      omega

theorem held_stream (mediaScale : Bool) {n st} (new : ScaleStream)
    (found : s.streams[n]? = some st) :
    { s with streams := s.streams.set n new }.held mediaScale +
        streamOwed mediaScale s.engine s.awaits st =
      s.held mediaScale + streamOwed mediaScale s.engine s.awaits new := by
  have moved := Threads.sum_move (streamOwed mediaScale s.engine s.awaits) new found
  have total : ∀ streams, { s with streams := streams }.held mediaScale =
      s.collector + s.callsOwe mediaScale +
        (streams.map (streamOwed mediaScale s.engine s.awaits)).sum := fun _ => rfl
  have before : s.held mediaScale = s.collector + s.callsOwe mediaScale +
      (s.streams.map (streamOwed mediaScale s.engine s.awaits)).sum := rfl
  rw [total, before]
  omega

/-- A packet of a stream is held exactly when the stream will be asked. -/
theorem held_transmit {n st new} (found : s.streams[n]? = some st)
    (transmitted : st.transmit = some new)
    (fits : s.held mediaScale + counted (.transmit n) < 2 ^ 32) :
    { s with streams := s.streams.set n new }.held mediaScale +
        (if reportable mediaScale s.engine s.awaits st then 0 else 1) =
      s.held mediaScale + counted (.transmit n) := by
  have moved := held_stream mediaScale new found
  have share : streamOwed mediaScale s.engine s.awaits st ≤ s.streamsOwe mediaScale :=
    le_sum_of_mem (List.mem_map_of_mem (mem_of_getElem? found))
  have within : s.streamsOwe mediaScale ≤ s.held mediaScale := Nat.le_add_left _ _
  have asked : reportable mediaScale s.engine s.awaits new =
      reportable mediaScale s.engine s.awaits st ∧
      new.packetsSent = (st.packetsSent + 1) % 2 ^ 64 := by
    unfold ScaleStream.transmit at transmitted
    split at transmitted
    · cases transmitted
    · cases transmitted
      exact ⟨rfl, rfl⟩
  simp only [streamOwed, asked, counted] at moved share fits ⊢
  split at moved
  · rename_i isAsked
    rw [if_pos isAsked] at share ⊢
    omega
  · rename_i unasked
    rw [if_neg unasked]
    omega

/-- What is counted is held, or the step loses it. -/
theorem held_step {event} (stepped : step mediaScale event s = some after)
    (fits : s.held mediaScale + counted event < 2 ^ 32) :
    after.held mediaScale + lostBy mediaScale event s = s.held mediaScale + counted event := by
  cases step_stepped stepped with
  | perform found next =>
    simp only [lostBy, found, map_some, getD_some]
    exact held_perform found next
  | media found goesOn plain moved =>
    simp only [lostBy, found, map_some, getD_some]
    exact held_media found goesOn plain moved fits
  | @endCall i call media found moved =>
    have nothing : lostByCall mediaScale s call .endCall = 0 := by
      simp [lostByCall, counts, resets]
    simp only [lostBy, found, map_some, getD_some, nothing, counted, counts,
      Nat.add_zero, Bool.false_eq_true, if_false] at fits ⊢
    exact held_endCall found moved fits
  | @adopt i call callID found =>
    have moved : { s with calls := s.calls.set i { call with renderID := callID } }.held
        mediaScale + call.owed mediaScale = s.held mediaScale + call.owed mediaScale :=
      held_set found rfl rfl
    exact Nat.add_right_cancel moved
  | @select n st new found selected =>
    have same : streamOwed mediaScale s.engine s.awaits new =
        streamOwed mediaScale s.engine s.awaits st := by
      unfold ScaleStream.select at selected
      rw [ite_none_right_eq_some] at selected
      cases selected.2
      rfl
    have moved := held_stream mediaScale new found
    simp only [lostBy, counted]
    omega
  | @transmit n st new found transmitted =>
    simp only [lostBy, found, map_some, getD_some]
    exact held_transmit found transmitted fits
  | detach runs =>
    have after : ({ s with engine := false } : System).streamsOwe mediaScale = 0 :=
      streamsOwe_eq_zero (Bool.and_false _)
    have calls : ({ s with engine := false } : System).callsOwe mediaScale =
      s.callsOwe mediaScale := rfl
    simp [System.held, lostBy, counted, after, calls]
  | halt gone =>
    have unasked : (mediaScale && s.engine) = false := by
      rw [gone, Bool.and_false]
    have before : s.streamsOwe mediaScale = 0 := streamsOwe_eq_zero unasked
    have after : System.streamsOwe mediaScale
        { s with streams := s.streams.map fun st => { st with registered := false } } = 0 :=
      streamsOwe_eq_zero unasked
    simp [System.held, lostBy, counted, before, after, System.callsOwe]

theorem held_finished (finished : s.Finished) : s.held mediaScale = s.collector := by
  have isOver : ∀ call ∈ s.calls, reported call.media.thread = true := by
    intro call member
    rw [finished call member]
    rfl
  have calls : s.callsOwe mediaScale = 0 := by
    rw [System.callsOwe, sum_eq_zero_iff]
    intro owed member
    obtain ⟨call, isCall, rfl⟩ := List.mem_map.mp member
    simp [Call.owed, isOver call isCall]
  have nobody : ∀ id, s.awaits id = false := by
    intro id
    rw [System.awaits, List.any_eq_false]
    intro call member
    simp [isOver call member]
  have streams : s.streamsOwe mediaScale = 0 := by
    have nothing : streamOwed mediaScale s.engine s.awaits = fun _ => 0 := by
      funext st
      simp [streamOwed, reportable, nobody]
    rw [System.streamsOwe, nothing, sum_map_zero]
  rw [System.held, calls, streams]
  rfl

theorem held_init (calls : List (Bytes × List Action)) :
    (System.init mediaScale calls).held mediaScale = 0 := by
  have owed : (System.init mediaScale calls).callsOwe mediaScale = 0 := by
    rw [System.callsOwe, sum_eq_zero_iff]
    intro owed member
    simp only [System.init, List.map_map, List.mem_map] at member
    obtain ⟨input, _, rfl⟩ := member
    simp [Call.owed, State.init, Session.new]
  rw [System.held, owed]
  rfl

theorem perform_collector (s : System) (i : Nat) (call : Call) (rest : List Action)
    (action : ScaleAction) : (s.perform i call rest action).collector = s.collector := by
  cases action with
  | start succeeds =>
    simp only [System.perform]
    split <;> rfl
  | _ => rfl

theorem report_collector_lt (mediaScale : Bool) (s : System) (call : Call) :
    (s.report mediaScale call).collector < 2 ^ 32 := by
  have wraps : ∀ n, n % 2 ^ 32 < 2 ^ 32 := fun n => Nat.mod_lt n (Nat.two_pow_pos 32)
  unfold System.report
  split
  · split
    · exact wraps _
    · exact wraps _
  · exact wraps _

theorem collector_lt {calls events}
    (run : Run (step mediaScale) (.init mediaScale calls) events s) :
    s.collector < 2 ^ 32 := by
  apply run.invariant
  · exact Nat.two_pow_pos 32
  · intro event before after stepped bounded
    cases step_stepped stepped with
    | @perform i call action rest _ _ =>
      rw [perform_collector]
      exact bounded
    | @endCall i call media _ _ => exact report_collector_lt mediaScale _ call
    | media | adopt | select | transmit | detach | halt => exact bounded

/-- When all calls have finished, the collector reports the packets that their streams
counted exactly if these fit its counter and no step of the run lost any. -/
theorem reported_iff_nothing_lost {calls : List (Bytes × List Action)} {events : List Event}
    (run : Run (step mediaScale) (.init mediaScale calls) events s) (finished : s.Finished) :
    s.collector = packets events ↔
      packets events < 2 ^ 32 ∧
        Guarded (step mediaScale) (fun event s => lostBy mediaScale event s = 0)
          (.init mediaScale calls) events s := by
  have bounded := collector_lt run
  by_cases fits : packets events < 2 ^ 32
  · have conserved := run.conserved (System.held mediaScale) (lostBy mediaScale) counted (2 ^ 32)
      (by rw [held_init, Nat.zero_add]; exact fits)
      (fun _ _ _ stepped fits => held_step stepped fits)
    rw [held_finished finished, held_init, Nat.zero_add] at conserved
    rw [← run.lost_eq_zero_iff]
    simp only [packets] at fits ⊢
    omega
  · constructor
    · intro equal
      exact absurd (equal ▸ bounded) fits
    · rintro ⟨small, _⟩
      exact absurd small fits

/-- A call whose only stream ends by itself before the call does. -/
def plainCall : List Event :=
  [.call 0 .begin, .call 0 .proceed, .call 0 .proceed, .call 0 .proceed, .call 0 (.count 0),
    .call 0 (.count 0), .call 0 (.finish 0), .call 0 (.loopStop 0), .call 0 (.loopClose 0),
    .call 0 .endCall, .call 0 .proceed, .call 0 .proceed]

theorem plainCall_reported :
    ∃ s, Run (step false) (.init false [([99], [.start .stream .started])]) plainCall s ∧
      s.Finished ∧ s.collector = 2 ∧ s.collector = packets plainCall := by
  have run : Run (step false) (.init false [([99], [.start .stream .started])]) plainCall _ :=
    .of_isSome (by decide)
  refine ⟨_, run, by decide, by decide, ?_⟩
  exact (reported_iff_nothing_lost run (by decide)).mpr
    ⟨by decide, run.lost_eq_zero_iff.mp (by decide)⟩

/-- A call that starts its stream again after the first one has ended. -/
def restartedCall : List Event :=
  [.call 0 .begin, .call 0 .proceed, .call 0 .proceed, .call 0 .proceed, .call 0 (.count 0),
    .call 0 (.finish 0), .call 0 (.loopStop 0), .call 0 (.loopClose 0), .call 0 .begin,
    .call 0 .proceed, .call 0 .proceed, .call 0 .proceed, .call 0 (.finish 1),
    .call 0 (.loopStop 1), .call 0 (.loopClose 1), .call 0 .endCall, .call 0 .proceed,
    .call 0 .proceed]

/-- A call of scale mode that stops its stream before it ends. -/
def stoppedCall : List Event :=
  [.call 0 .begin, .select 0, .transmit 0, .call 0 .begin, .call 0 .endCall, .call 0 .proceed,
    .call 0 .proceed]

/-- The restart drops the packet of the first stream; in scale mode the `stop` action drops
it. -/
theorem restart_and_stop_not_reported :
    (∃ s, Run (step false)
        (.init false [([99], [.start .stream .started, .start .stream .started])])
        restartedCall s ∧ s.Finished ∧ s.collector = 0 ∧ packets restartedCall = 1) ∧
    (∃ s, Run (step true) (.init true [([99], [.start .stream .started, .stop])]) stoppedCall s ∧
      s.Finished ∧ s.collector = 0 ∧ packets stoppedCall = 1) :=
  ⟨⟨_, .of_isSome (by decide), by decide, by decide, by decide⟩,
    ⟨_, .of_isSome (by decide), by decide, by decide, by decide⟩⟩

end Gossipper.Media.Accounting
