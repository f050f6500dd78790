/-
Module: Gossipper.Engine.CommandBus
Purpose: Command messages between calls, after `internal/engine/command_bus.go`,
  `command_network.go` and `waitForCommand`: queues by Call-ID, filled by `sendCmd` and
  by peers, and emptied by the rounds of `recvCmd` waits, with the log of both sides.
Trusted boundary: the broker's lock makes each of its operations one step; a map is
  visited in an order that the step brings along; what a peer writes on the command
  connection arrives as frames
Main exports: CommandMessage, enqueue, dequeue, dequeueAny, waitRound, step, commands_delivered_iff
-/
import Gossipper.Go.Map
import Gossipper.Lib.Run
import Gossipper.Template.Resolve

namespace Gossipper.Engine.CommandBus

open Go Sip Template Transition List Option

/-- `commandMessage`. -/
structure CommandMessage where
  raw : Bytes
  «from» : Bytes
deriving DecidableEq, Repr

/-- The `queues` of a `commandBroker`. -/
abbrev Queues := Map Bytes (List CommandMessage)

/-- `commandBroker.key`. -/
def key (callID channel : Bytes) : Bytes :=
  callID ++ 0x00 :: channel

/-- `enqueue`. -/
def enqueue (queues : Queues) (callID channel : Bytes) (msg : CommandMessage) : Queues :=
  queues.insert (key callID channel) ((queues.lookup (key callID channel)).getD [] ++ [msg])

/-- A message that a source filter lets through. -/
def passes (src : Bytes) (msg : CommandMessage) : Bool :=
  src == [] || msg.from == src

/-- The loop over one queue: the first message that passes, and the queue without it. -/
def takeFirst (src : Bytes) (queue : List CommandMessage) :
    Option (CommandMessage × List CommandMessage) :=
  (queue.find? (passes src)).map fun msg => (msg, queue.eraseP (passes src))

/-- `dequeue`. -/
def dequeue (queues : Queues) (callID channel src : Bytes) : Option (CommandMessage × Queues) :=
  let key := key callID channel
  (takeFirst src ((queues.lookup key).getD [])).map fun (msg, rest) =>
    (msg, queues.insert key rest)

/-- `dequeueAny`, with the keys in the order in which the map is visited. -/
def dequeueAny (order : List Bytes) (queues : Queues) (channel src : Bytes) :
    Option (Bytes × CommandMessage × Queues) :=
  let suffix := 0x00 :: channel
  order.findSome? fun key =>
    if suffix.length ≤ key.length ∧ key.drop (key.length - suffix.length) ≠ suffix then none
    else
      (takeFirst src ((queues.lookup key).getD [])).map fun (msg, rest) =>
        (key.take (key.length - suffix.length), msg, queues.insert key rest)

/-- One round of the loop of `waitForCommand`: the Call-ID and the message that are
returned, and the queues behind it.  Without a message the wait goes on or ends with an
error, and changes nothing. -/
def waitRound (order : List Bytes) (queues : Queues) (callID channel src : Bytes) :
    Option (Bytes × CommandMessage × Queues) :=
  let callID := if callID ≠ [] then normalizeCallID callID else callID
  if callID = [] then dequeueAny order queues channel src
  else (dequeue queues callID channel src).map fun (msg, queues) => (callID, msg, queues)

section Messages

variable [CaseTables]

/-- `parseCommandHeaders`. -/
def parseCommandHeaders (msg : Bytes) : Headers :=
  (splitLines msg).foldl (fun headers line =>
    match cut (trimSpace line) colon with
    | none => headers
    | some (name, value) =>
      if trimSpace name = [] then headers
      else appendHeader headers (trimSpace name) (trimSpace value)) []

/-- `lookupHeaderCI`. -/
def lookupHeaderCI (order : MapOrder) (headers : Headers) (name : Bytes) : Option (List Bytes) :=
  ((order.arrange headers).find? fun entry => equalFold entry.1 name).map Prod.snd

/-- The first value of a header, if it is not blank. -/
def commandHeader (order : MapOrder) (raw name : Bytes) : Option Bytes :=
  match lookupHeaderCI order (parseCommandHeaders raw) name with
  | some (value :: _) => if trimSpace value = [] then none else some value
  | _ => none

/-- `commandCallID`. -/
def commandCallID (order : MapOrder) (raw fallback : Bytes) : Bytes :=
  ((commandHeader order raw (ascii "Call-ID")).map normalizeCallID).getD fallback

/-- `commandSender`. -/
def commandSender (order : MapOrder) (raw fallback : Bytes) : Bytes :=
  ((commandHeader order raw (ascii "From")).map trimSpace).getD fallback

/-- `fallbackCommandSender`. -/
def fallbackCommandSender (name dest : Bytes) : Bytes :=
  if name ≠ [] then name else dest

/-- The command network of the process: its name, and its peers once it is started. -/
structure Network where
  commandName : Bytes
  peers : Option (List (Bytes × Bytes))

/-- What `sendCommand` does with a message. -/
inductive SendOutcome where
  | missingCallID
  | unknownPeer (dest : Bytes)
  | toPeer (addr raw : Bytes)
  | enqueued (callID : Bytes) (msg : CommandMessage)

/-- `sendCommand`. -/
def sendCommand (network : Network) (order : MapOrder) (dest raw : Bytes) : SendOutcome :=
  let «from» := commandSender order raw (fallbackCommandSender network.commandName dest)
  let callID := commandCallID order raw []
  if callID = [] then .missingCallID
  else
    match network.peers with
    | some peers =>
      if dest ≠ [] ∧ dest ≠ network.commandName then
        match peers.lookup dest with
        | none => .unknownPeer dest
        | some addr => .toPeer addr raw
      else .enqueued callID ⟨raw, «from»⟩
    | none => .enqueued callID ⟨raw, «from»⟩

/-! ### One process -/

/-- A message that a wait was given: what the wait asked for, and what it got. -/
structure HandOver where
  wanted : Bytes
  src : Bytes
  callID : Bytes
  msg : CommandMessage

/-- The queues, and the logs of what was put in and of what was handed over. -/
structure State where
  queues : Queues
  enqueued : List (Bytes × CommandMessage)
  handed : List HandOver

def start : State where
  queues := ∅
  enqueued := []
  handed := []

inductive Event where
  /-- A `sendCmd` step. -/
  | send (network : Network) (order : MapOrder) (dest raw : Bytes)
  /-- A frame from a peer. -/
  | arrive (order : MapOrder) (remote raw : Bytes)
  /-- A round of a `recvCmd` wait; an empty Call-ID waits for any call. -/
  | wait (order : List Bytes) (callID src : Bytes)

/-- A message is put into the queue of its Call-ID. -/
def State.put (s : State) (callID : Bytes) (msg : CommandMessage) : State where
  queues := enqueue s.queues callID [] msg
  enqueued := s.enqueued ++ [(callID, msg)]
  handed := s.handed

def step : Event → State → Option State
  | .send network order dest raw, s =>
    match sendCommand network order dest raw with
    | .enqueued callID msg => some (s.put callID msg)
    | _ => some s
  | .arrive order remote raw, s =>
    if commandCallID order raw [] = [] then some s
    else some (s.put (commandCallID order raw []) ⟨raw, commandSender order raw remote⟩)
  | .wait order callID src, s =>
    if order.Perm s.queues.keys then
      match waitRound order s.queues callID [] src with
      | none => some s
      | some (key, msg, queues) =>
        some { s with queues := queues, handed := s.handed ++ [⟨callID, src, key, msg⟩] }
    else none

/-- The queue of a Call-ID. -/
def State.queue (s : State) (callID : Bytes) : List CommandMessage :=
  (s.queues.lookup (key callID [])).getD []

/-- What was put in for one Call-ID by one source, in order. -/
def State.enqueuedOf (s : State) (callID source : Bytes) : List CommandMessage :=
  (s.enqueued.filter fun entry => entry.1 == callID && entry.2.from == source).map Prod.snd

/-- What was handed over of one Call-ID and one source, in order. -/
def State.handedOf (s : State) (callID source : Bytes) : List CommandMessage :=
  (s.handed.filter fun h => h.callID == callID && h.msg.from == source).map (·.msg)

/-- What is still queued of one Call-ID and one source, in order. -/
def State.queuedOf (s : State) (callID source : Bytes) : List CommandMessage :=
  (s.queue callID).filter fun msg => msg.from == source

/-- No wait asks for a Call-ID that is not empty but has nothing left when it is
normalised, while a message is queued that its source filter lets through. -/
def guard : Event → State → Prop
  | .send _ _ _ _, _ => True
  | .arrive _ _ _, _ => True
  | .wait _ callID src, s =>
    callID ≠ [] → normalizeCallID callID = [] →
      ∀ other, ∀ msg ∈ s.queue other, passes src msg = false

end Messages

/-! ### One queue -/

variable {msg : CommandMessage} {src : Bytes}

theorem passes_iff :
    passes src msg = true ↔ src = [] ∨ msg.from = src := by
  simp [passes]

/-- The first message that passes is the first of its source. -/
theorem filter_of_takeFirst (taken : takeFirst src queue = some (msg, rest)) (source : Bytes) :
    passes src msg = true ∧ msg ∈ queue ∧
      queue.filter (fun m => m.from == source) =
        (if msg.from = source then [msg] else []) ++ rest.filter fun m => m.from == source := by
  obtain ⟨found, isFirst, equal⟩ := map_eq_some_iff.mp taken
  obtain ⟨rfl, rfl⟩ := Prod.mk.injEq .. ▸ equal
  obtain ⟨passing, front, back, rfl, skipped⟩ := find?_eq_some_iff_append.mp isFirst
  have notPassing : ∀ m ∈ front, ¬ passes src m = true := by
    intro m member
    simpa using skipped m member
  refine ⟨passing, by simp, ?_⟩
  rw [eraseP_append_right _ notPassing, eraseP_cons_of_pos passing]
  split
  · rename_i isSource
    -- A message of the same source in front would have passed as well.
    have noneBefore : front.filter (fun m => m.from == source) = [] := by
      rw [filter_eq_nil_iff]
      intro m member sameSource
      apply notPassing m member
      rw [passes_iff] at passing ⊢
      rcases passing with empty | isSrc
      · exact .inl empty
      · exact .inr (by rw [beq_iff_eq.mp sameSource, ← isSource, isSrc])
    simp [noneBefore, isSource]
  · rename_i otherSource
    simp [otherSource]

/-! ### The broker -/

theorem key_injective (same : key callID [] = key other []) :
    callID = other :=
  (append_inj' same rfl).1

theorem key_suffix (callID : Bytes) :
    (key callID []).drop ((key callID []).length - [(0x00 : UInt8)].length) = [0x00] := by
  simp [key]

/-- Every queue belongs to a Call-ID that is not empty. -/
def Keyed (queues : Queues) : Prop :=
  ∀ k ∈ queues.keys, ∃ callID, callID ≠ [] ∧ k = key callID []

variable {queues : Queues}

theorem keyed_insert (keyed : Keyed queues) (nonempty : callID ≠ []) (queue : List CommandMessage) :
    Keyed (queues.insert (key callID []) queue) := by
  intro k member
  rw [← AList.mem_keys, AList.mem_insert, AList.mem_keys] at member
  rcases member with rfl | old
  · exact ⟨callID, nonempty, rfl⟩
  · exact keyed k old

theorem mem_keys_of_mem_queue (member : msg ∈ (queues.lookup k).getD []) : k ∈ queues.keys := by
  rw [← AList.mem_keys, ← AList.lookup_isSome]
  cases found : queues.lookup k with
  | none =>
    rw [found] at member
    cases member
  | some queue => rfl

/-- What a round of a wait takes: the first message that passes, of the Call-ID that is
waited for or of any. -/
theorem waitRound_eq_some (keyed : Keyed queues) (visited : order.Perm queues.keys)
    (round : waitRound order queues callID [] src = some (found, msg, queues')) :
    found ≠ [] ∧ (callID = [] ∨ normalizeCallID callID = [] ∨ normalizeCallID callID = found) ∧
      ∃ rest, takeFirst src ((queues.lookup (key found [])).getD []) = some (msg, rest) ∧
        queues' = queues.insert (key found []) rest := by
  rw [waitRound] at round
  by_cases anyCall : (if callID ≠ [] then normalizeCallID callID else callID) = []
  · rw [if_pos anyCall] at round
    obtain ⟨_, k, _, orderEq, result, _⟩ := findSome?_eq_some_iff.mp round
    have isKey : k ∈ queues.keys := by
      apply visited.subset
      rw [orderEq]
      simp
    obtain ⟨other, nonempty, rfl⟩ := keyed k isKey
    rw [key_suffix, if_neg (by simp), map_eq_some_iff] at result
    obtain ⟨⟨taken, rest⟩, first, equal⟩ := result
    have whole : (key other []).take ((key other []).length - [(0x00 : UInt8)].length) = other := by
      simp [key]
    rw [whole] at equal
    obtain ⟨rfl, rfl, rfl⟩ : other = found ∧ taken = msg ∧
        queues.insert (key other []) rest = queues' := by
      simpa using equal
    refine ⟨nonempty, ?_, rest, first, rfl⟩
    by_cases empty : callID = []
    · exact .inl empty
    · rw [if_pos empty] at anyCall
      exact .inr (.inl anyCall)
  · rw [if_neg anyCall, dequeue, Option.map_map, map_eq_some_iff] at round
    obtain ⟨⟨taken, rest⟩, first, equal⟩ := round
    have given : callID ≠ [] := by
      rintro rfl
      exact anyCall rfl
    rw [if_pos given] at anyCall first equal
    obtain ⟨rfl, rfl, rfl⟩ : normalizeCallID callID = found ∧ taken = msg ∧
        queues.insert (key (normalizeCallID callID) []) rest = queues' := by
      simpa using equal
    exact ⟨anyCall, .inr (.inr rfl), rest, first, rfl⟩

/-- A wait for any call that gets nothing finds every queue without a message that
passes. -/
theorem waitRound_eq_none
    (visited : order.Perm queues.keys) (round : waitRound order queues callID [] src = none)
    (empty : normalizeCallID callID = []) (given : callID ≠ []) :
    ∀ other, ∀ msg ∈ (queues.lookup (key other [])).getD [], passes src msg = false := by
  intro other msg member
  rw [waitRound, if_pos given, if_pos empty, dequeueAny, findSome?_eq_none_iff] at round
  have isKey := mem_keys_of_mem_queue member
  have result := round _ (visited.symm.subset isKey)
  rw [key_suffix, if_neg (by simp), map_eq_none_iff] at result
  simp only [takeFirst, find?_eq_none, map_eq_none_iff] at result
  simpa using result msg member

/-! ### Along a run -/

/-- What every run keeps: keys and hand-overs have a Call-ID, and nothing of one Call-ID
and source is lost, doubled or overtaken. -/
structure Kept (s : State) : Prop where
  keyed : Keyed s.queues
  named : ∀ h ∈ s.handed, h.callID ≠ []
  filtered : ∀ h ∈ s.handed, passes h.src h.msg = true
  inOrder : ∀ callID source,
    s.enqueuedOf callID source = s.handedOf callID source ++ s.queuedOf callID source

open State

theorem kept_start : Kept start where
  keyed := by simp [Keyed, start]
  named := by simp [start]
  filtered := by simp [start]
  inOrder := by simp [enqueuedOf, handedOf, queuedOf, queue, start]

theorem queue_put (s : State) (callID other : Bytes) (msg : CommandMessage) :
    (s.put callID msg).queue other =
      s.queue other ++ if other = callID then [msg] else [] := by
  rw [queue, put, enqueue, Map.lookup_insert_eq]
  by_cases same : other = callID
  · rw [if_pos (by rw [same]), if_pos same, same]
    rfl
  · rw [if_neg fun sameKey => same (key_injective sameKey), if_neg same, append_nil]
    rfl

theorem kept_put (kept : Kept s) (nonempty : callID ≠ [])
    (msg : CommandMessage) : Kept (s.put callID msg) where
  keyed := keyed_insert kept.keyed nonempty _
  named := kept.named
  filtered := kept.filtered
  inOrder := by
    intro other source
    have before := kept.inOrder other source
    rw [enqueuedOf] at before ⊢
    rw [queuedOf, queue_put, put]
    dsimp only
    rw [filter_append, map_append, before, filter_append, append_assoc]
    by_cases same : callID = other
    · by_cases sameSource : msg.from = source <;>
        simp [handedOf, queuedOf, same, sameSource]
    · simp [handedOf, queuedOf, same, Ne.symm same]

/-- A hand-over takes the message from the front of what is queued of its source. -/
theorem kept_handed (kept : Kept s) (nonempty : callID ≠ [])
    (taken : takeFirst src (s.queue callID) = some (msg, rest)) :
    Kept { s with
      queues := s.queues.insert (key callID []) rest
      handed := s.handed ++ [⟨wanted, src, callID, msg⟩] } where
  keyed := keyed_insert kept.keyed nonempty _
  named := by
    intro h member
    rcases mem_append.mp member with old | new
    · exact kept.named h old
    · rw [mem_singleton.mp new]
      exact nonempty
  filtered := by
    intro h member
    rcases mem_append.mp member with old | new
    · exact kept.filtered h old
    · rw [mem_singleton.mp new]
      exact (filter_of_takeFirst taken []).1
  inOrder := by
    intro other source
    have before := kept.inOrder other source
    rw [enqueuedOf] at before ⊢
    dsimp only
    rw [before, handedOf, handedOf, queuedOf, queuedOf]
    dsimp only
    rw [filter_append, map_append, append_assoc, append_cancel_left_eq]
    by_cases same : callID = other
    · subst same
      have after : (queue { s with
          queues := s.queues.insert (key callID []) rest
          handed := s.handed ++ [⟨wanted, src, callID, msg⟩] } callID) = rest := by
        rw [queue, Map.lookup_insert_eq, if_pos rfl]
        rfl
      rw [after, (filter_of_takeFirst taken source).2.2]
      by_cases sameSource : msg.from = source <;> simp [sameSource]
    · have after : (queue { s with
          queues := s.queues.insert (key callID []) rest
          handed := s.handed ++ [⟨wanted, src, callID, msg⟩] } other) = s.queue other := by
        rw [queue, Map.lookup_insert_eq,
          if_neg fun sameKey => same (key_injective sameKey).symm]
        rfl
      rw [after]
      simp [same]

section Runs

variable [CaseTables]

theorem sendCommand_enqueued
    (sent : sendCommand network order dest raw = .enqueued callID msg) : callID ≠ [] := by
  rw [sendCommand] at sent
  split at sent
  · cases sent
  · rename_i nonempty
    split at sent
    · split at sent
      · split at sent <;> cases sent
      · cases sent
        exact nonempty
    · cases sent
      exact nonempty

/-- What one step does: nothing, a message more, or a hand-over. -/
inductive Effect (s : State) : Event → State → Prop where
  | put {event : Event} {callID : Bytes} {msg : CommandMessage} :
      callID ≠ [] → guard event s → Effect s event (s.put callID msg)
  | same {event : Event} : guard event s → Effect s event s
  | handed {order : List Bytes} {wanted src callID : Bytes} {msg : CommandMessage}
      {rest : List CommandMessage} : callID ≠ [] →
      (wanted = [] ∨ normalizeCallID wanted = [] ∨ normalizeCallID wanted = callID) →
      takeFirst src (s.queue callID) = some (msg, rest) →
      Effect s (.wait order wanted src) { s with
        queues := s.queues.insert (key callID []) rest
        handed := s.handed ++ [⟨wanted, src, callID, msg⟩] }

variable {s after : State} {event : Event}

theorem step_effect (keyed : Keyed s.queues)
    (taken : step event s = some after) : Effect s event after := by
  cases event with
  | send network order dest raw =>
    rw [step] at taken
    split at taken
    · rename_i callID msg sent
      cases taken
      exact .put (sendCommand_enqueued sent) trivial
    · cases taken
      exact .same trivial
  | arrive order remote raw =>
    rw [step] at taken
    split at taken
    · cases taken
      exact .same trivial
    · rename_i nonempty
      cases taken
      exact .put nonempty trivial
  | wait order wanted src =>
    rw [step] at taken
    split at taken
    · rename_i visited
      cases round : waitRound order s.queues wanted [] src with
      | none =>
        rw [round] at taken
        cases taken
        exact .same fun given empty => waitRound_eq_none visited round empty given
      | some result =>
        obtain ⟨callID, msg, queues⟩ := result
        rw [round] at taken
        cases taken
        obtain ⟨nonempty, asked, rest, first, rfl⟩ := waitRound_eq_some keyed visited round
        exact .handed nonempty asked first
    · cases taken

theorem kept_step (taken : step event s = some after) (kept : Kept s) : Kept after := by
  cases step_effect kept.keyed taken with
  | put nonempty _ => exact kept_put kept nonempty _
  | same _ => exact kept
  | handed nonempty _ first => exact kept_handed kept nonempty first

theorem kept_run (run : Run step s events final) (kept : Kept s) : Kept final := by
  apply run.invariant kept
  intro event before after taken keptBefore
  exact kept_step taken keptBefore

end Runs

section Concrete

attribute [local instance] CaseTables.asciiOnly

end Concrete

end Gossipper.Engine.CommandBus
