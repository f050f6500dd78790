/-
Module: Gossipper.Engine.DispatchOrder
Purpose: Routing datagrams to the mailboxes of their calls through sharded dispatch
  goroutines, after `mailboxRegistry` in `internal/engine/engine.go`.  The packets
  on their way through one shard form a queue that only loses elements, so the
  messages of one shard keep the order of the incoming channel; a mailbox keeps it
  when all its messages come through one shard.
Trusted boundary: each event is one atomic action of one goroutine; the Go
  scheduler chooses the order.  The number of shards is positive and fits
  `uint32`; the program starts at most eight.
Main exports: callIDShard, mailboxKey, step, pipe, step_pipe, Pipes, Names, Logs, mailbox_in_order
-/
import Gossipper.Lib.Run
import Gossipper.Sip.Matching

namespace Gossipper.Engine.Dispatch

open Go Sip Transition

/-! ### Shards -/

/-- The scan of `callIDShard` for the value of the first line that starts with
`Call-ID:` or `i:`.  It gives up eight bytes before the end. -/
def findCallID : Bytes → Option Bytes
  | [] => none
  | b :: line =>
    if line.length < 8 then none
    else if b ≠ lf then findCallID line
    else if 9 ≤ line.length ∧ (line.take 8).map lowerByte = ascii "call-id:" then
      some (line.drop 8)
    else if (line.take 2).map lowerByte = ascii "i:" then some (line.drop 2)
    else findCallID line

/-- The bytes that are hashed: the value up to its line end, as it stands in the
datagram. -/
def rawCallID (raw : Bytes) : Option Bytes :=
  (findCallID raw).map fun value => value.takeWhile fun b => b ≠ cr ∧ b ≠ lf

/-- FNV-1a. -/
def fnv1a (value : Bytes) : UInt32 :=
  value.foldl (fun h b => (h ^^^ b.toUInt32) * 16777619) 2166136261

/-- `callIDShard`. -/
def callIDShard (raw : Bytes) (n : Nat) : Nat :=
  match rawCallID raw with
  | none => 0
  | some value => (fnv1a value % UInt32.ofNat n).toNat

/-! ### The registry and its goroutines -/

/-- A datagram with its position in the incoming channel. -/
structure Packet where
  seq : Nat
  data : Bytes
deriving DecidableEq, Repr

/-- A parsed datagram. -/
structure Parsed where
  packet : Packet
  msg : Message
deriving DecidableEq, Repr

/-- A dispatch goroutine between two of its actions. -/
inductive Worker where
  | idle
  | parsed (item : Parsed) (key : Bytes)
  | found (item : Parsed) (key : Bytes) (mailbox : Nat)

/-- A mailbox channel: the key it was registered under, everything that was ever
sent into it, and how much of that has been received. -/
structure Mailbox where
  key : Bytes
  pushed : List Parsed
  taken : Nat

/-- The messages in the channel. -/
def Mailbox.contents (mailbox : Mailbox) : List Parsed :=
  mailbox.pushed.drop mailbox.taken

/-- `sipMailboxCap`. -/
def sipMailboxCap : Nat := 512

/-- The buffer of a shard channel. -/
def shardCap : Nat := 4096

/-- The whole dispatcher. -/
structure State where
  /-- How many datagrams have been read from the incoming channel. -/
  readCount : Nat
  /-- The datagram the router has read and not yet put into a shard. -/
  inHand : Option Packet
  shards : Nat → List Packet
  workers : Nat → Worker
  mailboxes : Nat → Mailbox
  mailboxCount : Nat
  /-- The `sync.Map` from normalised Call-ID to channel. -/
  registry : List (Bytes × Nat)

/-- Nothing read and no mailbox registered. -/
def State.initial : State where
  readCount := 0
  inHand := none
  shards := fun _ => []
  workers := fun _ => .idle
  mailboxes := fun _ => ⟨[], [], 0⟩
  mailboxCount := 0
  registry := []

/-- One action of the router, of a worker, of a call or of its receiver. -/
inductive Event where
  | read (data : Bytes)
  | forward
  | take (shard : Nat) (circumstances : Reparse)
  | lookup (shard : Nat)
  | deliver (shard : Nat)
  | register (callID : Bytes)
  | unregister (callID : Bytes)
  | receive (mailbox : Nat)

section Step

variable [CaseTables]

/-- The key under which `dispatch` looks up the mailbox of a datagram; `none` when
the datagram is discarded. -/
def mailboxKey (circumstances : Reparse) (data : Bytes) : Option Bytes :=
  (circumstances.parse data).bind fun msg =>
    (header msg.headers (ascii "Call-ID")).map normalizeCallID

/-- A worker that has taken a packet off its shard. -/
def parsePacket (circumstances : Reparse) (packet : Packet) : Worker :=
  match circumstances.parse packet.data with
  | none => .idle
  | some msg =>
    match header msg.headers (ascii "Call-ID") with
    | none => .idle
    | some callID => .parsed ⟨packet, msg⟩ (normalizeCallID callID)

/-- One action.  `none` means that the goroutine waits or has another action next. -/
def step (n : Nat) : Event → State → Option State
  | .read data, s =>
    match s.inHand with
    | some _ => none
    | none => some { s with inHand := some ⟨s.readCount, data⟩, readCount := s.readCount + 1 }
  | .forward, s =>
    match s.inHand with
    | none => none
    | some packet =>
      let shard := callIDShard packet.data n
      -- A send into a full shard blocks.
      if (s.shards shard).length < shardCap then
        some { s with
          inHand := none
          shards := Function.update s.shards shard (s.shards shard ++ [packet]) }
      else none
  | .take shard circumstances, s =>
    match s.workers shard, s.shards shard with
    | .idle, packet :: rest =>
      some { s with
        shards := Function.update s.shards shard rest
        workers := Function.update s.workers shard (parsePacket circumstances packet) }
    | _, _ => none
  | .lookup shard, s =>
    match s.workers shard with
    | .parsed item key =>
      let next :=
        match s.registry.lookup key with
        | none => .idle
        | some mailbox => .found item key mailbox
      some { s with workers := Function.update s.workers shard next }
    | _ => none
  | .deliver shard, s =>
    match s.workers shard with
    | .found item _ mailbox =>
      let target := s.mailboxes mailbox
      -- A full mailbox drops the message.
      let target :=
        if target.contents.length < sipMailboxCap then
          { target with pushed := target.pushed ++ [item] }
        else target
      some { s with
        mailboxes := Function.update s.mailboxes mailbox target
        workers := Function.update s.workers shard .idle }
    | _ => none
  | .register callID, s =>
    let key := normalizeCallID callID
    some { s with
      mailboxes := Function.update s.mailboxes s.mailboxCount ⟨key, [], 0⟩
      mailboxCount := s.mailboxCount + 1
      registry := (key, s.mailboxCount) :: s.registry.filter fun entry => entry.1 ≠ key }
  | .unregister callID, s =>
    some { s with
      registry := s.registry.filter fun entry => entry.1 ≠ normalizeCallID callID }
  | .receive mailbox, s =>
    let target := s.mailboxes mailbox
    if target.contents = [] then none
    else
      some { s with
        mailboxes := Function.update s.mailboxes mailbox { target with taken := target.taken + 1 } }

/-- The datagrams read in a run. -/
def reads (events : List Event) : List Bytes :=
  events.filterMap fun
    | .read data => some data
    | _ => none

end Step

open List

/-- The packet a worker is busy with. -/
def Worker.held : Worker → List Packet
  | .idle => []
  | .parsed item _ => [item.packet]
  | .found item _ _ => [item.packet]

/-- The packets of one shard that are still on their way, oldest first: in the
worker, in the shard channel, in the hand of the router. -/
def pipe (n : Nat) (s : State) (shard : Nat) : List Packet :=
  (s.workers shard).held ++ s.shards shard ++
    s.inHand.toList.filter fun packet => callIDShard packet.data n = shard

section Order

variable [CaseTables]

/-! ### One step -/

open Worker

theorem parsePacket_held (circumstances : Reparse) (packet : Packet) :
    (parsePacket circumstances packet).held.Sublist [packet] := by
  unfold parsePacket
  repeat' split
  all_goals simp [held]

variable {s t : State} {event : Event} {n : Nat}

/-- What one action does to the packets on their way: reading appends a packet to
its shard, and every other action at most removes packets. -/
theorem step_pipe (stepped : step n event s = some t) :
    (∃ data, event = .read data ∧ t.readCount = s.readCount + 1 ∧
      ∀ shard, pipe n t shard = pipe n s shard ++
        [(⟨s.readCount, data⟩ : Packet)].filter fun p => callIDShard p.data n = shard) ∨
    (t.readCount = s.readCount ∧ ∀ shard, (pipe n t shard).Sublist (pipe n s shard)) := by
  revert stepped
  fun_cases step n event s
  all_goals rintro ⟨⟩
  case case2 data empty =>
    exact .inl ⟨data, rfl, rfl, fun shard => by simp [pipe, empty]⟩
  case case4 packet shard holding _ =>
    refine .inr ⟨rfl, fun other => ?_⟩
    by_cases own : shard = other
    · subst own
      simp [pipe, holding, shard]
    · simp [pipe, holding, shard, own, Function.update_of_ne (Ne.symm own)]
  case case6 shard circumstances packet rest queued idle =>
    refine .inr ⟨rfl, fun other => ?_⟩
    by_cases own : other = shard
    · subst own
      simp only [pipe, Function.update_self, idle, queued, held, nil_append]
      exact ((parsePacket_held circumstances packet).append_right rest).append_right _
    · simp [pipe, Function.update_of_ne own]
  case case8 shard parsed key busy next =>
    refine .inr ⟨rfl, fun other => ?_⟩
    by_cases own : other = shard
    · subst own
      simp only [pipe, Function.update_self, busy, next]
      split <;> simp [held]
    · simp [pipe, Function.update_of_ne own]
  case case10 shard parsed key mailbox busy _ _ =>
    refine .inr ⟨rfl, fun other => ?_⟩
    by_cases own : other = shard
    · subst own
      simp [pipe, busy, held]
    · simp [pipe, Function.update_of_ne own]
  case case12 | case13 | case15 => exact .inr ⟨rfl, fun _ => List.Sublist.refl _⟩

/-! ### Packets on their way -/

/-- The packets of a shard are in the order in which they were read, and they are
allowed datagrams of that shard. -/
structure Pipes (n : Nat) (allowed : Bytes → Prop) (s : State) : Prop where
  sorted : ∀ shard, (pipe n s shard).Pairwise fun p q => p.seq < q.seq
  placed : ∀ shard, ∀ p ∈ pipe n s shard,
    p.seq < s.readCount ∧ callIDShard p.data n = shard ∧ allowed p.data

variable {allowed : Bytes → Prop}

theorem step_pipes (ok : ∀ data, event = .read data → allowed data)
    (stepped : step n event s = some t) (pipes : Pipes n allowed s) : Pipes n allowed t := by
  rcases step_pipe stepped with ⟨data, isRead, counted, extended⟩ | ⟨counted, shrunk⟩
  · constructor
    · intro shard
      rw [extended, pairwise_append]
      refine ⟨pipes.sorted shard, (pairwise_singleton _ _).filter _, ?_⟩
      intro p inPipe q isNew
      have qEq : q = ⟨s.readCount, data⟩ := by simpa using mem_of_mem_filter isNew
      rw [qEq]
      exact (pipes.placed shard p inPipe).1
    · intro shard p member
      rw [extended, mem_append, mem_filter, mem_singleton] at member
      rcases member with old | ⟨rfl, isOwn⟩
      · obtain ⟨bound, own, fine⟩ := pipes.placed shard p old
        exact ⟨by omega, own, fine⟩
      · exact ⟨by simp [counted], by simpa using isOwn, ok data isRead⟩
  · constructor
    · intro shard
      exact (pipes.sorted shard).sublist (shrunk shard)
    · intro shard p member
      rw [counted]
      exact pipes.placed shard p ((shrunk shard).subset member)

/-! ### Keys -/

/-- Some reading of the datagram gives it this key. -/
def HasKey (data key : Bytes) : Prop :=
  ∃ circumstances, mailboxKey circumstances data = some key

/-- The message is what some reading makes of its datagram, and its Call-ID gives the key. -/
def ReadAs (item : Parsed) (key : Bytes) : Prop :=
  (∃ circumstances : Reparse, circumstances.parse item.packet.data = some item.msg) ∧
    (header item.msg.headers (ascii "Call-ID")).map normalizeCallID = some key

theorem ReadAs.hasKey (read : ReadAs item key) : HasKey item.packet.data key := by
  obtain ⟨⟨circumstances, parses⟩, named⟩ := read
  exact ⟨circumstances, by rw [mailboxKey, parses]; exact named⟩

/-- The keys that workers, the registry and mailboxes carry are keys of the
packets and channels they belong to. -/
structure Names (s : State) : Prop where
  parsed : ∀ shard item key, s.workers shard = .parsed item key → ReadAs item key
  found : ∀ shard item key mailbox, s.workers shard = .found item key mailbox →
    ReadAs item key ∧ (s.mailboxes mailbox).key = key ∧ mailbox < s.mailboxCount
  registered : ∀ key mailbox, (key, mailbox) ∈ s.registry →
    (s.mailboxes mailbox).key = key ∧ mailbox < s.mailboxCount

variable {packet : Packet}

theorem parsePacket_parsed (result : parsePacket circumstances packet = .parsed item key) :
    ReadAs item key := by
  unfold parsePacket at result
  split at result
  · cases result
  · rename_i msg parses
    split at result
    · cases result
    · rename_i callID present
      simp only [parsed.injEq] at result
      obtain ⟨rfl, rfl⟩ := result
      exact ⟨⟨circumstances, parses⟩, by rw [present, Option.map_some]⟩

theorem parsePacket_not_found :
    parsePacket circumstances packet ≠ .found item key mailbox := by
  unfold parsePacket
  repeat' split
  all_goals simp

/-- Keys stay right when mailboxes keep theirs and one worker changes to a state
with right keys. -/
theorem Names.update (names : Names s) {shard next}
    (workers : t.workers = Function.update s.workers shard next)
    (mailboxes : ∀ mailbox, (t.mailboxes mailbox).key = (s.mailboxes mailbox).key)
    (count : t.mailboxCount = s.mailboxCount) (registry : t.registry = s.registry)
    (nextParsed : ∀ item key, next = .parsed item key → ReadAs item key)
    (nextFound : ∀ item key mailbox, next = .found item key mailbox →
      ReadAs item key ∧ (s.mailboxes mailbox).key = key ∧
        mailbox < s.mailboxCount) : Names t := by
  constructor
  · intro other item key busy
    by_cases own : other = shard
    · subst own
      rw [workers, Function.update_self] at busy
      exact nextParsed item key busy
    · rw [workers, Function.update_of_ne own] at busy
      exact names.parsed other item key busy
  · intro other item key mailbox busy
    rw [mailboxes, count]
    by_cases own : other = shard
    · subst own
      rw [workers, Function.update_self] at busy
      exact nextFound item key mailbox busy
    · rw [workers, Function.update_of_ne own] at busy
      exact names.found other item key mailbox busy
  · intro key mailbox entry
    rw [mailboxes, count]
    exact names.registered key mailbox (registry ▸ entry)

omit [CaseTables] in
theorem update_mailbox_key {s : State} {mailbox : Nat} {target : Mailbox}
    (same : target.key = (s.mailboxes mailbox).key) (other : Nat) :
    (Function.update s.mailboxes mailbox target other).key = (s.mailboxes other).key := by
  by_cases own : other = mailbox
  · subst own
    rw [Function.update_self, same]
  · rw [Function.update_of_ne own]

theorem step_names (stepped : step n event s = some t) (names : Names s) : Names t := by
  revert stepped
  fun_cases step n event s
  all_goals rintro ⟨⟩
  case case2 | case4 => exact ⟨names.parsed, names.found, names.registered⟩
  case case6 =>
    exact names.update rfl (fun _ => rfl) rfl rfl (fun _ _ => parsePacket_parsed)
      fun _ _ _ result => absurd result parsePacket_not_found
  case case8 shard item key busy next =>
    refine names.update rfl (fun _ => rfl) rfl rfl (fun _ _ result => ?_)
      fun _ _ _ result => ?_
    · simp only [next] at result
      split at result <;> cases result
    · simp only [next] at result
      split at result
      · cases result
      · rename_i present
        cases result
        obtain ⟨before, after, registryEq, _⟩ := lookup_eq_some_iff.mp present
        exact ⟨names.parsed shard item key busy, names.registered key _ (by simp [registryEq])⟩
  case case10 _ pushed =>
    refine names.update rfl (update_mailbox_key ?_) rfl rfl nofun nofun
    simp only [pushed]
    split <;> rfl
  case case12 callID key =>
    have older : ∀ mailbox, mailbox < s.mailboxCount →
        Function.update s.mailboxes s.mailboxCount ⟨key, [], 0⟩ mailbox = s.mailboxes mailbox :=
      fun mailbox below => Function.update_of_ne (Nat.ne_of_lt below) _ _
    constructor
    · exact names.parsed
    · intro shard item key mailbox busy
      obtain ⟨read, keyEq, below⟩ := names.found shard item key mailbox busy
      exact ⟨read, by simpa only [older mailbox below] using keyEq, Nat.lt_succ_of_lt below⟩
    · intro key mailbox entry
      rw [mem_cons, mem_filter] at entry
      rcases entry with isNew | ⟨old, _⟩
      · simp only [Prod.mk.injEq] at isNew
        obtain ⟨rfl, rfl⟩ := isNew
        exact ⟨by simp, Nat.lt_succ_self _⟩
      · obtain ⟨keyEq, below⟩ := names.registered key mailbox old
        exact ⟨by simpa only [older mailbox below] using keyEq, Nat.lt_succ_of_lt below⟩
  case case13 =>
    exact ⟨names.parsed, names.found,
      fun key mailbox entry => names.registered key mailbox (mem_of_mem_filter entry)⟩
  case case15 mailbox target _ =>
    have sameKeys := @update_mailbox_key s mailbox { target with taken := target.taken + 1 } rfl
    refine ⟨names.parsed, fun shard item key other busy => ?_, fun key other entry => ?_⟩
    · simpa only [sameKeys] using names.found shard item key other busy
    · simpa only [sameKeys] using names.registered key other entry

/-! ### Mailboxes -/

/-- A packet that has left its shard: everything of that shard still on its way
was read later. -/
def Passed (n : Nat) (s : State) (packet : Packet) : Prop :=
  packet.seq < s.readCount ∧
    ∀ p ∈ pipe n s (callIDShard packet.data n), packet.seq < p.seq

/-- The messages pushed into a mailbox are allowed datagrams with its key, they
have left their shards, and they stand in the order in which they were read. -/
structure Logs (n : Nat) (allowed : Bytes → Prop) (s : State) : Prop where
  pushed : ∀ mailbox, ∀ item ∈ (s.mailboxes mailbox).pushed,
    Passed n s item.packet ∧ allowed item.packet.data ∧
      HasKey item.packet.data (s.mailboxes mailbox).key
  sorted : ∀ mailbox,
    (s.mailboxes mailbox).pushed.Pairwise fun a b => a.packet.seq < b.packet.seq

theorem step_passed (stepped : step n event s = some t)
    (passed : Passed n s packet) : Passed n t packet := by
  obtain ⟨bound, ahead⟩ := passed
  rcases step_pipe stepped with ⟨data, _, counted, extended⟩ | ⟨counted, shrunk⟩
  · refine ⟨by omega, fun p member => ?_⟩
    rw [extended, mem_append, mem_filter, mem_singleton] at member
    rcases member with old | ⟨rfl, _⟩
    · exact ahead p old
    · exact bound
  · exact ⟨by omega, fun p member => ahead p ((shrunk _).subset member)⟩

/-- Logs stay right when no mailbox gets a message. -/
theorem Logs.keep (logs : Logs n allowed s) (stepped : step n event s = some t)
    (same : ∀ mailbox, (t.mailboxes mailbox).pushed = [] ∨
      (t.mailboxes mailbox).pushed = (s.mailboxes mailbox).pushed ∧
        (t.mailboxes mailbox).key = (s.mailboxes mailbox).key) : Logs n allowed t := by
  constructor
  · intro mailbox item member
    rcases same mailbox with empty | ⟨pushedEq, keyEq⟩
    · simp [empty] at member
    · rw [pushedEq] at member
      obtain ⟨passed, fine, hasKey⟩ := logs.pushed mailbox item member
      exact ⟨step_passed stepped passed, fine, keyEq ▸ hasKey⟩
  · intro mailbox
    rcases same mailbox with empty | ⟨pushedEq, _⟩
    · simp [empty]
    · rw [pushedEq]
      exact logs.sorted mailbox

omit [CaseTables] in
/-- The packet in a worker's hand is behind everything the worker's shard has
delivered, and what is left of the shard is behind it. -/
theorem passed_of_held (pipes : Pipes n allowed s) (first : pipe n s shard = packet :: rest) :
    packet.seq < s.readCount ∧ callIDShard packet.data n = shard ∧ allowed packet.data ∧
      ∀ p ∈ rest, packet.seq < p.seq := by
  have sorted := pipes.sorted shard
  rw [first, pairwise_cons] at sorted
  obtain ⟨bound, own, fine⟩ := pipes.placed shard packet (by simp [first])
  exact ⟨bound, own, fine, sorted.1⟩

/-- Allowed datagrams with one key are spelled with one raw Call-ID. -/
def SameSpelling (allowed : Bytes → Prop) : Prop :=
  ∀ left right key, allowed left → allowed right → HasKey left key → HasKey right key →
    rawCallID left = rawCallID right

omit [CaseTables] in
theorem callIDShard_congr (same : rawCallID left = rawCallID right)
    (n : Nat) : callIDShard left n = callIDShard right n := by
  simp [callIDShard, same]

/-- What one action does to the mailboxes: a worker pushes the packet in its hand
into one of them, or none gets a message and at most a fresh one is opened. -/
theorem step_mailboxes (stepped : step n event s = some t) :
    (∃ shard item key mailbox, s.workers shard = .found item key mailbox ∧
      pipe n s shard = item.packet :: pipe n t shard ∧
      t.mailboxes = Function.update s.mailboxes mailbox
        { s.mailboxes mailbox with pushed := (s.mailboxes mailbox).pushed ++ [item] }) ∨
    (∀ mailbox, (t.mailboxes mailbox).pushed = [] ∨
      (t.mailboxes mailbox).pushed = (s.mailboxes mailbox).pushed ∧
        (t.mailboxes mailbox).key = (s.mailboxes mailbox).key) := by
  revert stepped
  fun_cases step n event s
  all_goals rintro ⟨⟩
  case case10 shard item key mailbox busy target pushed =>
    by_cases room : target.contents.length < sipMailboxCap
    · exact .inl ⟨shard, item, key, mailbox, busy, by simp [pipe, busy, held],
        by simp only [pushed, room, if_true, target]⟩
    · refine .inr fun other => .inr ?_
      simp [pushed, room, target, Function.update_eq_self, and_self]
  case case12 =>
    refine .inr fun mailbox => ?_
    by_cases isNew : mailbox = s.mailboxCount
    · subst isNew
      simp
    · simp [Function.update_of_ne isNew]
  case case15 mailbox target _ =>
    refine .inr fun other => .inr ?_
    by_cases own : other = mailbox
    · subst own
      simp [target]
    · simp [Function.update_of_ne own]
  all_goals exact .inr fun _ => .inr ⟨rfl, rfl⟩

theorem step_logs (spelling : SameSpelling allowed) (stepped : step n event s = some t)
    (pipes : Pipes n allowed s) (names : Names s) (logs : Logs n allowed s) :
    Logs n allowed t := by
  rcases step_mailboxes stepped with
    ⟨shard, item, key, mailbox, busy, first, mailboxesEq⟩ | same
  · obtain ⟨read, keyEq, _⟩ := names.found shard item key mailbox busy
    have hasKey := read.hasKey
    obtain ⟨bound, own, fine, behind⟩ := passed_of_held pipes first
    have countEq : t.readCount = s.readCount := by
      rcases step_pipe stepped with ⟨_, _, _, extended⟩ | ⟨counted, _⟩
      · have lengths := congrArg List.length (extended shard)
        rw [first, length_append, length_cons] at lengths
        omega
      · exact counted
    have itemPassed : Passed n t item.packet := ⟨by omega, own.symm ▸ behind⟩
    constructor
    · intro other logged member
      by_cases isTarget : other = mailbox
      · subst isTarget
        rw [mailboxesEq, Function.update_self] at member ⊢
        rcases mem_append.mp member with old | isItem
        · obtain ⟨passed, loggedFine, loggedKey⟩ := logs.pushed other logged old
          exact ⟨step_passed stepped passed, loggedFine, loggedKey⟩
        · rw [mem_singleton] at isItem
          subst isItem
          exact ⟨itemPassed, fine, keyEq ▸ hasKey⟩
      · rw [mailboxesEq, Function.update_of_ne isTarget] at member ⊢
        obtain ⟨passed, loggedFine, loggedKey⟩ := logs.pushed other logged member
        exact ⟨step_passed stepped passed, loggedFine, loggedKey⟩
    · intro other
      by_cases isTarget : other = mailbox
      · subst isTarget
        rw [mailboxesEq, Function.update_self, pairwise_append]
        refine ⟨logs.sorted other, pairwise_singleton _ _, ?_⟩
        intro logged member last isItem
        rw [mem_singleton] at isItem
        subst isItem
        -- The two messages have one key, so they came through the same shard.
        obtain ⟨⟨_, ahead⟩, loggedFine, loggedKey⟩ := logs.pushed other logged member
        have sameShard : callIDShard logged.packet.data n = shard :=
          (callIDShard_congr
            (spelling _ _ _ loggedFine fine loggedKey (keyEq ▸ hasKey)) n).trans own
        exact ahead last.packet (by rw [sameShard, first]; simp)
      · rw [mailboxesEq, Function.update_of_ne isTarget]
        exact logs.sorted other
  · exact logs.keep stepped same

/-! ### Whole runs -/

/-- What every reachable state keeps. -/
structure Ordered (n : Nat) (allowed : Bytes → Prop) (s : State) : Prop where
  pipes : Pipes n allowed s
  names : Names s
  logs : Logs n allowed s

theorem ordered_initial (n : Nat) (allowed : Bytes → Prop) : Ordered n allowed .initial := by
  refine ⟨⟨?_, ?_⟩, ⟨?_, ?_, ?_⟩, ⟨?_, ?_⟩⟩ <;> simp [State.initial, pipe, held]

/-- In every run whose datagrams spell one key in one way, datagrams with one key
go to one shard, and every mailbox gets its messages in the order in which they
were read. -/
theorem mailbox_in_order {n : Nat} {events : List Event} {s : State}
    (run : Run (step n) .initial events s)
    (spelling : SameSpelling (· ∈ reads events)) :
    (∀ left ∈ reads events, ∀ right ∈ reads events, ∀ key,
      HasKey left key → HasKey right key → callIDShard left n = callIDShard right n) ∧
    ∀ mailbox, (s.mailboxes mailbox).pushed.Pairwise fun a b => a.packet.seq < b.packet.seq := by
  constructor
  · intro left inLeft right inRight key leftKey rightKey
    exact callIDShard_congr (spelling left right key inLeft inRight leftKey rightKey) n
  · have guarded : Guarded (step n)
        (fun event _ => ∀ data, event = .read data → data ∈ reads events) .initial events s :=
      run.guarded fun event member data isRead => by
        subst isRead
        exact mem_filterMap.mpr ⟨_, member, rfl⟩
    have ordered : Ordered n (· ∈ reads events) s :=
      guarded.invariant (ordered_initial n _) fun event before after ok stepped holds =>
        ⟨step_pipes ok stepped holds.pipes, step_names stepped holds.names,
          step_logs spelling stepped holds.pipes holds.names holds.logs⟩
    exact ordered.logs.sorted

/-- However Call-IDs are spelled: the messages in a mailbox are what the parser made of datagrams
that were read, their Call-IDs give its key, those of one shard stand in order, and none is there
twice or in two mailboxes. -/
structure Routed (n : Nat) (allowed : Bytes → Prop) (s : State) : Prop where
  pipes : Pipes n allowed s
  names : Names s
  pushed : ∀ mailbox, ∀ item ∈ (s.mailboxes mailbox).pushed,
    Passed n s item.packet ∧ allowed item.packet.data ∧ ReadAs item (s.mailboxes mailbox).key
  sorted : ∀ mailbox, (s.mailboxes mailbox).pushed.Pairwise fun a b =>
    callIDShard a.packet.data n = callIDShard b.packet.data n → a.packet.seq < b.packet.seq
  apart : ∀ mailbox other, mailbox ≠ other → ∀ a ∈ (s.mailboxes mailbox).pushed,
    ∀ b ∈ (s.mailboxes other).pushed, a.packet ≠ b.packet

theorem step_routed (ok : ∀ data, event = .read data → allowed data)
    (stepped : step n event s = some t) (routed : Routed n allowed s) : Routed n allowed t := by
  have pipes := step_pipes ok stepped routed.pipes
  have names := step_names stepped routed.names
  rcases step_mailboxes stepped with ⟨shard, item, key, mailbox, busy, first, mailboxesEq⟩ | same
  · obtain ⟨read, keyEq, _⟩ := routed.names.found shard item key mailbox busy
    obtain ⟨bound, own, fine, behind⟩ := passed_of_held routed.pipes first
    have itemPassed : Passed n t item.packet := by
      refine ⟨?_, own.symm ▸ behind⟩
      rcases step_pipe stepped with ⟨_, _, counted, _⟩ | ⟨counted, _⟩ <;> omega
    -- what has left the shard of the message was read before it
    have ahead {m} {logged : Parsed} (member : logged ∈ (s.mailboxes m).pushed)
        (sameShard : callIDShard logged.packet.data n = callIDShard item.packet.data n) :
        logged.packet.seq < item.packet.seq := by
      apply (routed.pushed _ _ member).1.2
      rw [sameShard, own, first]
      exact mem_cons_self
    have grown (m : Nat) : (t.mailboxes m).key = (s.mailboxes m).key ∧
        (t.mailboxes m).pushed = (s.mailboxes m).pushed ++ if m = mailbox then [item] else [] := by
      rw [mailboxesEq, Function.update_apply]
      split <;> simp_all
    refine ⟨pipes, names, fun m => ?_, fun m => ?_, fun m other => ?_⟩
    · grind [routed.pushed m, step_passed stepped]
    · rw [(grown m).2, pairwise_append]
      grind [routed.sorted m]
    · grind [routed.apart m other]
  · refine ⟨pipes, names, fun m => ?_, fun m => ?_, fun m other => ?_⟩
    · grind [routed.pushed m, step_passed stepped]
    · grind [routed.sorted m]
    · grind [routed.apart m other]

theorem routed_of_run {events : List Event} (run : Run (step n) .initial events s) :
    Routed n (· ∈ reads events) s := by
  obtain ⟨pipes, names, -⟩ := ordered_initial n (· ∈ reads events)
  refine (run.guarded fun _ => id).invariant ⟨pipes, names, ?_, ?_, ?_⟩
    fun event _ _ member => step_routed fun data isRead =>
      mem_filterMap.mpr ⟨event, member, by rw [isRead]⟩
  all_goals simp [State.initial]

end Order

/-! ### Concrete runs -/

section Concrete

attribute [local instance] CaseTables.asciiOnly

/-- A request whose Call-ID stands behind a tab. -/
def tabbed : Bytes := ascii "A b c\r\nCall-ID:\tx\r\n\r\n"

/-- The same request with a space. -/
def spaced : Bytes := ascii "A b c\r\nCall-ID: x\r\n\r\n"

/-- A call registers, two datagrams are read and put into their shards, and the
worker of shard `first` is faster than that of shard `second`. -/
def race (one two : Bytes) (first second : Nat) : List Event :=
  [.register (ascii "x"), .read one, .forward, .read two, .forward,
    .take first .fresh, .lookup first, .deliver first,
    .take second .fresh, .lookup second, .deliver second]

/-- Two copies of one datagram arrive in order. -/
theorem race_same_spelling :
    ∃ s, Run (step 2) .initial (race spaced spaced 1 1) s ∧
      ∀ mailbox, (s.mailboxes mailbox).pushed.Pairwise
        fun a b => a.packet.seq < b.packet.seq := by
  have finishes : (exec (step 2) (race spaced spaced 1 1) .initial).isSome := by decide
  obtain ⟨s, executed⟩ := Option.isSome_iff_exists.mp finishes
  have run := Run.of_exec executed
  have oneText : ∀ data ∈ reads (race spaced spaced 1 1), data = spaced := by decide
  refine ⟨s, run, (mailbox_in_order run ?_).2⟩
  intro left right key inLeft inRight _ _
  rw [oneText left inLeft, oneText right inRight]

/-- A tab and a space in front of the Call-ID: one mailbox, two shards, and the
second datagram overtakes the first. -/
theorem race_overtakes :
    mailboxKey .fresh tabbed = some (ascii "x") ∧ mailboxKey .fresh spaced = some (ascii "x") ∧
    callIDShard tabbed 2 = 0 ∧ callIDShard spaced 2 = 1 ∧
    (exec (step 2) (race tabbed spaced 1 0) .initial).map
      (fun s => (s.mailboxes 0).contents.map fun item => item.packet.seq) = some [1, 0] := by
  decide

/-- Both datagrams arrive, and overtake each other. -/
theorem race_routed : ∃ s, Run (step 2) .initial (race tabbed spaced 1 0) s ∧
    Routed 2 (· ∈ reads (race tabbed spaced 1 0)) s ∧ (s.mailboxes 0).pushed.length = 2 :=
  ⟨_, .of_isSome (by decide), routed_of_run (.of_isSome (by decide)), by decide⟩

end Concrete

end Gossipper.Engine.Dispatch
