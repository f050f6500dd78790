/-
Module: Gossipper.Launcher.LoadCoordinator
Purpose: The engines that are added and removed while the program runs, after
  `internal/launcher/load_coordinator.go`: which identifiers are taken, which are listed, and
  which engine a removal cancels, over every order of additions, removals and ends of runs.
Trusted boundary: What an addition makes of its JSON snippet is given with the event.  `Add` and
  `Remove` are their sections under the lock; `Remove` calls `cancel` after it.
Main exports: State, newLoadCoordinator, State.add, State.remove, step, Handles, always_handles_iff
-/
import Mathlib.Data.Finset.Card
import Mathlib.Tactic.IntervalCases
import Gossipper.Go.Number
import Gossipper.Lib.Run
import Gossipper.Lib.Threads

namespace Gossipper.Launcher.LoadCoordinator

open Go Transition List Option

/-! ### The coordinator -/

/-- `maxDynamicLoadClients`. -/
abbrev maxDynamicLoadClients : Nat := 32

/-- What the goroutine of an engine has done: `Run` has not returned, it has returned, or the
deferred function has released the identifier. -/
inductive Phase where
  | running
  | returned
  | released
deriving DecidableEq, Repr

/-- An engine that was started under an identifier. -/
structure Engine where
  id : Bytes
  phase : Phase := .running
  cancelled : Bool := false
deriving DecidableEq, Repr

/-- `dynamicLoadEntry`, with the number of its engine. -/
structure Entry where
  id : Bytes
  engine : Nat
deriving DecidableEq, Repr

/-- The coordinator, the engines in the order in which they were started, and the engines whose
`cancel` a removal is about to call. -/
structure State where
  usedIDs : Finset Bytes
  entries : List Entry := []
  seq : UInt64 := 0
  engines : List Engine := []
  cancelling : List Nat := []

/-- The identifiers that are never given out. -/
def blockedIDs (staticExtraIDs reservedIDs : List Bytes) : Finset Bytes :=
  insert (ascii "primary")
    (((reservedIDs ++ staticExtraIDs).map trimSpace).filter (· ≠ [])).toFinset

/-- `NewLoadCoordinator`. -/
def newLoadCoordinator (staticExtraIDs reservedIDs : List Bytes) : State where
  usedIDs := blockedIDs staticExtraIDs reservedIDs

inductive AddError where
  | snippet
  | serverMode
  | prepare
  | tooMany
  | inUse (id : Bytes)
  | logger
deriving DecidableEq, Repr

def dynID (n : UInt64) : Bytes :=
  ascii "dyn-" ++ decimal n.toNat

/-- The loop of `pickID`, for at most the given number of rounds. -/
def searchID (used : Finset Bytes) : Nat → UInt64 → Option (Bytes × UInt64)
  | 0, _ => none
  | rounds + 1, seq =>
    if dynID (seq + 1) ∈ used then searchID used rounds (seq + 1)
    else some (dynID (seq + 1), seq + 1)

/-- `pickID`, with the counter after it; `none` means that it does not return. -/
def State.pickID (s : State) (want : Bytes) : Option (Except AddError Bytes × UInt64) :=
  let want := trimSpace want
  if want ≠ [] then
    if want ∈ s.usedIDs then some (.error (.inUse want), s.seq) else some (.ok want, s.seq)
  else (searchID s.usedIDs (s.usedIDs.card + 1) s.seq).map fun (id, seq) => (.ok id, seq)

/-- How the steps of an addition that do not concern the coordinator end: the mode that
`ApplyClientSnippetFromJSON` gives, `Prepare`, and `BuildEventLogger`. -/
structure Snippet where
  serverMode : Option Bool
  prepares : Bool
  logs : Bool
deriving DecidableEq, Repr

/-- The engine is started under the identifier and listed. -/
def State.start (s : State) (id : Bytes) (seq : UInt64) : State where
  usedIDs := insert id s.usedIDs
  entries := s.entries ++ [⟨id, s.engines.length⟩]
  seq := seq
  engines := s.engines ++ [{ id }]
  cancelling := s.cancelling

/-- `Add`: the identifier and the engine, and the state after it. -/
def State.add (s : State) (wantID : Bytes) (body : Snippet) :
    Option (Except AddError (Bytes × Nat) × State) :=
  match body.serverMode with
  | none => some (.error .snippet, s)
  | some true => some (.error .serverMode, s)
  | some false =>
    if body.prepares = false then some (.error .prepare, s)
    else if maxDynamicLoadClients ≤ s.entries.length then some (.error .tooMany, s)
    else
      match s.pickID wantID with
      | none => none
      | some (.error e, seq) => some (.error e, { s with seq })
      | some (.ok id, seq) =>
        if body.logs = false then some (.error .logger, { s with seq })
        else some (.ok (id, s.engines.length), s.start id seq)

inductive RemoveError where
  | required
  | unknown (id : Bytes)
deriving DecidableEq, Repr

/-- `Remove`: the engine whose `cancel` is called, and the state when the lock is released. -/
def State.remove (s : State) (id : Bytes) : Except RemoveError Nat × State :=
  let id := trimSpace id
  if id = [] then (.error .required, s)
  else
    match s.entries.find? (·.id = id) with
    | none => (.error (.unknown id), s)
    | some entry =>
      (.ok entry.engine,
        { s with
          entries := s.entries.eraseP (·.id = id)
          cancelling := entry.engine :: s.cancelling })

/-- `SnapshotDynamic`: the engines and their identifiers. -/
def State.snapshotDynamic (s : State) : List Nat × List Bytes :=
  (s.entries.map (·.engine), s.entries.map (·.id))

/-- The identifier under which an engine was started. -/
def State.idOf (s : State) (engine : Nat) : Option Bytes :=
  (s.engines[engine]?).map (·.id)

inductive Event where
  | add (wantID : Bytes) (body : Snippet)
  | remove (id : Bytes)
  | cancel (engine : Nat)
  | runReturns (engine : Nat)
  | release (engine : Nat)
deriving DecidableEq, Repr

def step : Event → State → Option State
  | .add wantID body, s => (s.add wantID body).map (·.2)
  | .remove id, s => some (s.remove id).2
  | .cancel n, s =>
    (s.engines[n]?).bind fun engine =>
      if n ∈ s.cancelling then
        some { s with
          engines := s.engines.set n { engine with cancelled := true }
          cancelling := s.cancelling.erase n }
      else none
  | .runReturns n, s =>
    (s.engines[n]?).bind fun engine =>
      if engine.phase = .running then
        some { s with engines := s.engines.set n { engine with phase := .returned } }
      else none
  | .release n, s =>
    (s.engines[n]?).bind fun engine =>
      if engine.phase = .returned then
        some { s with
          engines := s.engines.set n { engine with phase := .released }
          usedIDs := s.usedIDs.erase engine.id }
      else none

/-! ### Picking an identifier -/

/-- An identifier that may be given out. -/
structure State.Free (s : State) (id : Bytes) : Prop where
  unused : id ∉ s.usedIDs
  nonempty : id ≠ []
  trimmed : trimSpace id = id

theorem dynID_trimmed (n : UInt64) : trimSpace (dynID n) = dynID n := by
  apply trimSpace_solid
  intro b member
  rcases mem_append.mp member with inStem | inNumber
  · exact (by decide +kernel : ∀ b ∈ ascii "dyn-", b.toNat < 0x80 ∧ isSpace b.toNat = false)
      b inStem
  · have bounds := decimal_digit inNumber
    refine ⟨by omega, ?_⟩
    generalize b.toNat = digit at bounds
    obtain ⟨low, high⟩ := bounds
    interval_cases digit <;> rfl

theorem searchID_free {s : State} {rounds : Nat} {seq after : UInt64} {id : Bytes}
    (searched : searchID s.usedIDs rounds seq = some (id, after)) : s.Free id := by
  induction rounds generalizing seq with
  | zero => cases searched
  | succ rounds ih =>
    unfold searchID at searched
    split at searched
    · exact ih searched
    · rename_i unused
      cases searched
      exact ⟨unused, cons_ne_nil _ _, dynID_trimmed _⟩

open State

theorem pickID_free {s : State} {want id : Bytes} {seq : UInt64}
    (picked : s.pickID want = some (.ok id, seq)) : s.Free id := by
  simp only [pickID] at picked
  split at picked
  · rename_i nonempty
    split at picked
    · cases picked
    · rename_i unused
      cases picked
      exact ⟨unused, nonempty, trimSpace_trimSpace want⟩
  · obtain ⟨⟨id', seq'⟩, searched, same⟩ := map_eq_some_iff.mp picked
    cases same
    exact searchID_free searched

/-- What an addition can do. -/
theorem add_cases {s s' : State} {wantID : Bytes} {body : Snippet}
    {result : Except AddError (Bytes × Nat)} (added : s.add wantID body = some (result, s')) :
    (∃ error seq, result = .error error ∧ s' = { s with seq }) ∨
      ∃ id seq, result = .ok (id, s.engines.length) ∧ s.Free id ∧ s' = s.start id seq := by
  revert added
  fun_cases add s wantID body <;> rintro ⟨⟩
  case case8 id seq picked _ => exact .inr ⟨id, seq, rfl, pickID_free picked, rfl⟩
  all_goals exact .inl ⟨_, _, rfl, rfl⟩

/-- What a removal can do. -/
theorem remove_cases (s : State) (id : Bytes) :
    s.remove id = (.error .required, s) ∧ trimSpace id = [] ∨
    s.remove id = (.error (.unknown (trimSpace id)), s) ∧ trimSpace id ≠ [] ∧
      (∀ entry ∈ s.entries, entry.id ≠ trimSpace id) ∨
    ∃ before entry after, s.entries = before ++ entry :: after ∧ entry.id = trimSpace id ∧
      (∀ other ∈ before, other.id ≠ trimSpace id) ∧
      s.remove id = (.ok entry.engine,
        { s with entries := before ++ after, cancelling := entry.engine :: s.cancelling }) := by
  simp only [remove]
  split
  · rename_i isEmpty
    exact .inl ⟨rfl, isEmpty⟩
  · rename_i nonempty
    split
    · rename_i notFound
      refine .inr (.inl ⟨rfl, nonempty, ?_⟩)
      intro entry member
      simpa using find?_eq_none.mp notFound entry member
    · rename_i entry found
      obtain ⟨isAsked, before, after, isSplit, others⟩ := find?_eq_some_iff_append.mp found
      have isID : entry.id = trimSpace id := by simpa using isAsked
      have different (other : Entry) (member : other ∈ before) : other.id ≠ trimSpace id := by
        simpa using others other member
      refine .inr (.inr ⟨before, entry, after, isSplit, isID, different, ?_⟩)
      rw [isSplit, eraseP_append_right _ (by simpa using others), eraseP_cons, isAsked,
        cond_true]

/-! ### Handles -/

/-- The last addition under the identifier started this engine. -/
structure State.IsLatest (s : State) (id : Bytes) (engine : Nat) : Prop where
  started : s.idOf engine = some id
  last : ∀ later, engine < later → s.idOf later ≠ some id

/-- A removal has cancelled the engine or is about to do it. -/
def State.Stopped (s : State) (engine : Nat) : Prop :=
  engine ∈ s.cancelling ∨ ∃ e, s.engines[engine]? = some e ∧ e.cancelled = true

/-- Identifiers are handles: the listed ones are different from one another and from the
reserved ones, a running engine blocks its own, and a removal cancels the engine of the last
addition under the identifier, unless an earlier removal has taken it. -/
structure Handles (staticExtraIDs reservedIDs : List Bytes) (s : State) : Prop where
  distinct : s.snapshotDynamic.2.Nodup
  apart : ∀ id ∈ s.snapshotDynamic.2,
    id ≠ ascii "primary" ∧ id ∉ reservedIDs ∧ id ∉ staticExtraIDs
  blocks : ∀ (n : Nat) (engine : Engine), s.engines[n]? = some engine →
    engine.phase = .running → ∀ wantID body id started s',
      s.add wantID body = some (.ok (id, started), s') → id ≠ engine.id
  removes : ∀ (id : Bytes) (engine : Nat), s.IsLatest (trimSpace id) engine →
    (s.remove id).1 = .ok engine ∨
      (s.remove id).1 = .error (.unknown (trimSpace id)) ∧ s.Stopped engine

/-- An addition does not take an identifier that is listed. -/
def FreshAdd : Event → State → Prop
  | .add wantID body, s => ∀ id started s',
      s.add wantID body = some (.ok (id, started), s') → id ∉ s.entries.map (·.id)
  | _, _ => True

/-- What holds after all steps. -/
structure Base (blocked : Finset Bytes) (s : State) : Prop where
  used : blocked ⊆ s.usedIDs
  held : ∀ (n : Nat) (engine : Engine), s.engines[n]? = some engine →
    engine.phase ≠ .released → engine.id ∈ s.usedIDs
  single : ∀ (n m : Nat) (engine other : Engine), s.engines[n]? = some engine →
    s.engines[m]? = some other → engine.phase ≠ .released → other.phase ≠ .released →
      engine.id = other.id → n = m
  ids : ∀ engine ∈ s.engines,
    engine.id ∉ blocked ∧ engine.id ≠ [] ∧ trimSpace engine.id = engine.id
  listed : ∀ entry ∈ s.entries, s.idOf entry.engine = some entry.id
  once : (s.entries.map (·.engine)).Nodup
  stopped : ∀ n < s.engines.length, n ∈ s.entries.map (·.engine) ∨ s.Stopped n

namespace Base

variable {blocked : Finset Bytes} {s : State}

theorem initial (staticExtraIDs reservedIDs : List Bytes) :
    Base (blockedIDs staticExtraIDs reservedIDs)
      (newLoadCoordinator staticExtraIDs reservedIDs) where
  used := Finset.Subset.refl _
  held _ _ found := by cases found
  single _ _ _ _ found := by cases found
  ids _ member := by cases member
  listed _ member := by cases member
  once := nodup_nil
  stopped _ inRange := absurd inRange (Nat.not_lt_zero _)

open Threads

theorem start (base : Base blocked s) {id} (free : s.Free id) (seq : UInt64) :
    Base blocked (s.start id seq) := by
  have newID (engine : Engine) (member : engine ∈ s.engines)
      (unreleased : engine.phase ≠ .released) : engine.id ≠ id := by
    rintro rfl
    obtain ⟨n, found⟩ := mem_iff_getElem?.mp member
    exact free.unused (base.held n engine found unreleased)
  constructor
  · exact base.used.trans (Finset.subset_insert _ _)
  · intro n engine found unreleased
    rcases get_start found with old | ⟨-, rfl⟩
    · exact Finset.mem_insert_of_mem (base.held n engine old unreleased)
    · exact Finset.mem_insert_self _ _
  · intro n m engine other found found' unreleased unreleased' same
    rcases get_start found with old | ⟨rfl, rfl⟩
    · rcases get_start found' with old' | ⟨rfl, rfl⟩
      · exact base.single n m engine other old old' unreleased unreleased' same
      · exact absurd same (newID engine (mem_of_getElem? old) unreleased)
    · rcases get_start found' with old' | ⟨rfl, rfl⟩
      · exact absurd same.symm (newID other (mem_of_getElem? old') unreleased')
      · rfl
  · intro engine member
    rcases mem_append.mp member with old | new
    · exact base.ids engine old
    · cases mem_singleton.mp new
      exact ⟨fun isBlocked => free.unused (base.used isBlocked), free.nonempty, free.trimmed⟩
  · intro entry member
    rcases mem_append.mp member with old | new
    · have known := base.listed entry old
      obtain ⟨engine, found, isID⟩ := map_eq_some_iff.mp known
      simp only [State.idOf, State.start]
      rw [getElem?_append_left (List.getElem?_eq_some_iff.mp found).1, found, map_some,
        isID]
    · cases mem_singleton.mp new
      simp [State.idOf, State.start]
  · simp only [State.start, map_append, map_singleton]
    refine List.Nodup.append base.once (nodup_singleton _) ?_
    intro n listed new
    cases mem_singleton.mp new
    obtain ⟨entry, member, same⟩ := List.mem_map.mp listed
    obtain ⟨engine, found, -⟩ := map_eq_some_iff.mp (base.listed entry member)
    have inRange := (List.getElem?_eq_some_iff.mp found).1
    omega
  · intro n inRange
    simp only [State.start, length_append, length_singleton, map_append,
      map_singleton, mem_append, mem_singleton] at inRange ⊢
    by_cases isNew : n = s.engines.length
    · exact .inl (.inr isNew)
    · rcases base.stopped n (by omega) with listed | calling | ⟨engine, found, isCancelled⟩
      · exact .inl (.inl listed)
      · exact .inr (.inl calling)
      · refine .inr (.inr ⟨engine, ?_, isCancelled⟩)
        rw [getElem?_append_left (by omega), found]

theorem idOf_set (new : Engine) (found : s.engines[n]? = some old)
    (sameID : new.id = old.id) (usedIDs : Finset Bytes) (cancelling : List Nat) (m : Nat) :
    { s with usedIDs, cancelling, engines := s.engines.set n new : State }.idOf m =
      s.idOf m := by
  simp [idOf, ← getElem?_map, map_same _ found sameID]

/-- An engine moves on, and an identifier or a pending call of `cancel` may go with it. -/
theorem move (base : Base blocked s) {n old} (new : Engine)
    (found : s.engines[n]? = some old) (sameID : new.id = old.id)
    (later : new.phase ≠ .released → old.phase ≠ .released)
    (stays : old.cancelled = true → new.cancelled = true)
    {usedIDs cancelling}
    (kept : ∀ id ∈ s.usedIDs,
      id ∈ usedIDs ∨ id = old.id ∧ old.phase ≠ .released ∧ new.phase = .released)
    (called : ∀ m ∈ s.cancelling, m ∈ cancelling ∨ m = n ∧ new.cancelled = true) :
    Base blocked { s with usedIDs, cancelling, engines := s.engines.set n new } := by
  have isOld : old ∈ s.engines := mem_of_getElem? found
  constructor
  · intro id isBlocked
    rcases kept id (base.used isBlocked) with still | ⟨rfl, -, -⟩
    · exact still
    · exact absurd isBlocked (base.ids old isOld).1
  · intro m engine found' unreleased'
    rcases get_move found' with ⟨rfl, rfl⟩ | ⟨other, before⟩
    · rcases kept _ (base.held m old found (later unreleased')) with still | ⟨-, -, isReleased⟩
      · rwa [sameID]
      · exact absurd isReleased unreleased'
    · rcases kept _ (base.held m engine before unreleased') with still | ⟨same, unreleased, -⟩
      · exact still
      · exact absurd (base.single m n engine old before found unreleased' unreleased same) other
  · intro m k engine engine' found' found'' unreleased' unreleased'' same
    rcases get_move found' with ⟨rfl, rfl⟩ | ⟨other, before⟩
    · rcases get_move found'' with ⟨rfl, rfl⟩ | ⟨other', before'⟩
      · rfl
      · exact base.single m k old engine' found before' (later unreleased') unreleased''
          (sameID.symm.trans same)
    · rcases get_move found'' with ⟨rfl, rfl⟩ | ⟨other', before'⟩
      · exact base.single m k engine old before found unreleased' (later unreleased'')
          (same.trans sameID)
      · exact base.single m k engine engine' before before' unreleased' unreleased'' same
  · apply forall_move base.ids
    rw [sameID]
    exact base.ids old isOld
  · intro entry member
    rw [idOf_set new found sameID]
    exact base.listed entry member
  · exact base.once
  · intro m inRange
    rw [length_set] at inRange
    rcases base.stopped m inRange with listed | calling | ⟨engine, before, isCancelled⟩
    · exact .inl listed
    · rcases called m calling with still | ⟨rfl, isCancelled⟩
      · exact .inr (.inl still)
      · exact .inr (.inr ⟨new, getElem?_set_self inRange, isCancelled⟩)
    · by_cases same : n = m
      · subst same
        cases found.symm.trans before
        exact .inr (.inr ⟨new, getElem?_set_self inRange, stays isCancelled⟩)
      · exact .inr (.inr ⟨engine, (getElem?_set_ne same).trans before, isCancelled⟩)

theorem remove (base : Base blocked s) (id : Bytes) : Base blocked (s.remove id).2 := by
  rcases remove_cases s id with ⟨isRemoved, -⟩ | ⟨isRemoved, -, -⟩ |
      ⟨before, entry, after, isSplit, -, -, isRemoved⟩
  · rw [isRemoved]
    exact base
  · rw [isRemoved]
    exact base
  · rw [isRemoved]
    have fewer : List.Sublist (before ++ after) s.entries := by
      rw [isSplit]
      exact List.Sublist.append_left (sublist_cons_self _ _) _
    refine ⟨base.used, base.held, base.single, base.ids, ?_, ?_, ?_⟩
    · intro other member
      exact base.listed other (fewer.subset member)
    · exact base.once.sublist (fewer.map _)
    · intro n inRange
      rcases base.stopped n inRange with listed | calling | cancelled
      · rw [isSplit] at listed
        simp only [map_append, map_cons, mem_append, mem_cons] at listed ⊢
        rcases listed with first | rfl | last
        · exact .inl (.inl first)
        · exact .inr (.inl mem_cons_self)
        · exact .inl (.inr last)
      · exact .inr (.inl (mem_cons_of_mem _ calling))
      · exact .inr (.inr cancelled)

theorem step {event : Event} {s' : State} (stepped : step event s = some s')
    (base : Base blocked s) : Base blocked s' := by
  cases event with
  | add wantID body =>
    obtain ⟨⟨result, s''⟩, added, same⟩ := map_eq_some_iff.mp stepped
    cases same
    rcases add_cases added with ⟨error, seq, -, rfl⟩ | ⟨id, seq, -, free, rfl⟩
    · exact ⟨base.used, base.held, base.single, base.ids, base.listed, base.once, base.stopped⟩
    · exact base.start free seq
  | remove id =>
    cases stepped
    exact base.remove id
  | cancel n =>
    obtain ⟨engine, found, isStep⟩ := bind_eq_some_iff.mp stepped
    obtain ⟨-, same⟩ := ite_none_right_eq_some.mp isStep
    cases same
    refine base.move { engine with cancelled := true } found rfl id (fun _ => rfl)
      (fun _ member => .inl member) ?_
    intro m calling
    by_cases same : m = n
    · exact .inr ⟨same, rfl⟩
    · exact .inl ((mem_erase_of_ne same).mpr calling)
  | runReturns n =>
    obtain ⟨engine, found, isStep⟩ := bind_eq_some_iff.mp stepped
    obtain ⟨isRunning, same⟩ := ite_none_right_eq_some.mp isStep
    cases same
    refine base.move { engine with phase := .returned } found rfl ?_ id
      (fun _ member => .inl member) (fun _ member => .inl member)
    rw [isRunning]
    exact fun _ => Phase.noConfusion
  | release n =>
    obtain ⟨engine, found, isStep⟩ := bind_eq_some_iff.mp stepped
    obtain ⟨isReturned, same⟩ := ite_none_right_eq_some.mp isStep
    cases same
    refine base.move { engine with phase := .released } found rfl
      (fun other => absurd rfl other) id ?_ (fun _ member => .inl member)
    intro id isUsed
    by_cases same : id = engine.id
    · rw [isReturned]
      exact .inr ⟨same, Phase.noConfusion, rfl⟩
    · exact .inl (Finset.mem_erase_of_ne_of_mem same isUsed)

end Base

/-- Every listed engine is the last one that was started under its identifier. -/
def Newest (s : State) : Prop :=
  ∀ entry ∈ s.entries, s.IsLatest entry.id entry.engine

section Newest

variable {staticExtraIDs reservedIDs : List Bytes} {s : State}

variable {id : Bytes}

theorem State.IsLatest.unique (latest : s.IsLatest id n) (latest' : s.IsLatest id m) : n = m := by
  rcases Nat.lt_trichotomy n m with before | same | behind
  · exact absurd latest'.started (latest.last m before)
  · exact same
  · exact absurd latest.started (latest'.last n behind)

variable {n : Nat}

theorem exists_latest (started : s.idOf n = some id) :
    ∃ m, s.IsLatest id m := by
  have inRange (m : Nat) (isStarted : s.idOf m = some id) : m ≤ s.engines.length := by
    obtain ⟨engine, found, -⟩ := map_eq_some_iff.mp isStarted
    exact (List.getElem?_eq_some_iff.mp found).1.le
  refine ⟨Nat.findGreatest (s.idOf · = some id) s.engines.length, ?_, ?_⟩
  · exact Nat.findGreatest_spec (P := (s.idOf · = some id)) (inRange n started) started
  · intro later behind isStarted
    exact Nat.findGreatest_is_greatest behind (inRange later isStarted) isStarted

variable {blocked : Finset Bytes}

theorem Newest.distinct (base : Base blocked s) (newest : Newest s) :
    s.snapshotDynamic.2.Nodup := by
  refine List.Nodup.map_on ?_ (List.Nodup.of_map _ base.once)
  intro entry member other member' same
  have latest := newest other member'
  rw [← same] at latest
  have sameEngine := (newest entry member).unique latest
  cases entry
  cases other
  cases same
  cases sameEngine
  rfl

theorem apart_of_base (base : Base (blockedIDs staticExtraIDs reservedIDs) s) (id : Bytes)
    (listed : id ∈ s.snapshotDynamic.2) :
    id ≠ ascii "primary" ∧ id ∉ reservedIDs ∧ id ∉ staticExtraIDs := by
  obtain ⟨entry, member, rfl⟩ := List.mem_map.mp listed
  obtain ⟨engine, found, isID⟩ := map_eq_some_iff.mp (base.listed entry member)
  obtain ⟨free, nonempty, trimmed⟩ := base.ids engine (mem_of_getElem? found)
  rw [isID] at free nonempty trimmed
  simp only [blockedIDs, Finset.mem_insert, List.mem_toFinset, mem_filter, List.mem_map,
    mem_append, not_or, not_and, decide_eq_true_eq] at free
  -- an identifier that is trimmed and not empty is blocked as it is written
  refine ⟨free.1, ?_, ?_⟩
  · intro reserved
    exact free.2 ⟨entry.id, .inl reserved, trimmed⟩ nonempty
  · intro static
    exact free.2 ⟨entry.id, .inr static, trimmed⟩ nonempty

theorem blocks_of_base (base : Base blocked s)
    {engine : Engine} (found : s.engines[n]? = some engine) (isRunning : engine.phase = .running)
    {wantID id : Bytes} {body : Snippet} {started : Nat} {s' : State}
    (added : s.add wantID body = some (.ok (id, started), s')) : id ≠ engine.id := by
  rcases add_cases added with ⟨error, seq, isError, -⟩ | ⟨id', seq, same, free, -⟩
  · cases isError
  · cases same
    rintro rfl
    exact free.unused (base.held n engine found (by simp [isRunning]))

theorem Newest.removes (base : Base blocked s) (newest : Newest s)
    (latest : s.IsLatest (trimSpace id) n) :
    (s.remove id).1 = .ok n ∨
      (s.remove id).1 = .error (.unknown (trimSpace id)) ∧ s.Stopped n := by
  obtain ⟨engine, found, isID⟩ := map_eq_some_iff.mp latest.started
  rcases remove_cases s id with ⟨-, isEmpty⟩ | ⟨isRemoved, -, notListed⟩ |
      ⟨before, entry, after, isSplit, isAsked, -, isRemoved⟩
  · have nonempty := (base.ids engine (mem_of_getElem? found)).2.1
    exact absurd (isID.trans isEmpty) nonempty
  · refine .inr ⟨congrArg Prod.fst isRemoved, ?_⟩
    rcases base.stopped n (List.getElem?_eq_some_iff.mp found).1 with listed | stopped
    · obtain ⟨entry, member, rfl⟩ := List.mem_map.mp listed
      have sameID := (base.listed entry member).symm.trans latest.started
      exact absurd (Option.some.inj sameID) (notListed entry member)
    · exact stopped
  · have member : entry ∈ s.entries := by simp [isSplit]
    have isLatest := newest entry member
    rw [isAsked] at isLatest
    rw [isRemoved, isLatest.unique latest]
    exact .inl rfl

/-- In the states that can be reached, handles are what the order of the listed engines gives. -/
theorem handles_iff_newest (base : Base (blockedIDs staticExtraIDs reservedIDs) s) :
    Handles staticExtraIDs reservedIDs s ↔ Newest s := by
  constructor
  · intro handles entry member
    obtain ⟨n, latest⟩ := exists_latest (base.listed entry member)
    obtain ⟨engine, found, isID⟩ := map_eq_some_iff.mp (base.listed entry member)
    have trimmed : trimSpace entry.id = entry.id :=
      isID ▸ (base.ids engine (mem_of_getElem? found)).2.2
    have removed := handles.removes entry.id n (trimmed.symm ▸ latest)
    rcases remove_cases s entry.id with ⟨isRemoved, -⟩ | ⟨-, -, notListed⟩ |
        ⟨before, other, after, isSplit, sameID, -, isRemoved⟩
    · rw [isRemoved] at removed
      rcases removed with isOk | ⟨isError, -⟩
      · cases isOk
      · cases isError
    · exact absurd trimmed.symm (notListed entry member)
    · rw [isRemoved] at removed
      have isOther : other ∈ s.entries := by simp [isSplit]
      obtain rfl : other = entry :=
        inj_on_of_nodup_map handles.distinct isOther member (sameID.trans trimmed)
      rcases removed with isOk | ⟨isError, -⟩
      · rwa [Except.ok.inj isOk]
      · cases isError
  · intro newest
    exact ⟨newest.distinct base, apart_of_base base,
      fun n engine found isRunning wantID body id started s' added =>
        blocks_of_base base found isRunning added,
      fun id n latest => newest.removes base latest⟩

theorem idOf_start (s : State) (id : Bytes) (seq : UInt64) (n : Nat) :
    (s.start id seq).idOf n = if n = s.engines.length then some id else s.idOf n := by
  simp only [idOf, start, getElem?_append]
  split
  · rename_i isOld
    rw [if_neg (by omega)]
  · rename_i notOld
    split
    · rename_i isNew
      simp [isNew]
    · rw [getElem?_eq_none (by simp; omega), getElem?_eq_none (by omega)]

theorem newest_start (base : Base blocked s) (newest : Newest s) (id : Bytes) (seq : UInt64) :
    Newest (s.start id seq) ↔ id ∉ s.entries.map (·.id) := by
  have engine_lt (entry : Entry) (member : entry ∈ s.entries) :
      entry.engine < s.engines.length := by
    obtain ⟨engine, found, -⟩ := map_eq_some_iff.mp (base.listed entry member)
    exact (List.getElem?_eq_some_iff.mp found).1
  constructor
  · -- the new engine is a later one under the same identifier
    intro newestAfter listed
    obtain ⟨entry, member, rfl⟩ := List.mem_map.mp listed
    have latest := newestAfter entry (mem_append_left _ member)
    apply latest.last s.engines.length (engine_lt entry member)
    rw [idOf_start, if_pos rfl]
  · intro notListed entry member
    rcases mem_append.mp member with old | new
    · have before := engine_lt entry old
      refine ⟨?_, ?_⟩
      · rw [idOf_start, if_neg (by omega)]
        exact (newest entry old).started
      · intro later behind
        rw [idOf_start]
        split
        · intro same
          exact notListed (List.mem_map.mpr ⟨entry, old, (Option.some.inj same).symm⟩)
        · exact (newest entry old).last later behind
    · cases mem_singleton.mp new
      refine ⟨?_, ?_⟩
      · rw [idOf_start, if_pos rfl]
      · intro later behind
        rw [idOf_start, if_neg (by simp only at behind; omega), idOf,
          getElem?_eq_none (by simp only at behind; omega)]
        intro isStarted
        cases isStarted

/-- A step leaves the listed engines the newest ones exactly if it meets the condition. -/
theorem newest_step {event : Event} {s' : State}
    (stepped : step event s = some s') (base : Base blocked s) (newest : Newest s) :
    Newest s' ↔ FreshAdd event s := by
  -- nothing is listed anew, and the engines keep their identifiers
  have kept (fewer : ∀ entry ∈ s'.entries, entry ∈ s.entries) (same : ∀ n, s'.idOf n = s.idOf n) :
      Newest s' := by
    intro entry member
    have before := newest entry (fewer entry member)
    exact ⟨(same _).trans before.started,
      fun later behind isID => before.last later behind ((same later).symm.trans isID)⟩
  cases event with
  | add wantID body =>
    obtain ⟨⟨result, s''⟩, added, same⟩ := map_eq_some_iff.mp stepped
    cases same
    simp only [FreshAdd, added]
    rcases add_cases added with ⟨error, seq, rfl, rfl⟩ | ⟨id, seq, rfl, free, rfl⟩
    · refine ⟨fun _ id started s'' isOk => ?_,
        fun _ => kept (fun _ member => member) fun _ => rfl⟩
      cases isOk
    · rw [newest_start base newest]
      constructor
      · rintro notListed _ _ _ ⟨⟩
        exact notListed
      · intro fresh
        exact fresh _ _ _ rfl
  | remove id =>
    cases stepped
    refine ⟨fun _ => trivial, fun _ => ?_⟩
    rcases remove_cases s id with ⟨isRemoved, -⟩ | ⟨isRemoved, -, -⟩ |
        ⟨before, entry, after, isSplit, -, -, isRemoved⟩
    · rw [isRemoved]
      exact newest
    · rw [isRemoved]
      exact newest
    · apply kept
      · intro other member
        rw [isRemoved] at member
        rw [isSplit]
        exact (List.Sublist.append_left (sublist_cons_self _ _) _).subset member
      · intro n
        rw [isRemoved]
        rfl
  | cancel n =>
    obtain ⟨engine, found, isStep⟩ := bind_eq_some_iff.mp stepped
    obtain ⟨-, same⟩ := ite_none_right_eq_some.mp isStep
    cases same
    exact ⟨fun _ => trivial, fun _ => kept (fun _ member => member)
      (Base.idOf_set { engine with cancelled := true } found rfl _ _)⟩
  | runReturns n =>
    obtain ⟨engine, found, isStep⟩ := bind_eq_some_iff.mp stepped
    obtain ⟨-, same⟩ := ite_none_right_eq_some.mp isStep
    cases same
    exact ⟨fun _ => trivial, fun _ => kept (fun _ member => member)
      (Base.idOf_set { engine with phase := .returned } found rfl _ _)⟩
  | release n =>
    obtain ⟨engine, found, isStep⟩ := bind_eq_some_iff.mp stepped
    obtain ⟨-, same⟩ := ite_none_right_eq_some.mp isStep
    cases same
    exact ⟨fun _ => trivial, fun _ => kept (fun _ member => member)
      (Base.idOf_set { engine with phase := .released } found rfl _ _)⟩

end Newest

/-- In a run from the start the identifiers are handles in every state exactly if no addition
takes an identifier that is still listed. -/
theorem always_handles_iff (staticExtraIDs reservedIDs : List Bytes) (events : List Event)
    (s : State) :
    Always step (Handles staticExtraIDs reservedIDs)
        (newLoadCoordinator staticExtraIDs reservedIDs) events s ↔
      Guarded step FreshAdd (newLoadCoordinator staticExtraIDs reservedIDs) events s := by
  have start := Base.initial staticExtraIDs reservedIDs
  have startNewest : Newest (newLoadCoordinator staticExtraIDs reservedIDs) := by
    intro entry member
    cases member
  apply always_iff_guarded_of_invariant _ start (fun _ _ _ stepped base => base.step stepped)
  · exact (handles_iff_newest start).mpr startNewest
  · intro event before after stepped base handles
    rw [handles_iff_newest (base.step stepped)]
    exact newest_step stepped base ((handles_iff_newest base).mp handles)

/-- A snippet of a load client that can be started. -/
def loadClient : Snippet where
  serverMode := some false
  prepares := true
  logs := true

/-- After the end of its run an engine stays listed while its identifier is free: the next engine
is listed under the same identifier, and the removal finds the old one. -/
theorem ended_engine_shares_id :
    ∃ events s, Run step (newLoadCoordinator [] []) events s ∧
      s.snapshotDynamic.2 = [ascii "load", ascii "load"] ∧
      s.IsLatest (ascii "load") 1 ∧ (s.remove (ascii "load")).1 = .ok 0 ∧
      ¬ Handles [] [] s := by
  refine ⟨[.add (ascii "load") loadClient, .runReturns 0, .release 0,
    .add (ascii "load") loadClient], _, .of_exec rfl, rfl, ⟨rfl, ?_⟩, rfl, ?_⟩
  · intro later behind
    rw [State.idOf, getElem?_eq_none (Nat.succ_le_of_lt behind)]
    intro isStarted
    cases isStarted
  · intro handles
    exact absurd handles.distinct (by decide)

/-- What no run breaks: the clients are bounded, reserved identifiers are not given out, engines
that hold an identifier do not share it, and every engine is listed or stopped. -/
structure Controlled (staticExtraIDs reservedIDs : List Bytes) (s : State) : Prop where
  bounded : s.entries.length ≤ maxDynamicLoadClients
  apart : ∀ id ∈ s.snapshotDynamic.2,
    id ≠ ascii "primary" ∧ id ∉ reservedIDs ∧ id ∉ staticExtraIDs
  single : ∀ (n m : Nat) (engine other : Engine), s.engines[n]? = some engine →
    s.engines[m]? = some other → engine.phase ≠ .released → other.phase ≠ .released →
      engine.id = other.id → n = m
  reached : ∀ n < s.engines.length, n ∈ s.snapshotDynamic.1 ∨ s.Stopped n

theorem bounded_step (stepped : step event s = some s')
    (bounded : s.entries.length ≤ maxDynamicLoadClients) :
    s'.entries.length ≤ maxDynamicLoadClients := by
  cases event with
  | add wantID body =>
    obtain ⟨⟨result, after⟩, added, rfl⟩ := map_eq_some_iff.mp stepped
    revert added
    fun_cases State.add s wantID body <;> rintro ⟨⟩
    case case8 room _ _ _ _ => exact length_append ▸ Nat.lt_of_not_le room
    all_goals exact bounded
  | remove id =>
    cases stepped
    grind [remove_cases s id]
  | cancel n | runReturns n | release n =>
    obtain ⟨engine, -, isStep⟩ := bind_eq_some_iff.mp stepped
    obtain ⟨-, ⟨⟩⟩ := ite_none_right_eq_some.mp isStep
    exact bounded

theorem controlled_of_run {staticExtraIDs reservedIDs : List Bytes} {events : List Event}
    {s : State} (run : Run step (newLoadCoordinator staticExtraIDs reservedIDs) events s) :
    Controlled staticExtraIDs reservedIDs s := by
  have base := run.invariant (.initial staticExtraIDs reservedIDs) fun _ _ _ => Base.step
  exact ⟨run.invariant (Nat.zero_le _) fun _ _ _ => bounded_step, apart_of_base base,
    base.single, base.stopped⟩

theorem removed_client_controlled :
    ∃ events s, Run step (newLoadCoordinator [] []) events s ∧ s.cancelling = [0] ∧
      Controlled [] [] s := by
  have run : Run step (newLoadCoordinator [] [])
    [.add [] loadClient, .remove (ascii "dyn-1")] _ := .of_exec rfl
  exact ⟨_, _, run, rfl, controlled_of_run run⟩

end Gossipper.Launcher.LoadCoordinator
