/-
Module: Gossipper.Engine.CallLimit
Purpose: When the server listeners keep to the call limit: the counters that the
  accept and read loops compare with `TotalCalls`, against the number of calls that
  are executed in a whole run.
Trusted boundary: none beyond Gossipper.Engine.Listeners
Main exports: obeys, Sequential, calls_within_limit
-/
import Gossipper.Engine.Coordinator

namespace Gossipper.Engine.Listeners

open Go Sip Scenario Transition List

variable {cfg : Config} {s : State}

/-- No call came over a WebSocket connection. -/
def State.noWS (s : State) : Bool :=
  s.calls.all fun call => !call.isWS

/-- When opening one more session keeps to the limit and to the numbering.  The single
read loops count the sessions that are still open, so none may have ended; the
WebSocket listeners count those of one connection and have no limit of their own. -/
def Config.mayOpen (cfg : Config) (s : State) (kind : Kind) (listener connection : Nat) : Bool :=
  match kind with
  | .udp => s.noWS
  | .tcpShared | .tlsShared => cfg.isMulti || s.calls.all (·.isIn (.listener listener))
  | .wsShared | .wsPerConn =>
    s.accepted = 0 && s.calls.all (·.isIn (.connection listener connection)) &&
      s.calls.length < cfg.totalCalls
  | .tcpPerConn | .tlsPerConn => true

section Run

variable [CaseTables] {event : Event} {next : State}

/-- The step starts a call or takes a number for one. -/
def admits (cfg : Config) (event : Event) (s : State) : Bool :=
  (step cfg event s).any fun next =>
    s.calls.length < next.calls.length || s.accepted < next.accepted

/-- The condition on a step: a message opens a session only where that is allowed, the coordinator
admits calls only while there is none over WebSocket, and a single per-connection listener is not
disabled.  Nothing is asked of a step that admits no call. -/
def obeys (cfg : Config) (event : Event) (s : State) : Bool :=
  match event with
  | .message listener connection _ _ _ =>
    match cfg.listeners[listener]? with
    | none => true
    | some kind => !admits cfg event s || cfg.mayOpen s kind listener connection
  | .connect listener _ acceptNew =>
    match cfg.listeners[listener]? with
    | none => true
    | some kind =>
      !kind.isPerConn || if cfg.isMulti then !admits cfg event s || s.noWS else acceptNew
  | .reserve _ | .register _ => !admits cfg event s || s.noWS
  | _ => true

theorem admits_of_step (stepped : step cfg event s = some next)
    (more : s.calls.length < next.calls.length ∨ s.accepted < next.accepted) :
    admits cfg event s = true := by
  simpa [admits, stepped] using more

/-- A message that opens a session does so only where that is allowed. -/
theorem mayOpen_of_obeys (known : cfg.listeners[listener]? = some kind)
    (admitted : admits cfg (.message listener connection msg acceptNew firstCmd) s = true)
    (obeying : obeys cfg (.message listener connection msg acceptNew firstCmd) s) :
    cfg.mayOpen s kind listener connection = true := by
  simpa only [obeys, known, admitted, Bool.not_true, Bool.false_or] using obeying

theorem connect_obeys
    (known : cfg.listeners[listener]? = some kind) (perConn : kind.isPerConn = true)
    (obeying : obeys cfg (.connect listener connection acceptNew) s) :
    (if cfg.isMulti then !admits cfg (.connect listener connection acceptNew) s || s.noWS
      else acceptNew) = true := by
  simpa only [obeys, known, perConn, Bool.not_true, Bool.false_or] using obeying

end Run

/-! ### Calls numbered in the order in which they start -/

structure Sequential (cfg : Config) (s : State) : Prop where
  numbers : s.calls.map Call.number = List.range' 1 s.calls.length
  limit : s.calls.length ≤ max 0 cfg.totalCalls

namespace Sequential

theorem start (sequential : Sequential cfg s)
    (number : call.number = s.calls.length + 1) (room : s.calls.length < cfg.totalCalls) :
    Sequential cfg (s.start call) := by
  constructor
  · simp only [State.start, map_append, map_singleton, length_append,
      length_singleton, sequential.numbers, number]
    rw [range'_concat, Nat.one_mul, Nat.add_comm 1]
  · simp only [State.start, length_append, length_singleton]
    omega

theorem setCall (sequential : Sequential cfg s)
    (found : s.calls[i]? = some old) (same : new.number = old.number) :
    Sequential cfg (s.setCall i new) := by
  constructor
  · simp only [State.setCall, length_set]
    rw [Threads.map_same _ found same]
    exact sequential.numbers
  · simp only [State.setCall, length_set]
    exact sequential.limit

theorem finishCallUnlocked (sequential : Sequential cfg s) :
    Sequential cfg (s.finishCallUnlocked cfg) := by
  simp only [State.finishCallUnlocked]
  split <;> exact ⟨sequential.numbers, sequential.limit⟩

theorem nodup (sequential : Sequential cfg s) : (s.calls.map Call.number).Nodup := by
  rw [sequential.numbers]
  exact nodup_range' 1

end Sequential

theorem sessionCount_eq_length (all : s.calls.all (·.isIn table)) :
    s.sessionCount table = s.calls.length := by
  apply countP_eq_length.mpr
  exact all_eq_true.mp all

/-! ### One listener without the coordinator -/

/-- No read loop is between two sections, and the counter of the accept loop is the
number of calls. -/
structure Alone (cfg : Config) (kind : Kind) (s : State) : Prop where
  resting : ∀ reader ∈ s.readers, reader = .idle ∨ reader = .returned
  sequential : Sequential cfg s
  counted : kind.isPerConn = true → s.accepted = s.calls.length

section Alone

variable {event : Event} {next : State} {kind : Kind}

theorem single_listener {listener : Nat} {other : Kind} (single : cfg.server = .single kind)
    (known : cfg.listeners[listener]? = some other) : other = kind := by
  have member := mem_of_getElem? known
  simp only [Config.listeners, single, mem_singleton] at member
  exact member

namespace Alone

theorem reader {listener : Nat} {found : Reader} (alone : Alone cfg kind s)
    (there : s.readers[listener]? = some found) : found = .idle ∨ found = .returned :=
  alone.resting found (mem_of_getElem? there)

theorem setCall (alone : Alone cfg kind s)
    (found : s.calls[i]? = some old) (same : new.number = old.number) :
    Alone cfg kind (s.setCall i new) := by
  refine ⟨alone.resting, alone.sequential.setCall found same, ?_⟩
  intro perConn
  simp only [State.setCall, length_set]
  exact alone.counted perConn

theorem finishCallUnlocked (alone : Alone cfg kind s) :
    Alone cfg kind (s.finishCallUnlocked cfg) := by
  refine ⟨?_, alone.sequential.finishCallUnlocked, ?_⟩
  · simp only [State.finishCallUnlocked]
    split <;> exact alone.resting
  · simp only [State.finishCallUnlocked]
    split <;> exact alone.counted

theorem coordination [CaseTables] (alone : Alone cfg kind s) (single : cfg.server = .single kind)
    (notUDP : kind ≠ .udp) (limited : cfg.unlimitedCalls = false)
    (change : Coordination cfg s event next) : Alone cfg kind next := by
  cases change with
  | quiet => exact ⟨alone.resting, ⟨alone.sequential.numbers, alone.sequential.limit⟩, alone.counted⟩
  | checked multi =>
    simp [Config.isMulti, single] at multi
  | rejected found | reserved found | registered found | taken found | refunded found =>
    rcases alone.reader found with impossible | impossible <;> cases impossible
  | returned =>
    refine ⟨Threads.forall_move alone.resting (.inr rfl), ?_, alone.counted⟩
    exact ⟨alone.sequential.numbers, alone.sequential.limit⟩
  | pumped known => exact absurd (single_listener single known).symm notUDP
  | connected known perConn room =>
    obtain rfl := single_listener single known
    have counted := alone.counted perConn
    have below := below_limit room limited
    refine ⟨alone.resting, ?_, ?_⟩
    · refine Sequential.start ⟨alone.sequential.numbers, alone.sequential.limit⟩ ?_ ?_
      · simp [counted]
      · simp only
        omega
    · intro _
      simp only [State.start, length_append, length_singleton]
      omega
  | executes found | unregistered found | left found => exact alone.setCall found rfl
  | finished found =>
    apply Alone.finishCallUnlocked
    exact alone.setCall found rfl

theorem step [CaseTables] (alone : Alone cfg kind s) (single : cfg.server = .single kind)
    (notUDP : kind ≠ .udp) (limited : cfg.unlimitedCalls = false) (obeying : obeys cfg event s)
    (stepped : step cfg event s = some next) : Alone cfg kind next := by
  have notMulti : cfg.isMulti = false := by simp [Config.isMulti, single]
  cases step_change stepped with
  | coordination change => exact alone.coordination single notUDP limited change
  | refused known perConn =>
    have allowed := connect_obeys known perConn obeying
    simp [notMulti] at allowed
  | @opened listener connection _ _ _ other _ known _ notPerConn found fresh room =>
    obtain rfl := single_listener single known
    have admitted := admits_of_step stepped (.inl (by simp [State.start]))
    have may := mayOpen_of_obeys known admitted obeying
    have all : s.calls.all (·.isIn (other.table listener connection)) = true ∧
        s.calls.length < cfg.totalCalls := by
      cases other with
      | udp => exact absurd rfl notUDP
      | tcpShared | tlsShared =>
        simp only [Config.mayOpen, notMulti, Bool.false_or] at may
        have below := room rfl
        simp only [Kind.table, sessionCount_eq_length may] at below
        simp [Config.serverRejectNew, UdpServer.serverRejectNew, limited] at below
        exact ⟨may, below⟩
      | wsShared | wsPerConn =>
        simp only [Config.mayOpen, Bool.and_eq_true, decide_eq_true_eq] at may
        exact ⟨may.1.2, may.2⟩
      | tcpPerConn | tlsPerConn => cases notPerConn
    refine ⟨alone.resting, alone.sequential.start ?_ all.2, ?_⟩
    · simp [sessionCount_eq_length all.1]
    · intro perConn
      rw [perConn] at notPerConn
      cases notPerConn

end Alone

end Alone

/-! ### Listeners with the coordinator, and WebSocket listeners beside them -/

/-- All calls came over WebSocket connections and the coordinator has given out
nothing. -/
structure OverWS (cfg : Config) (s : State) : Prop where
  unused : s.accepted = 0
  unnumbered : ∀ reader ∈ s.readers, reader.number = none
  sequential : Sequential cfg s
  nonempty : s.calls ≠ []
  all : ∀ call ∈ s.calls, call.isWS = true

/-- All calls got their numbers from the coordinator. -/
structure OverCoordinator (cfg : Config) (s : State) : Prop where
  numbers : Numbers cfg s
  free : Free s
  apart : ∀ call ∈ s.calls, call.isWS = false

namespace OverWS

theorem not_noWS (shared : OverWS cfg s) : s.noWS ≠ true := by
  intro without
  obtain ⟨call, member⟩ := exists_mem_of_ne_nil _ shared.nonempty
  have ws := shared.all call member
  simp [State.noWS] at without
  simp [without call member] at ws

theorem setReader (shared : OverWS cfg s)
    (unnumbered : new.number = none) : OverWS cfg (s.setReader listener new) :=
  ⟨shared.unused, Threads.forall_move shared.unnumbered unnumbered,
    ⟨shared.sequential.numbers, shared.sequential.limit⟩, shared.nonempty, shared.all⟩

theorem setCall (shared : OverWS cfg s)
    (found : s.calls[i]? = some old) (number : new.number = old.number)
    (table : new.table = old.table) : OverWS cfg (s.setCall i new) := by
  refine ⟨shared.unused, shared.unnumbered, shared.sequential.setCall found number, ?_, ?_⟩
  · simp only [State.setCall, ne_eq, set_eq_nil_iff]
    exact shared.nonempty
  · refine Threads.forall_move shared.all ?_
    simp only [Call.isWS, table]
    exact shared.all old (mem_of_getElem? found)

theorem finishCallUnlocked (shared : OverWS cfg s) : OverWS cfg (s.finishCallUnlocked cfg) := by
  simp only [State.finishCallUnlocked]
  split
  all_goals
    exact ⟨shared.unused, shared.unnumbered, ⟨shared.sequential.numbers, shared.sequential.limit⟩,
      shared.nonempty, shared.all⟩

end OverWS

/-- The servers with a coordinator. -/
def Config.HasCoordinator (cfg : Config) : Prop :=
  cfg.isMulti = true ∨ cfg.server = .single .udp

theorem Config.HasCoordinator.multi {listener : Nat} {kind : Kind} (has : cfg.HasCoordinator)
    (known : cfg.listeners[listener]? = some kind) (other : kind ≠ .udp) : cfg.isMulti = true := by
  rcases has with multi | single
  · exact multi
  · exact absurd (single_listener single known) other

/-- A WebSocket connection opens a session where that is allowed. -/
theorem OverWS.opened (unused : s.accepted = 0)
    (unnumbered : ∀ reader ∈ s.readers, reader.number = none) (sequential : Sequential cfg s)
    (all : s.calls.all (·.isIn table)) (isWS : ∀ call : Call, call.isIn table = true → call.isWS = true)
    (room : s.calls.length < cfg.totalCalls) (number : call.number = s.sessionCount table + 1)
    (inside : call.isIn table = true) : OverWS cfg (s.start call) := by
  refine ⟨unused, unnumbered, sequential.start ?_ room, ?_, ?_⟩
  · rw [number, sessionCount_eq_length all]
  · simp [State.start]
  · intro other member
    apply isWS
    rcases mem_append.mp member with old | new
    · exact all_eq_true.mp all other old
    · rw [mem_singleton.mp new]
      exact inside

section Multi

variable [CaseTables] {event : Event} {next : State}

theorem OverWS.coordination (shared : OverWS cfg s) (has : cfg.HasCoordinator)
    (obeying : obeys cfg event s) (stepped : step cfg event s = some next)
    (change : Coordination cfg s event next) : OverWS cfg next := by
  have without (more : s.calls.length < next.calls.length ∨ s.accepted < next.accepted)
      (allowed : (!admits cfg event s || s.noWS) = true) : OverWS cfg next := by
    rw [admits_of_step stepped more] at allowed
    exact absurd allowed shared.not_noWS
  cases change with
  | quiet =>
    exact ⟨shared.unused, shared.unnumbered,
      ⟨shared.sequential.numbers, shared.sequential.limit⟩, shared.nonempty, shared.all⟩
  | checked | rejected | returned | taken => exact shared.setReader rfl
  | @refunded listener found =>
    have moved : OverWS cfg (s.setReader listener .idle) := shared.setReader rfl
    refine ⟨?_, moved.unnumbered, ⟨moved.sequential.numbers, moved.sequential.limit⟩,
      moved.nonempty, moved.all⟩
    simp [shared.unused]
  | reserved => exact without (.inr (Nat.lt_succ_self _)) obeying
  | registered => exact without (.inl (by simp [State.start, State.setReader])) obeying
  | pumped known =>
    have admitted := admits_of_step stepped (.inr (Nat.lt_succ_self _))
    exact absurd (mayOpen_of_obeys known admitted obeying) shared.not_noWS
  | connected known perConn =>
    have multi := has.multi known (by rintro rfl; cases perConn)
    have allowed := connect_obeys known perConn obeying
    rw [if_pos multi] at allowed
    exact without (.inr (Nat.lt_succ_self _)) allowed
  | executes found | unregistered found | left found => exact shared.setCall found rfl rfl
  | finished found =>
    apply OverWS.finishCallUnlocked
    exact shared.setCall found rfl rfl

theorem OverCoordinator.coordination (shared : OverCoordinator cfg s)
    (change : Coordination cfg s event next) : OverCoordinator cfg next := by
  obtain ⟨numbers, free⟩ := shared.numbers.coordination shared.free change
  refine ⟨numbers, free, ?_⟩
  have started : ∀ call : Call, call.isWS = false →
      ∀ other ∈ s.calls ++ [call], other.isWS = false := by
    intro call apart other member
    rcases mem_append.mp member with old | new
    · exact shared.apart other old
    · rw [mem_singleton.mp new]
      exact apart
  have moved : ∀ (i : Nat) (old new : Call), s.calls[i]? = some old → new.table = old.table →
      ∀ other ∈ s.calls.set i new, other.isWS = false := by
    intro i old new found table
    refine Threads.forall_move shared.apart ?_
    simp only [Call.isWS, table]
    exact shared.apart old (mem_of_getElem? found)
  cases change with
  | quiet | checked | rejected | returned | reserved | taken | refunded => exact shared.apart
  | registered | pumped | connected => exact started _ rfl
  | executes found | unregistered found | left found => exact moved _ _ _ found rfl
  | finished found =>
    simp only [State.finishCallUnlocked]
    split <;> exact moved _ _ _ found rfl

theorem shared_step (has : cfg.HasCoordinator)
    (shared : OverCoordinator cfg s ∨ OverWS cfg s) (obeying : obeys cfg event s)
    (stepped : step cfg event s = some next) :
    OverCoordinator cfg next ∨ OverWS cfg next := by
  cases step_change stepped with
  | coordination change =>
    rcases shared with shared | shared
    · exact .inl (shared.coordination change)
    · exact .inr (shared.coordination has obeying stepped change)
  | refused known perConn single =>
    have multi := has.multi known (by rintro rfl; cases perConn)
    rw [multi] at single
    cases single
  | @opened listener connection _ _ _ kind _ known alone notPerConn found fresh _ =>
    have admitted := admits_of_step stepped (.inl (by simp [State.start]))
    have may := mayOpen_of_obeys known admitted obeying
    have multi := has.multi known (by rintro rfl; cases alone)
    have ws : kind.isWS = true := by
      cases kind <;> simp [Config.coordinates, multi, Kind.isWS] at alone ⊢
    have allowed : s.accepted = 0 ∧
        s.calls.all (·.isIn (.connection listener connection)) = true ∧
        s.calls.length < cfg.totalCalls := by
      cases kind <;> cases ws
      all_goals
        simp only [Config.mayOpen, Bool.and_eq_true, decide_eq_true_eq] at may
        exact ⟨may.1.1, may.1.2, may.2⟩
    have table : kind.table listener connection = .connection listener connection := by
      cases kind <;> cases ws <;> rfl
    obtain ⟨unused, all, room⟩ := allowed
    rw [table]
    refine .inr (OverWS.opened unused ?_ ?_ all (fun _ inside => ?_) room rfl ?_)
    · rcases shared with shared | shared
      · -- With no number given out, no read loop holds one.
        have total := shared.numbers.total
        intro reader member
        have none : s.readers.countP (·.number.isSome) = 0 := by omega
        simpa using countP_eq_zero.mp none reader member
      · exact shared.unnumbered
    · rcases shared with shared | shared
      · have empty : s.calls = [] := eq_nil_of_length_eq_zero (by
          have total := shared.numbers.total
          omega)
        exact ⟨by simp [empty], by rw [empty]; exact Int.le_max_left 0 _⟩
      · exact shared.sequential
    · simp only [Call.isIn, Bool.and_eq_true, decide_eq_true_eq] at inside
      simp [Call.isWS, inside.1]
    · simp [Call.isIn]

end Multi

/-! ### The limit -/

section Limit

variable [CaseTables]

/-- A refused connection changes nothing. -/
theorem refused_unchanged {listener connection next}
    (obeying : obeys cfg (.connect listener connection false) s)
    (stepped : step cfg (.connect listener connection false) s = some next) : next = s := by
  simp only [step] at stepped
  split at stepped
  · rename_i kind known _
    unfold onConnect at stepped
    split at stepped
    · cases stepped
      rfl
    · split at stepped
      · rename_i perConn
        have allowed := connect_obeys known perConn obeying
        cases multi : cfg.isMulti with
        | true =>
          simp only [multi, if_true, Bool.not_false] at stepped
          exact (Option.some.inj stepped).symm
        | false => simp [multi] at allowed
      · cases stepped
  · cases stepped

/-- What the limit is about: how many calls are executed in the run, under which
numbers. -/
def State.Within (cfg : Config) (s : State) : Prop :=
  s.calls.length ≤ max 0 cfg.totalCalls ∧ (s.calls.map Call.number).Nodup

theorem within_of_guarded (limited : cfg.unlimitedCalls = false)
    (run : Guarded (step cfg) (fun event s => obeys cfg event s = true) (.initial cfg) events s) :
    s.Within cfg := by
  have coordinated : cfg.HasCoordinator → s.Within cfg := by
    intro has
    have start : OverCoordinator cfg (.initial cfg) :=
      ⟨.initial cfg, .initial cfg, by simp [State.initial]⟩
    have shared : (fun s => OverCoordinator cfg s ∨ OverWS cfg s) s := by
      apply run.invariant (.inl start)
      intro _ _ _ obeying stepped shared
      exact shared_step has shared obeying stepped
    rcases shared with shared | shared
    · have total := shared.numbers.total
      have limit := shared.numbers.limit limited
      exact ⟨by omega, shared.numbers.nodup⟩
    · exact ⟨shared.sequential.limit, shared.sequential.nodup⟩
  cases server : cfg.server with
  | multi kinds => exact coordinated (.inl (by simp [Config.isMulti, server]))
  | single kind =>
    by_cases udp : kind = .udp
    · subst udp
      exact coordinated (.inr server)
    · have start : Alone cfg kind (.initial cfg) := by
        refine ⟨?_, ⟨rfl, Int.le_max_left 0 _⟩, fun _ => rfl⟩
        simp [State.initial]
      have alone : Alone cfg kind s :=
        run.invariant start fun _ _ _ obeying stepped alone =>
          alone.step server udp limited obeying stepped
      exact ⟨alone.sequential.limit, alone.sequential.nodup⟩

/-- With `TotalCalls` as the limit, at most that many calls are executed, under distinct
numbers, and a connection that a disabled listener refuses changes nothing: in every
state of every run whose steps all meet the condition. -/
theorem calls_within_limit {cfg : Config} {events : List Event} {s : State}
    (limited : cfg.unlimitedCalls = false)
    (run : Guarded (step cfg) (fun event s => obeys cfg event s = true) (.initial cfg) events s) :
    s.executedCalls.length ≤ max 0 cfg.totalCalls ∧ (s.executedCalls.map Call.number).Nodup ∧
      ∀ listener connection next, obeys cfg (.connect listener connection false) s = true →
        step cfg (.connect listener connection false) s = some next → next = s := by
  obtain ⟨most, distinct⟩ := within_of_guarded limited run
  refine ⟨?_, ?_, ?_⟩
  · exact Int.le_trans (Int.ofNat_le.mpr (length_filter_le _ _)) most
  · exact distinct.sublist (filter_sublist.map _)
  · intro listener connection next obeying stepped
    exact refused_unchanged obeying stepped

end Limit

section Concrete

attribute [local instance] CaseTables.asciiOnly

/-- One listener of a kind, for so many calls. -/
def oneListener (kind : Kind) (totalCalls : Int) : Config :=
  ⟨⟨totalCalls, false, false⟩, .single kind⟩

/-- Two calls on a shared TCP connection that overlap. -/
theorem overlapping_within_limit :
    ∃ s, Guarded (step (oneListener .tcpShared 2))
        (fun event s => obeys (oneListener .tcpShared 2) event s = true)
        (.initial (oneListener .tcpShared 2))
        [.message 0 0 (invite "x") true recvInvite, .message 0 0 (invite "y") true recvInvite,
          .finish 0, .finish 1] s ∧
      (s.executedCalls.length : Int) ≤ max 0 2 ∧ (s.executedCalls.map Call.number).Nodup ∧
      ∀ listener connection next,
        obeys (oneListener .tcpShared 2) (.connect listener connection false) s = true →
          step (oneListener .tcpShared 2) (.connect listener connection false) s = some next →
            next = s := by
  have possible : (exec (restrict (step (oneListener .tcpShared 2))
      (obeys (oneListener .tcpShared 2)))
      [.message 0 0 (invite "x") true recvInvite, .message 0 0 (invite "y") true recvInvite,
        .finish 0, .finish 1] (.initial (oneListener .tcpShared 2))).isSome := by decide
  have run := Guarded.of_isSome possible
  exact ⟨_, run, calls_within_limit rfl run⟩

/-- With the limit 1, a shared TCP listener executes two calls, both under number 1,
when the first has ended before the second starts; a per-connection listener that
refuses a connection takes no other one; a WebSocket connection executes two calls. -/
theorem calls_beyond_limit :
    (exec (step (oneListener .tcpShared 1))
        [.message 0 0 (invite "x") true recvInvite, .finish 0,
          .message 0 0 (invite "y") true recvInvite]
        (.initial (oneListener .tcpShared 1))).map
      (fun s => s.executedCalls.map Call.number) = some [1, 1] ∧
    (exec (step (oneListener .tcpPerConn 1)) [.connect 0 0 false]
        (.initial (oneListener .tcpPerConn 1))).map
      (fun s => (s.calls.length, (step (oneListener .tcpPerConn 1) (.connect 0 1 true) s).isSome)) =
        some (0, false) ∧
    (exec (step (oneListener .wsShared 1))
        [.connect 0 0 true, .message 0 0 (invite "x") true recvInvite,
          .message 0 0 (invite "y") true recvInvite]
        (.initial (oneListener .wsShared 1))).map
      (fun s => s.executedCalls.map Call.number) = some [1, 2] := by
  refine ⟨by decide, by decide, by decide⟩

end Concrete

end Gossipper.Engine.Listeners
