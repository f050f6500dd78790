/-
Module: Gossipper.Media.Continuity
Purpose: When a stream that was started goes on until its own end: a loop that
  returns late stops whatever the session holds then.
Trusted boundary: none
Main exports: State.Keeps, Settled, keeps_of_settled_starts, keeps_iff_one_start
-/
import Gossipper.Media.Session

namespace Gossipper.Media

open Transition List

namespace State

/-- The session runs the stream of a start, and its socket is open. -/
structure Serves (s : State) (number : Nat) : Prop where
  stream : s.session.stream = some number
  running : s.session.running = true
  opened : number ∈ s.sockets

instance (s : State) (number : Nat) : Decidable (s.Serves number) :=
  decidable_of_iff
    (s.session.stream = some number ∧ s.session.running = true ∧ number ∈ s.sockets)
    ⟨fun ⟨stream, running, opened⟩ => ⟨stream, running, opened⟩,
      fun serves => ⟨serves.stream, serves.running, serves.opened⟩⟩

/-- A start that returned without an error and is not over is served. -/
def Keeps (s : State) : Prop :=
  ∀ number ∈ s.expected, s.Serves number

instance (s : State) : Decidable s.Keeps :=
  inferInstanceAs (Decidable (∀ number ∈ s.expected, s.Serves number))

/-- The loop of a start runs, and all others have run their deferred `Stop`. -/
structure OnlyRuns (s : State) (number : Nat) : Prop where
  runs : s.loops[number]? = some .running
  others : ∀ other phase, other ≠ number → s.loops[other]? = some phase → phase = .gone

end State

/-! ### Starts that wait for the earlier loops -/

/-- The fields of the session are set only when every earlier loop is gone. -/
def WaitsForLoops (event : Event) (s : State) : Prop :=
  event = .proceed → ∀ echoMode, s.thread = .opening echoMode .started →
    ∀ phase ∈ s.loops, phase = .gone

/-- What such starts keep: an expected stream is served and its loop is the only one
left; between the critical section of a start and its loop there is no loop at all. -/
structure Settled (s : State) : Prop where
  expected : ∀ number, s.expected = some number →
    s.thread = .idle ∧ s.Serves number ∧ s.OnlyRuns number
  spawning : s.thread = .spawning →
    s.Serves s.loops.length ∧ ∀ phase ∈ s.loops, phase = .gone

namespace Settled

variable {s : State}

theorem keeps (settled : Settled s) : s.Keeps := by
  intro number isExpected
  exact (settled.expected number isExpected).2.1

theorem of_none (none : s.expected = none) (thread : s.thread ≠ .spawning) : Settled s where
  expected := by
    intro number isExpected
    rw [none] at isExpected
    cases isExpected
  spawning := fun isSpawning => absurd isSpawning thread

theorem expected_none (settled : Settled s) (busy : s.thread ≠ .idle) : s.expected = none := by
  cases isExpected : s.expected with
  | none => rfl
  | some number => exact absurd (settled.expected number isExpected).1 busy

variable {number : Nat}

/-- A loop that still moves is the loop of the expected start. -/
theorem moving (settled : Settled s)
    (found : s.loops[number]? = some phase) (moves : phase ≠ .gone) :
    s.thread ≠ .spawning ∧
      ∀ other, s.expected = some other → other = number ∧ phase = .running := by
  constructor
  · intro isSpawning
    exact moves ((settled.spawning isSpawning).2 phase (mem_of_getElem? found))
  · intro other isExpected
    have only := (settled.expected other isExpected).2.2
    by_cases same : number = other
    · subst same
      rw [only.runs] at found
      cases found
      exact ⟨rfl, rfl⟩
    · exact absurd (only.others number phase same found) moves

/-- A loop past its return is not that of an expected start, so there is none. -/
theorem leaving (settled : Settled s)
    (found : s.loops[number]? = some phase) (moves : phase ≠ .gone)
    (returned : phase ≠ .running) : s.expected = none ∧ s.thread ≠ .spawning := by
  obtain ⟨thread, isExpected⟩ := settled.moving found moves
  refine ⟨?_, thread⟩
  cases expects : s.expected with
  | none => rfl
  | some other => exact absurd (isExpected other expects).2 returned

/-- Only the stream, the flag, the sockets, the loops, the place of the goroutine and the
expected start matter. -/
theorem of_session (settled : Settled s) (stream : session.stream = s.session.stream)
    (running : session.running = s.session.running) :
    Settled { s with session := session, script := script } where
  expected := by
    intro number isExpected
    obtain ⟨idle, serves, only⟩ := settled.expected number isExpected
    exact ⟨idle, ⟨stream.trans serves.stream, running.trans serves.running, serves.opened⟩,
      only.runs, only.others⟩
  spawning := by
    intro isSpawning
    obtain ⟨serves, gone⟩ := settled.spawning isSpawning
    exact ⟨⟨stream.trans serves.stream, running.trans serves.running, serves.opened⟩, gone⟩

/-! One lemma for each kind of step. -/

section

variable (settled : Settled s)

include settled

theorem beginNext (idle : s.thread = .idle) : Settled (s.beginNext action rest) := by
  have notSpawning : s.thread ≠ .spawning := by
    rw [idle]
    exact Thread.noConfusion
  cases action with
  | pause =>
    apply settled.of_session
    · simp only [Session.pause]
      split <;> rfl
    · simp only [Session.pause]
      split <;> rfl
  | resume =>
    apply settled.of_session
    · simp only [Session.resume]
      split <;> rfl
    · simp only [Session.resume]
      split <;> rfl
  | stop | echo opens => exact of_none rfl Thread.noConfusion
  | start kind outcome =>
    cases outcome with
    | rejected => exact of_none rfl notSpawning
    | noSocket | srtpFailed | started => exact of_none rfl Thread.noConfusion
  | dtmf outcome =>
    cases outcome with
    | rejected | empty => exact of_none rfl notSpawning
    | noSocket | interrupted | sent => exact of_none rfl Thread.noConfusion

theorem close {taken next} (closing : s.thread = .closing taken next) :
    Settled ((s.close taken).continueWith next) := by
  have none : s.expected = none := settled.expected_none (by rw [closing]; exact nofun)
  cases next <;> exact of_none none Thread.noConfusion

theorem openStream (opening : s.thread = .opening echoMode outcome)
    (waits : WaitsForLoops .proceed s) : Settled (s.openStream echoMode outcome) := by
  have none : s.expected = none := settled.expected_none (by rw [opening]; exact nofun)
  cases outcome with
  | started =>
    refine ⟨?_, ?_⟩
    · intro number isExpected
      have : s.expected = some number := isExpected
      rw [none] at this
      cases this
    · intro _
      exact ⟨⟨rfl, rfl, mem_cons_self⟩, waits rfl echoMode opening⟩
  | srtpFailed | noSocket | rejected => exact of_none none Thread.noConfusion

theorem spawn (isSpawning : s.thread = .spawning) : Settled s.spawn := by
  obtain ⟨serves, gone⟩ := settled.spawning isSpawning
  refine ⟨?_, Thread.noConfusion⟩
  intro number isExpected
  obtain rfl : s.loops.length = number := Option.some.inj isExpected
  refine ⟨rfl, ⟨serves.stream, serves.running, serves.opened⟩, ?_, ?_⟩
  · exact getElem?_concat_length
  · intro other phase different found
    have found : (s.loops ++ [LoopPhase.running])[other]? = some phase := found
    rw [getElem?_append] at found
    split at found
    · exact gone phase (mem_of_getElem? found)
    · have isLast := (List.getElem?_eq_some_iff.mp found).1
      simp only [length_singleton] at isLast
      omega

theorem finishLoop (runs : s.loops[number]? = some .running) : Settled (s.finishLoop number) := by
  obtain ⟨thread, isExpected⟩ := settled.moving runs LoopPhase.noConfusion
  refine of_none ?_ thread
  simp only [State.finishLoop]
  split
  · rfl
  · rename_i different
    cases expects : s.expected with
    | none => rfl
    | some other =>
      obtain ⟨rfl, _⟩ := isExpected other expects
      exact absurd expects different

end

theorem step {event after} (waits : WaitsForLoops event s)
    (stepped : step event s = some after) (settled : Settled s) : Settled after := by
  cases step_stepped stepped with
  | begin idle _ => exact settled.beginNext idle
  | close closing => exact settled.close closing
  | opens opening => exact settled.openStream opening waits
  | spawn isSpawning => exact settled.spawn isSpawning
  | endSending sending =>
    have none : s.expected = none := settled.expected_none (by rw [sending]; exact nofun)
    exact of_none none Thread.noConfusion
  | stop | endCall => exact of_none rfl Thread.noConfusion
  | finish runs => exact settled.finishLoop runs
  | loopStop exits =>
    obtain ⟨none, thread⟩ := settled.leaving exits LoopPhase.noConfusion LoopPhase.noConfusion
    exact of_none none thread
  | loopClose closing =>
    obtain ⟨none, thread⟩ := settled.leaving closing LoopPhase.noConfusion LoopPhase.noConfusion
    exact of_none none thread
  | count | countDtmf => exact settled.of_session rfl rfl

end Settled

variable {script : List Action} {s : State}

theorem keeps_of_settled_starts {events}
    (run : Guarded step WaitsForLoops (.init script) events s) : s.Keeps := by
  have settled : Settled s := run.invariant (Settled.of_none rfl Thread.noConfusion)
    fun _ _ _ waits stepped before => before.step waits stepped
  exact settled.keeps

/-! ### How many streams a call starts -/

/-- The starts among the actions that the call gets to: an action that fails ends it. -/
def startsOf (script : List Action) : Nat :=
  (script.takeWhile fun action => !action.fails).countP Action.starts

/-- The start that the goroutine of the call is in, if it will succeed. -/
def Thread.starting : Thread → Nat
  | .closing _ (.opens _ .started) | .opening _ .started | .spawning => 1
  | _ => 0

/-- The starts of the call, behind it and before it. -/
def State.allStarts (s : State) : Nat :=
  s.loops.length + s.thread.starting + startsOf s.script

theorem startsOf_cons (action : Action) (rest : List Action) :
    startsOf (action :: rest) =
      if action.fails then 0 else (if action.starts then 1 else 0) + startsOf rest := by
  unfold startsOf
  rw [takeWhile_cons]
  cases action.fails with
  | true => simp
  | false =>
    simp only [Bool.not_false, if_true, countP_cons, Bool.false_eq_true, if_false]
    exact Nat.add_comm _ _

/-- What an action is counted for before it begins, it is counted for inside. -/
theorem beginNext_starting (s : State) (action : Action) (rest : List Action)
    (idle : s.thread = .idle) :
    (s.beginNext action rest).thread.starting + startsOf (s.beginNext action rest).script =
      startsOf (action :: rest) := by
  rw [startsOf_cons]
  cases action with
  | pause | resume => simp [State.beginNext, State.beginAction, Action.fails, Action.starts, idle,
      Thread.starting]
  | stop => simp [State.beginNext, State.beginAction, State.enterStop, Action.fails,
      Action.starts, Thread.starting]
  | start kind outcome | dtmf outcome =>
    cases outcome <;>
      simp [State.beginNext, State.beginAction, State.enterStop, Action.fails, Action.starts,
        idle, Thread.starting, startsOf]
  | echo opens =>
    cases opens <;>
      simp [State.beginNext, State.beginAction, State.enterStop, Action.fails, Action.starts,
        Thread.starting, startsOf]

theorem beginNext_loops (s : State) (action : Action) (rest : List Action) :
    (s.beginNext action rest).loops = s.loops := by
  cases action with
  | start kind outcome | dtmf outcome => cases outcome <;> rfl
  | _ => rfl

theorem allStarts_step {event s after} (stepped : step event s = some after) :
    after.allStarts ≤ s.allStarts := by
  cases step_stepped stepped with
  | @begin action rest idle script =>
    have inside := beginNext_starting s action rest idle
    have outside : s.thread.starting = 0 := by
      rw [idle]
      rfl
    simp only [State.allStarts, beginNext_loops, script, outside]
    omega
  | @close taken next closing =>
    cases next with
    | opens echoMode outcome =>
      cases outcome <;>
        simp [State.allStarts, State.close, State.continueWith, closing, Thread.starting]
    | _ => simp [State.allStarts, State.close, State.continueWith, closing, Thread.starting]
  | @opens echoMode outcome opening =>
    cases outcome <;> simp [State.allStarts, State.openStream, opening, Thread.starting]
  | spawn isSpawning => simp [State.allStarts, State.spawn, isSpawning, Thread.starting]
  | endSending sending => simp [State.allStarts, State.endSending, sending, Thread.starting]
  | stop finishing => simp [State.allStarts, State.enterStop, finishing, Thread.starting]
  | endCall idle => simp [State.allStarts, State.endCall, idle, Thread.starting]
  | finish => simp [State.allStarts, State.finishLoop]
  | loopStop => simp [State.allStarts, State.stopLoop]
  | loopClose => simp [State.allStarts, State.closeLoop, State.close]
  | count | countDtmf => exact Nat.le_refl _

theorem waitsForLoops_of_allStarts (one : s.allStarts ≤ 1) :
    WaitsForLoops event s := by
  intro _ echoMode opening phase found
  have none : s.loops.length = 0 := by
    simp only [State.allStarts, opening, Thread.starting] at one
    omega
  rw [eq_nil_of_length_eq_zero none] at found
  cases found

/-! ### The schedule that stops a later stream -/

/-- The goroutine of the call performs an action while no loop moves. -/
theorem performs (idle : s.thread = .idle)
    (script : s.script = action :: rest) (succeeds : action.fails = false) :
    ∃ events after, Run step s events after ∧ after.thread = .idle ∧ after.script = rest ∧
      after.loops = s.loops ++ (if action.starts then [.running] else []) ∧
      (action.starts → after.expected = some s.loops.length) := by
  obtain ⟨session, sockets, _, _, loops, expected⟩ := s
  cases idle
  cases script
  cases action with
  | pause | resume =>
    exact ⟨[.begin], _, .of_exec rfl, rfl, rfl, (append_nil _).symm, nofun⟩
  | stop =>
    exact ⟨[.begin, .proceed], _, .of_exec rfl, rfl, rfl, (append_nil _).symm, nofun⟩
  | start kind outcome =>
    cases outcome with
    | started =>
      -- Stop, close, the critical section of the start, and its loop.
      exact ⟨[.begin, .proceed, .proceed, .proceed], _, .of_exec rfl, rfl, rfl, rfl,
        fun _ => rfl⟩
    | _ => cases succeeds
  | echo opens =>
    cases opens with
    | true =>
      exact ⟨[.begin, .proceed, .proceed, .proceed], _, .of_exec rfl, rfl, rfl, rfl,
        fun _ => rfl⟩
    | false => cases succeeds
  | dtmf outcome =>
    cases outcome with
    | empty => exact ⟨[.begin], _, .of_exec rfl, rfl, rfl, (append_nil _).symm, nofun⟩
    | sent =>
      exact ⟨[.begin, .proceed, .proceed], _, .of_exec rfl, rfl, rfl,
        (append_nil _).symm, nofun⟩
    | _ => cases succeeds

/-- The goroutine of the call gets to the end of its next start while no loop moves. -/
theorem reaches_start (idle : s.thread = .idle)
    (isScript : s.script = script) (starts : 0 < startsOf script) :
    ∃ events after, Run step s events after ∧ after.thread = .idle ∧
      startsOf after.script + 1 = startsOf script ∧
      after.loops = s.loops ++ [.running] ∧ after.expected = some s.loops.length := by
  induction script generalizing s with
  | nil => cases starts
  | cons action rest ih =>
    have succeeds : action.fails = false := by
      cases failing : action.fails with
      | false => rfl
      | true =>
        rw [startsOf_cons, failing] at starts
        cases starts
    have counts := startsOf_cons action rest
    simp only [succeeds, Bool.false_eq_true, if_false] at counts
    obtain ⟨events, after, run, afterIdle, afterScript, loops, isExpected⟩ :=
      performs idle isScript succeeds
    cases starting : action.starts with
    | true =>
      simp only [starting, if_true] at counts loops
      refine ⟨events, after, run, afterIdle, ?_, loops, isExpected starting⟩
      rw [afterScript, counts, Nat.add_comm]
    | false =>
      simp only [starting, Bool.false_eq_true, if_false, Nat.zero_add, append_nil]
        at counts loops
      rw [counts] at starts
      obtain ⟨later, final, laterRun, finalIdle, finalScript, finalLoops, finalExpected⟩ :=
        ih afterIdle afterScript starts
      refine ⟨events ++ later, final, run.append laterRun, finalIdle, ?_, ?_, ?_⟩
      · rw [finalScript, counts]
      · rw [finalLoops, loops]
      · rw [finalExpected, loops]

/-- With two starts the first loop can return behind the second start, and its deferred
`Stop` then takes the second stream. -/
theorem stopped_of_two_starts (two : 2 ≤ startsOf script) :
    ∃ events s, Run step (.init script) events s ∧ ¬ s.Keeps := by
  have one : 0 < startsOf script := by omega
  have isScript : (State.init script).script = script := rfl
  obtain ⟨first, middle, firstRun, middleIdle, middleStarts, middleLoops, _⟩ :=
    reaches_start rfl isScript one
  have another : 0 < startsOf middle.script := by omega
  obtain ⟨second, last, secondRun, _, _, loops, isExpected⟩ :=
    reaches_start middleIdle rfl another
  rw [middleLoops] at loops isExpected
  have lastLoops : last.loops = [.running, .running] := loops
  have lastExpected : last.expected = some 1 := isExpected
  have finishes : step (.finish 0) last = some (last.finishLoop 0) := by
    simp [step, lastLoops]
  have stops : step (.loopStop 0) (last.finishLoop 0) =
      some ((last.finishLoop 0).stopLoop 0) := by
    simp [step, State.finishLoop, lastLoops]
  have still : ((last.finishLoop 0).stopLoop 0).expected = some 1 := by
    simp [State.stopLoop, State.finishLoop, lastExpected]
  refine ⟨first ++ second ++ [.finish 0, .loopStop 0], (last.finishLoop 0).stopLoop 0,
    (firstRun.append secondRun).append (.cons finishes (.cons stops (.nil _))), ?_⟩
  intro keeps
  cases (keeps 1 still).stream

/-- A started stream goes on until its own loop ends, a later action replaces it or the
call ends, in every schedule, exactly for the calls that start at most one stream. -/
theorem keeps_iff_one_start (script : List Action) :
    (∀ events s, Run step (.init script) events s → s.Keeps) ↔ startsOf script ≤ 1 := by
  constructor
  · intro always
    by_contra many
    have two : 2 ≤ startsOf script := by omega
    obtain ⟨events, s, run, stopped⟩ := stopped_of_two_starts two
    exact stopped (always events s run)
  · intro one events s run
    have start : (State.init script).allStarts ≤ 1 := by
      simpa [State.allStarts, State.init, Thread.starting] using one
    have guarded : Guarded step WaitsForLoops (.init script) events s :=
      run.guarded_of_invariant (fun s => s.allStarts ≤ 1) start
        (fun _ _ _ stepped before => Nat.le_trans (allStarts_step stepped) before)
        (fun _ _ before => waitsForLoops_of_allStarts before)
    exact keeps_of_settled_starts guarded

/-- The stream of an early answer is started again at the final one: the loop of the
first returns late, and the second is over although nothing ended it. -/
theorem restarted_stream_stopped :
    ∃ events s, Run step (.init [.start .stream .started, .start .stream .started]) events s ∧
      s.thread = .idle ∧ s.loops[1]? = some .running ∧ s.expected = some 1 ∧
      s.session.running = false ∧ 1 ∉ s.sockets ∧ ¬ s.Keeps :=
  ⟨[.begin, .proceed, .proceed, .proceed, .begin, .proceed, .proceed, .proceed,
      .finish 0, .loopStop 0, .loopClose 0], _, .of_isSome (by decide), by decide⟩

end Gossipper.Media
