/-
Module: Gossipper.Engine.Branches
Purpose: The `[branch]` of every message that the client calls of a process send, over
  whole runs of any number of engines and calls, after `executeCall`, `resolveNext` and
  `randomBranch` of `internal/engine/engine.go`.
Trusted boundary: what the world decides in one pass of the loop of a call is given with the
  pass, as for the index of the loop
Main exports: randomBranch, State, step, Separate, FirstTime, branches_separate_iff
-/
import Gossipper.Engine.CommandIndex
import Gossipper.Template.Resolve

namespace Gossipper.Engine.Branches

open Go Scenario Transition Sip CommandIndex List Option

/-- `randomBranch`. -/
def randomBranch (callNumber messageIndex : Int) : Bytes :=
  ascii "z9hG4bK-gossip-" ++ (itoa callNumber ++ (ascii "-" ++ itoa messageIndex))

/-! ### Engines and calls -/

/-- A scenario that `ParseString` accepted. -/
structure Accepted (F : Type) [CaseTables] [Float64 F] where
  compile : Bytes → Option (Bytes → Bool)
  raw : RawScenario
  scenario : ParsedScenario F
  accepted : parseRaw compile raw = .ok scenario

/-- An engine in client mode with the loops of its calls; call `i` of the list has the
number `i + 1`. -/
structure Client (F : Type) [CaseTables] [Float64 F] where
  source : Accepted F
  calls : List Loop

/-- An execution of a send step, with the `BranchBase` of its context. -/
structure Execution where
  engine : Nat
  call : Nat
  position : Nat
  branchBase : Bytes
deriving DecidableEq

/-- The engines of a process, and the send steps executed so far. -/
structure State (F : Type) [CaseTables] [Float64 F] where
  engines : List (Client F)
  executions : List Execution

section System

variable {F : Type} [CaseTables] [Float64 F]

/-- A process that has not started an engine. -/
def State.initial : State F := ⟨[], []⟩

/-- What can happen.  A process can start an engine at any time: for its own run, for a
joined client or for a client added through the API.  `rendered` says that the message of
a send step was rendered. -/
inductive Event (F : Type) [CaseTables] [Float64 F] where
  | start (source : Accepted F)
  | spawn (engine : Nat)
  | pass (engine call : Nat) (world : Pass F) (rendered : Bool)

/-- The send command that a pass of the loop executes, with its position. -/
def sendAt (sc : ParsedScenario F) (world : Pass F) : Loop → Option (Nat × ParsedCommand F)
  | .running index =>
    match readCommand sc.main.commands index with
    | some cmd =>
      if shouldExecute cmd world.vars = true ∧ cmd.type = .send then some (index.toNat, cmd)
      else none
    | none => none
  | .returned | .outOfRange _ => none

/-- The executions that a pass adds. -/
def executed (engine call : Nat) (send : Option (Nat × ParsedCommand F)) (rendered : Bool) :
    List Execution :=
  match send, rendered with
  | some (position, cmd), true =>
    [⟨engine, call, position, randomBranch (call + 1 : Nat) cmd.index⟩]
  | _, _ => []

/-- One event; `none` means that it cannot happen. -/
def step : Event F → State F → Option (State F)
  | .start source, s => some { s with engines := s.engines ++ [⟨source, []⟩] }
  | .spawn engine, s =>
    (s.engines[engine]?).map fun client =>
      let client := { client with calls := client.calls ++ [.running 0] }
      { s with engines := s.engines.set engine client }
  | .pass engine call world rendered, s =>
    (s.engines[engine]?).bind fun client =>
    (client.calls[call]?).bind fun loop =>
    let send := sendAt client.source.scenario world loop
    -- an error of the rendering ends the call
    if send.isSome ∧ rendered = false ∧ world.failed = false then none
    else
      (callStep client.source.scenario world loop).map fun next =>
        let client := { client with calls := client.calls.set call next }
        { engines := s.engines.set engine client
          executions := s.executions ++ executed engine call send rendered }

/-! ### What the branches are for -/

/-- What `[branch]` renders to in the context of an execution. -/
def Execution.rendered (env : Template.Environment) (c : Template.Context) (x : Execution) :
    Except Template.TokenError (Bytes × Bool) :=
  Template.resolveTokenStrict env { c with branchBase := x.branchBase } (ascii "[branch]")

/-- Two executions render different branches, whatever else their contexts hold, and a
response with the branch of one does not match the transaction of the other. -/
def Separate (x y : Execution) : Prop :=
  (∀ env env' c c', x.rendered env c ≠ y.rendered env' c') ∧
  ∀ (msg : Sip.Message) (method : Bytes),
    (viaBranch msg.headers = some x.branchBase →
      responseMatchesCached msg y.branchBase method = false) ∧
    (viaBranch msg.headers = some y.branchBase →
      responseMatchesCached msg x.branchBase method = false)

/-- A send step is executed for the first time under the number of its call: neither has the
call executed it before, nor has the call with the same number of another engine. -/
def FirstTime : Event F → State F → Prop
  | .pass engine call world true, s =>
    ∀ client ∈ s.engines[engine]?, ∀ loop ∈ client.calls[call]?,
    ∀ send ∈ sendAt client.source.scenario world loop,
      ∀ x ∈ s.executions, ¬ (x.call = call ∧ x.position = send.1)
  | _, _ => True

/-! ### Rendering -/

theorem toLower_branch : toLower (ascii "branch") = ascii "branch" := by
  have small : ∀ b ∈ ascii "branch", b.toNat < 0x80 := by decide +kernel
  have lowered := toLower_ascii_append small []
  rw [append_nil, show toLower [] = [] from rfl, append_nil] at lowered
  rw [lowered]
  decide

open Template

theorem Execution.rendered_eq (env : Template.Environment) (c : Template.Context)
    (x : Execution) : x.rendered env c = .ok (x.branchBase, false) := by
  have key : tokenKey (ascii "[branch]") = ascii "branch" := by decide
  have plain : parseArithmetic (ascii "branch") = (ascii "branch", 0) := by decide
  have noFile : hasPrefix (ascii "branch") (ascii "file ") = false := by decide
  have noField : hasPrefix (ascii "branch") (ascii "field") = false := by decide
  have noFill : hasPrefix (ascii "branch") (ascii "fill") = false := by decide
  have noLast : hasPrefix (ascii "branch") (ascii "last_") = false := by decide
  rw [rendered, resolveTokenStrict]
  simp only [key, plain, toLower_branch, noFile, noField, noFill, noLast, Bool.false_eq_true,
    if_false]
  rfl

/-- The digits and the hyphen of a branch fold to themselves. -/
theorem foldKey_randomBranch (n m : Nat) :
    foldKey (randomBranch n m) =
      (ascii "z9hG4bK-gossip-").map (fun b => asciiLower b.toNat) ++
        (decimal n ++ 0x2D :: decimal m).map UInt8.toNat := by
  have low : ∀ b ∈ decimal n ++ 0x2D :: decimal m, b.toNat ≤ 0x39 := by
    intro b member
    rw [mem_append, mem_cons] at member
    obtain digit | rfl | digit := member
    · exact (decimal_digit digit).2
    · decide
    · exact (decimal_digit digit).2
  have text : randomBranch n m = ascii "z9hG4bK-gossip-" ++ (decimal n ++ 0x2D :: decimal m) := by
    rw [randomBranch, itoa_natCast, itoa_natCast]
    rfl
  have small : ((randomBranch n m).all (·.toNat < 0x80)) = true := by
    rw [text, all_append, Bool.and_eq_true]
    refine ⟨by decide, List.all_eq_true.mpr fun b member => decide_eq_true ?_⟩
    exact Nat.lt_of_le_of_lt (low b member) (by decide)
  have letters : (decimal n ++ 0x2D :: decimal m).map (fun b => asciiLower b.toNat) =
      (decimal n ++ 0x2D :: decimal m).map UInt8.toNat := by
    refine map_congr_left fun b member => ?_
    have bound := low b member
    simp only [asciiLower, Rune] at bound ⊢
    rw [if_neg (by omega)]
  rw [foldKey_of_ascii small, text, map_append, letters]

theorem equalFold_randomBranch {n m k l : Nat}
    (same : equalFold (randomBranch n m) (randomBranch k l) = true) : n = k ∧ m = l := by
  have hyphen (number : Nat) : (0x2D : UInt8) ∉ decimal number := by
    intro member
    exact absurd (decimal_digit member).1 (by decide)
  rw [equalFold_iff, foldKey_randomBranch, foldKey_randomBranch, append_cancel_left_eq] at same
  have text := map_injective_iff.mpr (fun a b => UInt8.toNat_inj.mp) same
  rw [append_cons_inj_of_notMem (hyphen n) (hyphen m)] at text
  exact ⟨decimal_injective text.1, decimal_injective text.2.2⟩

/-! ### One event -/

/-- Every recorded branch is made of the number of the call and the position of the step. -/
def Recorded (s : State F) : Prop :=
  ∀ x ∈ s.executions, x.branchBase = randomBranch (x.call + 1 : Nat) (x.position : Nat)

theorem response_mismatch
    (unlike : equalFold (randomBranch n m) branch = false) (msg : Sip.Message) (method : Bytes)
    (carried : viaBranch msg.headers = some branch) :
    responseMatchesCached msg (randomBranch n m) method = false := by
  have nonempty : randomBranch n m ≠ [] := cons_ne_nil _ _
  rw [responseMatchesCached, if_neg nonempty]
  simp [carried, unlike, Bool.not_false]

theorem separate_iff {x y : Execution}
    (first : x.branchBase = randomBranch (x.call + 1 : Nat) (x.position : Nat))
    (second : y.branchBase = randomBranch (y.call + 1 : Nat) (y.position : Nat)) :
    Separate x y ↔ ¬ (x.call = y.call ∧ x.position = y.position) := by
  constructor
  · rintro ⟨different, -⟩ ⟨sameCall, samePosition⟩
    apply different noFiles noFiles Template.Context.zero Template.Context.zero
    rw [x.rendered_eq, y.rendered_eq, first, second, sameCall, samePosition]
  · intro different
    have unlike : equalFold x.branchBase y.branchBase = false := by
      rw [Bool.eq_false_iff, first, second]
      intro same
      obtain ⟨calls, positions⟩ := equalFold_randomBranch same
      exact different ⟨Nat.succ_injective calls, positions⟩
    have unlikeBack : equalFold y.branchBase x.branchBase = false := by
      rw [Bool.eq_false_iff, Ne, equalFold_iff] at unlike ⊢
      exact fun same => unlike same.symm
    refine ⟨fun env env' c c' => ?_, fun msg method => ⟨fun branch => ?_, fun branch => ?_⟩⟩
    · rw [x.rendered_eq, y.rendered_eq]
      intro same
      injection same with same
      rw [(Prod.mk.inj same).1, equalFold_refl] at unlike
      cases unlike
    · rw [second] at unlikeBack ⊢
      exact response_mismatch unlikeBack msg method branch
    · rw [first] at unlike ⊢
      exact response_mismatch unlike msg method branch

/-- The send command of a pass stands at its own index. -/
theorem sendAt_index {source : Accepted F} {world : Pass F} {loop : Loop}
    {send : Nat × ParsedCommand F} (sends : sendAt source.scenario world loop = some send) :
    send.2.index = send.1 := by
  cases loop with
  | returned | outOfRange index => cases sends
  | running index =>
    simp only [sendAt] at sends
    split at sends
    · rename_i cmd read
      obtain ⟨_, ⟨⟩⟩ := of_guard sends
      unfold readCommand at read
      obtain ⟨_, read⟩ := of_guard read
      exact (parseRaw_placed source.compile source.accepted).1.index _ _ read
    · cases sends

/-- An event leaves the executions as they are, or it executes one send step. -/
theorem step_executions {event : Event F} {s next : State F} (stepped : step event s = some next) :
    (next.executions = s.executions ∧ FirstTime event s) ∨
    ∃ engine call position,
      next.executions = s.executions ++
        [⟨engine, call, position, randomBranch (call + 1 : Nat) (position : Nat)⟩] ∧
      (FirstTime event s ↔ ∀ x ∈ s.executions, ¬ (x.call = call ∧ x.position = position)) := by
  cases event with
  | start source =>
    cases stepped
    exact .inl ⟨rfl, trivial⟩
  | spawn engine =>
    obtain ⟨client, -, rfl⟩ := map_eq_some_iff.mp stepped
    exact .inl ⟨rfl, trivial⟩
  | pass engine call world rendered =>
    obtain ⟨client, isClient, stepped⟩ := bind_eq_some_iff.mp stepped
    obtain ⟨loop, isLoop, stepped⟩ := bind_eq_some_iff.mp stepped
    dsimp only at stepped
    split at stepped
    · cases stepped
    obtain ⟨after, -, rfl⟩ := map_eq_some_iff.mp stepped
    cases rendered with
    | false =>
      refine .inl ⟨?_, trivial⟩
      simp [executed]
    | true =>
      cases sends : sendAt client.source.scenario world loop with
      | none =>
        refine .inl ⟨by simp [executed], ?_⟩
        simp [FirstTime, isClient, isLoop, sends]
      | some send =>
        refine .inr ⟨engine, call, send.1, ?_, ?_⟩
        · simp [executed, sendAt_index sends]
        · simp only [FirstTime, isClient, isLoop, sends, mem_def, Option.some.injEq,
            forall_eq']

/-- What one event does to the branches: they stay separate exactly if a send step is
executed for the first time. -/
theorem step_separate {event : Event F} {s next : State F} (stepped : step event s = some next)
    (recorded : Recorded s) :
    Recorded next ∧ (next.executions.Pairwise Separate ↔
      s.executions.Pairwise Separate ∧ FirstTime event s) := by
  obtain ⟨same, first⟩ | ⟨engine, call, position, added, first⟩ := step_executions stepped
  · rw [Recorded, same]
    exact ⟨recorded, by simp [first]⟩
  · rw [Recorded, added, first, pairwise_append]
    constructor
    · intro x member
      obtain before | new := mem_append.mp member
      · exact recorded x before
      · rw [mem_singleton.mp new]
    · have each : (∀ x ∈ s.executions, ∀ y ∈ [(⟨engine, call, position,
            randomBranch (call + 1 : Nat) (position : Nat)⟩ : Execution)], Separate x y) ↔
          ∀ x ∈ s.executions, ¬ (x.call = call ∧ x.position = position) := by
        refine forall₂_congr fun x member => ?_
        rw [forall_mem_singleton]
        exact separate_iff (recorded x member) rfl
      rw [each]
      simp

/-! ### Whole runs -/

theorem run_separate {events : List (Event F)} {s final : State F} (run : Run step s events final)
    (recorded : Recorded s) :
    final.executions.Pairwise Separate ↔
      s.executions.Pairwise Separate ∧ Guarded step FirstTime s events final := by
  induction run with
  | nil => exact ⟨fun separate => ⟨separate, .nil _⟩, fun both => both.1⟩
  | cons stepped rest ih =>
    obtain ⟨kept, separate⟩ := step_separate stepped recorded
    rw [ih kept, separate, and_assoc]
    refine and_congr_right fun _ => ⟨fun both => .cons both.1 stepped both.2, fun guarded => ?_⟩
    cases guarded with
    | cons first again onward =>
      rw [stepped] at again
      cases again
      exact ⟨first, onward⟩

/-- In every run of a process: the branches of all executed send steps are separate exactly
if no send step is executed a second time by a call, or by two calls that have the same
number in two engines. -/
theorem branches_separate_iff {events : List (Event F)} {final : State F}
    (run : Run step State.initial events final) :
    final.executions.Pairwise Separate ↔ Guarded step FirstTime State.initial events final := by
  rw [run_separate run (by intro x member; cases member)]
  exact and_iff_right .nil

end System

/-! ### Two runs -/

section Concrete

attribute [local instance] CaseTables.asciiOnly wholeNumbers

/-- A send step between a label and a command that goes back to it. -/
def loopDocument : RawScenario where
  name := []
  webRTC := []
  elements :=
    [{ name := ascii "label", id := ascii "again" },
     { name := ascii "send", text := ascii "REGISTER sip:x SIP/2.0" },
     { name := ascii "nop", next := ascii "again" }]

def loopScenario : Accepted Int where
  compile _ := none
  raw := loopDocument
  scenario := _
  accepted := rfl

/-- A pass in which nothing fails. -/
def quiet : Pass Int where
  vars _ := []
  failed := false
  wait := .received
  actions _ := ⟨fun _ => [], none⟩
  destinationFailed := false
  nextVars _ := []
  draw := 0

/-- Two calls, each of which executes the send step once. -/
theorem two_calls_separate :
    ∃ final : State Int,
      Run step State.initial [.start loopScenario, .spawn 0, .spawn 0, .pass 0 0 quiet false,
        .pass 0 1 quiet false, .pass 0 0 quiet true, .pass 0 1 quiet true] final ∧
      final.executions.length = 2 ∧ final.executions.Pairwise Separate := by
  have guarded : ∃ final : State Int,
      Guarded step FirstTime State.initial [.start loopScenario, .spawn 0, .spawn 0,
        .pass 0 0 quiet false, .pass 0 1 quiet false, .pass 0 0 quiet true,
        .pass 0 1 quiet true] final ∧ final.executions.length = 2 := by
    refine ⟨_, .cons trivial rfl <| .cons trivial rfl <| .cons trivial rfl <| .cons trivial rfl <|
      .cons trivial rfl <| .cons ?_ rfl <| .cons ?_ rfl <| .nil _, rfl⟩
    · unfold FirstTime
      decide
    · unfold FirstTime
      decide
  obtain ⟨final, guarded, two⟩ := guarded
  exact ⟨final, guarded.run, two, (branches_separate_iff guarded.run).mpr guarded⟩

/-- One call that goes back to its send step: both requests have the same branch. -/
theorem loop_repeats_branch :
    ∃ final : State Int,
      Run step State.initial [.start loopScenario, .spawn 0, .pass 0 0 quiet false,
        .pass 0 0 quiet true, .pass 0 0 quiet false, .pass 0 0 quiet false, .pass 0 0 quiet true]
        final ∧
      final.executions.map (·.branchBase) =
        [ascii "z9hG4bK-gossip-1-1", ascii "z9hG4bK-gossip-1-1"] ∧
      ¬ final.executions.Pairwise Separate := by
  refine ⟨_, Run.of_exec rfl, by decide, ?_⟩
  intro separate
  have both := pairwise_pair.mp separate
  exact both.1 Template.noFiles Template.noFiles Template.Context.zero Template.Context.zero rfl

end Concrete

end Gossipper.Engine.Branches
