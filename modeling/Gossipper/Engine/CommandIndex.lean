/-
Module: Gossipper.Engine.CommandIndex
Purpose: The index with which `executeCall` and `runInit` read the list of
  commands: every way in which it is computed, over whole runs, after
  `internal/engine/engine.go` and `internal/engine/init.go`.
Trusted boundary: what the world decides in one pass of the loop (variables,
  random draws, the end of a wait, the outcome of other actions) is given with the
  pass.
Main exports: resolveNext, resolveJumpTarget, applyActions, Loop, callStep, accepted_runs_in_bounds
-/
import Gossipper.Engine.Call
import Gossipper.Scenario.Parse

namespace Gossipper.Engine.CommandIndex

open Go Scenario Transition

/-- What `Get` of the variable store returns for a name. -/
abbrev Vars := Bytes → Bytes

/-! ### Conditions and jumps -/

section Conditions

variable [CaseTables]

/-- `variableTruthy`. -/
def variableTruthy (value : Bytes) : Bool :=
  let lowered := toLower (trimSpace value)
  !(lowered == [] || lowered == ascii "0" || lowered == ascii "false" || lowered == ascii "no")

variable {F : Type} [Float64 F]

/-- `shouldExecute`. -/
def shouldExecute (cmd : ParsedCommand F) (vars : Vars) : Bool :=
  if cmd.condExec = [] then true
  else if cmd.condExecInverse then !variableTruthy (vars cmd.condExec)
  else variableTruthy (vars cmd.condExec)

/-- `resolveNext`; `draw` is what `rnd.Float64` returns. -/
def resolveNext (index : Int) (cmd : ParsedCommand F) (vars : Vars) (draw : F) : Int :=
  let next := index + 1
  if cmd.nextIndex < 0 then next
  else if cmd.test ≠ [] ∧ variableTruthy (vars cmd.test) = false then next
  else if Float64.lt Float64.zero cmd.chance && Float64.lt cmd.chance Float64.one &&
      Float64.lt cmd.chance draw then next
  else cmd.nextIndex

end Conditions

/-- The errors of `resolveJumpTarget`. -/
inductive JumpError where
  | missing
  | invalid (target : Bytes)
deriving DecidableEq, Repr

/-- The text of a jump target: the value of the action, or else its variable. -/
def jumpText (action : Action) (vars : Vars) : Bytes :=
  let target := trimSpace action.value
  if target = [] ∧ trimSpace action.variable ≠ [] then trimSpace (vars action.variable)
  else target

/-- `resolveJumpTarget`. -/
def resolveJumpTarget (action : Action) (vars : Vars) : Except JumpError Int :=
  let target := jumpText action vars
  if target = [] then .error .missing
  else
    match atoi target with
    | (_, some _) => .error (.invalid target)
    | (value, none) => if value < 0 then .error (.invalid target) else .ok value

/-- Why `applyActions` returns early. -/
inductive ActionError where
  | stopCall
  | jump (cause : JumpError)
  | failed
deriving DecidableEq, Repr

/-- The store when an action starts, and how the action ends if it is not a jump. -/
structure ActionWorld where
  vars : Vars
  error : Option ActionError

/-- The loop of `applyActions`, with the jump found so far.  A jump does not end the
loop, and the last one counts. -/
def applyActions (world : Nat → ActionWorld) :
    Nat → Option Int → List Action → Except ActionError (Option Int)
  | _, jump, [] => .ok jump
  | n, jump, action :: rest =>
    if action.type = .jump then
      match resolveJumpTarget action (world n).vars with
      | .error cause => .error (.jump cause)
      | .ok target => applyActions world (n + 1) (some target) rest
    else
      match (world n).error with
      | some error => .error error
      | none => applyActions world (n + 1) jump rest

/-! ### The two loops -/

/-- How the wait of a `<recv>` or `<recvCmd>` ends. -/
inductive Wait where
  | received
  | unexpectedToMain
  | failed
deriving DecidableEq, Repr

/-- What the world decides in one pass of the loop.  `failed` says that rendering,
sending, sleeping or the media of the command returned an error, and
`destinationFailed` that `applySetDestination` did. -/
structure Pass (F : Type) where
  vars : Vars
  failed : Bool
  wait : Wait
  actions : Nat → ActionWorld
  destinationFailed : Bool
  nextVars : Vars
  draw : F

/-- Where the loop stands.  `outOfRange` is the panic of an indexing expression. -/
inductive Loop where
  | running (index : Int)
  | returned
  | outOfRange (index : Int)
deriving DecidableEq, Repr

/-- `commands[index]`; `none` when the index is out of range. -/
def readCommand {α : Type} (commands : List α) (index : Int) : Option α :=
  if 0 ≤ index then commands[index.toNat]? else none

section Loops

variable {F : Type}

/-- The error branch behind `waitForMatch`. -/
def waitFailed (part : Scenario.Part F) (pass : Pass F) (index : Int) (cmd : ParsedCommand F) :
    Loop :=
  match pass.wait, part.labels.lookup (ascii "_unexp.main") with
  | .unexpectedToMain, some unexpMainIndex => .running unexpMainIndex
  | _, _ => if cmd.optional then .running (index + 1) else .returned

/-- One pass of `for index := 0; index < len(commands);` with a given body. -/
def loopStep (commands : List (ParsedCommand F))
    (body : Pass F → Int → ParsedCommand F → Loop) (pass : Pass F) : Loop → Option Loop
  | .running index =>
    if index < commands.length then
      match readCommand commands index with
      | none => some (.outOfRange index)
      | some cmd => some (body pass index cmd)
    else some .returned
  | .returned | .outOfRange _ => none

variable [CaseTables] [Float64 F]

/-- The end of the loop body. -/
def goNext (pass : Pass F) (index : Int) (cmd : ParsedCommand F) : Loop :=
  .running (resolveNext index cmd pass.nextVars pass.draw)

/-- The actions of a command and what follows them. -/
def runActions (pass : Pass F) (index : Int) (cmd : ParsedCommand F) : Loop :=
  match applyActions pass.actions 0 none cmd.actions with
  | .error _ => .returned
  | .ok jump =>
    if pass.destinationFailed then .returned
    else
      match jump with
      | some target => .running target
      | none => goNext pass index cmd

/-- The body of the loop of `executeCall`. -/
def callBody (part : Scenario.Part F) (pass : Pass F) (index : Int) (cmd : ParsedCommand F) :
    Loop :=
  if shouldExecute cmd pass.vars = false then .running (index + 1)
  else
    match cmd.type with
    | .label => goNext pass index cmd
    | .nop => runActions pass index cmd
    | .pause | .timewait | .send | .sendCmd =>
      if pass.failed then .returned else goNext pass index cmd
    | .recv =>
      if pass.wait = .received then
        if pass.failed then .returned else runActions pass index cmd
      else waitFailed part pass index cmd
    | .recvCmd =>
      if pass.wait = .received then runActions pass index cmd
      else if cmd.optional then goNext pass index cmd
      else .returned

/-- The body of the loop of `runInit`.  There is no destination to set, and the
commands of SIP messages do nothing. -/
def initBody (pass : Pass F) (index : Int) (cmd : ParsedCommand F) : Loop :=
  if shouldExecute cmd pass.vars = false then .running (index + 1)
  else
    match cmd.type with
    | .nop | .label => runActions { pass with destinationFailed := false } index cmd
    | .sendCmd | .pause | .timewait =>
      if pass.failed then .returned else goNext pass index cmd
    | .recvCmd =>
      if pass.wait = .received then
        runActions { pass with destinationFailed := false } index cmd
      else if cmd.optional then goNext pass index cmd
      else .returned
    | .send | .recv => goNext pass index cmd

/-- The loop of `executeCall`. -/
def callStep (sc : ParsedScenario F) : Pass F → Loop → Option Loop :=
  loopStep sc.main.commands (callBody sc.main)

/-- The loop of `runInit`. -/
def initStep (sc : ParsedScenario F) : Pass F → Loop → Option Loop :=
  loopStep sc.init.commands initBody

end Loops

/-! ### The index stays in range -/

/-- No index was out of range, and the next one is not negative. -/
def Loop.InRange : Loop → Prop
  | .running index => 0 ≤ index
  | .returned => True
  | .outOfRange _ => False

theorem resolveJumpTarget_nonneg
    (resolved : resolveJumpTarget action vars = .ok target) : 0 ≤ target := by
  revert resolved
  fun_cases resolveJumpTarget action vars <;> rintro ⟨⟩
  omega

/-- The jump that the actions of a command lead to. -/
theorem applyActions_nonneg {world : Nat → ActionWorld} (earlier : ∀ target ∈ jump, 0 ≤ target)
    (ended : applyActions world n jump actions = .ok result) :
    ∀ target ∈ result, 0 ≤ target := by
  induction actions generalizing n jump with
  | nil =>
    cases ended
    exact earlier
  | cons action rest ih =>
    rw [applyActions] at ended
    split at ended
    · split at ended
      · cases ended
      · rename_i target resolved
        refine ih ?_ ended
        rintro _ ⟨⟩
        exact resolveJumpTarget_nonneg resolved
    · split at ended
      · cases ended
      · exact ih earlier ended

section InRange

variable {F : Type}

variable {cmd : ParsedCommand F} {index : Int} {pass : Pass F}

theorem waitFailed_inRange (started : 0 ≤ index) :
    (waitFailed part pass index cmd).InRange := by
  unfold waitFailed
  split
  · exact Int.natCast_nonneg _
  · split
    · exact Int.add_nonneg started (by decide)
    · trivial

theorem readCommand_of_lt {α : Type} {commands : List α} (started : 0 ≤ index)
    (tested : index < commands.length) : ∃ cmd, readCommand commands index = some cmd := by
  have inside : index.toNat < commands.length := by omega
  exact ⟨commands[index.toNat],
    by rw [readCommand, if_pos started, List.getElem?_eq_getElem inside]⟩

theorem loopStep_inRange {commands : List (ParsedCommand F)}
    {body : Pass F → Int → ParsedCommand F → Loop}
    (kept : ∀ pass index cmd, 0 ≤ index → (body pass index cmd).InRange)
    (pass : Pass F) (before after : Loop)
    (stepped : loopStep commands body pass before = some after) (inRange : before.InRange) :
    after.InRange := by
  cases before with
  | returned | outOfRange => cases stepped
  | running index =>
    simp only [loopStep] at stepped
    split at stepped
    · rename_i tested
      obtain ⟨cmd, read⟩ := readCommand_of_lt inRange tested
      rw [read] at stepped
      cases stepped
      exact kept pass index cmd inRange
    · cases stepped
      trivial

theorem loop_inRange {body : Pass F → Int → ParsedCommand F → Loop}
    (kept : ∀ pass index cmd, 0 ≤ index → (body pass index cmd).InRange)
    (run : Run (loopStep commands body) (.running 0) passes final) : final.InRange :=
  run.invariant (Int.le_refl 0) (loopStep_inRange kept)

variable [CaseTables] [Float64 F]

section

variable (started : 0 ≤ index)

include started

theorem resolveNext_nonneg : 0 ≤ resolveNext index cmd vars draw := by
  unfold resolveNext
  dsimp only
  split
  · omega
  · split
    · omega
    · split <;> omega

theorem goNext_inRange : (goNext pass index cmd).InRange :=
  resolveNext_nonneg started

theorem runActions_inRange : (runActions pass index cmd).InRange := by
  unfold runActions
  split
  · trivial
  · rename_i jump ended
    split
    · trivial
    · split
      · exact applyActions_nonneg (by simp) ended _ rfl
      · exact goNext_inRange started

theorem callBody_inRange : (callBody part pass index cmd).InRange := by
  fun_cases callBody part pass index cmd
  case case1 => exact Int.add_nonneg started (by decide)
  case case3 | case13 | case15 => exact runActions_inRange started
  case case14 => exact waitFailed_inRange started
  case case4 | case6 | case8 | case10 | case12 | case17 => trivial
  all_goals exact goNext_inRange started

theorem initBody_inRange : (initBody pass index cmd).InRange := by
  fun_cases initBody pass index cmd
  case case1 => exact Int.add_nonneg started (by decide)
  case case2 | case3 | case10 => exact runActions_inRange started
  case case4 | case6 | case8 | case12 => trivial
  all_goals exact goNext_inRange started

end

end InRange

/-! ### Accepted documents -/

section Accepted

variable [CaseTables] {F : Type} [Float64 F]

/-- A document that `ParseString` accepts: each command has its position as index,
its next index is -1 when the `next` attribute of its element is absent or blank and
otherwise the position of a label with that id, and the loops of `executeCall` and
`runInit` never read outside the list of commands. -/
theorem accepted_runs_in_bounds (compile : Bytes → Option (Bytes → Bool))
    (decode : Bytes → Option RawScenario) (data : Bytes) (raw : RawScenario)
    (sc : ParsedScenario F) (decoded : decode data = some raw)
    (accepted : parseString compile decode data = .ok sc) :
    Placed (RawScenario.mainElements raw.elements) sc.main ∧
      Placed (RawScenario.initElements raw.elements) sc.init ∧
      (∀ passes final, Run (callStep sc) (.running 0) passes final → final.InRange) ∧
      (∀ passes final, Run (initStep sc) (.running 0) passes final → final.InRange) := by
  rw [parseString, decoded] at accepted
  obtain ⟨main, init⟩ := parseRaw_placed compile accepted
  refine ⟨main, init, fun passes final run => ?_, fun passes final run => ?_⟩
  · exact loop_inRange (fun _ _ _ started => callBody_inRange started) run
  · exact loop_inRange (fun _ _ _ started => initBody_inRange started) run

end Accepted

section Examples

attribute [local instance] CaseTables.asciiOnly

/-- Whole numbers in place of `float64`, enough for documents without fractions. -/
@[reducible] def wholeNumbers : Float64 Int where
  zero := 0
  one := 1
  lt x y := decide (x < y)
  eq x y := decide (x = y)
  parseFloat s := match atoi s with
    | (value, none) => some value
    | (_, some _) => none
  milliseconds x := x * millisecond

attribute [local instance] wholeNumbers

/-- A loop over a label that is there twice, and an init section with a jump. -/
def loopDocument : RawScenario where
  name := []
  webRTC := []
  elements :=
    [{ name := ascii "init"
       elements :=
        [{ name := ascii "nop"
           actions := [[{ name := ascii "jump", value := ascii "7" }]] }] },
     { name := ascii "label", id := ascii "a" },
     { name := ascii "recv", request := ascii "INVITE", optional := ascii "true" },
     { name := ascii "label", id := ascii " a " },
     { name := ascii "nop", next := ascii "a", chance := ascii "1" }]

/-- A command whose `next` attribute holds a blank. -/
def blankDocument : RawScenario where
  name := []
  webRTC := []
  elements := [{ name := ascii "nop", next := ascii " " }]

/-- The document is accepted; its last command goes back to the second label. -/
theorem loopDocument_in_bounds :
    ∃ sc : ParsedScenario Int,
      parseString (fun _ => none) (fun _ => some loopDocument) [] = .ok sc ∧
      sc.main.commands.map (·.nextIndex) = [-1, -1, -1, 2] ∧
      Placed (RawScenario.mainElements loopDocument.elements) sc.main ∧
      (∀ passes final, Run (callStep sc) (.running 0) passes final → final.InRange) := by
  obtain ⟨sc, accepted, positions⟩ :
      ∃ sc : ParsedScenario Int,
        parseString (fun _ => none) (fun _ => some loopDocument) [] = .ok sc ∧
        sc.main.commands.map (·.nextIndex) = [-1, -1, -1, 2] := ⟨_, rfl, by decide⟩
  obtain ⟨main, _, call, _⟩ := accepted_runs_in_bounds (fun _ => none) (fun _ => some loopDocument)
    [] loopDocument sc rfl accepted
  exact ⟨sc, accepted, positions, main, call⟩

/-- A blank `next` attribute is there, but the command has no next index. -/
theorem blank_next_attribute :
    ∃ sc : ParsedScenario Int,
      parseString (fun _ => none) (fun _ => some blankDocument) [] = .ok sc ∧
      (RawScenario.mainElements blankDocument.elements).map (·.next) = [ascii " "] ∧
      sc.main.commands.map (·.nextIndex) = [-1] :=
  ⟨_, rfl, by decide, by decide⟩

end Examples

end Gossipper.Engine.CommandIndex
